import ReliableRouting.Console.Session

/-!
# The command

Reads the files that the arguments name, carries out the session and prints its outcome.
-/

namespace ReliableRouting.Console

/-- The content of a file, if it can be read. -/
def readFile (name : String) : IO FileContent := do
  try
    return some (← IO.FS.readBinFile name)
  catch _ =>
    return none

end ReliableRouting.Console

open ReliableRouting.Console in
/-- The command line. -/
def main (args : List String) : IO UInt32 := do
  let contents ← (filesNamed args).mapM fun name => return (name, ← readFile name)
  let outcome := session (fun name => (contents.lookup name).join) args
  IO.print outcome.output
  if let some message := outcome.failure then
    IO.eprintln ("Error: " ++ message)
  if outcome.exit = 2 then
    IO.eprint usage
  return UInt32.ofNat outcome.exit
