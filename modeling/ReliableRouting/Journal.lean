/-!
# The journal

What happens on the way to an answer is told in journal entries: links that are passed
over, routes that are turned down, outcomes. The functions of this library have no effects;
those worth an entry have a companion that lists the entries.
-/

namespace ReliableRouting

/-- How grave an entry is. -/
inductive Level
  | error
  | warn
  | info
  | debug
deriving Repr, DecidableEq

/-- The name of a level. -/
def Level.text : Level → String
  | .error => "ERROR"
  | .warn => "WARN"
  | .info => "INFO"
  | .debug => "DEBUG"

/-- An entry of the journal. -/
structure Entry where
  level : Level
  message : String
deriving Repr, DecidableEq

/-- Entries in the order of what they tell. -/
abbrev Journal := List Entry

/-- The line of an entry. -/
def Entry.line (e : Entry) : String :=
  e.level.text ++ " " ++ e.message

/-- The distinct lines of a journal in the order of their code points. -/
def Journal.digest (j : Journal) : List String :=
  ((j.map Entry.line).mergeSort fun a b => decide (a ≤ b)).eraseDups

end ReliableRouting
