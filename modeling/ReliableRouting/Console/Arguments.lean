import ReliableRouting.Decimal.Numeral

/-!
# Arguments of the command line

The command takes three operands, the file of the snapshot and the identifiers of the two
ends, and options in between. An option with a value takes it after an equals sign or from
the next argument, which then must not begin with a dash. After two dashes alone, all
arguments are operands. Arguments are read from left to right, and the first that is out of
place, or asks for the version or for help, settles the matter.
-/

namespace ReliableRouting.Console

/-- The options that have a value. -/
inductive ValueOption
  | request
  | maxPaths
  | packetLoss
  | latency
  | bandwidth
deriving Repr, DecidableEq

/-- The options without a value. -/
inductive Flag
  | mmWave
  | hopCount
  | asymmetric
  | plan
  | json
deriving Repr, DecidableEq

/-- What the options set. -/
structure Settings where
  request : Option String := none
  maxPaths : Option Nat := none
  packetLoss : Option Float := none
  latency : Option Float := none
  bandwidth : Option Float := none
  flags : List Flag := []

/-- A command that is complete. -/
structure Command where
  topology : String
  src : String
  dst : String
  settings : Settings

/-- Why no command is read. -/
inductive Interruption
  | misuse
  | version
  | help
deriving Repr, DecidableEq

/-- Arguments read so far, operands in their order. -/
structure Parsing where
  operands : List String := []
  settings : Settings := {}
  /-- The option whose value comes next. -/
  pending : Option ValueOption := none
  /-- Only operands may follow. -/
  operandsOnly : Bool := false

/-! ### Options -/

/-- The option of a name. -/
def valueOption? (name : String) : Option ValueOption :=
  match name with
  | "request" => some .request
  | "max-paths" => some .maxPaths
  | "packet-loss" => some .packetLoss
  | "latency" => some .latency
  | "bandwidth" => some .bandwidth
  | _ => none

/-- The flag of a name. -/
def flag? (name : String) : Option Flag :=
  match name with
  | "mmwave" => some .mmWave
  | "hop-count" => some .hopCount
  | "asymmetric" => some .asymmetric
  | "plan" => some .plan
  | "json" => some .json
  | _ => none

/-- Fills a setting that is still open with a value that can be read. -/
def fill? {α : Type} (current value : Option α) : Option (Option α) :=
  match current, value with
  | none, some a => some (some a)
  | _, _ => none

/-- Gives a value to an option that has none yet. -/
def Settings.give? (s : Settings) (option : ValueOption) (value : String) : Option Settings :=
  let number? := Decimal.readFloat? value.toList
  match option with
  | .request => (fill? s.request (some value)).map fun x => { s with request := x }
  | .maxPaths =>
    (fill? s.maxPaths (Decimal.readNat? Decimal.wordBound value.toList)).map fun x =>
      { s with maxPaths := x }
  | .packetLoss => (fill? s.packetLoss number?).map fun x => { s with packetLoss := x }
  | .latency => (fill? s.latency number?).map fun x => { s with latency := x }
  | .bandwidth => (fill? s.bandwidth number?).map fun x => { s with bandwidth := x }

/-- Raises a flag that is not raised yet. -/
def Settings.raise? (s : Settings) (flag : Flag) : Option Settings :=
  if flag ∈ s.flags then none else some { s with flags := flag :: s.flags }

/-! ### Arguments -/

/-- A setting that can be made, or else misuse. -/
def orMisuse {α : Type} : Option α → Except Interruption α
  | some a => .ok a
  | none => .error .misuse

/-- Reads an operand, of which there are three. -/
def Parsing.operand (p : Parsing) (arg : String) : Except Interruption Parsing :=
  if p.operands.length < 3 then .ok { p with operands := p.operands ++ [arg] }
  else .error .misuse

/-- Reads an option by its name, and its value if one is attached. -/
def Parsing.option (p : Parsing) (name : String) (value : Option String) :
    Except Interruption Parsing :=
  match valueOption? name, flag? name, value with
  | some option, _, some value =>
    (orMisuse (p.settings.give? option value)).map fun s => { p with settings := s }
  | some option, _, none => .ok { p with pending := some option }
  | none, some flag, none =>
    (orMisuse (p.settings.raise? flag)).map fun s => { p with settings := s }
  | none, none, none =>
    .error (if name = "version" then .version else if name = "help" then .help else .misuse)
  | none, _, some _ => .error .misuse

/-- The name and the attached value of an option. -/
def splitOption (cs : List Char) : String × Option String :=
  match cs.span (· ≠ '=') with
  | (name, _ :: value) => (String.ofList name, some (String.ofList value))
  | (name, []) => (String.ofList name, none)

/-- Reads letters after a single dash, of which the first one decides. -/
def letters : List Char → Interruption
  | 'V' :: _ => .version
  | 'h' :: _ => .help
  | _ => .misuse

/-- Reads an argument that is no option: a value that is due, or an operand. -/
def Parsing.plain (p : Parsing) (arg : String) : Except Interruption Parsing :=
  match p.pending with
  | some option =>
    (orMisuse (p.settings.give? option arg)).map fun s =>
      { p with settings := s, pending := none }
  | none => p.operand arg

/-- Reads an argument that begins with a dash and goes on. No value may be due. -/
def Parsing.dashed (p : Parsing) (cs : List Char) : Except Interruption Parsing :=
  if p.pending.isSome then
    .error .misuse
  else
    match cs with
    | ['-'] => .ok { p with operandsOnly := true }
    | '-' :: rest =>
      let (name, value) := splitOption rest
      p.option name value
    | rest => .error (letters rest)

/-- Reads one more argument. -/
def Parsing.step (p : Parsing) (arg : String) : Except Interruption Parsing :=
  if p.operandsOnly then
    p.operand arg
  else
    match arg.toList with
    | '-' :: c :: rest => p.dashed (c :: rest)
    | _ => p.plain arg

/-- The command that has been read. -/
def Parsing.finish (p : Parsing) : Except Interruption Command :=
  let conflict := decide (Flag.mmWave ∈ p.settings.flags ∧ Flag.hopCount ∈ p.settings.flags)
  match p.operands, p.pending, conflict with
  | [topology, src, dst], none, false => .ok ⟨topology, src, dst, p.settings⟩
  | _, _, _ => .error .misuse

/-- Reads the arguments. -/
def Command.ofArguments (args : List String) : Except Interruption Command := do
  (← args.foldlM Parsing.step {}).finish

end ReliableRouting.Console
