import ReliableRouting.Fault
import ReliableRouting.Text.Blank

/-!
# Path loss

How much of a signal is lost on its way, in decibels. Two of the laws fit measurements at a
carrier frequency by an intercept and an exponent; the third is a law for urban cells, whose
intercept and exponent serve the blockage terms only.
-/

namespace ReliableRouting

/-- A path-loss law. -/
inductive PathLossLaw
  | mmWave28GHz
  | mmWave73GHz
  | threeGpp
deriving Repr, DecidableEq

namespace PathLossLaw

/-- Reads the name of a law, in any case and with blanks around it perhaps. -/
def ofText (text : String) : Except InputFault PathLossLaw :=
  match String.ofList ((Text.trim text.toList).map Char.toLower) with
  | "28" => .ok .mmWave28GHz
  | "28ghz" => .ok .mmWave28GHz
  | "73" => .ok .mmWave73GHz
  | "73ghz" => .ok .mmWave73GHz
  | "3gpp" => .ok .threeGpp
  | _ => .error (.unknownPropagationModel text)

/-- The loss over one metre in decibels. -/
def intercept : PathLossLaw → Float
  | .mmWave28GHz => 72.0
  | .mmWave73GHz => 86.6
  | .threeGpp => 70.0

/-- The propagation exponent. -/
def exponent : PathLossLaw → Float
  | .mmWave28GHz => 2.92
  | .mmWave73GHz => 2.45
  | .threeGpp => 3.67

/-- The carrier frequency of the law for urban cells, in gigahertz. -/
def urbanCarrier : Float := 2.5

/-- The loss over a length in metres, in decibels. -/
def loss (p : PathLossLaw) (length : Float) : Float :=
  match p with
  | .threeGpp => 22.7 + 36.7 * Float.log10 length + 26.0 * Float.log10 urbanCarrier
  | _ => p.intercept + 10.0 * p.exponent * Float.log10 length

end PathLossLaw

end ReliableRouting
