import ReliableRouting.Decimal.Numeral
import ReliableRouting.Decimal.Layout

/-!
# JSON values

A number keeps the literal it is written with, so that nothing is lost between reading and
writing. Objects keep their fields in order, repeated ones too. A text whose escapes leave
a surrogate without its partner denotes no text at all; it is well formed as JSON all the
same, and stands here as `illFormed`, as does an object with such a key.
-/

namespace ReliableRouting

/-- A JSON value. -/
inductive Json
  | null
  | bool (b : Bool)
  | number (literal : String)
  | text (s : String)
  | array (items : List Json)
  | object (fields : List (String × Json))
  | illFormed
deriving Inhabited

namespace Json

open Decimal

/-! ### Numbers as values -/

/-- Doubles are written with a point, and with an exponent outside of a middle range. -/
def numberLayout : Layout where
  plainFrom := -5
  plainBelow := 16
  pointZero := true
  exponentPlus := true
  tie := .even

/-- A whole number. -/
def ofNat (n : Nat) : Json :=
  .number (toString n)

/-- A double. JSON has no numbers beyond the finite ones, and null stands for those. -/
def ofFloat (x : Float) : Json :=
  if x.isFinite then .number (numberLayout.write x) else .null

/-- The value of a quantity that may be absent. -/
def ofOption {α : Type} (toJson : α → Json) : Option α → Json
  | none => .null
  | some a => toJson a

/-! ### Reading scalars -/

/-- The text. -/
def text? : Json → Option String
  | .text s => some s
  | _ => none

/-- The truth value. -/
def bool? : Json → Option Bool
  | .bool b => some b
  | _ => none

/-- The double a number denotes, unless it lies beyond the finite ones. -/
def float? : Json → Option Float
  | .number literal => (readFloat? literal.toList).filter Float.isFinite
  | _ => none

/-- The whole number that a literal of digits alone denotes, if a word holds it. -/
def word? : Json → Option Nat
  | .number literal => readNat? wordBound literal.toList
  | _ => none

/-- The items of an array, each read. -/
def items? {α : Type} (read? : Json → Option α) : Json → Option (List α)
  | .array items => items.mapM read?
  | _ => none

end Json

end ReliableRouting
