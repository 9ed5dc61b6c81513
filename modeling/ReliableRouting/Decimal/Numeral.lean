/-!
# Decimal numerals

A decimal numeral is a sign, an integer coefficient and a power of ten. The numerals
written as text are an optional sign, digits with at most one point among or around them,
and an optional exponent. A numeral denotes the double nearest to it; one beyond the
doubles denotes an infinity, one too small for them a zero.

Whole numbers are read separately, and with a bound.
-/

namespace ReliableRouting.Decimal

/-! ### Whole numbers -/

/-- The number a run of ASCII digits denotes in base ten. -/
def ofDigits (digits : List Char) : Nat :=
  Nat.ofDigitChars 10 digits 0

/-- A non-empty run of ASCII digits. -/
def IsDigits (cs : List Char) : Prop :=
  cs ≠ [] ∧ ∀ c ∈ cs, c.isDigit = true

instance (cs : List Char) : Decidable (IsDigits cs) :=
  -- Named here, lest all characters there are be looked at instead of these.
  haveI : Decidable (∀ c ∈ cs, c.isDigit = true) := List.decidableBAll _ cs
  inferInstanceAs (Decidable (_ ∧ _))

/-- The text without a plus sign in front. -/
def dropPlus : List Char → List Char
  | '+' :: cs => cs
  | cs => cs

/-- Reads digits, perhaps after a plus sign, that denote a number below the bound. -/
def readNat? (bound : Nat) (cs : List Char) : Option Nat :=
  let digits := dropPlus cs
  if IsDigits digits ∧ ofDigits digits < bound then some (ofDigits digits) else none

/-- The numbers a 64-bit word holds are those below this one. -/
def wordBound : Nat := Nat.pow 2 64

/-! ### Numerals -/

/-- A sign, a coefficient and a power of ten. -/
structure Numeral where
  negative : Bool
  coefficient : Nat
  exponent : Int
deriving Repr, DecidableEq

/-- The sign in front of a text, and the rest of the text. -/
def readSign : List Char → Bool × List Char
  | '-' :: cs => (true, cs)
  | '+' :: cs => (false, cs)
  | cs => (false, cs)

/-- The exponent that ends a numeral, zero where the numeral has none. -/
def readExponent? : List Char → Option Int
  | [] => some 0
  | mark :: cs =>
    let (negative, digits) := readSign cs
    if mark.toLower = 'e' ∧ IsDigits digits then
      some (if negative then -(ofDigits digits : Int) else ofDigits digits)
    else
      none

/-- The digits after the point, and what follows them. -/
def readFraction : List Char → List Char × List Char
  | '.' :: cs => cs.span Char.isDigit
  | cs => ([], cs)

/-- Reads a numeral. Digits have to stand on at least one side of the point. -/
def Numeral.read? (cs : List Char) : Option Numeral :=
  let (negative, body) := readSign cs
  let (whole, rest) := body.span Char.isDigit
  let (fraction, rest) := readFraction rest
  if whole = [] ∧ fraction = [] then
    none
  else
    (readExponent? rest).map fun exponent =>
      ⟨negative, ofDigits (whole ++ fraction), exponent - fraction.length⟩

/-- Positive infinity. -/
def infinity : Float := 1.0 / 0.0

/-- No number. -/
def notANumber : Float := 0.0 / 0.0

/-- The double nearest to a coefficient times a power of ten. A leading digit beyond the
310th place on either side needs no arithmetic, which keeps huge exponents cheap. -/
def nearest (coefficient : Nat) (exponent : Int) : Float :=
  let leading := (Nat.toDigits 10 coefficient).length + exponent
  if coefficient = 0 ∨ leading < -330 then
    0.0
  else if leading > 310 then
    infinity
  else
    Float.ofScientific coefficient (exponent < 0) exponent.natAbs

/-- The double a numeral denotes. -/
def Numeral.toFloat (n : Numeral) : Float :=
  let magnitude := nearest n.coefficient n.exponent
  if n.negative then -magnitude else magnitude

/-- Reads a double: a numeral, or the words for infinity and for no number in any case,
each perhaps with a sign. -/
def readFloat? (cs : List Char) : Option Float :=
  let (negative, body) := readSign cs
  let word := body.map Char.toLower
  if word = ['i', 'n', 'f'] ∨ word = ['i', 'n', 'f', 'i', 'n', 'i', 't', 'y'] then
    some (if negative then -infinity else infinity)
  else if word = ['n', 'a', 'n'] then
    some notANumber
  else
    (Numeral.read? cs).map Numeral.toFloat

end ReliableRouting.Decimal
