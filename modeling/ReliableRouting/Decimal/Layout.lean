import ReliableRouting.Decimal.Shortest

/-!
# Layout of decimals

The digits of a double and the way they are written are two decisions. The first is the
shortest decimal; the second is a `Layout`: which exponents are written positionally, and
how the rest looks. A fixed number of places is a layout of its own.
-/

namespace ReliableRouting.Decimal

/-- How a double is written. -/
structure Layout where
  /-- The least exponent of the leading digit that is written positionally. -/
  plainFrom : Int
  /-- The least exponent of the leading digit, beyond `plainFrom`, that is not. -/
  plainBelow : Int
  /-- Whole numbers end in a point and a zero. -/
  pointZero : Bool
  /-- Positive exponents carry a plus sign. -/
  exponentPlus : Bool
  tie : Tie

/-- Every double is written positionally, whole numbers without a point. -/
def Layout.plain : Layout where
  plainFrom := -400
  plainBelow := 400
  pointZero := false
  exponentPlus := false
  tie := .up

/-- The digits with the point after, within or before them. -/
def Layout.positional (layout : Layout) (digits : List Char) (exponent : Int) : List Char :=
  let places := (digits.length : Int) + exponent
  if 0 ≤ exponent then
    digits ++ List.replicate exponent.toNat '0' ++ (if layout.pointZero then ['.', '0'] else [])
  else if 0 < places then
    digits.take places.toNat ++ '.' :: digits.drop places.toNat
  else
    '0' :: '.' :: List.replicate (-places).toNat '0' ++ digits

/-- One digit, a point and the other digits if there are any, and the exponent. -/
def Layout.scientific (layout : Layout) (digits : List Char) (leading : Int) : List Char :=
  let fraction := if digits.length ≤ 1 then [] else '.' :: digits.drop 1
  let plus := if layout.exponentPlus ∧ 0 ≤ leading then ['+'] else []
  digits.take 1 ++ fraction ++ 'e' :: plus ++ (toString leading).toList

/-- A decimal in the layout. -/
def Layout.decimal (layout : Layout) (d : GridPoint) : List Char :=
  let digits := Nat.toDigits 10 d.digits
  let leading := (digits.length : Int) - 1 + d.exponent
  if layout.plainFrom ≤ leading ∧ leading < layout.plainBelow then
    layout.positional digits d.exponent
  else
    layout.scientific digits leading

/-- A magnitude in the layout. -/
def Layout.magnitude (layout : Layout) (x : Magnitude) : List Char :=
  layout.decimal (if x.mantissa = 0 then ⟨0, 0⟩ else x.shortest layout.tie)

/-- The texts of the doubles that are no finite numbers. -/
def special? (x : Float) : Option String :=
  if x.isNaN then some "NaN"
  else if x.isInf then some (if isNegative x then "-inf" else "inf")
  else none

/-- A double in the layout. A negative sign is written for the negative zero too. -/
def Layout.write (layout : Layout) (x : Float) : String :=
  (special? x).getD <|
    String.ofList <|
      (if isNegative x then ['-'] else []) ++ layout.magnitude (Magnitude.ofBits x.toBits)

/-- The shortest positional text of a double. -/
def plain (x : Float) : String :=
  Layout.plain.write x

/-- A double with exactly `places` digits after the point, for `0 < places`. -/
def fixed (places : Nat) (x : Float) : String :=
  (special? x).getD <|
    let steps := (Magnitude.ofBits x.toBits).roundedTo places
    let digits := Nat.toDigits 10 steps
    let padded := List.replicate (places + 1 - digits.length) '0' ++ digits
    let whole := padded.length - places
    String.ofList <|
      (if isNegative x then ['-'] else []) ++ padded.take whole ++ '.' :: padded.drop whole

end ReliableRouting.Decimal
