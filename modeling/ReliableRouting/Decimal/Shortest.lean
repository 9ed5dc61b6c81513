/-!
# Shortest decimals

A finite double stands for the interval of reals that round to it. Its shortest decimal is
the number of that interval with the fewest digits, and of those the one nearest to the
double. The search tries the decimal grids from coarse to fine: if a grid has a point in
the interval, then one of the double's two neighbours on that grid is such a point, so
these two are all that has to be tested.

All arithmetic is exact. Quarters of the last binary place serve as unit, since the ends of
the interval lie at half a place, or at a quarter just above a power of two.
-/

namespace ReliableRouting.Decimal

/-- A finite magnitude `mantissa * 2 ^ exponent`. The gap to the double below is half the
gap to the double above exactly where `narrowBelow` holds. -/
structure Magnitude where
  mantissa : Nat
  exponent : Int
  narrowBelow : Bool
deriving Repr

/-- The magnitude a bit pattern of a finite double holds. -/
def Magnitude.ofBits (bits : UInt64) : Magnitude :=
  let fraction := (bits &&& 0xFFFFFFFFFFFFF).toNat
  let biased := ((bits >>> 52) &&& 0x7FF).toNat
  if biased = 0 then
    ⟨fraction, -1074, false⟩
  else
    ⟨Nat.pow 2 52 + fraction, (biased : Int) - 1075, fraction = 0 ∧ 1 < biased⟩

/-- The sign bit of a double is set. -/
def isNegative (x : Float) : Bool :=
  x.toBits >>> 63 = 1

/-- Which of two equally near decimals is taken. -/
inductive Tie
  | up
  | even
deriving Repr, DecidableEq

/-- The point `digits` steps up the grid `10 ^ exponent`. -/
structure GridPoint where
  digits : Nat
  exponent : Int
deriving Repr, DecidableEq

namespace Magnitude

/-- The lower end of the interval, in quarters of the last binary place. -/
def lowQuarters (x : Magnitude) : Nat :=
  if x.narrowBelow then 4 * x.mantissa - 1 else 4 * x.mantissa - 2

/-- Numerator and denominator of a quarter of the last binary place over a step of the grid
`10 ^ k`. -/
def quarter (x : Magnitude) (k : Int) : Nat × Nat :=
  (Nat.pow 2 (x.exponent - 2).toNat * Nat.pow 10 (-k).toNat,
    Nat.pow 2 (2 - x.exponent).toNat * Nat.pow 10 k.toNat)

/-- `d` steps of the grid `10 ^ k` lie in the interval of the magnitude. Its ends belong to
it exactly if the mantissa is even. -/
def holds (x : Magnitude) (k : Int) (d : Nat) : Bool :=
  let (num, den) := x.quarter k
  let low := x.lowQuarters * num
  let high := (4 * x.mantissa + 2) * num
  if x.mantissa % 2 = 0 then
    low ≤ d * den ∧ d * den ≤ high
  else
    low < d * den ∧ d * den < high

/-- The nearest point of the grid `10 ^ k` that lies in the interval, if there is one. -/
def onGrid? (tie : Tie) (x : Magnitude) (k : Int) : Option GridPoint :=
  let (num, den) := x.quarter k
  let below := 4 * x.mantissa * num / den
  let above := below + 1
  match x.holds k below, x.holds k above with
  | false, false => none
  | true, false => some ⟨below, k⟩
  | false, true => some ⟨above, k⟩
  | true, true =>
    match compare (8 * x.mantissa * num) ((below + above) * den), tie with
    | .lt, _ => some ⟨below, k⟩
    | .gt, _ => some ⟨above, k⟩
    | .eq, .up => some ⟨above, k⟩
    | .eq, .even => some ⟨if below % 2 = 0 then below else above, k⟩

/-- The exact decimal expansion. -/
def exact (x : Magnitude) : GridPoint :=
  if 0 ≤ x.exponent then
    ⟨x.mantissa * Nat.pow 2 x.exponent.toNat, 0⟩
  else
    ⟨x.mantissa * Nat.pow 5 (-x.exponent).toNat, x.exponent⟩

/-- An exponent `k` for which `10 ^ k` exceeds the magnitude, by at most three places. -/
def coarsest (x : Magnitude) : Int :=
  ((x.mantissa.log2 : Int) + 1 + x.exponent) * 30103 / 100000 + 1

/-- The shortest decimal of the interval. Seventeen digits always reach into it, so the
exact expansion is never needed. -/
def shortest (tie : Tie) (x : Magnitude) : GridPoint :=
  ((List.range 24).findSome? fun (i : Nat) => x.onGrid? tie (x.coarsest - i)).getD x.exact

/-- The magnitude in steps of `10 ^ -places`, rounded to the nearest whole number, a half
to the even one. -/
def roundedTo (x : Magnitude) (places : Nat) : Nat :=
  let num := x.mantissa * Nat.pow 2 x.exponent.toNat * Nat.pow 10 places
  let den := Nat.pow 2 (-x.exponent).toNat
  let below := num / den
  match compare (2 * num) ((2 * below + 1) * den) with
  | .lt => below
  | .gt => below + 1
  | .eq => if below % 2 = 0 then below else below + 1

end Magnitude

end ReliableRouting.Decimal
