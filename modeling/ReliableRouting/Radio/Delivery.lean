import ReliableRouting.Decimal.Layout
import ReliableRouting.Radio.Erfc
import ReliableRouting.Radio.PathLoss

/-!
# Delivery over a radio link

The probability that a millimetre-wave link of a given length delivers a packet, by a
closed formula of stochastic geometry: the path loss gives the signal-to-noise ratio at the
receiver, Gaussian tails over two regimes of shadowing give a connectivity that accounts
for blockage, and the probability is one minus an exponential in it.

The order of the operations is part of the definition, since doubles round at each of them.

A `DeliveryLaw` is any function from lengths to probabilities that may reject a length.
What ranks and constrains routes depends on a law, not on the formula.
-/

namespace ReliableRouting

/-- Why a length has no probability of delivery. -/
inductive LengthFault
  | invalidLength (length : Float)
  | outOfRange (length value : Float)
deriving Repr, DecidableEq

/-- The wording of a fault. -/
def LengthFault.message : LengthFault → String
  | .invalidLength length =>
    "Link length must be a positive finite number of meters, got " ++ Decimal.plain length
  | .outOfRange length value =>
    "Success probability for length " ++ Decimal.plain length ++ " evaluated to "
      ++ Decimal.plain value ++ ", outside [0, 1]"

/-- The probability of delivery over a length in metres. -/
abbrev DeliveryLaw := Float → Except LengthFault Float

/-- The exponent of the length in the term for links out of sight. -/
inductive BlockedExponent
  | propagation
  /-- The path loss itself, which agrees with the other choice at one metre only. -/
  | pathLoss
deriving Repr, DecidableEq

/-- The choices a reliability model leaves open. -/
structure RadioModel where
  propagation : PathLossLaw := .mmWave28GHz
  blocked : BlockedExponent := .propagation
deriving Repr, DecidableEq

namespace Radio

/-! ### Constants -/

/-- Links per unit of area. -/
def linkDensity : Float := 100.0

/-- Width of a channel in hertz. -/
def channelWidth : Float := 2e9

/-- The fraction of the area in sight. -/
def sightArea : Float := 0.11

/-- Greatest antenna gain in decibels. -/
def antennaGain : Float := 18.0

/-- Transmit power, in decibels above a milliwatt. -/
def transmitPower : Float := 30.0

/-- Density of the thermal noise, in decibels above a milliwatt per hertz. -/
def noiseDensity : Float := -174.0

/-- Noise figure of a receiver in decibels. -/
def noiseFigure : Float := 10.0

/-- Deviation of the shadowing in sight, in decibels. -/
def sightShadowing : Float := 5.2

/-- Deviation of the shadowing out of sight, in decibels. -/
def blockedShadowing : Float := 7.6

/-- The ratio of signal to noise a receiver needs, in decibels. -/
def decodingThreshold : Float := 3.0

/-- The circle constant. -/
def pi : Float := 3.14159265358979323846

/-- The natural logarithm of ten. -/
def logTen : Float := 2.30258509299404568402

/-- The square root of two. -/
def sqrtTwo : Float := 1.41421356237309504880

/-! ### Terms of the formula -/

/-- A ratio in decibels as a plain ratio. -/
def fromDecibels (x : Float) : Float :=
  Float.pow 10.0 (x / 10.0)

/-- The probability that a standard normal variable exceeds a value. -/
def gaussianTail (x : Float) : Float :=
  0.5 * erfc (x / sqrtTwo)

/-- The common factor of the terms of a regime of shadowing with deviation `sigma` and
mean `m`. -/
def regimeScale (sigma m exponent factor : Float) : Float :=
  Float.pow factor (2.0 / exponent)
    * Float.exp (2.0 * ((sigma * sigma) / (exponent * exponent)) + 2.0 * (m / exponent))

/-- The tail of a regime of shadowing at a length. -/
def regimeTail (sigma m length exponent factor : Float) : Float :=
  gaussianTail
    ((sigma * sigma * (2.0 / exponent) - Float.log (Float.pow length (exponent / factor)) + m)
      / sigma)

/-- The tail of the near term of a regime, where the length is raised to `power`. -/
def nearTail (sigma m length power factor : Float) : Float :=
  gaussianTail ((Float.log (Float.pow length power / factor) - m) / sigma)

end Radio

open Radio in
/-- The value of the formula for a length, a probability unless rounding or the choice of
exponent spoil it. -/
def RadioModel.formula (model : RadioModel) (length : Float) : Float :=
  let exponent := model.propagation.exponent
  let loss := model.propagation.loss length
  let noise := noiseDensity + 10.0 * Float.log10 channelWidth + noiseFigure
  let reference := transmitPower + antennaGain - noise
  let ratio := fromDecibels (reference - loss)
  let mean := -Float.log (fromDecibels model.propagation.intercept)
  let sightSigma := 0.1 * sightShadowing * logTen
  let blockedSigma := 0.1 * blockedShadowing * logTen
  let factor := ratio / fromDecibels decodingThreshold
  let blockedPower := match model.blocked with
    | .propagation => exponent
    | .pathLoss => loss
  let near := Float.pow length 2.0
    * (nearTail sightSigma mean length exponent factor
      - nearTail blockedSigma mean length blockedPower factor)
  let sight := regimeScale sightSigma mean exponent factor
    * regimeTail sightSigma mean length exponent factor
  let blocked := regimeScale blockedSigma mean exponent factor
    * (1.0 / sightArea - regimeTail blockedSigma mean length exponent factor)
  let connectivity := near + sight + blocked
  let intensity := linkDensity * pi * sightArea * connectivity
  let perLink := intensity / linkDensity
  1.0 - Float.exp (-linkDensity * perLink * factor)

/-- The law of a model. Lengths have to be positive and finite, and values of the formula
beyond zero and one are refused. -/
def RadioModel.law (model : RadioModel) : DeliveryLaw := fun length =>
  if !length.isFinite || length <= 0.0 then
    .error (.invalidLength length)
  else
    let value := model.formula length
    if 0.0 <= value && value <= 1.0 then .ok value else .error (.outOfRange length value)

end ReliableRouting
