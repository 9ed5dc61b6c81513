import ReliableRouting.Json.Reader
import ReliableRouting.Json.Record
import ReliableRouting.Policy.Constraint

/-!
# Requests

A request says how many candidate paths to look at, how to rank them, and which bounds a
path has to keep. What a request leaves open has a default. A request is valid if it asks
for a path at all and its bounds make sense; validity is judged field by field, and the
first field out of range is the fault.
-/

namespace ReliableRouting

/-- A request for paths. -/
structure Request where
  maxPaths : Nat := 10
  packetLossCeiling : Float := 0.1
  /-- Without a ceiling, any latency will do. -/
  latencyCeiling : Option Float := none
  bandwidthFloor : Float := 0.0
  asymmetric : Bool := false
  useReliabilityWeighting : Bool := true
  propagationModel : PathLossLaw := .mmWave28GHz
deriving DecidableEq

namespace Request

/-! ### Validity -/

/-- The number is negative or none at all. -/
def isBelowZero (x : Float) : Bool :=
  x.isNaN || x < 0.0

/-- The first field that is out of range, with its value. -/
def outOfRange? (r : Request) : Option (String × String) :=
  if r.maxPaths = 0 then
    some ("maxPaths", toString r.maxPaths)
  else if !(0.0 <= r.packetLossCeiling && r.packetLossCeiling <= 1.0) then
    some ("packetLossCeiling", Decimal.plain r.packetLossCeiling)
  else
    match r.latencyCeiling.filter isBelowZero with
    | some ceiling => some ("latencyCeiling", Decimal.plain ceiling)
    | none =>
      if isBelowZero r.bandwidthFloor then
        some ("bandwidthFloor", Decimal.plain r.bandwidthFloor)
      else
        none

/-- Passes a request whose fields are all in range. -/
def checked (r : Request) : Except InputFault Request :=
  match r.outOfRange? with
  | some (field, value) => .error (.fieldOutOfRange field value)
  | none => .ok r

/-! ### What a request amounts to -/

/-- The reliability model of a request. -/
def model (r : Request) : RadioModel :=
  { propagation := r.propagationModel }

/-- How candidates are ranked. -/
def rankingRule (r : Request) : RankingRule :=
  if r.useReliabilityWeighting then .reliability r.model else .hopCount

/-- The constraints of a request. A latency or a bandwidth constrains only where a bound is
set. -/
def constraints (r : Request) : Constraints :=
  Constraints.withoutOptical <|
    [.packetLoss r.packetLossCeiling]
      ++ (match r.latencyCeiling with
        | some ceiling => [.latency ceiling]
        | none => [])
      ++ (if 0.0 < r.bandwidthFloor then [.bandwidth r.bandwidthFloor] else [])
      ++ (if r.asymmetric then [.ownWayBack] else [])

end Request

/-! ### Reading -/

/-- A request as it is written, with any field left open. -/
structure RequestForm where
  maxPaths : Option Nat := none
  packetLossCeiling : Option Float := none
  latencyCeiling : Option Float := none
  bandwidthFloor : Option Float := none
  asymmetric : Option Bool := none
  useReliabilityWeighting : Option Bool := none
  propagationModel : Option String := none

namespace RequestForm

/-- Reads a form. -/
def ofJson? (v : Json) : Option RequestForm := do
  let slots ← v.slots? ["maxPaths", "packetLossCeiling", "latencyCeiling", "bandwidthFloor",
    "asymmetric", "useReliabilityWeighting", "propagationModel"]
  match slots with
  | [maxPaths, packetLoss, latency, bandwidth, asymmetric, weighting, model] =>
    return {
      maxPaths := ← maxPaths.optional? Json.word?
      packetLossCeiling := ← packetLoss.optional? Json.float?
      latencyCeiling := ← latency.optional? Json.float?
      bandwidthFloor := ← bandwidth.optional? Json.float?
      asymmetric := ← asymmetric.optional? Json.bool?
      useReliabilityWeighting := ← weighting.optional? Json.bool?
      propagationModel := ← model.optional? Json.text? }
  | _ => none

/-- Reads the JSON text of a form. -/
def read? (text : String) : Option RequestForm :=
  (Json.read? text).bind ofJson?

/-- The request of a form, with the defaults for what is left open. The name of the
propagation model is read first. -/
def toRequest (f : RequestForm) : Except InputFault Request := do
  let defaults : Request := {}
  let propagationModel ← match f.propagationModel with
    | some text => PathLossLaw.ofText text
    | none => pure defaults.propagationModel
  Request.checked {
    maxPaths := f.maxPaths.getD defaults.maxPaths
    packetLossCeiling := f.packetLossCeiling.getD defaults.packetLossCeiling
    latencyCeiling := f.latencyCeiling <|> defaults.latencyCeiling
    bandwidthFloor := f.bandwidthFloor.getD defaults.bandwidthFloor
    asymmetric := f.asymmetric.getD defaults.asymmetric
    useReliabilityWeighting :=
      f.useReliabilityWeighting.getD defaults.useReliabilityWeighting
    propagationModel }

end RequestForm

end ReliableRouting
