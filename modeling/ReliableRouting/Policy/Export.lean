import ReliableRouting.Network.Export
import ReliableRouting.Policy.Request

/-!
# Requests and constraints in JSON

A choice without parameters is written as its name, one with parameters as an object with
the name as its only key.
-/

namespace ReliableRouting

/-- The name of a law. -/
def PathLossLaw.name : PathLossLaw → String
  | .mmWave28GHz => "Mmwave28GHz"
  | .mmWave73GHz => "Mmwave73GHz"
  | .threeGpp => "ThreeGpp"

/-- The name of a choice of exponent. -/
def BlockedExponent.name : BlockedExponent → String
  | .propagation => "PropagationExponent"
  | .pathLoss => "PathLossDb"

/-- A name with parameters. -/
def Json.variant (name : String) (parameters : Json) : Json :=
  .object [(name, parameters)]

/-- The value of a weight. -/
def Weight.toJson (w : Weight) : Json :=
  .ofFloat w.value

/-- The choices of a model. -/
def RadioModel.toJson (m : RadioModel) : Json :=
  .object [
    ("propagation", .text m.propagation.name),
    ("nlos_exponent", .text m.blocked.name)]

/-- The choice of a weigher. -/
def RankingRule.toJson : RankingRule → Json
  | .reliability model => .variant "Reliability" (.object [("model", model.toJson)])
  | .hopCount => .variant "HopCount" .null

/-- A constraint with its bound. -/
def Constraint.toJson (c : Constraint) : Json :=
  match c with
  | .packetLoss ceiling => .variant c.name (.object [("ceiling", .ofFloat ceiling)])
  | .latency ceiling => .variant c.name (.object [("ceiling", .ofFloat ceiling)])
  | .bandwidth floor => .variant c.name (.object [("floor", .ofFloat floor)])
  | .excludedTypes excluded =>
    .variant c.name
      (.object [("excluded", .array (excluded.map fun (t : LinkType) => .text t.name))])
  | .ownWayBack => .text c.name

/-- Constraints with the model they are judged by. -/
def Constraints.toJson (cs : Constraints) (model : RadioModel) : Json :=
  .object [
    ("constraints", .array (cs.map Constraint.toJson)),
    ("model", model.toJson)]

/-- All fields of a request. -/
def Request.toJson (r : Request) : Json :=
  .object [
    ("max_paths", .ofNat r.maxPaths),
    ("packet_loss_ceiling", .ofFloat r.packetLossCeiling),
    ("latency_ceiling", .ofOption .ofFloat r.latencyCeiling),
    ("bandwidth_floor", .ofFloat r.bandwidthFloor),
    ("asymmetric", .bool r.asymmetric),
    ("use_reliability_weighting", .bool r.useReliabilityWeighting),
    ("propagation_model", .text r.propagationModel.name)]

end ReliableRouting
