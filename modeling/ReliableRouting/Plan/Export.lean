import ReliableRouting.Plan.BothWays
import ReliableRouting.Plan.Listing
import ReliableRouting.Policy.Export

/-!
# Plans and listings in JSON
-/

namespace ReliableRouting

/-- The links and the cost. -/
def Path.toJson (p : Path) : Json :=
  .object [("edges", .array (p.links.map Link.toJson)), ("cost", p.cost.toJson)]

/-- The data for an installation. -/
def Installation.toJson (c : Installation) : Json :=
  .object [
    ("one", c.one.toJson),
    ("two", c.two.toJson),
    ("ingress", c.ingress.toJson),
    ("egress", c.egress.toJson),
    ("links", .array (c.links.map Link.toJson))]

/-- The reason why there is no path. -/
def NoPath.toJson : NoPath → Json
  | .disconnected => .text "Disconnected"
  | .constraintViolated n => .variant "ConstraintViolated" (.object [("candidates", .ofNat n)])

/-- A plan. -/
def Plan.toJson : Plan → Json
  | .empty => .text "Empty"
  | .routed paths =>
    .variant "Routed" (.object [
      ("forward", paths.forward.toJson),
      ("reverse", paths.reverse.toJson),
      ("asymmetric", .bool paths.asymmetric)])
  | .notFound src dst reason =>
    .variant "NotFound" (.object [
      ("src", src.toJson),
      ("dst", dst.toJson),
      ("reason", reason.toJson)])

/-- A candidate of a listing. -/
def ListedPath.toJson (p : ListedPath) : Json :=
  .object [
    ("links", .array (p.links.map .text)),
    ("cost", p.cost.toJson),
    ("packetLoss", .ofOption .ofFloat p.packetLoss),
    ("latency", .ofOption .ofFloat p.latency),
    ("minBandwidth", .ofOption .ofFloat p.bottleneck),
    ("valid", .bool p.valid)]

/-- A listing. -/
def Listing.toJson (r : Listing) : Json :=
  .object [
    ("src", r.src.toJson),
    ("dst", r.dst.toJson),
    ("maxPaths", .ofNat r.maxPaths),
    ("candidates", .array (r.candidates.map ListedPath.toJson)),
    ("satisfying", .ofNat r.satisfying)]

end ReliableRouting
