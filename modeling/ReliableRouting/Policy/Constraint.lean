import ReliableRouting.Policy.Aggregate

/-!
# Constraints

A constraint accepts or rejects a path as a whole, and contributes to a cost link by link,
where a negative contribution marks a link it has no use for. Constraints in a list are
joined by conjunction, in their order: the first rejection or fault settles the matter.
-/

namespace ReliableRouting

/-- A failure of routing that is no answer: a law refuses a length, or a link joins no
device. -/
inductive RoutingFault
  | lengthRejected (fault : LengthFault)
  | noDevice (link : String)
deriving Repr, DecidableEq

/-- The wording of a failure. -/
def RoutingFault.message : RoutingFault → String
  | .lengthRejected fault => "Reliability model rejected its input: " ++ fault.message
  | .noDevice link => "Didn't find device id in the link " ++ link

/-- What a path has to meet. -/
inductive Constraint
  /-- The packet loss stays below the ceiling. -/
  | packetLoss (ceiling : Float)
  /-- The latency stays below the ceiling. -/
  | latency (ceiling : Float)
  /-- No core link has less than the floor. -/
  | bandwidth (floor : Float)
  /-- No link has one of the types. -/
  | excludedTypes (excluded : List LinkType)
  /-- A mark that asks for a way back of its own. -/
  | ownWayBack
deriving Repr, DecidableEq

namespace Constraint

/-- The name of the sort of a constraint. -/
def name : Constraint → String
  | .packetLoss _ => "PacketLoss"
  | .latency _ => "Latency"
  | .bandwidth _ => "Bandwidth"
  | .excludedTypes _ => "LinkTypeExclusion"
  | .ownWayBack => "AsymmetricPath"

/-- No link is optical. -/
def notOptical : Constraint :=
  .excludedTypes [.optical]

/-- The link has at least the bandwidth. -/
def offers (floor : Float) (l : Link) : Bool :=
  match l.offered with
  | .ok x => floor <= x
  | .error _ => false

/-- The contribution of a link, one where there is nothing to measure and minus one where
the link is of no use. -/
def cost (law : DeliveryLaw) (l : Link) : Constraint → Except RoutingFault Float
  | .packetLoss _ =>
    match l.delivery law with
    | .ok probability => .ok probability
    | .error (.malformed _) => .ok (-1.0)
    | .error (.rejected fault) => .error (.lengthRejected fault)
  | .latency _ =>
    match l.delay with
    | .ok x => .ok x
    | .error _ => .ok (-1.0)
  | .bandwidth floor => .ok (if offers floor l then 1.0 else -1.0)
  | .excludedTypes excluded => .ok (if l.type ∈ excluded then -1.0 else 1.0)
  | .ownWayBack => .ok 0.0

/-- The constraint accepts the path. A malformed annotation that it reads makes it reject. -/
def accepts (law : DeliveryLaw) (p : Path) : Constraint → Except RoutingFault Bool
  | .packetLoss ceiling =>
    match p.loss law with
    | .ok loss => .ok (loss < ceiling)
    | .error (.malformed _) => .ok false
    | .error (.rejected fault) => .error (.lengthRejected fault)
  | .latency ceiling =>
    match p.latency with
    | .ok x => .ok (x < ceiling)
    | .error _ => .ok false
  | .bandwidth floor => .ok (p.coreLinks.all (offers floor))
  | .excludedTypes excluded => .ok (p.links.all fun l => decide (l.type ∉ excluded))
  | .ownWayBack => .ok true

/-- What judging a path by the constraint adds to the journal. -/
def journal (law : DeliveryLaw) (p : Path) : Constraint → Journal
  | .packetLoss _ => p.lossJournal law
  | .latency _ => p.latencyJournal
  | _ => []

end Constraint

/-! ### Lists of constraints -/

/-- The constraints that a path has to meet, in the order in which they are judged. -/
abbrev Constraints := List Constraint

namespace Constraints

/-- The constraints with the exclusion of optical links in front, unless that very exclusion
is among them. -/
def withoutOptical (cs : Constraints) : Constraints :=
  if Constraint.notOptical ∈ cs then cs
  else .notOptical :: cs

/-- The constraints ask for a way back of its own. -/
def isAsymmetric (cs : Constraints) : Bool :=
  decide (Constraint.ownWayBack ∈ cs)

/-- The first constraint that rejects the path, if none before it fails. -/
def firstViolated (law : DeliveryLaw) (p : Path) :
    Constraints → Except RoutingFault (Option Constraint)
  | [] => .ok none
  | c :: cs =>
    match c.accepts law p with
    | .error fault => .error fault
    | .ok false => .ok (some c)
    | .ok true => firstViolated law p cs

/-- Every constraint accepts the path. -/
def accept (law : DeliveryLaw) (p : Path) (cs : Constraints) : Except RoutingFault Bool :=
  (cs.firstViolated law p).map (·.isNone)

/-- Adds up contributions until one is negative, which leaves no viable cost. -/
def sumCosts (law : DeliveryLaw) : Float → List (Link × Constraint) →
    Except RoutingFault Weight
  | total, [] => .ok (.ofFloat total)
  | total, (l, c) :: rest =>
    match c.cost law l with
    | .error fault => .error fault
    | .ok x => if x < 0.0 then .ok .infinite else sumCosts law (total + x) rest

/-- The sum of all contributions of the core links of a path, link by link. -/
def combinedCost (law : DeliveryLaw) (p : Path) (cs : Constraints) :
    Except RoutingFault Weight :=
  sumCosts law 0.0 (p.coreLinks.flatMap fun l => cs.map fun c => (l, c))

/-! ### Journal -/

/-- What judging a path adds to the journal. -/
def journal (law : DeliveryLaw) (p : Path) : Constraints → Journal
  | [] => []
  | c :: cs =>
    c.journal law p ++
      match c.accepts law p with
      | .error _ => []
      | .ok false => [⟨.debug, "ConstraintViolated: " ++ c.name ++ " rejected " ++ p.text⟩]
      | .ok true => journal law p cs

end Constraints

end ReliableRouting
