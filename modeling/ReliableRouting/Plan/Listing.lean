import ReliableRouting.Plan.Selection

/-!
# Listings of candidates

A listing shows every candidate between two elements with its aggregates and whether it
meets the constraints, cheapest first.
-/

namespace ReliableRouting

/-- A candidate of a listing. An aggregate is absent if an annotation it reads is malformed,
and the bandwidth also for a path without core links. -/
structure ListedPath where
  links : List String
  cost : Weight
  packetLoss : Option Float
  latency : Option Float
  bottleneck : Option Float
  valid : Bool
deriving DecidableEq

/-- The candidates between two elements. -/
structure Listing where
  src : Element
  dst : Element
  maxPaths : Nat
  candidates : List ListedPath
  /-- How many candidates meet the constraints. -/
  satisfying : Nat
deriving DecidableEq

namespace Path

/-- The loss, absent where an annotation is malformed. -/
def listedLoss (law : DeliveryLaw) (p : Path) : Except RoutingFault (Option Float) :=
  match p.loss law with
  | .ok loss => .ok (some loss)
  | .error (.malformed _) => .ok none
  | .error (.rejected fault) => .error (.lengthRejected fault)

/-- The line of a listing for a path. -/
def listed (law : DeliveryLaw) (cs : Constraints) (p : Path) :
    Except RoutingFault ListedPath := do
  let loss ← p.listedLoss law
  let valid ← cs.accept law p
  return {
    links := p.links.map Link.text
    cost := p.cost
    packetLoss := loss
    latency := p.latency.toOption
    bottleneck := p.bottleneck.toOption.join
    valid }

/-- What listing a path adds to the journal. -/
def listedJournal (law : DeliveryLaw) (cs : Constraints) (p : Path) : Journal :=
  match p.listedLoss law with
  | .error _ => []
  | .ok _ => p.lossJournal law ++ p.latencyJournal ++ p.bandwidthJournal ++ cs.journal law p

end Path

/-- A quantity with six places. -/
def quantityText : Option Float → String
  | none => "n/a"
  | some x => Decimal.fixed 6 x

/-- The line of a candidate. -/
def ListedPath.text (p : ListedPath) : String :=
  Path.linksText p.links ++ "; cost=" ++ p.cost.text
    ++ " packetLoss=" ++ quantityText p.packetLoss
    ++ " latency=" ++ quantityText p.latency
    ++ " minBandwidth=" ++ quantityText p.bottleneck
    ++ (if p.valid then " OK" else " REJECTED")

/-- A heading and a numbered line for each candidate. -/
def Listing.text (r : Listing) : String :=
  let heading := r.src.id ++ " => " ++ r.dst.id ++ ": " ++ toString r.candidates.length
    ++ " candidate(s), " ++ toString r.satisfying ++ " satisfying\n"
  heading ++ String.join (r.candidates.zipIdx.map fun (p, i) =>
    "  #" ++ toString (i + 1) ++ " " ++ p.text ++ "\n")

namespace Router

/-- The listing of the `k` best paths. -/
def listing (r : Router) (cs : Constraints) (src dst : Element) (k : Nat) :
    Except RoutingFault Listing := do
  let candidates ← (r.candidates src dst k).mapM (Path.listed r.law cs)
  return ⟨src, dst, k, candidates, (candidates.filter (·.valid)).length⟩

/-- What listing paths adds to the journal, up to the first failure. -/
def judgedJournal (r : Router) (cs : Constraints) : List Path → Journal
  | [] => []
  | p :: rest =>
    p.listedJournal r.law cs ++
      match p.listed r.law cs with
      | .error _ => []
      | .ok _ => r.judgedJournal cs rest

/-- What a listing adds to the journal. -/
def listingJournal (r : Router) (cs : Constraints) (src dst : Element) (k : Nat) : Journal :=
  r.network.searchJournal r.weigher src dst k
    ++ r.judgedJournal cs (r.candidates src dst k)

end Router

end ReliableRouting
