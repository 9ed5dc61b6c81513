import ReliableRouting.Route.Path

/-!
# Aggregates of a path

What the core links of a path amount to: the probability that a packet gets through all of
them, the sum of their latencies, and their least bandwidth. Links that attach hosts do not
count. A link without a length delivers for certain, one without a latency takes no time,
and one without a bandwidth has none. The first core link with a fault makes the fault of
the aggregate.
-/

namespace ReliableRouting

/-- Why a path has no probability of delivery. -/
inductive DeliveryFault
  /-- The text of a length is no number. -/
  | malformed (fault : AnnotationFault)
  /-- A length is refused by the law. -/
  | rejected (fault : LengthFault)
deriving Repr, DecidableEq

/-- The probability that a link delivers a packet. -/
def Link.delivery (law : DeliveryLaw) (l : Link) : Except DeliveryFault Float :=
  match l.length with
  | .error fault => .error (.malformed fault)
  | .ok none => .ok 1.0
  | .ok (some length) =>
    match law length with
    | .error fault => .error (.rejected fault)
    | .ok probability => .ok probability

/-- The latency of a link, with none counting as zero. -/
def Link.delay (l : Link) : Except AnnotationFault Float :=
  l.latency.map fun latency => latency.getD 0.0

/-- The bandwidth of a link, with none counting as zero. -/
def Link.offered (l : Link) : Except AnnotationFault Float :=
  l.bandwidth.map fun bandwidth => bandwidth.getD 0.0

/-- The lesser of two quantities, of which the first may be absent. Of equal ones, such as the
two zeros, it is the second. -/
def least (current : Option Float) (x : Float) : Float :=
  match current with
  | none => x
  | some y => if y < x then y else x

namespace Path

/-- The probability that a packet passes all core links. -/
def delivery (law : DeliveryLaw) (p : Path) : Except DeliveryFault Float :=
  p.coreLinks.foldlM (fun total l => (l.delivery law).map (total * ·)) 1.0

/-- The probability that a packet is lost on the way. -/
def loss (law : DeliveryLaw) (p : Path) : Except DeliveryFault Float :=
  (p.delivery law).map (1.0 - ·)

/-- The sum of the latencies. -/
def latency (p : Path) : Except AnnotationFault Float :=
  p.coreLinks.foldlM (fun total l => l.delay.map (total + ·)) 0.0

/-- The least bandwidth, none for a path without core links. -/
def bottleneck (p : Path) : Except AnnotationFault (Option Float) :=
  p.coreLinks.foldlM (fun current l => l.offered.map fun x => some (least current x)) none

/-! ### Journal -/

/-- A malformed annotation met on a path. -/
def faultJournal (p : Path) (fault : AnnotationFault) : Journal :=
  [⟨.warn, "InvalidAnnotation: " ++ fault.message ++ " on path " ++ p.text⟩]

/-- What computing the loss adds to the journal. -/
def lossJournal (law : DeliveryLaw) (p : Path) : Journal :=
  match p.delivery law with
  | .error (.malformed fault) => p.faultJournal fault
  | _ => []

/-- What computing the latency adds to the journal. -/
def latencyJournal (p : Path) : Journal :=
  match p.latency with
  | .error fault => p.faultJournal fault
  | .ok _ => []

/-- What computing the least bandwidth adds to the journal. -/
def bandwidthJournal (p : Path) : Journal :=
  match p.bottleneck with
  | .error fault => p.faultJournal fault
  | .ok _ => []

end Path

end ReliableRouting
