import ReliableRouting.Network.Graph
import ReliableRouting.Radio.Delivery
import ReliableRouting.Route.Weight

/-!
# Weighing links

Routes are ranked by the weights of their links. A link that is inactive, optical or has a
malformed latency or bandwidth is excluded, whatever the weigher. Of the two weighers, one
prices a radio link by its probability of delivery and every other link by a fixed cost; the
other counts hops, where an indirect link counts as many.
-/

namespace ReliableRouting

/-- A weight for each link, and what weighing a link adds to the journal. -/
structure Weigher where
  weight : Link → Weight
  journal : Link → Journal := fun _ => []

/-! ### Excluded links -/

/-- No route may use the link. -/
def Link.isExcluded (l : Link) : Bool :=
  !l.isActive || l.type == .optical || l.malformed?.isSome

/-- An active link that is not optical, but excluded for a malformed measure. -/
def Link.exclusionJournal (l : Link) : Journal :=
  if !l.isActive || l.type == .optical then
    []
  else
    match l.malformed? with
    | none => []
    | some fault =>
      [⟨.debug, "InvalidAnnotation: " ++ fault.message ++ " on link " ++ l.text
        ++ ", excluding it."⟩]

namespace Weigher

/-! ### By hops -/

/-- The cost of a hop over an indirect link. -/
def indirectHop : Float := 32767

/-- Counts hops. -/
def hopCount : Weigher where
  weight l :=
    if l.isExcluded then .infinite
    else if l.type = .indirect then .ofFloat indirectHop
    else .ofFloat 1
  journal l := l.exclusionJournal

/-! ### By reliability -/

/-- The cost of a link without a length. -/
def wiredCost : Float := 101

/-- The weight of a link that a law gives a probability of delivery. A probability of zero
leaves no finite weight. -/
def expectedCost (probability : Float) : Weight :=
  .ofFloat (1 + 1 / probability)

/-- A link that is not viable because of its length. -/
def lengthJournal (l : Link) (message : String) : Journal :=
  [⟨.warn, "InvalidAnnotation: " ++ message ++ " on link " ++ l.text
    ++ ", treating it as non-viable."⟩]

/-- Prices links that have a length by a law, and all others alike. -/
def reliability (law : DeliveryLaw) : Weigher where
  weight l :=
    if l.isExcluded then .infinite
    else
      match l.length with
      | .error _ => .infinite
      | .ok none => .ofFloat wiredCost
      | .ok (some length) =>
        match law length with
        | .error _ => .infinite
        | .ok probability => expectedCost probability
  journal l :=
    if l.isExcluded then l.exclusionJournal
    else
      match l.length with
      | .error fault => lengthJournal l fault.message
      | .ok none => []
      | .ok (some length) =>
        match law length with
        | .error fault => lengthJournal l fault.message
        | .ok _ => []

/-- The weight of a sequence of links, added up in the order of travel. -/
def total (w : Weigher) (links : List Link) : Weight :=
  links.foldl (fun cost l => cost + w.weight l) 0

end Weigher

/-- The choice of a weigher. -/
inductive RankingRule
  | reliability (model : RadioModel)
  | hopCount
deriving Repr, DecidableEq

/-- The weigher chosen. -/
def RankingRule.weigher : RankingRule → Weigher
  | .reliability model => .reliability model.law
  | .hopCount => .hopCount

end ReliableRouting
