import Mathlib.Data.List.AList
import ReliableRouting.Route.Shortest

/-!
# Labels

A cheapest route between two elements, found without keeping trails. An element that has been
reached carries a label: the least cost at which it has been reached so far, and the link and
the element by which it was reached at that cost. Whenever a label improves, the element joins
those that are due, so one element may be due several times; all but the first time it is passed
over. The route is read off the labels from its end to its beginning.

Neither settling elements nor reading off the route is bounded beforehand. Each is given a number
of rounds here, and what has not ended after so many has no result.
-/

namespace ReliableRouting

/-! ### What is due -/

/-- An element that has been reached at a cost. Arrivals are numbered in the order of their
discovery. -/
structure Arrival where
  cost : Weight
  number : ℕ
  element : Element
deriving DecidableEq

/-- Arrivals are due by cost, and those of one cost by number. -/
def Arrival.compare (a b : Arrival) : Ordering :=
  (a.cost.compare b.cost).then (Ord.compare a.number b.number)

/-- The arrival that is due first, and the others. -/
def takeNext : List Arrival → Option (Arrival × List Arrival)
  | [] => none
  | a :: rest =>
    match takeNext rest with
    | none => some (a, [])
    | some (b, others) => if b.compare a = .lt then some (b, a :: others) else some (a, rest)

/-! ### Labels -/

/-- The labels of elements, what has been settled, latest first, and what is due. -/
structure Labelling where
  costs : AList fun _ : Element => Weight
  /-- The links by which elements have been reached, with the elements that these leave. -/
  steps : AList fun _ : Element => LinkId × Element
  settled : List Element
  due : List Arrival
  /-- The number of the latest arrival. -/
  number : ℕ

namespace Labelling

/-- The start has been reached. -/
def start (src : Element) : Labelling where
  costs := AList.insert src 0 ∅
  steps := ∅
  settled := []
  due := [⟨0, 0, src⟩]
  number := 0

/-- The cost is less than that of the label, if there is one. -/
def improves (L : Labelling) (e : Element) (cost : Weight) : Bool :=
  (L.costs.lookup e).all fun known => decide (cost < known)

/-- Labels an element, which is then due. -/
def label (L : Labelling) (e : Element) (cost : Weight) (step : LinkId × Element) : Labelling where
  costs := L.costs.insert e cost
  steps := L.steps.insert e step
  settled := L.settled
  due := L.due ++ [⟨cost, L.number + 1, e⟩]
  number := L.number + 1

/-- Takes a passage from an element that is settled at some cost. -/
def relax (e : Element) (cost : Weight) (L : Labelling) (p : Passage) : Labelling :=
  if p.target ∈ L.settled then L
  else if L.improves p.target (cost + p.weight) then
    L.label p.target (cost + p.weight) (p.link, e)
  else L

/-- Settles an element. What remains due is given. -/
def settle (L : Labelling) (e : Element) (due : List Arrival) : Labelling :=
  { L with settled := e :: L.settled, due }

/-- Settles elements in the order in which they are due, until the destination is settled or
nothing is due. -/
def run (passages : Element → List Passage) (dst : Element) :
    (rounds : ℕ) → Labelling → Option Labelling
  | 0, _ => none
  | rounds + 1, L =>
    match takeNext L.due with
    | none => some L
    | some (a, due) =>
      if a.element ∈ L.settled then
        run passages dst rounds { L with due }
      else
        let L := L.settle a.element due
        if a.element = dst then
          some L
        else
          run passages dst rounds ((passages a.element).foldl (relax a.element a.cost) L)

/-- Reads the steps from an element back to the start. The links and elements that follow are
given. There is no way back from an element without a label. -/
def retrace (L : Labelling) (src : Element) :
    (rounds : ℕ) → Element → List LinkId → List Element →
      Option (Option (List LinkId × List Element))
  | 0, _, _, _ => none
  | rounds + 1, e, links, stops =>
    if e = src then
      some (some (links, stops))
    else
      match L.steps.lookup e with
      | none => some none
      | some (i, e') => L.retrace src rounds e' (i :: links) (e' :: stops)

/-- The route to the destination if that is settled. -/
def route? (L : Labelling) (src dst : Element) (rounds : ℕ) : Option (Option Route) :=
  if dst ∉ L.settled then
    some none
  else
    (L.retrace src rounds dst [] [dst]).map fun way? => do
      let (links, stops) ← way?
      let cost ← L.costs.lookup dst
      return ⟨links, stops, cost⟩

end Labelling

/-- A cheapest route that avoids what is banned, by labels, if it is found in some number of
rounds. -/
def Network.labelled? (net : Network) (w : Weigher) (bans : Bans) (src dst : Element)
    (rounds : ℕ) : Option (Option Route) :=
  (Labelling.run (net.passages w bans) dst rounds (.start src)).bind fun L =>
    L.route? src dst rounds

end ReliableRouting
