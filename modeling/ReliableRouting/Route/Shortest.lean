import ReliableRouting.Route.Weigher

/-!
# Shortest routes

A cheapest route between two elements, found by settling elements in the order of their
distance. The frontier holds trails in the order of their discovery, and of the cheapest
ones the first is continued, so ties go to what was discovered earlier. Trails to elements
that are settled already are dropped when their turn comes.

Links and elements may be banned. A link that is banned or excluded, that enters a banned
element, or that is not viable counts as absent.
-/

namespace ReliableRouting

/-- What a search may not use. -/
structure Bans where
  links : List LinkId := []
  elements : List Element := []
deriving Repr, DecidableEq

/-- The links and elements of a route in the order of travel, and its cost. The elements
include both ends. -/
structure Route where
  links : List LinkId
  stops : List Element
  cost : Weight
deriving DecidableEq

/-- A route under way: where it stands, the links taken so far with the elements they were
taken from, latest first, and the cost so far. -/
structure Trail where
  stop : Element
  steps : List (LinkId × Element)
  cost : Weight
deriving DecidableEq

/-- A link that may be taken: its place, where it leads, and its weight. -/
structure Passage where
  link : LinkId
  target : Element
  weight : Weight
deriving DecidableEq

namespace Trail

/-- The trail that stands at its start. -/
def start (e : Element) : Trail :=
  ⟨e, [], 0⟩

/-- The trail continued over a link. -/
def extend (t : Trail) (p : Passage) : Trail :=
  ⟨p.target, (p.link, t.stop) :: t.steps, t.cost + p.weight⟩

/-- The route that a trail has taken. -/
def route (t : Trail) : Route :=
  ⟨(t.steps.map Prod.fst).reverse, (t.steps.map Prod.snd).reverse ++ [t.stop], t.cost⟩

end Trail

/-! ### Passages -/

/-- The weight of a link, if it may be taken. -/
def Weigher.passable? (w : Weigher) (bans : Bans) (i : LinkId) (l : Link) : Option Weight :=
  if i ∈ bans.links then none
  else if l.isExcluded ∨ l.dst.element ∈ bans.elements then none
  else if (w.weight l).isFinite then some (w.weight l)
  else none

/-- What looking at a link adds to the journal. -/
def Weigher.passageJournal (w : Weigher) (bans : Bans) (i : LinkId) (l : Link) : Journal :=
  if i ∈ bans.links then []
  else if l.isExcluded ∨ l.dst.element ∈ bans.elements then l.exclusionJournal
  else w.journal l

/-- The links that may be taken from an element. -/
def Network.passages (net : Network) (w : Weigher) (bans : Bans) (e : Element) :
    List Passage :=
  (net.outgoing e).filterMap fun (i, l) =>
    (w.passable? bans i l).map fun weight => ⟨i, l.dst.element, weight⟩

/-! ### Exploration -/

/-- The elements that have been settled on the way, latest first, without the destination,
and the trail that reached it. -/
structure Exploration where
  settled : List Element
  found : Option Trail

/-- The continuations of a trail to elements that are not settled. -/
def Trail.continuations (passages : List Passage) (settled : List Element) (t : Trail) :
    List Trail :=
  (passages.filter fun p => decide (p.target ∉ settled)).map t.extend

/-- Settles elements until the destination is reached or the frontier is empty. -/
def explore (passages : Element → List Passage) (dst : Element) :
    Nat → List Element → List Trail → Exploration
  | 0, settled, _ => ⟨settled, none⟩
  | fuel + 1, settled, frontier =>
    match takeCheapest Trail.cost frontier with
    | none => ⟨settled, none⟩
    | some (t, frontier) =>
      if t.stop ∈ settled then
        explore passages dst fuel settled frontier
      else if t.stop = dst then
        ⟨settled, some t⟩
      else
        let settled := t.stop :: settled
        explore passages dst fuel settled
          (frontier ++ t.continuations (passages t.stop) settled)

namespace Network

/-- Explores a network. Each link is put on the frontier at most once, when the element it
leaves is settled, so one step for each link and one for the start exhaust the frontier. -/
def explore (net : Network) (w : Weigher) (bans : Bans) (src dst : Element) : Exploration :=
  ReliableRouting.explore (net.passages w bans) dst (net.links.length + 1) [] [.start src]

/-- A cheapest route that avoids what is banned. -/
def shortest? (net : Network) (w : Weigher) (bans : Bans) (src dst : Element) :
    Option Route :=
  (net.explore w bans src dst).found.map Trail.route

/-- What the search for a cheapest route adds to the journal: every link that leaves a
settled element is looked at. -/
def shortestJournal (net : Network) (w : Weigher) (bans : Bans) (src dst : Element) :
    Journal :=
  (net.explore w bans src dst).settled.flatMap fun e =>
    (net.outgoing e).flatMap fun (i, l) => w.passageJournal bans i l

end Network

end ReliableRouting
