import ReliableRouting.Route.Path
import ReliableRouting.Route.Shortest

/-!
# The best routes

The cheapest routes between two elements, as many as asked for or as there are. After the
cheapest one, every further route deviates from one that is accepted already: it follows
that route up to some element, the spur, and leaves it there. For each spur of the route
accepted last, the links by which accepted routes leave the same root are banned, and so are
the elements of the root; a cheapest route from the spur then completes the root to a
candidate. The first of the cheapest candidates is accepted next.
-/

namespace ReliableRouting

/-- A place where routes may leave an accepted one: the links and elements of the root, and
what is banned from the spur on. -/
structure Spur where
  root : List LinkId
  rootStops : List Element
  element : Element
  bans : Bans

namespace Route

/-- The link by which a route leaves a root, if it begins with the root. -/
def linkAfter? (root : List LinkId) (r : Route) : Option LinkId :=
  if r.links.take root.length = root then r.links[root.length]? else none

/-- The spur at a position of a route. -/
def spurAt (accepted : List Route) (r : Route) (i : Nat) (e : Element) : Spur where
  root := r.links.take i
  rootStops := r.stops.take i
  element := e
  bans := ⟨accepted.filterMap (linkAfter? (r.links.take i)), r.stops.take i⟩

/-- The spurs of a route, one for each element but the last. -/
def spurs (accepted : List Route) (r : Route) : List Spur :=
  (r.stops.take r.links.length).zipIdx.map fun (e, i) => r.spurAt accepted i e

end Route

/-- The links at some places, those that exist. -/
def Network.linksAt (net : Network) (ids : List LinkId) : List Link :=
  ids.filterMap net.link?

namespace Spur

/-- The cheapest route that leaves at the spur, costed as a whole. -/
def route? (net : Network) (w : Weigher) (dst : Element) (s : Spur) : Option Route :=
  (net.shortest? w s.bans s.element dst).map fun tail =>
    let links := s.root ++ tail.links
    ⟨links, s.rootStops ++ tail.stops, w.total (net.linksAt links)⟩

end Spur

/-- The routes accepted so far, in that order, with the last of them, and the candidates. -/
structure Pool where
  accepted : List Route
  last : Route
  candidates : List Route

namespace Pool

/-- Adds a candidate unless its links are those of a route known already. -/
def addCandidate (accepted candidates : List Route) (r : Route) : List Route :=
  if (accepted ++ candidates).any fun known => known.links = r.links then candidates
  else candidates ++ [r]

/-- The candidates with those that leave the last route. -/
def widened (net : Network) (w : Weigher) (dst : Element) (p : Pool) : List Route :=
  ((p.last.spurs p.accepted).filterMap (Spur.route? net w dst)).foldl
    (addCandidate p.accepted) p.candidates

/-- Accepts one more route, if there is a candidate. -/
def next? (net : Network) (w : Weigher) (dst : Element) (p : Pool) : Option Pool :=
  (takeCheapest Route.cost (p.widened net w dst)).map fun (best, others) =>
    ⟨p.accepted ++ [best], best, others⟩

/-- Accepts up to `n` more routes. -/
def grow (net : Network) (w : Weigher) (dst : Element) : Nat → Pool → Pool
  | 0, p => p
  | n + 1, p =>
    match p.next? net w dst with
    | none => p
    | some q => grow net w dst n q

/-- The pools that are widened on the way to `n` more routes. -/
def widenings (net : Network) (w : Weigher) (dst : Element) : Nat → Pool → List Pool
  | 0, _ => []
  | n + 1, p =>
    p :: match p.next? net w dst with
      | none => []
      | some q => widenings net w dst n q

end Pool

namespace Route

/-- Routes in the order of their costs, those of equal cost as they stand. -/
def sortByCost (routes : List Route) : List Route :=
  routes.mergeSort fun a b => decide (a.cost ≤ b.cost)

/-- The path along a route. -/
def path? (net : Network) (r : Route) : Option Path :=
  let links := net.linksAt r.links
  if h : links ≠ [] then some ⟨links, r.cost, h⟩ else none

end Route

namespace Network

/-- Both ends are elements of the network. -/
def connects (net : Network) (src dst : Element) : Bool :=
  net.contains src && net.contains dst

/-- Up to `k` routes from one element to another, by cost. -/
def bestRoutes (net : Network) (w : Weigher) (src dst : Element) (k : Nat) : List Route :=
  if k = 0 ∨ src = dst ∨ ¬ net.connects src dst then
    []
  else
    match net.shortest? w {} src dst with
    | none => []
    | some first =>
      Route.sortByCost (Pool.grow net w dst (k - 1) ⟨[first], first, []⟩).accepted

/-- Up to `k` cheapest paths from one element to another, by cost. There are none from an
element to itself. -/
def search (net : Network) (w : Weigher) (src dst : Element) (k : Nat) : List Path :=
  (net.bestRoutes w src dst k).filterMap (Route.path? net)

/-! ### Journal -/

/-- What widening a pool adds to the journal. -/
def wideningJournal (net : Network) (w : Weigher) (dst : Element) (p : Pool) : Journal :=
  (p.last.spurs p.accepted).flatMap fun s => net.shortestJournal w s.bans s.element dst

/-- What a search adds to the journal. -/
def searchJournal (net : Network) (w : Weigher) (src dst : Element) (k : Nat) : Journal :=
  let ends := src.id ++ " => " ++ dst.id
  if k = 0 ∨ src = dst then
    []
  else if ¬ net.connects src dst then
    [⟨.debug, "NoPathFound: " ++ ends ++ " (unknown endpoint)"⟩]
  else
    net.shortestJournal w {} src dst ++
      match net.shortest? w {} src dst with
      | none => [⟨.debug, "NoPathFound: " ++ ends⟩]
      | some first =>
        (Pool.widenings net w dst (k - 1) ⟨[first], first, []⟩).flatMap
            (net.wideningJournal w dst) ++
          [⟨.debug, "Found " ++ toString (net.bestRoutes w src dst k).length ++ " path(s) for "
            ++ ends ++ " (k = " ++ toString k ++ ")."⟩]

end Network

end ReliableRouting
