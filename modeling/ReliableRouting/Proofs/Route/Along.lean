import ReliableRouting.Proofs.Route.Best

/-!
# Paths along routes

The links of a route are chained and lead through no element twice, so they make a path when
they are put together by hand, and that path costs what the route costs. A search returns
just these paths for the best routes.
-/

namespace ReliableRouting

variable {net : Network} {w : Weigher} {bans : Bans} {src dst : Element} {k : ℕ}

namespace Network

theorem IsWalk.linksAt_ne_nil {ids : List LinkId} (h : net.IsWalk w bans src ids dst)
    (hne : src ≠ dst) :
  net.linksAt ids ≠ []
  := by
  cases ids with
  | nil => apply absurd h hne
  | cons i ids =>
      obtain ⟨l, hl, -⟩ := h
      rw [linksAt_cons hl]
      apply List.cons_ne_nil

theorem IsWalk.isChain {ids : List LinkId} (h : net.IsWalk w bans src ids dst) :
  IsChain (net.linksAt ids)
  := by
  induction ids generalizing src with
  | nil => trivial
  | cons i ids ih =>
      obtain ⟨l, hl, -, -, hrest⟩ := h
      rw [linksAt_cons hl]
      cases ids with
      | nil => trivial
      | cons j ids =>
          have hchain := ih hrest
          obtain ⟨m, hm, hsrc, -, -⟩ := hrest
          rw [linksAt_cons hm] at hchain ⊢
          exact ⟨hsrc.symm, hchain⟩

/-- The elements that the links of a walk visit. -/
theorem IsWalk.stopsOf {ids : List LinkId} (h : net.IsWalk w bans src ids dst)
    (hne : src ≠ dst) :
  stopsOf (net.linksAt ids) = src :: net.targets ids
  := by
  cases ids with
  | nil => apply absurd h hne
  | cons i ids =>
      obtain ⟨l, hl, rfl, -, -⟩ := h
      rw [targets, linksAt_cons hl]
      rfl

namespace IsRoute

variable {ids : List LinkId}

/-- The links of a route make a path that costs what they cost. -/
theorem ofLinks?_eq (h : net.IsRoute w src dst ids) (hne : src ≠ dst) :
  Path.ofLinks? w (net.linksAt ids)
    = some ⟨net.linksAt ids, net.cost w ids, h.isWalk.linksAt_ne_nil hne⟩
  := by
  have hnodup := h.nodup
  rw [← h.isWalk.stopsOf hne] at hnodup
  rw [Path.ofLinks?, dif_pos ⟨h.isWalk.linksAt_ne_nil hne, h.isWalk.isChain, hnodup⟩]
  rfl

end IsRoute

end Network

theorem Route.Valid.path?_eq {r : Route} (h : r.Valid net w src dst) (hne : src ≠ dst) :
  r.path? net = Path.ofLinks? w (net.linksAt r.links)
  := by
  rw [h.isRoute.ofLinks?_eq hne, Route.path?, dif_pos (h.isRoute.isWalk.linksAt_ne_nil hne)]
  simp only [h.cost_eq]

/-! ### Results -/

variable (net w src dst) in
/-- The path is what the links of a route make when they are put together by hand. -/
structure IsPathAlong (ids : List LinkId) (p : Path) : Prop where
  isRoute : net.IsRoute w src dst ids
  ofLinks?_eq : Path.ofLinks? w (net.linksAt ids) = some p

namespace IsPathAlong

variable {ids : List LinkId} {p : Path} (h : IsPathAlong net w src dst ids p) (hne : src ≠ dst)

include h hne

theorem eq_mk :
  p = ⟨net.linksAt ids, net.cost w ids, h.isRoute.isWalk.linksAt_ne_nil hne⟩
  := by
  apply Option.some.inj
  apply h.ofLinks?_eq.symm.trans (h.isRoute.ofLinks?_eq hne)

theorem links_eq :
  p.links = net.linksAt ids
  := by
  rw [h.eq_mk hne]

theorem cost_eq :
  p.cost = net.cost w ids
  := by
  rw [h.eq_mk hne]

theorem stops_eq :
  p.stops = src :: net.targets ids
  := by
  rw [Path.stops, h.links_eq hne, h.isRoute.isWalk.stopsOf hne]

theorem src_eq :
  p.src.element = src
  := by
  have hhead : p.stops.head? = some p.src.element := by
    obtain ⟨l, links, hlinks⟩ := List.exists_cons_of_ne_nil p.links_ne_nil
    simp [Path.stops, stopsOf, Path.src, Path.first, hlinks]
  rw [h.stops_eq hne, List.head?_cons] at hhead
  apply (Option.some.inj hhead).symm

theorem dst_eq :
  p.dst.element = dst
  := by
  have hlast : p.stops.getLast? = some p.dst.element := by
    obtain ⟨l, links, hlinks⟩ := List.exists_cons_of_ne_nil p.links_ne_nil
    have hstops : p.stops = l.src.element :: p.links.map (·.dst.element) := by
      rw [Path.stops, hlinks]
      rfl
    rw [hstops, List.getLast?_cons, List.getLast?_map,
      List.getLast?_eq_some_getLast p.links_ne_nil]
    rfl
  rw [h.stops_eq hne, List.getLast?_eq_some_getLast (List.cons_ne_nil _ _),
    h.isRoute.isWalk.getLast_eq] at hlast
  apply (Option.some.inj hlast).symm

/-- The links of the path are viable links of the network. -/
theorem viable {l : Link} (hl : l ∈ p.links) :
  l ∈ net.links ∧ l.isExcluded = false ∧ (w.weight l).isFinite = true
  := by
  rw [h.links_eq hne] at hl
  apply h.isRoute.isWalk.viable hl

end IsPathAlong

/-! ### The search -/

theorem map_some_filterMap {α β : Type} {f : α → Option β} {items : List α}
    (h : ∀ a ∈ items, (f a).isSome = true) :
  (items.filterMap f).map some = items.map f
  := by
  induction items with
  | nil => rfl
  | cons a items ih =>
      obtain ⟨b, hb⟩ := Option.isSome_iff_exists.mp (h a List.mem_cons_self)
      rw [List.filterMap_cons_some hb, List.map_cons, List.map_cons, hb,
        ih fun a' ha' => h a' (List.mem_cons_of_mem a ha')]

namespace Network

variable (net w src dst k) in
/-- The links of the best routes, known by their places. -/
def bestPlaces : List (List LinkId) :=
  (net.bestRoutes w src dst k).map Route.links

/-- There is nothing to find from an element to itself or beyond the network. -/
theorem search_eq_nil (h : src = dst ∨ ¬ net.connects src dst = true) :
  net.search w src dst k = []
  := by
  rw [search, bestRoutes_eq_nil h, List.filterMap_nil]

variable (w k) (hne : src ≠ dst) (hconnects : net.connects src dst = true)

include hne hconnects

/-- A search returns the paths along the best routes, in their order. -/
theorem map_some_search :
  (net.search w src dst k).map some
    = (net.bestPlaces w src dst k).map fun ids => Path.ofLinks? w (net.linksAt ids)
  := by
  have hbest := net.isBest_bestRoutes w k hne hconnects
  have hpath : ∀ r ∈ net.bestRoutes w src dst k,
      r.path? net = Path.ofLinks? w (net.linksAt r.links) :=
    fun r hr => (hbest.valid r hr).path?_eq hne
  rw [search, bestPlaces, List.map_map]
  apply Eq.trans (map_some_filterMap _) (List.map_congr_left hpath)
  intro r hr
  rw [hpath r hr, (hbest.valid r hr).isRoute.ofLinks?_eq hne]
  rfl

theorem length_search :
  (net.search w src dst k).length = (net.bestRoutes w src dst k).length
  := by
  have hlength := congrArg List.length (net.map_some_search w k hne hconnects)
  rw [bestPlaces, List.length_map, List.length_map, List.length_map] at hlength
  apply hlength

/-- A search for some path returns none only if there is no route. -/
theorem search_eq_nil_iff (hk : 1 ≤ k) :
  net.search w src dst k = [] ↔ ∀ ids, ¬ net.IsRoute w src dst ids
  := by
  rw [← (net.isBest_bestRoutes w k hne hconnects).eq_nil_iff hk, ← List.length_eq_zero_iff,
    net.length_search w k hne hconnects, List.length_eq_zero_iff]

/-- The paths of a search are those along the best routes. -/
theorem mem_search_iff {p : Path} :
  p ∈ net.search w src dst k
    ↔ ∃ ids ∈ net.bestPlaces w src dst k, IsPathAlong net w src dst ids p
  := by
  have hbest := net.isBest_bestRoutes w k hne hconnects
  rw [← List.mem_map_of_injective (Option.some_injective Path),
    net.map_some_search w k hne hconnects, List.mem_map]
  constructor
  · rintro ⟨ids, hids, hp⟩
    exact ⟨ids, hids, hbest.isRoute_of_mem hids, hp⟩
  · rintro ⟨ids, hids, -, hp⟩
    exact ⟨ids, hids, hp⟩

/-- The costs of the paths are those of the best routes. -/
theorem map_cost_search :
  (net.search w src dst k).map Path.cost = (net.bestRoutes w src dst k).map Route.cost
  := by
  have hbest := net.isBest_bestRoutes w k hne hconnects
  have hcost : ∀ r ∈ net.bestRoutes w src dst k,
      (Path.ofLinks? w (net.linksAt r.links)).map Path.cost = some r.cost := by
    intro r hr
    rw [(hbest.valid r hr).isRoute.ofLinks?_eq hne, (hbest.valid r hr).cost_eq]
    rfl
  apply List.map_injective_iff.mpr (Option.some_injective Weight)
  calc
    ((net.search w src dst k).map Path.cost).map some
      = ((net.search w src dst k).map some).map (Option.map Path.cost) := by
        rw [List.map_map, List.map_map]
        rfl
    _ = (net.bestRoutes w src dst k).map fun r =>
          (Path.ofLinks? w (net.linksAt r.links)).map Path.cost := by
        rw [net.map_some_search w k hne hconnects, bestPlaces, List.map_map, List.map_map]
        rfl
    _ = ((net.bestRoutes w src dst k).map Route.cost).map some := by
        rw [List.map_congr_left hcost, List.map_map]
        rfl

/-- A search returns paths by cost. -/
theorem pairwise_search :
  (net.search w src dst k).Pairwise fun p q => p.cost ≤ q.cost
  := by
  have hsorted := List.pairwise_map.mpr (net.isBest_bestRoutes w k hne hconnects).sorted
  rw [← net.map_cost_search w k hne hconnects] at hsorted
  apply List.pairwise_map.mp hsorted

/-- Unless something is rounded, no route that is left out is cheaper than a path
returned. -/
theorem cost_le_of_not_mem_bestPlaces (hexact : net.AddsExactly w) {p : Path}
    (hp : p ∈ net.search w src dst k) {ids : List LinkId} (hids : net.IsRoute w src dst ids)
    (hnew : ids ∉ net.bestPlaces w src dst k) :
  p.cost ≤ net.cost w ids
  := by
  have hmem : p.cost ∈ (net.search w src dst k).map Path.cost := List.mem_map_of_mem hp
  rw [net.map_cost_search w k hne hconnects] at hmem
  obtain ⟨r, hr, heq⟩ := List.mem_map.mp hmem
  rw [← heq]
  apply (net.isBest_bestRoutes w k hne hconnects).optimal hexact r hr ids hids hnew

/-- A search that returns fewer paths than asked for returns all. -/
theorem mem_search_of_length_lt (hlength : (net.search w src dst k).length < k)
    {ids : List LinkId} {p : Path} (hp : IsPathAlong net w src dst ids p) :
  p ∈ net.search w src dst k
  := by
  apply (net.mem_search_iff w k hne hconnects).mpr
  rw [net.length_search w k hne hconnects] at hlength
  refine ⟨ids, ?_, hp⟩
  apply ((net.isBest_bestRoutes w k hne hconnects).exhausted.resolve_left hlength.ne) ids
    hp.isRoute

end Network

/-- A search returns paths along routes, between different elements of the network. -/
theorem Network.of_mem_search {p : Path} (hp : p ∈ net.search w src dst k) :
  src ≠ dst ∧ net.connects src dst = true ∧ ∃ ids, IsPathAlong net w src dst ids p
  := by
  by_cases hends : src = dst ∨ ¬ net.connects src dst = true
  · rw [search_eq_nil hends] at hp
    cases hp
  · rw [not_or, not_not] at hends
    obtain ⟨hne, hconnects⟩ := hends
    obtain ⟨ids, -, halong⟩ := (net.mem_search_iff w k hne hconnects).mp hp
    exact ⟨hne, hconnects, ids, halong⟩

namespace Network

variable {p : Path} {l : Link} (hp : p ∈ net.search w src dst k) (hl : l ∈ p.links)

include hp hl

/-- The links of a path that a search returns are viable links of the network. -/
theorem viable_of_mem_search :
  l ∈ net.links ∧ l.isExcluded = false ∧ (w.weight l).isFinite = true
  := by
  obtain ⟨hne, -, ids, halong⟩ := of_mem_search hp
  apply halong.viable hne hl

/-- The links of a path that a search returns are not optical. -/
theorem not_optical_of_mem_search :
  l.type ≠ .optical
  := by
  obtain ⟨-, hexcluded, -⟩ := viable_of_mem_search hp hl
  obtain ⟨-, hoptical, -⟩ := Link.isExcluded_eq_false_iff.mp hexcluded
  apply hoptical

end Network

end ReliableRouting
