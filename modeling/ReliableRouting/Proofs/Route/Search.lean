import ReliableRouting.Proofs.Route.Along

/-!
# What a search returns

A search from one element of a network to another returns paths along the best routes. It
loses none: there are as many as were asked for, or one along every route there is. Each of
them is what its links make when they are put together by hand, its cost included. If costs
add up without rounding, they are the paths of the least costs.
-/

namespace ReliableRouting

/-! ### A detour

Two devices are joined by two parallel links, and by a detour over a third device.
-/

namespace Detour

/-- The device where the routes start. -/
def start : Element :=
  .device "start"

/-- The device on the way. -/
def middle : Element :=
  .device "middle"

/-- The device where the routes end. -/
def goal : Element :=
  .device "goal"

/-- A link between first ports. -/
def span (e e' : Element) : Link where
  src := ⟨e, 1⟩
  dst := ⟨e', 1⟩

/-- The network with the detour. -/
def network : Network :=
  ⟨[start, middle, goal], [span start goal, span start goal, span start middle, span middle goal]⟩

/-- The path over the device on the way. -/
def path : Path :=
  ⟨[span start middle, span middle goal], .ofFloat 2, by decide⟩

/-- The route that is found first. -/
def first : Route :=
  ⟨[0], [start, goal], .ofFloat 1⟩

theorem shortest?_eq :
  network.shortest? .hopCount {} start goal = some first
  := by
  decide +kernel

/-- The path along the route that is found first. -/
def direct : Path :=
  ⟨[span start goal], .ofFloat 1, by decide⟩

theorem search_eq :
  network.search .hopCount start goal 1 = [direct]
  := by
  have hne : start ≠ goal := by decide
  have hconnects : network.connects start goal = true := by decide
  rw [Network.search, Network.bestRoutes_eq_sortByCost hne hconnects shortest?_eq, Pool.grow,
    Route.sortByCost, List.mergeSort_singleton]
  decide +kernel

theorem path_mem_search :
  path ∈ network.search .hopCount start goal 3
  := by
  have hne : start ≠ goal := by decide
  have hconnects : network.connects start goal = true := by decide
  rw [Network.search, Network.bestRoutes_eq_sortByCost hne hconnects shortest?_eq]
  apply List.mem_filterMap.mpr
  use ⟨[2, 3], [start, middle, goal], .ofFloat 2⟩
  constructor
  · apply Route.mem_sortByCost_iff.mpr
    decide +kernel
  · decide +kernel

end Detour

/-! ### Optimality, exhaustion, soundness -/

namespace Network

variable {net : Network} {w : Weigher} {src dst : Element}

/-- If costs add up without rounding, as hops do in a network of fewer than `2 ^ 37`
elements, a search returns the cheapest paths by cost: no route left out is cheaper than
any path returned, and the costs are the least ones, each as often as there are routes of
that cost. -/
theorem search_optimal (hne : src ≠ dst) (hconnects : net.connects src dst = true) (k : ℕ)
    (hexact : net.AddsExactly w
      ∨ w = .hopCount ∧ net.IsClosed ∧ net.elements.length < 2 ^ 37) :
  (net.search w src dst k).map some
      = (net.bestPlaces w src dst k).map (fun ids => Path.ofLinks? w (net.linksAt ids))
    ∧ (net.search w src dst k).Pairwise (fun p q => p.cost ≤ q.cost)
    ∧ (∀ ids, net.IsRoute w src dst ids → ids ∉ net.bestPlaces w src dst k →
        ∀ p ∈ net.search w src dst k, p.cost ≤ net.cost w ids)
    ∧ (net.search w src dst k).map (fun p => p.cost.steps)
      = (((net.finite_routes w src dst).toFinset.val.map
          fun ids => (net.cost w ids).steps).sort).take k
  := by
  replace hexact := addsExactly_of_or hexact
  have hbest := net.isBest_bestRoutes w k hne hconnects
  have hcost := net.map_cost_search w k hne hconnects
  refine ⟨net.map_some_search w k hne hconnects, net.pairwise_search w k hne hconnects, ?_, ?_⟩
  · intro ids hids hnew p hp
    apply net.cost_le_of_not_mem_bestPlaces w k hne hconnects hexact hp hids hnew
  · rw [← hbest.map_cost_eq_take hexact]
    have hsteps := congrArg (List.map Weight.steps) hcost
    rw [List.map_map, List.map_map] at hsteps
    apply hsteps

/-- Over the detour no route costs less than the path returned. -/
theorem search_optimal_detour :
  (Detour.network.search .hopCount Detour.start Detour.goal 1).Pairwise
      (fun p q => p.cost ≤ q.cost)
    ∧ ∀ ids, Detour.network.IsRoute .hopCount Detour.start Detour.goal ids →
      ids ∉ Detour.network.bestPlaces .hopCount Detour.start Detour.goal 1 →
        ∀ p ∈ Detour.network.search .hopCount Detour.start Detour.goal 1,
          p.cost ≤ Detour.network.cost .hopCount ids
  := by
  have hexact : Detour.network.AddsExactly .hopCount
      ∨ Weigher.hopCount = .hopCount ∧ Detour.network.IsClosed
        ∧ Detour.network.elements.length < 2 ^ 37 :=
    .inr ⟨rfl, by decide, by decide⟩
  have hne : Detour.start ≠ Detour.goal := by decide
  obtain ⟨-, hsorted, hcheapest, -⟩ := search_optimal hne (by decide) 1 hexact
  exact ⟨hsorted, hcheapest⟩

/-- A search ends and loses no route, however sums are rounded: it returns paths along
different routes, as many as were asked for or one along each route there is. None of its
explorations is cut short. -/
theorem search_exhaustive (hne : src ≠ dst) (hconnects : net.connects src dst = true) (k : ℕ) :
  (net.routes w src dst).Finite
    ∧ (net.search w src dst k).length = min k (net.routes w src dst).ncard
    ∧ (net.search w src dst k).map some
      = (net.bestPlaces w src dst k).map (fun ids => Path.ofLinks? w (net.linksAt ids))
    ∧ (net.bestPlaces w src dst k).Nodup
    ∧ (∀ ids ∈ net.bestPlaces w src dst k, net.IsRoute w src dst ids)
    ∧ ((net.routes w src dst).ncard ≤ k →
        ∀ ids, net.IsRoute w src dst ids → ids ∈ net.bestPlaces w src dst k)
    ∧ (1 ≤ k → (net.search w src dst k = [] ↔ ∀ ids, ¬ net.IsRoute w src dst ids))
    ∧ ∀ bans e fuel, net.links.length + 1 ≤ fuel →
        ReliableRouting.explore (net.passages w bans) dst fuel [] [.start e]
          = net.explore w bans e dst
  := by
  have hbest := net.isBest_bestRoutes w k hne hconnects
  have hlength := net.length_search w k hne hconnects
  refine ⟨net.finite_routes w src dst, ?_, net.map_some_search w k hne hconnects, hbest.nodup,
    fun ids hids => hbest.isRoute_of_mem hids, fun hk ids hids => hbest.mem_of_ncard_le hk hids,
    ?_, fun bans e fuel hfuel => explore_eq_of_le hfuel⟩
  · rw [hlength, hbest.length_eq]
  · intro hk
    rw [← hbest.eq_nil_iff hk, ← List.length_eq_zero_iff, hlength, List.length_eq_zero_iff]

/-- A search for three routes over the detour finds one along each route, or three. -/
theorem search_exhaustive_detour :
  (Detour.network.search .hopCount Detour.start Detour.goal 3).length
    = min 3 (Detour.network.routes .hopCount Detour.start Detour.goal).ncard
  := (search_exhaustive (by decide) (by decide) 3).2.1

/-- A path that a search returns leads from the source to the destination over links of the
network that are active, not optical, without malformed measures and of finite weight. It
leads through no element twice, and it is what its links make when they are put together by
hand, at exactly the same cost. -/
theorem search_sound {k : ℕ} {p : Path} (hp : p ∈ net.search w src dst k) :
  p.src.element = src ∧ p.dst.element = dst
    ∧ (∀ l ∈ p.links, l ∈ net.links ∧ l.isActive = true ∧ l.type ≠ .optical
        ∧ (∃ x, l.latency = .ok x) ∧ (∃ y, l.bandwidth = .ok y)
        ∧ (w.weight l).isFinite = true)
    ∧ p.stops.Nodup
    ∧ Path.ofLinks? w p.links = some p
  := by
  by_cases hends : src = dst ∨ ¬ net.connects src dst = true
  · rw [search_eq_nil hends] at hp
    cases hp
  · rw [not_or, not_not] at hends
    obtain ⟨hne, hconnects⟩ := hends
    obtain ⟨ids, -, halong⟩ := (net.mem_search_iff w k hne hconnects).mp hp
    refine ⟨halong.src_eq hne, halong.dst_eq hne, ?_, ?_, ?_⟩
    · intro l hl
      obtain ⟨hmem, hexcluded, hfinite⟩ := halong.viable hne hl
      obtain ⟨hactive, hoptical, hlatency, hbandwidth⟩ :=
        Link.isExcluded_eq_false_iff.mp hexcluded
      exact ⟨hmem, hactive, hoptical, hlatency, hbandwidth, hfinite⟩
    · rw [halong.stops_eq hne]
      apply halong.isRoute.nodup
    · rw [halong.links_eq hne]
      apply halong.ofLinks?_eq

/-- The detour is found, and it is what its links make. -/
theorem search_sound_detour :
  Detour.path ∈ Detour.network.search .hopCount Detour.start Detour.goal 3
    ∧ Detour.path.stops.Nodup ∧ Path.ofLinks? .hopCount Detour.path.links = some Detour.path
  := by
  have hmem := Detour.path_mem_search
  exact ⟨hmem, (search_sound hmem).2.2.2⟩

end Network

end ReliableRouting
