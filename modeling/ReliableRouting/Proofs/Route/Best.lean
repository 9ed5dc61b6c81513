import ReliableRouting.Proofs.Route.Pool

/-!
# The best routes

The best routes are as many as were asked for, or all there are. They are different routes
in the order of their costs. Unless something is rounded, no other route is cheaper than any
of them, so their costs are the least ones.
-/

namespace ReliableRouting

variable {net : Network} {w : Weigher} {src dst : Element} {k : ℕ}

namespace Route

theorem mem_sortByCost_iff {routes : List Route} {r : Route} :
  r ∈ sortByCost routes ↔ r ∈ routes
  := List.mem_mergeSort

theorem sortByCost_perm (routes : List Route) :
  (sortByCost routes).Perm routes
  := List.mergeSort_perm _ _

theorem pairwise_sortByCost (routes : List Route) :
  (sortByCost routes).Pairwise fun a b => a.cost ≤ b.cost
  := by
  have hsorted := @List.pairwise_mergeSort _ (fun a b : Route => decide (a.cost ≤ b.cost))
    (fun a b c hab hbc => by
      rw [decide_eq_true_iff] at hab hbc ⊢
      apply Weight.le_trans hab hbc)
    (fun a b => by
      rw [Bool.or_eq_true, decide_eq_true_iff, decide_eq_true_iff]
      apply Weight.le_total)
    routes
  apply hsorted.imp fun h => of_decide_eq_true h

end Route

variable (net w src dst k) in
/-- Routes that are the best ones: different routes by cost, as many as asked for or all
there are, and none of the others cheaper unless something is rounded. -/
structure IsBest (routes : List Route) : Prop where
  valid : ∀ r ∈ routes, r.Valid net w src dst
  nodup : (routes.map Route.links).Nodup
  sorted : routes.Pairwise fun a b => a.cost ≤ b.cost
  length_le : routes.length ≤ k
  exhausted : routes.length = k ∨ ∀ ids, net.IsRoute w src dst ids → ids ∈ routes.map Route.links
  optimal : net.AddsExactly w → Pool.IsOptimal net w src dst routes

/-! ### The search -/

theorem isBest_zero :
  IsBest net w src dst 0 []
  where
  valid r hr := by cases hr
  nodup := List.nodup_nil
  sorted := List.Pairwise.nil
  length_le := le_rfl
  exhausted := .inl rfl
  optimal _ r hr := by cases hr

theorem isBest_nil (h : ∀ ids, ¬ net.IsRoute w src dst ids) :
  IsBest net w src dst k []
  where
  valid r hr := by cases hr
  nodup := List.nodup_nil
  sorted := List.Pairwise.nil
  length_le := Nat.zero_le k
  exhausted := .inr fun ids hids => absurd hids (h ids)
  optimal _ r hr := by cases hr

/-- The accepted routes of a pool that was grown are the best ones. -/
theorem Pool.Invariant.isBest {first : Route} (h : first.Valid net w src dst)
    (hcheapest : ∀ ids, net.IsRoute w src dst ids → first.cost ≤ net.cost w ids) (n : ℕ) :
  IsBest net w src dst (n + 1)
    (Route.sortByCost (Pool.grow net w dst n ⟨[first], first, []⟩).accepted)
  := by
  have hinitial := Pool.Invariant.initial h
  have hoptimal : Pool.IsOptimal net w src dst [first] := by
    intro r hr ids hids _
    rw [List.mem_singleton.mp hr]
    apply hcheapest ids hids
  have hperm := Route.sortByCost_perm (Pool.grow net w dst n ⟨[first], first, []⟩).accepted
  have hgrown := hinitial.grow n
  obtain ⟨hle, hlength⟩ := hinitial.length_grow n
  rw [List.length_singleton, Nat.add_comm] at hle hlength
  constructor
  · intro r hr
    apply hgrown.valid_accepted (hperm.mem_iff.mp hr)
  · apply (hperm.map Route.links).nodup_iff.mpr
    have hnodup := hgrown.nodup
    rw [List.map_append] at hnodup
    apply hnodup.of_append_left
  · apply Route.pairwise_sortByCost
  · rw [hperm.length_eq]
    apply hle
  · rw [hperm.length_eq]
    apply hlength.imp_right fun hall ids hids => (hperm.map Route.links).mem_iff.mpr (hall ids hids)
  · intro hexact r hr ids hids hnew
    rw [(hperm.map Route.links).mem_iff] at hnew
    apply hoptimal.grow hinitial hexact n r (hperm.mem_iff.mp hr) ids hids hnew

theorem Network.valid_of_shortest?_eq_some {r : Route} (h : net.shortest? w {} src dst = some r) :
  r.Valid net w src dst
  := by
  obtain ⟨hwalk, hstops, hnodup, hcost, -⟩ := Network.of_shortest?_eq_some h
  exact ⟨⟨hwalk, hstops ▸ hnodup⟩, hstops, hcost⟩

section Connected

variable (hne : src ≠ dst) (hconnects : net.connects src dst = true)

include hne hconnects

/-- The best routes are the accepted ones by cost. -/
theorem Network.bestRoutes_eq_sortByCost {first : Route}
    (hfirst : net.shortest? w {} src dst = some first) (n : ℕ) :
  net.bestRoutes w src dst (n + 1)
    = Route.sortByCost (Pool.grow net w dst n ⟨[first], first, []⟩).accepted
  := by
  rw [Network.bestRoutes, if_neg (by simp [hne, hconnects]), hfirst, Nat.add_sub_cancel]

variable (w k) in
/-- A search finds the best routes. -/
theorem Network.isBest_bestRoutes :
  IsBest net w src dst k (net.bestRoutes w src dst k)
  := by
  cases k with
  | zero =>
      rw [Network.bestRoutes, if_pos (.inl rfl)]
      apply isBest_zero
  | succ n =>
      cases hfirst : net.shortest? w {} src dst with
      | none =>
          rw [Network.bestRoutes, if_neg (by simp [hne, hconnects]), hfirst]
          apply isBest_nil
          intro ids hids
          apply Network.not_isWalk_of_shortest?_eq_none hfirst ids hids.isWalk
      | some first =>
          rw [Network.bestRoutes_eq_sortByCost hne hconnects hfirst]
          obtain ⟨-, -, -, -, hcheapest⟩ := Network.of_shortest?_eq_some hfirst
          apply Pool.Invariant.isBest (Network.valid_of_shortest?_eq_some hfirst)
          intro ids hids
          apply hcheapest ids hids.isWalk

end Connected

theorem Network.bestRoutes_eq_nil (h : src = dst ∨ ¬ net.connects src dst = true) :
  net.bestRoutes w src dst k = []
  := by
  rw [Network.bestRoutes, if_pos (.inr h)]

/-! ### What there is to find -/

namespace IsBest

variable {routes : List Route} (h : IsBest net w src dst k routes)

include h

theorem isRoute_of_mem {ids : List LinkId} (hids : ids ∈ routes.map Route.links) :
  net.IsRoute w src dst ids
  := by
  obtain ⟨r, hr, rfl⟩ := List.mem_map.mp hids
  apply (h.valid r hr).isRoute

theorem toFinset_subset :
  (routes.map Route.links).toFinset ⊆ (net.finite_routes w src dst).toFinset
  := by
  intro ids hids
  rw [Set.Finite.mem_toFinset]
  apply h.isRoute_of_mem (List.mem_toFinset.mp hids)

theorem card_toFinset :
  (routes.map Route.links).toFinset.card = routes.length
  := by
  rw [List.toFinset_card_of_nodup h.nodup, List.length_map]

theorem length_le_ncard :
  routes.length ≤ (net.routes w src dst).ncard
  := by
  rw [Set.ncard_eq_toFinset_card _ (net.finite_routes w src dst), ← h.card_toFinset]
  apply Finset.card_le_card h.toFinset_subset

/-- The best routes are as many as asked for, or all there are. -/
theorem length_eq :
  routes.length = min k (net.routes w src dst).ncard
  := by
  apply le_antisymm (le_min h.length_le h.length_le_ncard)
  obtain hlength | hall := h.exhausted
  · rw [hlength]
    apply min_le_left
  · apply (min_le_right _ _).trans
    rw [Set.ncard_eq_toFinset_card _ (net.finite_routes w src dst), ← h.card_toFinset]
    apply Finset.card_le_card
    intro ids hids
    rw [Set.Finite.mem_toFinset] at hids
    apply List.mem_toFinset.mpr (hall ids hids)

theorem mem_of_ncard_le (hk : (net.routes w src dst).ncard ≤ k) {ids : List LinkId}
    (hids : net.IsRoute w src dst ids) :
  ids ∈ routes.map Route.links
  := by
  have hcard : (net.finite_routes w src dst).toFinset.card
      ≤ (routes.map Route.links).toFinset.card := by
    rw [← Set.ncard_eq_toFinset_card _ (net.finite_routes w src dst), h.card_toFinset, h.length_eq,
      min_eq_right hk]
  have heq := Finset.eq_of_subset_of_card_le h.toFinset_subset hcard
  rw [← List.mem_toFinset, heq, Set.Finite.mem_toFinset]
  apply hids

theorem eq_nil_iff (hk : 1 ≤ k) :
  routes = [] ↔ ∀ ids, ¬ net.IsRoute w src dst ids
  := by
  constructor
  · rintro rfl ids hids
    obtain hlength | hall := h.exhausted
    · rw [← hlength] at hk
      cases hk
    · cases hall ids hids
  · intro hnone
    apply List.eq_nil_iff_forall_not_mem.mpr
    intro r hr
    apply hnone r.links (h.valid r hr).isRoute

/-- The routes are the best ones and the rest. -/
theorem exists_rest :
  ∃ rest : Multiset (List LinkId),
    (net.finite_routes w src dst).toFinset.val = ↑(routes.map Route.links) + rest
      ∧ ∀ ids ∈ rest, net.IsRoute w src dst ids ∧ ids ∉ routes.map Route.links
  := by
  have hle : (↑(routes.map Route.links) : Multiset (List LinkId))
      ≤ (net.finite_routes w src dst).toFinset.val := by
    apply (Multiset.le_iff_subset (Multiset.coe_nodup.mpr h.nodup)).mpr
    intro ids hids
    rw [Finset.mem_val, Set.Finite.mem_toFinset]
    apply h.isRoute_of_mem (Multiset.mem_coe.mp hids)
  obtain ⟨rest, hrest⟩ := Multiset.le_iff_exists_add.mp hle
  refine ⟨rest, hrest, ?_⟩
  intro ids hids
  have hnodup := (net.finite_routes w src dst).toFinset.nodup
  have hmem : ids ∈ (net.finite_routes w src dst).toFinset.val := by
    rw [hrest]
    apply Multiset.mem_add.mpr (.inr hids)
  rw [Finset.mem_val, Set.Finite.mem_toFinset] at hmem
  rw [hrest, Multiset.nodup_add] at hnodup
  refine ⟨hmem, ?_⟩
  intro hbest
  apply Multiset.disjoint_left.mp hnodup.2.2 (Multiset.mem_coe.mpr hbest) hids

theorem map_cost_eq :
  (routes.map Route.links).map (fun ids => (net.cost w ids).steps)
    = routes.map fun r => r.cost.steps
  := by
  rw [List.map_map]
  apply List.map_congr_left
  intro r hr
  rw [Function.comp_apply, (h.valid r hr).cost_eq]

/-- Sorted, the costs of all routes are those of the best ones and then those of the rest. -/
theorem sort_eq_append (hexact : net.AddsExactly w) {rest : Multiset (List LinkId)}
    (hall : (net.finite_routes w src dst).toFinset.val = ↑(routes.map Route.links) + rest)
    (hrest : ∀ ids ∈ rest, net.IsRoute w src dst ids ∧ ids ∉ routes.map Route.links) :
  ((net.finite_routes w src dst).toFinset.val.map fun ids => (net.cost w ids).steps).sort
    = routes.map (fun r => r.cost.steps)
      ++ (rest.map fun ids => (net.cost w ids).steps).sort
  := by
  apply List.Perm.eq_of_pairwise' (Multiset.pairwise_sort _ _)
  · rw [List.pairwise_append]
    refine ⟨?_, Multiset.pairwise_sort _ _, ?_⟩
    · apply List.pairwise_map.mpr (h.sorted.imp fun hle => Weight.le_iff.mp hle)
    · intro x hx y hy
      obtain ⟨r, hr, rfl⟩ := List.mem_map.mp hx
      obtain ⟨ids, hids, rfl⟩ := Multiset.mem_map.mp ((Multiset.mem_sort _).mp hy)
      obtain ⟨hroute, hnew⟩ := hrest ids hids
      apply Weight.le_iff.mp (h.optimal hexact r hr ids hroute hnew)
  · rw [← Multiset.coe_eq_coe, Multiset.sort_eq, ← Multiset.coe_add, Multiset.sort_eq, hall,
      Multiset.map_add, Multiset.map_coe, h.map_cost_eq]

/-- The costs of the best routes are the least ones, each as often as there are routes of
that cost. -/
theorem map_cost_eq_take (hexact : net.AddsExactly w) :
  routes.map (fun r => r.cost.steps)
    = (((net.finite_routes w src dst).toFinset.val.map
        fun ids => (net.cost w ids).steps).sort).take k
  := by
  obtain ⟨rest, hall, hrest⟩ := h.exists_rest
  rw [h.sort_eq_append hexact hall hrest]
  rcases h.exhausted with hlength | hlisted
  · rw [List.take_left' (by rw [List.length_map, hlength])]
  · have hempty : rest = 0 := by
      apply Multiset.eq_zero_of_forall_notMem
      intro ids hids
      apply (hrest ids hids).2 (hlisted ids (hrest ids hids).1)
    rw [hempty, Multiset.map_zero, Multiset.sort_zero, List.append_nil, List.take_of_length_le]
    rw [List.length_map]
    apply h.length_le

end IsBest

end ReliableRouting
