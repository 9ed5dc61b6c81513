import ReliableRouting.Proofs.Route.Reversal
import ReliableRouting.Proofs.Route.Transit

/-!
# Routes in the opposite direction

In a network where every link has an opposite, taking the opposites of the links of a route, the
last one first, is a route in the opposite direction. This goes both ways, so where costs add up
without rounding, the routes of both directions cost the same, each cost as often. And so do the
best of them. A network that is assembled from a snapshot is such a network if all links of the
snapshot are bidirectional, since hosts are attached both ways anyhow.
-/

namespace ReliableRouting

/-! ### Opposite links -/

/-- The weight of a link does not depend on its direction. -/
def Weigher.IsSymmetric (w : Weigher) : Prop :=
  ∀ l, w.weight l.reversed = w.weight l

theorem Weigher.isSymmetric_hopCount :
  Weigher.hopCount.IsSymmetric
  := fun _ => rfl

namespace Network

variable {net : Network} {w : Weigher} {opposite : LinkId → LinkId} {src dst : Element}
  {ids : List LinkId}

variable (net opposite) in
/-- Every link has an opposite, which is known by its place. -/
structure IsTwoWay : Prop where
  involutive : Function.Involutive opposite
  link?_eq : ∀ i, net.link? (opposite i) = (net.link? i).map Link.reversed

/-- The places of the opposite links, the last one first. -/
def turned (opposite : LinkId → LinkId) (ids : List LinkId) : List LinkId :=
  (ids.map opposite).reverse

theorem turned_cons (i : LinkId) (ids : List LinkId) :
  turned opposite (i :: ids) = turned opposite ids ++ [opposite i]
  := List.reverse_cons

/-! ### Routes -/

section TwoWay

variable (h : net.IsTwoWay opposite)

include h

theorem IsTwoWay.turned_turned (ids : List LinkId) :
  turned opposite (turned opposite ids) = ids
  := by
  rw [turned, turned, List.map_reverse, List.reverse_reverse, List.map_map, h.involutive.comp_self,
    List.map_id]

theorem IsTwoWay.linksAt_turned (ids : List LinkId) :
  net.linksAt (turned opposite ids) = ((net.linksAt ids).map Link.reversed).reverse
  := by
  rw [turned, linksAt, linksAt, List.filterMap_reverse, List.filterMap_map, List.map_filterMap]
  simp only [Function.comp_def, h.link?_eq]

theorem IsWalk.turned (hw : w.IsSymmetric) (hids : net.IsWalk w {} src ids dst) :
  net.IsWalk w {} dst (turned opposite ids) src
  := by
  induction ids generalizing src with
  | nil => exact hids.symm
  | cons i ids ih =>
      obtain ⟨l, hl, hsrc, hadmits, hrest⟩ := hids
      have hopposite : net.link? (opposite i) = some l.reversed := by
        rw [h.link?_eq, hl]
        rfl
      have hadmits' : w.Admits {} (opposite i) l.reversed :=
        ⟨List.not_mem_nil, hadmits.not_excluded, List.not_mem_nil, by
          rw [hw l]
          apply hadmits.isFinite⟩
      rw [turned_cons, isWalk_append]
      exact ⟨l.dst.element, ih hrest, isWalk_singleton.mpr ⟨_, hopposite, rfl, hadmits', hsrc⟩⟩

theorem IsRoute.turned (hw : w.IsSymmetric) (hids : net.IsRoute w src dst ids) (hne : src ≠ dst) :
  net.IsRoute w dst src (turned opposite ids)
  := by
  have hwalk := hids.isWalk.turned h hw
  refine ⟨hwalk, ?_⟩
  rw [← hwalk.stopsOf hne.symm, h.linksAt_turned, hids.isWalk.isChain.stopsOf_reversed,
    hids.isWalk.stopsOf hne, List.nodup_reverse]
  apply hids.nodup

/-- Without rounding, a route costs as much in the opposite direction. -/
theorem IsRoute.steps_cost_turned (hw : w.IsSymmetric) (hexact : net.AddsExactly w)
    (hids : net.IsRoute w src dst ids) (hne : src ≠ dst) :
  (net.cost w (Network.turned opposite ids)).steps = (net.cost w ids).steps
  := by
  rw [hexact _ _ _ hids, hexact _ _ _ (hids.turned h hw hne), h.linksAt_turned, List.map_reverse,
    List.sum_reverse, List.map_map]
  simp only [Function.comp_def, hw _]

theorem toFinset_routes_eq_image (hw : w.IsSymmetric) (hne : src ≠ dst) :
  (net.finite_routes w dst src).toFinset
    = (net.finite_routes w src dst).toFinset.map
      ⟨Network.turned opposite, (Function.LeftInverse.injective h.turned_turned)⟩
  := by
  ext ids
  rw [Set.Finite.mem_toFinset, Finset.mem_map]
  constructor
  · intro hids
    refine ⟨Network.turned opposite ids, ?_, h.turned_turned ids⟩
    rw [Set.Finite.mem_toFinset]
    apply IsRoute.turned h hw hids hne.symm
  · rintro ⟨ids', hids', rfl⟩
    rw [Set.Finite.mem_toFinset] at hids'
    apply IsRoute.turned h hw hids' hne

/-- Without rounding, the routes of both directions cost the same, each cost as often. -/
theorem map_steps_cost_routes_eq (hw : w.IsSymmetric) (hexact : net.AddsExactly w)
    (hne : src ≠ dst) :
  (net.finite_routes w dst src).toFinset.val.map (fun ids => (net.cost w ids).steps)
    = (net.finite_routes w src dst).toFinset.val.map fun ids => (net.cost w ids).steps
  := by
  rw [toFinset_routes_eq_image h hw hne, Finset.map_val, Multiset.map_map]
  apply Multiset.map_congr rfl
  intro ids hids
  rw [Finset.mem_val, Set.Finite.mem_toFinset] at hids
  apply IsRoute.steps_cost_turned h hw hexact hids hne

/-- Without rounding, the searches in both directions return paths of the same costs. -/
theorem map_steps_search_eq (hw : w.IsSymmetric) (hexact : net.AddsExactly w) (hne : src ≠ dst)
    (hconnects : net.connects src dst = true) (k : ℕ) :
  (net.search w src dst k).map (fun p => p.cost.steps)
    = (net.search w dst src k).map fun p => p.cost.steps
  := by
  have hconnects' : net.connects dst src = true := by
    rw [connects, Bool.and_comm]
    apply hconnects
  have hsteps : ∀ {src dst}, src ≠ dst → net.connects src dst = true →
      (net.search w src dst k).map (fun p => p.cost.steps)
        = (((net.finite_routes w src dst).toFinset.val.map
          fun ids => (net.cost w ids).steps).sort).take k := by
    intro src dst hne hconnects
    rw [← (net.isBest_bestRoutes w k hne hconnects).map_cost_eq_take hexact]
    have hcost := congrArg (List.map Weight.steps) (net.map_cost_search w k hne hconnects)
    rw [List.map_map, List.map_map] at hcost
    exact hcost
  rw [hsteps hne hconnects, hsteps hne.symm hconnects', map_steps_cost_routes_eq h hw hexact hne]

/-- In a network of fewer than `2 ^ 37` elements, the searches in both directions return paths of
the same numbers of hops. -/
theorem map_cost_search_hopCount_eq (hclosed : net.IsClosed) (hsmall : net.elements.length < 2 ^ 37)
    (src dst : Element) (k : ℕ) :
  (net.search .hopCount src dst k).map Path.cost = (net.search .hopCount dst src k).map Path.cost
  := by
  by_cases hends : src = dst ∨ ¬ net.connects src dst = true
  · have hends' : dst = src ∨ ¬ net.connects dst src = true := by
      rw [connects, Bool.and_comm]
      exact hends.imp_left Eq.symm
    rw [search_eq_nil hends, search_eq_nil hends']
  · rw [not_or, not_not] at hends
    obtain ⟨hne, hconnects⟩ := hends
    have hexact := net.addsExactly_hopCount hclosed hsmall
    have hsteps := map_steps_search_eq h Weigher.isSymmetric_hopCount hexact hne hconnects k
    apply Weight.eq_of_map_steps_eq
    · rw [List.map_map, List.map_map]
      exact hsteps
    · intro a ha
      obtain ⟨p, hp, rfl⟩ := List.mem_map.mp ha
      obtain ⟨ids, -, halong⟩ := (net.mem_search_iff .hopCount k hne hconnects).mp hp
      have hviable : ∀ l ∈ p.links, l.isExcluded = false :=
        fun l hl => (halong.viable hne hl).2.1
      have hlinks := halong.links_eq hne
      have hshort : p.links.length < 2 ^ 37 := by
        rw [hlinks, halong.isRoute.isWalk.length_linksAt]
        apply (halong.isRoute.length_le_of_isClosed hclosed).trans_lt hsmall
      rw [halong.cost_eq hne, cost, ← hlinks]
      apply steps_total_hopCount_ne_zero p.links_ne_nil hviable hshort

end TwoWay

/-! ### Links in pairs -/

/-- The other place of a pair. -/
def partner (i : ℕ) : ℕ :=
  if i % 2 = 0 then i + 1 else i - 1

theorem partner_partner :
  Function.Involutive partner
  := by
  intro i
  unfold partner
  split_ifs <;> omega

theorem partner_add_two (i : ℕ) :
  partner (i + 2) = partner i + 2
  := by
  unfold partner
  split_ifs <;> omega

/-- Where links come in pairs of opposites, the opposite of a link is its partner. -/
theorem getElem?_partner {pairs : List (List Link)}
    (hpairs : ∀ pair ∈ pairs, ∃ l : Link, pair = [l, l.reversed]) (i : LinkId) :
  pairs.flatten[partner i]? = (pairs.flatten[i]?).map Link.reversed
  := by
  induction pairs generalizing i with
  | nil => rfl
  | cons pair pairs ih =>
      obtain ⟨⟨l, rfl⟩, hrest⟩ := List.forall_mem_cons.mp hpairs
      match i with
      | 0 => rfl
      | 1 => rfl
      | i + 2 =>
          rw [partner_add_two]
          apply ih hrest

/-- A network described by a snapshot has opposites of all links if the snapshot has. -/
theorem isTwoWay_of_describes {s : Snapshot} (h : s.Describes net)
    (hboth : ∀ e ∈ s.links, e.bidirectional = true) :
  net.IsTwoWay partner
  := by
  obtain ⟨groups, attachments, hgroups, hattachments, hlinks⟩ := h.exists_groups
  have hpairs : ∀ pair ∈ groups ++ attachments, ∃ l : Link, pair = [l, l.reversed] := by
    intro pair hpair
    rcases List.mem_append.mp hpair with hpair | hpair
    · obtain ⟨e, he, l, -, rfl⟩ := exists_mem_of_forall₂ hgroups hpair
      exact ⟨l, if_pos (hboth e he)⟩
    · obtain ⟨e, -, location, -, rfl⟩ := exists_mem_of_forall₂ hattachments hpair
      exact ⟨attachment e.id location, rfl⟩
  refine ⟨partner_partner, ?_⟩
  intro i
  rw [link?, link?, hlinks, ← List.flatten_append]
  apply getElem?_partner hpairs

/-- If all links of a snapshot are bidirectional, then counting hops in the network that is
assembled from it, of fewer than `2 ^ 37` elements, the searches from one element to another and
back return as many paths, of the same costs in turn. -/
theorem search_costs_both_ways {s : Snapshot} (hnet : ofSnapshot s = .ok net)
    (hboth : ∀ e ∈ s.links, e.bidirectional = true) (hsmall : net.elements.length < 2 ^ 37)
    (src dst : Element) (k : ℕ) :
  (net.search .hopCount src dst k).map Path.cost = (net.search .hopCount dst src k).map Path.cost
    ∧ (net.search .hopCount src dst k).length = (net.search .hopCount dst src k).length
  := by
  have htwoWay := isTwoWay_of_describes (describes_of_ofSnapshot hnet) hboth
  have hcosts := map_cost_search_hopCount_eq htwoWay (isClosed_ofSnapshot hnet) hsmall src dst k
  refine ⟨hcosts, ?_⟩
  have hlength := congrArg List.length hcosts
  rw [List.length_map, List.length_map] at hlength
  exact hlength

/-- The path from one host to another costs three hops, and so does the path back. -/
theorem search_costs_both_ways_neighbours :
  ofSnapshot Neighbours.snapshot = .ok Neighbours.network
    ∧ (∀ e ∈ Neighbours.snapshot.links, e.bidirectional = true)
    ∧ (Neighbours.network.search .hopCount (.host "callee") (.host "caller") 1).map Path.cost
      = [.ofFloat 3]
  := by
  obtain ⟨hcosts, -⟩ := search_costs_both_ways Neighbours.ofSnapshot_eq (by decide) (by decide)
    (.host "caller") (.host "callee") 1
  refine ⟨Neighbours.ofSnapshot_eq, by decide, ?_⟩
  rw [← hcosts, Neighbours.search_eq]
  rfl

end Network

end ReliableRouting
