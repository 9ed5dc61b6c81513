import ReliableRouting.Proofs.Route.Walk

/-!
# Cheapest walks

The trails that a search builds are the walks from its source, each with the elements that
it visits and what it costs. Whenever a trail is taken from the frontier, every walk that
leaves the settled elements is represented there by a trail that costs no more, and is at
the same place when it does so. Hence the trail that reaches the destination is a cheapest
walk, and an empty frontier shows that there is none. Each step either takes a trail off
the frontier or replaces it by links that leave an element for the first time, so the
search ends before its fuel does.
-/

namespace ReliableRouting

namespace Network

variable {net : Network} {w : Weigher} {bans : Bans} {src dst : Element}

/-! ### Trails -/

theorem mem_passages_iff {e : Element} {p : Passage} :
  p ∈ net.passages w bans e
    ↔ ∃ l, net.link? p.link = some l ∧ l.src.element = e ∧ w.Admits bans p.link l
        ∧ p.target = l.dst.element ∧ p.weight = w.weight l
  := by
  simp only [passages, List.mem_filterMap, Prod.exists, mem_outgoing_iff, Option.map_eq_some_iff,
    Weigher.passable?_eq_some_iff]
  constructor
  · rintro ⟨i, l, ⟨hl, hsrc⟩, x, ⟨hadmits, rfl⟩, rfl⟩
    exact ⟨l, hl, hsrc, hadmits, rfl, rfl⟩
  · rintro ⟨l, hl, hsrc, hadmits, htarget, hweight⟩
    refine ⟨p.link, l, ⟨hl, hsrc⟩, w.weight l, ⟨hadmits, rfl⟩, ?_⟩
    rw [← htarget, ← hweight]

variable (net w bans src) in
/-- The trails from an element over links that are admitted. -/
inductive IsTrail : Trail → Prop
  | start : IsTrail (.start src)
  | extend {t : Trail} {p : Passage} (ht : IsTrail t) (hp : p ∈ net.passages w bans t.stop) :
    IsTrail (t.extend p)

theorem links_route_extend (t : Trail) (p : Passage) :
  (t.extend p).route.links = t.route.links ++ [p.link]
  := List.reverse_cons

theorem stops_route_extend (t : Trail) (p : Passage) :
  (t.extend p).route.stops = t.route.stops ++ [p.target]
  := by
  simp [Trail.extend, Trail.route]

namespace IsTrail

variable {t : Trail}

theorem isWalk (h : net.IsTrail w bans src t) :
  net.IsWalk w bans src t.route.links t.stop
  := by
  induction h with
  | start => rfl
  | @extend t p _ hp ih =>
      obtain ⟨l, hl, hsrc, hadmits, htarget, -⟩ := mem_passages_iff.mp hp
      rw [links_route_extend, isWalk_append]
      exact ⟨t.stop, ih, isWalk_singleton.mpr ⟨l, hl, hsrc, hadmits, htarget.symm⟩⟩

theorem stops_eq (h : net.IsTrail w bans src t) :
  t.route.stops = src :: net.targets t.route.links
  := by
  induction h with
  | start => rfl
  | @extend t p _ hp ih =>
      obtain ⟨l, hl, -, -, htarget, -⟩ := mem_passages_iff.mp hp
      rw [stops_route_extend, ih, links_route_extend, targets_append, targets_cons hl, htarget]
      rfl

theorem cost_eq (h : net.IsTrail w bans src t) :
  t.cost = net.cost w t.route.links
  := by
  induction h with
  | start => rfl
  | @extend t p _ hp ih =>
      obtain ⟨l, hl, -, -, -, hweight⟩ := mem_passages_iff.mp hp
      rw [links_route_extend, cost_append_singleton hl, ← ih, ← hweight]
      rfl

end IsTrail

/-- Every walk is taken by a trail. -/
theorem IsWalk.exists_trail {e : Element} {ids : List LinkId}
    (h : net.IsWalk w bans src ids e) :
  ∃ t, net.IsTrail w bans src t ∧ t.stop = e ∧ t.route.links = ids
  := by
  induction ids using List.reverseRecOn generalizing e with
  | nil =>
      obtain rfl := h
      exact ⟨.start src, .start, rfl, rfl⟩
  | append_singleton ids i ih =>
      obtain ⟨m, hm, hlast⟩ := isWalk_append.mp h
      obtain ⟨l, hl, hsrc, hadmits, rfl⟩ := isWalk_singleton.mp hlast
      obtain ⟨t, ht, rfl, rfl⟩ := ih hm
      have hp : ⟨i, l.dst.element, w.weight l⟩ ∈ net.passages w bans t.stop :=
        mem_passages_iff.mpr ⟨l, hl, hsrc, hadmits, rfl, rfl⟩
      exact ⟨t.extend _, .extend ht hp, rfl, links_route_extend t _⟩

/-! ### The frontier -/

variable (net w bans src) in
/-- What holds of the settled elements and the frontier whenever a trail is taken. -/
structure Frontier (dst : Element) (settled : List Element) (frontier : List Trail) :
    Prop where
  isTrail : ∀ t ∈ frontier, net.IsTrail w bans src t
  visited_settled : ∀ t ∈ frontier, ∀ s ∈ t.steps, s.2 ∈ settled
  visited_nodup : ∀ t ∈ frontier, (t.steps.map Prod.snd).Nodup
  src_mem : src ∈ settled ∨ .start src ∈ frontier
  dst_not_mem : dst ∉ settled
  /-- A trail that leaves the settled elements is represented. -/
  covers : ∀ t, net.IsTrail w bans src t → t.stop ∈ settled →
    ∀ p ∈ net.passages w bans t.stop, p.target ∉ settled →
      ∃ t' ∈ frontier, t'.stop = p.target ∧ t'.cost ≤ t.cost + p.weight

namespace Frontier

variable {settled : List Element} {frontier others : List Trail} {t : Trail}

/-- Before anything is settled, the frontier holds the trail at its start. -/
theorem initial :
  net.Frontier w bans src dst [] [.start src]
  where
  isTrail t ht := List.mem_singleton.mp ht ▸ .start
  visited_settled t ht s hs := by
    rw [List.mem_singleton.mp ht] at hs
    cases hs
  visited_nodup t ht := by
    rw [List.mem_singleton.mp ht]
    apply List.nodup_nil
  src_mem := .inr (List.mem_singleton_self _)
  dst_not_mem := List.not_mem_nil
  covers t _ ht := absurd ht List.not_mem_nil

/-- A trail to an element that is not settled is no cheaper than one of the frontier: the
one that represents it where it first leaves the settled elements. -/
theorem exists_cost_le (h : net.Frontier w bans src dst settled frontier)
    (ht : net.IsTrail w bans src t) (hstop : t.stop ∉ settled) :
  ∃ t' ∈ frontier, t'.cost ≤ t.cost
  := by
  induction ht with
  | start =>
      have hstart := h.src_mem.resolve_left hstop
      exact ⟨_, hstart, Weight.le_refl _⟩
  | @extend t p ht hp ih =>
      by_cases hmem : t.stop ∈ settled
      · obtain ⟨t', ht', -, hcost⟩ := h.covers t ht hmem p hp hstop
        exact ⟨t', ht', hcost⟩
      · obtain ⟨t', ht', hcost⟩ := ih hmem
        exact ⟨t', ht', Weight.le_trans hcost (Weight.le_add_right _ _)⟩

section Taken

variable (h : net.Frontier w bans src dst settled frontier)
  (htaken : takeCheapest Trail.cost frontier = some (t, others))

include h htaken

/-- The trail taken is no dearer than any that leads to an element not settled. -/
theorem taken_cost_le {t' : Trail} (ht' : net.IsTrail w bans src t')
    (hstop : t'.stop ∉ settled) :
  t.cost ≤ t'.cost
  := by
  obtain ⟨t'', hmem, hcost⟩ := h.exists_cost_le ht' hstop
  apply Weight.le_trans (cost_le_of_takeCheapest htaken hmem) hcost

omit h in
theorem mem_frontier_of_mem_others {t' : Trail} (ht' : t' ∈ others) :
  t' ∈ frontier
  := (perm_of_takeCheapest htaken).mem_iff.mp (List.mem_cons_of_mem _ ht')

omit h in
/-- The trails to elements where the trail taken does not stand are left. -/
theorem mem_others_of_stop_ne {t' : Trail} (ht' : t' ∈ frontier) (hstop : t'.stop ≠ t.stop) :
  t' ∈ others
  := by
  rcases List.mem_cons.mp ((perm_of_takeCheapest htaken).mem_iff.mpr ht') with rfl | hmem
  · apply absurd rfl hstop
  · apply hmem

/-- A trail to a settled element may be dropped. -/
theorem drop (hstop : t.stop ∈ settled) :
  net.Frontier w bans src dst settled others
  where
  isTrail t' ht' := h.isTrail t' (mem_frontier_of_mem_others htaken ht')
  visited_settled t' ht' := h.visited_settled t' (mem_frontier_of_mem_others htaken ht')
  visited_nodup t' ht' := h.visited_nodup t' (mem_frontier_of_mem_others htaken ht')
  src_mem := by
    by_cases hsrc : src = t.stop
    · exact .inl (hsrc ▸ hstop)
    · apply h.src_mem.imp_right fun hstart => mem_others_of_stop_ne htaken hstart hsrc
  dst_not_mem := h.dst_not_mem
  covers t' ht' hmem p hp htarget := by
    obtain ⟨t'', ht'', hstop'', hcost⟩ := h.covers t' ht' hmem p hp htarget
    have hne : t''.stop ≠ t.stop := by
      rw [hstop'']
      rintro heq
      apply htarget (heq ▸ hstop)
    exact ⟨t'', mem_others_of_stop_ne htaken ht'' hne, hstop'', hcost⟩

omit h in
/-- What is on the frontier after settling was there before or continues the trail taken. -/
theorem of_mem_settle {t' : Trail}
    (ht' : t' ∈ others ++ t.continuations (net.passages w bans t.stop) (t.stop :: settled)) :
  t' ∈ frontier ∨ ∃ p ∈ net.passages w bans t.stop, t.extend p = t'
  := by
  rcases List.mem_append.mp ht' with ht' | ht'
  · exact .inl (mem_frontier_of_mem_others htaken ht')
  · obtain ⟨p, hp, rfl⟩ := List.mem_map.mp ht'
    exact .inr ⟨p, (List.mem_filter.mp hp).1, rfl⟩

/-- Settling the element where the trail taken stands puts its continuations on the
frontier. -/
theorem settle (hstop : t.stop ∉ settled) (hdst : t.stop ≠ dst) :
  net.Frontier w bans src dst (t.stop :: settled)
    (others ++ t.continuations (net.passages w bans t.stop) (t.stop :: settled))
  where
  isTrail t' ht' := by
    rcases of_mem_settle htaken ht' with ht' | ⟨p, hp, rfl⟩
    · apply h.isTrail t' ht'
    · apply IsTrail.extend (h.isTrail t (mem_of_takeCheapest htaken)) hp
  visited_settled t' ht' s hs := by
    rcases of_mem_settle htaken ht' with ht' | ⟨p, hp, rfl⟩
    · apply List.mem_cons_of_mem _ (h.visited_settled t' ht' s hs)
    · rcases List.mem_cons.mp hs with rfl | hs
      · apply List.mem_cons_self
      · apply List.mem_cons_of_mem
        apply h.visited_settled t (mem_of_takeCheapest htaken) s hs
  visited_nodup t' ht' := by
    rcases of_mem_settle htaken ht' with ht' | ⟨p, hp, rfl⟩
    · apply h.visited_nodup t' ht'
    · apply List.nodup_cons.mpr
      constructor
      · intro hvisited
        obtain ⟨s, hs, heq⟩ := List.mem_map.mp hvisited
        have hsettled := h.visited_settled t (mem_of_takeCheapest htaken) s hs
        rw [heq] at hsettled
        apply hstop hsettled
      · apply h.visited_nodup t (mem_of_takeCheapest htaken)
  src_mem := by
    by_cases hsrc : src = t.stop
    · exact .inl (hsrc ▸ List.mem_cons_self)
    · apply h.src_mem.imp (List.mem_cons_of_mem _) fun hstart =>
        List.mem_append_left _ (mem_others_of_stop_ne htaken hstart hsrc)
  dst_not_mem := by
    rw [List.mem_cons, not_or]
    exact ⟨hdst.symm, h.dst_not_mem⟩
  covers t' ht' hsettled p hp htarget := by
    have htarget' := htarget
    rw [List.mem_cons, not_or] at htarget'
    by_cases hold : t'.stop ∈ settled
    · obtain ⟨t'', ht'', hstop'', hcost⟩ := h.covers t' ht' hold p hp htarget'.2
      have hleft := mem_others_of_stop_ne htaken ht'' (hstop''.trans_ne htarget'.1)
      exact ⟨t'', List.mem_append_left _ hleft, hstop'', hcost⟩
    · -- The trail stands where the one taken does, and that one is no dearer.
      have hsame : t'.stop = t.stop := (List.mem_cons.mp hsettled).resolve_right hold
      rw [hsame] at hp
      have hcontinues : t.extend p ∈ t.continuations (net.passages w bans t.stop)
          (t.stop :: settled) :=
        List.mem_map_of_mem (List.mem_filter.mpr ⟨hp, decide_eq_true htarget⟩)
      have hcost : t.cost ≤ t'.cost := h.taken_cost_le htaken ht' hold
      exact ⟨t.extend p, List.mem_append_right _ hcontinues, rfl,
        Weight.add_le_add_right hcost p.weight⟩

/-- The elements visited by a trail to an element that is not settled are all different. -/
theorem taken_nodup (hstop : t.stop ∉ settled) :
  t.route.stops.Nodup
  := by
  have hmem := mem_of_takeCheapest htaken
  rw [Trail.route, List.nodup_append]
  refine ⟨List.nodup_reverse.mpr (h.visited_nodup t hmem), List.nodup_singleton _, ?_⟩
  intro e he e' he' heq
  obtain ⟨s, hs, rfl⟩ := List.mem_map.mp (List.mem_reverse.mp he)
  obtain rfl := List.mem_singleton.mp he'
  apply hstop (heq ▸ h.visited_settled t hmem s hs)

end Taken

/-- A trail that an exploration finds is a cheapest one to the destination. -/
theorem of_explore_eq_some {fuel : ℕ} (h : net.Frontier w bans src dst settled frontier)
    (hfound : (ReliableRouting.explore (net.passages w bans) dst fuel settled frontier).found
      = some t) :
  net.IsTrail w bans src t ∧ t.stop = dst ∧ t.route.stops.Nodup
    ∧ ∀ t', net.IsTrail w bans src t' → t'.stop = dst → t.cost ≤ t'.cost
  := by
  fun_induction ReliableRouting.explore (net.passages w bans) dst fuel settled frontier with
  | case1 => cases hfound
  | case2 => cases hfound
  | case3 _ settled frontier t' others htaken hstop ih =>
      apply ih (h.drop htaken hstop) hfound
  | case4 _ settled frontier t' others htaken hstop hdst =>
      obtain rfl := Option.some.inj hfound
      refine ⟨h.isTrail t' (mem_of_takeCheapest htaken), hdst, h.taken_nodup htaken hstop, ?_⟩
      intro t'' ht'' hdst''
      apply h.taken_cost_le htaken ht''
      rw [hdst'']
      apply h.dst_not_mem
  | case5 _ settled frontier t' others htaken hstop hdst _ ih =>
      apply ih (h.settle htaken hstop hdst) hfound

end Frontier

/-! ### Fuel -/

/-- The number of links that leave elements not settled. -/
def pending (net : Network) (settled : List Element) : ℕ :=
  net.links.countP fun l => decide (l.src.element ∉ settled)

theorem length_outgoing (e : Element) :
  (net.outgoing e).length = net.links.countP fun l => decide (l.src.element = e)
  := by
  have hlinks : net.links.zipIdx.map Prod.fst = net.links := List.zipIdx_map_fst 0 net.links
  rw [outgoing, List.length_map, ← List.countP_eq_length_filter]
  conv_rhs => rw [← hlinks, List.countP_map]
  rfl

/-- Settling an element takes the links that leave it off those that are pending. -/
theorem length_outgoing_add_pending {e : Element} {settled : List Element} (h : e ∉ settled) :
  (net.outgoing e).length + net.pending (e :: settled) ≤ net.pending settled
  := by
  rw [length_outgoing]
  unfold pending
  induction net.links with
  | nil => rfl
  | cons l links ih =>
      have hl : (if decide (l.src.element = e) = true then 1 else 0)
          + (if decide (l.src.element ∉ e :: settled) = true then 1 else 0)
          ≤ if decide (l.src.element ∉ settled) = true then 1 else 0 := by
        by_cases he : l.src.element = e
        · simp [he, h]
        · simp [he]
      rw [List.countP_cons, List.countP_cons, List.countP_cons]
      omega

variable (net w bans) in
theorem length_passages_le (e : Element) :
  (net.passages w bans e).length ≤ (net.outgoing e).length
  := List.length_filterMap_le _ _

theorem length_continuations_le (passages : List Passage) (settled : List Element) (t : Trail) :
  (t.continuations passages settled).length ≤ passages.length
  := by
  rw [Trail.continuations, List.length_map]
  apply List.length_filter_le

/-- The trails on the frontier and those that may still be put there. -/
def budget (net : Network) (settled : List Element) (frontier : List Trail) : ℕ :=
  frontier.length + net.pending settled

section Budget

variable {settled : List Element} {frontier others : List Trail} {t : Trail} {fuel : ℕ}

variable (net settled) in
theorem budget_drop (htaken : takeCheapest Trail.cost frontier = some (t, others)) :
  net.budget settled others < net.budget settled frontier
  := by
  have hlength := (perm_of_takeCheapest htaken).length_eq
  rw [List.length_cons] at hlength
  unfold budget
  omega

variable (net w bans) in
theorem budget_settle (htaken : takeCheapest Trail.cost frontier = some (t, others))
    (hstop : t.stop ∉ settled) :
  net.budget (t.stop :: settled)
      (others ++ t.continuations (net.passages w bans t.stop) (t.stop :: settled))
    < net.budget settled frontier
  := by
  have hdrop := net.budget_drop settled htaken
  have hcontinuations := length_continuations_le (net.passages w bans t.stop)
    (t.stop :: settled) t
  have hpassages := net.length_passages_le w bans t.stop
  have hpending := net.length_outgoing_add_pending hstop
  unfold budget at hdrop ⊢
  rw [List.length_append]
  omega

theorem eq_nil_of_budget_le_zero (h : net.budget settled frontier ≤ 0) :
  frontier = []
  := by
  apply List.eq_nil_of_length_eq_zero
  unfold budget at h
  omega

/-- No trail leads to the destination when the frontier is empty. -/
theorem Frontier.stop_ne_of_empty (h : net.Frontier w bans src dst settled frontier)
    (hempty : frontier = []) (ht : net.IsTrail w bans src t) :
  t.stop ≠ dst
  := by
  rintro rfl
  obtain ⟨t', ht', -⟩ := h.exists_cost_le ht h.dst_not_mem
  rw [hempty] at ht'
  cases ht'

/-- An exploration that fails before its fuel does leaves no trail to the destination. -/
theorem Frontier.of_explore_eq_none (h : net.Frontier w bans src dst settled frontier)
    (hfuel : net.budget settled frontier ≤ fuel)
    (hnone : (ReliableRouting.explore (net.passages w bans) dst fuel settled frontier).found
      = none)
    (ht : net.IsTrail w bans src t) :
  t.stop ≠ dst
  := by
  fun_induction ReliableRouting.explore (net.passages w bans) dst fuel settled frontier with
  | case1 settled frontier =>
      apply h.stop_ne_of_empty (eq_nil_of_budget_le_zero hfuel) ht
  | case2 _ settled frontier hempty =>
      apply h.stop_ne_of_empty ((takeCheapest_eq_none_iff _ _).mp hempty) ht
  | case3 _ settled frontier t' others htaken hstop ih =>
      have hless := net.budget_drop settled htaken
      apply ih (h.drop htaken hstop) (Nat.le_of_lt_succ (hless.trans_le hfuel)) hnone
  | case4 => cases hnone
  | case5 _ settled frontier t' others htaken hstop hdst _ ih =>
      have hless := net.budget_settle w bans htaken hstop
      apply ih (h.settle htaken hstop hdst) (Nat.le_of_lt_succ (hless.trans_le hfuel)) hnone

/-- An exploration ends before its fuel does: more of it changes nothing. -/
theorem explore_add_fuel (hfuel : net.budget settled frontier ≤ fuel) (more : ℕ) :
  ReliableRouting.explore (net.passages w bans) dst (fuel + more) settled frontier
    = ReliableRouting.explore (net.passages w bans) dst fuel settled frontier
  := by
  induction fuel generalizing settled frontier with
  | zero =>
      obtain rfl := eq_nil_of_budget_le_zero hfuel
      cases more with
      | zero => rfl
      | succ => rfl
  | succ fuel ih =>
      rw [Nat.add_right_comm]
      unfold ReliableRouting.explore
      split
      · rfl
      next t others htaken =>
        split_ifs with hstop hdst
        · have hless := net.budget_drop settled htaken
          apply ih (Nat.le_of_lt_succ (hless.trans_le hfuel))
        · rfl
        · have hless := net.budget_settle w bans htaken hstop
          apply ih (Nat.le_of_lt_succ (hless.trans_le hfuel))

end Budget

/-! ### The search -/

variable (net src) in
theorem budget_start :
  net.budget [] [.start src] ≤ net.links.length + 1
  := by
  have hpending : net.pending [] ≤ net.links.length := List.countP_le_length
  rw [budget]
  rw [List.length_singleton]
  omega

/-- The search ends before its fuel does: more of it changes nothing. -/
theorem explore_eq_of_le {fuel : ℕ} (hfuel : net.links.length + 1 ≤ fuel) :
  ReliableRouting.explore (net.passages w bans) dst fuel [] [.start src]
    = net.explore w bans src dst
  := by
  obtain ⟨more, rfl⟩ := Nat.exists_eq_add_of_le hfuel
  apply explore_add_fuel (net.budget_start src)

/-- What is found is a walk that visits no element twice, with its elements and its cost,
and no walk is cheaper. -/
theorem of_shortest?_eq_some {r : Route} (h : net.shortest? w bans src dst = some r) :
  net.IsWalk w bans src r.links dst ∧ r.stops = src :: net.targets r.links ∧ r.stops.Nodup
    ∧ r.cost = net.cost w r.links
    ∧ ∀ ids, net.IsWalk w bans src ids dst → r.cost ≤ net.cost w ids
  := by
  obtain ⟨t, hfound, rfl⟩ := Option.map_eq_some_iff.mp h
  obtain ⟨ht, hstop, hnodup, hcheapest⟩ := Frontier.initial.of_explore_eq_some hfound
  refine ⟨hstop ▸ ht.isWalk, ht.stops_eq, hnodup, ht.cost_eq, ?_⟩
  intro ids hids
  obtain ⟨t', ht', hstop', rfl⟩ := hids.exists_trail
  rw [← ht'.cost_eq]
  apply hcheapest t' ht' hstop'

/-- Nothing is found only if there is no walk. -/
theorem not_isWalk_of_shortest?_eq_none (h : net.shortest? w bans src dst = none)
    (ids : List LinkId) :
  ¬ net.IsWalk w bans src ids dst
  := by
  intro hids
  obtain ⟨t, ht, hstop, -⟩ := hids.exists_trail
  have hnone : (net.explore w bans src dst).found = none := Option.map_eq_none_iff.mp h
  apply Frontier.initial.of_explore_eq_none (net.budget_start src) hnone ht hstop

end Network

end ReliableRouting
