import ReliableRouting.Proofs.Route.Deviation

/-!
# Pools of routes

A pool is complete when every root of every accepted route is covered: whatever route
departs there, some candidate departs there as well, and if nothing is rounded, one that
costs no more. Before a pool is widened this may fail at the roots of the route accepted
last, and at no others; widening covers those. Accepting a candidate leaves the roots
covered at which it does not begin, and the rest are roots of its own.

A route that is not accepted departs at some root of an accepted one. So the candidates run
out only when all routes are accepted, and the cheapest candidate is no dearer than any
route that is not accepted yet.
-/

namespace ReliableRouting

variable {net : Network} {w : Weigher} {src dst : Element}

namespace Pool

/-! ### Adding candidates -/

section Candidates

variable {accepted candidates routes : List Route}

/-- A candidate is added unless its links are known. -/
theorem addCandidate_cases (accepted candidates : List Route) (r : Route) :
  addCandidate accepted candidates r = candidates
      ∧ (∃ known ∈ accepted ++ candidates, known.links = r.links)
    ∨ addCandidate accepted candidates r = candidates ++ [r]
      ∧ ∀ known ∈ accepted ++ candidates, known.links ≠ r.links
  := by
  rw [addCandidate]
  split_ifs with hknown
  · simp only [List.any_eq_true, decide_eq_true_eq] at hknown
    exact .inl ⟨rfl, hknown⟩
  · simp only [List.any_eq_true, decide_eq_true_eq, not_exists, not_and] at hknown
    exact .inr ⟨rfl, hknown⟩

theorem subset_foldl_addCandidate :
  candidates ⊆ routes.foldl (addCandidate accepted) candidates
  := by
  induction routes generalizing candidates with
  | nil => apply List.Subset.refl
  | cons r routes ih =>
      rw [List.foldl_cons]
      apply List.Subset.trans _ ih
      rcases addCandidate_cases accepted candidates r with ⟨heq, -⟩ | ⟨heq, -⟩
      · rw [heq]
        apply List.Subset.refl
      · rw [heq]
        apply List.subset_append_left

theorem mem_or_mem_of_mem_foldl {c : Route}
    (hc : c ∈ routes.foldl (addCandidate accepted) candidates) :
  c ∈ candidates ∨ c ∈ routes
  := by
  induction routes generalizing candidates with
  | nil => exact .inl hc
  | cons r routes ih =>
      rcases ih hc with hc | hc
      · rcases addCandidate_cases accepted candidates r with ⟨heq, -⟩ | ⟨heq, -⟩
        · exact .inl (heq ▸ hc)
        · rw [heq] at hc
          rcases List.mem_append.mp hc with hc | hc
          · exact .inl hc
          · exact .inr (List.mem_singleton.mp hc ▸ List.mem_cons_self)
      · exact .inr (List.mem_cons_of_mem _ hc)

/-- The links of every route on offer are known afterwards. -/
theorem exists_known_of_mem (accepted candidates : List Route) {r : Route} (hr : r ∈ routes) :
  ∃ known ∈ accepted ++ routes.foldl (addCandidate accepted) candidates,
    known.links = r.links
  := by
  induction routes generalizing candidates with
  | nil => cases hr
  | cons r' routes ih =>
      rcases List.mem_cons.mp hr with rfl | hr
      · have hafter : ∃ known ∈ accepted ++ addCandidate accepted candidates r,
            known.links = r.links := by
          rcases addCandidate_cases accepted candidates r with ⟨heq, hknown⟩ | ⟨heq, -⟩
          · rw [heq]
            apply hknown
          · rw [heq]
            exact ⟨r, by simp, rfl⟩
        obtain ⟨known, hknown, hlinks⟩ := hafter
        refine ⟨known, ?_, hlinks⟩
        rw [List.foldl_cons]
        rw [List.mem_append] at hknown ⊢
        apply hknown.imp_right fun hknown => subset_foldl_addCandidate hknown
      · apply ih _ hr

theorem nodup_foldl_addCandidate (h : ((accepted ++ candidates).map Route.links).Nodup) :
  ((accepted ++ routes.foldl (addCandidate accepted) candidates).map Route.links).Nodup
  := by
  induction routes generalizing candidates with
  | nil => apply h
  | cons r routes ih =>
      apply ih
      rcases addCandidate_cases accepted candidates r with ⟨heq, -⟩ | ⟨heq, hnew⟩
      · rw [heq]
        apply h
      · rw [heq, ← List.append_assoc, List.map_append, List.nodup_append]
        refine ⟨h, List.nodup_singleton _, ?_⟩
        rintro ids hids ids' hids' rfl
        obtain ⟨known, hknown, rfl⟩ := List.mem_map.mp hids
        apply hnew known hknown
        apply List.mem_singleton.mp hids'

end Candidates

/-! ### The invariant -/

variable (net w src dst) in
/-- Whatever route departs at a root, a candidate departs there as well, and unless
something is rounded it costs no more. -/
def Covers (accepted candidates : List Route) (root : List LinkId) : Prop :=
  ∀ ids, net.IsRoute w src dst ids → Departs accepted root ids →
    ∃ c ∈ candidates, Departs accepted root c.links
      ∧ (net.AddsExactly w → c.cost ≤ net.cost w ids)

variable (net w src dst) in
/-- All routes are known by different links, and every root of an accepted route is covered
unless it is one of the route accepted last. -/
structure Invariant (p : Pool) : Prop where
  valid : ∀ r ∈ p.accepted ++ p.candidates, r.Valid net w src dst
  nodup : ((p.accepted ++ p.candidates).map Route.links).Nodup
  last_mem : p.last ∈ p.accepted
  covers : ∀ r ∈ p.accepted, ∀ root, root <+: r.links → ¬ root <+: p.last.links →
    Covers net w src dst p.accepted p.candidates root

namespace Invariant

variable {p q : Pool}

theorem initial {first : Route} (h : first.Valid net w src dst) :
  Invariant net w src dst ⟨[first], first, []⟩
  where
  valid r hr := List.mem_singleton.mp hr ▸ h
  nodup := List.nodup_singleton _
  last_mem := List.mem_singleton_self _
  covers r hr root hroot hlast := by
    rw [List.mem_singleton.mp hr] at hroot
    apply absurd hroot hlast

section Widened

variable (h : p.Invariant net w src dst)

include h

theorem valid_accepted {r : Route} (hr : r ∈ p.accepted) :
  r.Valid net w src dst
  := h.valid r (List.mem_append_left _ hr)

theorem valid_last :
  p.last.Valid net w src dst
  := h.valid_accepted h.last_mem

theorem valid_widened {c : Route} (hc : c ∈ p.widened net w dst) :
  c.Valid net w src dst
  := by
  rcases mem_or_mem_of_mem_foldl hc with hc | hc
  · apply h.valid c (List.mem_append_right _ hc)
  · obtain ⟨s, hs, hroute⟩ := List.mem_filterMap.mp hc
    apply ((h.valid_last.isAt_of_mem_spurs hs).of_route?_eq_some hroute).1

theorem nodup_widened :
  ((p.accepted ++ p.widened net w dst).map Route.links).Nodup
  := nodup_foldl_addCandidate h.nodup

/-- Widening covers the proper roots of the route accepted last. -/
theorem covers_last {root : List LinkId} (hroot : root <+: p.last.links)
    (hne : root ≠ p.last.links) :
  Covers net w src dst p.accepted (p.widened net w dst) root
  := by
  intro ids hids hdeparts
  obtain ⟨s, hs, rfl⟩ := h.valid_last.exists_mem_spurs p.accepted hroot hne
  have hat := h.valid_last.isAt_of_mem_spurs hs
  obtain ⟨c, hc, hcost⟩ :=
    hat.exists_route?_eq_some (fun r hr => h.valid_accepted hr) hids hdeparts
  obtain ⟨hvalid, hc_departs⟩ := hat.of_route?_eq_some hc
  -- What is known by the links of this candidate is not accepted.
  obtain ⟨known, hknown, hlinks⟩ := exists_known_of_mem p.accepted p.candidates
    (List.mem_filterMap.mpr ⟨s, hs, hc⟩)
  rcases List.mem_append.mp hknown with hknown | hknown
  · apply absurd hlinks (hc_departs.ne_links hknown)
  · refine ⟨known, hknown, hlinks ▸ hc_departs, ?_⟩
    rw [(h.valid_widened hknown).cost_eq, hlinks, ← hvalid.cost_eq]
    apply hcost

/-- A widened pool covers every root of every accepted route. -/
theorem covers_widened {r : Route} (hr : r ∈ p.accepted) {root : List LinkId}
    (hroot : root <+: r.links) :
  Covers net w src dst p.accepted (p.widened net w dst) root
  := by
  by_cases hlast : root <+: p.last.links
  · by_cases hne : root = p.last.links
    · -- No route goes on from the end of another.
      intro ids hids hdeparts
      have heq := h.valid_last.isRoute.eq_of_isPrefix hids (hne ▸ hdeparts.isPrefix)
      apply absurd heq (hdeparts.ne_links h.last_mem)
    · apply h.covers_last hlast hne
  · intro ids hids hdeparts
    obtain ⟨c, hc, hrest⟩ := h.covers r hr root hroot hlast ids hids hdeparts
    exact ⟨c, subset_foldl_addCandidate hc, hrest⟩

/-- For each route that is not accepted there is a candidate, one that costs no more unless
something is rounded. -/
theorem exists_mem_widened {ids : List LinkId} (hids : net.IsRoute w src dst ids)
    (hnew : ids ∉ p.accepted.map Route.links) :
  ∃ c ∈ p.widened net w dst, net.AddsExactly w → c.cost ≤ net.cost w ids
  := by
  obtain ⟨r, hr, root, hroot, hdeparts⟩ := Departs.exists_of_not_mem hids
    (fun r hr => h.valid_accepted hr) (List.ne_nil_of_mem h.last_mem)
    (fun r hr heq => hnew (heq ▸ List.mem_map_of_mem hr))
  obtain ⟨c, hc, -, hcost⟩ := h.covers_widened hr hroot ids hids hdeparts
  exact ⟨c, hc, hcost⟩

end Widened

/-! ### A step -/

theorem next (h : p.Invariant net w src dst) (hq : p.next? net w dst = some q) :
  q.Invariant net w src dst
  := by
  obtain ⟨⟨best, others⟩, htaken, rfl⟩ := Option.map_eq_some_iff.mp hq
  have hperm := perm_of_takeCheapest htaken
  have hwhole : (p.accepted ++ [best] ++ others).Perm (p.accepted ++ p.widened net w dst) := by
    rw [List.append_assoc, List.singleton_append]
    apply hperm.append_left
  constructor
  · intro r hr
    rcases List.mem_append.mp (hwhole.mem_iff.mp hr) with hr | hr
    · apply h.valid_accepted hr
    · apply h.valid_widened hr
  · apply (hwhole.map Route.links).nodup_iff.mpr h.nodup_widened
  · apply List.mem_append_right _ (List.mem_singleton_self _)
  · intro r hr root hroot hbest ids hids hdeparts
    have hr : r ∈ p.accepted := by
      rcases List.mem_append.mp hr with hr | hr
      · apply hr
      · apply absurd (List.mem_singleton.mp hr ▸ hroot) hbest
    obtain ⟨c, hc, hc_departs, hcost⟩ :=
      h.covers_widened hr hroot ids hids hdeparts.of_append
    -- The candidate begins with the root and the route accepted does not.
    rcases List.mem_cons.mp (hperm.mem_iff.mpr hc) with rfl | hc
    · apply absurd hc_departs.isPrefix hbest
    · exact ⟨c, hc, hc_departs.append_singleton hbest, hcost⟩

/-- When there is no candidate left, all routes are accepted. -/
theorem mem_of_next?_eq_none (h : p.Invariant net w src dst)
    (hnone : p.next? net w dst = none) {ids : List LinkId} (hids : net.IsRoute w src dst ids) :
  ids ∈ p.accepted.map Route.links
  := by
  by_contra hnew
  obtain ⟨c, hc, -⟩ := h.exists_mem_widened hids hnew
  rw [(takeCheapest_eq_none_iff _ _).mp (Option.map_eq_none_iff.mp hnone)] at hc
  cases hc

end Invariant

/-- No route that is not accepted is cheaper than one that is. -/
def IsOptimal (net : Network) (w : Weigher) (src dst : Element) (accepted : List Route) : Prop :=
  ∀ r ∈ accepted, ∀ ids, net.IsRoute w src dst ids → ids ∉ accepted.map Route.links →
    r.cost ≤ net.cost w ids

variable {p q : Pool}

theorem IsOptimal.next (hoptimal : IsOptimal net w src dst p.accepted)
    (h : p.Invariant net w src dst) (hexact : net.AddsExactly w)
    (hq : p.next? net w dst = some q) :
  IsOptimal net w src dst q.accepted
  := by
  obtain ⟨⟨best, others⟩, htaken, rfl⟩ := Option.map_eq_some_iff.mp hq
  intro r hr ids hids hnew
  rw [List.map_append, List.mem_append, not_or] at hnew
  rcases List.mem_append.mp hr with hr | hr
  · apply hoptimal r hr ids hids hnew.1
  · obtain ⟨c, hc, hcost⟩ := h.exists_mem_widened hids hnew.1
    rw [List.mem_singleton.mp hr]
    apply Weight.le_trans (cost_le_of_takeCheapest htaken hc) (hcost hexact)

/-! ### A run -/

theorem Invariant.grow (h : p.Invariant net w src dst) (n : ℕ) :
  (Pool.grow net w dst n p).Invariant net w src dst
  := by
  induction n generalizing p with
  | zero => apply h
  | succ n ih =>
      rw [Pool.grow]
      cases hq : p.next? net w dst with
      | none => apply h
      | some q => apply ih (h.next hq)

/-- As many routes are accepted as were asked for, or all of them. -/
theorem Invariant.length_grow (h : p.Invariant net w src dst) (n : ℕ) :
  (Pool.grow net w dst n p).accepted.length ≤ p.accepted.length + n
    ∧ ((Pool.grow net w dst n p).accepted.length = p.accepted.length + n
      ∨ ∀ ids, net.IsRoute w src dst ids →
          ids ∈ (Pool.grow net w dst n p).accepted.map Route.links)
  := by
  induction n generalizing p with
  | zero => exact ⟨le_rfl, .inl rfl⟩
  | succ n ih =>
      rw [Pool.grow]
      cases hq : p.next? net w dst with
      | none => exact ⟨Nat.le_add_right _ _, .inr fun ids => h.mem_of_next?_eq_none hq⟩
      | some q =>
          have hlength : q.accepted.length = p.accepted.length + 1 := by
            obtain ⟨⟨best, others⟩, -, rfl⟩ := Option.map_eq_some_iff.mp hq
            apply List.length_append
          have hq' := ih (h.next hq)
          rw [hlength, Nat.add_assoc, Nat.add_comm 1 n] at hq'
          apply hq'

theorem IsOptimal.grow (hoptimal : IsOptimal net w src dst p.accepted)
    (h : p.Invariant net w src dst) (hexact : net.AddsExactly w) (n : ℕ) :
  IsOptimal net w src dst (Pool.grow net w dst n p).accepted
  := by
  induction n generalizing p with
  | zero => apply hoptimal
  | succ n ih =>
      rw [Pool.grow]
      cases hq : p.next? net w dst with
      | none => apply hoptimal
      | some q => apply ih (hoptimal.next h hexact hq) (h.next hq)

end Pool

end ReliableRouting
