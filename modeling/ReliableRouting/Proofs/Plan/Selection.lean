import ReliableRouting.Plan.Selection
import ReliableRouting.Proofs.Route.Search

/-!
# What a selection answers

A selection judges the candidates only, but its answer is right for all paths of the
network: it says that there is no path when there is none, that none meets the constraints
when none of the candidates does, and it finds a path that no path meeting the constraints
is cheaper than. It fails as soon as judging a candidate fails.
-/

namespace ReliableRouting

variable {src dst : Element} {k : ℕ}

/-- A path of the network from one element to another, along a route. -/
def HasPath (net : Network) (w : Weigher) (src dst : Element) (p : Path) : Prop :=
  ∃ ids, IsPathAlong net w src dst ids p

/-- A router over the detour that counts hops, where every packet gets through. -/
def Detour.router : Router :=
  ⟨Detour.network, .hopCount, fun _ => .ok 1⟩

/-- The first of paths that come by cost is no dearer than the others. -/
theorem Path.cost_le_of_head? {paths : List Path} (h : paths.Pairwise fun p q => p.cost ≤ q.cost)
    {p q : Path} (hp : paths.head? = some p) (hq : q ∈ paths) :
  p.cost ≤ q.cost
  := by
  obtain ⟨others, rfl⟩ := List.head?_eq_some_iff.mp hp
  rcases List.mem_cons.mp hq with rfl | hq
  · apply Weight.le_refl
  · apply List.rel_of_pairwise_cons h hq

/-! ### What survivors decide -/

/-- The answer of a selection, given the paths that survive among those that come by cost. -/
def Selection.ofSurvivors (paths : List Path) : List Path → Selection
  | p :: _ => .found p
  | [] => if paths = [] then .disconnected else .constraintViolated paths.length

namespace Selection

variable {paths survivors : List Path} {p : Path}

theorem ofSurvivors_eq_found_iff :
  ofSurvivors paths survivors = .found p ↔ survivors.head? = some p
  := by
  cases survivors with
  | nil =>
      rw [ofSurvivors]
      split_ifs
      · simp
      · simp
  | cons q survivors => simp [ofSurvivors]

theorem ofSurvivors_eq_constraintViolated_iff {n : ℕ} :
  ofSurvivors paths survivors = .constraintViolated n
    ↔ paths.length = n ∧ 1 ≤ n ∧ survivors = []
  := by
  cases survivors with
  | nil =>
      rw [ofSurvivors]
      split_ifs with hnil
      · rw [hnil]
        simp
        omega
      · have hpos := List.length_pos_iff.mpr hnil
        simp
        omega
  | cons q survivors => simp [ofSurvivors]

theorem ofSurvivors_eq_disconnected_iff (h : survivors.Sublist paths) :
  ofSurvivors paths survivors = .disconnected ↔ paths = []
  := by
  cases survivors with
  | nil =>
      rw [ofSurvivors]
      split_ifs with hnil
      · simp [hnil]
      · simp [hnil]
  | cons q survivors =>
      apply iff_of_false
      · rintro ⟨⟩
      · apply List.ne_nil_of_mem (h.subset List.mem_cons_self)

end Selection

namespace Router

variable {r : Router} {cs : Constraints}

/-! ### Judging -/

/-- If judging succeeds, the survivors are those that meet the constraints. -/
theorem mem_accepted_iff {paths survivors : List Path} (h : r.accepted cs paths = .ok survivors)
    {p : Path} :
  p ∈ survivors ↔ p ∈ paths ∧ cs.accept r.law p = .ok true
  := by
  induction paths generalizing survivors with
  | nil =>
      obtain rfl := Except.ok.inj h
      simp
  | cons q paths ih =>
      obtain ⟨accepts, haccepts, h⟩ := bind_eq_ok_iff.mp h
      obtain ⟨others, hothers, h⟩ := bind_eq_ok_iff.mp h
      obtain rfl := Except.ok.inj h
      cases accepts with
      | true =>
          rw [if_pos rfl, List.mem_cons, List.mem_cons, ih hothers, or_and_right]
          apply or_congr_left
          constructor
          · rintro rfl
            exact ⟨rfl, haccepts⟩
          · apply And.left
      | false =>
          rw [if_neg Bool.false_ne_true, List.mem_cons, ih hothers, or_and_right]
          apply (or_iff_right _).symm
          rintro ⟨rfl, hp⟩
          rw [haccepts] at hp
          cases hp

/-- Judging fails exactly as it does at the first path that it fails at. -/
theorem accepted_eq_error_iff {paths : List Path} {fault : RoutingFault} :
  r.accepted cs paths = .error fault
    ↔ ∃ before p after, paths = before ++ p :: after
      ∧ (∀ q ∈ before, ∃ accepts, cs.accept r.law q = .ok accepts)
      ∧ cs.accept r.law p = .error fault
  := by
  induction paths with
  | nil =>
      constructor
      · intro h
        cases h
      · rintro ⟨before, p, after, h, -⟩
        cases before with
        | nil => cases h
        | cons => cases h
  | cons q paths ih =>
      constructor
      · intro h
        rcases bind_eq_error_iff.mp h with h | ⟨accepts, haccepts, h⟩
        · exact ⟨[], q, paths, rfl, fun _ hq => absurd hq List.not_mem_nil, h⟩
        · rcases bind_eq_error_iff.mp h with h | ⟨others, -, h⟩
          · obtain ⟨before, p, after, rfl, hbefore, hp⟩ := ih.mp h
            refine ⟨q :: before, p, after, rfl, ?_, hp⟩
            apply List.forall_mem_cons.mpr ⟨⟨accepts, haccepts⟩, hbefore⟩
          · cases h
      · rintro ⟨before, p, after, hpaths, hbefore, hp⟩
        apply bind_eq_error_iff.mpr
        cases before with
        | nil =>
            obtain ⟨rfl, rfl⟩ := List.cons.inj hpaths
            exact .inl hp
        | cons q' before =>
            obtain ⟨rfl, rfl⟩ := List.cons.inj hpaths
            obtain ⟨⟨accepts, haccepts⟩, hbefore⟩ := List.forall_mem_cons.mp hbefore
            have hrest := ih.mpr ⟨before, p, after, rfl, hbefore, hp⟩
            exact .inr ⟨accepts, haccepts, bind_eq_error_iff.mpr (.inl hrest)⟩

/-- The survivors keep their order. -/
theorem accepted_sublist {paths survivors : List Path}
    (h : r.accepted cs paths = .ok survivors) :
  survivors.Sublist paths
  := by
  induction paths generalizing survivors with
  | nil =>
      obtain rfl := Except.ok.inj h
      apply List.Sublist.refl
  | cons p paths ih =>
      obtain ⟨accepts, -, h⟩ := bind_eq_ok_iff.mp h
      obtain ⟨others, hothers, h⟩ := bind_eq_ok_iff.mp h
      obtain rfl := Except.ok.inj h
      cases accepts with
      | false => apply (ih hothers).cons
      | true => apply (ih hothers).cons_cons

/-! ### Candidates -/

section Candidates

variable (hclosed : r.network.IsClosed) (hne : src ≠ dst)

theorem hasPath_of_mem_candidates {p : Path} (hp : p ∈ r.candidates src dst k) :
  HasPath r.network r.weigher src dst p
  := by
  by_cases hends : src = dst ∨ ¬ r.network.connects src dst = true
  · rw [candidates, Network.search_eq_nil hends] at hp
    cases hp
  · rw [not_or, not_not] at hends
    obtain ⟨ids, -, halong⟩ := (Network.mem_search_iff _ _ hends.1 hends.2).mp hp
    exact ⟨ids, halong⟩

/-- The links of a candidate are viable links of the network. -/
theorem viable_of_mem_candidates {p : Path} (hp : p ∈ r.candidates src dst k) {l : Link}
    (hl : l ∈ p.links) :
  l ∈ r.network.links ∧ l.isExcluded = false ∧ (r.weigher.weight l).isFinite = true
  := Network.viable_of_mem_search hp hl

/-- Candidates come by cost. -/
theorem pairwise_candidates :
  (r.candidates src dst k).Pairwise fun p q => p.cost ≤ q.cost
  := by
  by_cases hends : src = dst ∨ ¬ r.network.connects src dst = true
  · rw [candidates, Network.search_eq_nil hends]
    apply List.Pairwise.nil
  · rw [not_or, not_not] at hends
    apply Network.pairwise_search _ _ hends.1 hends.2

include hclosed hne

/-- The candidates are as many as asked for, or as there are routes. -/
theorem length_candidates :
  (r.candidates src dst k).length = min k (r.network.routes r.weigher src dst).ncard
  := by
  by_cases hconnects : r.network.connects src dst = true
  · rw [candidates, Network.length_search _ _ hne hconnects,
      (Network.isBest_bestRoutes _ _ hne hconnects).length_eq]
  · have hnone : r.network.routes r.weigher src dst = ∅ := by
      apply Set.eq_empty_of_forall_notMem
      intro ids hids
      apply hconnects (hids.connects hclosed hne)
    rw [candidates, Network.search_eq_nil (.inr hconnects), hnone, Set.ncard_empty, Nat.min_zero]
    rfl

/-- Fewer candidates than asked for are all the paths there are. -/
theorem mem_candidates_of_length_lt (hlength : (r.candidates src dst k).length < k) {p : Path}
    (hp : HasPath r.network r.weigher src dst p) :
  p ∈ r.candidates src dst k
  := by
  obtain ⟨ids, halong⟩ := hp
  have hconnects := halong.isRoute.connects hclosed hne
  apply Network.mem_search_of_length_lt _ _ hne hconnects hlength halong

/-- There are no candidates only if there is no path. -/
theorem candidates_eq_nil_iff (hk : 1 ≤ k) :
  r.candidates src dst k = [] ↔ ∀ p, ¬ HasPath r.network r.weigher src dst p
  := by
  constructor
  · intro hnil p hp
    have hlength : (r.candidates src dst k).length < k := by
      rw [hnil]
      apply hk
    have hmem := mem_candidates_of_length_lt hclosed hne hlength hp
    rw [hnil] at hmem
    cases hmem
  · intro hnone
    apply List.eq_nil_iff_forall_not_mem.mpr
    intro p hp
    apply hnone p (hasPath_of_mem_candidates hp)

/-- Unless something is rounded, a path that is no candidate is no cheaper than one. -/
theorem cost_le_of_not_mem_candidates (hexact : r.network.AddsExactly r.weigher) {p q : Path}
    (hp : p ∈ r.candidates src dst k) (hq : HasPath r.network r.weigher src dst q)
    (hnew : q ∉ r.candidates src dst k) :
  p.cost ≤ q.cost
  := by
  obtain ⟨ids, halong⟩ := hq
  have hconnects := halong.isRoute.connects hclosed hne
  rw [halong.cost_eq hne]
  apply Network.cost_le_of_not_mem_bestPlaces _ _ hne hconnects hexact hp halong.isRoute
  intro hids
  apply hnew
  apply (Network.mem_search_iff _ _ hne hconnects).mpr ⟨ids, hids, halong⟩

end Candidates

/-! ### Answers -/

section Answers

variable (hne : src ≠ dst)

include hne

theorem select_of_nil (h : r.candidates src dst k = []) :
  r.select cs src dst k = .ok .disconnected
  := by
  rw [select, if_neg hne, h]

/-- Where there are candidates, the first of the cheapest survivors is selected. -/
theorem select_of_ne_nil (h : r.candidates src dst k ≠ []) :
  r.select cs src dst k
    = (r.accepted cs (r.candidates src dst k)).map fun survivors =>
        match takeCheapest Path.cost survivors with
        | some (best, _) => .found best
        | none => .constraintViolated (r.candidates src dst k).length
  := by
  rw [select, if_neg hne]
  split
  next hnil => exact absurd hnil h
  next => rfl

/-- The answer goes by the survivors. As candidates come by cost, the first of them is
found. -/
theorem select_eq_map :
  r.select cs src dst k
    = (r.accepted cs (r.candidates src dst k)).map
        (Selection.ofSurvivors (r.candidates src dst k))
  := by
  by_cases hnil : r.candidates src dst k = []
  · rw [select_of_nil hne hnil, hnil]
    rfl
  · rw [select_of_ne_nil hne hnil]
    cases haccepted : r.accepted cs (r.candidates src dst k) with
    | error fault => rfl
    | ok survivors =>
        cases survivors with
        | nil => rw [Except.map, Except.map, Selection.ofSurvivors, if_neg hnil, takeCheapest]
        | cons p others =>
            have hsorted := pairwise_candidates.sublist (accepted_sublist haccepted)
            rw [Except.map, Except.map, Selection.ofSurvivors, takeCheapest_of_pairwise hsorted]

/-- A selection fails exactly as judging the candidates does. -/
theorem select_eq_error_iff {fault : RoutingFault} :
  r.select cs src dst k = .error fault
    ↔ r.accepted cs (r.candidates src dst k) = .error fault
  := by
  rw [select_eq_map hne, map_eq_error_iff]

/-- A selection that does not fail answers by the survivors. -/
theorem select_eq_ok_iff {answer : Selection} :
  r.select cs src dst k = .ok answer
    ↔ ∃ survivors, r.accepted cs (r.candidates src dst k) = .ok survivors
      ∧ Selection.ofSurvivors (r.candidates src dst k) survivors = answer
  := by
  rw [select_eq_map hne, map_eq_ok_iff]

/-- A single candidate is found if it meets the constraints. -/
theorem select_of_singleton {p : Path} (h : r.candidates src dst k = [p])
    (haccept : cs.accept r.law p = .ok true) :
  r.select cs src dst k = .ok (.found p)
  := by
  rw [select_eq_map hne, h, accepted, haccept]
  rfl

theorem eq_disconnected_iff {answer : Selection} (h : r.select cs src dst k = .ok answer) :
  answer = .disconnected ↔ r.candidates src dst k = []
  := by
  obtain ⟨survivors, haccepted, rfl⟩ := (select_eq_ok_iff hne).mp h
  apply Selection.ofSurvivors_eq_disconnected_iff (accepted_sublist haccepted)

theorem eq_constraintViolated_iff {answer : Selection}
    (h : r.select cs src dst k = .ok answer) {n : ℕ} :
  answer = .constraintViolated n
    ↔ n = (r.candidates src dst k).length ∧ 1 ≤ n
      ∧ ∀ p ∈ r.candidates src dst k, cs.accept r.law p ≠ .ok true
  := by
  obtain ⟨survivors, haccepted, rfl⟩ := (select_eq_ok_iff hne).mp h
  rw [Selection.ofSurvivors_eq_constraintViolated_iff, eq_comm, List.eq_nil_iff_forall_not_mem]
  simp only [mem_accepted_iff haccepted, not_and, ne_eq]

theorem of_eq_found {best : Path} (h : r.select cs src dst k = .ok (.found best)) :
  best ∈ r.candidates src dst k ∧ cs.accept r.law best = .ok true
    ∧ ∀ p ∈ r.candidates src dst k, cs.accept r.law p = .ok true → best.cost ≤ p.cost
  := by
  obtain ⟨survivors, haccepted, hfound⟩ := (select_eq_ok_iff hne).mp h
  rw [Selection.ofSurvivors_eq_found_iff] at hfound
  obtain ⟨hbest, haccept⟩ := (mem_accepted_iff haccepted).mp (List.mem_of_head? hfound)
  refine ⟨hbest, haccept, ?_⟩
  intro p hp haccept
  have hsorted := pairwise_candidates.sublist (accepted_sublist haccepted)
  apply Path.cost_le_of_head? hsorted hfound ((mem_accepted_iff haccepted).mpr ⟨hp, haccept⟩)

end Answers

theorem ne_of_found {p : Path} (h : r.select cs src dst k = .ok (.found p)) :
  src ≠ dst
  := by
  rintro rfl
  rw [select, if_pos rfl] at h
  cases h

theorem mem_candidates_of_found {p : Path} (h : r.select cs src dst k = .ok (.found p)) :
  p ∈ r.candidates src dst k
  := (of_eq_found (ne_of_found h) h).1

/-- A selection in a closed network fails exactly as judging the first candidate by cost that
it fails at. Otherwise it is right for all paths of the network:
it answers that there is no path when there is none, and that none meets the constraints
when none of the candidates does; then no other path does, if there are fewer candidates
than asked for. A path that is found meets the constraints, and no path that meets them is
cheaper if costs add up without rounding, as hops do in a network of fewer than `2 ^ 37`
elements, or if there are fewer candidates than asked for. -/
theorem select_correct (hclosed : r.network.IsClosed) (hne : src ≠ dst) (hk : 1 ≤ k) :
  (r.candidates src dst k).Pairwise (fun p q => p.cost ≤ q.cost)
    ∧ (∀ fault, r.select cs src dst k = .error fault
        ↔ ∃ before p after, r.candidates src dst k = before ++ p :: after
          ∧ (∀ q ∈ before, ∃ accepts, cs.accept r.law q = .ok accepts)
          ∧ cs.accept r.law p = .error fault)
    ∧ ∀ answer, r.select cs src dst k = .ok answer →
      (answer = .disconnected ↔ ∀ p, ¬ HasPath r.network r.weigher src dst p)
      ∧ (∀ n, answer = .constraintViolated n
          ↔ n = min k (r.network.routes r.weigher src dst).ncard ∧ 1 ≤ n
            ∧ ∀ p ∈ r.candidates src dst k, cs.accept r.law p ≠ .ok true)
      ∧ (∀ n, answer = .constraintViolated n → n < k →
          ∀ p, HasPath r.network r.weigher src dst p → cs.accept r.law p ≠ .ok true)
      ∧ ∀ best, answer = .found best →
        HasPath r.network r.weigher src dst best
        ∧ cs.accept r.law best = .ok true
        ∧ (r.network.AddsExactly r.weigher
            ∨ r.weigher = .hopCount ∧ r.network.IsClosed
              ∧ r.network.elements.length < 2 ^ 37
            ∨ (r.candidates src dst k).length < k →
          ∀ p, HasPath r.network r.weigher src dst p → cs.accept r.law p = .ok true →
            best.cost ≤ p.cost)
  := by
  refine ⟨pairwise_candidates, ?_, ?_⟩
  · intro fault
    rw [select_eq_error_iff hne, accepted_eq_error_iff]
  · intro answer h
    refine ⟨?_, ?_, ?_, ?_⟩
    · rw [eq_disconnected_iff hne h, candidates_eq_nil_iff hclosed hne hk]
    · intro n
      rw [eq_constraintViolated_iff hne h, length_candidates hclosed hne]
    · intro n hn hlt p hp
      obtain ⟨rfl, -, hnone⟩ := (eq_constraintViolated_iff hne h).mp hn
      apply hnone p (mem_candidates_of_length_lt hclosed hne hlt hp)
    · rintro best rfl
      obtain ⟨hbest, haccept, hcheapest⟩ := of_eq_found hne h
      refine ⟨hasPath_of_mem_candidates hbest, haccept, ?_⟩
      intro hcase p hp hp_accept
      by_cases hmem : p ∈ r.candidates src dst k
      · apply hcheapest p hmem hp_accept
      · rcases hcase with hexact | hhops | hlength
        · apply cost_le_of_not_mem_candidates hclosed hne hexact hbest hp hmem
        · have hexact := Network.addsExactly_of_or (.inr hhops)
          apply cost_le_of_not_mem_candidates hclosed hne hexact hbest hp hmem
        · apply absurd (mem_candidates_of_length_lt hclosed hne hlength hp) hmem

/-- Over the detour the direct path is selected, and none without optical links is
cheaper. -/
theorem select_correct_detour :
  Detour.router.select [.notOptical] Detour.start Detour.goal 1 = .ok (.found Detour.direct)
    ∧ ∀ p, HasPath Detour.network .hopCount Detour.start Detour.goal p →
      Constraints.accept Detour.router.law p [.notOptical] = .ok true →
        Detour.direct.cost ≤ p.cost
  := by
  have hclosed : Detour.router.network.IsClosed := by decide
  have hne : Detour.start ≠ Detour.goal := by decide
  have hcandidates : Detour.router.candidates Detour.start Detour.goal 1 = [Detour.direct] :=
    Detour.search_eq
  have hselect : Detour.router.select [.notOptical] Detour.start Detour.goal 1
      = .ok (.found Detour.direct) := by
    rw [select, if_neg hne, hcandidates]
    decide +kernel
  obtain ⟨-, -, hanswer⟩ := select_correct hclosed hne (Nat.le_refl 1)
  obtain ⟨-, -, -, hfound⟩ := hanswer _ hselect
  obtain ⟨-, -, hcheapest⟩ := hfound _ rfl
  exact ⟨hselect, hcheapest (.inr (.inl ⟨rfl, hclosed, by decide⟩))⟩

end Router

end ReliableRouting
