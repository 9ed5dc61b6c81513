import ReliableRouting.Plan.BothWays
import ReliableRouting.Proofs.Plan.Selection

/-!
# What a plan is made of

The paths of a routed plan are those that selections found, there and back, unless the way
back is the way there reversed. A plan fails only if a selection does.
-/

namespace ReliableRouting

variable {src dst : Element} {k : ℕ}

theorem Selection.outcome_eq_ok_iff {selection : Selection} {p : Path} :
  selection.outcome = .ok p ↔ selection = .found p
  := by
  cases selection with
  | sameEndpoint => simp [outcome]
  | found path => simp [outcome]
  | disconnected => simp [outcome]
  | constraintViolated n => simp [outcome]

namespace Constraints

theorem isAsymmetric_eq_true_iff {cs : Constraints} :
  cs.isAsymmetric = true ↔ .ownWayBack ∈ cs
  := decide_eq_true_iff

end Constraints

namespace Router

variable {r : Router} {cs : Constraints} {asymmetric : Bool}

/-- A selection succeeds without a path, for a reason. -/
def FindsNone (r : Router) (cs : Constraints) (src dst : Element) (k : ℕ) (reason : NoPath) :
    Prop :=
  ∃ selection, r.select cs src dst k = .ok selection ∧ selection.outcome = .error reason

/-! ### The way back -/

/-- A way there is completed by a way back that is selected, if that is asked for, and else by
its reverse. -/
theorem planBack_eq_routed_iff {forward : Path} {paths : RoundTrip} :
  r.planBack cs src dst k asymmetric forward = .ok (.routed paths)
    ↔ asymmetric = true
        ∧ (∃ reverse, r.select cs dst src k = .ok (.found reverse)
          ∧ ⟨forward, reverse, true⟩ = paths)
      ∨ asymmetric = false ∧ ⟨forward, forward.reversed, false⟩ = paths
  := by
  cases asymmetric with
  | false => simp [planBack]
  | true =>
      rw [planBack, if_pos rfl, map_eq_ok_iff]
      simp only [true_and, Bool.true_eq_false, false_and, or_false]
      constructor
      · rintro ⟨selection, hselect, h⟩
        cases houtcome : selection.outcome with
        | error reason =>
            rw [houtcome] at h
            cases h
        | ok reverse =>
            rw [Selection.outcome_eq_ok_iff.mp houtcome] at hselect
            rw [houtcome] at h
            exact ⟨reverse, hselect, Plan.routed.inj h⟩
      · rintro ⟨reverse, hselect, rfl⟩
        exact ⟨.found reverse, hselect, rfl⟩

/-- A way there is left without a way back if one is asked for and none is found. -/
theorem planBack_eq_notFound_iff {forward : Path} {a b : Element} {reason : NoPath} :
  r.planBack cs src dst k asymmetric forward = .ok (.notFound a b reason)
    ↔ a = dst ∧ b = src ∧ asymmetric = true ∧ r.FindsNone cs dst src k reason
  := by
  cases asymmetric with
  | false => simp [planBack]
  | true =>
      rw [planBack, if_pos rfl, map_eq_ok_iff]
      constructor
      · rintro ⟨selection, hselect, h⟩
        cases houtcome : selection.outcome with
        | ok reverse =>
            rw [houtcome] at h
            cases h
        | error reason' =>
            rw [houtcome] at h
            obtain ⟨rfl, rfl, rfl⟩ := Plan.notFound.inj h
            exact ⟨rfl, rfl, rfl, selection, hselect, houtcome⟩
      · rintro ⟨rfl, rfl, -, selection, hselect, houtcome⟩
        refine ⟨selection, hselect, ?_⟩
        rw [houtcome]

/-! ### Plans -/

/-- Between two elements, a way there is completed, or there is none. -/
theorem plan_eq_ok_iff (hne : src ≠ dst) {plan : Plan} :
  r.plan cs src dst k asymmetric = .ok plan
    ↔ (∃ forward, r.select cs src dst k = .ok (.found forward)
        ∧ r.planBack cs src dst k (asymmetric || cs.isAsymmetric) forward = .ok plan)
      ∨ ∃ reason, r.FindsNone cs src dst k reason ∧ .notFound src dst reason = plan
  := by
  rw [Router.plan, if_neg hne, bind_eq_ok_iff]
  constructor
  · rintro ⟨selection, hselect, h⟩
    cases houtcome : selection.outcome with
    | error reason =>
        rw [houtcome] at h
        exact .inr ⟨reason, ⟨selection, hselect, houtcome⟩, Except.ok.inj h⟩
    | ok forward =>
        rw [Selection.outcome_eq_ok_iff.mp houtcome] at hselect
        rw [houtcome] at h
        exact .inl ⟨forward, hselect, h⟩
  · rintro (⟨forward, hselect, h⟩ | ⟨reason, ⟨selection, hselect, houtcome⟩, rfl⟩)
    · exact ⟨.found forward, hselect, h⟩
    · refine ⟨selection, hselect, ?_⟩
      rw [houtcome]
      rfl

theorem plan_self :
  r.plan cs src src k asymmetric = .ok .empty
  := if_pos rfl

/-- A way back of its own is asked for by the flag or by a constraint. -/
theorem asymmetric_or_isAsymmetric_iff :
  (asymmetric || cs.isAsymmetric) = true ↔ asymmetric = true ∨ .ownWayBack ∈ cs
  := by
  rw [Bool.or_eq_true, Constraints.isAsymmetric_eq_true_iff]

/-- A plan is routed exactly along a way there that is selected, and along a way back that is
selected if that is asked for, and is the reverse of the way there if not. -/
theorem plan_eq_routed_iff {paths : RoundTrip} :
  r.plan cs src dst k asymmetric = .ok (.routed paths)
    ↔ r.select cs src dst k = .ok (.found paths.forward)
      ∧ ((asymmetric = true ∨ .ownWayBack ∈ cs)
          ∧ r.select cs dst src k = .ok (.found paths.reverse) ∧ paths.asymmetric = true
        ∨ ¬ (asymmetric = true ∨ .ownWayBack ∈ cs)
          ∧ paths.reverse = paths.forward.reversed ∧ paths.asymmetric = false)
  := by
  by_cases hne : src = dst
  · subst hne
    rw [plan_self]
    apply iff_of_false
    · rintro ⟨⟩
    · rintro ⟨hforward, -⟩
      apply ne_of_found hforward rfl
  · rw [plan_eq_ok_iff hne, ← asymmetric_or_isAsymmetric_iff, Bool.not_eq_true]
    simp only [planBack_eq_routed_iff]
    constructor
    · rintro (⟨forward, hforward, ⟨hown, reverse, hreverse, rfl⟩ | ⟨hown, rfl⟩⟩ | ⟨reason, -, h⟩)
      · exact ⟨hforward, .inl ⟨hown, hreverse, rfl⟩⟩
      · exact ⟨hforward, .inr ⟨hown, rfl, rfl⟩⟩
      · cases h
    · obtain ⟨forward, reverse, own⟩ := paths
      rintro ⟨hforward, ⟨hown, hreverse, rfl⟩ | ⟨hown, hreverse, rfl⟩⟩
      · exact .inl ⟨forward, hforward, .inl ⟨hown, reverse, hreverse, rfl⟩⟩
      · change reverse = forward.reversed at hreverse
        exact .inl ⟨forward, hforward, .inr ⟨hown, hreverse ▸ rfl⟩⟩

/-- No path is found exactly for the way there if none is selected, and else for the way back if
one is asked for and none is selected. -/
theorem plan_eq_notFound_iff {a b : Element} {reason : NoPath} :
  r.plan cs src dst k asymmetric = .ok (.notFound a b reason)
    ↔ src ≠ dst
      ∧ (a = src ∧ b = dst ∧ r.FindsNone cs src dst k reason
        ∨ a = dst ∧ b = src ∧ (asymmetric = true ∨ .ownWayBack ∈ cs)
          ∧ (∃ forward, r.select cs src dst k = .ok (.found forward))
          ∧ r.FindsNone cs dst src k reason)
  := by
  by_cases hne : src = dst
  · subst hne
    rw [plan_self]
    apply iff_of_false
    · rintro ⟨⟩
    · rintro ⟨hne, -⟩
      apply hne rfl
  · rw [plan_eq_ok_iff hne, ← asymmetric_or_isAsymmetric_iff]
    simp only [planBack_eq_notFound_iff]
    constructor
    · rintro (⟨forward, hforward, rfl, rfl, hown, hback⟩ | ⟨reason', hthere, h⟩)
      · exact ⟨hne, .inr ⟨rfl, rfl, hown, ⟨forward, hforward⟩, hback⟩⟩
      · obtain ⟨rfl, rfl, rfl⟩ := Plan.notFound.inj h
        exact ⟨hne, .inl ⟨rfl, rfl, hthere⟩⟩
    · rintro ⟨-, ⟨rfl, rfl, hthere⟩ | ⟨rfl, rfl, hown, ⟨forward, hforward⟩, hback⟩⟩
      · exact .inr ⟨reason, hthere, rfl⟩
      · exact .inl ⟨forward, hforward, rfl, rfl, hown, hback⟩

/-- The way there of a routed plan is selected. So is the way back, unless it is the way there
reversed. -/
theorem of_eq_routed {paths : RoundTrip}
    (h : r.plan cs src dst k asymmetric = .ok (.routed paths)) :
  r.select cs src dst k = .ok (.found paths.forward)
    ∧ (paths.reverse = paths.forward.reversed
      ∨ r.select cs dst src k = .ok (.found paths.reverse))
  := by
  obtain ⟨hforward, ⟨-, hreverse, -⟩ | ⟨-, hreverse, -⟩⟩ := plan_eq_routed_iff.mp h
  · exact ⟨hforward, .inr hreverse⟩
  · exact ⟨hforward, .inl hreverse⟩

/-! ### Success -/

theorem exists_planBack (hback : ∃ answer, r.select cs dst src k = .ok answer)
    (forward : Path) :
  ∃ plan, r.planBack cs src dst k asymmetric forward = .ok plan
  := by
  obtain ⟨answer, hback⟩ := hback
  rw [planBack, hback]
  split_ifs
  · exact ⟨_, rfl⟩
  · exact ⟨_, rfl⟩

/-- Planning succeeds if selecting does, there and back. -/
theorem exists_plan (hthere : ∃ answer, r.select cs src dst k = .ok answer)
    (hback : ∃ answer, r.select cs dst src k = .ok answer) :
  ∃ plan, r.plan cs src dst k asymmetric = .ok plan
  := by
  obtain ⟨answer, hthere⟩ := hthere
  rw [plan]
  split_ifs
  · exact ⟨.empty, rfl⟩
  · simp only [bind_eq_ok_iff]
    cases houtcome : answer.outcome with
    | error reason =>
        refine ⟨.notFound src dst reason, answer, hthere, ?_⟩
        rw [houtcome]
        rfl
    | ok forward =>
        obtain ⟨plan, hplan⟩ := exists_planBack hback forward
        refine ⟨plan, answer, hthere, ?_⟩
        rw [houtcome]
        apply hplan

end Router

end ReliableRouting
