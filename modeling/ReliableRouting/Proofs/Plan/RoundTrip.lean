import ReliableRouting.Proofs.Plan.BothWays
import ReliableRouting.Proofs.Route.Reversal

/-!
# There and back

A path that is found leads from one element to another and meets the constraints. So do the
paths of a plan that are selected. A way back that is the way there mirrored leads back too,
costs the same, and is not told apart by constraints that read only bandwidths or the sorts of
links. Where a plan has no path, it names the direction in which none was found.
-/

namespace ReliableRouting

variable {r : Router} {cs : Constraints} {src dst : Element} {k : ℕ} {asymmetric : Bool}

/-- The way back is the way there mirrored. -/
structure RoundTrip.IsMirrored (r : Router) (paths : RoundTrip) : Prop where
  /-- The links are turned round one by one, and come in the opposite order. -/
  links_eq : paths.reverse.links = (paths.forward.links.map Link.reversed).reverse
  cost_eq : paths.reverse.cost = paths.forward.cost
  reversed_eq : paths.reverse.reversed = paths.forward
  accepts_bandwidth : ∀ floor, (Constraint.bandwidth floor).accepts r.law paths.reverse
    = (Constraint.bandwidth floor).accepts r.law paths.forward
  accepts_excludedTypes : ∀ excluded,
    (Constraint.excludedTypes excluded).accepts r.law paths.reverse
      = (Constraint.excludedTypes excluded).accepts r.law paths.forward
  /-- Hops that are counted anew come to the cost that was carried over. -/
  ofLinks?_hopCount : r.weigher = .hopCount → r.network.IsClosed →
    r.network.elements.length < 2 ^ 37 →
      Path.ofLinks? .hopCount paths.reverse.links = some paths.reverse

/-- The paths of a plan lead there and back. The way there is the one that is selected. The way
back is selected too if one of its own is asked for, and mirrored if not. -/
structure RoundTrip.IsPlanned (r : Router) (cs : Constraints) (src dst : Element) (k : ℕ)
    (asymmetric : Bool) (paths : RoundTrip) : Prop where
  select_forward : r.select cs src dst k = .ok (.found paths.forward)
  leads_forward : paths.forward.Leads src dst
  accept_forward : cs.accept r.law paths.forward = .ok true
  leads_reverse : paths.reverse.Leads dst src
  mirrored : ¬ (asymmetric = true ∨ .ownWayBack ∈ cs) →
    paths.asymmetric = false ∧ paths.IsMirrored r
  own : asymmetric = true ∨ .ownWayBack ∈ cs →
    paths.asymmetric = true
      ∧ r.select cs dst src k = .ok (.found paths.reverse)
      ∧ cs.accept r.law paths.reverse = .ok true

namespace Router

/-! ### Paths that are found -/

theorem leads_of_found {p : Path} (h : r.select cs src dst k = .ok (.found p)) :
  p.Leads src dst
  := by
  obtain ⟨ids, halong⟩ := hasPath_of_mem_candidates (mem_candidates_of_found h)
  apply halong.leads (ne_of_found h)

theorem accept_of_found {p : Path} (h : r.select cs src dst k = .ok (.found p)) :
  cs.accept r.law p = .ok true
  := by
  obtain ⟨-, haccept, -⟩ := of_eq_found (ne_of_found h) h
  apply haccept

/-- A path that is found and its reverse mirror each other. -/
theorem isMirrored_of_found {paths : RoundTrip}
    (hforward : r.select cs src dst k = .ok (.found paths.forward))
    (hreverse : paths.reverse = paths.forward.reversed) :
  paths.IsMirrored r
  := by
  constructor
  · rw [hreverse]
    rfl
  · rw [hreverse]
    rfl
  · rw [hreverse, Path.reversed_reversed]
  · rw [hreverse]
    apply Constraint.accepts_bandwidth_reversed
  · rw [hreverse]
    apply Constraint.accepts_excludedTypes_reversed
  · intro hhops hclosed hsmall
    obtain ⟨ids, halong⟩ := hasPath_of_mem_candidates (mem_candidates_of_found hforward)
    rw [hhops] at halong
    rw [hreverse]
    apply halong.ofLinks?_reversed (ne_of_found hforward) hclosed hsmall

/-! ### Plans -/

theorem isPlanned_of_routed {paths : RoundTrip}
    (h : r.plan cs src dst k asymmetric = .ok (.routed paths)) :
  paths.IsPlanned r cs src dst k asymmetric
  := by
  obtain ⟨hforward, ⟨hown, hreverse, hflag⟩ | ⟨hmirrored, hreverse, hflag⟩⟩ :=
    plan_eq_routed_iff.mp h
  · exact {
      select_forward := hforward
      leads_forward := leads_of_found hforward
      accept_forward := accept_of_found hforward
      leads_reverse := leads_of_found hreverse
      mirrored := fun hmirrored => absurd hown hmirrored
      own := fun _ => ⟨hflag, hreverse, accept_of_found hreverse⟩ }
  · exact {
      select_forward := hforward
      leads_forward := leads_of_found hforward
      accept_forward := accept_of_found hforward
      leads_reverse := hreverse ▸ (leads_of_found hforward).reversed
      mirrored := fun _ => ⟨hflag, isMirrored_of_found hforward hreverse⟩
      own := fun hown => absurd hown hmirrored }

/-- Over the detour, a plan goes along the direct path and back the same way. -/
theorem plan_eq_detour :
  Detour.router.plan [.notOptical] Detour.start Detour.goal 1 false
    = .ok (.routed ⟨Detour.direct, Detour.direct.reversed, false⟩)
  := by
  have hselect : Detour.router.select [.notOptical] Detour.start Detour.goal 1
      = .ok (.found Detour.direct) :=
    select_of_singleton (by decide) Detour.search_eq (by decide +kernel)
  apply plan_eq_routed_iff.mpr
  exact ⟨hselect, .inr ⟨by decide, rfl, rfl⟩⟩

/-- A plan that is routed leads there and back along paths that are selected or mirrored. A plan
without a path is for the way there if none is found there, and for the way back only if one
of its own is asked for and, though there is a way there, none is found back. -/
theorem plan_correct (r : Router) (cs : Constraints) (src dst : Element) (k : ℕ)
    (asymmetric : Bool) :
  (∀ paths, r.plan cs src dst k asymmetric = .ok (.routed paths) →
      paths.IsPlanned r cs src dst k asymmetric)
    ∧ ∀ a b reason, r.plan cs src dst k asymmetric = .ok (.notFound a b reason)
      ↔ src ≠ dst
        ∧ (a = src ∧ b = dst ∧ r.FindsNone cs src dst k reason
          ∨ a = dst ∧ b = src ∧ (asymmetric = true ∨ .ownWayBack ∈ cs)
            ∧ (∃ forward, r.select cs src dst k = .ok (.found forward))
            ∧ r.FindsNone cs dst src k reason)
  := ⟨fun _ => isPlanned_of_routed, fun _ _ _ => plan_eq_notFound_iff⟩

/-- Over the detour, the way back is the direct path mirrored, and nothing is found back if one
of its own is asked for. -/
theorem plan_correct_detour :
  Detour.router.plan [.notOptical] Detour.start Detour.goal 1 false
      = .ok (.routed ⟨Detour.direct, Detour.direct.reversed, false⟩)
    ∧ Detour.direct.Leads Detour.start Detour.goal
    ∧ Detour.direct.reversed.Leads Detour.goal Detour.start
    ∧ Path.ofLinks? .hopCount Detour.direct.reversed.links = some Detour.direct.reversed
    ∧ Detour.router.plan [.notOptical] Detour.start Detour.goal 1 true
      = .ok (.notFound Detour.goal Detour.start .disconnected)
  := by
  obtain ⟨hrouted, -⟩ := plan_correct Detour.router [.notOptical] Detour.start Detour.goal 1 false
  have hplanned := hrouted _ plan_eq_detour
  obtain ⟨-, hmirrored⟩ := hplanned.mirrored (by decide)
  obtain ⟨-, hnotFound⟩ := plan_correct Detour.router [.notOptical] Detour.start Detour.goal 1 true
  refine ⟨plan_eq_detour, hplanned.leads_forward, hplanned.leads_reverse,
    hmirrored.ofLinks?_hopCount rfl (by decide) (by decide), ?_⟩
  apply (hnotFound _ _ _).mpr
  have hback : Detour.router.candidates Detour.goal Detour.start 1 = [] := by
    decide +kernel
  exact ⟨by decide, .inr ⟨rfl, rfl, .inl rfl, ⟨Detour.direct, hplanned.select_forward⟩,
    .disconnected, select_of_nil (by decide) hback, rfl⟩⟩

end Router

end ReliableRouting
