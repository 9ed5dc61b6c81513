import ReliableRouting.Plan.Listing
import ReliableRouting.Proofs.Double.Order
import ReliableRouting.Proofs.Plan.Selection
import ReliableRouting.Proofs.Policy.Judging

/-!
# Looser requests

A request is loosened by raising its ceilings, lifting the one on the latency, or lowering its
floor. The candidates stay the same, and so does the way in which judging one of them fails,
which no bound has a part in. A candidate that is accepted stays accepted. So a selection is
no worse and a listing marks no fewer candidates as valid.
-/

namespace ReliableRouting

variable {law : DeliveryLaw} {p : Path} {req req' : Request}

/-! ### Looser constraints -/

/-- The second constraint is the first with a bound that is no tighter. -/
inductive Constraint.LoosenedTo : Constraint → Constraint → Prop
  | refl (c : Constraint) : LoosenedTo c c
  | packetLoss {ceiling ceiling' : Float} (h : ceiling ≤ ceiling') :
      LoosenedTo (.packetLoss ceiling) (.packetLoss ceiling')
  | latency {ceiling ceiling' : Float} (h : ceiling ≤ ceiling') :
      LoosenedTo (.latency ceiling) (.latency ceiling')
  | bandwidth {floor floor' : Float} (h : floor' ≤ floor) :
      LoosenedTo (.bandwidth floor) (.bandwidth floor')

/-- A path that a constraint accepts is accepted by it when it is loosened. -/
theorem Constraint.LoosenedTo.accepts {c c' : Constraint} (h : c.LoosenedTo c')
    (haccepts : c.accepts law p = .ok true) :
  c'.accepts law p = .ok true
  := by
  cases h with
  | refl => apply haccepts
  | packetLoss h =>
      obtain ⟨x, hx, hlt⟩ := accepts_packetLoss_iff.mp haccepts
      exact accepts_packetLoss_iff.mpr ⟨x, hx, Double.lt_of_lt_of_le hlt h⟩
  | latency h =>
      obtain ⟨x, hx, hlt⟩ := accepts_latency_iff.mp haccepts
      exact accepts_latency_iff.mpr ⟨x, hx, Double.lt_of_lt_of_le hlt h⟩
  | bandwidth h =>
      apply accepts_bandwidth_iff.mpr
      intro l hl
      obtain ⟨x, hx, hle⟩ := accepts_bandwidth_iff.mp haccepts l hl
      exact ⟨x, hx, Double.le_trans h hle⟩

/-! ### Looser requests -/

/-- The second request asks for the same as the first, with bounds that are no tighter. -/
structure Request.LoosenedTo (req req' : Request) : Prop where
  maxPaths : req'.maxPaths = req.maxPaths
  asymmetric : req'.asymmetric = req.asymmetric
  useReliabilityWeighting : req'.useReliabilityWeighting = req.useReliabilityWeighting
  propagationModel : req'.propagationModel = req.propagationModel
  packetLossCeiling : req.packetLossCeiling ≤ req'.packetLossCeiling
  /-- A ceiling on the latency is no lower than the one before, and there was one. -/
  latencyCeiling : ∀ ceiling', req'.latencyCeiling = some ceiling' →
    ∃ ceiling, req.latencyCeiling = some ceiling ∧ ceiling ≤ ceiling'
  bandwidthFloor : req'.bandwidthFloor ≤ req.bandwidthFloor

namespace Request.LoosenedTo

variable (h : req.LoosenedTo req')

include h

theorem router_eq (net : Network) :
  req'.router net = req.router net
  := by
  rw [router, router, rankingRule, rankingRule, model, model, h.useReliabilityWeighting,
    h.propagationModel]

/-- Every constraint of the second request is a loosened one of the first. -/
theorem exists_mem_constraints {c' : Constraint} (hc' : c' ∈ req'.constraints) :
  ∃ c ∈ req.constraints, c.LoosenedTo c'
  := by
  rw [constraints_eq, List.mem_cons, List.mem_cons, mem_furtherConstraints_iff] at hc'
  simp only [constraints_eq, List.mem_cons, mem_furtherConstraints_iff]
  obtain rfl | rfl | ⟨ceiling', hceiling', rfl⟩ | ⟨hpos, rfl⟩ | ⟨hasymmetric, rfl⟩ := hc'
  · exact ⟨_, .inl rfl, .refl _⟩
  · exact ⟨_, .inr (.inl rfl), .packetLoss h.packetLossCeiling⟩
  · obtain ⟨ceiling, hceiling, hle⟩ := h.latencyCeiling ceiling' hceiling'
    exact ⟨_, .inr (.inr (.inl ⟨ceiling, hceiling, rfl⟩)), .latency hle⟩
  · have hpos' := Double.lt_of_lt_of_le hpos h.bandwidthFloor
    exact ⟨_, .inr (.inr (.inr (.inl ⟨hpos', rfl⟩))), .bandwidth h.bandwidthFloor⟩
  · rw [h.asymmetric] at hasymmetric
    exact ⟨_, .inr (.inr (.inr (.inr ⟨hasymmetric, rfl⟩))), .refl _⟩

/-- Judging a path fails in the same way by the constraints of both requests, and a path that
the first accept the second accept. -/
theorem agree_accept (law : DeliveryLaw) (p : Path) :
  Agree (fun accepts accepts' => accepts = true → accepts' = true)
    (req.constraints.accept law p) (req'.constraints.accept law p)
  := by
  by_cases hfails : ∃ reason, p.loss law = .error (.rejected reason)
  · -- Neither list is judged beyond its ceiling on the loss.
    obtain ⟨reason, hloss⟩ := hfails
    have hceiling : ∀ ceiling, (Constraint.packetLoss ceiling).accepts law p
        = .error (.lengthRejected reason) := fun ceiling =>
      Constraint.accepts_eq_error_iff.mpr ⟨⟨ceiling, rfl⟩, reason, hloss, rfl⟩
    have heq : req.constraints.accept law p = req'.constraints.accept law p := by
      rw [constraints_eq, constraints_eq, Constraints.accept_cons, Constraints.accept_cons,
        Constraints.accept_cons, Constraints.accept_cons, hceiling, hceiling]
      rfl
    rw [heq]
    apply Agree.refl fun _ => id
  · have hloss := not_exists.mp hfails
    obtain ⟨accepts, haccepts⟩ := Constraints.exists_accept hloss req.constraints
    obtain ⟨accepts', haccepts'⟩ := Constraints.exists_accept hloss req'.constraints
    rw [haccepts, haccepts']
    apply Agree.ok
    rintro rfl
    have hall := Constraints.accept_eq_true_iff.mp haccepts
    apply Except.ok.inj
    rw [← haccepts', Constraints.accept_eq_true_iff]
    intro c' hc'
    obtain ⟨c, hc, hloosened⟩ := h.exists_mem_constraints hc'
    apply hloosened.accepts (hall c hc)

end Request.LoosenedTo

/-! ### Selections -/

/-- What may become of an answer when a request is loosened. -/
inductive Selection.LoosenedTo : Selection → Selection → Prop
  | sameEndpoint : LoosenedTo .sameEndpoint .sameEndpoint
  | disconnected : LoosenedTo .disconnected .disconnected
  | constraintViolated (n : ℕ) : LoosenedTo (.constraintViolated n) (.constraintViolated n)
  /-- A candidate is accepted that was not. -/
  | admitted (n : ℕ) (p : Path) : LoosenedTo (.constraintViolated n) (.found p)
  /-- A path is found that costs no more. -/
  | found {p p' : Path} (h : p'.cost ≤ p.cost) : LoosenedTo (.found p) (.found p')

namespace Request.LoosenedTo

variable (h : req.LoosenedTo req')

include h

/-- The survivors are among those of the looser request. -/
theorem agree_accepted (r : Router) (paths : List Path) :
  Agree (fun survivors survivors' => survivors ⊆ survivors')
    (r.accepted req.constraints paths) (r.accepted req'.constraints paths)
  := by
  induction paths with
  | nil => exact .ok (List.Subset.refl [])
  | cons p paths ih =>
      apply (h.agree_accept r.law p).bind
      intro accepts accepts' haccepts
      apply ih.bind
      intro survivors survivors' hsurvivors
      apply Agree.ok
      cases accepts with
      | true =>
          rw [haccepts rfl]
          apply List.cons_subset_cons p hsurvivors
      | false =>
          cases accepts' with
          | true => apply List.subset_cons_of_subset p hsurvivors
          | false => apply hsurvivors

theorem agree_select (r : Router) (src dst : Element) (k : ℕ) :
  Agree Selection.LoosenedTo (r.select req.constraints src dst k)
    (r.select req'.constraints src dst k)
  := by
  by_cases hne : src = dst
  · rw [Router.select, Router.select, if_pos hne, if_pos hne]
    exact .ok .sameEndpoint
  · by_cases hnil : r.candidates src dst k = []
    · rw [Router.select_of_nil hne hnil, Router.select_of_nil hne hnil]
      exact .ok .disconnected
    · rw [Router.select_of_ne_nil hne hnil, Router.select_of_ne_nil hne hnil]
      apply (h.agree_accepted r _).map
      intro survivors survivors' hsubset
      cases htaken : takeCheapest Path.cost survivors with
      | none =>
          cases takeCheapest Path.cost survivors' with
          | none => exact .constraintViolated _
          | some taken' => exact .admitted _ _
      | some taken =>
          have hmem := hsubset (mem_of_takeCheapest htaken)
          cases htaken' : takeCheapest Path.cost survivors' with
          | none =>
              rw [(takeCheapest_eq_none_iff _ _).mp htaken'] at hmem
              cases hmem
          | some taken' => exact .found (cost_le_of_takeCheapest htaken' hmem)

end Request.LoosenedTo

/-! ### Listings -/

/-- What may become of the line of a candidate when a request is loosened: it may be valid
where it was not. -/
def ListedPath.LoosenedTo (line line' : ListedPath) : Prop :=
  line' = { line with valid := line'.valid } ∧ (line.valid = true → line'.valid = true)

/-- What may become of a listing when a request is loosened. -/
structure Listing.LoosenedTo (listing listing' : Listing) : Prop where
  src : listing'.src = listing.src
  dst : listing'.dst = listing.dst
  maxPaths : listing'.maxPaths = listing.maxPaths
  candidates : List.Forall₂ ListedPath.LoosenedTo listing.candidates listing'.candidates
  satisfying : listing.satisfying ≤ listing'.satisfying

/-- No fewer lines are valid than were. -/
theorem length_valid_le {lines lines' : List ListedPath}
    (h : List.Forall₂ ListedPath.LoosenedTo lines lines') :
  (lines.filter (·.valid)).length ≤ (lines'.filter (·.valid)).length
  := by
  induction h with
  | nil => exact Nat.le_refl 0
  | @cons line line' lines lines' hline hlines ih =>
      rw [List.filter_cons, List.filter_cons]
      split_ifs with hvalid hvalid'
      · apply Nat.succ_le_succ ih
      · apply absurd (hline.2 hvalid) hvalid'
      · apply Nat.le_succ_of_le ih
      · apply ih

theorem Request.LoosenedTo.agree_listing (h : req.LoosenedTo req') (r : Router)
    (src dst : Element) (k : ℕ) :
  Agree Listing.LoosenedTo (r.listing req.constraints src dst k)
    (r.listing req'.constraints src dst k)
  := by
  have hlisted : ∀ p ∈ r.candidates src dst k, Agree ListedPath.LoosenedTo
      (p.listed r.law req.constraints) (p.listed r.law req'.constraints) := by
    rintro p -
    apply (Agree.refl (fun _ => rfl) (p.listedLoss r.law)).bind
    rintro loss _ rfl
    apply (h.agree_accept r.law p).bind
    intro accepts accepts' haccepts
    exact .ok ⟨rfl, haccepts⟩
  apply (Agree.mapM hlisted).bind
  intro lines lines' hlines
  exact .ok ⟨rfl, rfl, rfl, hlines, length_valid_le hlines⟩

/-! ### Answers -/

/-- Loosening a request never makes its answers worse, valid or not as the request may be. A
selection fails in the same way, or its answer stays the same but for a path that may be found
where none was accepted, or may be replaced by one that costs no more. A listing fails in the
same way or shows the same candidates, of which those that were valid still are. -/
theorem Request.answers_of_loosenedTo (h : req.LoosenedTo req') (net : Network)
    (src dst : Element) :
  Agree Selection.LoosenedTo
      ((req.router net).select req.constraints src dst req.maxPaths)
      ((req'.router net).select req'.constraints src dst req'.maxPaths)
    ∧ Agree Listing.LoosenedTo
      ((req.router net).listing req.constraints src dst req.maxPaths)
      ((req'.router net).listing req'.constraints src dst req'.maxPaths)
  := by
  rw [h.router_eq, h.maxPaths]
  exact ⟨h.agree_select _ src dst _, h.agree_listing _ src dst _⟩

namespace Detour

/-- A request for the path of the fewest hops, with bounds that no path over the detour
keeps. -/
def strict : Request where
  maxPaths := 1
  packetLossCeiling := 0.0
  latencyCeiling := some 5.0
  bandwidthFloor := 100.0
  useReliabilityWeighting := false

/-- The request without bounds on latency and bandwidth, where half of the packets may be
lost. -/
def lenient : Request where
  maxPaths := 1
  packetLossCeiling := 0.5
  useReliabilityWeighting := false

theorem strict_loosenedTo_lenient :
  strict.LoosenedTo lenient
  := by
  constructor
  · rfl
  · rfl
  · rfl
  · rfl
  · decide +kernel
  · rintro ceiling' ⟨⟩
  · decide +kernel

end Detour

/-- Over the detour, the only candidate is refused by a strict request, and a lenient one may
admit it. -/
theorem Request.answers_of_loosenedTo_detour :
  Detour.strict.LoosenedTo Detour.lenient
    ∧ (Detour.strict.router Detour.network).select Detour.strict.constraints Detour.start
        Detour.goal 1 = .ok (.constraintViolated 1)
    ∧ Agree Selection.LoosenedTo
      ((Detour.strict.router Detour.network).select Detour.strict.constraints Detour.start
        Detour.goal 1)
      ((Detour.lenient.router Detour.network).select Detour.lenient.constraints Detour.start
        Detour.goal 1)
  := by
  have hcandidates : (Detour.strict.router Detour.network).candidates Detour.start Detour.goal 1
      = [Detour.direct] :=
    Detour.search_eq
  refine ⟨Detour.strict_loosenedTo_lenient, ?_, ?_⟩
  · rw [Router.select, if_neg (by decide), hcandidates]
    decide +kernel
  · exact (answers_of_loosenedTo Detour.strict_loosenedTo_lenient Detour.network Detour.start
      Detour.goal).1

end ReliableRouting
