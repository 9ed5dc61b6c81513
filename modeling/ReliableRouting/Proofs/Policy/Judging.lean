import Mathlib.Tactic.SplitIfs
import ReliableRouting.Policy.Request
import ReliableRouting.Proofs.Outcome

/-!
# Judging a path

A path is accepted exactly if every constraint accepts it. Judging fails only where the loss
of the path is not to be had because the law refuses a length, and then only for a ceiling on
the loss, whatever that is. The constraints of a request are the exclusion of optical links,
such a ceiling, and further ones that cannot fail.
-/

namespace ReliableRouting

variable {law : DeliveryLaw} {p : Path}

/-! ### Single constraints -/

namespace Constraint

theorem offers_eq_true_iff {floor : Float} {l : Link} :
  offers floor l = true ↔ ∃ x, l.offered = .ok x ∧ floor ≤ x
  := by
  rw [offers]
  cases l.offered with
  | error fault => simp
  | ok x => simp

/-- A loss below the ceiling is accepted. -/
theorem accepts_packetLoss_iff {ceiling : Float} :
  (packetLoss ceiling).accepts law p = .ok true ↔ ∃ x, p.loss law = .ok x ∧ x < ceiling
  := by
  rw [accepts]
  cases p.loss law with
  | ok x => simp
  | error reason =>
      cases reason with
      | malformed reason => simp
      | rejected reason => simp

/-- A latency below the ceiling is accepted. -/
theorem accepts_latency_iff {ceiling : Float} :
  (latency ceiling).accepts law p = .ok true ↔ ∃ x, p.latency = .ok x ∧ x < ceiling
  := by
  rw [accepts]
  cases p.latency with
  | ok x => simp
  | error reason => simp

/-- Core links that have at least the floor are accepted. -/
theorem accepts_bandwidth_iff {floor : Float} :
  (bandwidth floor).accepts law p = .ok true
    ↔ ∀ l ∈ p.coreLinks, ∃ x, l.offered = .ok x ∧ floor ≤ x
  := by
  rw [accepts, Except.ok.injEq, List.all_eq_true]
  simp only [offers_eq_true_iff]

/-- Links of other types are accepted. -/
theorem accepts_excludedTypes_iff {excluded : List LinkType} :
  (excludedTypes excluded).accepts law p = .ok true ↔ ∀ l ∈ p.links, l.type ∉ excluded
  := by
  rw [accepts, Except.ok.injEq, List.all_eq_true]
  simp only [decide_eq_true_iff]

/-- A path is excluded for its optical links only. -/
theorem notOptical_accepts_iff :
  notOptical.accepts law p = .ok true ↔ ∀ l ∈ p.links, l.type ≠ .optical
  := by
  rw [notOptical, accepts_excludedTypes_iff]
  simp only [List.mem_singleton, ne_eq]

/-- A constraint fails exactly as the loss of the path does, if it is about the loss. -/
theorem accepts_eq_error_iff {c : Constraint} {fault : RoutingFault} :
  c.accepts law p = .error fault
    ↔ (∃ ceiling, c = .packetLoss ceiling)
      ∧ ∃ reason, p.loss law = .error (.rejected reason) ∧ fault = .lengthRejected reason
  := by
  cases c with
  | packetLoss ceiling =>
      rw [accepts]
      cases p.loss law with
      | ok x => simp
      | error reason =>
          cases reason with
          | malformed reason => simp
          | rejected reason => simp [eq_comm]
  | latency ceiling =>
      rw [accepts]
      cases p.latency with
      | ok x => simp
      | error reason => simp
  | bandwidth floor => simp [accepts]
  | excludedTypes excluded => simp [accepts]
  | ownWayBack => simp [accepts]

end Constraint

/-! ### Lists of constraints -/

namespace Constraints

variable {cs : Constraints}

theorem accept_cons (law : DeliveryLaw) (p : Path) (c : Constraint) (cs : Constraints) :
  Constraints.accept law p (c :: cs)
    = c.accepts law p >>= fun accepts => if accepts then cs.accept law p else .ok false
  := by
  rw [accept, firstViolated]
  cases c.accepts law p with
  | error fault => rfl
  | ok accepts =>
      cases accepts with
      | false => rfl
      | true => rfl

/-- A path is accepted exactly if every constraint accepts it. -/
theorem accept_eq_true_iff :
  cs.accept law p = .ok true ↔ ∀ c ∈ cs, c.accepts law p = .ok true
  := by
  induction cs with
  | nil => exact iff_of_true rfl fun _ hc => absurd hc List.not_mem_nil
  | cons c cs ih =>
      rw [accept_cons, bind_eq_ok_iff, List.forall_mem_cons, ← ih]
      constructor
      · rintro ⟨accepts, hc, h⟩
        cases accepts with
        | false => cases h
        | true => exact ⟨hc, h⟩
      · rintro ⟨hc, h⟩
        exact ⟨true, hc, h⟩

/-- Judging fails only as the loss of the path does, and only for a ceiling on it. -/
theorem of_accept_eq_error {fault : RoutingFault} (h : cs.accept law p = .error fault) :
  (∃ ceiling, .packetLoss ceiling ∈ cs)
    ∧ ∃ reason, p.loss law = .error (.rejected reason) ∧ fault = .lengthRejected reason
  := by
  induction cs with
  | nil => cases h
  | cons c cs ih =>
      rw [accept_cons, bind_eq_error_iff] at h
      obtain hc | ⟨accepts, -, hrest⟩ := h
      · obtain ⟨⟨ceiling, rfl⟩, hloss⟩ := Constraint.accepts_eq_error_iff.mp hc
        exact ⟨⟨ceiling, List.mem_cons_self⟩, hloss⟩
      · cases accepts with
        | false => cases hrest
        | true =>
            obtain ⟨⟨ceiling, hceiling⟩, hloss⟩ := ih hrest
            exact ⟨⟨ceiling, List.mem_cons_of_mem c hceiling⟩, hloss⟩

/-- Judging succeeds unless the law refuses a length of the path. -/
theorem exists_accept (h : ∀ reason, p.loss law ≠ .error (.rejected reason))
    (cs : Constraints) :
  ∃ accepts, cs.accept law p = .ok accepts
  := by
  cases haccept : cs.accept law p with
  | ok accepts => exact ⟨accepts, rfl⟩
  | error fault =>
      obtain ⟨-, reason, hloss, -⟩ := of_accept_eq_error haccept
      apply absurd hloss (h reason)

end Constraints

/-! ### The constraints of a request -/

namespace Request

/-- The constraints of a request on the latency, on the bandwidth and on the way back. -/
def furtherConstraints (req : Request) : Constraints :=
  (match req.latencyCeiling with
    | some ceiling => [.latency ceiling]
    | none => [])
    ++ (if 0.0 < req.bandwidthFloor then [.bandwidth req.bandwidthFloor] else [])
    ++ (if req.asymmetric then [.ownWayBack] else [])

theorem mem_furtherConstraints_iff {req : Request} {c : Constraint} :
  c ∈ req.furtherConstraints
    ↔ (∃ ceiling, req.latencyCeiling = some ceiling ∧ c = .latency ceiling)
      ∨ (0.0 < req.bandwidthFloor ∧ c = .bandwidth req.bandwidthFloor)
      ∨ (req.asymmetric = true ∧ c = .ownWayBack)
  := by
  rw [furtherConstraints, List.mem_append, List.mem_append, or_assoc]
  apply or_congr
  · cases req.latencyCeiling with
    | none => simp
    | some ceiling => simp
  · apply or_congr
    · split_ifs with h
      · simp [h]
      · simp [h]
    · split_ifs with h
      · simp [h]
      · simp [h]

/-- Optical links are excluded first, then the ceiling on the loss is kept. -/
theorem constraints_eq (req : Request) :
  req.constraints
    = .notOptical :: .packetLoss req.packetLossCeiling :: req.furtherConstraints
  := by
  have hnew : .notOptical ∉ .packetLoss req.packetLossCeiling :: req.furtherConstraints := by
    rw [List.mem_cons, mem_furtherConstraints_iff]
    rintro (h | ⟨ceiling, -, h⟩ | ⟨-, h⟩ | ⟨-, h⟩)
    all_goals cases h
  apply if_neg hnew

end Request

end ReliableRouting
