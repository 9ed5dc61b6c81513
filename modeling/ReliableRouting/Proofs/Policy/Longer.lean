import ReliableRouting.Proofs.Policy.Judging
import ReliableRouting.Proofs.Policy.Measures

/-!
# Longer paths

A path that goes on where another ends is no better than it in any respect. A fault that an
aggregate of the shorter path has is the fault of the longer one. Where there is none, the longer
path loses no fewer packets, takes no less time and has no more bandwidth, whatever is rounded.
So a constraint that accepts the longer path accepts the shorter one.
-/

namespace ReliableRouting

variable {law : DeliveryLaw} {l : Link}

/-! ### A further link -/

/-- A further link delivers no packet that the links before it have lost. -/
theorem delivery_step (hlaw : law.IsBounded) {t t' : Float} (ht : 0 ≤ t ∧ t ≤ 1)
    (h : (l.delivery law).map (t * ·) = .ok t') :
  (0 ≤ t' ∧ t' ≤ 1) ∧ t' ≤ t
  := by
  obtain ⟨x, hx, rfl⟩ := map_eq_ok_iff.mp h
  obtain ⟨hnonneg, hone⟩ := Link.delivery_bounds hlaw hx
  have hle := Double.mul_le_left ht.1 ht.2 hnonneg hone
  exact ⟨⟨Double.mul_nonneg ht.1 ht.2 hnonneg hone, Double.le_trans hle ht.2⟩, hle⟩

/-- A further link gives no time back. -/
theorem latency_step {t t' : Float} (ht : 0 ≤ t) (h : l.delay.map (t + ·) = .ok t') :
  0 ≤ t' ∧ t ≤ t'
  := by
  obtain ⟨x, hx, rfl⟩ := map_eq_ok_iff.mp h
  have hnonneg := Link.nonneg_of_delay hx
  exact ⟨Double.add_nonneg ht hnonneg, Double.le_add_right ht hnonneg⟩

/-- The lesser of two quantities is neither negative nor above the first. -/
theorem least_bounds {c : Option Float} {x : Float} (hc : ∀ y, c = some y → 0 ≤ y) (hx : 0 ≤ x) :
  0 ≤ least c x ∧ ∀ y, c = some y → least c x ≤ y
  := by
  cases c with
  | none =>
      use hx
      intro y hy
      cases hy
  | some z =>
      have hz := hc z rfl
      rw [least]
      split
      next hlt =>
        use hz
        rintro _ ⟨⟩
        apply Double.le_self_of_le hz
      next hlt =>
        use hx
        rintro _ ⟨⟩
        apply Double.le_of_not_lt (Double.ne_notANumber_of_le hx) (Double.ne_notANumber_of_le hz) hlt

/-- A further link leaves no more bandwidth. -/
theorem bottleneck_step {c c' : Option Float} (hc : ∀ y, c = some y → 0 ≤ y)
    (h : l.offered.map (fun x => some (least c x)) = .ok c') :
  (∀ y, c' = some y → 0 ≤ y) ∧ ∀ y, c = some y → ∃ x, c' = some x ∧ x ≤ y
  := by
  obtain ⟨x, hx, rfl⟩ := map_eq_ok_iff.mp h
  obtain ⟨hnonneg, hle⟩ := least_bounds hc (Link.nonneg_of_offered hx)
  constructor
  · rintro _ ⟨⟩
    apply hnonneg
  · intro y hy
    exact ⟨least c x, rfl, hle y hy⟩

namespace Path

/-! ### Aggregates -/

/-- A path loses no fewer packets than none, and no more than all. -/
theorem loss_bounds (hlaw : law.IsBounded) {p : Path} {x : Float} (hx : p.loss law = .ok x) :
  0 ≤ x ∧ x ≤ 1
  := by
  obtain ⟨t, ht, rfl⟩ := map_eq_ok_iff.mp hx
  have hbounds : 0 ≤ t ∧ t ≤ 1 := by
    apply foldlM_preserves (P := fun t => 0 ≤ t ∧ t ≤ 1) _ _ ht
    · intro t l t' ht hstep
      apply (delivery_step hlaw ht hstep).1
    · exact ⟨Double.zero_le_one, Double.one_le_one⟩
  exact ⟨Double.one_sub_nonneg hbounds.1 hbounds.2, Double.one_sub_le_one hbounds.1 hbounds.2⟩

variable {p q : Path} (h : q.links <+: p.links)

include h

theorem coreLinks_isPrefix :
  q.coreLinks <+: p.coreLinks
  := h.filter _

theorem loss_eq_error_of_isPrefix {fault : DeliveryFault} (hfault : q.loss law = .error fault) :
  p.loss law = .error fault
  := by
  rw [loss, map_eq_error_iff] at hfault ⊢
  apply foldlM_eq_error_of_isPrefix (coreLinks_isPrefix h) hfault

theorem latency_eq_error_of_isPrefix {fault : AnnotationFault}
    (hfault : q.latency = .error fault) :
  p.latency = .error fault
  := foldlM_eq_error_of_isPrefix (coreLinks_isPrefix h) hfault

theorem bottleneck_eq_error_of_isPrefix {fault : AnnotationFault}
    (hfault : q.bottleneck = .error fault) :
  p.bottleneck = .error fault
  := foldlM_eq_error_of_isPrefix (coreLinks_isPrefix h) hfault

/-- The longer path loses no fewer packets. -/
theorem exists_loss_le_of_isPrefix (hlaw : law.IsBounded) {x : Float}
    (hx : p.loss law = .ok x) :
  ∃ y, q.loss law = .ok y ∧ y ≤ x
  := by
  obtain ⟨t, ht, rfl⟩ := map_eq_ok_iff.mp hx
  obtain ⟨t', ht', hbounds', hle, hbounds⟩ : ∃ t', q.delivery law = .ok t'
      ∧ (0 ≤ t' ∧ t' ≤ 1) ∧ t ≤ t' ∧ 0 ≤ t ∧ t ≤ 1 := by
    apply exists_foldlM_of_isPrefix (coreLinks_isPrefix h) (P := fun t => 0 ≤ t ∧ t ≤ 1)
      (R := fun t t' => t' ≤ t) _ _ _ _ ht
    · intro t ht
      apply Double.le_self_of_le ht.1
    · intro t t' t'' hle hle'
      apply Double.le_trans hle' hle
    · intro t l t' ht hstep
      apply delivery_step hlaw ht hstep
    · exact ⟨Double.zero_le_one, Double.one_le_one⟩
  exact ⟨1 - t', map_eq_ok_iff.mpr ⟨t', ht', rfl⟩,
    Double.one_sub_le_one_sub hbounds'.1 hbounds'.2 hbounds.1 hle⟩

/-- The longer path takes no less time. -/
theorem exists_latency_le_of_isPrefix {x : Float} (hx : p.latency = .ok x) :
  ∃ y, q.latency = .ok y ∧ y ≤ x
  := by
  obtain ⟨y, hy, -, hle, -⟩ : ∃ y, q.latency = .ok y ∧ 0 ≤ y ∧ y ≤ x ∧ 0 ≤ x := by
    apply exists_foldlM_of_isPrefix (coreLinks_isPrefix h) (P := fun t => 0 ≤ t)
      (R := fun t t' => t ≤ t') _ _ _ _ hx
    · intro t ht
      apply Double.le_self_of_le ht
    · intro t t' t'' hle hle'
      apply Double.le_trans hle hle'
    · intro t l t' ht hstep
      apply latency_step ht hstep
    · apply Double.zero_le_zero
  exact ⟨y, hy, hle⟩

/-- The longer path has no more bandwidth. -/
theorem exists_bottleneck_ge_of_isPrefix {b : Option Float} (hb : p.bottleneck = .ok b) :
  ∃ b', q.bottleneck = .ok b' ∧ ∀ y, b' = some y → ∃ x, b = some x ∧ x ≤ y
  := by
  obtain ⟨b', hb', -, hle, -⟩ : ∃ b', q.bottleneck = .ok b' ∧ (∀ y, b' = some y → 0 ≤ y)
      ∧ (∀ y, b' = some y → ∃ x, b = some x ∧ x ≤ y) ∧ ∀ x, b = some x → 0 ≤ x := by
    apply exists_foldlM_of_isPrefix (coreLinks_isPrefix h)
      (P := fun c : Option Float => ∀ y, c = some y → 0 ≤ y)
      (R := fun c c' => ∀ y, c = some y → ∃ x, c' = some x ∧ x ≤ y) _ _ _ _ hb
    · intro c hc y hy
      exact ⟨y, hy, Double.le_self_of_le (hc y hy)⟩
    · intro c c' c'' hle hle' z hz
      obtain ⟨y, hy, hyz⟩ := hle z hz
      obtain ⟨x, hx, hxy⟩ := hle' y hy
      exact ⟨x, hx, Double.le_trans hxy hyz⟩
    · intro c l c' hc hstep
      apply bottleneck_step hc hstep
    · rintro y ⟨⟩
  exact ⟨b', hb', hle⟩

/-! ### Constraints -/

/-- A constraint that accepts the longer path accepts the shorter one. -/
theorem accepts_of_isPrefix (hlaw : law.IsBounded) {c : Constraint}
    (haccepts : c.accepts law p = .ok true) :
  c.accepts law q = .ok true
  := by
  cases c with
  | packetLoss ceiling =>
      obtain ⟨x, hx, hlt⟩ := Constraint.accepts_packetLoss_iff.mp haccepts
      obtain ⟨y, hy, hle⟩ := exists_loss_le_of_isPrefix h hlaw hx
      exact Constraint.accepts_packetLoss_iff.mpr ⟨y, hy, Double.lt_of_le_of_lt hle hlt⟩
  | latency ceiling =>
      obtain ⟨x, hx, hlt⟩ := Constraint.accepts_latency_iff.mp haccepts
      obtain ⟨y, hy, hle⟩ := exists_latency_le_of_isPrefix h hx
      exact Constraint.accepts_latency_iff.mpr ⟨y, hy, Double.lt_of_le_of_lt hle hlt⟩
  | bandwidth floor =>
      apply Constraint.accepts_bandwidth_iff.mpr
      intro l hl
      apply Constraint.accepts_bandwidth_iff.mp haccepts l ((coreLinks_isPrefix h).subset hl)
  | excludedTypes excluded =>
      apply Constraint.accepts_excludedTypes_iff.mpr
      intro l hl
      apply Constraint.accepts_excludedTypes_iff.mp haccepts l (h.subset hl)
  | ownWayBack => rfl

omit h

/-! ### The longer path and the shorter one -/

/-- The first path is in no respect better than the second. -/
structure NoBetterThan (law : DeliveryLaw) (p q : Path) : Prop where
  /-- Whatever is asked for, the second path is accepted if the first is. -/
  accepts : ∀ c : Constraint, c.accepts law p = .ok true → c.accepts law q = .ok true
  /-- A malformed length, or one that the law refuses, is that of the first path as well. -/
  loss_eq_error : ∀ fault, q.loss law = .error fault → p.loss law = .error fault
  latency_eq_error : ∀ fault, q.latency = .error fault → p.latency = .error fault
  bottleneck_eq_error : ∀ fault, q.bottleneck = .error fault → p.bottleneck = .error fault
  loss_ge : ∀ x, p.loss law = .ok x → ∃ y, q.loss law = .ok y ∧ y ≤ x
  latency_ge : ∀ x, p.latency = .ok x → ∃ y, q.latency = .ok y ∧ y ≤ x
  /-- If the second path has core links, so has the first, and no more bandwidth. -/
  bottleneck_le : ∀ b, p.bottleneck = .ok b →
    ∃ b', q.bottleneck = .ok b' ∧ ∀ y, b' = some y → ∃ x, b = some x ∧ x ≤ y

/-- Under the law of a radio model, a path is in no respect better than one that it begins with:
going on cannot repair a fault, a loss of packets, a delay or a lack of bandwidth. The loss of
any path that has one lies between zero and one. -/
theorem noBetterThan_of_isPrefix (model : RadioModel) (h : q.links <+: p.links) :
  p.NoBetterThan model.law q
    ∧ ∀ (r : Path) (x : Float), r.loss model.law = .ok x → 0 ≤ x ∧ x ≤ 1
  := by
  have hlaw := model.isBounded_law
  constructor
  · exact {
      accepts := fun _ => accepts_of_isPrefix h hlaw
      loss_eq_error := fun _ => loss_eq_error_of_isPrefix h
      latency_eq_error := fun _ => latency_eq_error_of_isPrefix h
      bottleneck_eq_error := fun _ => bottleneck_eq_error_of_isPrefix h
      loss_ge := fun _ => exists_loss_le_of_isPrefix h hlaw
      latency_ge := fun _ => exists_latency_le_of_isPrefix h
      bottleneck_le := fun _ => exists_bottleneck_ge_of_isPrefix h }
  · intro r x hx
    apply loss_bounds hlaw hx

end Path

/-- Going on from the relay takes longer and leaves less bandwidth. -/
theorem Path.noBetterThan_of_isPrefix_relay :
  Relay.short.links <+: Relay.long.links
    ∧ Relay.long.latency = .ok 5.5 ∧ Relay.long.bottleneck = .ok (some 40)
    ∧ Relay.long.NoBetterThan ({} : RadioModel).law Relay.short
  := by
  have hinitial : Relay.short.links <+: Relay.long.links := ⟨_, rfl⟩
  refine ⟨hinitial, ?_, ?_, (noBetterThan_of_isPrefix {} hinitial).1⟩
  · decide +kernel
  · decide +kernel

end ReliableRouting
