import ReliableRouting.Policy.Aggregate
import ReliableRouting.Proofs.Double.Bounds
import ReliableRouting.Proofs.Outcome

/-!
# Bounds on the measures of links

What a link contributes to the aggregates of a path is bounded. The law of a radio model gives
probabilities, and a link without a length delivers for certain. Annotations that are read as
measures are not negative, and neither is the zero that stands for one that is absent.
-/

namespace ReliableRouting

/-! ### Probabilities of delivery -/

/-- What the law gives lies between zero and one. -/
def DeliveryLaw.IsBounded (law : DeliveryLaw) : Prop :=
  ∀ length x, law length = .ok x → 0 ≤ x ∧ x ≤ 1

/-- A radio model refuses what its formula gives beyond zero and one. -/
theorem RadioModel.isBounded_law (model : RadioModel) :
  model.law.IsBounded
  := by
  intro length x hx
  rw [law] at hx
  split at hx
  · cases hx
  · dsimp only at hx
    split at hx
    next hbounds =>
      obtain rfl := Except.ok.inj hx
      rw [Bool.and_eq_true, decide_eq_true_iff, decide_eq_true_iff] at hbounds
      apply hbounds
    · cases hx

theorem Link.delivery_bounds {law : DeliveryLaw} (hlaw : law.IsBounded) {l : Link} {x : Float}
    (hx : l.delivery law = .ok x) :
  0 ≤ x ∧ x ≤ 1
  := by
  rw [delivery] at hx
  split at hx
  · cases hx
  · obtain rfl := Except.ok.inj hx
    exact ⟨Double.zero_le_one, Double.one_le_one⟩
  next length _ =>
    split at hx
    · cases hx
    next probability hprobability =>
      obtain rfl := Except.ok.inj hx
      apply hlaw length probability hprobability

/-! ### Latencies and bandwidths -/

theorem Annotations.nonneg_of_isMeasure {x : Float} (h : isMeasure x = true) :
  0 ≤ x
  := by
  rw [isMeasure, Bool.and_eq_true, Bool.not_eq_true', decide_eq_false_iff_not] at h
  obtain ⟨hfinite, hnonneg⟩ := h
  apply Double.le_of_not_lt _ _ hnonneg
  · intro hnot
    cases hnot
  · intro hnot
    change Float.Model.UnpackedFloat.isFinite x.toModel.unpack = true at hfinite
    rw [hnot] at hfinite
    cases hfinite

theorem Annotations.nonneg_of_measure {a : Annotations} {key : String} {x : Float}
    (h : a.measure key = .ok (some x)) :
  0 ≤ x
  := by
  rw [measure] at h
  split at h
  next y _ =>
    split at h
    next hmeasure =>
      obtain rfl := Option.some.inj (Except.ok.inj h)
      apply nonneg_of_isMeasure hmeasure
    · cases h
  next hother => apply absurd h (hother x)

theorem Annotations.nonneg_of_measureOr {a : Annotations} {key fallback : String} {x : Float}
    (h : a.measureOr key fallback = .ok (some x)) :
  0 ≤ x
  := by
  rw [measureOr] at h
  split at h
  · apply nonneg_of_measure h
  · apply nonneg_of_measure h

/-- A measure that is read is not negative if what stands for an absent one is not. -/
theorem nonneg_of_map_getD {measure : Except AnnotationFault (Option Float)} {x : Float}
    (hmeasure : ∀ y, measure = .ok (some y) → 0 ≤ y)
    (h : measure.map (fun y => y.getD 0.0) = .ok x) :
  0 ≤ x
  := by
  obtain ⟨y, hy, rfl⟩ := map_eq_ok_iff.mp h
  cases y with
  | none => apply Double.zero_le_zero
  | some y => apply hmeasure y hy

theorem Link.nonneg_of_delay {l : Link} {x : Float} (h : l.delay = .ok x) :
  0 ≤ x
  := nonneg_of_map_getD (fun _ => Annotations.nonneg_of_measureOr) h

theorem Link.nonneg_of_offered {l : Link} {x : Float} (h : l.offered = .ok x) :
  0 ≤ x
  := nonneg_of_map_getD (fun _ => Annotations.nonneg_of_measureOr) h

/-! ### A relay

Two devices are joined over a third one. All links have measures, and the second one is slower.
-/

namespace Relay

/-- A link between devices that has a latency and a bandwidth. -/
def hop (e e' latency bandwidth : String) : Link where
  src := ⟨.device e, 1⟩
  dst := ⟨.device e', 1⟩
  annotations := (Annotations.empty.set "latency" latency).set "bandwidth" bandwidth

/-- The path to the device on the way. -/
def short : Path :=
  ⟨[hop "start" "middle" "2" "100"], .ofFloat 1, by decide⟩

/-- The path that goes on over a slower link. -/
def long : Path :=
  ⟨[hop "start" "middle" "2" "100", hop "middle" "goal" "3.5" "40"], .ofFloat 2, by decide⟩

end Relay

end ReliableRouting
