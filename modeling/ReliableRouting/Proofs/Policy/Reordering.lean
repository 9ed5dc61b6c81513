import ReliableRouting.Proofs.Policy.Judging
import ReliableRouting.Proofs.Policy.Measures
import ReliableRouting.Proofs.Route.Along

/-!
# The order of constraints

Judging stops at the first rejection or fault, so the order of the constraints decides which of
them is met first. It never decides whether a path is accepted. Where it makes a difference at
all, one order rejects the path and another fails, in the one way in which the loss of the path
fails. The exclusion of optical links, put in front, makes no difference to a path that a search
returns.
-/

namespace ReliableRouting

namespace Constraints

variable {law : DeliveryLaw} {p : Path} {cs cs' : Constraints}

/-! ### Permutations -/

section Permutation

variable (h : cs.Perm cs')

include h

theorem accept_eq_true_iff_of_perm (law : DeliveryLaw) (p : Path) :
  cs.accept law p = .ok true ↔ cs'.accept law p = .ok true
  := by
  rw [accept_eq_true_iff, accept_eq_true_iff]
  simp only [h.mem_iff]

/-- Where neither order fails, they judge alike. -/
theorem eq_of_accept_eq_ok {accepts accepts' : Bool} (haccept : cs.accept law p = .ok accepts)
    (haccept' : cs'.accept law p = .ok accepts') :
  accepts = accepts'
  := by
  have htrue := accept_eq_true_iff_of_perm h law p
  rw [haccept, haccept', Except.ok.injEq, Except.ok.injEq] at htrue
  apply Bool.eq_iff_iff.mpr htrue

/-- Where one order fails and the other does not, the other rejects the path. -/
theorem eq_false_of_accept_eq_error {fault : RoutingFault} {accepts : Bool}
    (hfails : cs.accept law p = .error fault) (haccept : cs'.accept law p = .ok accepts) :
  accepts = false
  := by
  have htrue := accept_eq_true_iff_of_perm h law p
  rw [hfails, haccept, Except.ok.injEq] at htrue
  rw [← Bool.not_eq_true, ← htrue]
  rintro ⟨⟩

/-- Two orders judge alike, or one rejects the path and the other fails as its loss does. -/
theorem accept_cases_of_perm (law : DeliveryLaw) (p : Path) :
  cs.accept law p = cs'.accept law p
    ∨ (∃ ceiling, .packetLoss ceiling ∈ cs)
      ∧ ∃ reason, p.loss law = .error (.rejected reason)
        ∧ (cs.accept law p = .ok false ∧ cs'.accept law p = .error (.lengthRejected reason)
          ∨ cs.accept law p = .error (.lengthRejected reason) ∧ cs'.accept law p = .ok false)
  := by
  cases haccept : cs.accept law p with
  | ok accepts =>
      cases haccept' : cs'.accept law p with
      | ok accepts' =>
          left
          rw [eq_of_accept_eq_ok h haccept haccept']
      | error fault' =>
          right
          obtain ⟨⟨ceiling, hceiling⟩, reason, hloss, rfl⟩ := of_accept_eq_error haccept'
          rw [eq_false_of_accept_eq_error h.symm haccept' haccept]
          exact ⟨⟨ceiling, h.mem_iff.mpr hceiling⟩, reason, hloss, .inl ⟨rfl, rfl⟩⟩
  | error fault =>
      obtain ⟨hceiling, reason, hloss, rfl⟩ := of_accept_eq_error haccept
      cases haccept' : cs'.accept law p with
      | ok accepts' =>
          right
          rw [eq_false_of_accept_eq_error h haccept haccept']
          exact ⟨hceiling, reason, hloss, .inr ⟨rfl, rfl⟩⟩
      | error fault' =>
          left
          -- The loss of the path fails in one way only.
          obtain ⟨-, reason', hloss', rfl⟩ := of_accept_eq_error haccept'
          rw [hloss] at hloss'
          cases hloss'
          rfl

end Permutation

/-! ### The exclusion of optical links -/

theorem mem_withoutOptical_iff {c : Constraint} :
  c ∈ cs.withoutOptical ↔ c = .notOptical ∨ c ∈ cs
  := by
  rw [withoutOptical]
  split
  next hmem =>
    constructor
    · apply Or.inr
    · rintro (rfl | hc)
      · apply hmem
      · apply hc
  next => apply List.mem_cons

/-- Without optical links, excluding them makes no difference. -/
theorem accept_withoutOptical (law : DeliveryLaw) (cs : Constraints)
    (hoptical : ∀ l ∈ p.links, l.type ≠ .optical) :
  cs.withoutOptical.accept law p = cs.accept law p
  := by
  rw [withoutOptical]
  split
  · rfl
  · rw [accept_cons, Constraint.notOptical_accepts_iff.mpr hoptical]
    rfl

/-- With optical links excluded, no path with an optical link is accepted. -/
theorem accept_withoutOptical_ne (law : DeliveryLaw) (cs : Constraints) {l : Link}
    (hl : l ∈ p.links) (hoptical : l.type = .optical) :
  cs.withoutOptical.accept law p ≠ .ok true
  := by
  intro haccept
  have hall := accept_eq_true_iff.mp haccept .notOptical (mem_withoutOptical_iff.mpr (.inl rfl))
  apply Constraint.notOptical_accepts_iff.mp hall l hl hoptical

/-- The order of constraints does not decide whether a path is accepted. If the loss of the path
is not refused, or there is no ceiling on it, every order judges alike. Otherwise two orders that
do not judge alike are one that rejects the path and one that fails, as the loss of the path does
and whatever ceiling is met. The exclusion of optical links that is put in front makes no
difference to a path that a search returns, and lets no path with an optical link be accepted. -/
theorem accept_reordered (law : DeliveryLaw) (p : Path) (h : cs.Perm cs') :
  (cs.accept law p = .ok true ↔ cs'.accept law p = .ok true)
    ∧ ((∀ reason, p.loss law ≠ .error (.rejected reason)) ∨ (∀ ceiling, .packetLoss ceiling ∉ cs) →
      cs.accept law p = cs'.accept law p)
    ∧ (cs.accept law p ≠ cs'.accept law p →
      ∃ reason, p.loss law = .error (.rejected reason)
        ∧ (cs.accept law p = .ok false ∧ cs'.accept law p = .error (.lengthRejected reason)
          ∨ cs.accept law p = .error (.lengthRejected reason) ∧ cs'.accept law p = .ok false))
    ∧ (∀ (net : Network) (w : Weigher) (src dst : Element) (k : ℕ), p ∈ net.search w src dst k →
      cs.withoutOptical.accept law p = cs.accept law p)
    ∧ ((∃ l ∈ p.links, l.type = .optical) → cs.withoutOptical.accept law p ≠ .ok true)
  := by
  have hcases := accept_cases_of_perm h law p
  refine ⟨accept_eq_true_iff_of_perm h law p, ?_, ?_, ?_, ?_⟩
  · intro hnone
    apply hcases.resolve_right
    rintro ⟨⟨ceiling, hceiling⟩, reason, hloss, -⟩
    obtain hloss' | hceiling' := hnone
    · apply hloss' reason hloss
    · apply hceiling' ceiling hceiling
  · intro hne
    apply (hcases.resolve_left hne).2
  · intro net w src dst k hp
    apply accept_withoutOptical
    intro l hl
    apply Network.not_optical_of_mem_search hp hl
  · rintro ⟨l, hl, hoptical⟩
    apply accept_withoutOptical_ne law cs hl hoptical

end Constraints

namespace Relay

/-- A path over a link whose length no radio model measures. -/
def inverted : Path :=
  ⟨[{ hop "start" "goal" "2" "100" with annotations := Annotations.empty.set "length" "-5" }],
    .ofFloat 1, by decide⟩

end Relay

/-- A link that is excluded for its sort is rejected or fails for its length, whatever is asked
for first. -/
theorem Constraints.accept_reordered_relay :
  [Constraint.excludedTypes [.direct], .packetLoss 0.5].Perm
      [.packetLoss 0.5, .excludedTypes [.direct]]
    ∧ Constraints.accept ({} : RadioModel).law Relay.inverted
        [.excludedTypes [.direct], .packetLoss 0.5] = .ok false
    ∧ Constraints.accept ({} : RadioModel).law Relay.inverted
        [.packetLoss 0.5, .excludedTypes [.direct]]
      = .error (.lengthRejected (.invalidLength (-5)))
    ∧ ∃ reason, Relay.inverted.loss ({} : RadioModel).law = .error (.rejected reason)
  := by
  have hperm : [Constraint.excludedTypes [.direct], .packetLoss 0.5].Perm
      [.packetLoss 0.5, .excludedTypes [.direct]] :=
    .swap _ _ []
  have hrejects : Constraints.accept ({} : RadioModel).law Relay.inverted
      [.excludedTypes [.direct], .packetLoss 0.5] = .ok false := by
    decide +kernel
  have hfails : Constraints.accept ({} : RadioModel).law Relay.inverted
      [.packetLoss 0.5, .excludedTypes [.direct]]
      = .error (.lengthRejected (.invalidLength (-5))) := by
    decide +kernel
  refine ⟨hperm, hrejects, hfails, ?_⟩
  obtain ⟨-, -, hdiffers, -, -⟩ := accept_reordered ({} : RadioModel).law Relay.inverted hperm
  rw [hrejects, hfails] at hdiffers
  obtain ⟨reason, hloss, -⟩ := hdiffers (by rintro ⟨⟩)
  exact ⟨reason, hloss⟩

end ReliableRouting
