import ReliableRouting.Proofs.Double.Sum
import ReliableRouting.Route.Weight

/-!
# The order of weights

Weights are ordered by their numbers of steps, infinity being the greatest. Adding a weight
is monotone and never makes a weight less, although it rounds. The cheapest item of a list
costs no more than any other.
-/

namespace ReliableRouting

open Double Float.Model

namespace Weight

/-- The value in steps of `2 ^ -1074`. -/
def steps (w : Weight) : ℕ∞ :=
  Double.steps w.value.toModel.unpack

theorem isMagnitude (w : Weight) :
  IsMagnitude w.value.toModel.unpack
  := (isMagnitude_iff w.value).mpr w.nonneg

theorem rounded_steps (w : Weight) :
  rounded w.steps = w.steps
  := w.isMagnitude.rounded_steps

/-! ### Comparison -/

theorem le_iff {a b : Weight} :
  a ≤ b ↔ a.steps ≤ b.steps
  := decide_eq_true_iff.trans (a.isMagnitude.le_iff b.isMagnitude)

theorem lt_iff {a b : Weight} :
  a < b ↔ a.steps < b.steps
  := decide_eq_true_iff.trans (a.isMagnitude.lt_iff b.isMagnitude)

theorem le_refl (a : Weight) :
  a ≤ a
  := le_iff.mpr le_rfl

theorem le_trans {a b c : Weight} (hab : a ≤ b) (hbc : b ≤ c) :
  a ≤ c
  := le_iff.mpr ((le_iff.mp hab).trans (le_iff.mp hbc))

theorem le_total (a b : Weight) :
  a ≤ b ∨ b ≤ a
  := by
  rw [le_iff, le_iff]
  apply LinearOrder.le_total

theorem le_of_lt {a b : Weight} (h : a < b) :
  a ≤ b
  := le_iff.mpr (lt_iff.mp h).le

theorem le_of_not_lt {a b : Weight} (h : ¬ a < b) :
  b ≤ a
  := by
  rw [lt_iff] at h
  rw [le_iff]
  apply not_lt.mp h

theorem not_lt_of_le {a b : Weight} (h : a ≤ b) :
  ¬ b < a
  := by
  rw [lt_iff]
  apply not_lt.mpr (le_iff.mp h)

/-- Weights of the same number of steps are equal, but for the two zeros. -/
theorem eq_of_steps_eq {a b : Weight} (h : a.steps = b.steps) (hne : a.steps ≠ 0) :
  a = b
  := by
  have hunpack := a.isMagnitude.eq_of_steps_eq b.isMagnitude h hne
  have hvalue : a.value = b.value := by
    apply eq_of_unpack_eq hunpack
    intro hnot
    have hmagnitude := a.isMagnitude
    rw [hnot] at hmagnitude
    cases hmagnitude
  obtain ⟨value, hnonneg⟩ := a
  subst hvalue
  rfl

/-- Weights that are not zero are equal in turn if their steps are. -/
theorem eq_of_map_steps_eq {weights weights' : List Weight}
    (h : weights.map steps = weights'.map steps) (hne : ∀ a ∈ weights, a.steps ≠ 0) :
  weights = weights'
  := by
  induction weights generalizing weights' with
  | nil => exact (List.map_eq_nil_iff.mp h.symm).symm
  | cons a weights ih =>
      obtain ⟨b, rest, rfl, hsteps, hrest⟩ := List.map_eq_cons_iff.mp h.symm
      obtain ⟨ha, hweights⟩ := List.forall_mem_cons.mp hne
      rw [eq_of_steps_eq hsteps.symm ha, ih hrest.symm hweights]

/-! ### Values -/

@[simp]
theorem steps_zero :
  (0 : Weight).steps = 0
  := rfl

/-- A double that is at least zero keeps its steps as a weight. -/
theorem steps_ofFloat {x : Float} (h : IsMagnitude x.toModel.unpack) :
  (ofFloat x).steps = Double.steps x.toModel.unpack
  := by
  rw [ofFloat]
  split_ifs with hx
  · rfl
  · have hfinite : UnpackedFloat.isFinite x.toModel.unpack ≠ true := fun hf =>
      hx ⟨hf, (isMagnitude_iff x).mp h⟩
    rw [ne_eq, isFinite_iff_steps, not_not] at hfinite
    apply hfinite.symm

/-! ### Sums -/

/-- The steps of a sum are the rounded sum of the steps. -/
theorem steps_add (a b : Weight) :
  (a + b).steps = rounded (a.steps + b.steps)
  := by
  obtain ⟨hmagnitude, hsteps⟩ := a.isMagnitude.add b.isMagnitude
  rw [add_eq_ofFloat]
  apply Eq.trans (steps_ofFloat hmagnitude) hsteps

/-- Adding the same weight keeps the order, whatever is rounded. -/
theorem add_le_add_right {a b : Weight} (h : a ≤ b) (c : Weight) :
  a + c ≤ b + c
  := by
  rw [le_iff, steps_add, steps_add]
  apply rounded_mono
  gcongr
  apply le_iff.mp h

/-- A sum is at least its first part, whatever is rounded. -/
theorem le_add_right (a c : Weight) :
  a ≤ a + c
  := by
  rw [le_iff, steps_add]
  calc
    a.steps = rounded a.steps := a.rounded_steps.symm
    _ ≤ rounded (a.steps + c.steps) := rounded_mono le_self_add

end Weight

/-! ### The cheapest item -/

section Cheapest

variable {α : Type} {cost : α → Weight} {items others : List α} {best : α}

theorem mem_of_takeCheapest (h : takeCheapest cost items = some (best, others)) :
  best ∈ items
  := (perm_of_takeCheapest h).mem_iff.mp List.mem_cons_self

theorem subset_of_takeCheapest (h : takeCheapest cost items = some (best, others)) :
  others ⊆ items
  := fun _ ha => (perm_of_takeCheapest h).mem_iff.mp (List.mem_cons_of_mem best ha)

/-- What is taken costs no more than any item. -/
theorem cost_le_of_takeCheapest (h : takeCheapest cost items = some (best, others))
    {a : α} (ha : a ∈ items) :
  cost best ≤ cost a
  := by
  induction items generalizing best others with
  | nil => cases ha
  | cons b rest ih =>
      rw [takeCheapest] at h
      split at h
      next hrest =>
        obtain ⟨rfl, rfl⟩ := by simpa using h
        rw [(takeCheapest_eq_none_iff cost rest).mp hrest] at ha
        rw [List.mem_singleton.mp ha]
        apply Weight.le_refl
      next c _ hrest =>
        split at h
        next hlt =>
          obtain ⟨rfl, rfl⟩ := by simpa using h
          obtain rfl | ha := List.mem_cons.mp ha
          · apply Weight.le_of_lt hlt
          · apply ih hrest ha
        next hlt =>
          obtain ⟨rfl, rfl⟩ := by simpa using h
          obtain rfl | ha := List.mem_cons.mp ha
          · apply Weight.le_refl
          · apply Weight.le_trans (Weight.le_of_not_lt hlt) (ih hrest ha)

/-- What is taken comes before all else that costs as much. -/
theorem exists_split_of_takeCheapest (h : takeCheapest cost items = some (best, others)) :
  ∃ before after, items = before ++ best :: after ∧ others = before ++ after
    ∧ (∀ a ∈ before, cost best < cost a) ∧ ∀ a ∈ after, cost best ≤ cost a
  := by
  induction items generalizing best others with
  | nil => cases h
  | cons b rest ih =>
      rw [takeCheapest] at h
      split at h
      next hrest =>
        obtain ⟨rfl, rfl⟩ := by simpa using h
        obtain rfl := (takeCheapest_eq_none_iff cost rest).mp hrest
        exact ⟨[], [], rfl, rfl, by simp, by simp⟩
      next c cs hrest =>
        split at h
        next hlt =>
          obtain ⟨rfl, rfl⟩ := by simpa using h
          obtain ⟨before, after, rfl, rfl, hbefore, hafter⟩ := ih hrest
          exact ⟨b :: before, after, rfl, rfl, List.forall_mem_cons.mpr ⟨hlt, hbefore⟩, hafter⟩
        next hlt =>
          obtain ⟨rfl, rfl⟩ := by simpa using h
          refine ⟨[], rest, rfl, rfl, by simp, ?_⟩
          intro a ha
          apply Weight.le_trans (Weight.le_of_not_lt hlt) (cost_le_of_takeCheapest hrest ha)

/-- The others are what else there is, in its order. -/
theorem filter_of_takeCheapest (h : takeCheapest cost items = some (best, others))
    {q : α → Bool} (hq : q best = false) :
  others.filter q = items.filter q
  := by
  obtain ⟨before, after, rfl, rfl, -⟩ := exists_split_of_takeCheapest h
  rw [List.filter_append, List.filter_append, List.filter_cons_of_neg (by simp [hq])]

/-- Of items that come by cost, the first is taken. -/
theorem takeCheapest_of_pairwise {a : α} {rest : List α}
    (h : (a :: rest).Pairwise fun b c => cost b ≤ cost c) :
  takeCheapest cost (a :: rest) = some (a, rest)
  := by
  rw [takeCheapest]
  split
  next hnone =>
    rw [(takeCheapest_eq_none_iff cost rest).mp hnone]
  next b others htaken =>
    have hle : cost a ≤ cost b :=
      List.rel_of_pairwise_cons h (mem_of_takeCheapest htaken)
    rw [if_neg (Weight.not_lt_of_le hle)]

/-- What is taken from images is the image of what is taken. -/
theorem takeCheapest_map {β : Type} (cost : α → Weight) (cost' : β → Weight) (f : α → β)
    (h : ∀ a, cost' (f a) = cost a) (items : List α) :
  takeCheapest cost' (items.map f)
    = (takeCheapest cost items).map fun (best, others) => (f best, others.map f)
  := by
  induction items with
  | nil => rfl
  | cons a rest ih =>
      rw [List.map_cons, takeCheapest, takeCheapest, ih]
      cases takeCheapest cost rest with
      | none => rfl
      | some taken =>
          simp only [Option.map_some, h]
          split_ifs
          · rfl
          · rfl

variable (cost items) in
/-- The first of the cheapest items. -/
def cheapest? : Option α :=
  (takeCheapest cost items).map Prod.fst

theorem cheapest?_eq_none_iff :
  cheapest? cost items = none ↔ items = []
  := by
  rw [cheapest?, Option.map_eq_none_iff, takeCheapest_eq_none_iff]

theorem cheapest?_eq_some_iff :
  cheapest? cost items = some best ↔ ∃ others, takeCheapest cost items = some (best, others)
  := by
  rw [cheapest?, Option.map_eq_some_iff]
  constructor
  · rintro ⟨⟨b, others⟩, htaken, rfl⟩
    exact ⟨others, htaken⟩
  · rintro ⟨others, htaken⟩
    exact ⟨(best, others), htaken, rfl⟩

theorem mem_of_cheapest? (h : cheapest? cost items = some best) :
  best ∈ items
  := by
  obtain ⟨others, htaken⟩ := cheapest?_eq_some_iff.mp h
  apply mem_of_takeCheapest htaken

variable (cost items) in
theorem cheapest?_cons (a : α) :
  cheapest? cost (a :: items)
    = some ((cheapest? cost items).elim a fun b => if cost b < cost a then b else a)
  := by
  rw [cheapest?, cheapest?, takeCheapest]
  cases takeCheapest cost items with
  | none => rfl
  | some taken =>
      simp only [Option.map_some, Option.elim_some]
      split_ifs
      · rfl
      · rfl

variable (cost items) in
/-- A further item is the first of the cheapest only if it is cheaper than all others. -/
theorem cheapest?_append_singleton (a : α) :
  cheapest? cost (items ++ [a])
    = some ((cheapest? cost items).elim a fun b => if cost a < cost b then a else b)
  := by
  induction items with
  | nil => rfl
  | cons b rest ih =>
      rw [List.cons_append, cheapest?_cons, cheapest?_cons, ih]
      cases cheapest? cost rest with
      | none => rfl
      | some c =>
          simp only [Option.elim_some, Weight.lt_iff]
          -- Which of `a`, `b` and `c` is cheapest does not depend on the order of comparison.
          split_ifs <;> first | rfl | order

/-- What comes before all else that costs as much is the first of the cheapest items. -/
theorem cheapest?_append_cons {before after : List α} (hbefore : ∀ a ∈ before, cost best < cost a)
    (hafter : ∀ a ∈ after, cost best ≤ cost a) :
  cheapest? cost (before ++ best :: after) = some best
  := by
  induction before with
  | nil =>
      rw [List.nil_append, cheapest?_cons]
      cases hb : cheapest? cost after with
      | none => rfl
      | some b =>
          rw [Option.elim_some, if_neg (Weight.not_lt_of_le (hafter b (mem_of_cheapest? hb)))]
  | cons a before ih =>
      obtain ⟨ha, hbefore⟩ := List.forall_mem_cons.mp hbefore
      rw [List.cons_append, cheapest?_cons, ih hbefore, Option.elim_some, if_pos ha]

/-- What is taken is the first of the cheapest of any items that it is among. -/
theorem cheapest?_filter (h : takeCheapest cost items = some (best, others)) {q : α → Bool}
    (hq : q best = true) :
  cheapest? cost (items.filter q) = some best
  := by
  obtain ⟨before, after, rfl, -, hbefore, hafter⟩ := exists_split_of_takeCheapest h
  rw [List.filter_append, List.filter_cons_of_pos hq]
  apply cheapest?_append_cons
  · intro a ha
    apply hbefore a (List.mem_of_mem_filter ha)
  · intro a ha
    apply hafter a (List.mem_of_mem_filter ha)

end Cheapest

end ReliableRouting
