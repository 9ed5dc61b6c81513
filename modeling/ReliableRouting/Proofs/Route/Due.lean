import Mathlib.Data.Prod.Lex
import ReliableRouting.Proofs.Route.Weight
import ReliableRouting.Route.Labels

/-!
# What is due

Arrivals are due by cost and, among those of one cost, in the order of their discovery. Those that
come in the order of some trails need not be one for each trail: a trail may be preceded by an
arrival at the same element that is no dearer. Still, what is due first belongs to the first of the
cheapest trails.
-/

namespace ReliableRouting

/-! ### What is due first -/

namespace Weight

theorem compare_eq_lt_iff {c c' : Weight} :
  c.compare c' = .lt ↔ c < c'
  := by
  rw [Weight.compare]
  split_ifs with hlt hgt
  · simp [hlt]
  · simp [hlt]
  · simp [hlt]

theorem compare_eq_eq_iff {c c' : Weight} :
  c.compare c' = .eq ↔ c.steps = c'.steps
  := by
  rw [Weight.compare]
  simp only [lt_iff]
  split_ifs with hlt hgt
  · simp [hlt.ne]
  · simp [hgt.ne']
  · simp [le_antisymm (not_lt.mp hgt) (not_lt.mp hlt)]

end Weight

section Due

variable {a b : Arrival} {arrivals due : List Arrival}

/-- What arrivals are ordered by. -/
def Arrival.key (a : Arrival) : ℕ∞ ×ₗ ℕ :=
  toLex (a.cost.steps, a.number)

theorem Arrival.compare_eq_lt_iff :
  a.compare b = .lt ↔ a.key < b.key
  := by
  rw [Arrival.compare, Ordering.then_eq_lt, Weight.compare_eq_lt_iff, Weight.compare_eq_eq_iff,
    Nat.compare_eq_lt, Weight.lt_iff, Arrival.key, Arrival.key, Prod.Lex.toLex_lt_toLex]

/-- What is due before others costs no more than they do. -/
theorem Arrival.steps_le_of_key_lt (h : b = a ∨ a.key < b.key) :
  a.cost.steps ≤ b.cost.steps
  := by
  rcases h with rfl | h
  · apply le_rfl
  · rcases Prod.Lex.toLex_lt_toLex.mp h with hlt | ⟨heq, -⟩
    · apply hlt.le
    · apply heq.le

theorem Arrival.key_lt_of_cost_le (hcost : a.cost ≤ b.cost) (hnumber : a.number < b.number) :
  a.key < b.key
  := by
  apply Prod.Lex.toLex_lt_toLex.mpr
  rcases (Weight.le_iff.mp hcost).lt_or_eq with hlt | heq
  · exact .inl hlt
  · exact .inr ⟨heq, hnumber⟩

theorem takeNext_eq_none_iff :
  takeNext due = none ↔ due = []
  := by
  cases due with
  | nil => simp [takeNext]
  | cons a rest =>
      rw [takeNext]
      split
      · simp
      · split_ifs
        · simp
        · simp

/-- Nothing comes before what is due first. -/
theorem exists_split_of_takeNext (h : takeNext due = some (a, arrivals)) :
  ∃ before after, due = before ++ a :: after ∧ arrivals = before ++ after
    ∧ ∀ b ∈ due, a.key ≤ b.key
  := by
  induction due generalizing a arrivals with
  | nil => cases h
  | cons b rest ih =>
      rw [takeNext] at h
      split at h
      next hrest =>
        obtain ⟨rfl, rfl⟩ := by simpa using h
        obtain rfl := takeNext_eq_none_iff.mp hrest
        exact ⟨[], [], rfl, rfl, by simp⟩
      next c cs hrest =>
        obtain ⟨before, after, hdue, hothers, hle⟩ := ih hrest
        split_ifs at h with hlt
        · obtain ⟨rfl, rfl⟩ := by simpa using h
          rw [Arrival.compare_eq_lt_iff] at hlt
          rw [hdue, hothers]
          refine ⟨b :: before, after, rfl, rfl, ?_⟩
          rw [← hdue]
          exact List.forall_mem_cons.mpr ⟨hlt.le, hle⟩
        · obtain ⟨rfl, rfl⟩ := by simpa using h
          rw [Arrival.compare_eq_lt_iff, not_lt] at hlt
          refine ⟨[], rest, rfl, rfl, List.forall_mem_cons.mpr ⟨le_rfl, ?_⟩⟩
          intro c' hc'
          apply hlt.trans (hle c' hc')

section Taken

variable (h : takeNext due = some (a, arrivals))

include h

theorem mem_of_takeNext :
  a ∈ due
  := by
  obtain ⟨before, after, rfl, -⟩ := exists_split_of_takeNext h
  simp

theorem subset_of_takeNext :
  arrivals ⊆ due
  := by
  obtain ⟨before, after, rfl, rfl, -⟩ := exists_split_of_takeNext h
  intro b hb
  rcases List.mem_append.mp hb with hb | hb
  · apply List.mem_append_left _ hb
  · apply List.mem_append_right _ (List.mem_cons_of_mem a hb)

theorem length_of_takeNext :
  arrivals.length < due.length
  := by
  obtain ⟨before, after, rfl, rfl, -⟩ := exists_split_of_takeNext h
  simp

theorem filter_of_takeNext {q : Arrival → Bool} (hq : q a = false) :
  arrivals.filter q = due.filter q
  := by
  obtain ⟨before, after, rfl, rfl, -⟩ := exists_split_of_takeNext h
  rw [List.filter_append, List.filter_append, List.filter_cons_of_neg (by simp [hq])]

end Taken

end Due

/-! ### Arrivals and trails -/

/-- Arrivals that come in the order of some trails, one for each trail but those that are preceded
by an arrival at the same element that is no dearer. -/
inductive Represents : List Arrival → List Trail → Prop
  | nil : Represents [] []
  | keep {arrivals : List Arrival} {frontier : List Trail} {a : Arrival} {t : Trail}
    (h : Represents arrivals frontier) (helement : a.element = t.stop) (hcost : a.cost = t.cost)
    (hlast : ∀ b ∈ arrivals, b.number < a.number) :
    Represents (arrivals ++ [a]) (frontier ++ [t])
  | drop {arrivals : List Arrival} {frontier : List Trail} {a : Arrival} {t : Trail}
    (h : Represents arrivals frontier) (ha : a ∈ arrivals) (helement : a.element = t.stop)
    (hcost : a.cost ≤ t.cost) :
    Represents arrivals (frontier ++ [t])

namespace Represents

variable {arrivals : List Arrival} {frontier : List Trail} {a : Arrival} {t : Trail}

/-- There are no arrivals without trails. -/
theorem eq_nil (h : Represents arrivals []) :
  arrivals = []
  := by
  generalize hfrontier : ([] : List Trail) = frontier at h
  cases h with
  | nil => rfl
  | keep => simp at hfrontier
  | drop => simp at hfrontier

/-- For every trail there is an arrival at the same element that is no dearer. -/
theorem exists_cost_le (h : Represents arrivals frontier) (ht : t ∈ frontier) :
  ∃ a ∈ arrivals, a.element = t.stop ∧ a.cost ≤ t.cost
  := by
  induction h with
  | nil => cases ht
  | @keep arrivals frontier a t' h helement hcost _ ih =>
      rcases List.mem_append.mp ht with ht | ht
      · obtain ⟨b, hb, hstop, hle⟩ := ih ht
        exact ⟨b, List.mem_append_left _ hb, hstop, hle⟩
      · obtain rfl := List.mem_singleton.mp ht
        exact ⟨a, List.mem_append_right _ (List.mem_singleton_self a), helement,
          hcost ▸ Weight.le_refl _⟩
  | @drop arrivals frontier a t' h ha helement hcost ih =>
      rcases List.mem_append.mp ht with ht | ht
      · apply ih ht
      · obtain rfl := List.mem_singleton.mp ht
        exact ⟨a, ha, helement, hcost⟩

/-- Among elements of some kind, the arrivals come in the order of the trails still. -/
theorem filter (h : Represents arrivals frontier) (q : Element → Bool) :
  Represents (arrivals.filter fun a => q a.element) (frontier.filter fun t => q t.stop)
  := by
  induction h with
  | nil => exact .nil
  | @keep arrivals frontier a t h helement hcost hlast ih =>
      rw [List.filter_append, List.filter_append, List.filter_singleton, List.filter_singleton,
        helement]
      cases q t.stop with
      | false => simpa using ih
      | true => exact ih.keep helement hcost fun b hb => hlast b (List.mem_of_mem_filter hb)
  | @drop arrivals frontier a t h ha helement hcost ih =>
      rw [List.filter_append, List.filter_singleton]
      cases hq : q t.stop with
      | false => simpa using ih
      | true => exact ih.drop (List.mem_filter.mpr ⟨ha, helement ▸ hq⟩) helement hcost

/-- A last arrival that costs less than the one due first is due before all others. -/
theorem key_lt_of_cost_lt {c : Arrival} (hkey : ∀ b ∈ arrivals, b = c ∨ c.key < b.key)
    (hcost : a.cost < c.cost) {b : Arrival} (hb : b ∈ arrivals ++ [a]) :
  b = a ∨ a.key < b.key
  := by
  rcases List.mem_append.mp hb with hb | hb
  · right
    apply Prod.Lex.toLex_lt_toLex.mpr
    left
    apply (Weight.lt_iff.mp hcost).trans_le (Arrival.steps_le_of_key_lt (hkey b hb))
  · exact .inl (List.mem_singleton.mp hb)

/-- A last arrival that costs no less than the one due first is not due before it. -/
theorem key_lt_of_cost_le {c : Arrival} (hkey : ∀ b ∈ arrivals, b = c ∨ c.key < b.key)
    (hcost : c.cost ≤ a.cost) (hlast : c.number < a.number) {b : Arrival}
    (hb : b ∈ arrivals ++ [a]) :
  b = c ∨ c.key < b.key
  := by
  rcases List.mem_append.mp hb with hb | hb
  · apply hkey b hb
  · obtain rfl := List.mem_singleton.mp hb
    right
    apply Arrival.key_lt_of_cost_le hcost hlast

/-- The arrival that belongs to the first of the cheapest trails is due before all others. -/
theorem exists_key_lt (h : Represents arrivals frontier)
    (ht : cheapest? Trail.cost frontier = some t) :
  ∃ a ∈ arrivals, a.element = t.stop ∧ a.cost = t.cost ∧ ∀ b ∈ arrivals, b = a ∨ a.key < b.key
  := by
  induction h generalizing t with
  | nil => cases ht
  | @keep arrivals frontier a t' h helement hcost hlast ih =>
      rw [cheapest?_append_singleton] at ht
      cases hbest : cheapest? Trail.cost frontier with
      | none =>
          rw [hbest] at ht
          obtain rfl := Option.some.inj ht
          obtain rfl := cheapest?_eq_none_iff.mp hbest
          obtain rfl := h.eq_nil
          exact ⟨a, by simp, helement, hcost, by simp⟩
      | some best =>
          obtain ⟨c, hc, hcelement, hccost, hkey⟩ := ih hbest
          rw [hbest, Option.elim_some] at ht
          split_ifs at ht with hlt
          · -- The last trail is cheaper than all before it.
            obtain rfl := Option.some.inj ht
            refine ⟨a, by simp, helement, hcost, fun b hb => key_lt_of_cost_lt hkey ?_ hb⟩
            rw [hcost, hccost]
            apply hlt
          · obtain rfl := Option.some.inj ht
            refine ⟨c, List.mem_append_left _ hc, hcelement, hccost, fun b hb =>
              key_lt_of_cost_le hkey ?_ (hlast c hc) hb⟩
            rw [hcost, hccost]
            apply Weight.le_of_not_lt hlt
  | @drop arrivals frontier a t' h ha helement hcost ih =>
      rw [cheapest?_append_singleton] at ht
      cases hbest : cheapest? Trail.cost frontier with
      | none =>
          obtain rfl := cheapest?_eq_none_iff.mp hbest
          rw [h.eq_nil] at ha
          cases ha
      | some best =>
          obtain ⟨c, hc, hcelement, hccost, hkey⟩ := ih hbest
          have hle : best.cost ≤ t'.cost := by
            rw [Weight.le_iff, ← hccost]
            apply (Arrival.steps_le_of_key_lt (hkey a ha)).trans (Weight.le_iff.mp hcost)
          rw [hbest, Option.elim_some, if_neg (Weight.not_lt_of_le hle)] at ht
          obtain rfl := Option.some.inj ht
          exact ⟨c, hc, hcelement, hccost, hkey⟩

/-- What is due first belongs to the first of the cheapest trails. -/
theorem of_key_le (h : Represents arrivals frontier)
    (ht : cheapest? Trail.cost frontier = some t) (ha : a ∈ arrivals)
    (hfirst : ∀ b ∈ arrivals, a.key ≤ b.key) :
  a.element = t.stop ∧ a.cost = t.cost
  := by
  obtain ⟨c, hc, helement, hcost, hkey⟩ := h.exists_key_lt ht
  rcases hkey a ha with rfl | hless
  · exact ⟨helement, hcost⟩
  · apply absurd (hfirst c hc) hless.not_ge

end Represents

end ReliableRouting
