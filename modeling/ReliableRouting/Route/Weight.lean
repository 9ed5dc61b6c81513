import ReliableRouting.Decimal.Layout
import ReliableRouting.Decimal.Numeral

/-!
# Weights

The weight of a link or of a path is a double that is not negative. Infinity is the weight
of what is not viable; it exceeds every finite weight and absorbs what is added to it.
-/

namespace ReliableRouting

/-- A double that is not negative. -/
structure Weight where
  value : Float
  nonneg : 0 ≤ value
deriving DecidableEq

namespace Weight

/-- The weight of a path without links. -/
instance : Zero Weight :=
  ⟨⟨0, by decide⟩⟩

/-- The weight of what cannot be used. -/
def infinite : Weight :=
  ⟨Decimal.infinity, by decide⟩

/-- The weight with a value. Negative values and those that are no finite numbers give the
infinite weight. -/
def ofFloat (x : Float) : Weight :=
  if h : x.isFinite = true ∧ 0 ≤ x then ⟨x, h.2⟩ else infinite

/-- The weight is that of something viable. -/
def isFinite (w : Weight) : Bool :=
  w.value.isFinite

/-- The weight of two parts together. A sum beyond the doubles is infinite. -/
instance : Add Weight :=
  ⟨fun a b => ofFloat (a.value + b.value)⟩

theorem add_eq_ofFloat (a b : Weight) :
  a + b = ofFloat (a.value + b.value)
  := rfl

instance : LT Weight := ⟨fun a b => a.value < b.value⟩

instance : LE Weight := ⟨fun a b => a.value ≤ b.value⟩

instance (a b : Weight) : Decidable (a < b) :=
  inferInstanceAs (Decidable (a.value < b.value))

instance (a b : Weight) : Decidable (a ≤ b) :=
  inferInstanceAs (Decidable (a.value ≤ b.value))

/-- How two weights compare. -/
def compare (a b : Weight) : Ordering :=
  if a < b then .lt else if b < a then .gt else .eq

/-- The value, or that there is none. -/
def text (w : Weight) : String :=
  if w.isFinite then Decimal.plain w.value else "non-viable"

end Weight

/-! ### The first of the cheapest -/

/-- The first of the cheapest items of a list, and the other items in their order. -/
def takeCheapest {α : Type} (cost : α → Weight) : List α → Option (α × List α)
  | [] => none
  | a :: rest =>
    match takeCheapest cost rest with
    | none => some (a, [])
    | some (b, others) => if cost b < cost a then some (b, a :: others) else some (a, rest)

theorem takeCheapest_eq_none_iff {α : Type} (cost : α → Weight) (items : List α) :
  takeCheapest cost items = none ↔ items = []
  := by
  cases items with
  | nil => simp [takeCheapest]
  | cons a rest =>
    simp only [takeCheapest]
    split
    · simp
    · split
      · simp
      · simp

/-- The cheapest item and the others make up the list. -/
theorem perm_of_takeCheapest {α : Type} {cost : α → Weight} {items others : List α} {best : α}
    (h : takeCheapest cost items = some (best, others)) :
  (best :: others).Perm items
  := by
  induction items generalizing best others with
  | nil => simp [takeCheapest] at h
  | cons a rest ih =>
    rw [takeCheapest] at h
    split at h
    next hrest =>
      obtain ⟨rfl, rfl⟩ := by simpa using h
      rw [(takeCheapest_eq_none_iff cost rest).1 hrest]
    next b bs hrest =>
      split at h
      · obtain ⟨rfl, rfl⟩ := by simpa using h
        exact (List.Perm.swap a b bs).trans ((ih hrest).cons a)
      · obtain ⟨rfl, rfl⟩ := by simpa using h
        exact List.Perm.refl _

end ReliableRouting
