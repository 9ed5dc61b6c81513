import ReliableRouting.Decimal.Layout
import ReliableRouting.Decimal.Numeral
import ReliableRouting.Text.Blank

/-!
# Annotations

A link carries annotations, pairs of a key and a text, in the order of their keys. A blank
text counts as absent. A text may be read as a number, and as a measure, which is a finite
number that is not negative. Reading tells an absent annotation from a malformed one.
-/

namespace ReliableRouting

/-- Texts by key, in ascending order of the keys. -/
structure Annotations where
  entries : List (String × String)
deriving Repr, DecidableEq

/-- An annotation whose text is not what it is read as. -/
structure AnnotationFault where
  key : String
  value : String
deriving Repr, DecidableEq

/-- The wording of a fault. -/
def AnnotationFault.message (f : AnnotationFault) : String :=
  "Annotation '" ++ f.key ++ "' carries malformed value '" ++ f.value ++ "'"

namespace Annotations

/-- No annotations. -/
def empty : Annotations :=
  ⟨[]⟩

/-- The entries with one more, which takes the place of one of the same key. -/
def insertEntry (key value : String) : List (String × String) → List (String × String)
  | [] => [(key, value)]
  | (k, v) :: rest =>
    if key = k then (key, value) :: rest
    else if key < k then (key, value) :: (k, v) :: rest
    else (k, v) :: insertEntry key value rest

theorem lookup_entry (entry : String × String) (rest : List (String × String)) (key : String) :
  (entry :: rest).lookup key = if key = entry.1 then some entry.2 else rest.lookup key
  := by
  obtain ⟨k, value⟩ := entry
  rw [List.lookup_cons]
  by_cases h : key = k
  · rw [beq_iff_eq.mpr h, if_pos h]
  · rw [beq_eq_false_iff_ne.mpr h, if_neg h]

/-- The new entry is found under its key, and every other key has what it had. -/
theorem lookup_insertEntry (key value : String) (entries : List (String × String))
    (k : String) :
  (insertEntry key value entries).lookup k = if k = key then some value else entries.lookup k
  := by
  induction entries with
  | nil => simp [insertEntry]
  | cons entry rest ih =>
    rw [insertEntry]
    split
    next h =>
      simp only [lookup_entry, ← h]
      split <;> rfl
    next h =>
      split
      · simp only [lookup_entry]
      · simp only [lookup_entry, ih]
        by_cases hk : k = key
        · simp [hk, h]
        · simp [hk]

/-- Sets the text of a key. -/
def set (a : Annotations) (key value : String) : Annotations :=
  ⟨insertEntry key value a.entries⟩

/-- There are no annotations. -/
def isEmpty (a : Annotations) : Bool :=
  a.entries.isEmpty

/-- The text of a key, unless it is blank. -/
def value? (a : Annotations) (key : String) : Option String :=
  (a.entries.lookup key).filter fun text => !Text.isBlankText text.toList

/-- The number of a key, blanks around it left aside. -/
def number (a : Annotations) (key : String) : Except AnnotationFault (Option Float) :=
  match a.value? key with
  | none => .ok none
  | some text =>
    match Decimal.readFloat? (Text.trim text.toList) with
    | some x => .ok (some x)
    | none => .error ⟨key, text⟩

/-- The number is finite and not negative. -/
def isMeasure (x : Float) : Bool :=
  x.isFinite && !(x < 0)

/-- The measure of a key. -/
def measure (a : Annotations) (key : String) : Except AnnotationFault (Option Float) :=
  match a.number key with
  | .ok (some x) => if isMeasure x then .ok (some x) else .error ⟨key, Decimal.plain x⟩
  | other => other

/-- The measure of a key, or that of another key if the first is absent. -/
def measureOr (a : Annotations) (key fallback : String) :
    Except AnnotationFault (Option Float) :=
  match a.measure key with
  | .ok none => a.measure fallback
  | other => other

end Annotations

end ReliableRouting
