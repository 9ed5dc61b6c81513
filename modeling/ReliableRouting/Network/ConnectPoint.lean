import ReliableRouting.Decimal.Numeral
import ReliableRouting.Fault
import ReliableRouting.Network.Element
import ReliableRouting.Text.Blank

/-!
# Connect points

Links attach to connect points: a port of an element. The written form of a connect point
is the identifier of its element, a slash and the number of the port. Identifiers may hold
slashes themselves, so the last slash of a text is the one that counts. Read as text, a
connect point is always one of a device.
-/

namespace ReliableRouting

/-- A port of an element. -/
structure ConnectPoint where
  element : Element
  port : UInt64
deriving Repr, DecidableEq

/-- What stands before and after the last occurrence of a character. -/
def splitLast? (mark : Char) : List Char → Option (List Char × List Char)
  | [] => none
  | c :: cs =>
    match splitLast? mark cs with
    | some (before, after) => some (c :: before, after)
    | none => if c = mark then some ([], cs) else none

theorem splitLast?_eq_none_iff (mark : Char) (cs : List Char) :
  splitLast? mark cs = none ↔ mark ∉ cs
  := by
  induction cs with
  | nil => simp [splitLast?]
  | cons c cs ih =>
    rw [splitLast?]
    split
    next h =>
      have hmark : mark ∈ cs := by
        apply Decidable.byContradiction
        intro hn
        rw [ih.2 hn] at h
        cases h
      simp [hmark]
    next h =>
      have hmark := ih.1 h
      by_cases hc : c = mark
      · simp [hc]
      · simp [hc, hmark, Ne.symm hc]

theorem eq_append_of_splitLast? {mark : Char} {cs before after : List Char}
    (h : splitLast? mark cs = some (before, after)) :
  cs = before ++ mark :: after ∧ mark ∉ after
  := by
  induction cs generalizing before with
  | nil => simp [splitLast?] at h
  | cons c cs ih =>
    rw [splitLast?] at h
    split at h
    next hcs =>
      obtain ⟨rfl, rfl⟩ := by simpa using h
      obtain ⟨hsplit, hmark⟩ := ih hcs
      exact ⟨by rw [hsplit, List.cons_append], hmark⟩
    next hcs =>
      split at h
      next hc =>
        obtain ⟨rfl, rfl⟩ := by simpa using h
        exact ⟨by rw [hc, List.nil_append], (splitLast?_eq_none_iff mark cs).1 hcs⟩
      next => cases h

theorem splitLast?_append {mark : Char} (before : List Char) {after : List Char}
    (h : mark ∉ after) :
  splitLast? mark (before ++ mark :: after) = some (before, after)
  := by
  induction before with
  | nil => simp [splitLast?, (splitLast?_eq_none_iff mark after).2 h]
  | cons c before ih => simp [splitLast?, ih]

/-- The parts put together around the mark are the text, and the mark is its last one. -/
theorem splitLast?_eq_some_iff {mark : Char} {cs before after : List Char} :
  splitLast? mark cs = some (before, after) ↔ cs = before ++ mark :: after ∧ mark ∉ after
  := by
  constructor
  · exact eq_append_of_splitLast?
  · rintro ⟨rfl, h⟩
    exact splitLast?_append before h

namespace ConnectPoint

/-- The written form. -/
def text (p : ConnectPoint) : String :=
  p.element.id ++ "/" ++ toString p.port.toNat

/-- Reads an identifier that is not empty, and a port with blanks around it perhaps. -/
def parse? (cs : List Char) : Option ConnectPoint :=
  match splitLast? '/' cs with
  | none => none
  | some (id, port) =>
    if id = [] then
      none
    else
      (Decimal.readNat? Decimal.wordBound (Text.trim port)).map fun n =>
        ⟨.device (String.ofList id), UInt64.ofNat n⟩

/-- Reads the connect point of a device. -/
def ofText (text : String) : Except InputFault ConnectPoint :=
  match parse? text.toList with
  | some p => .ok p
  | none => .error (.invalidConnectPoint text)

end ConnectPoint

end ReliableRouting
