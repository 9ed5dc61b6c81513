import Mathlib.Data.List.TakeWhile
import ReliableRouting.Network.ConnectPoint

/-!
# Texts of connect points

A text names a port of a device if it is the identifier of the device, a slash that no other
follows, and the number of the port, with a plus sign in front and blank characters around it
perhaps. These texts are exactly the ones that can be read, and what is read is what they name. The
written form is one of them, so that reading undoes writing, whatever the identifier holds.
-/

namespace ReliableRouting

/-! ### Blank characters -/

namespace Text

theorem isBlank_of_isDigit {c : Char} (h : c.isDigit = true) :
  isBlank c = false
  := by
  have hbounds : 48 ≤ c.toNat ∧ c.toNat ≤ 57 := by
    simpa [Char.isDigit, UInt32.le_iff_toNat_le] using h
  simp only [isBlank, Bool.or_eq_false_iff, Bool.and_eq_false_iff, decide_eq_false_iff_not,
    beq_eq_false_iff_ne]
  omega

theorem dropWhile_isBlank_append {core : List Char} (hne : core ≠ [])
    (hcore : ∀ c ∈ core, isBlank c = false) (rest : List Char) :
  (core ++ rest).dropWhile isBlank = core ++ rest
  := by
  obtain ⟨c, core, rfl⟩ := List.exists_cons_of_ne_nil hne
  apply List.dropWhile_cons_of_neg
  rw [hcore c List.mem_cons_self]
  decide

/-- Blank characters around a text without any are trimmed. -/
theorem trim_append {left core right : List Char} (hleft : ∀ c ∈ left, isBlank c = true)
    (hne : core ≠ []) (hcore : ∀ c ∈ core, isBlank c = false)
    (hright : ∀ c ∈ right, isBlank c = true) :
  trim (left ++ core ++ right) = core
  := by
  have hright' : ∀ c ∈ right.reverse, isBlank c = true :=
    fun c hc => hright c (List.mem_reverse.mp hc)
  have hback : core.reverse.dropWhile isBlank = core.reverse := by
    have hcore' : ∀ c ∈ core.reverse, isBlank c = false :=
      fun c hc => hcore c (List.mem_reverse.mp hc)
    simpa using dropWhile_isBlank_append (by simpa using hne) hcore' []
  rw [trim, List.append_assoc, List.dropWhile_append_of_pos hleft,
    dropWhile_isBlank_append hne hcore, List.reverse_append, List.dropWhile_append_of_pos hright',
    hback, List.reverse_reverse]

/-- A text is what is left when it is trimmed, between blank characters. -/
theorem exists_eq_append_trim (cs : List Char) :
  ∃ left right, cs = left ++ trim cs ++ right ∧ (∀ c ∈ left, isBlank c = true)
    ∧ ∀ c ∈ right, isBlank c = true
  := by
  let rest := cs.dropWhile isBlank
  have hcs : cs = cs.takeWhile isBlank ++ rest := List.takeWhile_append_dropWhile.symm
  have hrest : rest = trim cs ++ (rest.reverse.takeWhile isBlank).reverse := by
    apply List.reverse_inj.mp
    rw [trim, List.reverse_append, List.reverse_reverse, List.reverse_reverse,
      List.takeWhile_append_dropWhile]
  refine ⟨cs.takeWhile isBlank, (rest.reverse.takeWhile isBlank).reverse, ?_, ?_, ?_⟩
  · rw [List.append_assoc, ← hrest]
    apply hcs
  · intro c hc
    apply List.mem_takeWhile_imp hc
  · intro c hc
    apply List.mem_takeWhile_imp (List.mem_reverse.mp hc)

end Text

/-! ### Whole numbers -/

namespace Decimal

theorem isDigits_toDigits (n : Nat) :
  IsDigits (Nat.toDigits 10 n)
  := ⟨Nat.toDigits_ne_nil, fun _ hc => Nat.isDigit_of_mem_toDigits (by decide) (by decide) hc⟩

/-- A text that writes a number: digits, perhaps after a plus sign, between blank characters. -/
inductive Writes : List Char → Nat → Prop
  | intro {left sign digits right : List Char} (hleft : ∀ c ∈ left, Text.isBlank c = true)
    (hsign : sign = [] ∨ sign = ['+']) (hdigits : IsDigits digits)
    (hright : ∀ c ∈ right, Text.isBlank c = true) :
    Writes (left ++ (sign ++ digits) ++ right) (ofDigits digits)

theorem dropPlus_digits {digits : List Char} (h : IsDigits digits) :
  dropPlus digits = digits
  := by
  rw [dropPlus.eq_def]
  split
  · cases h.2 '+' List.mem_cons_self
  · rfl

/-- What is left without the sign, together with the sign, is the text. -/
theorem exists_eq_append_dropPlus (cs : List Char) :
  ∃ sign, (sign = [] ∨ sign = ['+']) ∧ cs = sign ++ dropPlus cs
  := by
  rw [dropPlus.eq_def]
  split
  · exact ⟨['+'], .inr rfl, rfl⟩
  · exact ⟨[], .inl rfl, rfl⟩

theorem readNat?_eq_some_iff {bound n : Nat} {cs : List Char} :
  readNat? bound cs = some n
    ↔ IsDigits (dropPlus cs) ∧ ofDigits (dropPlus cs) = n ∧ n < bound
  := by
  rw [readNat?]
  simp only [Option.ite_none_right_eq_some, Option.some.injEq]
  constructor
  · rintro ⟨⟨hdigits, hbound⟩, rfl⟩
    exact ⟨hdigits, rfl, hbound⟩
  · rintro ⟨hdigits, rfl, hbound⟩
    exact ⟨⟨hdigits, hbound⟩, rfl⟩

/-- The numbers below the bound that are read are the ones that are written. -/
theorem readNat?_trim_eq_some_iff {bound n : Nat} {cs : List Char} :
  readNat? bound (Text.trim cs) = some n ↔ Writes cs n ∧ n < bound
  := by
  rw [readNat?_eq_some_iff]
  constructor
  · rintro ⟨hdigits, rfl, hbound⟩
    obtain ⟨left, right, hcs, hleft, hright⟩ := Text.exists_eq_append_trim cs
    obtain ⟨sign, hsign, hcore⟩ := exists_eq_append_dropPlus (Text.trim cs)
    refine ⟨?_, hbound⟩
    have hwrites := Writes.intro hleft hsign hdigits hright
    rwa [← hcore, ← hcs] at hwrites
  · rintro ⟨@⟨left, sign, digits, right, hleft, hsign, hdigits, hright⟩, hbound⟩
    have hblank : ∀ c ∈ sign ++ digits, Text.isBlank c = false := by
      intro c hc
      rcases List.mem_append.mp hc with hc | hc
      · rcases hsign with rfl | rfl
        · cases hc
        · rw [List.mem_singleton.mp hc]
          decide
      · apply Text.isBlank_of_isDigit (hdigits.2 c hc)
    have hdrop : dropPlus (sign ++ digits) = digits := by
      rcases hsign with rfl | rfl
      · apply dropPlus_digits hdigits
      · rfl
    rw [Text.trim_append hleft (List.append_ne_nil_of_right_ne_nil sign hdigits.1) hblank hright,
      hdrop]
    exact ⟨hdigits, rfl, hbound⟩

/-- A number is written by its digits. -/
theorem writes_toDigits (n : Nat) :
  Writes (Nat.toDigits 10 n) n
  := by
  have hwrites := @Writes.intro [] [] (Nat.toDigits 10 n) [] (by simp) (.inl rfl)
    (isDigits_toDigits n) (by simp)
  rwa [List.nil_append, List.nil_append, List.append_nil, ofDigits,
    Nat.ofDigitChars_ten_toDigits] at hwrites

theorem slash_not_mem_of_isDigits {digits : List Char} (h : IsDigits digits) :
  '/' ∉ digits
  := by
  intro hmem
  cases h.2 '/' hmem

end Decimal

/-! ### Connect points -/

namespace ConnectPoint

/-- A text that names a port of a device: the identifier is what stands before the last slash, and
it is not empty; what stands after it writes the number of the port. -/
def IsNamed (p : ConnectPoint) (text : String) : Prop :=
  ∃ id port n, text.toList = id ++ '/' :: port ∧ '/' ∉ port ∧ id ≠ []
    ∧ Decimal.Writes port n ∧ n < UInt64.size ∧ p = ⟨.device (String.ofList id), UInt64.ofNat n⟩

variable {p : ConnectPoint} {text : String}

theorem parse?_eq_some_iff :
  parse? text.toList = some p ↔ p.IsNamed text
  := by
  constructor
  · intro h
    rw [parse?] at h
    split at h
    · cases h
    next id port hsplit =>
      obtain ⟨htext, hport⟩ := splitLast?_eq_some_iff.mp hsplit
      split_ifs at h with hid
      obtain ⟨n, hn, rfl⟩ := Option.map_eq_some_iff.mp h
      obtain ⟨hwrites, hbound⟩ := Decimal.readNat?_trim_eq_some_iff.mp hn
      exact ⟨id, port, n, htext, hport, hid, hwrites, hbound, rfl⟩
  · rintro ⟨id, port, n, htext, hport, hid, hwrites, hbound, rfl⟩
    have hn : Decimal.readNat? Decimal.wordBound (Text.trim port) = some n :=
      Decimal.readNat?_trim_eq_some_iff.mpr ⟨hwrites, hbound⟩
    rw [parse?, splitLast?_eq_some_iff.mpr ⟨htext, hport⟩]
    dsimp only
    rw [if_neg hid, hn]
    rfl

/-- A connect point is read from the texts that name it. -/
theorem ofText_eq_ok_iff :
  ofText text = .ok p ↔ p.IsNamed text
  := by
  rw [← parse?_eq_some_iff, ofText]
  cases parse? text.toList with
  | none => simp
  | some q => simp

/-- The fault of a text that names no connect point holds the text. -/
theorem ofText_eq_error_iff {fault : InputFault} :
  ofText text = .error fault
    ↔ (∀ p : ConnectPoint, ¬ p.IsNamed text) ∧ .invalidConnectPoint text = fault
  := by
  simp only [← ofText_eq_ok_iff]
  rw [ofText]
  split
  · simp
  · simp

/-- The written form of a port of a device names it. -/
theorem isNamed_text {id : String} (hid : id ≠ "") (port : UInt64) :
  IsNamed ⟨.device id, port⟩ (ConnectPoint.text ⟨.device id, port⟩)
  := by
  refine ⟨id.toList, Nat.toDigits 10 port.toNat, port.toNat, ?_,
    Decimal.slash_not_mem_of_isDigits (Decimal.isDigits_toDigits _), ?_,
    Decimal.writes_toDigits _, port.toNat_lt, ?_⟩
  · simp [ConnectPoint.text, Element.id]
  · simpa using hid
  · simp

/-- A text that names a port of a device has an identifier. -/
theorem IsNamed.exists_id (h : p.IsNamed text) :
  ∃ id, id ≠ "" ∧ p.element = .device id
  := by
  obtain ⟨id, port, n, -, -, hid, -, -, rfl⟩ := h
  exact ⟨String.ofList id, by simpa using hid, rfl⟩

theorem IsNamed.isDevice (h : p.IsNamed text) :
  p.element.isDevice = true
  := by
  obtain ⟨id, -, hid⟩ := h.exists_id
  rw [hid]
  rfl

/-- Reading and writing connect points. A port of a device with an identifier is read from its
written form. A text is read exactly if it names a port of a device, and gives what it names; the
written form of that gives the same again. A text that is not read is named by the fault. -/
theorem ofText_exact :
  (∀ id, id ≠ "" → ∀ port : UInt64,
      ofText (ConnectPoint.text ⟨.device id, port⟩) = .ok ⟨.device id, port⟩)
    ∧ (∀ text p, ofText text = .ok p ↔ p.IsNamed text)
    ∧ (∀ text p, ofText text = .ok p → ofText p.text = .ok p)
    ∧ ∀ text fault, ofText text = .error fault
      ↔ (∀ p : ConnectPoint, ¬ p.IsNamed text) ∧ .invalidConnectPoint text = fault
  := by
  have hwritten : ∀ id, id ≠ "" → ∀ port : UInt64,
      ofText (ConnectPoint.text ⟨.device id, port⟩) = .ok ⟨.device id, port⟩ :=
    fun id hid port => ofText_eq_ok_iff.mpr (isNamed_text hid port)
  refine ⟨hwritten, fun text p => ofText_eq_ok_iff, ?_, fun text fault => ofText_eq_error_iff⟩
  rintro text ⟨element, port⟩ hread
  obtain ⟨id, hid, rfl⟩ := (ofText_eq_ok_iff.mp hread).exists_id
  apply hwritten id hid port

/-- An identifier may hold slashes and blank characters, and is kept as it is. -/
theorem ofText_exact_rack :
  ofText (ConnectPoint.text ⟨.device " rack/1 ", 18446744073709551615⟩)
      = .ok ⟨.device " rack/1 ", 18446744073709551615⟩
    ∧ ofText " rack/1 /\t+0042 " = .ok ⟨.device " rack/1 ", 42⟩
    ∧ ofText (ConnectPoint.text ⟨.device " rack/1 ", 42⟩) = .ok ⟨.device " rack/1 ", 42⟩
  := by
  obtain ⟨hwritten, -, hagain, -⟩ := ofText_exact
  have hread : ofText " rack/1 /\t+0042 " = .ok ⟨.device " rack/1 ", 42⟩ := by decide +kernel
  exact ⟨hwritten _ (by decide) _, hread, hagain _ _ hread⟩

end ConnectPoint

end ReliableRouting
