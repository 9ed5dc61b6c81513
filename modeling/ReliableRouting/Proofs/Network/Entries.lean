import ReliableRouting.Proofs.Network.Additions
import ReliableRouting.Proofs.Network.ConnectPoint

/-!
# What entries stand for

An entry of a snapshot is a collection of texts. What these mean is written down here apart from
the readers: which words name a sort, a state or a medium, what a part is whose text is missing,
and which texts are kept under which keys. An entry of a link describes one link, and stands for
that link and perhaps its opposite; an entry of a host stands for two links, which attach the host
at port zero. A link is read from an entry exactly if the entry describes it.
-/

namespace ReliableRouting

/-! ### Words -/

/-- A text is one of some words once its letters are in the case of the words. -/
def IsWord (toCase : Char → Char) (words : List String) (text : String) : Prop :=
  ∃ word ∈ words, text.toList.map toCase = word.toList

theorem isWord_iff {toCase : Char → Char} {words : List String} {text : String} :
  IsWord toCase words text ↔ String.ofList (text.toList.map toCase) ∈ words
  := by
  constructor
  · rintro ⟨word, hword, h⟩
    rwa [h, String.ofList_toList]
  · intro h
    exact ⟨_, h, String.toList_ofList.symm⟩

/-- The words for a sort of links. -/
def LinkType.words : LinkType → List String
  | .direct => ["DIRECT"]
  | .indirect => ["INDIRECT"]
  | .edge => ["EDGE"]
  | .optical => ["OPTICAL"]

/-- The words for a state of links. -/
def LinkState.words : LinkState → List String
  | .active => ["ACTIVE"]
  | .inactive => ["INACTIVE"]

/-- The words for a medium. -/
def Technology.words : Technology → List String
  | .mmWave => ["mmwave", "millimeterwave"]
  | .ethernet => ["ethernet"]
  | .unspecified => ["", "unspecified"]

/-- A text names a sort of links, in any case. -/
def LinkType.IsNamed (type : LinkType) (text : String) : Prop :=
  IsWord Char.toUpper type.words text

/-- A text names a state of links, in any case. -/
def LinkState.IsNamed (state : LinkState) (text : String) : Prop :=
  IsWord Char.toUpper state.words text

/-- A text names a medium, in any case. -/
def Technology.IsNamed (technology : Technology) (text : String) : Prop :=
  IsWord Char.toLower technology.words text

theorem LinkType.ofText_eq_ok_iff {text : String} {type : LinkType} :
  ofText text = .ok type ↔ type.IsNamed text
  := by
  rw [IsNamed, isWord_iff, ofText, ← upperCase]
  constructor
  · intro h
    split at h
    all_goals cases h
    all_goals simp [words, *]
  · intro h
    cases type with
    | direct =>
        rw [List.mem_singleton.mp h]
        rfl
    | indirect =>
        rw [List.mem_singleton.mp h]
        rfl
    | edge =>
        rw [List.mem_singleton.mp h]
        rfl
    | optical =>
        rw [List.mem_singleton.mp h]
        rfl

theorem LinkState.ofText_eq_ok_iff {text : String} {state : LinkState} :
  ofText text = .ok state ↔ state.IsNamed text
  := by
  rw [IsNamed, isWord_iff, ofText, ← upperCase]
  constructor
  · intro h
    split at h
    all_goals cases h
    all_goals simp [words, *]
  · intro h
    cases state with
    | active =>
        rw [List.mem_singleton.mp h]
        rfl
    | inactive =>
        rw [List.mem_singleton.mp h]
        rfl

theorem Technology.ofText_eq_ok_iff {text : String} {technology : Technology} :
  ofText text = .ok technology ↔ technology.IsNamed text
  := by
  rw [IsNamed, isWord_iff, ofText, ← lowerCase]
  constructor
  · intro h
    split at h
    all_goals cases h
    all_goals simp [words, *]
  · intro h
    cases technology with
    | mmWave =>
        rcases List.mem_pair.mp h with h | h
        · rw [h]
          rfl
        · rw [h]
          rfl
    | ethernet =>
        rw [List.mem_singleton.mp h]
        rfl
    | unspecified =>
        rcases List.mem_pair.mp h with h | h
        · rw [h]
          rfl
        · rw [h]
          rfl

theorem LinkType.ofText_eq_error_iff {text : String} {fault : InputFault} :
  ofText text = .error fault ↔ (∀ type : LinkType, ¬ type.IsNamed text)
    ∧ .unknownLinkType text = fault
  := by
  simp only [← ofText_eq_ok_iff]
  rw [ofText]
  split <;> simp

theorem LinkState.ofText_eq_error_iff {text : String} {fault : InputFault} :
  ofText text = .error fault ↔ (∀ state : LinkState, ¬ state.IsNamed text)
    ∧ .unknownLinkState text = fault
  := by
  simp only [← ofText_eq_ok_iff]
  rw [ofText]
  split <;> simp

theorem Technology.ofText_eq_error_iff {text : String} {fault : InputFault} :
  ofText text = .error fault ↔ (∀ technology : Technology, ¬ technology.IsNamed text)
    ∧ .unknownTechnology text = fault
  := by
  simp only [← ofText_eq_ok_iff]
  rw [ofText]
  split <;> simp

/-! ### Parts that may be missing -/

/-- A part of an entry is what its text names, or a value of its own where there is no text. -/
inductive Tells {α : Type} (IsNamed : α → String → Prop) (default : α) : Option String → α → Prop
  | missing : Tells IsNamed default none default
  | named {text : String} {a : α} (h : IsNamed a text) : Tells IsNamed default (some text) a

section Tells

variable {α : Type} {ofText : String → Except InputFault α} {IsNamed : α → String → Prop}
  {default : α} {text? : Option String}

theorem ofTextOr_eq_ok_iff (h : ∀ {text a}, ofText text = .ok a ↔ IsNamed a text) {a : α} :
  ofTextOr ofText default text? = .ok a ↔ Tells IsNamed default text? a
  := by
  cases text? with
  | none =>
      constructor
      · rintro ⟨⟩
        exact .missing
      · rintro ⟨⟩
        rfl
  | some text =>
      rw [ofTextOr, h]
      constructor
      · exact .named
      · rintro ⟨⟩
        assumption

/-- What is missing has no fault. -/
theorem ofTextOr_eq_error_iff {fault : InputFault} :
  ofTextOr ofText default text? = .error fault
    ↔ ∃ text, text? = some text ∧ ofText text = .error fault
  := by
  cases text? with
  | none => simp [ofTextOr]
  | some text => simp [ofTextOr]

end Tells

/-! ### Annotations in order -/

namespace Annotations

variable {a b : Annotations} {key key' text : String} {entries : List (String × String)}

/-- The keys are in ascending order. -/
def IsAscending (a : Annotations) : Prop :=
  a.entries.Pairwise fun x y => x.1 < y.1

theorem fst_eq_or_mem_of_mem_insertEntry {x : String × String}
    (hx : x ∈ insertEntry key text entries) :
  x.1 = key ∨ x ∈ entries
  := by
  induction entries with
  | nil =>
      rw [List.mem_singleton.mp hx]
      exact .inl rfl
  | cons entry rest ih =>
      rw [insertEntry] at hx
      split_ifs at hx
      · rcases List.mem_cons.mp hx with rfl | hx
        · exact .inl rfl
        · exact .inr (List.mem_cons_of_mem _ hx)
      · rcases List.mem_cons.mp hx with rfl | hx
        · exact .inl rfl
        · exact .inr hx
      · rcases List.mem_cons.mp hx with rfl | hx
        · exact .inr List.mem_cons_self
        · exact (ih hx).imp_right (List.mem_cons_of_mem _)

theorem pairwise_insertEntry (h : entries.Pairwise fun x y => x.1 < y.1) :
  (insertEntry key text entries).Pairwise fun x y => x.1 < y.1
  := by
  induction entries with
  | nil => apply List.pairwise_singleton
  | cons entry rest ih =>
      obtain ⟨hentry, hrest⟩ := List.pairwise_cons.mp h
      rw [insertEntry]
      split_ifs with heq hlt
      · apply List.pairwise_cons.mpr ⟨_, hrest⟩
        rw [heq]
        exact hentry
      · apply List.pairwise_cons.mpr ⟨_, h⟩
        intro x hx
        rcases List.mem_cons.mp hx with rfl | hx
        · exact hlt
        · exact String.lt_trans hlt (hentry x hx)
      · apply List.pairwise_cons.mpr ⟨_, ih hrest⟩
        have hgt : entry.1 < key := by
          apply Decidable.by_contra
          intro hnot
          apply heq (String.le_antisymm (String.not_lt.mp hnot) (String.not_lt.mp hlt))
        intro x hx
        rcases fst_eq_or_mem_of_mem_insertEntry hx with hkey | hx
        · rwa [hkey]
        · exact hentry x hx

theorem IsAscending.set (h : a.IsAscending) :
  (a.set key text).IsAscending
  := pairwise_insertEntry h

/-- In order, an entry is the one that is found under its key. -/
theorem mem_iff_lookup_eq_some (h : entries.Pairwise fun x y => x.1 < y.1) :
  (key, text) ∈ entries ↔ entries.lookup key = some text
  := by
  induction entries with
  | nil => simp
  | cons entry rest ih =>
      obtain ⟨hentry, hrest⟩ := List.pairwise_cons.mp h
      rw [lookup_entry, List.mem_cons, ih hrest]
      split_ifs with hkey
      · have hnot : ¬ rest.lookup key = some text := by
          intro hlookup
          apply String.lt_irrefl key
          have hlt := hentry _ ((ih hrest).mpr hlookup)
          rwa [← hkey] at hlt
        rw [or_iff_left hnot, Option.some.injEq]
        constructor
        · rintro rfl
          rfl
        · rintro rfl
          rw [hkey]
      · apply or_iff_right
        rintro rfl
        apply hkey rfl

theorem IsAscending.nodup (h : a.IsAscending) :
  a.entries.Nodup
  := by
  apply List.Pairwise.imp _ h
  rintro x _ hlt rfl
  apply String.lt_irrefl _ hlt

/-- Annotations in order are the same if they have the same entries. -/
theorem IsAscending.eq_of_mem_iff (ha : a.IsAscending) (hb : b.IsAscending)
    (h : ∀ key text, (key, text) ∈ a.entries ↔ (key, text) ∈ b.entries) :
  a = b
  := by
  have hperm : a.entries.Perm b.entries := by
    apply (List.perm_ext_iff_of_nodup ha.nodup hb.nodup).mpr
    rintro ⟨key, text⟩
    apply h
  have hentries : a.entries = b.entries :=
    hperm.eq_of_pairwise (fun x y _ _ hxy hyx => absurd hyx (String.lt_asymm hxy)) ha hb
  exact congrArg Annotations.mk hentries

/-- Sets the text of a key if there is a quantity. -/
def setQuantity (a : Annotations) (key : String) : Option Quantity → Annotations
  | none => a
  | some q => a.set key q.toText

theorem lookup_setQuantity {q? : Option Quantity} :
  (a.setQuantity key q?).entries.lookup key'
    = if key' = key then (q?.map Quantity.toText).or (a.entries.lookup key)
      else a.entries.lookup key'
  := by
  cases q? with
  | none =>
      split_ifs with hkey
      · rw [hkey]
        rfl
      · rfl
  | some q => apply lookup_insertEntry

theorem IsAscending.setQuantity (h : a.IsAscending) {q? : Option Quantity} :
  (a.setQuantity key q?).IsAscending
  := by
  cases q? with
  | none => exact h
  | some q => exact h.set

end Annotations

/-! ### Entries of links -/

/-- How a quantity is written: a number in plain digits, and a text as it is. -/
inductive Quantity.IsWritten : Quantity → String → Prop
  | number (x : Float) : IsWritten (.number x) (Decimal.plain x)
  | text (s : String) : IsWritten (.text s) s

theorem Quantity.isWritten_iff {q : Quantity} {text : String} :
  q.IsWritten text ↔ q.toText = text
  := by
  constructor
  · rintro ⟨⟩
    · rfl
    · rfl
  · rintro rfl
    cases q with
    | number x => exact .number x
    | text s => exact .text s

namespace LinkEntry

/-- An entry gives a text under a key. A capacity is given as the bandwidth if there is none. -/
inductive Gives (e : LinkEntry) : String → String → Prop
  | length {q : Quantity} {text : String} (hq : e.length = some q) (h : q.IsWritten text) :
    Gives e "length" text
  | latency {q : Quantity} {text : String} (hq : e.latency = some q) (h : q.IsWritten text) :
    Gives e "latency" text
  | bandwidth {q : Quantity} {text : String} (hq : e.bandwidth = some q) (h : q.IsWritten text) :
    Gives e "bandwidth" text
  | capacity {q : Quantity} {text : String} (hbandwidth : e.bandwidth = none)
    (hq : e.capacity = some q) (h : q.IsWritten text) : Gives e "bandwidth" text

/-- The parts of a link are what the texts of an entry name, or the defaults where there is no
text, and its annotations are the texts that the entry gives, in the order of their keys. -/
structure Describes (e : LinkEntry) (l : Link) : Prop where
  src : l.src.IsNamed e.src
  dst : l.dst.IsNamed e.dst
  type : Tells LinkType.IsNamed .direct e.type l.type
  state : Tells LinkState.IsNamed .active e.state l.state
  technology : Tells Technology.IsNamed .unspecified e.technology l.technology
  mem_annotations_iff : ∀ key text, (key, text) ∈ l.annotations.entries ↔ e.Gives key text
  isAscending : l.annotations.IsAscending

/-- The links are the one that an entry describes and, if it is bidirectional, its opposite. -/
def StandsFor (e : LinkEntry) (links : List Link) : Prop :=
  ∃ l, e.Describes l ∧ links = e.withOpposite l

/-- What is wrong with an entry of which a text names nothing: the first that does not. -/
inductive Misreads (e : LinkEntry) : InputFault → Prop
  | src (h : ∀ p : ConnectPoint, ¬ p.IsNamed e.src) : Misreads e (.invalidConnectPoint e.src)
  | dst {src : ConnectPoint} (hsrc : src.IsNamed e.src)
    (h : ∀ p : ConnectPoint, ¬ p.IsNamed e.dst) : Misreads e (.invalidConnectPoint e.dst)
  | type {src dst : ConnectPoint} (hsrc : src.IsNamed e.src) (hdst : dst.IsNamed e.dst)
    {text : String} (htext : e.type = some text) (h : ∀ type : LinkType, ¬ type.IsNamed text) :
    Misreads e (.unknownLinkType text)
  | state {src dst : ConnectPoint} (hsrc : src.IsNamed e.src) (hdst : dst.IsNamed e.dst)
    {type : LinkType} (htype : Tells LinkType.IsNamed .direct e.type type)
    {text : String} (htext : e.state = some text) (h : ∀ state : LinkState, ¬ state.IsNamed text) :
    Misreads e (.unknownLinkState text)
  | technology {src dst : ConnectPoint} (hsrc : src.IsNamed e.src) (hdst : dst.IsNamed e.dst)
    {type : LinkType} (htype : Tells LinkType.IsNamed .direct e.type type)
    {state : LinkState} (hstate : Tells LinkState.IsNamed .active e.state state)
    {text : String} (htext : e.technology = some text)
    (h : ∀ technology : Technology, ¬ technology.IsNamed text) :
    Misreads e (.unknownTechnology text)

variable {e : LinkEntry} {l : Link} {fault : InputFault}

theorem annotations_eq_setQuantity :
  e.annotations = (Annotations.empty.setQuantity "length" e.length
    |>.setQuantity "latency" e.latency
    |>.setQuantity "bandwidth" e.bandwidthOrCapacity)
  := rfl

variable (e) in
theorem isAscending_annotations :
  e.annotations.IsAscending
  := by
  have hempty : Annotations.empty.IsAscending := List.Pairwise.nil
  rw [annotations_eq_setQuantity]
  apply hempty.setQuantity.setQuantity.setQuantity

theorem lookup_annotations {key : String} :
  e.annotations.entries.lookup key
    = if key = "bandwidth" then e.bandwidthOrCapacity.map Quantity.toText
      else if key = "latency" then e.latency.map Quantity.toText
      else if key = "length" then e.length.map Quantity.toText
      else none
  := by
  simp [annotations_eq_setQuantity, Annotations.lookup_setQuantity, Annotations.empty]

theorem bandwidthOrCapacity_eq_some_iff {q : Quantity} :
  e.bandwidthOrCapacity = some q
    ↔ e.bandwidth = some q ∨ e.bandwidth = none ∧ e.capacity = some q
  := by
  rw [bandwidthOrCapacity]
  cases e.bandwidth with
  | none => simp
  | some q' => simp

theorem mem_annotations_iff_gives {key text : String} :
  (key, text) ∈ e.annotations.entries ↔ e.Gives key text
  := by
  rw [Annotations.mem_iff_lookup_eq_some (isAscending_annotations e), lookup_annotations]
  constructor
  · intro h
    split_ifs at h with hkey hkey hkey
    · obtain ⟨q, hq, htext⟩ := Option.map_eq_some_iff.mp h
      rw [hkey]
      rcases bandwidthOrCapacity_eq_some_iff.mp hq with hq | ⟨hbandwidth, hq⟩
      · exact .bandwidth hq (Quantity.isWritten_iff.mpr htext)
      · exact .capacity hbandwidth hq (Quantity.isWritten_iff.mpr htext)
    · obtain ⟨q, hq, htext⟩ := Option.map_eq_some_iff.mp h
      rw [hkey]
      exact .latency hq (Quantity.isWritten_iff.mpr htext)
    · obtain ⟨q, hq, htext⟩ := Option.map_eq_some_iff.mp h
      rw [hkey]
      exact .length hq (Quantity.isWritten_iff.mpr htext)
  · rintro (⟨hq, htext⟩ | ⟨hq, htext⟩ | ⟨hq, htext⟩ | ⟨hbandwidth, hq, htext⟩)
    · rw [← Quantity.isWritten_iff.mp htext, hq]
      rfl
    · rw [← Quantity.isWritten_iff.mp htext, hq]
      rfl
    · rw [← Quantity.isWritten_iff.mp htext, bandwidthOrCapacity_eq_some_iff.mpr (.inl hq)]
      rfl
    · rw [← Quantity.isWritten_iff.mp htext,
        bandwidthOrCapacity_eq_some_iff.mpr (.inr ⟨hbandwidth, hq⟩)]
      rfl

theorem Describes.annotations_eq (h : e.Describes l) :
  l.annotations = e.annotations
  := by
  apply h.isAscending.eq_of_mem_iff (isAscending_annotations e)
  intro key text
  rw [h.mem_annotations_iff, mem_annotations_iff_gives]

theorem toLink_eq_ok_iff :
  e.toLink = .ok l ↔ e.Describes l
  := by
  rw [toLink]
  simp only [bind_eq_ok_iff, ConnectPoint.ofText_eq_ok_iff,
    ofTextOr_eq_ok_iff LinkType.ofText_eq_ok_iff, ofTextOr_eq_ok_iff LinkState.ofText_eq_ok_iff,
    ofTextOr_eq_ok_iff Technology.ofText_eq_ok_iff]
  constructor
  · rintro ⟨src, hsrc, dst, hdst, type, htype, state, hstate, technology, htechnology, h⟩
    obtain rfl := Except.ok.inj h
    exact ⟨hsrc, hdst, htype, hstate, htechnology, fun _ _ => mem_annotations_iff_gives,
      isAscending_annotations e⟩
  · intro h
    refine ⟨_, h.src, _, h.dst, _, h.type, _, h.state, _, h.technology, ?_⟩
    rw [← h.annotations_eq]
    rfl

theorem toLink_eq_error_iff :
  e.toLink = .error fault ↔ e.Misreads fault
  := by
  rw [toLink]
  simp only [bind_eq_error_iff, ofTextOr_eq_error_iff, ConnectPoint.ofText_eq_error_iff,
    LinkType.ofText_eq_error_iff, LinkState.ofText_eq_error_iff, Technology.ofText_eq_error_iff,
    ConnectPoint.ofText_eq_ok_iff, ofTextOr_eq_ok_iff LinkType.ofText_eq_ok_iff,
    ofTextOr_eq_ok_iff LinkState.ofText_eq_ok_iff]
  constructor
  · rintro (⟨h, rfl⟩ | ⟨src, hsrc, ⟨h, rfl⟩ | ⟨dst, hdst, ⟨text, htext, h, rfl⟩ | ⟨type, htype,
      ⟨text, htext, h, rfl⟩ | ⟨state, hstate, ⟨text, htext, h, rfl⟩ | ⟨technology, -, h⟩⟩⟩⟩⟩)
    · exact .src h
    · exact .dst hsrc h
    · exact .type hsrc hdst htext h
    · exact .state hsrc hdst htype htext h
    · exact .technology hsrc hdst htype hstate htext h
    · cases h
  · rintro (h | ⟨hsrc, h⟩ | ⟨hsrc, hdst, htext, h⟩ | ⟨hsrc, hdst, htype, htext, h⟩
      | ⟨hsrc, hdst, htype, hstate, htext, h⟩)
    · exact .inl ⟨h, rfl⟩
    · exact .inr ⟨_, hsrc, .inl ⟨h, rfl⟩⟩
    · exact .inr ⟨_, hsrc, .inr ⟨_, hdst, .inl ⟨_, htext, h, rfl⟩⟩⟩
    · exact .inr ⟨_, hsrc, .inr ⟨_, hdst, .inr ⟨_, htype, .inl ⟨_, htext, h, rfl⟩⟩⟩⟩
    · exact .inr ⟨_, hsrc, .inr ⟨_, hdst, .inr ⟨_, htype, .inr ⟨_, hstate,
        .inl ⟨_, htext, h, rfl⟩⟩⟩⟩⟩

end LinkEntry

/-! ### Entries of hosts -/

namespace HostEntry

/-- The links attach the host of an entry to its location, there and back. On the side of the host
they are at port zero. -/
def StandsFor (e : HostEntry) (links : List Link) : Prop :=
  ∃ location : ConnectPoint, location.IsNamed e.location
    ∧ links = [⟨⟨.host e.id, 0⟩, location, .edge, .active, .unspecified, ⟨[]⟩⟩,
      ⟨location, ⟨.host e.id, 0⟩, .edge, .active, .unspecified, ⟨[]⟩⟩]

end HostEntry

end ReliableRouting
