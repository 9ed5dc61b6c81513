import ReliableRouting.Proofs.Network.Assembly

/-!
# Bandwidth and capacity

A capacity stands in for a bandwidth in two places. An entry of a snapshot hands on one text as the
bandwidth of its link, that of the bandwidth if there is one, even a blank one. Annotations that
hold both texts give the capacity where the bandwidth is absent, and a blank text counts as absent.
The two ways give the same, up to the key that a fault names, unless the bandwidth is blank while
the capacity is not. Then the link has no bandwidth, and its capacity is lost.
-/

namespace ReliableRouting

/-! ### Texts of numbers -/

theorem Text.isBlankText_eq_false_of_mem {cs : List Char} {c : Char} (hmem : c ∈ cs)
    (h : isBlank c = false) :
  isBlankText cs = false
  := List.all_eq_false.mpr ⟨c, hmem, by simp [h]⟩

namespace Decimal

variable {layout : Layout}

theorem isBlankText_positional {digits : List Char} (h : IsDigits digits) {exponent : Int} :
  Text.isBlankText (layout.positional digits exponent) = false
  := by
  obtain ⟨c, hc⟩ := List.exists_mem_of_ne_nil digits h.1
  rw [Layout.positional]
  split_ifs
  · apply Text.isBlankText_eq_false_of_mem _ (Text.isBlank_of_isDigit (h.2 c hc))
    simp [hc]
  · apply Text.isBlankText_eq_false_of_mem _ (Text.isBlank_of_isDigit (h.2 c hc))
    simp [hc]
  -- no digit has to stand before the point, but the point itself is not blank
  · apply Text.isBlankText_eq_false_of_mem (c := '.') (by simp) (by decide)
  · apply Text.isBlankText_eq_false_of_mem (c := '.') (by simp) (by decide)

theorem isBlankText_decimal {d : GridPoint} :
  Text.isBlankText (layout.decimal d) = false
  := by
  rw [Layout.decimal]
  split_ifs
  · apply isBlankText_positional (isDigits_toDigits d.digits)
  · apply Text.isBlankText_eq_false_of_mem (c := 'e') (by simp [Layout.scientific]) (by decide)

theorem isBlankText_of_special? {x : Float} {text : String} (h : special? x = some text) :
  Text.isBlankText text.toList = false
  := by
  rw [special?] at h
  split_ifs at h
  all_goals
    obtain rfl := Option.some.inj h
    decide

/-- The text of a number is not blank. -/
theorem isBlankText_plain (x : Float) :
  Text.isBlankText (plain x).toList = false
  := by
  rw [plain, Layout.write]
  cases hspecial : special? x with
  | some text => apply isBlankText_of_special? hspecial
  | none =>
      have hmagnitude : Text.isBlankText (Layout.plain.magnitude (Magnitude.ofBits x.toBits))
        = false := isBlankText_decimal
      rw [Text.isBlankText] at hmagnitude ⊢
      simp [hmagnitude]

end Decimal

/-! ### Quantities -/

/-- The quantity is a blank text. -/
def Quantity.IsBlank : Quantity → Prop
  | .number _ => False
  | .text s => Text.isBlankText s.toList = true

instance (q : Quantity) : Decidable q.IsBlank :=
  match q with
  | .number _ => inferInstanceAs (Decidable False)
  | .text _ => inferInstanceAs (Decidable (_ = true))

theorem Quantity.isBlank_iff {q : Quantity} :
  q.IsBlank ↔ Text.isBlankText q.toText.toList = true
  := by
  cases q with
  | number x => simp [IsBlank, toText, Decimal.isBlankText_plain]
  | text s => rfl

/-- The text of a quantity, unless it is blank. -/
def Quantity.given? (q? : Option Quantity) : Option String :=
  (q?.map toText).filter fun text => !Text.isBlankText text.toList

theorem Quantity.given?_eq_none_iff {q? : Option Quantity} :
  given? q? = none ↔ ∀ q, q? = some q → q.IsBlank
  := by
  cases q? with
  | none => simp [given?]
  | some q => simp [given?, isBlank_iff]

/-! ### Annotations -/

/-- The fault under another key. -/
def AnnotationFault.under (key : String) (f : AnnotationFault) : AnnotationFault :=
  { f with key }

namespace Annotations

variable {a b : Annotations} {key fallback key' : String}

theorem number_eq_ok_none_iff :
  a.number key = .ok none ↔ a.value? key = none
  := by
  rw [number]
  cases a.value? key with
  | none => simp
  | some text =>
      dsimp only
      split
      · simp
      · simp

/-- A measure is absent exactly if its text is. -/
theorem measure_eq_ok_none_iff :
  a.measure key = .ok none ↔ a.value? key = none
  := by
  rw [← number_eq_ok_none_iff, measure]
  split
  next x hnumber =>
    rw [hnumber]
    split_ifs
    · simp
    · simp
  · rfl

/-- What is read of a text depends on its key in the fault only. -/
theorem measure_congr (h : b.value? key' = a.value? key) :
  b.measure key' = (a.measure key).mapError (AnnotationFault.under key')
  := by
  rw [measure, number, h, measure, number]
  cases a.value? key with
  | none => rfl
  | some text =>
      dsimp only
      cases Decimal.readFloat? (Text.trim text.toList) with
      | none => rfl
      | some x =>
          dsimp only
          split_ifs
          · rfl
          · rfl

theorem measureOr_of_eq_none (h : a.value? key = none) :
  a.measureOr key fallback = a.measure fallback
  := by
  rw [measureOr, measure_eq_ok_none_iff.mpr h]

theorem measureOr_of_ne_none (h : a.value? key ≠ none) :
  a.measureOr key fallback = a.measure key
  := by
  rw [measureOr]
  split
  next hnone => apply absurd (measure_eq_ok_none_iff.mp hnone) h
  · rfl

/-- A measure with nothing to fall back to is that of the first key. -/
theorem measureOr_of_fallback_eq_none (h : a.value? fallback = none) :
  a.measureOr key fallback = a.measure key
  := by
  by_cases hkey : a.value? key = none
  · rw [measureOr_of_eq_none hkey, measure_eq_ok_none_iff.mpr h, measure_eq_ok_none_iff.mpr hkey]
  · apply measureOr_of_ne_none hkey

/-- The text that is read with a fallback is read the same under a key of its own. -/
theorem measureOr_congr (h : b.value? key' = (a.value? key).or (a.value? fallback)) :
  b.measure key' = (a.measureOr key fallback).mapError (AnnotationFault.under key')
  := by
  by_cases hkey : a.value? key = none
  · rw [hkey, Option.none_or] at h
    rw [measureOr_of_eq_none hkey, measure_congr h]
  · rw [Option.or_of_isSome (Option.isSome_iff_ne_none.mpr hkey)] at h
    rw [measureOr_of_ne_none hkey, measure_congr h]

end Annotations

/-! ### Entries of links -/

namespace LinkEntry

/-- The annotations of a link where bandwidth and capacity are kept apart. -/
def annotationsApart (e : LinkEntry) : Annotations :=
  Annotations.empty.setQuantity "length" e.length
    |>.setQuantity "latency" e.latency
    |>.setQuantity "capacity" e.capacity
    |>.setQuantity "bandwidth" e.bandwidth

/-- The bandwidth that the annotations give where bandwidth and capacity are kept apart. -/
def bandwidthApart (e : LinkEntry) : Except AnnotationFault (Option Float) :=
  e.annotationsApart.measureOr "bandwidth" "capacity"

/-- The bandwidth is a blank text, and the capacity is not. -/
structure HidesCapacity (e : LinkEntry) : Prop where
  bandwidth : ∃ q, e.bandwidth = some q ∧ q.IsBlank
  capacity : ∃ q, e.capacity = some q ∧ ¬ q.IsBlank

variable {e : LinkEntry} {l : Link}

theorem value?_annotationsApart_bandwidth :
  e.annotationsApart.value? "bandwidth" = Quantity.given? e.bandwidth
  := by
  simp [Annotations.value?, annotationsApart, Annotations.lookup_setQuantity, Annotations.empty,
    Quantity.given?]

theorem value?_annotationsApart_capacity :
  e.annotationsApart.value? "capacity" = Quantity.given? e.capacity
  := by
  simp [Annotations.value?, annotationsApart, Annotations.lookup_setQuantity, Annotations.empty,
    Quantity.given?]

theorem value?_annotations_bandwidth :
  e.annotations.value? "bandwidth" = Quantity.given? e.bandwidthOrCapacity
  := by
  simp [Annotations.value?, lookup_annotations, Quantity.given?]

theorem value?_annotations_capacity :
  e.annotations.value? "capacity" = none
  := by
  simp [Annotations.value?, lookup_annotations]

/-- The text that is handed on is the one that is read where both are kept apart, unless the entry
hides its capacity. -/
theorem given?_bandwidthOrCapacity (h : ¬ e.HidesCapacity) :
  Quantity.given? e.bandwidthOrCapacity
    = (Quantity.given? e.bandwidth).or (Quantity.given? e.capacity)
  := by
  cases hbandwidth : e.bandwidth with
  | none =>
      rw [bandwidthOrCapacity, hbandwidth]
      rfl
  | some q =>
      have hq : e.bandwidthOrCapacity = some q := by
        rw [bandwidthOrCapacity, hbandwidth]
        rfl
      rw [hq]
      by_cases hblank : q.IsBlank
      · have hcapacity : Quantity.given? e.capacity = none := by
          rw [Quantity.given?_eq_none_iff]
          intro c hc
          by_contra hnot
          apply h ⟨⟨q, hbandwidth, hblank⟩, c, hc, hnot⟩
        rw [hcapacity, Option.or_none]
      · have hgiven : Quantity.given? (some q) ≠ none := by
          simpa [Quantity.given?_eq_none_iff] using hblank
        rw [Option.or_of_isSome (Option.isSome_iff_ne_none.mpr hgiven)]

theorem HidesCapacity.given?_bandwidthOrCapacity (h : e.HidesCapacity) :
  Quantity.given? e.bandwidthOrCapacity = none
  := by
  obtain ⟨q, hbandwidth, hblank⟩ := h.bandwidth
  rw [Quantity.given?_eq_none_iff, bandwidthOrCapacity, hbandwidth]
  rintro _ ⟨⟩
  apply hblank

theorem bandwidthApart_of_not_isBlank {q : Quantity} (hq : e.bandwidth = some q)
    (h : ¬ q.IsBlank) :
  e.bandwidthApart = e.annotationsApart.measure "bandwidth"
  := by
  apply Annotations.measureOr_of_ne_none
  rw [value?_annotationsApart_bandwidth, ne_eq, Quantity.given?_eq_none_iff]
  intro hblank
  apply h (hblank q hq)

theorem bandwidthApart_of_isBlank (h : ∀ q, e.bandwidth = some q → q.IsBlank) :
  e.bandwidthApart = e.annotationsApart.measure "capacity"
  := by
  apply Annotations.measureOr_of_eq_none
  rw [value?_annotationsApart_bandwidth, Quantity.given?_eq_none_iff]
  apply h

/-- A capacity that is hidden would be read, as a value or as a fault. -/
theorem HidesCapacity.bandwidthApart_ne (h : e.HidesCapacity) :
  e.bandwidthApart ≠ .ok none
  := by
  obtain ⟨q, hq, hblank⟩ := h.bandwidth
  obtain ⟨c, hc, hcapacity⟩ := h.capacity
  have hbandwidth : ∀ q', e.bandwidth = some q' → q'.IsBlank := by
    rw [hq]
    rintro _ ⟨⟩
    apply hblank
  rw [bandwidthApart_of_isBlank hbandwidth, ne_eq, Annotations.measure_eq_ok_none_iff,
    value?_annotationsApart_capacity, Quantity.given?_eq_none_iff]
  intro hall
  apply hcapacity (hall c hc)

/-- The bandwidth of a link is what is read of the text that its entry hands on. -/
theorem Describes.bandwidth_eq (h : e.Describes l) :
  l.bandwidth = e.annotations.measure "bandwidth"
  := by
  rw [Link.bandwidth, h.annotations_eq,
    Annotations.measureOr_of_fallback_eq_none value?_annotations_capacity]

/-- How the bandwidth of a link is read, and how it would be read where bandwidth and capacity of
its entry are kept apart. -/
structure ReadsBandwidth (e : LinkEntry) (l : Link) : Prop where
  /-- Kept apart, a bandwidth that is not blank decides. -/
  apart_of_not_isBlank : ∀ q, e.bandwidth = some q → ¬ q.IsBlank
    → e.bandwidthApart = e.annotationsApart.measure "bandwidth"
  /-- A bandwidth that is missing or blank falls back to the capacity. -/
  apart_of_isBlank : (∀ q, e.bandwidth = some q → q.IsBlank)
    → e.bandwidthApart = e.annotationsApart.measure "capacity"
  /-- A value, none or a fault, it is the same unless the entry hides its capacity. -/
  toOption_eq_iff : l.bandwidth.toOption = e.bandwidthApart.toOption ↔ ¬ e.HidesCapacity
  /-- A fault names the bandwidth, also that of a capacity. -/
  eq_of_not_hidesCapacity : ¬ e.HidesCapacity
    → l.bandwidth = e.bandwidthApart.mapError (AnnotationFault.under "bandwidth")
  eq_of_hidesCapacity : e.HidesCapacity → l.bandwidth = .ok none

theorem Describes.readsBandwidth (h : e.Describes l) :
  e.ReadsBandwidth l
  := by
  have heq : ¬ e.HidesCapacity
      → l.bandwidth = e.bandwidthApart.mapError (AnnotationFault.under "bandwidth") := by
    intro hnot
    rw [h.bandwidth_eq]
    apply Annotations.measureOr_congr
    rw [value?_annotations_bandwidth, value?_annotationsApart_bandwidth,
      value?_annotationsApart_capacity, given?_bandwidthOrCapacity hnot]
  have hnone : e.HidesCapacity → l.bandwidth = .ok none := by
    intro hhides
    rw [h.bandwidth_eq, Annotations.measure_eq_ok_none_iff, value?_annotations_bandwidth,
      hhides.given?_bandwidthOrCapacity]
  refine ⟨fun q => bandwidthApart_of_not_isBlank, bandwidthApart_of_isBlank, ⟨?_, ?_⟩, heq, hnone⟩
  · intro hsame hhides
    rw [hnone hhides] at hsame
    apply hhides.bandwidthApart_ne
    cases hapart : e.bandwidthApart with
    | error f =>
        rw [hapart] at hsame
        cases hsame
    | ok x =>
        rw [hapart] at hsame
        cases hsame
        rfl
  · intro hnot
    rw [heq hnot, toOption_mapError]

/-- All links that an entry stands for are read alike. -/
theorem Describes.readsBandwidth_of_mem (h : e.Describes l) {l' : Link}
    (hl' : l' ∈ e.withOpposite l) :
  e.ReadsBandwidth l'
  := by
  have hsame : l'.bandwidth = l.bandwidth := by
    rw [withOpposite] at hl'
    split_ifs at hl'
    · rcases List.mem_pair.mp hl' with rfl | rfl
      · rfl
      · rfl
    · rw [List.mem_singleton.mp hl']
  obtain ⟨hgiven, hblank, hiff, heq, hnone⟩ := h.readsBandwidth
  rw [← hsame] at hiff heq hnone
  exact ⟨hgiven, hblank, hiff, heq, hnone⟩

end LinkEntry

/-! ### Networks -/

namespace Network

/-- The bandwidth of each link that an entry stands for is the one that its annotations would give
if they kept bandwidth and capacity apart, unless the entry hides its capacity. Apart from those
links there are attachments of hosts only. -/
theorem readsBandwidth_of_ofSnapshot {s : Snapshot} {net : Network} (h : ofSnapshot s = .ok net) :
  ∃ groups attachments, net.links = groups.flatten ++ attachments.flatten
    ∧ List.Forall₂ (fun e links => LinkEntry.StandsFor e links ∧ ∀ l ∈ links, e.ReadsBandwidth l)
      s.links groups
    ∧ List.Forall₂ HostEntry.StandsFor s.hosts attachments
  := by
  obtain ⟨groups, attachments, hgroups, hattachments, hlinks⟩ :=
    (describes_of_ofSnapshot h).exists_groups
  refine ⟨groups, attachments, hlinks, hgroups.imp ?_, hattachments⟩
  rintro e _ ⟨l, hl, rfl⟩
  exact ⟨⟨l, hl, rfl⟩, fun l' => hl.readsBandwidth_of_mem⟩

/-! ### A hidden capacity -/

namespace Hidden

/-- A link with a blank bandwidth and a capacity. -/
def entry : LinkEntry where
  src := "hub/1"
  dst := "rim/1"
  capacity := some (.text "5")
  bandwidth := some (.text " ")

/-- A snapshot of that link alone. -/
def snapshot : Snapshot where
  devices := ["hub", "rim"]
  links := [entry]

/-- The link of the entry. -/
def link : Link where
  src := ⟨.device "hub", 1⟩
  dst := ⟨.device "rim", 1⟩
  annotations := ⟨[("bandwidth", " ")]⟩

/-- The network of that link. -/
def network : Network where
  elements := [.device "hub", .device "rim"]
  links := [link]

theorem ofSnapshot_eq :
  ofSnapshot snapshot = .ok network
  := by
  decide +kernel

theorem describes_link :
  entry.Describes link
  := by
  apply LinkEntry.toLink_eq_ok_iff.mp
  decide +kernel

theorem hidesCapacity :
  entry.HidesCapacity
  := ⟨⟨_, rfl, by decide⟩, _, rfl, by decide⟩

end Hidden

/-- The hidden capacity is lost. -/
theorem readsBandwidth_of_ofSnapshot_hidden :
  ofSnapshot Hidden.snapshot = .ok Hidden.network ∧ Hidden.entry.HidesCapacity
    ∧ Hidden.entry.ReadsBandwidth Hidden.link ∧ Hidden.link.bandwidth = .ok none
  := by
  obtain ⟨groups, attachments, hlinks, hgroups, hattachments⟩ :=
    readsBandwidth_of_ofSnapshot Hidden.ofSnapshot_eq
  cases hattachments
  cases hgroups with
  | cons hentry hrest =>
      cases hrest
      obtain ⟨-, hreads⟩ := hentry
      have hmem : Hidden.link ∈ Hidden.network.links := List.mem_singleton_self _
      simp only [hlinks, List.flatten_cons, List.flatten_nil, List.append_nil] at hmem
      have hlink := hreads Hidden.link hmem
      exact ⟨Hidden.ofSnapshot_eq, Hidden.hidesCapacity, hlink,
        hlink.eq_of_hidesCapacity Hidden.hidesCapacity⟩

/-- The link has no bandwidth, where its annotations would give that of the capacity. -/
theorem bandwidth_ne_apart_hidden :
  ofSnapshot Hidden.snapshot = .ok Hidden.network ∧ Hidden.entry ∈ Hidden.snapshot.links
    ∧ Hidden.link ∈ Hidden.network.links ∧ Hidden.entry.Describes Hidden.link
    ∧ Hidden.link.bandwidth = .ok none ∧ Hidden.entry.bandwidthApart = .ok (some 5)
  := by
  refine ⟨Hidden.ofSnapshot_eq, List.mem_singleton_self _, List.mem_singleton_self _,
    Hidden.describes_link, ?_, ?_⟩
  · decide +kernel
  · decide +kernel

end Network

end ReliableRouting
