import Mathlib.Tactic.SplitIfs
import ReliableRouting.Network.Assembly
import ReliableRouting.Proofs.Outcome

/-!
# Adding to a network

What each addition to a network does when it succeeds, and when it does. Links are appended
one at a time, each read from an entry of the snapshot, the opposite of such a link, or one
of the two that attach a host. So what holds of all of these holds of every link of a network
that is assembled from a snapshot; for one, every link touches a device.
-/

namespace ReliableRouting

/-! ### Single additions -/

/-- The links that an entry stands for, given the one that it describes: that one, and the one
with its ends exchanged if the entry is bidirectional. -/
def LinkEntry.withOpposite (e : LinkEntry) (l : Link) : List Link :=
  if e.bidirectional then [l, { l with src := l.dst, dst := l.src }] else [l]

namespace Network

variable {net net' : Network}

/-- The link from a host to its location, which leaves the host at port zero. -/
def attachment (id : String) (location : ConnectPoint) : Link where
  src := ⟨.host id, 0⟩
  dst := location
  type := .edge
  state := .active
  technology := .unspecified
  annotations := ⟨[]⟩

theorem contains_eq_true_iff {e : Element} :
  net.contains e = true ↔ e ∈ net.elements
  := decide_eq_true_iff

theorem links_addElement (net : Network) (e : Element) :
  (net.addElement e).links = net.links
  := by
  rw [addElement]
  split_ifs
  · rfl
  · rfl

theorem mem_addElement_iff {e e' : Element} :
  e' ∈ (net.addElement e).elements ↔ e' ∈ net.elements ∨ e' = e
  := by
  rw [addElement]
  split_ifs with h
  · apply (or_iff_left_of_imp _).symm
    rintro rfl
    apply contains_eq_true_iff.mp h
  · rw [List.mem_append, List.mem_singleton]

/-- A link is added exactly between elements of the network. -/
theorem addLink_eq_ok_iff {l : Link} :
  net.addLink l = .ok net'
    ↔ (l.src.element ∈ net.elements ∧ l.dst.element ∈ net.elements)
      ∧ { net with links := net.links ++ [l] } = net'
  := by
  simp only [← contains_eq_true_iff]
  rw [addLink]
  constructor
  · intro h
    split_ifs at h with hsrc hdst
    exact ⟨⟨hsrc, hdst⟩, Except.ok.inj h⟩
  · rintro ⟨⟨hsrc, hdst⟩, rfl⟩
    rw [if_neg (Decidable.not_not.mpr hsrc),
      if_neg (Decidable.not_not.mpr hdst)]

/-- A host is added exactly to a location on the network, with the links both ways. -/
theorem addHost_eq_ok_iff {id : String} {location : ConnectPoint} :
  net.addHost id location = .ok net'
    ↔ location.element ∈ net.elements
      ∧ ⟨(net.addElement (.host id)).elements,
          net.links ++ [attachment id location, (attachment id location).reversed]⟩ = net'
  := by
  have hadd : location.element ∈ net.elements →
      ∀ l ∈ [attachment id location, (attachment id location).reversed],
        l.src.element ∈ (net.addElement (.host id)).elements
          ∧ l.dst.element ∈ (net.addElement (.host id)).elements := by
    intro hlocation l hl
    have hhost : Element.host id ∈ (net.addElement (.host id)).elements :=
      mem_addElement_iff.mpr (.inr rfl)
    have hdevice : location.element ∈ (net.addElement (.host id)).elements :=
      mem_addElement_iff.mpr (.inl hlocation)
    rcases List.mem_cons.mp hl with rfl | hl
    · exact ⟨hhost, hdevice⟩
    · rw [List.mem_singleton.mp hl]
      exact ⟨hdevice, hhost⟩
  rw [addHost]
  constructor
  · intro h
    split_ifs at h with hlocation
    rw [contains_eq_true_iff] at hlocation
    obtain ⟨net'', hfirst, hsecond⟩ := bind_eq_ok_iff.mp h
    obtain ⟨-, rfl⟩ := addLink_eq_ok_iff.mp hfirst
    obtain ⟨-, rfl⟩ := addLink_eq_ok_iff.mp hsecond
    refine ⟨hlocation, ?_⟩
    simp [links_addElement, attachment, hostPoint, Annotations.empty, Link.reversed]
  · rintro ⟨hlocation, rfl⟩
    rw [if_pos (contains_eq_true_iff.mpr hlocation)]
    apply bind_eq_ok_iff.mpr
    refine ⟨_, addLink_eq_ok_iff.mpr ⟨hadd hlocation _ List.mem_cons_self, rfl⟩, ?_⟩
    apply addLink_eq_ok_iff.mpr
    refine ⟨hadd hlocation _ (List.mem_cons_of_mem _ List.mem_cons_self), ?_⟩
    simp [links_addElement, attachment, hostPoint, Annotations.empty, Link.reversed]

theorem addLinkEntry_eq_ok_iff {e : LinkEntry} :
  net.addLinkEntry e = .ok net'
    ↔ ∃ l, e.toLink = .ok l ∧ (l.src.element ∈ net.elements ∧ l.dst.element ∈ net.elements)
      ∧ { net with links := net.links ++ e.withOpposite l } = net'
  := by
  constructor
  · intro h
    obtain ⟨l, hl, h⟩ := bind_eq_ok_iff.mp h
    obtain ⟨net'', hfirst, h⟩ := bind_eq_ok_iff.mp h
    obtain ⟨hends, rfl⟩ := addLink_eq_ok_iff.mp hfirst
    refine ⟨l, hl, hends, ?_⟩
    rw [LinkEntry.withOpposite]
    split_ifs at h ⊢
    · obtain ⟨-, rfl⟩ := addLink_eq_ok_iff.mp h
      rw [List.append_assoc]
      rfl
    · apply Except.ok.inj h
  · rintro ⟨l, hl, hends, rfl⟩
    apply bind_eq_ok_iff.mpr
    refine ⟨l, hl, bind_eq_ok_iff.mpr ⟨_, addLink_eq_ok_iff.mpr ⟨hends, rfl⟩, ?_⟩⟩
    rw [LinkEntry.withOpposite]
    split_ifs
    · apply addLink_eq_ok_iff.mpr
      refine ⟨hends.symm, ?_⟩
      rw [List.append_assoc]
      rfl
    · rfl

theorem addHostEntry_eq_ok_iff {e : HostEntry} :
  net.addHostEntry e = .ok net'
    ↔ ∃ location, ConnectPoint.ofText e.location = .ok location
      ∧ net.addHost e.id location = .ok net'
  := bind_eq_ok_iff

/-! ### Links of an assembled network -/

theorem links_foldl_addDevice (net : Network) (ids : List String) :
  (ids.foldl addDevice net).links = net.links
  := by
  induction ids generalizing net with
  | nil => rfl
  | cons id ids ih =>
      rw [List.foldl_cons, ih]
      apply links_addElement

/-- What holds of the links read from entries, of their opposites and of those that attach
hosts to locations read holds of every link of an assembled network. -/
theorem forall_links_ofSnapshot {P : Link → Prop}
    (hentry : ∀ (e : LinkEntry) l, e.toLink = .ok l → P l ∧ P l.reversed)
    (hattachment : ∀ text location, ConnectPoint.ofText text = .ok location →
      ∀ id, P (attachment id location) ∧ P (attachment id location).reversed)
    {s : Snapshot} (h : ofSnapshot s = .ok net) :
  ∀ l ∈ net.links, P l
  := by
  obtain ⟨net', hlinks, hhosts⟩ := bind_eq_ok_iff.mp h
  have hstart : ∀ l ∈ (s.devices.foldl addDevice empty).links, P l := by
    rw [links_foldl_addDevice]
    intro l hl
    cases hl
  have hadded : ∀ l ∈ net'.links, P l := by
    apply foldlM_preserves (P := fun net : Network => ∀ l ∈ net.links, P l) _ hstart hlinks
    intro net e net' hnet hadd
    obtain ⟨l, hl, -, rfl⟩ := addLinkEntry_eq_ok_iff.mp hadd
    obtain ⟨hP, hopposite⟩ := hentry e l hl
    rw [List.forall_mem_append, LinkEntry.withOpposite]
    refine ⟨hnet, ?_⟩
    split_ifs
    · apply List.forall_mem_cons.mpr ⟨hP, List.forall_mem_singleton.mpr hopposite⟩
    · apply List.forall_mem_singleton.mpr hP
  apply foldlM_preserves (P := fun net : Network => ∀ l ∈ net.links, P l) _ hadded hhosts
  intro net e net' hnet hadd
  obtain ⟨location, hlocation, hadd⟩ := addHostEntry_eq_ok_iff.mp hadd
  obtain ⟨-, rfl⟩ := addHost_eq_ok_iff.mp hadd
  obtain ⟨hP, hopposite⟩ := hattachment e.location location hlocation e.id
  rw [List.forall_mem_append]
  refine ⟨hnet, List.forall_mem_cons.mpr ⟨hP, List.forall_mem_singleton.mpr hopposite⟩⟩

end Network

/-! ### Devices -/

/-- The link touches a device. -/
def Link.TouchesDevice (l : Link) : Prop :=
  l.src.element.isDevice = true ∨ l.dst.element.isDevice = true

theorem Link.TouchesDevice.reversed {l : Link} (h : l.TouchesDevice) :
  l.reversed.TouchesDevice
  := h.symm

/-- A connect point that is read is one of a device. -/
theorem ConnectPoint.isDevice_of_ofText {text : String} {p : ConnectPoint}
    (h : ConnectPoint.ofText text = .ok p) :
  p.element.isDevice = true
  := by
  rw [ofText, parse?] at h
  split at h
  next hp =>
    obtain rfl := Except.ok.inj h
    split at hp
    next => cases hp
    next =>
      split_ifs at hp
      obtain ⟨n, -, rfl⟩ := Option.map_eq_some_iff.mp hp
      rfl
  next => cases h

theorem LinkEntry.touchesDevice_of_toLink {e : LinkEntry} {l : Link} (h : e.toLink = .ok l) :
  l.TouchesDevice
  := by
  obtain ⟨src, hsrc, h⟩ := bind_eq_ok_iff.mp h
  obtain ⟨dst, -, h⟩ := bind_eq_ok_iff.mp h
  obtain ⟨type, -, h⟩ := bind_eq_ok_iff.mp h
  obtain ⟨state, -, h⟩ := bind_eq_ok_iff.mp h
  obtain ⟨technology, -, h⟩ := bind_eq_ok_iff.mp h
  obtain rfl := Except.ok.inj h
  exact .inl (ConnectPoint.isDevice_of_ofText hsrc)

/-- Every link of an assembled network touches a device. -/
theorem Network.touchesDevice_of_ofSnapshot {s : Snapshot} {net : Network}
    (h : ofSnapshot s = .ok net) :
  ∀ l ∈ net.links, l.TouchesDevice
  := by
  have hentry : ∀ (e : LinkEntry) l, e.toLink = .ok l →
      l.TouchesDevice ∧ l.reversed.TouchesDevice := by
    intro e l hl
    have htouches := LinkEntry.touchesDevice_of_toLink hl
    exact ⟨htouches, htouches.reversed⟩
  have hattachment : ∀ text location, ConnectPoint.ofText text = .ok location →
      ∀ id, (attachment id location).TouchesDevice
        ∧ (attachment id location).reversed.TouchesDevice := by
    intro text location hlocation id
    have htouches : (attachment id location).TouchesDevice :=
      .inr (ConnectPoint.isDevice_of_ofText hlocation)
    exact ⟨htouches, htouches.reversed⟩
  apply forall_links_ofSnapshot hentry hattachment h

end ReliableRouting
