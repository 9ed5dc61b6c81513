import ReliableRouting.Proofs.Network.Building
import ReliableRouting.Proofs.Network.Entries

/-!
# What a snapshot describes

The entries of a snapshot can be judged one by one, against the devices that the snapshot lists:
whatever is added to a network before an entry is reached, no further device is among it. So a
network is assembled exactly if each entry can be read and names listed devices only. It then has
the devices and hosts that are listed, and for each entry in turn the links that it stands for.
Otherwise the fault is that of the first entry that is at fault, links before hosts.
-/

namespace ReliableRouting

/-! ### Entries among devices -/

/-- The element of a connect point is among some devices. -/
def ConnectPoint.IsAmong (p : ConnectPoint) (devices : List String) : Prop :=
  p.element ∈ devices.map Element.device

instance (p : ConnectPoint) (devices : List String) : Decidable (p.IsAmong devices) :=
  inferInstanceAs (Decidable (p.element ∈ _))

namespace LinkEntry

/-- An entry describes a link, and both ends of it are among the devices. -/
def Fits (devices : List String) (e : LinkEntry) : Prop :=
  ∃ l, e.Describes l ∧ l.src.IsAmong devices ∧ l.dst.IsAmong devices

/-- What is wrong with an entry among some devices: a text that names nothing, or else an end that
is not among them, the source before the destination. -/
inductive Fails (devices : List String) (e : LinkEntry) : InputFault → Prop
  | misread {fault : InputFault} (h : e.Misreads fault) : Fails devices e fault
  | src {l : Link} {id : String} (h : e.Describes l) (hid : l.src.element = .device id)
    (hsrc : ¬ l.src.IsAmong devices) :
    Fails devices e (.unknownElement id (l.src.text ++ "-" ++ l.dst.text))
  | dst {l : Link} {id : String} (h : e.Describes l) (hsrc : l.src.IsAmong devices)
    (hid : l.dst.element = .device id) (hdst : ¬ l.dst.IsAmong devices) :
    Fails devices e (.unknownElement id (l.src.text ++ "-" ++ l.dst.text))

end LinkEntry

namespace HostEntry

/-- The location of an entry is a connect point among the devices. -/
def Fits (devices : List String) (e : HostEntry) : Prop :=
  ∃ location : ConnectPoint, location.IsNamed e.location ∧ location.IsAmong devices

/-- What is wrong with an entry among some devices: a text that names no location, or else a
location that is not among them. -/
inductive Fails (devices : List String) (e : HostEntry) : InputFault → Prop
  | misread (h : ∀ p : ConnectPoint, ¬ p.IsNamed e.location) :
    Fails devices e (.invalidConnectPoint e.location)
  | location {p : ConnectPoint} {id : String} (h : p.IsNamed e.location)
    (hid : p.element = .device id) (hlocation : ¬ p.IsAmong devices) :
    Fails devices e (.unknownHostLocation e.id id)

end HostEntry

/-! ### Snapshots -/

namespace Snapshot

/-- A network has the elements that a snapshot lists, each once, and the links that its entries
stand for, in their order, those of the entries of links first. -/
structure Describes (s : Snapshot) (net : Network) : Prop where
  mem_elements_iff : ∀ x, x ∈ net.elements
    ↔ (∃ id ∈ s.devices, x = .device id) ∨ ∃ e ∈ s.hosts, x = .host e.id
  nodup_elements : net.elements.Nodup
  exists_groups : ∃ groups attachments,
    List.Forall₂ LinkEntry.StandsFor s.links groups
      ∧ List.Forall₂ HostEntry.StandsFor s.hosts attachments
      ∧ net.links = groups.flatten ++ attachments.flatten

/-- What is wrong with a snapshot: the fault of the first entry that is at fault, where the links
come before the hosts. -/
inductive Fails (s : Snapshot) : InputFault → Prop
  | link {before after : List LinkEntry} {e : LinkEntry} {fault : InputFault}
    (hlinks : s.links = before ++ e :: after) (hbefore : ∀ e' ∈ before, e'.Fits s.devices)
    (h : e.Fails s.devices fault) : Fails s fault
  | host {before after : List HostEntry} {e : HostEntry} {fault : InputFault}
    (hlinks : ∀ e ∈ s.links, e.Fits s.devices)
    (hhosts : s.hosts = before ++ e :: after) (hbefore : ∀ e' ∈ before, e'.Fits s.devices)
    (h : e.Fails s.devices fault) : Fails s fault

end Snapshot

namespace Network

variable {net net' : Network} {devices : List String} {fault : InputFault}

/-! ### One entry -/

/-- The devices among the elements are those listed. -/
def HasDevices (net : Network) (devices : List String) : Prop :=
  ∀ id, Element.device id ∈ net.elements ↔ id ∈ devices

/-- A connect point that a text names is at an element exactly if it is among the devices. -/
theorem HasDevices.mem_iff_of_isNamed (h : net.HasDevices devices) {text : String}
    {p : ConnectPoint} (hp : p.IsNamed text) :
  p.element ∈ net.elements ↔ p.IsAmong devices
  := by
  obtain ⟨id, -, hid⟩ := hp.exists_id
  rw [ConnectPoint.IsAmong, hid, h id]
  simp

theorem addLink_eq_error_iff {l : Link} :
  net.addLink l = .error fault
    ↔ l.src.element ∉ net.elements ∧ .unknownElement l.src.element.id l.text = fault
      ∨ l.src.element ∈ net.elements ∧ l.dst.element ∉ net.elements
        ∧ .unknownElement l.dst.element.id l.text = fault
  := by
  rw [addLink]
  simp only [contains_eq_true_iff]
  split_ifs with hsrc hdst
  · simp [hsrc, hdst]
  · simp [hsrc, hdst]
  · simp [hsrc]

theorem addLinkEntry_eq_ok_iff_describes (h : net.HasDevices devices) {e : LinkEntry} :
  net.addLinkEntry e = .ok net'
    ↔ ∃ l, e.Describes l ∧ l.src.IsAmong devices ∧ l.dst.IsAmong devices
      ∧ { net with links := net.links ++ e.withOpposite l } = net'
  := by
  simp only [addLinkEntry_eq_ok_iff, LinkEntry.toLink_eq_ok_iff]
  constructor
  · rintro ⟨l, hl, ⟨hsrc, hdst⟩, rfl⟩
    exact ⟨l, hl, (h.mem_iff_of_isNamed hl.src).mp hsrc, (h.mem_iff_of_isNamed hl.dst).mp hdst, rfl⟩
  · rintro ⟨l, hl, hsrc, hdst, rfl⟩
    exact ⟨l, hl, ⟨(h.mem_iff_of_isNamed hl.src).mpr hsrc, (h.mem_iff_of_isNamed hl.dst).mpr hdst⟩,
      rfl⟩

/-- An entry of a link succeeds exactly if it fits. -/
theorem exists_addLinkEntry_eq_ok_iff (h : net.HasDevices devices) (e : LinkEntry) :
  (∃ net', net.addLinkEntry e = .ok net') ↔ e.Fits devices
  := by
  simp only [addLinkEntry_eq_ok_iff_describes h]
  constructor
  · rintro ⟨-, l, hl, hsrc, hdst, -⟩
    exact ⟨l, hl, hsrc, hdst⟩
  · rintro ⟨l, hl, hsrc, hdst⟩
    exact ⟨_, l, hl, hsrc, hdst, rfl⟩

theorem addLinkEntry_eq_error_iff (h : net.HasDevices devices) {e : LinkEntry} :
  net.addLinkEntry e = .error fault ↔ e.Fails devices fault
  := by
  -- the opposite of a link joins the same elements and is not refused once the link is there
  have hopposite : ∀ l net', net.addLink l = .ok net' →
      (if e.bidirectional = true then net'.addLink l.reversed else pure net') ≠ .error fault := by
    intro l net' hadd herror
    obtain ⟨⟨hsrc, hdst⟩, rfl⟩ := addLink_eq_ok_iff.mp hadd
    split_ifs at herror
    · rw [addLink_eq_ok_iff.mpr ⟨⟨hdst, hsrc⟩, rfl⟩] at herror
      cases herror
    · cases herror
  rw [addLinkEntry, bind_eq_error_iff, LinkEntry.toLink_eq_error_iff]
  simp only [bind_eq_error_iff, LinkEntry.toLink_eq_ok_iff, addLink_eq_error_iff]
  constructor
  · rintro (hmisread | ⟨l, hl, (⟨hsrc, rfl⟩ | ⟨hsrc, hdst, rfl⟩) | ⟨net', hadd, herror⟩⟩)
    · exact .misread hmisread
    · obtain ⟨id, -, hid⟩ := hl.src.exists_id
      rw [hid]
      exact .src hl hid (mt (h.mem_iff_of_isNamed hl.src).mpr hsrc)
    · obtain ⟨id, -, hid⟩ := hl.dst.exists_id
      rw [hid]
      exact .dst hl ((h.mem_iff_of_isNamed hl.src).mp hsrc) hid
        (mt (h.mem_iff_of_isNamed hl.dst).mpr hdst)
    · apply absurd herror (hopposite l net' hadd)
  · rintro (hmisread | ⟨hl, hid, hsrc⟩ | ⟨hl, hsrc, hid, hdst⟩)
    · exact .inl hmisread
    · refine .inr ⟨_, hl, .inl (.inl ⟨mt (h.mem_iff_of_isNamed hl.src).mp hsrc, ?_⟩)⟩
      rw [hid]
      rfl
    · refine .inr ⟨_, hl, .inl (.inr ⟨(h.mem_iff_of_isNamed hl.src).mpr hsrc,
        mt (h.mem_iff_of_isNamed hl.dst).mp hdst, ?_⟩)⟩
      rw [hid]
      rfl

theorem HasDevices.addLinkEntry (h : net.HasDevices devices) {e : LinkEntry}
    (hadd : net.addLinkEntry e = .ok net') :
  net'.HasDevices devices
  := by
  obtain ⟨l, -, -, rfl⟩ := addLinkEntry_eq_ok_iff.mp hadd
  exact h

/-- An entry of a host succeeds exactly if it fits. -/
theorem exists_addHostEntry_eq_ok_iff (h : net.HasDevices devices) (e : HostEntry) :
  (∃ net', net.addHostEntry e = .ok net') ↔ e.Fits devices
  := by
  simp only [addHostEntry_eq_ok_iff, addHost_eq_ok_iff, ConnectPoint.ofText_eq_ok_iff]
  constructor
  · rintro ⟨-, location, htext, hlocation, -⟩
    exact ⟨location, htext, (h.mem_iff_of_isNamed htext).mp hlocation⟩
  · rintro ⟨location, htext, hlocation⟩
    exact ⟨_, location, htext, (h.mem_iff_of_isNamed htext).mpr hlocation, rfl⟩

theorem addHostEntry_eq_error_iff (h : net.HasDevices devices) {e : HostEntry} :
  net.addHostEntry e = .error fault ↔ e.Fails devices fault
  := by
  rw [addHostEntry, bind_eq_error_iff, ConnectPoint.ofText_eq_error_iff]
  simp only [ConnectPoint.ofText_eq_ok_iff]
  constructor
  · rintro (⟨hmisread, rfl⟩ | ⟨location, hnamed, herror⟩)
    · exact .misread hmisread
    · by_cases hlocation : location.element ∈ net.elements
      · rw [addHost_eq_ok_iff.mpr ⟨hlocation, rfl⟩] at herror
        cases herror
      · rw [addHost_eq_error hlocation] at herror
        obtain rfl := Except.error.inj herror
        obtain ⟨id, -, hid⟩ := hnamed.exists_id
        rw [hid]
        exact .location hnamed hid (mt (h.mem_iff_of_isNamed hnamed).mpr hlocation)
  · rintro (hmisread | ⟨hnamed, hid, hlocation⟩)
    · exact .inl ⟨hmisread, rfl⟩
    · refine .inr ⟨_, hnamed, ?_⟩
      rw [addHost_eq_error (mt (h.mem_iff_of_isNamed hnamed).mp hlocation), hid]
      rfl

/-- Hosts are no devices. -/
theorem HasDevices.addHostEntry (h : net.HasDevices devices) {e : HostEntry}
    (hadd : net.addHostEntry e = .ok net') :
  net'.HasDevices devices
  := by
  obtain ⟨location, -, hadd⟩ := addHostEntry_eq_ok_iff.mp hadd
  obtain ⟨-, rfl⟩ := addHost_eq_ok_iff.mp hadd
  intro id
  rw [← h id, mem_addElement_iff, or_iff_left (by simp)]

/-! ### All entries -/

theorem mem_elements_foldl_addDevice_iff {ids : List String} {x : Element} :
  x ∈ (ids.foldl addDevice net).elements ↔ x ∈ net.elements ∨ ∃ id ∈ ids, x = .device id
  := by
  induction ids generalizing net with
  | nil => simp
  | cons id ids ih =>
      rw [List.foldl_cons, ih, addDevice, mem_addElement_iff]
      simp [or_assoc]

variable (devices) in
theorem hasDevices_foldl_addDevice :
  (devices.foldl addDevice empty).HasDevices devices
  := by
  intro id
  rw [mem_elements_foldl_addDevice_iff]
  simp [empty]

theorem nodup_elements_foldl_addDevice (h : net.elements.Nodup) (ids : List String) :
  (ids.foldl addDevice net).elements.Nodup
  := by
  induction ids generalizing net with
  | nil => apply h
  | cons id ids ih => apply ih (nodup_elements_addElement h (.device id))

theorem mem_elements_foldlM_addHostEntry_iff {entries : List HostEntry} {x : Element}
    (h : entries.foldlM addHostEntry net = .ok net') :
  x ∈ net'.elements ↔ x ∈ net.elements ∨ ∃ e ∈ entries, x = .host e.id
  := by
  induction entries generalizing net with
  | nil =>
      obtain rfl := Except.ok.inj h
      simp
  | cons e entries ih =>
      rw [List.foldlM_cons] at h
      obtain ⟨net'', hadd, hrest⟩ := bind_eq_ok_iff.mp h
      obtain ⟨location, -, hadd⟩ := addHostEntry_eq_ok_iff.mp hadd
      obtain ⟨-, rfl⟩ := addHost_eq_ok_iff.mp hadd
      rw [ih hrest, mem_addElement_iff]
      simp [or_assoc]

/-! ### Snapshots -/

variable {s : Snapshot}

theorem hasDevices_of_foldlM_addLinkEntry
    (h : s.links.foldlM addLinkEntry (s.devices.foldl addDevice empty) = .ok net) :
  net.HasDevices s.devices
  := foldlM_preserves (P := fun net : Network => net.HasDevices s.devices)
    (fun _ _ _ hnet => hnet.addLinkEntry) (hasDevices_foldl_addDevice s.devices) h

/-- The links are added exactly if each of their entries fits. -/
theorem exists_foldlM_addLinkEntry_eq_ok_iff :
  (∃ net, s.links.foldlM addLinkEntry (s.devices.foldl addDevice empty) = .ok net)
    ↔ ∀ e ∈ s.links, e.Fits s.devices
  := exists_foldlM_eq_ok_iff (fun _ _ _ hnet => hnet.addLinkEntry)
    (fun _ e hnet => exists_addLinkEntry_eq_ok_iff hnet e) (hasDevices_foldl_addDevice s.devices)

/-- A snapshot describes every network that is assembled from it. -/
theorem describes_of_ofSnapshot (h : ofSnapshot s = .ok net) :
  s.Describes net
  := by
  obtain ⟨net', hlinks, hhosts⟩ := bind_eq_ok_iff.mp h
  have helements : net'.elements = (s.devices.foldl addDevice empty).elements := by
    apply foldlM_preserves (P := fun net : Network => net.elements
      = (s.devices.foldl addDevice empty).elements) _ rfl hlinks
    intro net e net' hnet hadd
    obtain ⟨l, -, -, rfl⟩ := addLinkEntry_eq_ok_iff.mp hadd
    exact hnet
  constructor
  · intro x
    rw [mem_elements_foldlM_addHostEntry_iff hhosts, helements, mem_elements_foldl_addDevice_iff]
    simp [empty]
  · apply foldlM_preserves (P := fun net : Network => net.elements.Nodup) _ _ hhosts
    · intro net e net' hnet hadd
      obtain ⟨location, -, hadd⟩ := addHostEntry_eq_ok_iff.mp hadd
      obtain ⟨-, rfl⟩ := addHost_eq_ok_iff.mp hadd
      apply nodup_elements_addElement hnet
    · rw [helements]
      apply nodup_elements_foldl_addDevice List.nodup_nil
  · obtain ⟨groups, hgroups, heq⟩ := exists_groups_of_foldlM (R := LinkEntry.StandsFor)
      Network.links (fun net e net' hadd => by
        obtain ⟨l, hl, -, rfl⟩ := addLinkEntry_eq_ok_iff.mp hadd
        exact ⟨_, ⟨l, LinkEntry.toLink_eq_ok_iff.mp hl, rfl⟩, rfl⟩) hlinks
    obtain ⟨attachments, hattachments, heq'⟩ := exists_groups_of_foldlM (R := HostEntry.StandsFor)
      Network.links (fun net e net' hadd => by
        obtain ⟨location, hlocation, hadd⟩ := addHostEntry_eq_ok_iff.mp hadd
        obtain ⟨-, rfl⟩ := addHost_eq_ok_iff.mp hadd
        exact ⟨_, ⟨location, ConnectPoint.ofText_eq_ok_iff.mp hlocation, rfl⟩, rfl⟩) hhosts
    refine ⟨groups, attachments, hgroups, hattachments, ?_⟩
    rw [heq', heq, links_foldl_addDevice]
    rfl

theorem exists_ofSnapshot_eq_ok_iff :
  (∃ net, ofSnapshot s = .ok net)
    ↔ (∀ e ∈ s.links, e.Fits s.devices) ∧ ∀ e ∈ s.hosts, e.Fits s.devices
  := by
  have hhosts : ∀ {net}, net.HasDevices s.devices →
      ((∃ net', s.hosts.foldlM addHostEntry net = .ok net')
        ↔ ∀ e ∈ s.hosts, e.Fits s.devices) :=
    exists_foldlM_eq_ok_iff (fun _ _ _ hnet => hnet.addHostEntry)
      fun _ e hnet => exists_addHostEntry_eq_ok_iff hnet e
  rw [← exists_foldlM_addLinkEntry_eq_ok_iff]
  constructor
  · rintro ⟨net, h⟩
    obtain ⟨net', hlinks, h⟩ := bind_eq_ok_iff.mp h
    exact ⟨⟨net', hlinks⟩, (hhosts (hasDevices_of_foldlM_addLinkEntry hlinks)).mp ⟨net, h⟩⟩
  · rintro ⟨⟨net', hlinks⟩, h⟩
    obtain ⟨net, hnet⟩ := (hhosts (hasDevices_of_foldlM_addLinkEntry hlinks)).mpr h
    exact ⟨net, bind_eq_ok_iff.mpr ⟨net', hlinks, hnet⟩⟩

theorem ofSnapshot_eq_error_iff :
  ofSnapshot s = .error fault ↔ s.Fails fault
  := by
  have hlinks : s.links.foldlM addLinkEntry (s.devices.foldl addDevice empty) = .error fault
      ↔ ∃ before e after, s.links = before ++ e :: after ∧ (∀ e' ∈ before, e'.Fits s.devices)
        ∧ e.Fails s.devices fault :=
    foldlM_eq_error_iff (fun _ _ _ hnet => hnet.addLinkEntry)
      (fun _ e hnet => exists_addLinkEntry_eq_ok_iff hnet e)
      (fun _ _ _ hnet => addLinkEntry_eq_error_iff hnet) (hasDevices_foldl_addDevice s.devices)
  have hhosts : ∀ {net}, net.HasDevices s.devices →
      (s.hosts.foldlM addHostEntry net = .error fault
        ↔ ∃ before e after, s.hosts = before ++ e :: after ∧ (∀ e' ∈ before, e'.Fits s.devices)
          ∧ e.Fails s.devices fault) :=
    foldlM_eq_error_iff (fun _ _ _ hnet => hnet.addHostEntry)
      (fun _ e hnet => exists_addHostEntry_eq_ok_iff hnet e)
      fun _ _ _ hnet => addHostEntry_eq_error_iff hnet
  rw [ofSnapshot, bind_eq_error_iff, hlinks]
  constructor
  · rintro (⟨before, e, after, heq, hbefore, h⟩ | ⟨net, hnet, h⟩)
    · exact .link heq hbefore h
    · obtain ⟨before, e, after, heq, hbefore, h⟩ :=
        (hhosts (hasDevices_of_foldlM_addLinkEntry hnet)).mp h
      exact .host (exists_foldlM_addLinkEntry_eq_ok_iff.mp ⟨net, hnet⟩) heq hbefore h
  · rintro (⟨heq, hbefore, h⟩ | ⟨hall, heq, hbefore, h⟩)
    · exact .inl ⟨_, _, _, heq, hbefore, h⟩
    · obtain ⟨net, hnet⟩ := exists_foldlM_addLinkEntry_eq_ok_iff.mpr hall
      exact .inr ⟨net, hnet, (hhosts (hasDevices_of_foldlM_addLinkEntry hnet)).mpr
        ⟨_, _, _, heq, hbefore, h⟩⟩

/-- A network is assembled exactly if every entry fits the devices that are listed. Then the
snapshot describes it. Otherwise the fault is that of the first entry that is at fault. -/
theorem ofSnapshot_exact (s : Snapshot) :
  ((∃ net, ofSnapshot s = .ok net)
      ↔ (∀ e ∈ s.links, e.Fits s.devices) ∧ ∀ e ∈ s.hosts, e.Fits s.devices)
    ∧ (∀ net, ofSnapshot s = .ok net → s.Describes net)
    ∧ ∀ fault, ofSnapshot s = .error fault ↔ s.Fails fault
  :=
  ⟨exists_ofSnapshot_eq_ok_iff, fun _ => describes_of_ofSnapshot, fun _ => ofSnapshot_eq_error_iff⟩

/-! ### A stray link -/

namespace Stray

/-- A link there and back, with a number as its capacity. -/
def listedEntry : LinkEntry where
  src := "hub/1"
  dst := "rim/1"
  type := some "Indirect"
  capacity := some (.number 100)
  latency := some (.text "0.5")
  bidirectional := true

/-- A link that is out of use, with a bandwidth and a capacity. -/
def idleEntry : LinkEntry where
  src := "rim/2"
  dst := "hub/+2 "
  state := some "inactive"
  technology := some "MillimeterWave"
  length := some (.number 12.5)
  capacity := some (.text "100")
  bandwidth := some (.text "fast")

/-- A link to a device that is not listed. -/
def strayEntry : LinkEntry where
  src := "hub/2"
  dst := "far/2"

/-- A snapshot with all links, and with a host at a device that is not listed either. -/
def snapshot : Snapshot where
  devices := ["hub", "rim"]
  hosts := [⟨"caller", "rim/3"⟩, ⟨"callee", "far/1"⟩]
  links := [listedEntry, idleEntry, strayEntry]

/-- The snapshot without what is not listed. -/
def remainder : Snapshot where
  devices := ["hub", "rim"]
  hosts := [⟨"caller", "rim/3"⟩]
  links := [listedEntry, idleEntry]

/-- The network of the remainder. -/
def network : Network where
  elements := [.device "hub", .device "rim", .host "caller"]
  links := [
    ⟨⟨.device "hub", 1⟩, ⟨.device "rim", 1⟩, .indirect, .active, .unspecified,
      ⟨[("bandwidth", "100"), ("latency", "0.5")]⟩⟩,
    ⟨⟨.device "rim", 1⟩, ⟨.device "hub", 1⟩, .indirect, .active, .unspecified,
      ⟨[("bandwidth", "100"), ("latency", "0.5")]⟩⟩,
    ⟨⟨.device "rim", 2⟩, ⟨.device "hub", 2⟩, .direct, .inactive, .mmWave,
      ⟨[("bandwidth", "fast"), ("length", "12.5")]⟩⟩,
    ⟨⟨.host "caller", 0⟩, ⟨.device "rim", 3⟩, .edge, .active, .unspecified, ⟨[]⟩⟩,
    ⟨⟨.device "rim", 3⟩, ⟨.host "caller", 0⟩, .edge, .active, .unspecified, ⟨[]⟩⟩]

theorem ofSnapshot_eq :
  ofSnapshot remainder = .ok network
  := by
  decide +kernel

/-- The stray link. -/
def stray : Link where
  src := ⟨.device "hub", 2⟩
  dst := ⟨.device "far", 2⟩

theorem fails_strayEntry :
  strayEntry.Fails ["hub", "rim"] (.unknownElement "far" "hub/2-far/2")
  := by
  have hdescribes : strayEntry.Describes stray := by
    apply LinkEntry.toLink_eq_ok_iff.mp
    decide +kernel
  have htext : stray.src.text ++ "-" ++ stray.dst.text = "hub/2-far/2" := by decide +kernel
  rw [← htext]
  exact .dst hdescribes (by decide) rfl (by decide)

end Stray

/-- The stray link comes before the host. Without both the network is assembled. -/
theorem ofSnapshot_exact_stray :
  ofSnapshot Stray.snapshot = .error (.unknownElement "far" "hub/2-far/2")
    ∧ ofSnapshot Stray.remainder = .ok Stray.network
    ∧ Stray.remainder.Describes Stray.network
  := by
  obtain ⟨-, -, hfails⟩ := ofSnapshot_exact Stray.snapshot
  obtain ⟨hfits, hdescribes, -⟩ := ofSnapshot_exact Stray.remainder
  obtain ⟨hbefore, -⟩ := hfits.mp ⟨_, Stray.ofSnapshot_eq⟩
  have hlinks : Stray.snapshot.links = Stray.remainder.links ++ Stray.strayEntry :: [] := rfl
  exact ⟨(hfails _).mpr (.link hlinks hbefore Stray.fails_strayEntry), Stray.ofSnapshot_eq,
    hdescribes _ Stray.ofSnapshot_eq⟩

end Network

end ReliableRouting
