import ReliableRouting.Proofs.Network.Assembly
import ReliableRouting.Proofs.Route.Reversal

/-!
# No transit through hosts

In a network that is assembled from a snapshot, the links that touch a host attach it, and those
of one host lead to the same device and back. A path that went through a host would come from
that device and return to it, which a path without loops does not.
-/

namespace ReliableRouting

/-! ### The links of a host -/

/-- A snapshot lists a host at a location. -/
def Snapshot.Attaches (s : Snapshot) (id : String) (location : ConnectPoint) : Prop :=
  ∃ e ∈ s.hosts, e.id = id ∧ ConnectPoint.ofText e.location = .ok location

namespace Snapshot

variable {s : Snapshot} {net : Network} {id : String}

theorem Attaches.isDevice {location : ConnectPoint} (h : s.Attaches id location) :
  location.element.isDevice = true
  := by
  obtain ⟨e, -, -, htext⟩ := h
  apply ConnectPoint.isDevice_of_ofText htext

/-- A host that is listed once has one location. -/
theorem Attaches.unique (hids : (s.hosts.map HostEntry.id).Nodup)
    {location location' : ConnectPoint}
    (h : s.Attaches id location) (h' : s.Attaches id location') :
  location = location'
  := by
  obtain ⟨e, he, hid, htext⟩ := h
  obtain ⟨e', he', hid', htext'⟩ := h'
  obtain rfl := List.inj_on_of_nodup_map hids he he' (hid.trans hid'.symm)
  exact Except.ok.inj (htext.symm.trans htext')

/-- A link joins devices, as those do that are listed, or attaches a host to its location, in
one direction or the other. -/
theorem Describes.cases_of_mem_links (h : s.Describes net) {l : Link} (hl : l ∈ net.links) :
  (l.src.element.isDevice = true ∧ l.dst.element.isDevice = true)
    ∨ ∃ id location, s.Attaches id location
      ∧ (l = Network.attachment id location ∨ l = (Network.attachment id location).reversed)
  := by
  obtain ⟨groups, attachments, hgroups, hattachments, hlinks⟩ := h.exists_groups
  rw [hlinks, List.mem_append, List.mem_flatten, List.mem_flatten] at hl
  rcases hl with ⟨group, hgroup, hl⟩ | ⟨group, hgroup, hl⟩
  · obtain ⟨e, -, l', hdescribes, rfl⟩ := exists_mem_of_forall₂ hgroups hgroup
    have hsrc := hdescribes.src.isDevice
    have hdst := hdescribes.dst.isDevice
    rw [LinkEntry.withOpposite] at hl
    split_ifs at hl
    · rcases List.mem_cons.mp hl with rfl | hl
      · exact .inl ⟨hsrc, hdst⟩
      · rw [List.mem_singleton.mp hl]
        exact .inl ⟨hdst, hsrc⟩
    · rw [List.mem_singleton.mp hl]
      exact .inl ⟨hsrc, hdst⟩
  · obtain ⟨e, he, location, hnamed, rfl⟩ := exists_mem_of_forall₂ hattachments hgroup
    refine .inr ⟨e.id, location, ⟨e, he, rfl, ConnectPoint.ofText_eq_ok_iff.mpr hnamed⟩, ?_⟩
    rcases List.mem_cons.mp hl with hl | hl
    · exact .inl hl
    · exact .inr (List.mem_singleton.mp hl)

/-- A link that leaves a host attaches it. -/
theorem Describes.eq_attachment (h : s.Describes net) {l : Link} (hl : l ∈ net.links)
    (hsrc : l.src.element = .host id) :
  ∃ location, s.Attaches id location ∧ l = Network.attachment id location
  := by
  rcases h.cases_of_mem_links hl with ⟨hdevice, -⟩ | ⟨id', location, hattaches, rfl | rfl⟩
  · rw [hsrc] at hdevice
    cases hdevice
  · obtain rfl := Element.host.inj hsrc
    exact ⟨location, hattaches, rfl⟩
  · have hdevice := hattaches.isDevice
    rw [show location.element = .host id from hsrc] at hdevice
    cases hdevice

/-- A link that enters a host attaches it. -/
theorem Describes.eq_attachment_reversed (h : s.Describes net) {l : Link} (hl : l ∈ net.links)
    (hdst : l.dst.element = .host id) :
  ∃ location, s.Attaches id location ∧ l = (Network.attachment id location).reversed
  := by
  rcases h.cases_of_mem_links hl with ⟨-, hdevice⟩ | ⟨id', location, hattaches, rfl | rfl⟩
  · rw [hdst] at hdevice
    cases hdevice
  · have hdevice := hattaches.isDevice
    rw [show location.element = .host id from hdst] at hdevice
    cases hdevice
  · obtain rfl := Element.host.inj hdst
    exact ⟨location, hattaches, rfl⟩

end Snapshot

/-! ### The stops in between -/

theorem IsChain.stopsOf_cons {k : Link} {links : List Link} (h : IsChain (k :: links))
    (hne : links ≠ []) :
  stopsOf (k :: links) = k.src.element :: stopsOf links
  := by
  obtain ⟨l, rest, rfl⟩ := List.exists_cons_of_ne_nil hne
  obtain ⟨hjoined, -⟩ := h
  rw [stopsOf, stopsOf, List.map_cons, hjoined]

/-- Two links after each other do not lead back to where they come from. -/
theorem IsChain.src_ne_dst {before after : List Link} {l m : Link}
    (h : IsChain (before ++ l :: m :: after))
    (hnodup : (stopsOf (before ++ l :: m :: after)).Nodup) :
  l.src.element ≠ m.dst.element
  := by
  induction before with
  | nil =>
      have hnot := (List.nodup_cons.mp hnodup).1
      rintro heq
      apply hnot
      rw [heq]
      exact List.mem_cons_of_mem _ List.mem_cons_self
  | cons k before ih =>
      rw [List.cons_append] at h hnodup
      have hne : before ++ l :: m :: after ≠ [] := by simp
      rw [h.stopsOf_cons hne, List.nodup_cons] at hnodup
      rw [isChain_iff] at h
      apply ih (isChain_iff.mpr h.tail) hnodup.2

namespace Path

variable {p : Path} {src dst : Element}

/-- Between its ends, a path stops where its links but the last lead. -/
theorem interior_eq_dst (p : Path) :
  p.stops.tail.dropLast = p.links.dropLast.map (·.dst.element)
  := by
  rw [stops, stopsOf_eq_cons p.links_ne_nil, List.tail_cons, List.map_dropLast]

/-- Between its ends, a path stops where its links but the first start. -/
theorem Leads.interior_eq_src (h : p.Leads src dst) :
  p.stops.tail.dropLast = p.links.tail.map (·.src.element)
  := by
  have hne : p.links.map (·.src.element) ≠ [] := by simp [p.links_ne_nil]
  rw [stops, h.isChain.stopsOf_eq_append p.links_ne_nil, List.tail_append_of_ne_nil hne,
    List.dropLast_concat, List.map_tail]

/-- Between its ends, a path enters a stop and leaves it, and does not return to where it comes
from. -/
theorem Leads.exists_links (h : p.Leads src dst) {x : Element}
    (hx : x ∈ p.stops.tail.dropLast) :
  ∃ l ∈ p.links, ∃ m ∈ p.links, l.dst.element = x ∧ m.src.element = x
    ∧ l.src.element ≠ m.dst.element
  := by
  rw [interior_eq_dst] at hx
  obtain ⟨l, hl, rfl⟩ := List.mem_map.mp hx
  obtain ⟨before, rest, hbefore⟩ := List.append_of_mem hl
  obtain ⟨m, after, hafter⟩ := List.exists_cons_of_ne_nil
    (show rest ++ [p.last] ≠ [] by simp)
  have hlinks : p.links = before ++ l :: m :: after := by
    rw [← hafter, ← List.cons_append, ← List.append_assoc, ← hbefore]
    apply (List.dropLast_append_getLast p.links_ne_nil).symm
  have hchain := h.isChain
  have hnodup : p.stops.Nodup := of_decide_eq_true h.isLoopFree
  rw [hlinks] at hchain
  rw [stops, hlinks] at hnodup
  have hjoined : l.dst.element = m.src.element := by
    have hrest := (isChain_iff.mp hchain).right_of_append
    exact (List.isChain_cons_cons.mp hrest).1
  refine ⟨l, ?_, m, ?_, rfl, hjoined.symm, hchain.src_ne_dst hnodup⟩
  · rw [hlinks]
    simp
  · rw [hlinks]
    simp

end Path

/-! ### Hosts -/

/-- Between its ends, a path over the links of a network stops at devices only, if each host of
the network is listed once. -/
theorem Path.Leads.isDevice_interior {s : Snapshot} {net : Network} (hnet : s.Describes net)
    (hids : (s.hosts.map HostEntry.id).Nodup) {p : Path} {src dst : Element} (h : p.Leads src dst)
    (hlinks : ∀ l ∈ p.links, l ∈ net.links) {x : Element} (hx : x ∈ p.stops.tail.dropLast) :
  x.isDevice = true
  := by
  cases x with
  | device id => rfl
  | host id =>
      obtain ⟨l, hl, m, hm, hdst, hsrc, hne⟩ := h.exists_links hx
      obtain ⟨location, hattaches, rfl⟩ := hnet.eq_attachment_reversed (hlinks l hl) hdst
      obtain ⟨location', hattaches', rfl⟩ := hnet.eq_attachment (hlinks m hm) hsrc
      obtain rfl := hattaches.unique hids hattaches'
      apply absurd rfl hne

/-! ### Two hosts at one device

Three hosts, of which two are at the same device, and a link between the devices.
-/

namespace Neighbours

/-- The link between the devices, both ways. -/
def entry : LinkEntry where
  src := "near/1"
  dst := "far/1"
  bidirectional := true

/-- The snapshot with the hosts. -/
def snapshot : Snapshot where
  devices := ["near", "far"]
  hosts := [⟨"caller", "near/2"⟩, ⟨"neighbour", "near/3"⟩, ⟨"callee", "far/2"⟩]
  links := [entry]

/-- The link between the devices. -/
def span : Link where
  src := ⟨.device "near", 1⟩
  dst := ⟨.device "far", 1⟩

/-- The link from the host that calls. -/
def caller : Link :=
  Network.attachment "caller" ⟨.device "near", 2⟩

/-- The link from the host beside it. -/
def neighbour : Link :=
  Network.attachment "neighbour" ⟨.device "near", 3⟩

/-- The link from the host that is called. -/
def callee : Link :=
  Network.attachment "callee" ⟨.device "far", 2⟩

/-- The network of the snapshot. -/
def network : Network where
  elements := [.device "near", .device "far", .host "caller", .host "neighbour", .host "callee"]
  links := [span, span.reversed, caller, caller.reversed, neighbour, neighbour.reversed, callee,
    callee.reversed]

/-- The path from one host to another. -/
def path : Path :=
  ⟨[caller, span, callee.reversed], .ofFloat 3, by decide⟩

theorem ofSnapshot_eq :
  Network.ofSnapshot snapshot = .ok network
  := by
  have hlink : entry.toLink = .ok span := by decide +kernel
  have hcaller : ConnectPoint.ofText "near/2" = .ok ⟨.device "near", 2⟩ := by decide +kernel
  have hneighbour : ConnectPoint.ofText "near/3" = .ok ⟨.device "near", 3⟩ := by decide +kernel
  have hcallee : ConnectPoint.ofText "far/2" = .ok ⟨.device "far", 2⟩ := by decide +kernel
  have hlinks : snapshot.links.foldlM Network.addLinkEntry
      (snapshot.devices.foldl Network.addDevice .empty)
      = .ok ⟨[.device "near", .device "far"], [span, span.reversed]⟩ := by
    simp only [snapshot, List.foldlM_cons, List.foldlM_nil, Network.addLinkEntry, hlink]
    decide
  have hhosts : snapshot.hosts.foldlM Network.addHostEntry
      ⟨[.device "near", .device "far"], [span, span.reversed]⟩ = .ok network := by
    simp only [snapshot, List.foldlM_cons, List.foldlM_nil, Network.addHostEntry, hcaller,
      hneighbour, hcallee]
    decide
  apply bind_eq_ok_iff.mpr ⟨_, hlinks, hhosts⟩

theorem search_eq :
  network.search .hopCount (.host "caller") (.host "callee") 1 = [path]
  := by
  have hshortest : network.shortest? .hopCount {} (.host "caller") (.host "callee")
      = some ⟨[2, 0, 7], [.host "caller", .device "near", .device "far", .host "callee"],
        .ofFloat 3⟩ := by
    decide +kernel
  rw [Network.search, Network.bestRoutes_eq_sortByCost (by decide) (by decide) hshortest,
    Pool.grow, Route.sortByCost, List.mergeSort_singleton]
  decide +kernel

end Neighbours

/-- In a network assembled from a snapshot that lists each host once, the paths that a search
returns lead through devices only: at all stops but the ends, and so all links but the first and
the last join devices. A path from a host starts with the link that attaches the host, and a path
to a host ends with one. -/
theorem Network.search_avoids_hosts {s : Snapshot} {net : Network} (hnet : ofSnapshot s = .ok net)
    (hids : (s.hosts.map HostEntry.id).Nodup) {w : Weigher} {src dst : Element} {k : ℕ} {p : Path}
    (hp : p ∈ net.search w src dst k) :
  (∀ x ∈ p.stops.tail.dropLast, x.isDevice = true)
    ∧ (∀ l ∈ p.links.tail.dropLast, l.src.element.isDevice = true ∧ l.dst.element.isDevice = true)
    ∧ (∀ id, src = .host id → ∃ location, s.Attaches id location
        ∧ p.first = attachment id location)
    ∧ ∀ id, dst = .host id → ∃ location, s.Attaches id location
        ∧ p.last = (attachment id location).reversed
  := by
  have hdescribes := describes_of_ofSnapshot hnet
  obtain ⟨hne, -, ids, halong⟩ := of_mem_search hp
  have hleads := halong.leads hne
  have hlinks : ∀ l ∈ p.links, l ∈ net.links := fun l hl => (halong.viable hne hl).1
  have hinterior : ∀ x ∈ p.stops.tail.dropLast, x.isDevice = true :=
    fun x hx => hleads.isDevice_interior hdescribes hids hlinks hx
  refine ⟨hinterior, ?_, ?_, ?_⟩
  · intro l hl
    constructor
    · apply hinterior
      rw [hleads.interior_eq_src]
      exact List.mem_map_of_mem (List.mem_of_mem_dropLast hl)
    · apply hinterior
      rw [Path.interior_eq_dst]
      apply List.mem_map_of_mem
      obtain ⟨first, rest, heq⟩ := List.exists_cons_of_ne_nil p.links_ne_nil
      rw [heq, List.tail_cons] at hl
      rw [heq, List.dropLast_cons_of_ne_nil (List.ne_nil_of_mem (List.mem_of_mem_dropLast hl))]
      apply List.mem_cons_of_mem first hl
  · rintro id rfl
    exact hdescribes.eq_attachment (hlinks p.first (List.head_mem _)) hleads.src_eq
  · rintro id rfl
    exact hdescribes.eq_attachment_reversed (hlinks p.last (List.getLast_mem _)) hleads.dst_eq

/-- The path from one host to another leads through the two devices. -/
theorem Network.search_avoids_hosts_neighbours :
  ofSnapshot Neighbours.snapshot = .ok Neighbours.network
    ∧ Neighbours.path ∈ Neighbours.network.search .hopCount (.host "caller") (.host "callee") 1
    ∧ (∀ x ∈ Neighbours.path.stops.tail.dropLast, x.isDevice = true)
    ∧ ∃ location, Neighbours.snapshot.Attaches "caller" location
        ∧ Neighbours.path.first = attachment "caller" location
  := by
  have hmem : Neighbours.path
      ∈ Neighbours.network.search .hopCount (.host "caller") (.host "callee") 1 := by
    rw [Neighbours.search_eq]
    apply List.mem_singleton_self
  obtain ⟨hinterior, -, hfirst, -⟩ :=
    search_avoids_hosts Neighbours.ofSnapshot_eq (by decide) hmem
  exact ⟨Neighbours.ofSnapshot_eq, hmem, hinterior, hfirst "caller" rfl⟩

end ReliableRouting
