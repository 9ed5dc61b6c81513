import ReliableRouting.Network.Building
import ReliableRouting.Proofs.Network.Closed

/-!
# Networks built in place

An addition in place either fails before it changes anything or does all that it does to a
network as a whole. So what is built by additions of which some fail is the network built by the
others. Every link joins elements of it and is listed once, under the element where it starts,
and the list of an element keeps the order of addition. Every host is attached in both
directions.
-/

namespace ReliableRouting

open LinkStore LawfulLinkStore

/-! ### Additions to a network as a whole -/

namespace Network

variable {net net' : Network}

/-- Every host has a location to which it is attached in both directions. -/
def AttachesHosts (net : Network) : Prop :=
  ∀ id, Element.host id ∈ net.elements → ∃ location,
    attachment id location ∈ net.links ∧ (attachment id location).reversed ∈ net.links

/-- Each element is there once, links join elements, and hosts are attached. -/
structure IsSound (net : Network) : Prop where
  nodup_elements : net.elements.Nodup
  isClosed : net.IsClosed
  attachesHosts : net.AttachesHosts

theorem attachesHosts_empty :
  empty.AttachesHosts
  := by
  intro id hid
  cases hid

theorem addHost_eq_error {id : String} {location : ConnectPoint}
    (h : location.element ∉ net.elements) :
  net.addHost id location = .error (.unknownHostLocation id location.element.id)
  := if_neg (mt contains_eq_true_iff.mp h)

theorem nodup_elements_addElement (h : net.elements.Nodup) (e : Element) :
  (net.addElement e).elements.Nodup
  := by
  rw [addElement]
  split_ifs with hmem
  · apply h
  · apply List.concat_eq_append ▸ h.concat (mt contains_eq_true_iff.mpr hmem)

/-! ### What additions preserve -/

theorem IsClosed.perform (h : net.IsClosed) {a : Addition} (ha : net.perform a = .ok net') :
  net'.IsClosed
  := by
  cases a with
  | device id =>
      obtain rfl := Except.ok.inj ha
      apply h.addElement
  | host id location => apply h.addHost ha
  | link l => apply h.addLink ha

theorem nodup_elements_perform (h : net.elements.Nodup) {a : Addition}
    (ha : net.perform a = .ok net') :
  net'.elements.Nodup
  := by
  cases a with
  | device id =>
      obtain rfl := Except.ok.inj ha
      apply nodup_elements_addElement h
  | host id location =>
      obtain ⟨-, rfl⟩ := addHost_eq_ok_iff.mp ha
      apply nodup_elements_addElement h
  | link l =>
      obtain ⟨-, rfl⟩ := addLink_eq_ok_iff.mp ha
      apply h

/-- Hosts that were there stay attached. One that is new is attached by its addition. -/
theorem AttachesHosts.perform (h : net.AttachesHosts) {a : Addition}
    (ha : net.perform a = .ok net') :
  net'.AttachesHosts
  := by
  cases a with
  | device id =>
      obtain rfl := Except.ok.inj ha
      intro host hhost
      rw [addDevice, links_addElement]
      rcases mem_addElement_iff.mp hhost with hhost | hhost
      · apply h host hhost
      · cases hhost
  | host id location =>
      obtain ⟨-, rfl⟩ := addHost_eq_ok_iff.mp ha
      intro host hhost
      rcases mem_addElement_iff.mp hhost with hhost | hhost
      · obtain ⟨location', hthere, hback⟩ := h host hhost
        exact ⟨location', List.mem_append_left _ hthere, List.mem_append_left _ hback⟩
      · obtain rfl := Element.host.inj hhost
        exact ⟨location, by simp, by simp⟩
  | link l =>
      obtain ⟨-, rfl⟩ := addLink_eq_ok_iff.mp ha
      intro host hhost
      obtain ⟨location, hthere, hback⟩ := h host hhost
      exact ⟨location, List.mem_append_left _ hthere, List.mem_append_left _ hback⟩

namespace IsSound

theorem empty :
  Network.empty.IsSound
  := ⟨List.nodup_nil, isClosed_empty, attachesHosts_empty⟩

theorem perform (h : net.IsSound) {a : Addition} (ha : net.perform a = .ok net') :
  net'.IsSound
  := ⟨nodup_elements_perform h.nodup_elements ha, h.isClosed.perform ha,
    h.attachesHosts.perform ha⟩

/-- Additions preserve soundness, whichever of them fail. -/
theorem build (additions : List Addition) :
  (Network.build additions).IsSound
  := by
  apply List.foldlRecOn additions _ empty
  intro net h a _
  cases ha : net.perform a with
  | error fault => apply h
  | ok net' => apply h.perform ha

end IsSound

end Network

namespace Builder

variable {Store Key : Type} {b : Builder Store Key}

theorem contains_eq_true_iff {e : Element} :
  b.contains e = true ↔ e ∈ b.elements
  := decide_eq_true_iff

/-! ### Changes -/

theorem mem_withElement_iff {e e' : Element} :
  e' ∈ (b.withElement e).elements ↔ e' ∈ b.elements ∨ e' = e
  := by
  rw [withElement]
  split_ifs with h
  · apply (or_iff_left_of_imp _).symm
    rintro rfl
    apply contains_eq_true_iff.mp h
  · rw [List.mem_append, List.mem_singleton]

theorem store_withElement (e : Element) :
  (b.withElement e).store = b.store
  := by
  rw [withElement]
  split_ifs
  · rfl
  · rfl

theorem departing_withElement (e e' : Element) :
  (b.withElement e).departing e' = b.departing e'
  := by
  rw [withElement]
  split_ifs
  · rfl
  · rfl

theorem departing_withDeparture_self (e : Element) (k : Key) :
  (b.withDeparture e k).departing e = b.departing e ++ [k]
  := by
  rw [departing, withDeparture, AList.lookup_insert, Option.getD_some]

theorem departing_withDeparture_of_ne {e e' : Element} (hne : e' ≠ e) (k : Key) :
  (b.withDeparture e k).departing e' = b.departing e'
  := by
  rw [departing, withDeparture, AList.lookup_insert_ne hne, departing]

/-! ### Actions -/

section Actions

variable {α β : Type}

theorem run_bind (x : Build Store Key α) (f : α → Build Store Key β) :
  b.run (x >>= f) = match b.run x with
    | (.ok a, b') => b'.run (f a)
    | (.error fault, b') => (.error fault, b')
  := by
  simp only [run, ExceptT.run_bind, StateT.run_bind]
  rcases StateT.run (ExceptT.run x) b with ⟨_ | a, b'⟩
  · rfl
  · rfl

theorem run_require (e : Element) (fault : InputFault) :
  b.run (Build.require e fault) = (if e ∈ b.elements then .ok () else .error fault, b)
  := by
  change b.run (if b.contains e then pure () else throw fault) = _
  simp only [contains_eq_true_iff]
  split_ifs
  · rfl
  · rfl

end Actions

variable [LinkStore Store Key]

theorem elements_network :
  b.network.elements = b.elements
  := rfl

/-- The builder with a link, which is listed under its source. -/
def withLink (b : Builder Store Key) (l : Link) : Builder Store Key :=
  { b with store := (insert b.store l).2 }.withDeparture l.src.element (insert b.store l).1

/-- The builder with all that an addition adds. -/
def grown (b : Builder Store Key) : Addition → Builder Store Key
  | .device id => b.withElement (.device id)
  | .host id location =>
    ((b.withElement (.host id)).withLink (Network.attachment id location)).withLink
      (Network.attachment id location).reversed
  | .link l => b.withLink l

/-- A link is added if both ends are there. Before that is known, nothing is changed. -/
theorem run_addLink (l : Link) :
  b.run (Build.addLink l)
    = if l.src.element ∉ b.elements then
        (.error (.unknownElement l.src.element.id l.text), b)
      else if l.dst.element ∉ b.elements then
        (.error (.unknownElement l.dst.element.id l.text), b)
      else
        (.ok (insert b.store l).1, b.withLink l)
  := by
  rw [Build.addLink, run_bind, run_require]
  by_cases hsrc : l.src.element ∈ b.elements
  · rw [if_pos hsrc, if_neg (not_not_intro hsrc)]
    dsimp only
    rw [run_bind, run_require]
    by_cases hdst : l.dst.element ∈ b.elements
    · rw [if_pos hdst, if_neg (not_not_intro hdst)]
      rfl
    · rw [if_neg hdst, if_pos hdst]
  · rw [if_neg hsrc, if_pos hsrc]

theorem run_addLink_of_mem {l : Link} (hsrc : l.src.element ∈ b.elements)
    (hdst : l.dst.element ∈ b.elements) :
  b.run (Build.addLink l) = (.ok (insert b.store l).1, b.withLink l)
  := by
  rw [run_addLink, if_neg (not_not_intro hsrc), if_neg (not_not_intro hdst)]

/-- A host is added, and then the links both ways, if its location is there. -/
theorem run_addHost (id : String) (location : ConnectPoint) :
  b.run (Build.addHost id location)
    = if location.element ∈ b.elements then
        (.ok (), b.grown (.host id location))
      else
        (.error (.unknownHostLocation id location.element.id), b)
  := by
  rw [Build.addHost, run_bind, run_require]
  by_cases hlocation : location.element ∈ b.elements
  · rw [if_pos hlocation, if_pos hlocation]
    -- the first link leaves the elements as they are, and so the second cannot fail either
    have hdevice : location.element ∈ (b.withElement (.host id)).elements :=
      mem_withElement_iff.mpr (.inl hlocation)
    have hhost : Element.host id ∈ (b.withElement (.host id)).elements :=
      mem_withElement_iff.mpr (.inr rfl)
    change (b.withElement (.host id)).run (Build.addLink (Network.attachment id location)
      >>= fun _ => Build.addLink (Network.attachment id location).reversed >>= fun _ => pure ()) = _
    rw [run_bind, run_addLink_of_mem hhost hdevice]
    dsimp only
    rw [run_bind, run_addLink_of_mem hdevice hhost]
    rfl
  · rw [if_neg hlocation, if_neg hlocation]

/-! ### Additions in place -/

/-- An addition in place fails as it does on the network as a whole, and then changes nothing.
Otherwise it adds all that it adds. -/
theorem perform_eq (b : Builder Store Key) (a : Addition) :
  b.perform a = match b.network.perform a with
    | .error fault => (.error fault, b)
    | .ok _ => (.ok (), b.grown a)
  := by
  cases a with
  | device id => rfl
  | host id location =>
      rw [perform, run_addHost, Network.perform]
      by_cases hlocation : location.element ∈ b.elements
      · rw [if_pos hlocation, Network.addHost_eq_ok_iff.mpr ⟨hlocation, rfl⟩]
      · rw [if_neg hlocation, Network.addHost_eq_error hlocation]
  | link l =>
      rw [perform, run_bind, run_addLink, Network.perform, Network.addLink]
      simp only [Network.contains_eq_true_iff, elements_network]
      split_ifs
      · rfl
      · rfl
      · rfl

theorem eq_of_perform_eq_error {a : Addition} {fault : InputFault}
    (h : (b.perform a).1 = .error fault) :
  (b.perform a).2 = b
  := by
  rw [perform_eq] at h ⊢
  cases hnet : b.network.perform a with
  | error fault' => rfl
  | ok net =>
      rw [hnet] at h
      cases h

theorem perform_host_of_mem {id : String} {location : ConnectPoint}
    (h : location.element ∈ b.elements) :
  b.perform (.host id location) = (.ok (), b.grown (.host id location))
  := by
  rw [perform, run_addHost, if_pos h]

theorem perform_host_of_not_mem {id : String} {location : ConnectPoint}
    (h : location.element ∉ b.elements) :
  b.perform (.host id location)
    = (.error (.unknownHostLocation id location.element.id), b)
  := by
  rw [perform, run_addHost, if_neg h]

theorem network_withElement (e : Element) :
  (b.withElement e).network = b.network.addElement e
  := by
  rw [withElement, Network.addElement]
  simp only [contains_eq_true_iff, Network.contains_eq_true_iff, elements_network]
  split_ifs
  · rfl
  · rfl

/-! ### Lists of departures -/

/-- Every link is listed under its source, in the order of addition, by a key of its own. -/
structure IsIndexed (b : Builder Store Key) : Prop where
  nodup_keys : ((entries b.store).map Prod.fst).Nodup
  departing_eq : ∀ e, b.departing e
    = ((entries b.store).filter fun (_, l) => l.src.element = e).map Prod.fst

namespace IsIndexed

theorem withElement (h : b.IsIndexed) (e : Element) :
  (b.withElement e).IsIndexed
  := by
  constructor
  · rw [store_withElement]
    apply h.nodup_keys
  · intro e'
    rw [store_withElement, departing_withElement]
    apply h.departing_eq

theorem mem_departing_iff (h : b.IsIndexed) {e : Element} {k : Key} :
  k ∈ b.departing e ↔ ∃ l, (k, l) ∈ entries b.store ∧ l.src.element = e
  := by
  rw [h.departing_eq]
  simp

theorem nodup_departing (h : b.IsIndexed) (e : Element) :
  (b.departing e).Nodup
  := by
  rw [h.departing_eq]
  apply h.nodup_keys.sublist (List.filter_sublist.map _)

/-- The key of a link is listed under the element where the link starts, and nowhere else. -/
theorem existsUnique_departing (h : b.IsIndexed) {k : Key} {l : Link}
    (hentry : (k, l) ∈ entries b.store) :
  ∃! e, k ∈ b.departing e
  := by
  refine ⟨l.src.element, h.mem_departing_iff.mpr ⟨l, hentry, rfl⟩, ?_⟩
  intro e he
  obtain ⟨l', hentry', rfl⟩ := h.mem_departing_iff.mp he
  have hsame : (k, l') = (k, l) := List.inj_on_of_nodup_map h.nodup_keys hentry' hentry rfl
  rw [(Prod.mk.inj hsame).2]

end IsIndexed

/-! ### Runs over lawful stores -/

variable [LawfulLinkStore Store]

theorem network_withLink (l : Link) :
  (b.withLink l).network = { b.network with links := b.network.links ++ [l] }
  := by
  simp [network, withLink, withDeparture, entries_insert]

/-- What is added in place is what is added to the network as a whole. -/
theorem network_grown {a : Addition} {net : Network} (h : b.network.perform a = .ok net) :
  (b.grown a).network = net
  := by
  cases a with
  | device id => exact (network_withElement _).trans (Except.ok.inj h)
  | host id location =>
      obtain ⟨-, rfl⟩ := Network.addHost_eq_ok_iff.mp h
      rw [grown, network_withLink, network_withLink, network_withElement,
        Network.links_addElement, List.append_assoc]
      rfl
  | link l =>
      obtain ⟨-, rfl⟩ := Network.addLink_eq_ok_iff.mp h
      apply network_withLink

theorem network_perform (b : Builder Store Key) (a : Addition) :
  (b.perform a).2.network = (b.network.perform a).toOption.getD b.network
  := by
  rw [perform_eq]
  cases h : b.network.perform a with
  | error fault => rfl
  | ok net => exact network_grown h

/-- What is built in place is the network that is built of the additions that do not fail. -/
theorem network_build (additions : List Addition) :
  (build additions : Builder Store Key).network = Network.build additions
  := by
  have hempty : (empty : Builder Store Key).network = .empty := by
    rw [network, empty, entries_empty]
    rfl
  rw [build, Network.build, ← hempty]
  generalize (empty : Builder Store Key) = b
  induction additions generalizing b with
  | nil => rfl
  | cons a additions ih => rw [List.foldl_cons, List.foldl_cons, ih, network_perform]

namespace IsIndexed

theorem empty :
  (Builder.empty : Builder Store Key).IsIndexed
  := by
  constructor
  · rw [Builder.empty, entries_empty]
    apply List.nodup_nil
  · intro e
    rw [Builder.empty, entries_empty, departing, AList.lookup_empty]
    rfl

/-- The key of a new link goes to the end of a single list. -/
theorem withLink (h : b.IsIndexed) (l : Link) :
  (b.withLink l).IsIndexed
  := by
  constructor
  · change ((entries (insert b.store l).2).map Prod.fst).Nodup
    rw [entries_insert, List.map_append, List.map_singleton]
    apply List.concat_eq_append ▸ h.nodup_keys.concat (key_fresh b.store l)
  · intro e
    change _ = ((entries (insert b.store l).2).filter _).map _
    rw [entries_insert, List.filter_append, List.map_append, ← h.departing_eq]
    by_cases he : e = l.src.element
    · rw [he, Builder.withLink, departing_withDeparture_self]
      simp
      rfl
    · rw [Builder.withLink, departing_withDeparture_of_ne he]
      simp [Ne.symm he]
      rfl

theorem perform (h : b.IsIndexed) (a : Addition) :
  (b.perform a).2.IsIndexed
  := by
  rw [perform_eq]
  cases b.network.perform a with
  | error fault => apply h
  | ok net =>
      cases a with
      | device id => apply h.withElement
      | host id location => apply ((h.withElement _).withLink _).withLink
      | link l => apply h.withLink

theorem build (additions : List Addition) :
  (Builder.build additions : Builder Store Key).IsIndexed
  := by
  apply List.foldlRecOn additions _ empty
  intro b h a _
  apply h.perform

/-- The links that leave an element are read in the order of addition. -/
theorem outgoing_eq (h : b.IsIndexed) (e : Element) :
  b.outgoing e = (entries b.store).filter fun (_, l) => l.src.element = e
  := by
  rw [outgoing, h.departing_eq, List.filterMap_map]
  calc
    _ = ((entries b.store).filter fun (_, l) => l.src.element = e).filterMap some := by
      apply List.filterMap_congr
      rintro ⟨k, l⟩ hentry
      have hl : link? b.store k = some l :=
        (link?_eq_some_iff _ _ _).mpr (List.mem_of_mem_filter hentry)
      rw [Function.comp_apply, hl, Option.map_some]
    _ = (entries b.store).filter fun (_, l) => l.src.element = e := List.filterMap_some

end IsIndexed

/-! ### Places as keys -/

instance : LawfulLinkStore (List Link) where
  entries_empty := rfl
  entries_insert := by
    intro links l
    change (links ++ [l]).zipIdx.map Prod.swap = links.zipIdx.map Prod.swap ++ [(links.length, l)]
    rw [List.zipIdx_append, List.map_append, Nat.zero_add]
    rfl
  key_fresh := by
    intro links l
    change links.length ∉ (links.zipIdx.map Prod.swap).map Prod.fst
    rw [List.map_map]
    change links.length ∉ links.zipIdx.map Prod.snd
    simp [List.zipIdx_map_snd]
  link?_eq_some_iff := by
    intro links i l
    change links[i]? = some l ↔ (i, l) ∈ links.zipIdx.map Prod.swap
    simp [List.mem_zipIdx_iff_getElem?]

/-- Where places are keys, the links that leave an element in the network are the entries of the
store that start there. -/
theorem outgoing_network (b : Builder (List Link) LinkId) (e : Element) :
  b.network.outgoing e = (entries b.store).filter fun (_, l) => l.src.element = e
  := by
  have hlinks : b.network.links = b.store := by
    change (b.store.zipIdx.map Prod.swap).map Prod.snd = b.store
    rw [List.map_map]
    apply List.zipIdx_map_fst
  rw [Network.outgoing, hlinks]
  change _ = (b.store.zipIdx.map Prod.swap).filter _
  rw [List.filter_map]
  rfl

/-- A device with a link to itself and a host. -/
def Loop.additions : List Addition :=
  [.device "hub", .host "caller" ⟨.device "hub", 1⟩, .host "callee" ⟨.device "far", 1⟩,
    .link { src := ⟨.device "hub", 2⟩, dst := ⟨.device "hub", 3⟩ }]

/-! ### Everything that is built -/

/-- What a network under construction can be relied on for. -/
structure IsSound (b : Builder Store Key) : Prop where
  network : b.network.IsSound
  /-- The links that leave an element are read in the order of addition. -/
  outgoing_eq : ∀ e, b.outgoing e = (entries b.store).filter fun (_, l) => l.src.element = e
  /-- A link is listed under one element, and once. -/
  existsUnique_departing : ∀ k l, (k, l) ∈ entries b.store → ∃! e, k ∈ b.departing e
  nodup_departing : ∀ e, (b.departing e).Nodup
  /-- An addition that fails changes nothing. -/
  eq_of_perform_eq_error : ∀ a fault, (b.perform a).1 = .error fault → (b.perform a).2 = b
  /-- A host is refused exactly where its location is missing. -/
  perform_host_eq_error_iff : ∀ id location,
    (∃ fault, (b.perform (.host id location)).1 = .error fault) ↔ location.element ∉ b.elements
  /-- A host that is not refused is attached by two links. -/
  links_perform_host : ∀ id location, location.element ∈ b.elements →
    (b.perform (.host id location)).2.network.links
      = b.network.links
        ++ [Network.attachment id location, (Network.attachment id location).reversed]

/-- Whatever devices, hosts and links are added in whatever order, and whichever of the additions
fail, the network under construction is sound, and is the one that is built of the additions
that do not fail. -/
theorem build_correct (Store : Type) {Key : Type} [LinkStore Store Key] [LawfulLinkStore Store]
    (additions : List Addition) :
  (build additions : Builder Store Key).IsSound
    ∧ (build additions : Builder Store Key).network = Network.build additions
  := by
  have hindexed : (build additions : Builder Store Key).IsIndexed := .build additions
  have hnetwork : (build additions : Builder Store Key).network = Network.build additions :=
    network_build additions
  refine ⟨?_, hnetwork⟩
  constructor
  · rw [hnetwork]
    apply Network.IsSound.build
  · apply hindexed.outgoing_eq
  · intro k l
    apply hindexed.existsUnique_departing
  · apply hindexed.nodup_departing
  · intro a fault
    apply eq_of_perform_eq_error
  · intro id location
    by_cases hlocation : location.element ∈ (build additions : Builder Store Key).elements
    · simp [perform_host_of_mem hlocation, hlocation]
    · simp [perform_host_of_not_mem hlocation, hlocation]
  · intro id location hlocation
    rw [network_perform, Network.perform, Network.addHost_eq_ok_iff.mpr ⟨hlocation, rfl⟩]
    rfl

/-- The host at a device that is missing is refused. The links that leave the other device are
that to its host and that to itself. -/
theorem build_correct_loop :
  (build Loop.additions : Builder (List Link) LinkId).IsSound
    ∧ (build Loop.additions : Builder (List Link) LinkId).elements
      = [.device "hub", .host "caller"]
    ∧ ((build Loop.additions : Builder (List Link) LinkId).outgoing (.device "hub")).map Prod.fst
      = [1, 2]
  := by
  obtain ⟨hsound, hnetwork⟩ := build_correct (List Link) Loop.additions
  refine ⟨hsound, ?_, ?_⟩
  · rw [← elements_network, hnetwork]
    decide
  · rw [hsound.outgoing_eq, ← outgoing_network, hnetwork]
    decide

end Builder

end ReliableRouting
