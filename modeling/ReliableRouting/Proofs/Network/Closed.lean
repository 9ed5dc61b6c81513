import ReliableRouting.Proofs.Network.Additions

/-!
# Closed networks

The links of a network join elements of the network. That holds of the empty network and is
preserved by whatever adds to a network, and so it holds of every network assembled from a
snapshot.
-/

namespace ReliableRouting

namespace Network

/-- Both ends of every link are elements of the network. -/
def IsClosed (net : Network) : Prop :=
  ∀ l ∈ net.links, l.src.element ∈ net.elements ∧ l.dst.element ∈ net.elements

instance (net : Network) : Decidable net.IsClosed :=
  inferInstanceAs (Decidable (∀ l ∈ net.links, _))

theorem isClosed_empty :
  empty.IsClosed
  := by
  intro l hl
  cases hl

namespace IsClosed

variable {net net' : Network}

theorem addElement (h : net.IsClosed) (e : Element) :
  (net.addElement e).IsClosed
  := by
  rw [Network.addElement]
  split_ifs
  · apply h
  · intro l hl
    obtain ⟨hsrc, hdst⟩ := h l hl
    exact ⟨List.mem_append_left _ hsrc, List.mem_append_left _ hdst⟩

theorem addLink (h : net.IsClosed) {l : Link} (hadd : net.addLink l = .ok net') :
  net'.IsClosed
  := by
  obtain ⟨⟨hsrc, hdst⟩, rfl⟩ := addLink_eq_ok_iff.mp hadd
  intro l' hl'
  rcases List.mem_append.mp hl' with hl' | hl'
  · apply h l' hl'
  · rw [List.mem_singleton.mp hl']
    exact ⟨hsrc, hdst⟩

theorem addHost (h : net.IsClosed) {id : String} {location : ConnectPoint}
    (hadd : net.addHost id location = .ok net') :
  net'.IsClosed
  := by
  rw [Network.addHost] at hadd
  split_ifs at hadd
  obtain ⟨net'', hfirst, hsecond⟩ := bind_eq_ok_iff.mp hadd
  apply ((h.addElement _).addLink hfirst).addLink hsecond

theorem addLinkEntry (h : net.IsClosed) {e : LinkEntry}
    (hadd : net.addLinkEntry e = .ok net') :
  net'.IsClosed
  := by
  obtain ⟨l, -, hadd⟩ := bind_eq_ok_iff.mp hadd
  obtain ⟨net'', hfirst, hadd⟩ := bind_eq_ok_iff.mp hadd
  split_ifs at hadd
  · apply (h.addLink hfirst).addLink hadd
  · obtain rfl := Except.ok.inj hadd
    apply h.addLink hfirst

theorem addHostEntry (h : net.IsClosed) {e : HostEntry}
    (hadd : net.addHostEntry e = .ok net') :
  net'.IsClosed
  := by
  obtain ⟨location, -, hadd⟩ := bind_eq_ok_iff.mp hadd
  apply h.addHost hadd

end IsClosed

theorem isClosed_foldl_addDevice {net : Network} (h : net.IsClosed) (ids : List String) :
  (ids.foldl addDevice net).IsClosed
  := by
  induction ids generalizing net with
  | nil => apply h
  | cons id ids ih => apply ih (h.addElement (.device id))

/-- Every network that is assembled from a snapshot is closed. -/
theorem isClosed_ofSnapshot {s : Snapshot} {net : Network} (h : ofSnapshot s = .ok net) :
  net.IsClosed
  := by
  obtain ⟨net', hlinks, hhosts⟩ := bind_eq_ok_iff.mp h
  apply foldlM_preserves (fun _ _ _ hnet => hnet.addHostEntry) _ hhosts
  apply foldlM_preserves (fun _ _ _ hnet => hnet.addLinkEntry) _ hlinks
  apply isClosed_foldl_addDevice isClosed_empty

end Network

end ReliableRouting
