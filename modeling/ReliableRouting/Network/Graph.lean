import ReliableRouting.Journal
import ReliableRouting.Network.Link

/-!
# Networks

A network has elements and directed links between them, both in the order of their
addition. A link is known by its place in that order, so parallel links are told apart.
Adding a link or a host to a network that lacks an element it refers to is a fault and
changes nothing.
-/

namespace ReliableRouting

/-- The place of a link in the order of addition. -/
abbrev LinkId := Nat

/-- Elements, each once, and links in the order of their addition. -/
structure Network where
  elements : List Element
  links : List Link
deriving Repr, DecidableEq

namespace Network

/-- The network without elements. -/
def empty : Network :=
  ⟨[], []⟩

/-- The element belongs to the network. -/
def contains (net : Network) (e : Element) : Bool :=
  decide (e ∈ net.elements)

/-! ### Construction -/

/-- Adds an element unless it is there already. -/
def addElement (net : Network) (e : Element) : Network :=
  if net.contains e then net else { net with elements := net.elements ++ [e] }

/-- Adds a device. -/
def addDevice (net : Network) (id : String) : Network :=
  net.addElement (.device id)

/-- Adds a link between elements of the network. -/
def addLink (net : Network) (l : Link) : Except InputFault Network :=
  if ¬ net.contains l.src.element then
    .error (.unknownElement l.src.element.id l.text)
  else if ¬ net.contains l.dst.element then
    .error (.unknownElement l.dst.element.id l.text)
  else
    .ok { net with links := net.links ++ [l] }

/-- The connect point on the side of a host. -/
def hostPoint (id : String) : ConnectPoint :=
  ⟨.host id, 0⟩

/-- Adds a host and the two links that attach it to its location. -/
def addHost (net : Network) (id : String) (location : ConnectPoint) :
    Except InputFault Network :=
  if net.contains location.element then do
    let net := net.addElement (.host id)
    let net ← net.addLink { src := hostPoint id, dst := location, type := .edge }
    net.addLink { src := location, dst := hostPoint id, type := .edge }
  else
    .error (.unknownHostLocation id location.element.id)

/-! ### Queries -/

/-- The element of a bare identifier, a device rather than a host. -/
def element? (net : Network) (id : String) : Option Element :=
  [Element.device id, Element.host id].find? net.contains

/-- The link at a place. -/
def link? (net : Network) (i : LinkId) : Option Link :=
  net.links[i]?

/-- The links that leave an element, with their places, in the order of their addition. -/
def outgoing (net : Network) (e : Element) : List (LinkId × Link) :=
  (net.links.zipIdx.filter fun (l, _) => l.src.element = e).map fun (l, i) => (i, l)

theorem mem_outgoing_iff (net : Network) (e : Element) (i : LinkId) (l : Link) :
  (i, l) ∈ net.outgoing e ↔ net.link? i = some l ∧ l.src.element = e
  := by
  simp only [outgoing, link?, List.mem_map, List.mem_filter, decide_eq_true_eq, Prod.exists,
    List.mem_zipIdx_iff_getElem?, Prod.mk.injEq]
  constructor
  · rintro ⟨a, b, h, rfl, rfl⟩
    exact h
  · intro h
    exact ⟨l, i, h, rfl, rfl⟩

end Network

/-- A link to an element that is not there is entered as an error. -/
def InputFault.journal : InputFault → Journal
  | .unknownElement element link =>
    [⟨.error, "InvalidLinkConfiguration: endpoint " ++ element ++ " of link " ++ link
      ++ " is not part of the topology."⟩]
  | _ => []

end ReliableRouting
