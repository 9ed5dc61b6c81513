import ReliableRouting.Network.Graph
import ReliableRouting.Network.Snapshot

/-!
# Assembling a network

A network is assembled from a snapshot in three passes: the devices, the links with their
opposites where the snapshot asks for them, and the hosts with their attachments. The first
fault on that way is the fault of the snapshot.
-/

namespace ReliableRouting

/-- What a reader makes of a text, or a value of its own where there is none. -/
def ofTextOr {α : Type} (ofText : String → Except InputFault α) (default : α) :
    Option String → Except InputFault α
  | none => .ok default
  | some text => ofText text

namespace LinkEntry

/-- The bandwidth of a link, or else its capacity. -/
def bandwidthOrCapacity (e : LinkEntry) : Option Quantity :=
  e.bandwidth <|> e.capacity

/-- The annotations of a link. A capacity that stands in for a bandwidth is kept as one. -/
def annotations (e : LinkEntry) : Annotations :=
  let put (key : String) (q : Option Quantity) (a : Annotations) : Annotations :=
    match q with
    | none => a
    | some q => a.set key q.toText
  put "bandwidth" e.bandwidthOrCapacity (put "latency" e.latency (put "length" e.length .empty))

/-- The link an entry describes. Its parts are read from the ends on. -/
def toLink (e : LinkEntry) : Except InputFault Link := do
  let src ← ConnectPoint.ofText e.src
  let dst ← ConnectPoint.ofText e.dst
  let type ← ofTextOr LinkType.ofText .direct e.type
  let state ← ofTextOr LinkState.ofText .active e.state
  let technology ← ofTextOr Technology.ofText .unspecified e.technology
  return { src, dst, type, state, technology, annotations := e.annotations }

end LinkEntry

namespace Network

/-- Adds the link of an entry, and its opposite if the entry is bidirectional. -/
def addLinkEntry (net : Network) (e : LinkEntry) : Except InputFault Network := do
  let link ← e.toLink
  let net ← net.addLink link
  if e.bidirectional then net.addLink link.reversed else return net

/-- Adds the host of an entry. -/
def addHostEntry (net : Network) (e : HostEntry) : Except InputFault Network := do
  let location ← ConnectPoint.ofText e.location
  net.addHost e.id location

/-- The network a snapshot describes. -/
def ofSnapshot (s : Snapshot) : Except InputFault Network := do
  let net := s.devices.foldl addDevice empty
  let net ← s.links.foldlM addLinkEntry net
  s.hosts.foldlM addHostEntry net

/-- The journal of an assembly: a link without an end, or that there are no links. -/
def assemblyJournal (s : Snapshot) : Journal :=
  match ofSnapshot s with
  | .error fault => fault.journal
  | .ok net =>
    if net.links.isEmpty then
      [⟨.info, "EmptyTopology: the snapshot contains " ++ toString net.elements.length
        ++ " vertices and no links."⟩]
    else
      []

end Network

end ReliableRouting
