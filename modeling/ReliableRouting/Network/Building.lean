import Mathlib.Data.List.AList
import ReliableRouting.Network.Graph

/-!
# Building a network in place

A network is built by adding devices, hosts and links one at a time. Links are put into a store,
which hands out a key for each, and every element has a list of the keys of the links that leave
it. An addition changes all of this in several steps, some of which can fail; what was changed
before a failure stays changed.
-/

namespace ReliableRouting

/-! ### Stores of links -/

/-- A store of links that hands out keys. Nothing is taken out of it. -/
class LinkStore (Store : Type) (Key : outParam Type) where
  empty : Store
  insert : Store → Link → Key × Store
  link? : Store → Key → Option Link
  /-- All links with their keys. -/
  entries : Store → List (Key × Link)

/-- A store that hands out new keys and keeps links in the order in which they were put in. -/
class LawfulLinkStore (Store : Type) {Key : Type} [LinkStore Store Key] : Prop where
  entries_empty : LinkStore.entries (LinkStore.empty : Store) = []
  entries_insert : ∀ (s : Store) (l : Link), LinkStore.entries (LinkStore.insert s l).2
    = LinkStore.entries s ++ [((LinkStore.insert s l).1, l)]
  key_fresh : ∀ (s : Store) (l : Link),
    (LinkStore.insert s l).1 ∉ (LinkStore.entries s).map Prod.fst
  link?_eq_some_iff : ∀ (s : Store) (k : Key) (l : Link),
    LinkStore.link? s k = some l ↔ (k, l) ∈ LinkStore.entries s

/-- Links in the order of their addition. The place of a link is its key. -/
instance : LinkStore (List Link) LinkId where
  empty := []
  insert links l := (links.length, links ++ [l])
  link? links i := links[i]?
  entries links := links.zipIdx.map Prod.swap

/-! ### Networks under construction -/

/-- A network under construction. -/
structure Builder (Store Key : Type) where
  elements : List Element
  store : Store
  /-- The keys of the links that leave an element. -/
  departures : AList fun _ : Element => List Key

/-- An action on a network under construction. -/
abbrev Build (Store Key : Type) :=
  ExceptT InputFault (StateM (Builder Store Key))

namespace Builder

variable {Store Key : Type}

/-- The element has been added. -/
def contains (b : Builder Store Key) (e : Element) : Bool :=
  decide (e ∈ b.elements)

/-- The keys of the links that leave an element. -/
def departing (b : Builder Store Key) (e : Element) : List Key :=
  (b.departures.lookup e).getD []

/-- The builder with an element, which is added unless it is there already. -/
def withElement (b : Builder Store Key) (e : Element) : Builder Store Key :=
  if b.contains e then b else { b with elements := b.elements ++ [e] }

/-- The builder with a further key for the links that leave an element. -/
def withDeparture (b : Builder Store Key) (e : Element) (k : Key) : Builder Store Key :=
  { b with departures := b.departures.insert e (b.departing e ++ [k]) }

/-- What an action returns, and the builder that it leaves. -/
def run {α : Type} (b : Builder Store Key) (x : Build Store Key α) :
    Except InputFault α × Builder Store Key :=
  StateT.run (ExceptT.run x) b

variable [LinkStore Store Key]

/-- Nothing has been added. -/
def empty : Builder Store Key :=
  ⟨[], LinkStore.empty, ∅⟩

/-- The links that leave an element, as its keys have them. -/
def outgoing (b : Builder Store Key) (e : Element) : List (Key × Link) :=
  (b.departing e).filterMap fun k => (LinkStore.link? b.store k).map fun l => (k, l)

/-- The network as built so far. -/
def network (b : Builder Store Key) : Network :=
  ⟨b.elements, (LinkStore.entries b.store).map Prod.snd⟩

end Builder

namespace Build

variable {Store Key : Type}

/-- Fails unless an element has been added. -/
def require (e : Element) (fault : InputFault) : Build Store Key Unit := do
  unless (← get).contains e do throw fault

/-- Adds an element. -/
def addElement (e : Element) : Build Store Key Unit :=
  modify fun b => b.withElement e

/-- Adds a device. -/
def addDevice (id : String) : Build Store Key Unit :=
  addElement (.device id)

variable [LinkStore Store Key]

/-- Adds a link between elements and returns its key. -/
def addLink (l : Link) : Build Store Key Key := do
  require l.src.element (.unknownElement l.src.element.id l.text)
  require l.dst.element (.unknownElement l.dst.element.id l.text)
  let b ← get
  let (k, store) := LinkStore.insert b.store l
  set { b with store }
  modify fun b => b.withDeparture l.src.element k
  return k

/-- Adds a host and the two links that attach it to its location. -/
def addHost (id : String) (location : ConnectPoint) : Build Store Key Unit := do
  require location.element (.unknownHostLocation id location.element.id)
  addElement (.host id)
  let _ ← addLink { src := Network.hostPoint id, dst := location, type := .edge }
  let _ ← addLink { src := location, dst := Network.hostPoint id, type := .edge }

end Build

/-! ### Additions -/

/-- An addition to a network. -/
inductive Addition
  | device (id : String)
  | host (id : String) (location : ConnectPoint)
  | link (l : Link)
deriving Repr, DecidableEq

/-- Performs an addition on a network, as a whole. -/
def Network.perform (net : Network) : Addition → Except InputFault Network
  | .device id => .ok (net.addDevice id)
  | .host id location => net.addHost id location
  | .link l => net.addLink l

/-- The network after additions, those that fail left out. -/
def Network.build (additions : List Addition) : Network :=
  additions.foldl (fun net a => (net.perform a).toOption.getD net) .empty

namespace Builder

variable {Store Key : Type} [LinkStore Store Key]

/-- Performs an addition in place. -/
def perform (b : Builder Store Key) : Addition → Except InputFault Unit × Builder Store Key
  | .device id => b.run (Build.addDevice id)
  | .host id location => b.run (Build.addHost id location)
  | .link l => b.run do
    let _ ← Build.addLink l
    return

/-- The builder after additions, each of which may fail. -/
def build (additions : List Addition) : Builder Store Key :=
  additions.foldl (fun b a => (b.perform a).2) empty

end Builder

end ReliableRouting
