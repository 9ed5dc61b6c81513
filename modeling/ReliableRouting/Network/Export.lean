import ReliableRouting.Json.Writer
import ReliableRouting.Network.Graph

/-!
# Networks in JSON

Elements are written as their bare identifiers, links as objects of all their parts.
-/

namespace ReliableRouting

/-- The name of a sort of links. -/
def LinkType.name : LinkType → String
  | .direct => "Direct"
  | .indirect => "Indirect"
  | .edge => "Edge"
  | .optical => "Optical"

/-- The name of a state. -/
def LinkState.name : LinkState → String
  | .active => "Active"
  | .inactive => "Inactive"

/-- The name of a medium. -/
def Technology.name : Technology → String
  | .mmWave => "MmWave"
  | .ethernet => "Ethernet"
  | .unspecified => "Unspecified"

/-- The identifier. -/
def Element.toJson (e : Element) : Json :=
  .text e.id

/-- The element and the port. -/
def ConnectPoint.toJson (p : ConnectPoint) : Json :=
  .object [("element", p.element.toJson), ("port", .ofNat p.port.toNat)]

/-- The texts by key. -/
def Annotations.toJson (a : Annotations) : Json :=
  .object (a.entries.map fun (key, value) => (key, .text value))

/-- All parts of a link. -/
def Link.toJson (l : Link) : Json :=
  .object [
    ("src", l.src.toJson),
    ("dst", l.dst.toJson),
    ("link_type", .text l.type.name),
    ("state", .text l.state.name),
    ("technology", .text l.technology.name),
    ("annotations", l.annotations.toJson)]

end ReliableRouting
