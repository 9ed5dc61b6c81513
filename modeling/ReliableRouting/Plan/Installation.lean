import ReliableRouting.Policy.Constraint

/-!
# Handing a path over for installation

What has to be known to install one direction of a path: the elements it joins, the device
ports where it enters and leaves the network, and its core links.
-/

namespace ReliableRouting

/-- The data for the installation of a path. -/
structure Installation where
  one : Element
  two : Element
  ingress : ConnectPoint
  egress : ConnectPoint
  links : List Link
deriving DecidableEq

/-- The end of a link at a device, its source rather than its destination. -/
def Link.devicePort (l : Link) : Except RoutingFault ConnectPoint :=
  if l.src.element.isDevice then .ok l.src
  else if l.dst.element.isDevice then .ok l.dst
  else .error (.noDevice l.text)

/-- The data for a path. The first link and the last one have to touch devices. -/
def Path.installation (p : Path) : Except RoutingFault Installation := do
  let ingress ← p.first.devicePort
  let egress ← p.last.devicePort
  return ⟨p.src.element, p.dst.element, ingress, egress, p.coreLinks⟩

end ReliableRouting
