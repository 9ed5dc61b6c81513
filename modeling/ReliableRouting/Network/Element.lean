import ReliableRouting.Text.Quoted

/-!
# Elements

The elements of a network are forwarding devices and the hosts attached to them. Devices
and hosts have separate name spaces.
-/

namespace ReliableRouting

/-- A device or a host. -/
inductive Element
  | device (id : String)
  | host (id : String)
deriving Repr, DecidableEq

namespace Element

/-- The bare identifier, which does not tell a device from a host. -/
def id : Element → String
  | .device id => id
  | .host id => id

/-- The element is a device. -/
def isDevice : Element → Bool
  | .device _ => true
  | .host _ => false

/-- Devices come before hosts, and each sort is in the order of its identifiers. -/
def le : Element → Element → Bool
  | .device a, .device b => a ≤ b
  | .device _, .host _ => true
  | .host _, .device _ => false
  | .host a, .host b => a ≤ b

/-- The element with its sort and its quoted identifier. -/
def described : Element → String
  | .device id => "Device(DeviceId: " ++ Text.quoted id ++ ")"
  | .host id => "Host(HostId: " ++ Text.quoted id ++ ")"

/-- Elements in ascending order. -/
def sort (elements : List Element) : List Element :=
  elements.mergeSort le

end Element

end ReliableRouting
