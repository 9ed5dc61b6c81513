import ReliableRouting.Decimal.Layout
import ReliableRouting.Json.Reader
import ReliableRouting.Json.Record

/-!
# Snapshots

A snapshot describes a network as it was at some time: device identifiers, hosts with the
connect points they are attached to, and links. Everything in it is still text; what the
text means is decided when the network is assembled.
-/

namespace ReliableRouting

/-- A quantity given as a number or as a text. -/
inductive Quantity
  | number (x : Float)
  | text (s : String)

/-- The text of a quantity. -/
def Quantity.toText : Quantity → String
  | .number x => Decimal.plain x
  | .text s => s

/-- A link of a snapshot. -/
structure LinkEntry where
  src : String
  dst : String
  type : Option String := none
  state : Option String := none
  technology : Option String := none
  length : Option Quantity := none
  capacity : Option Quantity := none
  bandwidth : Option Quantity := none
  latency : Option Quantity := none
  /-- The link in the opposite direction is there too. -/
  bidirectional : Bool := false

/-- A host of a snapshot, with the connect point of a device. -/
structure HostEntry where
  id : String
  location : String

/-- A description of a network. -/
structure Snapshot where
  devices : List String := []
  hosts : List HostEntry := []
  links : List LinkEntry := []

/-! ### Reading -/

/-- Reads a quantity. -/
def Quantity.ofJson? : Json → Option Quantity
  | .text s => some (.text s)
  | v => v.float?.map .number

/-- Reads a link. -/
def LinkEntry.ofJson? (v : Json) : Option LinkEntry := do
  let slots ← v.slots? ["src", "dst", "type", "state", "technology", "length", "capacity",
    "bandwidth", "latency", "bidirectional"]
  match slots with
  | [src, dst, type, state, technology, length, capacity, bandwidth, latency, bidirectional] =>
    return {
      src := ← src.required? Json.text?
      dst := ← dst.required? Json.text?
      type := ← type.optional? Json.text?
      state := ← state.optional? Json.text?
      technology := ← technology.optional? Json.text?
      length := ← length.optional? Quantity.ofJson?
      capacity := ← capacity.optional? Quantity.ofJson?
      bandwidth := ← bandwidth.optional? Quantity.ofJson?
      latency := ← latency.optional? Quantity.ofJson?
      bidirectional := ← bidirectional.defaulted? Json.bool? false }
  | _ => none

/-- Reads a host. -/
def HostEntry.ofJson? (v : Json) : Option HostEntry := do
  match ← v.slots? ["id", "location"] with
  | [id, location] =>
    return { id := ← id.required? Json.text?, location := ← location.required? Json.text? }
  | _ => none

/-- Reads a snapshot. -/
def Snapshot.ofJson? (v : Json) : Option Snapshot := do
  match ← v.slots? ["devices", "hosts", "links"] with
  | [devices, hosts, links] =>
    return {
      devices := ← devices.defaulted? (Json.items? Json.text?) []
      hosts := ← hosts.defaulted? (Json.items? HostEntry.ofJson?) []
      links := ← links.defaulted? (Json.items? LinkEntry.ofJson?) [] }
  | _ => none

/-- Reads the JSON text of a snapshot. -/
def Snapshot.read? (text : String) : Option Snapshot :=
  (Json.read? text).bind Snapshot.ofJson?

end ReliableRouting
