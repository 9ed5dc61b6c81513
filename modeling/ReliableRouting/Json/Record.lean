import ReliableRouting.Json.Value

/-!
# Records in JSON

A record has declared fields. It is written by name, as an object, or by position, as an
array of its fields in the order of their declaration. By name, fields may come in any
order and undeclared ones are passed over, but a declared one stands at most once. By
position, fields may only be missing at the end.
-/

namespace ReliableRouting.Json

/-- What a record says of a declared field. -/
inductive Slot
  | given (v : Json)
  /-- The record is written by name and does not mention the field. -/
  | omitted
  /-- The record is written by position and ends before the field. -/
  | cutOff

/-- The values of a field's name among the fields of an object. -/
def valuesOf (fields : List (String × Json)) (name : String) : List Json :=
  (fields.filter fun field => field.1 == name).map Prod.snd

/-- What an object says of a field, unless it says it twice. -/
def namedSlot? (fields : List (String × Json)) (name : String) : Option Slot :=
  match valuesOf fields name with
  | [] => some .omitted
  | [v] => some (.given v)
  | _ => none

/-- What a value says of each of the declared fields. -/
def slots? (names : List String) : Json → Option (List Slot)
  | .object fields => names.mapM (namedSlot? fields)
  | .array items =>
    if items.length ≤ names.length then
      some (items.map Slot.given ++ List.replicate (names.length - items.length) .cutOff)
    else
      none
  | _ => none

namespace Slot

variable {α : Type}

/-- A field that has to be given. -/
def required? (read? : Json → Option α) : Slot → Option α
  | .given v => read? v
  | _ => none

/-- A field that may be null, and be omitted. -/
def optional? (read? : Json → Option α) : Slot → Option (Option α)
  | .given .null => some none
  | .given v => (read? v).map some
  | .omitted => some none
  | .cutOff => none

/-- A field that has a value of its own where it is not given. -/
def defaulted? (read? : Json → Option α) (default : α) : Slot → Option α
  | .given v => read? v
  | _ => some default

end Slot

end ReliableRouting.Json
