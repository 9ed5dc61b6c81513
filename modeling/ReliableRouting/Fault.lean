/-!
# Faults of the input

What can be wrong with a snapshot of a network or with a request, apart from the text being
no JSON of the right shape. Each fault is a cause; its wording is given in one place.
-/

namespace ReliableRouting

/-- A fault of a snapshot or of a request. -/
inductive InputFault
  | invalidConnectPoint (text : String)
  | unknownLinkType (text : String)
  | unknownLinkState (text : String)
  | unknownTechnology (text : String)
  | unknownPropagationModel (text : String)
  /-- An end of a link is at no element of the network. -/
  | unknownElement (element link : String)
  | unknownHostLocation (host device : String)
  | fieldOutOfRange (field value : String)
deriving Repr, DecidableEq

/-- The wording of a fault. -/
def InputFault.message : InputFault → String
  | .invalidConnectPoint text =>
    "Invalid connect point '" ++ text ++ "', expected '<element>/<port>'"
  | .unknownLinkType text => "Unknown link type '" ++ text ++ "'"
  | .unknownLinkState text => "Unknown link state '" ++ text ++ "'"
  | .unknownTechnology text => "Unknown link technology '" ++ text ++ "'"
  | .unknownPropagationModel text =>
    "Unknown propagation model '" ++ text ++ "', expected one of '28', '73', '3gpp'"
  | .unknownElement element _ => "Link endpoint references unknown element '" ++ element ++ "'"
  | .unknownHostLocation host device =>
    "Host '" ++ host ++ "' is attached to unknown device '" ++ device ++ "'"
  | .fieldOutOfRange field value =>
    "Request field '" ++ field ++ "' is out of range: " ++ value

end ReliableRouting
