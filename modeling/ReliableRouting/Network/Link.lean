import ReliableRouting.Network.Annotations
import ReliableRouting.Network.ConnectPoint

/-!
# Links

A link leads from one connect point to another. Its annotations hold its physical length in
metres, its latency in milliseconds and its bandwidth in megabits a second; the latter two
have an older key each that counts where the newer one is absent.
-/

namespace ReliableRouting

/-- The sort of a link. An `edge` link joins a host to the device it is attached to. -/
inductive LinkType
  | direct
  | indirect
  | edge
  | optical
deriving Repr, DecidableEq

/-- Whether a link carries traffic at present. -/
inductive LinkState
  | active
  | inactive
deriving Repr, DecidableEq

/-- The medium of a link. -/
inductive Technology
  | mmWave
  | ethernet
  | unspecified
deriving Repr, DecidableEq

/-! ### Reading the words for sorts, states and media -/

/-- The text with ASCII letters in upper case. -/
def upperCase (s : String) : String :=
  String.ofList (s.toList.map Char.toUpper)

/-- The text with ASCII letters in lower case. -/
def lowerCase (s : String) : String :=
  String.ofList (s.toList.map Char.toLower)

/-- Reads the sort of a link, in any case. -/
def LinkType.ofText (text : String) : Except InputFault LinkType :=
  match upperCase text with
  | "DIRECT" => .ok .direct
  | "INDIRECT" => .ok .indirect
  | "EDGE" => .ok .edge
  | "OPTICAL" => .ok .optical
  | _ => .error (.unknownLinkType text)

/-- Reads the state of a link, in any case. -/
def LinkState.ofText (text : String) : Except InputFault LinkState :=
  match upperCase text with
  | "ACTIVE" => .ok .active
  | "INACTIVE" => .ok .inactive
  | _ => .error (.unknownLinkState text)

/-- Reads the medium of a link, in any case. The empty text leaves it open. -/
def Technology.ofText (text : String) : Except InputFault Technology :=
  match lowerCase text with
  | "mmwave" => .ok .mmWave
  | "millimeterwave" => .ok .mmWave
  | "ethernet" => .ok .ethernet
  | "" => .ok .unspecified
  | "unspecified" => .ok .unspecified
  | _ => .error (.unknownTechnology text)

/-! ### Links and their measures -/

/-- A directed link. -/
structure Link where
  src : ConnectPoint
  dst : ConnectPoint
  type : LinkType := .direct
  state : LinkState := .active
  technology : Technology := .unspecified
  annotations : Annotations := .empty
deriving Repr, DecidableEq

namespace Link

/-- The two connect points with a dash between them. -/
def text (l : Link) : String :=
  l.src.text ++ "-" ++ l.dst.text

/-- The link in the opposite direction. -/
def reversed (l : Link) : Link :=
  { l with src := l.dst, dst := l.src }

@[simp]
theorem reversed_reversed (l : Link) :
  l.reversed.reversed = l
  := rfl

/-- The link carries traffic. -/
def isActive (l : Link) : Bool :=
  l.state == .active

/-- The link attaches a host. Such links count for no aggregate of a path. -/
def isAttachment (l : Link) : Bool :=
  l.type == .edge

/-- The length in metres. -/
def length (l : Link) : Except AnnotationFault (Option Float) :=
  l.annotations.number "length"

/-- The latency in milliseconds. -/
def latency (l : Link) : Except AnnotationFault (Option Float) :=
  l.annotations.measureOr "latency" "mmlatency"

/-- The bandwidth in megabits a second. -/
def bandwidth (l : Link) : Except AnnotationFault (Option Float) :=
  l.annotations.measureOr "bandwidth" "capacity"

/-- The fault of the latency, or else that of the bandwidth. -/
def malformed? (l : Link) : Option AnnotationFault :=
  match l.latency with
  | .error f => some f
  | .ok _ =>
    match l.bandwidth with
    | .error f => some f
    | .ok _ => none

end Link

end ReliableRouting
