import ReliableRouting.Network.Assembly
import ReliableRouting.Policy.Export

/-!
# Loading files

Snapshots and requests come as files of JSON text. A file may be missing or hold bytes that
are no text, its text may be no JSON of the right shape, and its content may be at fault.
-/

namespace ReliableRouting

/-- Why a file does not load. -/
inductive LoadFault
  | unreadable
  | malformed
  | rejected (fault : InputFault)
deriving Repr, DecidableEq

/-- The wording of a fault. -/
def LoadFault.message : LoadFault → String
  | .unreadable => "File not found or could not be read"
  | .malformed => "Failed to parse JSON input"
  | .rejected fault => "Failed to build topology snapshot: " ++ fault.message

/-- The bytes of a file, if it exists. -/
abbrev FileContent := Option ByteArray

/-- What a reader makes of the text of a file. -/
def loadText {α : Type} (read? : String → Option α) (content : FileContent) :
    Except LoadFault α :=
  match content.bind String.fromUTF8? with
  | none => .error .unreadable
  | some text =>
    match read? text with
    | none => .error .malformed
    | some a => .ok a

/-- Marks the fault of an input as that of a file. -/
def rejecting {α : Type} : Except InputFault α → Except LoadFault α :=
  Except.mapError .rejected

/-- Loads the snapshot of a network. -/
def loadNetwork (content : FileContent) : Except LoadFault Network := do
  rejecting (Network.ofSnapshot (← loadText Snapshot.read? content))

/-- Loads a request. -/
def loadRequest (content : FileContent) : Except LoadFault Request := do
  rejecting (← loadText RequestForm.read? content).toRequest

/-! ### Journal -/

/-- Doubles as they are entered in the journal with a request. -/
def entryLayout : Decimal.Layout where
  plainFrom := -4
  plainBelow := 16
  pointZero := true
  exponentPlus := false
  tie := .up

/-- All fields of a request by name. -/
def Request.described (r : Request) : String :=
  let truth (b : Bool) : String := if b then "true" else "false"
  let latency := match r.latencyCeiling with
    | none => "None"
    | some ceiling => "Some(" ++ entryLayout.write ceiling ++ ")"
  "PathRequest \x7b max_paths: " ++ toString r.maxPaths
    ++ ", packet_loss_ceiling: " ++ entryLayout.write r.packetLossCeiling
    ++ ", latency_ceiling: " ++ latency
    ++ ", bandwidth_floor: " ++ entryLayout.write r.bandwidthFloor
    ++ ", asymmetric: " ++ truth r.asymmetric
    ++ ", use_reliability_weighting: " ++ truth r.useReliabilityWeighting
    ++ ", propagation_model: " ++ r.propagationModel.name ++ " \x7d"

/-- What loading a network adds to the journal. -/
def loadNetworkJournal (file : String) (content : FileContent) : Journal :=
  match loadText Snapshot.read? content with
  | .error _ => []
  | .ok snapshot =>
    ⟨.info, "Topology file '" ++ file ++ "' parsed: " ++ toString snapshot.devices.length
      ++ " device(s), " ++ toString snapshot.hosts.length ++ " host(s), "
      ++ toString snapshot.links.length ++ " link(s)."⟩ ::
    Network.assemblyJournal snapshot ++
      match Network.ofSnapshot snapshot with
      | .error _ => []
      | .ok net =>
        [⟨.info, "Topology snapshot built: " ++ toString net.elements.length
          ++ " vertices, " ++ toString net.links.length ++ " directed edges."⟩]

/-- What loading a request adds to the journal. -/
def loadRequestJournal (file : String) (content : FileContent) : Journal :=
  match loadRequest content with
  | .error _ => []
  | .ok request =>
    [⟨.debug, "Path request loaded from '" ++ file ++ "': " ++ request.described⟩]

end ReliableRouting
