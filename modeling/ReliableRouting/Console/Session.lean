import ReliableRouting.Console.Arguments
import ReliableRouting.Loading
import ReliableRouting.Plan.Export

/-!
# A session at the console

What the command prints, given its arguments and the files they name. A session fails with
a message for the first thing that goes wrong: the request, the snapshot, the ends, the
routing. What has been printed until then stays.
-/

namespace ReliableRouting.Console

/-- The files at hand, by name. -/
abbrev Files := String → FileContent

/-- What a session prints, its exit code, and the message of a failure. -/
structure Outcome where
  exit : Nat
  output : String
  failure : Option String
deriving Repr, DecidableEq

namespace Outcome

/-- A session that has come to its end. -/
def success (output : String) : Outcome :=
  ⟨0, output, none⟩

/-- A session that has failed. -/
def failed (output message : String) : Outcome :=
  ⟨1, output, some message⟩

/-- A session that has not begun. -/
def misused : Outcome :=
  ⟨2, "", none⟩

end Outcome

/-- How the command is called. -/
def usage : String :=
  "Usage: mmwave-paths [OPTIONS] <TOPOLOGY> <SRC> <DST>\n"

/-- The name of the command and its version. -/
def version : String :=
  "mmwave-paths 0.1.0\n"

/-! ### What a command asks for -/

/-- A request with the settings of a command put over it. -/
def Settings.override (s : Settings) (r : Request) : Request :=
  { r with
    maxPaths := s.maxPaths.getD r.maxPaths
    packetLossCeiling := s.packetLoss.getD r.packetLossCeiling
    latencyCeiling := s.latency <|> r.latencyCeiling
    bandwidthFloor := s.bandwidth.getD r.bandwidthFloor
    asymmetric := r.asymmetric || decide (Flag.asymmetric ∈ s.flags)
    useReliabilityWeighting :=
      if Flag.hopCount ∈ s.flags then false
      else if Flag.mmWave ∈ s.flags then true
      else r.useReliabilityWeighting }

/-- The request a command starts from. -/
def Settings.baseRequest (s : Settings) (files : Files) : Except String Request :=
  match s.request with
  | none => .ok {}
  | some file => (loadRequest (files file)).mapError fun _ => "loading request '" ++ file ++ "'"

/-- The request of a command. -/
def Settings.finalRequest (s : Settings) (files : Files) : Except String Request := do
  let base ← s.baseRequest files
  (s.override base).checked.mapError InputFault.message

/-- The network of a command. -/
def Command.network (c : Command) (files : Files) : Except String Network :=
  (loadNetwork (files c.topology)).mapError fun _ => "loading topology '" ++ c.topology ++ "'"

/-- The element of an identifier. -/
def findEnd (net : Network) (id : String) : Except String Element :=
  match net.element? id with
  | some e => .ok e
  | none => .error ("'" ++ id ++ "' is neither a device nor a host of the topology")

/-! ### What a command prints -/

/-- The line of one direction of a plan. -/
def directionText (name : String) (c : Installation) : String :=
  name ++ " ingress=" ++ c.ingress.text ++ " egress=" ++ c.egress.text ++ " core links="
    ++ toString c.links.length ++ "\n"

/-- Prints a plan as text. -/
def printPlan (src dst : Element) : Plan → Outcome
  | .empty =>
    .success (src.id ++ " and " ++ dst.id ++ " are the same element, nothing to route.\n")
  | .routed paths =>
    let output := "forward: " ++ paths.forward.text ++ "\nreverse: " ++ paths.reverse.text
      ++ "\n"
    match paths.installations with
    | .error fault => .failed output fault.message
    | .ok (forward, reverse) =>
      .success (output ++ directionText "forward" forward ++ directionText "reverse" reverse)
  | .notFound src dst reason =>
    .success ("No path " ++ src.id ++ " => " ++ dst.id ++ ": " ++ reason.text ++ "\n")

/-- Prints a value as JSON. -/
def printJson (v : Json) : Outcome :=
  .success (v.indented ++ "\n")

/-- Prints what a computation gives. -/
def printResult {α : Type} (print : α → Outcome) : Except RoutingFault α → Outcome
  | .ok a => print a
  | .error fault => .failed "" fault.message

/-- Prints the answer for two ends of a network. -/
def answer (s : Settings) (r : Request) (net : Network) (src dst : Element) : Outcome :=
  let router := r.router net
  let asJson := decide (Flag.json ∈ s.flags)
  if Flag.plan ∈ s.flags then
    printResult (fun plan => if asJson then printJson plan.toJson else printPlan src dst plan)
      (router.plan r.constraints src dst r.maxPaths r.asymmetric)
  else
    printResult
      (fun listing => if asJson then printJson listing.toJson else .success listing.text)
      (router.listing r.constraints src dst r.maxPaths)

/-- Carries out a command. -/
def Command.run (c : Command) (files : Files) : Outcome :=
  let prepared : Except String (Request × Network × Element × Element) := do
    let request ← c.settings.finalRequest files
    let net ← c.network files
    let src ← findEnd net c.src
    let dst ← findEnd net c.dst
    return (request, net, src, dst)
  match prepared with
  | .error message => .failed "" message
  | .ok (request, net, src, dst) => answer c.settings request net src dst

/-- The whole session. -/
def session (files : Files) (args : List String) : Outcome :=
  match Command.ofArguments args with
  | .ok command => command.run files
  | .error .misuse => .misused
  | .error .version => .success version
  | .error .help => .success usage

/-- The files that a session may read. -/
def filesNamed (args : List String) : List String :=
  match Command.ofArguments args with
  | .ok command => command.topology :: command.settings.request.toList
  | .error _ => []

end ReliableRouting.Console
