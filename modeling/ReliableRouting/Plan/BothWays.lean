import ReliableRouting.Plan.Installation
import ReliableRouting.Plan.Selection

/-!
# Plans for both directions

A plan joins two elements in both directions. The way there is selected; the way back is
the same path reversed, or is selected on its own if that is asked for by a flag or by a
constraint. A reversed path keeps its cost and takes it that every link has a usable
opposite.
-/

namespace ReliableRouting

/-- Why there is no path in a direction. -/
inductive NoPath
  | disconnected
  | constraintViolated (candidates : Nat)
deriving Repr, DecidableEq

/-- The wording of a reason. -/
def NoPath.text : NoPath → String
  | .disconnected => "Disconnected"
  | .constraintViolated n => "ConstraintViolated \x7b candidates: " ++ toString n ++ " \x7d"

/-- The paths of both directions. -/
structure RoundTrip where
  forward : Path
  reverse : Path
  /-- The way back was selected on its own. -/
  asymmetric : Bool
deriving DecidableEq

/-- A plan. -/
inductive Plan
  /-- Both ends are the same element, and there is nothing to route. -/
  | empty
  | routed (paths : RoundTrip)
  /-- A direction, given by its ends, has no path. -/
  | notFound (src dst : Element) (reason : NoPath)
deriving DecidableEq

/-- What is needed to install both directions, the way there first. -/
def RoundTrip.installations (paths : RoundTrip) :
    Except RoutingFault (Installation × Installation) := do
  let forward ← paths.forward.installation
  let reverse ← paths.reverse.installation
  return (forward, reverse)

/-- The path that a selection found, or the reason why there is none. -/
def Selection.outcome : Selection → Except NoPath Path
  | .found path => .ok path
  | .constraintViolated n => .error (.constraintViolated n)
  | .disconnected => .error .disconnected
  | .sameEndpoint => .error .disconnected

namespace Router

/-- Completes a way there to a plan. -/
def planBack (r : Router) (cs : Constraints) (src dst : Element) (k : Nat)
    (asymmetric : Bool) (forward : Path) : Except RoutingFault Plan :=
  if asymmetric then
    (r.select cs dst src k).map fun selection =>
      match selection.outcome with
      | .ok reverse => .routed ⟨forward, reverse, true⟩
      | .error reason => .notFound dst src reason
  else
    .ok (.routed ⟨forward, forward.reversed, false⟩)

/-- Plans both directions between two elements. -/
def plan (r : Router) (cs : Constraints) (src dst : Element) (k : Nat) (asymmetric : Bool) :
    Except RoutingFault Plan :=
  if src = dst then
    .ok .empty
  else do
    let selection ← r.select cs src dst k
    match selection.outcome with
    | .ok forward => r.planBack cs src dst k (asymmetric || cs.isAsymmetric) forward
    | .error reason => return .notFound src dst reason

/-! ### Journal -/

/-- The entry that tells of a plan. -/
def planEntry (src dst : Element) : Plan → Entry
  | .empty =>
    ⟨.info, "Source equals destination, returning an empty plan. src=" ++ src.id⟩
  | .routed paths =>
    ⟨.info, "Plan computed. src=" ++ src.id ++ " dst=" ++ dst.id
      ++ " asymmetric=" ++ (if paths.asymmetric then "true" else "false")
      ++ " forward_cost=" ++ paths.forward.cost.text
      ++ " reverse_cost=" ++ paths.reverse.cost.text⟩
  | .notFound src dst reason =>
    ⟨.info, "PathNotFound src=" ++ src.id ++ " dst=" ++ dst.id ++ " reason=" ++ reason.text⟩

/-- What planning the way back adds to the journal, if it is selected on its own. -/
def planBackJournal (r : Router) (cs : Constraints) (src dst : Element) (k : Nat)
    (asymmetric : Bool) : Journal :=
  match r.select cs src dst k with
  | .ok (.found _) =>
    if asymmetric || cs.isAsymmetric then r.selectionJournal cs dst src k else []
  | _ => []

/-- What planning adds to the journal. -/
def planJournal (r : Router) (cs : Constraints) (src dst : Element) (k : Nat)
    (asymmetric : Bool) : Journal :=
  r.selectionJournal cs src dst k
    ++ r.planBackJournal cs src dst k asymmetric
    ++ match r.plan cs src dst k asymmetric with
      | .ok plan => [planEntry src dst plan]
      | .error _ => []

end Router

end ReliableRouting
