import ReliableRouting.Policy.Request
import ReliableRouting.Route.Best

/-!
# Selecting a path

Of the best paths between two elements, the first of the cheapest that meet the constraints
is selected. The constraints only gate; they have no part in the ranking.
-/

namespace ReliableRouting

/-- What paths are looked for in, how they are ranked, and by which law packets get
through. -/
structure Router where
  network : Network
  weigher : Weigher
  law : DeliveryLaw

/-- The router of a request, which ranks as the request has it and judges by its model. -/
def Request.router (req : Request) (net : Network) : Router :=
  ⟨net, req.rankingRule.weigher, req.model.law⟩

/-- The outcome of a selection. -/
inductive Selection
  /-- Source and destination are the same element. -/
  | sameEndpoint
  | found (path : Path)
  /-- No path joins the two elements. -/
  | disconnected
  /-- There are candidates, but none meets the constraints. -/
  | constraintViolated (candidates : Nat)
deriving DecidableEq

namespace Router

/-- The best paths, before constraints are applied. -/
def candidates (r : Router) (src dst : Element) (k : Nat) : List Path :=
  r.network.search r.weigher src dst k

/-- The paths that meet the constraints. Judging stops at the first failure. -/
def accepted (r : Router) (cs : Constraints) : List Path → Except RoutingFault (List Path)
  | [] => .ok []
  | p :: rest => do
    let accepts ← cs.accept r.law p
    let others ← r.accepted cs rest
    return if accepts then p :: others else others

/-- Selects among the `k` best paths. -/
def select (r : Router) (cs : Constraints) (src dst : Element) (k : Nat) :
    Except RoutingFault Selection :=
  if src = dst then
    .ok .sameEndpoint
  else
    match r.candidates src dst k with
    | [] => .ok .disconnected
    | candidates =>
      (r.accepted cs candidates).map fun survivors =>
        match takeCheapest Path.cost survivors with
        | some (best, _) => .found best
        | none => .constraintViolated candidates.length

/-! ### Journal -/

/-- What judging paths adds to the journal, up to the first failure. -/
def judgingJournal (r : Router) (cs : Constraints) : List Path → Journal
  | [] => []
  | p :: rest =>
    cs.journal r.law p ++
      match cs.accept r.law p with
      | .error _ => []
      | .ok _ => r.judgingJournal cs rest

/-- What a selection adds to the journal. -/
def selectionJournal (r : Router) (cs : Constraints) (src dst : Element) (k : Nat) :
    Journal :=
  if src = dst then
    []
  else
    r.network.searchJournal r.weigher src dst k
      ++ r.judgingJournal cs (r.candidates src dst k)
      ++ match r.select cs src dst k with
        | .ok (.constraintViolated n) =>
          [⟨.debug, "ConstraintViolated: none of " ++ toString n ++ " candidate(s) for "
            ++ src.id ++ " => " ++ dst.id ++ " satisfies the constraints."⟩]
        | _ => []

end Router

end ReliableRouting
