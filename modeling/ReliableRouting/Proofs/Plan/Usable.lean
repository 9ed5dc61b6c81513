import ReliableRouting.Plan.BothWays
import ReliableRouting.Plan.Listing
import ReliableRouting.Proofs.Route.Along
import ReliableRouting.Proofs.Route.Usable

/-!
# Links that are as good as absent

What a router answers depends on its network by way of the candidates alone. A search finds
the same candidates whether or not the links that no route may use are there, so selections,
listings and plans are the same as well.
-/

namespace ReliableRouting.Router

/-! ### Routers with the same candidates -/

section Candidates

variable {r r' : Router} (hlaw : r'.law = r.law)
  (hcandidates : ∀ src dst k, r'.candidates src dst k = r.candidates src dst k)

include hlaw

theorem accepted_congr (cs : Constraints) (paths : List Path) :
  r'.accepted cs paths = r.accepted cs paths
  := by
  induction paths with
  | nil => rfl
  | cons p paths ih => rw [accepted, accepted, hlaw, ih]

include hcandidates

theorem select_congr (cs : Constraints) (src dst : Element) (k : ℕ) :
  r'.select cs src dst k = r.select cs src dst k
  := by
  simp only [select, hcandidates, accepted_congr hlaw]

theorem listing_congr (cs : Constraints) (src dst : Element) (k : ℕ) :
  r'.listing cs src dst k = r.listing cs src dst k
  := by
  rw [listing, listing, hcandidates, hlaw]

theorem plan_congr (cs : Constraints) (src dst : Element) (k : ℕ) (asymmetric : Bool) :
  r'.plan cs src dst k asymmetric = r.plan cs src dst k asymmetric
  := by
  simp only [plan, planBack, select_congr hlaw hcandidates]

end Candidates

/-! ### Unusable links -/

/-- The router over the usable links of its network. -/
def usable (r : Router) : Router :=
  { r with network := r.network.usable r.weigher }

theorem candidates_usable (r : Router) (src dst : Element) (k : ℕ) :
  r.usable.candidates src dst k = r.candidates src dst k
  := ((r.network.isRenamed_usable r.weigher).search_eq src dst k).symm

/-- Links that no route may use are as good as absent. Without them a search finds the same
paths at the same costs in the same order, along the same links, whose places only close up;
and every selection, listing and plan is the same, whatever the constraints and the law by
which paths are judged. -/
theorem answers_usable (r : Router) (src dst : Element) (k : ℕ) :
  StrictMono (r.network.usablePlace r.weigher)
    ∧ (∀ i, r.network.link? (r.network.usablePlace r.weigher i) = r.usable.network.link? i)
    ∧ r.network.bestPlaces r.weigher src dst k
      = (r.usable.network.bestPlaces r.weigher src dst k).map
          (List.map (r.network.usablePlace r.weigher))
    ∧ r.network.search r.weigher src dst k = r.usable.network.search r.weigher src dst k
    ∧ ∀ cs, r.select cs src dst k = r.usable.select cs src dst k
      ∧ r.listing cs src dst k = r.usable.listing cs src dst k
      ∧ ∀ asymmetric, r.plan cs src dst k asymmetric = r.usable.plan cs src dst k asymmetric
  := by
  have hrenamed := r.network.isRenamed_usable r.weigher
  have hplaces : r.network.bestPlaces r.weigher src dst k
      = (r.usable.network.bestPlaces r.weigher src dst k).map
          (List.map (r.network.usablePlace r.weigher)) := by
    rw [Network.bestPlaces, hrenamed.bestRoutes_eq, List.map_map, Network.bestPlaces, List.map_map]
    rfl
  have hlaw : r.usable.law = r.law := rfl
  refine ⟨strictMono_keptPlace _ _, hrenamed.link?_eq, hplaces, hrenamed.search_eq src dst k, ?_⟩
  intro cs
  refine ⟨?_, ?_, ?_⟩
  · rw [select_congr hlaw r.candidates_usable]
  · rw [listing_congr hlaw r.candidates_usable]
  · intro asymmetric
    rw [plan_congr hlaw r.candidates_usable]

end ReliableRouting.Router
