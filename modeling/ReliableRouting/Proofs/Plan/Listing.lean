import ReliableRouting.Plan.Listing
import ReliableRouting.Proofs.Plan.Selection
import ReliableRouting.Proofs.Policy.Judging

/-!
# Listings and selections

A listing and a selection look at the same candidates. A listing asks for the loss of each
before it judges it, while a selection only comes to the loss if no constraint rejects the path
before. By the constraints of a request this makes no difference: what comes before the ceiling
on the loss is the exclusion of optical links, and no candidate has one. So both fail in the
same way or not at all, and the path that is selected is that of the first valid line.
-/

namespace ReliableRouting

variable {law : DeliveryLaw} {p : Path} {req : Request}

/-! ### Lines -/

/-- Judging by the constraints of a request fails where the law refuses a length, unless the path
is excluded for an optical link first. -/
theorem Request.accept_of_rejected (hoptical : ∀ l ∈ p.links, l.type ≠ .optical)
    {reason : LengthFault} (hloss : p.loss law = .error (.rejected reason)) :
  req.constraints.accept law p = .error (.lengthRejected reason)
  := by
  have hceiling : (Constraint.packetLoss req.packetLossCeiling).accepts law p
      = .error (.lengthRejected reason) :=
    Constraint.accepts_eq_error_iff.mpr ⟨⟨_, rfl⟩, reason, hloss, rfl⟩
  rw [constraints_eq, Constraints.accept_cons, Constraints.accept_cons,
    Constraint.notOptical_accepts_iff.mpr hoptical, hceiling]
  rfl

namespace Path

/-- The line for a path, given whether it is valid. -/
def line (law : DeliveryLaw) (p : Path) (valid : Bool) : ListedPath where
  links := p.links.map Link.text
  cost := p.cost
  packetLoss := (p.loss law).toOption
  latency := p.latency.toOption
  bottleneck := p.bottleneck.toOption.join
  valid := valid

/-- A path without optical links is listed as it is judged. -/
theorem listed_eq (hoptical : ∀ l ∈ p.links, l.type ≠ .optical) :
  p.listed law req.constraints = (req.constraints.accept law p).map (p.line law)
  := by
  rw [listed, listedLoss]
  cases hloss : p.loss law with
  | error fault =>
      cases fault with
      | rejected reason =>
          rw [Request.accept_of_rejected hoptical hloss]
          rfl
      | malformed fault =>
          cases req.constraints.accept law p with
          | error fault' => rfl
          | ok valid =>
              rw [Except.map, line, hloss]
              rfl
  | ok loss =>
      cases req.constraints.accept law p with
      | error fault => rfl
      | ok valid =>
          rw [Except.map, line, hloss]
          rfl

theorem cost_of_listed {cs : Constraints} {line : ListedPath} (h : p.listed law cs = .ok line) :
  line.cost = p.cost
  := by
  obtain ⟨loss, -, h⟩ := bind_eq_ok_iff.mp h
  obtain ⟨valid, -, h⟩ := bind_eq_ok_iff.mp h
  obtain rfl := Except.ok.inj h
  rfl

end Path

/-! ### Lines and survivors -/

/-- The paths of valid lines. -/
def validPaths (paths : List Path) (lines : List ListedPath) : List Path :=
  ((paths.zip lines).filter (·.2.valid)).map Prod.fst

section Valid

variable {paths : List Path} {lines : List ListedPath}

theorem head?_validPaths (paths : List Path) (lines : List ListedPath) :
  (validPaths paths lines).head? = ((paths.zip lines).find? (·.2.valid)).map Prod.fst
  := by
  rw [validPaths, List.head?_map, List.head?_filter]

/-- There are as many paths of valid lines as there are valid lines. -/
theorem length_validPaths (h : paths.length = lines.length) :
  (validPaths paths lines).length = (lines.filter (·.valid)).length
  := by
  have hlines : (paths.zip lines).map Prod.snd = lines := List.map_snd_zip h.ge
  calc
    (validPaths paths lines).length
      = (((paths.zip lines).map Prod.snd).filter (·.valid)).length := by
        rw [validPaths, List.length_map, List.filter_map, List.length_map]
        rfl
    _ = (lines.filter (·.valid)).length := by rw [hlines]

theorem validPaths_sublist (h : paths.length = lines.length) :
  (validPaths paths lines).Sublist paths
  := by
  have hpaths : (paths.zip lines).map Prod.fst = paths := List.map_fst_zip h.le
  have hsublist := (List.filter_sublist (p := fun row => row.2.valid) (l := paths.zip lines)).map
    Prod.fst
  rw [hpaths] at hsublist
  apply hsublist

end Valid

/-- Listing paths and judging them fail in the same way, or what survives are the paths of the
valid lines. -/
theorem Router.agree_listed_accepted (r : Router) {paths : List Path}
    (hoptical : ∀ p ∈ paths, ∀ l ∈ p.links, l.type ≠ .optical) :
  Agree (fun lines survivors =>
      List.Forall₂ (fun p line => p.listed r.law req.constraints = .ok line) paths lines
        ∧ survivors = validPaths paths lines)
    (paths.mapM (Path.listed r.law req.constraints)) (r.accepted req.constraints paths)
  := by
  induction paths with
  | nil => exact .ok ⟨.nil, rfl⟩
  | cons p paths ih =>
      obtain ⟨hp, hrest⟩ := List.forall_mem_cons.mp hoptical
      have hlisted : p.listed r.law req.constraints
          = (req.constraints.accept r.law p).map (p.line r.law) := Path.listed_eq hp
      rw [List.mapM_cons, accepted, hlisted]
      cases haccept : req.constraints.accept r.law p with
      | error fault => exact .error fault
      | ok valid =>
          rw [haccept] at hlisted
          apply (ih hrest).bind
          rintro lines _ ⟨hlines, rfl⟩
          refine .ok ⟨.cons hlisted hlines, ?_⟩
          cases valid with
          | false => rfl
          | true => rfl

/-! ### Listings and answers -/

/-- A listing of paths and the answer of a selection among them confirm each other. -/
structure Listing.Confirms (law : DeliveryLaw) (cs : Constraints) (paths : List Path)
    (listing : Listing) (answer : Selection) : Prop where
  /-- Every path has its line, in the same order. -/
  lines : List.Forall₂ (fun p line => p.listed law cs = .ok line) paths listing.candidates
  satisfying_eq : listing.satisfying = listing.candidates.countP (·.valid)
  disconnected_iff : answer = .disconnected ↔ listing.candidates = []
  constraintViolated_iff : ∀ n, answer = .constraintViolated n
    ↔ listing.candidates.length = n ∧ 1 ≤ n ∧ listing.satisfying = 0
  exists_found_iff : (∃ p, answer = .found p) ↔ 1 ≤ listing.satisfying
  /-- The path that is found is that of the first valid line. -/
  found_iff : ∀ p, answer = .found p
    ↔ ∃ line, (paths.zip listing.candidates).find? (·.2.valid) = some (p, line)
  cost_le : ∀ p, answer = .found p → ∀ line ∈ listing.candidates, line.valid = true →
    p.cost ≤ line.cost

section Survivors

variable {cs : Constraints} {paths : List Path} {lines : List ListedPath}

/-- No valid line is cheaper than the first. -/
theorem cost_le_of_head?_validPaths
    (hlines : List.Forall₂ (fun p line => p.listed law cs = .ok line) paths lines)
    (hsorted : paths.Pairwise fun p q => p.cost ≤ q.cost)
    (hp : (validPaths paths lines).head? = some p) {line : ListedPath} (hline : line ∈ lines)
    (hvalid : line.valid = true) :
  p.cost ≤ line.cost
  := by
  obtain ⟨hlength, hlisted⟩ := List.forall₂_iff_zip.mp hlines
  have hpaths : line ∈ (paths.zip lines).map Prod.snd := by
    rw [List.map_snd_zip hlength.ge]
    apply hline
  obtain ⟨⟨q, line⟩, hrow, rfl⟩ := List.mem_map.mp hpaths
  have hq : q ∈ validPaths paths lines :=
    List.mem_map.mpr ⟨(q, line), List.mem_filter.mpr ⟨hrow, hvalid⟩, rfl⟩
  rw [Path.cost_of_listed (hlisted hrow)]
  apply Path.cost_le_of_head? (hsorted.sublist (validPaths_sublist hlength)) hp hq

/-- A listing of paths that come by cost confirms the answer that goes by its valid lines. -/
theorem Listing.confirms_ofSurvivors {src dst : Element} {k : ℕ}
    (hlines : List.Forall₂ (fun p line => p.listed law cs = .ok line) paths lines)
    (hsorted : paths.Pairwise fun p q => p.cost ≤ q.cost) :
  Confirms law cs paths ⟨src, dst, k, lines, (lines.filter (·.valid)).length⟩
    (Selection.ofSurvivors paths (validPaths paths lines))
  := by
  have hlength : paths.length = lines.length := hlines.length_eq
  have hsatisfying := length_validPaths hlength
  constructor
  · apply hlines
  · rw [List.countP_eq_length_filter]
  · rw [Selection.ofSurvivors_eq_disconnected_iff (validPaths_sublist hlength),
      ← List.length_eq_zero_iff, hlength, List.length_eq_zero_iff]
  · intro n
    rw [Selection.ofSurvivors_eq_constraintViolated_iff, ← hsatisfying, ← hlength,
      List.length_eq_zero_iff]
  · rw [← hsatisfying, Nat.one_le_iff_ne_zero, ne_eq, List.length_eq_zero_iff]
    simp only [Selection.ofSurvivors_eq_found_iff]
    cases validPaths paths lines with
    | nil => simp
    | cons q others => simp
  · intro p
    rw [Selection.ofSurvivors_eq_found_iff, head?_validPaths]
    simp
  · intro p hp line hline hvalid
    rw [Selection.ofSurvivors_eq_found_iff] at hp
    apply cost_le_of_head?_validPaths hlines hsorted hp hline hvalid

end Survivors

namespace Router

variable {src dst : Element} {k : ℕ}

/-- The links of a candidate are not optical. -/
theorem not_optical_of_mem_candidates {r : Router} (hp : p ∈ r.candidates src dst k) {l : Link}
    (hl : l ∈ p.links) :
  l.type ≠ .optical
  := Network.not_optical_of_mem_search hp hl

theorem listing_eq_map (r : Router) (cs : Constraints) (src dst : Element) (k : ℕ) :
  r.listing cs src dst k
    = ((r.candidates src dst k).mapM (Path.listed r.law cs)).map fun lines =>
        ⟨src, dst, k, lines, (lines.filter (·.valid)).length⟩
  := by
  rw [listing]
  cases (r.candidates src dst k).mapM (Path.listed r.law cs) with
  | error fault => rfl
  | ok lines => rfl

/-- By the constraints of a request, a listing and a selection between two elements never
contradict each other, whatever the weigher and the law. They fail in the same way; otherwise
there is no path if there are no lines, none meets the constraints if there are lines and none
is valid, and if some are, the path of the first of them is found, and no valid line is
cheaper. -/
theorem agree_listing_select (r : Router) (req : Request) (hne : src ≠ dst) (k : ℕ) :
  Agree (Listing.Confirms r.law req.constraints (r.candidates src dst k))
    (r.listing req.constraints src dst k) (r.select req.constraints src dst k)
  := by
  rw [listing_eq_map, select_eq_map hne]
  apply (r.agree_listed_accepted fun p hp l => not_optical_of_mem_candidates hp).map
  rintro lines _ ⟨hlines, rfl⟩
  apply Listing.confirms_ofSurvivors hlines pairwise_candidates

/-- Over the detour, a listing by the default request has a valid line, the first of which is
that of the path selected. -/
theorem agree_listing_select_detour :
  Detour.start ≠ Detour.goal
    ∧ Detour.router.select ({} : Request).constraints Detour.start Detour.goal 1
      = .ok (.found Detour.direct)
    ∧ ∃ listing,
      Detour.router.listing ({} : Request).constraints Detour.start Detour.goal 1 = .ok listing
        ∧ 1 ≤ listing.satisfying
        ∧ ∃ line, ((Detour.router.candidates Detour.start Detour.goal 1).zip
            listing.candidates).find? (·.2.valid) = some (Detour.direct, line)
  := by
  have hne : Detour.start ≠ Detour.goal := by decide
  have hselect : Detour.router.select ({} : Request).constraints Detour.start Detour.goal 1
      = .ok (.found Detour.direct) :=
    select_of_singleton hne Detour.search_eq (by decide +kernel)
  have hagree := agree_listing_select Detour.router {} hne 1
  rw [hselect] at hagree
  refine ⟨hne, hselect, ?_⟩
  cases hlisting : Detour.router.listing ({} : Request).constraints Detour.start Detour.goal 1 with
  | error fault =>
      rw [hlisting] at hagree
      cases hagree
  | ok listing =>
      rw [hlisting] at hagree
      cases hagree with
      | ok hconfirms =>
          exact ⟨listing, rfl, hconfirms.exists_found_iff.mp ⟨_, rfl⟩,
            (hconfirms.found_iff _).mp rfl⟩

end Router

end ReliableRouting
