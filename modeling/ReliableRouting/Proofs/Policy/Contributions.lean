import ReliableRouting.Proofs.Policy.Judging
import ReliableRouting.Proofs.Policy.Measures

/-!
# Judging and adding up

A constraint judges a path as a whole, and it contributes to a cost link by link. The two agree:
what accepts a path contributes something to each of its core links, and nothing negative. So the
contributions to a path that is accepted are added up to the last, link by link and in the order
of the constraints.
-/

namespace ReliableRouting

variable {law : DeliveryLaw} {p : Path} {l : Link}

/-! ### Links of a path that has an aggregate -/

/-- A path that has a loss has links that deliver. -/
theorem Path.exists_delivery_of_loss {x : Float} (hx : p.loss law = .ok x) (hl : l ∈ p.coreLinks) :
  ∃ y, l.delivery law = .ok y
  := by
  obtain ⟨t, ht, -⟩ := map_eq_ok_iff.mp hx
  apply exists_of_foldlM_map ht hl

/-- A path that has a latency has links that have one. -/
theorem Path.exists_delay_of_latency {x : Float} (hx : p.latency = .ok x) (hl : l ∈ p.coreLinks) :
  ∃ y, l.delay = .ok y
  := exists_of_foldlM_map hx hl

/-! ### Contributions -/

/-- A constraint that accepts a path has a use for each of its core links. -/
theorem Constraint.exists_cost_of_accepts (hlaw : law.IsBounded) {c : Constraint}
    (haccepts : c.accepts law p = .ok true) (hl : l ∈ p.coreLinks) :
  ∃ x, c.cost law l = .ok x ∧ 0 ≤ x
  := by
  cases c with
  | packetLoss ceiling =>
      obtain ⟨loss, hloss, -⟩ := accepts_packetLoss_iff.mp haccepts
      obtain ⟨x, hx⟩ := Path.exists_delivery_of_loss hloss hl
      rw [cost, hx]
      exact ⟨x, rfl, (Link.delivery_bounds hlaw hx).1⟩
  | latency ceiling =>
      obtain ⟨latency, hlatency, -⟩ := accepts_latency_iff.mp haccepts
      obtain ⟨x, hx⟩ := Path.exists_delay_of_latency hlatency hl
      rw [cost, hx]
      exact ⟨x, rfl, Link.nonneg_of_delay hx⟩
  | bandwidth floor =>
      have hoffers := offers_eq_true_iff.mpr (accepts_bandwidth_iff.mp haccepts l hl)
      rw [cost, if_pos hoffers]
      exact ⟨1.0, rfl, Double.zero_le_one⟩
  | excludedTypes excluded =>
      have hallowed := accepts_excludedTypes_iff.mp haccepts l (List.mem_of_mem_filter hl)
      rw [cost, if_neg hallowed]
      exact ⟨1.0, rfl, Double.zero_le_one⟩
  | ownWayBack => exact ⟨0.0, rfl, Double.zero_le_zero⟩

namespace Constraints

variable {cs : Constraints}

/-- What the core links of a path contribute, link by link and in the order of the
constraints. -/
def contributions (law : DeliveryLaw) (p : Path) (cs : Constraints) :
    Except RoutingFault (List Float) :=
  (p.coreLinks.mapM fun l => cs.mapM (Constraint.cost law l)).map List.flatten

/-- The contributions of one link are added up if none is negative. -/
theorem sumCosts_link {row : List Float} (hrow : cs.mapM (Constraint.cost law l) = .ok row)
    (hnonneg : ∀ x ∈ row, 0 ≤ x) (total : Float) (rest : List (Link × Constraint)) :
  sumCosts law total ((cs.map fun c => (l, c)) ++ rest)
    = sumCosts law (row.foldl (· + ·) total) rest
  := by
  induction cs generalizing row total with
  | nil =>
      obtain rfl := Except.ok.inj hrow
      rfl
  | cons c cs ih =>
      rw [List.mapM_cons] at hrow
      obtain ⟨x, hx, hrow⟩ := bind_eq_ok_iff.mp hrow
      obtain ⟨row, hcs, hrow⟩ := bind_eq_ok_iff.mp hrow
      obtain rfl := Except.ok.inj hrow
      obtain ⟨hfirst, hrest⟩ := List.forall_mem_cons.mp hnonneg
      have hneg : ¬ x < 0.0 := Double.not_lt_of_le hfirst
      rw [List.map_cons, List.cons_append, sumCosts, hx]
      dsimp only
      rw [if_neg hneg, ih hcs hrest, List.foldl_cons]

/-- The contributions of all links are added up if none is negative. -/
theorem sumCosts_links {links : List Link} {rows : List (List Float)}
    (hrows : (links.mapM fun l => cs.mapM (Constraint.cost law l)) = .ok rows)
    (hnonneg : ∀ x ∈ rows.flatten, 0 ≤ x) (total : Float) :
  sumCosts law total (links.flatMap fun l => cs.map fun c => (l, c))
    = .ok (.ofFloat (rows.flatten.foldl (· + ·) total))
  := by
  induction links generalizing rows total with
  | nil =>
      obtain rfl := Except.ok.inj hrows
      rfl
  | cons l links ih =>
      rw [List.mapM_cons] at hrows
      obtain ⟨row, hrow, hrows⟩ := bind_eq_ok_iff.mp hrows
      obtain ⟨rows, hlinks, hrows⟩ := bind_eq_ok_iff.mp hrows
      obtain rfl := Except.ok.inj hrows
      rw [List.flatten_cons, List.forall_mem_append] at hnonneg
      rw [List.flatMap_cons, sumCosts_link hrow hnonneg.1, ih hlinks hnonneg.2,
        List.flatten_cons, List.foldl_append]

/-- Every constraint contributes to every core link of a path that is accepted, and nothing
negative. -/
theorem exists_cost_of_accept (hlaw : law.IsBounded) (haccept : cs.accept law p = .ok true)
    (hl : l ∈ p.coreLinks) {c : Constraint} (hc : c ∈ cs) :
  ∃ x, c.cost law l = .ok x ∧ 0 ≤ x
  := Constraint.exists_cost_of_accepts hlaw (accept_eq_true_iff.mp haccept c hc) hl

/-- The contributions to a path that is accepted can be had, and none is negative. -/
theorem exists_contributions_of_accept (hlaw : law.IsBounded)
    (haccept : cs.accept law p = .ok true) :
  ∃ rows, (p.coreLinks.mapM fun l => cs.mapM (Constraint.cost law l)) = .ok rows
    ∧ ∀ x ∈ rows.flatten, 0 ≤ x
  := by
  have hcost : ∀ l ∈ p.coreLinks, ∀ c ∈ cs, ∃ x, c.cost law l = .ok x ∧ 0 ≤ x :=
    fun l hl c hc => exists_cost_of_accept hlaw haccept hl hc
  obtain ⟨rows, hrows⟩ := exists_mapM_eq_ok fun l hl =>
    exists_mapM_eq_ok fun c hc => (hcost l hl c hc).imp fun _ => And.left
  refine ⟨rows, hrows, ?_⟩
  intro x hx
  obtain ⟨row, hrow, hx⟩ := List.mem_flatten.mp hx
  obtain ⟨l, hl, hrow⟩ := exists_mem_of_mapM hrows hrow
  obtain ⟨c, hc, hx⟩ := exists_mem_of_mapM hrow hx
  obtain ⟨y, hy, hnonneg⟩ := hcost l hl c hc
  rw [hx] at hy
  obtain rfl := Except.ok.inj hy
  apply hnonneg

/-- Under the law of a radio model, judging a path and adding up its contributions agree. If the
path is accepted, every constraint contributes to every core link, nothing is negative, and the
combined cost is the sum of all contributions. So a path is not accepted for which adding up
fails or meets a link that is of no use. -/
theorem combinedCost_of_accept (model : RadioModel) (p : Path) (cs : Constraints) :
  (cs.accept model.law p = .ok true →
      (∀ l ∈ p.coreLinks, ∀ c ∈ cs, ∃ x, c.cost model.law l = .ok x ∧ 0 ≤ x ∧ ¬ x < 0.0)
        ∧ ∃ xs, cs.contributions model.law p = .ok xs
          ∧ cs.combinedCost model.law p = .ok (.ofFloat (xs.foldl (· + ·) 0.0)))
    ∧ ((∃ fault, cs.combinedCost model.law p = .error fault)
        ∨ (∃ l ∈ p.coreLinks, ∃ c ∈ cs, ∃ x, c.cost model.law l = .ok x ∧ x < 0.0) →
      cs.accept model.law p ≠ .ok true)
  := by
  have hlaw := model.isBounded_law
  have hsum : cs.accept model.law p = .ok true → ∃ xs, cs.contributions model.law p = .ok xs
      ∧ cs.combinedCost model.law p = .ok (.ofFloat (xs.foldl (· + ·) 0.0)) := by
    intro haccept
    obtain ⟨rows, hrows, hnonneg⟩ := exists_contributions_of_accept hlaw haccept
    exact ⟨rows.flatten, map_eq_ok_iff.mpr ⟨rows, hrows, rfl⟩, sumCosts_links hrows hnonneg 0.0⟩
  constructor
  · intro haccept
    refine ⟨?_, hsum haccept⟩
    intro l hl c hc
    obtain ⟨x, hx, hnonneg⟩ := exists_cost_of_accept hlaw haccept hl hc
    exact ⟨x, hx, hnonneg, Double.not_lt_of_le hnonneg⟩
  · rintro (⟨fault, hfault⟩ | ⟨l, hl, c, hc, x, hx, hneg⟩) haccept
    · obtain ⟨xs, -, hcost⟩ := hsum haccept
      rw [hfault] at hcost
      cases hcost
    · obtain ⟨y, hy, hnonneg⟩ := exists_cost_of_accept hlaw haccept hl hc
      rw [hx] at hy
      obtain rfl := Except.ok.inj hy
      apply Double.not_lt_of_le hnonneg hneg

end Constraints

namespace Relay

/-- One constraint of each sort. -/
def everySort : Constraints :=
  [.packetLoss 0.5, .latency 6, .bandwidth 20, .notOptical, .ownWayBack]

end Relay

/-- The path over the relay is accepted, and what its two links contribute is added up. -/
theorem Constraints.combinedCost_of_accept_relay :
  Relay.everySort.accept ({} : RadioModel).law Relay.long = .ok true
    ∧ Relay.everySort.contributions ({} : RadioModel).law Relay.long
      = .ok [1, 2, 1, 1, 0, 1, 3.5, 1, 1, 0]
    ∧ ∃ xs, Relay.everySort.contributions ({} : RadioModel).law Relay.long = .ok xs
      ∧ Relay.everySort.combinedCost ({} : RadioModel).law Relay.long
        = .ok (.ofFloat (xs.foldl (· + ·) 0.0))
  := by
  have haccept : Relay.everySort.accept ({} : RadioModel).law Relay.long = .ok true := by
    decide +kernel
  refine ⟨haccept, ?_, ((combinedCost_of_accept {} Relay.long Relay.everySort).1 haccept).2⟩
  decide +kernel

end ReliableRouting
