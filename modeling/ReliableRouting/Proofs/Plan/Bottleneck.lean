import ReliableRouting.Proofs.Plan.Listing
import ReliableRouting.Proofs.Policy.Longer

/-!
# Least bandwidths

The least bandwidth of a path is at least a floor exactly if every core link offers the floor, so
that it decides what a floor accepts; a path without core links is accepted by every floor. The
links of a path that a search returns have well-formed measures. Such a path has a latency, and
a least bandwidth unless it attaches hosts only, and so its line in a listing has them.
-/

namespace ReliableRouting

/-! ### A further link -/

/-- The lesser of two quantities is at least a floor exactly if both are. -/
theorem le_least_iff {c : Option Float} {x floor : Float} (hc : ∀ y, c = some y → 0 ≤ y)
    (hx : 0 ≤ x) :
  floor ≤ least c x ↔ (∀ y, c = some y → floor ≤ y) ∧ floor ≤ x
  := by
  cases c with
  | none => simp [least]
  | some y =>
      have hle : least (some y) x ≤ y := (least_bounds hc hx).2 y rfl
      have hle' : least (some y) x ≤ x := by
        rw [least]
        split
        next hlt => apply Double.le_of_lt hlt
        next hlt => apply Double.le_self_of_le hx
      constructor
      · intro h
        refine ⟨?_, Double.le_trans h hle'⟩
        rintro _ ⟨⟩
        apply Double.le_trans h hle
      · rintro ⟨hy, hfloor⟩
        rw [least]
        split
        · apply hy y rfl
        · apply hfloor

/-- Over links, the least bandwidth is at least a floor exactly if every link offers the floor. -/
theorem exists_foldlM_least_iff {floor : Float} {links : List Link} {c : Option Float}
    (hc : ∀ y, c = some y → 0 ≤ y) :
  (∃ c', links.foldlM (fun current l => l.offered.map fun x => some (least current x)) c = .ok c'
      ∧ ∀ y, c' = some y → floor ≤ y)
    ↔ (∀ y, c = some y → floor ≤ y) ∧ ∀ l ∈ links, Constraint.offers floor l = true
  := by
  induction links generalizing c with
  | nil =>
      constructor
      · rintro ⟨c', hc', hfloor⟩
        obtain rfl := Except.ok.inj hc'
        exact ⟨hfloor, List.forall_mem_nil _⟩
      · rintro ⟨hfloor, -⟩
        exact ⟨c, rfl, hfloor⟩
  | cons l links ih =>
      rw [List.forall_mem_cons, Constraint.offers_eq_true_iff, List.foldlM_cons]
      cases hl : l.offered with
      | error fault =>
          constructor
          · rintro ⟨c', hc', -⟩
            cases hc'
          · rintro ⟨-, ⟨x, hx, -⟩, -⟩
            cases hx
      | ok x =>
          have hx : 0 ≤ x := Link.nonneg_of_offered hl
          have hnonneg : ∀ y, some (least c x) = some y → 0 ≤ y := by
            rintro _ ⟨⟩
            apply (least_bounds hc hx).1
          have hleast : (∀ y, some (least c x) = some y → floor ≤ y) ↔ floor ≤ least c x := by
            simp
          apply (ih hnonneg).trans
          rw [hleast, le_least_iff hc hx]
          simp [and_assoc]

namespace Path

variable {law : DeliveryLaw} {p : Path}

/-! ### A path -/

theorem coreLinks_eq_nil_iff :
  p.coreLinks = [] ↔ ∀ l ∈ p.links, l.type = .edge
  := by
  rw [coreLinks, List.filter_eq_nil_iff]
  simp [Link.isAttachment]

/-- A path has no least bandwidth exactly if it has no core links, malformed ones apart. -/
theorem bottleneck_eq_none_iff :
  p.bottleneck = .ok none ↔ p.coreLinks = []
  := by
  rw [bottleneck]
  cases p.coreLinks with
  | nil => exact iff_of_true rfl rfl
  | cons l links =>
      refine iff_of_false ?_ (List.cons_ne_nil l links)
      intro h
      rw [List.foldlM_cons] at h
      obtain ⟨c, hc, hrest⟩ := bind_eq_ok_iff.mp h
      obtain ⟨x, -, rfl⟩ := map_eq_ok_iff.mp hc
      have hsome : (none : Option Float).isSome = true := by
        apply foldlM_preserves (P := fun c : Option Float => c.isSome = true) _ _ hrest
        · intro c l c' _ hstep
          obtain ⟨x, -, rfl⟩ := map_eq_ok_iff.mp hstep
          rfl
        · rfl
      cases hsome

/-- The least bandwidth decides what a floor accepts, where there are core links. -/
theorem accepts_bandwidth_iff_bottleneck {floor : Float} :
  (Constraint.bandwidth floor).accepts law p = .ok true
    ↔ p.coreLinks = [] ∨ ∃ x, p.bottleneck = .ok (some x) ∧ floor ≤ x
  := by
  have hrun : (∃ c, p.bottleneck = .ok c ∧ ∀ y, c = some y → floor ≤ y)
      ↔ (Constraint.bandwidth floor).accepts law p = .ok true := by
    rw [bottleneck, exists_foldlM_least_iff (by simp), Constraint.accepts, Except.ok.injEq,
      List.all_eq_true]
    simp
  rw [← hrun, ← bottleneck_eq_none_iff]
  constructor
  · rintro ⟨_ | x, hc, hfloor⟩
    · exact .inl hc
    · exact .inr ⟨x, hc, hfloor x rfl⟩
  · rintro (hc | ⟨x, hc, hfloor⟩)
    · exact ⟨none, hc, by simp⟩
    · refine ⟨some x, hc, ?_⟩
      rintro _ ⟨⟩
      apply hfloor

/-- A path of links with well-formed latencies has a latency. -/
theorem exists_latency (h : ∀ l ∈ p.links, ∃ x, l.latency = .ok x) :
  ∃ x, p.latency = .ok x
  := by
  apply exists_foldlM_eq_ok
  intro total l hl
  obtain ⟨x, hx⟩ := h l (List.mem_of_mem_filter hl)
  exact ⟨_, map_eq_ok_iff.mpr ⟨_, map_eq_ok_iff.mpr ⟨x, hx, rfl⟩, rfl⟩⟩

/-- No core link of a path of links with well-formed bandwidths has a malformed one. -/
theorem exists_bottleneck (h : ∀ l ∈ p.links, ∃ x, l.bandwidth = .ok x) :
  ∃ b, p.bottleneck = .ok b
  := by
  apply exists_foldlM_eq_ok
  intro current l hl
  obtain ⟨x, hx⟩ := h l (List.mem_of_mem_filter hl)
  exact ⟨_, map_eq_ok_iff.mpr ⟨_, map_eq_ok_iff.mpr ⟨x, hx, rfl⟩, rfl⟩⟩

/-- No measure of the path is malformed. -/
structure IsMeasured (p : Path) : Prop where
  exists_latency : ∃ x, p.latency = .ok x
  /-- There is a least bandwidth unless the path attaches hosts only. -/
  exists_bottleneck : ∃ b, p.bottleneck = .ok b ∧ (b = none ↔ ∀ l ∈ p.links, l.type = .edge)

/-- No measure of a path is malformed if none of its links is excluded. -/
theorem isMeasured_of_not_isExcluded (h : ∀ l ∈ p.links, l.isExcluded = false) :
  p.IsMeasured
  := by
  have hlinks : ∀ l ∈ p.links, (∃ x, l.latency = .ok x) ∧ ∃ x, l.bandwidth = .ok x := by
    intro l hl
    obtain ⟨-, -, hmeasures⟩ := Link.isExcluded_eq_false_iff.mp (h l hl)
    exact hmeasures
  obtain ⟨b, hb⟩ := exists_bottleneck fun l hl => (hlinks l hl).2
  refine ⟨exists_latency fun l hl => (hlinks l hl).1, b, hb, ?_⟩
  rw [← coreLinks_eq_nil_iff, ← bottleneck_eq_none_iff, hb, Except.ok.injEq]

end Path

/-! ### Paths that are found and listed -/

/-- A line of a listing shows the latency of a path and its least bandwidth, by which floors on
the bandwidth are judged. -/
structure ListedPath.ShowsMeasures (law : DeliveryLaw) (p : Path) (line : ListedPath) : Prop where
  exists_latency : ∃ x, p.latency = .ok x ∧ line.latency = some x
  bottleneck_eq_some_iff : ∀ x, line.bottleneck = some x ↔ p.bottleneck = .ok (some x)
  /-- Where no bandwidth is shown, the path attaches hosts only. -/
  bottleneck_eq_none_iff : line.bottleneck = none ↔ ∀ l ∈ p.links, l.type = .edge
  accepts_iff : ∀ floor, (Constraint.bandwidth floor).accepts law p = .ok true
    ↔ line.bottleneck = none ∨ ∃ x, line.bottleneck = some x ∧ floor ≤ x

/-- The measures of a path are shown by its line unless they are malformed. -/
theorem Path.IsMeasured.showsMeasures {law : DeliveryLaw} {p : Path} (h : p.IsMeasured)
    {cs : Constraints} {line : ListedPath} (hline : p.listed law cs = .ok line) :
  line.ShowsMeasures law p
  := by
  obtain ⟨loss, -, hline⟩ := bind_eq_ok_iff.mp hline
  obtain ⟨valid, -, hline⟩ := bind_eq_ok_iff.mp hline
  obtain rfl := Except.ok.inj hline
  obtain ⟨x, hx⟩ := h.exists_latency
  obtain ⟨b, hb, hnone⟩ := h.exists_bottleneck
  constructor
  · exact ⟨x, hx, by rw [hx]; rfl⟩
  · simp [hb, Except.toOption]
  · simp [hb, Except.toOption, hnone]
  · intro floor
    rw [accepts_bandwidth_iff_bottleneck, coreLinks_eq_nil_iff, ← hnone]
    simp [hb, Except.toOption]

/-! ### A relay in a network -/

namespace Relay

/-- The network of the relay. -/
def network : Network :=
  ⟨[.device "start", .device "middle", .device "goal"], long.links⟩

/-- A router over the relay that counts hops, where every packet gets through. -/
def router : Router :=
  ⟨network, .hopCount, fun _ => .ok 1⟩

theorem search_eq :
  network.search .hopCount (.device "start") (.device "goal") 1 = [long]
  := by
  have hshortest : network.shortest? .hopCount {} (.device "start") (.device "goal")
      = some ⟨[0, 1], [.device "start", .device "middle", .device "goal"], .ofFloat 2⟩ := by
    decide +kernel
  rw [Network.search, Network.bestRoutes_eq_sortByCost (by decide) (by decide) hshortest,
    Pool.grow, Route.sortByCost, List.mergeSort_singleton]
  decide +kernel

/-- The line for the path over the relay, where a floor is asked for that it does not meet. -/
def line : ListedPath :=
  ⟨["start/1-middle/1", "middle/1-goal/1"], .ofFloat 2, some 0, some 5.5, some 40, false⟩

theorem listing_eq :
  router.listing [.bandwidth 41] (.device "start") (.device "goal") 1
    = .ok ⟨.device "start", .device "goal", 1, [line], 0⟩
  := by
  have hcandidates : router.candidates (.device "start") (.device "goal") 1 = [long] := search_eq
  rw [Router.listing_eq_map, hcandidates]
  decide +kernel

end Relay

/-- The least bandwidth of a path, found or built by hand, decides what a floor on the bandwidth
accepts. A path that a search returns has a latency, and it has a least bandwidth unless it
attaches hosts only, whatever the weigher. So what a listing leaves out was never malformed. -/
theorem Router.bottleneck_decides (r : Router) (cs : Constraints) (src dst : Element) (k : ℕ) :
  (∀ (law : DeliveryLaw) (p : Path) (floor : Float),
      (Constraint.bandwidth floor).accepts law p = .ok true
        ↔ p.coreLinks = [] ∨ ∃ x, p.bottleneck = .ok (some x) ∧ floor ≤ x)
    ∧ (∀ p ∈ r.network.search r.weigher src dst k, p.IsMeasured)
    ∧ ∀ listing, r.listing cs src dst k = .ok listing →
      List.Forall₂ (fun p line => line.ShowsMeasures r.law p)
        (r.network.search r.weigher src dst k) listing.candidates
  := by
  have hmeasured : ∀ p ∈ r.network.search r.weigher src dst k, p.IsMeasured := by
    intro p hp
    apply Path.isMeasured_of_not_isExcluded
    intro l hl
    obtain ⟨-, hexcluded, -⟩ := Network.viable_of_mem_search hp hl
    apply hexcluded
  refine ⟨fun law p floor => Path.accepts_bandwidth_iff_bottleneck, hmeasured, ?_⟩
  intro listing hlisting
  rw [listing_eq_map] at hlisting
  obtain ⟨lines, hlines, rfl⟩ := map_eq_ok_iff.mp hlisting
  have hlisted := (List.forall₂_and_left _ _).mpr ⟨hmeasured, forall₂_of_mapM hlines⟩
  apply hlisted.imp
  rintro p line ⟨hp, hline⟩
  apply hp.showsMeasures hline

/-- The path over the relay is listed with the bandwidth of its second link. -/
theorem Router.bottleneck_decides_relay :
  Relay.long ∈ Relay.network.search .hopCount (.device "start") (.device "goal") 1
    ∧ Relay.long.IsMeasured
    ∧ (Constraint.bandwidth 40).accepts Relay.router.law Relay.long = .ok true
    ∧ Relay.router.listing [.bandwidth 41] (.device "start") (.device "goal") 1
      = .ok ⟨.device "start", .device "goal", 1, [Relay.line], 0⟩
    ∧ Relay.line.ShowsMeasures Relay.router.law Relay.long
  := by
  have hsearch : Relay.router.network.search Relay.router.weigher (.device "start")
      (.device "goal") 1 = [Relay.long] := Relay.search_eq
  obtain ⟨haccepts, hmeasured, hlisted⟩ := bottleneck_decides Relay.router [.bandwidth 41]
    (.device "start") (.device "goal") 1
  have hmem : Relay.long ∈ Relay.router.network.search Relay.router.weigher (.device "start")
      (.device "goal") 1 := by
    rw [hsearch]
    apply List.mem_singleton_self
  have hbottleneck : Relay.long.bottleneck = .ok (some 40) := by decide +kernel
  have hlines := hlisted _ Relay.listing_eq
  rw [hsearch] at hlines
  cases hlines with
  | cons hline _ =>
      exact ⟨hmem, hmeasured _ hmem, (haccepts _ _ _).mpr (.inr ⟨40, hbottleneck, by decide⟩),
        Relay.listing_eq, hline⟩

end ReliableRouting
