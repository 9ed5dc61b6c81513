import ReliableRouting.Policy.Constraint
import ReliableRouting.Proofs.Route.Along

/-!
# Paths in the opposite direction

Reversing a path swaps its ends and turns round the links and the elements on the way, and so
a path that is chained and free of loops stays so. Bandwidths and sorts of links are the same
in both directions. Hops are too, and as they add up without rounding, weighing the links of a
reversed path anew gives the cost that was carried over.
-/

namespace ReliableRouting

/-! ### Chains -/

theorem isChain_iff {links : List Link} :
  IsChain links ↔ links.IsChain fun l m => l.dst.element = m.src.element
  := by
  induction links with
  | nil => simp [IsChain]
  | cons l rest ih =>
      cases rest with
      | nil => simp [IsChain]
      | cons m rest => rw [IsChain, ih, List.isChain_cons_cons]

/-- The stops are where the first link starts and where each link ends. -/
theorem stopsOf_eq_cons {links : List Link} (hne : links ≠ []) :
  stopsOf links = (links.head hne).src.element :: links.map (·.dst.element)
  := by
  obtain ⟨l, rest, rfl⟩ := List.exists_cons_of_ne_nil hne
  rfl

namespace IsChain

variable {links : List Link}

/-- Along a chain, the stops are also where each link starts and where the last one ends. -/
theorem stopsOf_eq_append (h : IsChain links) (hne : links ≠ []) :
  stopsOf links = links.map (·.src.element) ++ [(links.getLast hne).dst.element]
  := by
  induction links with
  | nil => apply absurd rfl hne
  | cons l rest ih =>
      cases rest with
      | nil => rfl
      | cons m rest =>
          obtain ⟨hjoined, hrest⟩ := h
          have hstops := ih hrest (List.cons_ne_nil m rest)
          rw [stopsOf, ← hjoined] at hstops
          rw [stopsOf, List.map_cons, hstops, List.getLast_cons (List.cons_ne_nil m rest)]
          rfl

theorem reversed (h : IsChain links) :
  IsChain (links.map Link.reversed).reverse
  := by
  rw [isChain_iff] at h ⊢
  rw [List.isChain_reverse, List.isChain_map]
  apply h.imp
  intro l m hjoined
  apply hjoined.symm

/-- The stops on the way back are those on the way there in the opposite order. -/
theorem stopsOf_reversed (h : IsChain links) :
  stopsOf (links.map Link.reversed).reverse = (stopsOf links).reverse
  := by
  by_cases hne : links = []
  · rw [hne]
    rfl
  · have hne' : (links.map Link.reversed).reverse ≠ [] := by simp [hne]
    rw [stopsOf_eq_cons hne', h.stopsOf_eq_append hne, List.reverse_append, List.reverse_singleton,
      List.singleton_append, List.head_reverse, List.getLast_map, List.map_reverse, List.map_map]
    rfl

end IsChain

/-! ### Paths -/

namespace Path

variable {p : Path} {src dst : Element}

/-- The path leads from one element to another, link by link and without loops. -/
structure Leads (p : Path) (src dst : Element) : Prop where
  src_eq : p.src.element = src
  dst_eq : p.dst.element = dst
  isChain : IsChain p.links
  isLoopFree : p.isLoopFree = true

theorem first_reversed (p : Path) :
  p.reversed.first = p.last.reversed
  := by
  simp [first, last, reversed]

theorem last_reversed (p : Path) :
  p.reversed.last = p.first.reversed
  := by
  simp [first, last, reversed]

theorem stops_reversed (h : IsChain p.links) :
  p.reversed.stops = p.stops.reverse
  := h.stopsOf_reversed

theorem coreLinks_reversed (p : Path) :
  p.reversed.coreLinks = (p.coreLinks.map Link.reversed).reverse
  := by
  rw [coreLinks, reversed, List.filter_reverse, List.filter_map]
  rfl

/-- The way back leads from the end of the way there to its start. -/
theorem Leads.reversed (h : p.Leads src dst) :
  p.reversed.Leads dst src
  := by
  constructor
  · rw [Path.src, first_reversed]
    apply h.dst_eq
  · rw [Path.dst, last_reversed]
    apply h.src_eq
  · apply h.isChain.reversed
  · have hnodup := of_decide_eq_true h.isLoopFree
    rw [Path.isLoopFree, stops_reversed h.isChain]
    apply decide_eq_true (List.nodup_reverse.mpr hnodup)

end Path

/-- A path along a route leads where the route does. -/
theorem IsPathAlong.leads {net : Network} {w : Weigher} {src dst : Element} {ids : List LinkId}
    {p : Path} (h : IsPathAlong net w src dst ids p) (hne : src ≠ dst) :
  p.Leads src dst
  := by
  constructor
  · apply h.src_eq hne
  · apply h.dst_eq hne
  · rw [h.links_eq hne]
    apply h.isRoute.isWalk.isChain
  · rw [Path.isLoopFree, h.stops_eq hne]
    apply decide_eq_true h.isRoute.nodup

/-! ### What is the same both ways -/

namespace Constraint

variable (law : DeliveryLaw) (p : Path)

/-- A floor on the bandwidth does not tell a path from its reverse. -/
theorem accepts_bandwidth_reversed (floor : Float) :
  (bandwidth floor).accepts law p.reversed = (bandwidth floor).accepts law p
  := by
  rw [accepts, accepts, Path.coreLinks_reversed, List.all_reverse, List.all_map]
  rfl

/-- An exclusion of sorts of links does not tell a path from its reverse. -/
theorem accepts_excludedTypes_reversed (excluded : List LinkType) :
  (excludedTypes excluded).accepts law p.reversed = (excludedTypes excluded).accepts law p
  := by
  rw [accepts, accepts, Path.reversed, List.all_reverse, List.all_map]
  rfl

end Constraint

/-- Hops over links that are not excluded add up to something. -/
theorem steps_total_hopCount_ne_zero {links : List Link} (hne : links ≠ [])
    (hviable : ∀ l ∈ links, l.isExcluded = false) (hshort : links.length < 2 ^ 37) :
  (Weigher.hopCount.total links).steps ≠ 0
  := by
  rw [steps_total_hopCount hviable hshort]
  obtain ⟨l, rest, rfl⟩ := List.exists_cons_of_ne_nil hne
  have hpos : 0 < l.hops := by
    rw [Link.hops]
    split_ifs
    · decide
    · decide
  rw [List.map_cons, List.sum_cons]
  apply Nat.cast_ne_zero.mpr
  positivity

/-- There are as many hops both ways. -/
theorem total_hopCount_reversed {links : List Link} (hviable : ∀ l ∈ links, l.isExcluded = false)
    (hshort : links.length < 2 ^ 37) :
  Weigher.hopCount.total (links.map Link.reversed).reverse = Weigher.hopCount.total links
  := by
  by_cases hne : links = []
  · rw [hne]
    rfl
  · have hhops : (((links.map Link.reversed).reverse).map Link.hops).sum
        = (links.map Link.hops).sum := by
      rw [List.map_reverse, List.sum_reverse, List.map_map]
      rfl
    have hviable' : ∀ l ∈ (links.map Link.reversed).reverse, l.isExcluded = false := by
      intro l hl
      obtain ⟨l', hl', rfl⟩ := List.mem_map.mp (List.mem_reverse.mp hl)
      apply hviable l' hl'
    have hshort' : (links.map Link.reversed).reverse.length < 2 ^ 37 := by
      rw [List.length_reverse, List.length_map]
      apply hshort
    symm
    apply Weight.eq_of_steps_eq _ (steps_total_hopCount_ne_zero hne hviable hshort)
    rw [steps_total_hopCount hviable hshort, steps_total_hopCount hviable' hshort', hhops]

/-- In a network of fewer than `2 ^ 37` elements, weighing the way back anew by hops gives the
cost of the way there. -/
theorem IsPathAlong.ofLinks?_reversed {net : Network} {src dst : Element} {ids : List LinkId}
    {p : Path} (h : IsPathAlong net .hopCount src dst ids p) (hne : src ≠ dst)
    (hclosed : net.IsClosed) (hsmall : net.elements.length < 2 ^ 37) :
  Path.ofLinks? .hopCount p.reversed.links = some p.reversed
  := by
  have hleads := (h.leads hne).reversed
  have hviable : ∀ l ∈ p.links, l.isExcluded = false := fun l hl => (h.viable hne hl).2.1
  have hshort : p.links.length < 2 ^ 37 := by
    rw [h.links_eq hne, h.isRoute.isWalk.length_linksAt]
    apply (h.isRoute.length_le_of_isClosed hclosed).trans_lt hsmall
  have hcost : Weigher.hopCount.total p.reversed.links = p.reversed.cost := by
    apply (total_hopCount_reversed hviable hshort).trans
    rw [h.links_eq hne, Path.reversed, h.cost_eq hne, Network.cost]
  have hchained : p.reversed.links ≠ [] ∧ IsChain p.reversed.links
      ∧ (stopsOf p.reversed.links).Nodup :=
    ⟨p.reversed.links_ne_nil, hleads.isChain, of_decide_eq_true hleads.isLoopFree⟩
  rw [Path.ofLinks?, dif_pos hchained, hcost]

end ReliableRouting
