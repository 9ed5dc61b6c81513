import Mathlib.Data.Prod.Lex
import ReliableRouting.Proofs.Route.Search

/-!
# Indirect links last

A hop over an indirect link counts as much as `32767` hops over other links. A route between
different elements takes fewer links than the network has elements, so in a network of at
most `32767` elements no hops over other links make up for one over an indirect link. There,
counting hops ranks routes by their indirect links first and by their other links second.
-/

namespace ReliableRouting

/-! ### Ranks -/

/-- The numbers of indirect links and of other links, in the lexicographic order. -/
def hopRank (links : List Link) : ℕ ×ₗ ℕ :=
  toLex (links.countP (·.type = .indirect), links.countP (·.type ≠ .indirect))

section Ranks

variable {links links' : List Link}

theorem sum_hops_eq (links : List Link) :
  (links.map Link.hops).sum
    = 32767 * links.countP (·.type = .indirect) + links.countP (·.type ≠ .indirect)
  := by
  induction links with
  | nil => rfl
  | cons l links ih =>
      rw [List.map_cons, List.sum_cons, ih, List.countP_cons, List.countP_cons, Link.hops]
      by_cases hl : l.type = .indirect
      · simp only [hl, decide_true, if_true, ne_eq, not_true_eq_false, decide_false,
          Bool.false_eq_true, if_false]
        omega
      · simp only [hl, decide_false, Bool.false_eq_true, if_false, ne_eq, not_false_eq_true,
          decide_true, if_true]
        omega

/-- Ranks are in the order of the hops, unless there are as many links as an indirect hop
counts: `32767` links that are not indirect rank before one that is, and count the same. -/
theorem hopRank_le_iff (h : links.length < 32767) (h' : links'.length < 32767) :
  hopRank links ≤ hopRank links' ↔ (links.map Link.hops).sum ≤ (links'.map Link.hops).sum
  := by
  have hothers : links.countP (·.type ≠ .indirect) < 32767 :=
    List.countP_le_length.trans_lt h
  have hothers' : links'.countP (·.type ≠ .indirect) < 32767 :=
    List.countP_le_length.trans_lt h'
  rw [hopRank, hopRank, Prod.Lex.toLex_le_toLex, sum_hops_eq, sum_hops_eq]
  omega

theorem exists_indirect_of_hopRank_le (hrank : hopRank links ≤ hopRank links')
    (h : ∃ l ∈ links, l.type = .indirect) :
  ∃ l ∈ links', l.type = .indirect
  := by
  have hle : links.countP (·.type = .indirect) ≤ links'.countP (·.type = .indirect) :=
    Prod.Lex.monotone_fst _ _ hrank
  have hpos : 0 < links.countP (·.type = .indirect) := by
    simpa [List.countP_pos_iff] using h
  simpa [List.countP_pos_iff] using hpos.trans_le hle

end Ranks

namespace Network

variable {net : Network} {src dst : Element}

/-! ### Ranks of routes -/

section Routes

variable (hclosed : net.IsClosed) (hne : src ≠ dst)

include hclosed hne

/-- A route between different elements takes fewer links than a closed network has
elements. -/
theorem IsRoute.length_lt_of_isClosed {w : Weigher} {ids : List LinkId}
    (h : net.IsRoute w src dst ids) :
  ids.length < net.elements.length
  := by
  have hconnects := h.connects hclosed hne
  rw [Network.connects, Bool.and_eq_true] at hconnects
  have hsubset : src :: net.targets ids ⊆ net.elements := by
    apply List.cons_subset.mpr
    exact ⟨of_decide_eq_true hconnects.1, net.targets_subset_of_isClosed hclosed ids⟩
  have hlength := (List.subperm_of_subset h.nodup hsubset).length_le
  rw [List.length_cons, h.isWalk.length_targets] at hlength
  apply hlength

variable (hsmall : net.elements.length ≤ 32767)

include hsmall

/-- Routes are ranked by their costs. -/
theorem IsRoute.hopRank_le_iff {ids ids' : List LinkId} (h : net.IsRoute .hopCount src dst ids)
    (h' : net.IsRoute .hopCount src dst ids') :
  hopRank (net.linksAt ids) ≤ hopRank (net.linksAt ids')
    ↔ net.cost .hopCount ids ≤ net.cost .hopCount ids'
  := by
  have hshort : ∀ {ids}, net.IsRoute .hopCount src dst ids → (net.linksAt ids).length < 32767 := by
    intro ids hids
    rw [hids.isWalk.length_linksAt]
    apply (hids.length_lt_of_isClosed hclosed hne).trans_le hsmall
  have hsteps : ∀ {ids}, net.IsRoute .hopCount src dst ids → (net.cost .hopCount ids).steps
      = (((net.linksAt ids).map Link.hops).sum * 2 ^ 1074 : ℕ) := by
    intro ids hids
    apply steps_total_hopCount fun l hl => (hids.isWalk.viable hl).2.1
    apply (hshort hids).trans (by decide)
  rw [ReliableRouting.hopRank_le_iff (hshort h) (hshort h'), Weight.le_iff, hsteps h, hsteps h',
    Nat.cast_le, Nat.mul_le_mul_right_iff (Nat.two_pow_pos 1074)]

end Routes

/-! ### Ranks of results -/

section Results

variable (hclosed : net.IsClosed) (hsmall : net.elements.length ≤ 32767) {k : ℕ}

include hclosed hsmall

theorem hopRank_le_of_cost_le {p : Path} (hp : p ∈ net.search .hopCount src dst k)
    {ids : List LinkId} (hids : net.IsRoute .hopCount src dst ids)
    (hcost : p.cost ≤ net.cost .hopCount ids) :
  hopRank p.links ≤ hopRank (net.linksAt ids)
  := by
  obtain ⟨hne, -, ids', halong⟩ := of_mem_search hp
  rw [halong.cost_eq hne] at hcost
  rw [halong.links_eq hne]
  apply (halong.isRoute.hopRank_le_iff hclosed hne hsmall hids).mpr hcost

theorem pairwise_hopRank_search (src dst : Element) (k : ℕ) :
  (net.search .hopCount src dst k).Pairwise fun p q => hopRank p.links ≤ hopRank q.links
  := by
  by_cases hends : src = dst ∨ ¬ net.connects src dst = true
  · rw [search_eq_nil hends]
    apply List.Pairwise.nil
  · rw [not_or, not_not] at hends
    obtain ⟨hne, hconnects⟩ := hends
    apply (net.pairwise_search .hopCount k hne hconnects).imp_of_mem
    intro p q hp hq hcost
    obtain ⟨-, -, ids, halong⟩ := of_mem_search hq
    rw [halong.cost_eq hne] at hcost
    rw [halong.links_eq hne]
    apply hopRank_le_of_cost_le hclosed hsmall hp halong.isRoute hcost

theorem hopRank_le_of_not_mem_bestPlaces {p : Path}
    (hp : p ∈ net.search .hopCount src dst k) {ids : List LinkId}
    (hids : net.IsRoute .hopCount src dst ids) (hnew : ids ∉ net.bestPlaces .hopCount src dst k) :
  hopRank p.links ≤ hopRank (net.linksAt ids)
  := by
  obtain ⟨hne, hconnects, -⟩ := of_mem_search hp
  have hexact := net.addsExactly_hopCount hclosed (hsmall.trans_lt (by decide))
  have hcost := net.cost_le_of_not_mem_bestPlaces .hopCount k hne hconnects hexact hp hids hnew
  apply hopRank_le_of_cost_le hclosed hsmall hp hids hcost

/-- No route ranks before the path that is returned first. -/
theorem hopRank_le_of_head? {p : Path} (hp : (net.search .hopCount src dst k).head? = some p)
    {ids : List LinkId} (hids : net.IsRoute .hopCount src dst ids) :
  hopRank p.links ≤ hopRank (net.linksAt ids)
  := by
  have hmem := List.mem_of_head? hp
  by_cases hbest : ids ∈ net.bestPlaces .hopCount src dst k
  · obtain ⟨hne, hconnects, -⟩ := of_mem_search hmem
    obtain ⟨rest, hsearch⟩ := List.head?_eq_some_iff.mp hp
    have hsorted := pairwise_hopRank_search hclosed hsmall src dst k
    -- The path along the route is returned as well, as the first one or after it.
    have halong : IsPathAlong net .hopCount src dst ids _ := ⟨hids, hids.ofLinks?_eq hne⟩
    have hreturned := (net.mem_search_iff .hopCount k hne hconnects).mpr ⟨ids, hbest, halong⟩
    rw [hsearch] at hsorted hreturned
    obtain rfl | hlater := List.mem_cons.mp hreturned
    · apply le_rfl
    · apply (List.pairwise_cons.mp hsorted).1 _ hlater
  · apply hopRank_le_of_not_mem_bestPlaces hclosed hsmall hmem hids hbest

end Results

end Network

/-! ### A shortcut

Two devices are joined by an indirect link, and by a detour over a third device.
-/

namespace Shortcut

open Detour (start middle goal span)

/-- The network with the shortcut. -/
def network : Network :=
  ⟨[start, middle, goal],
    [{ span start goal with type := .indirect }, span start middle, span middle goal]⟩

/-- The route over the device on the way. -/
def detour : Route :=
  ⟨[1, 2], [start, middle, goal], .ofFloat 2⟩

theorem isRoute_shortcut :
  network.IsRoute .hopCount start goal [0]
  := by
  constructor
  · refine ⟨_, rfl, rfl, ⟨List.not_mem_nil, ?_, List.not_mem_nil, ?_⟩, rfl⟩
    · decide
    · decide +kernel
  · decide

theorem shortest?_eq :
  network.shortest? .hopCount {} start goal = some detour
  := by
  decide +kernel

theorem bestRoutes_eq :
  network.bestRoutes .hopCount start goal 1 = [detour]
  := by
  have hne : start ≠ goal := by decide
  have hconnects : network.connects start goal = true := by decide
  rw [Network.bestRoutes_eq_sortByCost hne hconnects shortest?_eq, Pool.grow, Route.sortByCost,
    List.mergeSort_singleton]

theorem search_eq :
  network.search .hopCount start goal 1 = [Detour.path]
  := by
  rw [Network.search, bestRoutes_eq]
  decide +kernel

theorem not_mem_bestPlaces :
  [0] ∉ network.bestPlaces .hopCount start goal 1
  := by
  rw [Network.bestPlaces, bestRoutes_eq]
  decide

end Shortcut

/-! ### Indirect links come last -/

/-- Counting hops in a closed network, as any that is assembled is, of at most `32767` elements,
a search returns paths by their numbers of indirect links, and by their numbers of other links
where these agree. No route that is left out ranks before a path returned. The path returned
first takes an indirect link only if every route does. -/
theorem Network.search_lexicographic {net : Network} (hclosed : net.IsClosed)
    (hsmall : net.elements.length ≤ 32767) (src dst : Element) (k : ℕ) :
  (net.search .hopCount src dst k).Pairwise (fun p q => hopRank p.links ≤ hopRank q.links)
    ∧ (∀ ids, net.IsRoute .hopCount src dst ids → ids ∉ net.bestPlaces .hopCount src dst k →
        ∀ p ∈ net.search .hopCount src dst k, hopRank p.links ≤ hopRank (net.linksAt ids))
    ∧ ∀ p, (net.search .hopCount src dst k).head? = some p →
        (∃ l ∈ p.links, l.type = .indirect) →
          ∀ ids, net.IsRoute .hopCount src dst ids →
            ∃ l ∈ net.linksAt ids, l.type = .indirect
  := by
  refine ⟨pairwise_hopRank_search hclosed hsmall src dst k, ?_, ?_⟩
  · intro ids hids hnew p hp
    apply hopRank_le_of_not_mem_bestPlaces hclosed hsmall hp hids hnew
  · intro p hp hindirect ids hids
    apply exists_indirect_of_hopRank_le (hopRank_le_of_head? hclosed hsmall hp hids) hindirect

/-- A search for one path returns the detour, and the shortcut that it leaves out ranks
after it. -/
theorem Network.search_lexicographic_shortcut :
  Shortcut.network.search .hopCount Detour.start Detour.goal 1 = [Detour.path]
    ∧ Shortcut.network.IsRoute .hopCount Detour.start Detour.goal [0]
    ∧ hopRank Detour.path.links ≤ hopRank (Shortcut.network.linksAt [0])
  := by
  have hclosed : Shortcut.network.IsClosed := by decide
  obtain ⟨-, hleft, -⟩ :=
    Network.search_lexicographic hclosed (by decide) Detour.start Detour.goal 1
  refine ⟨Shortcut.search_eq, Shortcut.isRoute_shortcut, ?_⟩
  apply hleft _ Shortcut.isRoute_shortcut Shortcut.not_mem_bestPlaces
  rw [Shortcut.search_eq]
  apply List.mem_singleton_self

end ReliableRouting
