import ReliableRouting.Proofs.Network.Closed
import ReliableRouting.Proofs.Route.Walk

/-!
# Costs without rounding

A sum of weights is rounded, in general. Weights that are multiples of one power of two add
up without rounding as long as the sums keep to as many digits as a double has. Hops are
such weights: along a route there are fewer of them than the network has elements, and it
takes `2 ^ 37` elements for their sums to need more digits.
-/

namespace ReliableRouting

open Double Float.Model Network

/-- Costs along routes are the sums of the weights, nothing being rounded. -/
def Network.AddsExactly (net : Network) (w : Weigher) : Prop :=
  ∀ src dst ids, net.IsRoute w src dst ids →
    (net.cost w ids).steps = ((net.linksAt ids).map fun l => (w.weight l).steps).sum

variable {net : Network} {w : Weigher} {bans : Bans} {src dst : Element}

theorem Network.AddsExactly.steps_cost_append (h : net.AddsExactly w) {root ids : List LinkId}
    {e : Element} (hroute : net.IsRoute w src dst (root ++ ids))
    (hrest : net.IsRoute w e dst ids) :
  (net.cost w (root ++ ids)).steps
    = ((net.linksAt root).map fun l => (w.weight l).steps).sum + (net.cost w ids).steps
  := by
  rw [h src dst _ hroute, h e dst _ hrest, linksAt_append, List.map_append, List.sum_append]

/-! ### Multiples of a power of two -/

section Multiples

variable {a : ℕ} {size : Link → ℕ} {links : List Link}

theorem sum_steps_of_multiples
    (hsize : ∀ l ∈ links, (w.weight l).steps = (size l * 2 ^ a : ℕ)) :
  (links.map fun l => (w.weight l).steps).sum = ((links.map size).sum * 2 ^ a : ℕ)
  := by
  induction links with
  | nil => simp
  | cons l links ih =>
      obtain ⟨hl, hrest⟩ := List.forall_mem_cons.mp hsize
      rw [List.map_cons, List.sum_cons, List.map_cons, List.sum_cons, ih hrest, hl, add_mul,
        Nat.cast_add]

theorem steps_total_of_multiples (ha : 2 ^ 53 * 2 ^ a ≤ overflow)
    (hsize : ∀ l ∈ links, (w.weight l).steps = (size l * 2 ^ a : ℕ))
    (hsum : (links.map size).sum < 2 ^ 53) :
  (w.total links).steps = ((links.map size).sum * 2 ^ a : ℕ)
  := by
  induction links using List.reverseRecOn with
  | nil => simp [Weigher.total]
  | append_singleton links l ih =>
      obtain ⟨hrest, hl⟩ := List.forall_mem_append.mp hsize
      rw [List.forall_mem_singleton] at hl
      rw [List.map_append, List.sum_append, List.map_singleton, List.sum_singleton] at hsum ⊢
      rw [Weigher.total_append_singleton, Weight.steps_add,
        ih hrest (lt_of_le_of_lt (Nat.le_add_right _ _) hsum), hl, ← Nat.cast_add, ← add_mul]
      apply rounded_mul_two_pow hsum
      apply lt_of_lt_of_le _ ha
      apply Nat.mul_lt_mul_of_pos_right hsum (Nat.two_pow_pos a)

end Multiples

/-! ### Hops -/

/-- What a hop over a link counts. -/
def Link.hops (l : Link) : ℕ :=
  if l.type = .indirect then 32767 else 1

theorem Link.hops_le (l : Link) :
  l.hops ≤ 32767
  := by
  rw [Link.hops]
  split_ifs
  · apply le_rfl
  · decide

theorem steps_hop :
  (Weight.ofFloat 1).steps = (1 * 2 ^ 1074 : ℕ)
  := by
  have hunpack : (Weight.ofFloat 1).value.toModel.unpack
      = .finite .positive (2 ^ 52) (-52) (by decide) := rfl
  have hexponent : (-52 + 1074 : ℤ).toNat = 1022 := rfl
  rw [Weight.steps, hunpack, Double.steps, hexponent, ← pow_add, one_mul]

theorem steps_indirectHop :
  (Weight.ofFloat Weigher.indirectHop).steps = (32767 * 2 ^ 1074 : ℕ)
  := by
  have hunpack : (Weight.ofFloat Weigher.indirectHop).value.toModel.unpack
      = .finite .positive (32767 * 2 ^ 38) (-38) (by decide) := rfl
  have hexponent : (-38 + 1074 : ℤ).toNat = 1036 := rfl
  rw [Weight.steps, hunpack, Double.steps, hexponent, mul_assoc, ← pow_add]

theorem steps_hopCount {l : Link} (h : l.isExcluded = false) :
  (Weigher.hopCount.weight l).steps = (l.hops * 2 ^ 1074 : ℕ)
  := by
  unfold Weigher.hopCount Link.hops
  simp only [h, Bool.false_eq_true, if_false]
  split_ifs
  · apply steps_indirectHop
  · apply steps_hop

theorem sum_hops_le (links : List Link) :
  (links.map Link.hops).sum ≤ 32767 * links.length
  := by
  have hsum := List.sum_le_card_nsmul (links.map Link.hops) 32767 (by simp [Link.hops_le])
  rw [List.length_map, nsmul_eq_mul, Nat.cast_id, mul_comm] at hsum
  apply hsum

/-- Hops over fewer than `2 ^ 37` links add up without rounding. -/
theorem steps_total_hopCount {links : List Link} (hviable : ∀ l ∈ links, l.isExcluded = false)
    (hshort : links.length < 2 ^ 37) :
  (Weigher.hopCount.total links).steps = ((links.map Link.hops).sum * 2 ^ 1074 : ℕ)
  := by
  have hoverflow : 2 ^ 53 * 2 ^ 1074 ≤ overflow := by
    rw [overflow, ← pow_add]
    apply Nat.pow_le_pow_right (by decide) (by decide)
  have hsum : (links.map Link.hops).sum < 2 ^ 53 := by
    have hhops := sum_hops_le links
    omega
  apply steps_total_of_multiples hoverflow (fun l hl => steps_hopCount (hviable l hl)) hsum

/-- Links of a closed network lead to elements of the network. -/
theorem Network.targets_subset_of_isClosed (hclosed : net.IsClosed) (ids : List LinkId) :
  net.targets ids ⊆ net.elements
  := by
  intro e he
  obtain ⟨l, hl, rfl⟩ := List.mem_map.mp he
  obtain ⟨i, -, hi⟩ := List.mem_filterMap.mp hl
  apply (hclosed l (List.mem_of_getElem? hi)).2

/-- The ends of a route in a closed network are elements of the network. -/
theorem Network.IsRoute.connects {ids : List LinkId} (h : net.IsRoute w src dst ids)
    (hclosed : net.IsClosed) (hne : src ≠ dst) :
  net.connects src dst = true
  := by
  cases ids with
  | nil => apply absurd h.isWalk hne
  | cons i ids =>
      have hdst := net.targets_subset_of_isClosed hclosed _
        (h.isWalk.end_mem_targets (List.cons_ne_nil i ids))
      obtain ⟨l, hl, rfl, -, -⟩ := h.isWalk
      have hsrc := (hclosed l (List.mem_of_getElem? hl)).1
      rw [Network.connects, Network.contains, Network.contains, decide_eq_true hsrc,
        decide_eq_true hdst]
      rfl

/-- A route of a closed network takes no more links than the network has elements. -/
theorem Network.IsRoute.length_le_of_isClosed {ids : List LinkId}
    (h : net.IsRoute w src dst ids) (hclosed : net.IsClosed) :
  ids.length ≤ net.elements.length
  := by
  have hsubset := net.targets_subset_of_isClosed hclosed ids
  have hlength := (List.subperm_of_subset (List.nodup_cons.mp h.nodup).2 hsubset).length_le
  rw [h.isWalk.length_targets] at hlength
  apply hlength

/-- Hops add up without rounding in a network of fewer than `2 ^ 37` elements. -/
theorem Network.addsExactly_hopCount (hclosed : net.IsClosed)
    (hsmall : net.elements.length < 2 ^ 37) :
  net.AddsExactly .hopCount
  := by
  intro src dst ids hids
  have hviable : ∀ l ∈ net.linksAt ids, l.isExcluded = false :=
    fun l hl => (hids.isWalk.viable hl).2.1
  have hshort : (net.linksAt ids).length < 2 ^ 37 := by
    rw [hids.isWalk.length_linksAt]
    apply (hids.length_le_of_isClosed hclosed).trans_lt hsmall
  rw [Network.cost, steps_total_hopCount hviable hshort,
    sum_steps_of_multiples fun l hl => steps_hopCount (hviable l hl)]

/-- Hops add up without rounding, and so does whatever is known to. -/
theorem Network.addsExactly_of_or (h : net.AddsExactly w
    ∨ w = .hopCount ∧ net.IsClosed ∧ net.elements.length < 2 ^ 37) :
  net.AddsExactly w
  := by
  obtain h | ⟨rfl, hclosed, hsmall⟩ := h
  · apply h
  · apply net.addsExactly_hopCount hclosed hsmall

end ReliableRouting
