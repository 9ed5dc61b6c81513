import ReliableRouting.Proofs.Route.Renaming

/-!
# Usable links

A link is usable if it is not excluded and its weight is finite. Taking the links that are
not usable out of a network renames the places of the others, as they close up, and leaves
their order. Every passage is over a usable link, so the passages stay the same up to these
names: to a search, the links taken out were never there.
-/

namespace ReliableRouting

/-! ### Places among the items that are kept -/

section Kept

variable {α : Type} (keep : α → Bool)

/-- The place in a list of the item that has the given place among those that are kept.
Beyond them the places go on after the list. -/
def keptPlace : List α → ℕ → ℕ
  | [], i => i
  | a :: rest, i =>
    if keep a then
      match i with
      | 0 => 0
      | i + 1 => keptPlace rest i + 1
    else
      keptPlace rest i + 1

variable {keep} {a : α} {rest : List α}

theorem keptPlace_zero (h : keep a = true) :
  keptPlace keep (a :: rest) 0 = 0
  := if_pos h

theorem keptPlace_succ (h : keep a = true) (i : ℕ) :
  keptPlace keep (a :: rest) (i + 1) = keptPlace keep rest i + 1
  := if_pos h

theorem keptPlace_of_not (h : keep a = false) (i : ℕ) :
  keptPlace keep (a :: rest) i = keptPlace keep rest i + 1
  := by
  rw [keptPlace.eq_def]
  simp only [h, Bool.false_eq_true, if_false]

variable (keep)

theorem strictMono_keptPlace (items : List α) :
  StrictMono (keptPlace keep items)
  := by
  induction items with
  | nil => exact strictMono_id
  | cons a rest ih =>
      intro i j hij
      cases ha : keep a with
      | false =>
          rw [keptPlace_of_not ha, keptPlace_of_not ha]
          apply Nat.succ_lt_succ (ih hij)
      | true =>
          obtain ⟨j, rfl⟩ := Nat.exists_eq_succ_of_ne_zero (Nat.ne_zero_of_lt hij)
          rw [Nat.succ_eq_add_one, keptPlace_succ ha]
          cases i with
          | zero =>
              rw [keptPlace_zero ha]
              apply Nat.succ_pos
          | succ i =>
              rw [keptPlace_succ ha]
              apply Nat.succ_lt_succ (ih (Nat.lt_of_succ_lt_succ hij))

/-- The items at the places are those that are kept. -/
theorem getElem?_keptPlace (items : List α) (i : ℕ) :
  items[keptPlace keep items i]? = (items.filter keep)[i]?
  := by
  induction items generalizing i with
  | nil => rfl
  | cons a rest ih =>
      cases ha : keep a with
      | false =>
          rw [keptPlace_of_not ha, List.filter_cons_of_neg (Bool.eq_false_iff.mp ha)]
          apply ih
      | true =>
          rw [List.filter_cons_of_pos ha]
          cases i with
          | zero => rw [keptPlace_zero ha, List.getElem?_cons_zero, List.getElem?_cons_zero]
          | succ i =>
              rw [keptPlace_succ ha]
              apply ih

/-- The items that are kept, with their places in the whole list. -/
theorem filter_zipIdx (items : List α) :
  items.zipIdx.filter (fun x => keep x.1)
    = (items.filter keep).zipIdx.map fun (a, i) => (a, keptPlace keep items i)
  := by
  induction items with
  | nil => rfl
  | cons a rest ih =>
      have hshift : (rest.zipIdx 1).filter (fun x => keep x.1)
          = (rest.filter keep).zipIdx.map fun (b, i) => (b, keptPlace keep rest i + 1) := by
        rw [List.zipIdx_succ, List.filter_map, Function.comp_def, ih, List.map_map]
        rfl
      rw [List.zipIdx_cons, Nat.zero_add, List.filter_cons, hshift, List.filter_cons]
      cases ha : keep a with
      | false => simp only [Bool.false_eq_true, if_false, keptPlace_of_not ha]
      | true =>
          rw [if_pos rfl, if_pos rfl, List.zipIdx_cons, List.zipIdx_succ, List.map_cons,
            List.map_map]
          simp only [Function.comp_def, keptPlace_zero ha, keptPlace_succ ha]

end Kept

/-! ### Usable links -/

/-- A route may use the link: it is not excluded and its weight is finite. -/
def Weigher.isUsable (w : Weigher) (l : Link) : Bool :=
  !l.isExcluded && (w.weight l).isFinite

theorem Weigher.passable?_of_not_isUsable {w : Weigher} {l : Link} (h : ¬ w.isUsable l = true)
    (bans : Bans) (i : LinkId) :
  w.passable? bans i l = none
  := by
  by_contra hsome
  obtain ⟨x, hx⟩ := Option.ne_none_iff_exists'.mp hsome
  obtain ⟨hadmits, -⟩ := Weigher.passable?_eq_some_iff.mp hx
  apply h
  rw [Weigher.isUsable, hadmits.not_excluded, hadmits.isFinite]
  rfl

/-- Banned links may go by other names, as long as different ones do. -/
theorem Weigher.passable?_rename {φ : LinkId → LinkId} (hφ : Function.Injective φ)
    (w : Weigher) (bans : Bans) (i : LinkId) (l : Link) :
  w.passable? (bans.rename φ) (φ i) l = w.passable? bans i l
  := by
  rw [Weigher.passable?, Weigher.passable?, Bans.rename]
  simp only [List.mem_map_of_injective hφ]

namespace Network

variable (net : Network) (w : Weigher)

/-- The network without the links that no route may use. -/
def usable : Network :=
  { net with links := net.links.filter w.isUsable }

/-- The place of a usable link in the whole network. -/
def usablePlace : LinkId → LinkId :=
  keptPlace w.isUsable net.links

/-- The passages from an element, link by link. -/
theorem passages_eq_filterMap (bans : Bans) (e : Element) :
  net.passages w bans e
    = net.links.zipIdx.filterMap fun (l, i) =>
        if l.src.element = e then
          (w.passable? bans i l).map fun weight => ⟨i, l.dst.element, weight⟩
        else
          none
  := by
  rw [passages, outgoing, List.filterMap_map, List.filterMap_filter]
  simp only [Function.comp_apply, decide_eq_true_eq]

/-- Only usable links are passages. -/
theorem passages_eq_filterMap_filter (bans : Bans) (e : Element) :
  net.passages w bans e
    = (net.links.zipIdx.filter fun x => w.isUsable x.1).filterMap fun (l, i) =>
        if l.src.element = e then
          (w.passable? bans i l).map fun weight => ⟨i, l.dst.element, weight⟩
        else
          none
  := by
  rw [passages_eq_filterMap, List.filterMap_filter]
  apply List.filterMap_congr
  rintro ⟨l, i⟩ -
  by_cases hl : w.isUsable l = true
  · rw [if_pos hl]
  · simp only [hl, Weigher.passable?_of_not_isUsable hl, Option.map_none, ite_self,
      Bool.false_eq_true]

/-- The network has the passages of its usable links under the names of their places in
it. -/
theorem isRenamed_usable :
  (net.usable w).IsRenamed w (net.usablePlace w) net
  where
  injective := (strictMono_keptPlace w.isUsable net.links).injective
  contains_eq := rfl
  link?_eq := getElem?_keptPlace w.isUsable net.links
  length_le := List.length_filter_le _ _
  passages_eq bans e := by
    have hinjective := (strictMono_keptPlace w.isUsable net.links).injective
    rw [passages_eq_filterMap_filter, filter_zipIdx, List.filterMap_map,
      passages_eq_filterMap, List.map_filterMap]
    apply List.filterMap_congr
    rintro ⟨l, i⟩ -
    simp only [Function.comp_apply, usablePlace, Weigher.passable?_rename hinjective]
    split_ifs
    · rw [Option.map_map]
      rfl
    · rfl

end Network

end ReliableRouting
