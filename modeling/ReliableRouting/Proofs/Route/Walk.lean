import ReliableRouting.Proofs.Route.Weight
import ReliableRouting.Route.Best

/-!
# Walks and routes

A walk takes links, known by their places, one after the other, and may take only those
that are admitted: neither banned nor excluded, with a finite weight, and not into a banned
element. A route is a walk without bans that visits no element twice.

A walk is determined by its places: they give the elements it visits, where it ends, and
what it costs. Walks compose along appended places.
-/

namespace ReliableRouting

/-- A weigher and bans admit a link at a place. -/
structure Weigher.Admits (w : Weigher) (bans : Bans) (i : LinkId) (l : Link) : Prop where
  link_not_mem : i ∉ bans.links
  not_excluded : l.isExcluded = false
  target_not_mem : l.dst.element ∉ bans.elements
  isFinite : (w.weight l).isFinite = true

/-- What is not excluded is active, not optical and without malformed measures. -/
theorem Link.isExcluded_eq_false_iff {l : Link} :
  l.isExcluded = false
    ↔ l.isActive = true ∧ l.type ≠ .optical ∧ (∃ x, l.latency = .ok x) ∧ ∃ y, l.bandwidth = .ok y
  := by
  have hmalformed : l.malformed? = none
      ↔ (∃ x, l.latency = .ok x) ∧ ∃ y, l.bandwidth = .ok y := by
    rw [Link.malformed?]
    cases l.latency with
    | error fault => simp
    | ok x => cases l.bandwidth with
      | error fault => simp
      | ok y => simp
  simp [Link.isExcluded, ← hmalformed, and_assoc]

theorem Weigher.passable?_eq_some_iff {w : Weigher} {bans : Bans} {i : LinkId} {l : Link}
    {x : Weight} :
  w.passable? bans i l = some x ↔ w.Admits bans i l ∧ w.weight l = x
  := by
  rw [Weigher.passable?]
  constructor
  · intro h
    split_ifs at h with hlink hend hfinite
    rw [not_or, Bool.not_eq_true] at hend
    exact ⟨⟨hlink, hend.1, hend.2, hfinite⟩, Option.some.inj h⟩
  · rintro ⟨⟨hlink, hexcluded, htarget, hfinite⟩, rfl⟩
    rw [if_neg hlink, if_neg (by simp [hexcluded, htarget]), if_pos hfinite]

/-- Costs are added up from the left. -/
theorem Weigher.total_append_singleton (w : Weigher) (links : List Link) (l : Link) :
  w.total (links ++ [l]) = w.total links + w.weight l
  := by
  rw [Weigher.total, List.foldl_append]
  rfl

namespace Network

variable (net : Network) (w : Weigher) (bans : Bans)

/-- Taking the links at some places in turn leads from one element to another. -/
def IsWalk : Element → List LinkId → Element → Prop
  | e, [], e' => e = e'
  | e, i :: ids, e' =>
    ∃ l, net.link? i = some l ∧ l.src.element = e ∧ w.Admits bans i l
      ∧ IsWalk l.dst.element ids e'

/-- The elements where the links at some places lead, in the order of travel. -/
def targets (ids : List LinkId) : List Element :=
  (net.linksAt ids).map (·.dst.element)

/-- What taking the links at some places costs, added up in the order of travel. -/
def cost (ids : List LinkId) : Weight :=
  w.total (net.linksAt ids)

/-- A walk that visits no element twice. -/
structure IsRoute (src dst : Element) (ids : List LinkId) : Prop where
  isWalk : net.IsWalk w {} src ids dst
  nodup : (src :: net.targets ids).Nodup

variable {net w bans}

/-! ### Links at places -/

@[simp]
theorem linksAt_nil :
  net.linksAt [] = []
  := rfl

theorem linksAt_cons {i : LinkId} {l : Link} (h : net.link? i = some l) (ids : List LinkId) :
  net.linksAt (i :: ids) = l :: net.linksAt ids
  := List.filterMap_cons_some h

theorem linksAt_append (ids ids' : List LinkId) :
  net.linksAt (ids ++ ids') = net.linksAt ids ++ net.linksAt ids'
  := List.filterMap_append

@[simp]
theorem targets_nil :
  net.targets [] = []
  := rfl

theorem targets_cons {i : LinkId} {l : Link} (h : net.link? i = some l) (ids : List LinkId) :
  net.targets (i :: ids) = l.dst.element :: net.targets ids
  := by
  rw [targets, linksAt_cons h, List.map_cons, targets]

theorem targets_append (ids ids' : List LinkId) :
  net.targets (ids ++ ids') = net.targets ids ++ net.targets ids'
  := by
  rw [targets, linksAt_append, List.map_append, targets, targets]

theorem cost_append_singleton {i : LinkId} {l : Link} (h : net.link? i = some l)
    (ids : List LinkId) :
  net.cost w (ids ++ [i]) = net.cost w ids + w.weight l
  := by
  rw [cost, linksAt_append, linksAt_cons h, linksAt_nil, Weigher.total_append_singleton, cost]

/-! ### Composition -/

theorem isWalk_cons {e e' : Element} {i : LinkId} {ids : List LinkId} :
  net.IsWalk w bans e (i :: ids) e'
    ↔ ∃ l, net.link? i = some l ∧ l.src.element = e ∧ w.Admits bans i l
        ∧ net.IsWalk w bans l.dst.element ids e'
  := Iff.rfl

theorem isWalk_append {e e' : Element} {ids ids' : List LinkId} :
  net.IsWalk w bans e (ids ++ ids') e'
    ↔ ∃ m, net.IsWalk w bans e ids m ∧ net.IsWalk w bans m ids' e'
  := by
  induction ids generalizing e with
  | nil => simp [IsWalk]
  | cons i ids ih =>
      simp only [List.cons_append, isWalk_cons, ih]
      constructor
      · rintro ⟨l, hl, hsrc, hadmits, m, hm, hm'⟩
        exact ⟨m, ⟨l, hl, hsrc, hadmits, hm⟩, hm'⟩
      · rintro ⟨m, ⟨l, hl, hsrc, hadmits, hm⟩, hm'⟩
        exact ⟨l, hl, hsrc, hadmits, m, hm, hm'⟩

theorem isWalk_singleton {e e' : Element} {i : LinkId} :
  net.IsWalk w bans e [i] e'
    ↔ ∃ l, net.link? i = some l ∧ l.src.element = e ∧ w.Admits bans i l ∧ l.dst.element = e'
  := Iff.rfl

namespace IsWalk

variable {e e' : Element} {ids : List LinkId}

/-- Where a walk ends is the last element it visits. -/
theorem getLast_eq (h : net.IsWalk w bans e ids e') :
  (e :: net.targets ids).getLast (List.cons_ne_nil _ _) = e'
  := by
  induction ids generalizing e with
  | nil => apply h
  | cons i ids ih =>
      obtain ⟨l, hl, -, -, hrest⟩ := h
      simp only [targets_cons hl]
      rw [List.getLast_cons (List.cons_ne_nil _ _)]
      apply ih hrest

/-- Where a walk ends is determined by where it begins and by its places. -/
theorem end_unique {e'' : Element} (h : net.IsWalk w bans e ids e')
    {w' : Weigher} {bans' : Bans} (h' : net.IsWalk w' bans' e ids e'') :
  e' = e''
  := h.getLast_eq.symm.trans h'.getLast_eq

theorem end_mem_targets (h : net.IsWalk w bans e ids e') (hne : ids ≠ []) :
  e' ∈ net.targets ids
  := by
  obtain ⟨i, rest, rfl⟩ := List.exists_cons_of_ne_nil hne
  obtain ⟨l, hl, -, -, hrest⟩ := h
  rw [targets_cons hl, ← hrest.getLast_eq]
  apply List.getLast_mem

theorem length_targets (h : net.IsWalk w bans e ids e') :
  (net.targets ids).length = ids.length
  := by
  induction ids generalizing e with
  | nil => rfl
  | cons i ids ih =>
      obtain ⟨l, hl, -, -, hrest⟩ := h
      rw [targets_cons hl, List.length_cons, List.length_cons, ih hrest]

/-- The links of a walk leave the elements that it visits. -/
theorem src_mem (h : net.IsWalk w bans e ids e') {i : LinkId} (hi : i ∈ ids) :
  ∃ l, net.link? i = some l ∧ l.src.element ∈ e :: net.targets ids
  := by
  induction ids generalizing e with
  | nil => cases hi
  | cons j ids ih =>
      obtain ⟨l, hl, hsrc, -, hrest⟩ := h
      obtain rfl | hi := List.mem_cons.mp hi
      · exact ⟨l, hl, hsrc ▸ List.mem_cons_self⟩
      · obtain ⟨l', hl', hmem⟩ := ih hrest hi
        rw [targets_cons hl]
        exact ⟨l', hl', List.mem_cons_of_mem e hmem⟩

/-- The links of a walk are admitted. -/
theorem admits (h : net.IsWalk w bans e ids e') {i : LinkId} (hi : i ∈ ids) :
  ∃ l, net.link? i = some l ∧ w.Admits bans i l
  := by
  induction ids generalizing e with
  | nil => cases hi
  | cons j ids ih =>
      obtain ⟨l, hl, -, hadmits, hrest⟩ := h
      obtain rfl | hi := List.mem_cons.mp hi
      · exact ⟨l, hl, hadmits⟩
      · apply ih hrest hi

/-- The links of a walk are viable links of the network. -/
theorem viable (h : net.IsWalk w bans e ids e') {l : Link} (hl : l ∈ net.linksAt ids) :
  l ∈ net.links ∧ l.isExcluded = false ∧ (w.weight l).isFinite = true
  := by
  obtain ⟨i, hi, hli⟩ := List.mem_filterMap.mp hl
  obtain ⟨l', hl', hadmits⟩ := h.admits hi
  obtain rfl := Option.some.inj (hl'.symm.trans hli)
  exact ⟨List.mem_of_getElem? hli, hadmits.not_excluded, hadmits.isFinite⟩

theorem length_linksAt (h : net.IsWalk w bans e ids e') :
  (net.linksAt ids).length = ids.length
  := by
  rw [← h.length_targets, targets, List.length_map]

/-- A walk enters no banned element. -/
theorem target_not_mem_bans (h : net.IsWalk w bans e ids e') {x : Element}
    (hx : x ∈ net.targets ids) :
  x ∉ bans.elements
  := by
  induction ids generalizing e with
  | nil => cases hx
  | cons j ids ih =>
      obtain ⟨l, hl, -, hadmits, hrest⟩ := h
      rw [targets_cons hl] at hx
      obtain rfl | hx := List.mem_cons.mp hx
      · apply hadmits.target_not_mem
      · apply ih hrest hx

/-- Bans may be dropped. -/
theorem of_bans (h : net.IsWalk w bans e ids e') :
  net.IsWalk w {} e ids e'
  := by
  induction ids generalizing e with
  | nil => apply h
  | cons i ids ih =>
      obtain ⟨l, hl, hsrc, hadmits, hrest⟩ := h
      exact ⟨l, hl, hsrc,
        ⟨List.not_mem_nil, hadmits.not_excluded, List.not_mem_nil, hadmits.isFinite⟩, ih hrest⟩

/-- A walk may be banned from links and elements that it keeps clear of. -/
theorem with_bans (h : net.IsWalk w {} e ids e') (hlinks : ∀ i ∈ ids, i ∉ bans.links)
    (helements : ∀ x ∈ net.targets ids, x ∉ bans.elements) :
  net.IsWalk w bans e ids e'
  := by
  induction ids generalizing e with
  | nil => apply h
  | cons i ids ih =>
      obtain ⟨l, hl, hsrc, hadmits, hrest⟩ := h
      rw [targets_cons hl, List.forall_mem_cons] at helements
      rw [List.forall_mem_cons] at hlinks
      exact ⟨l, hl, hsrc, ⟨hlinks.1, hadmits.not_excluded, helements.1, hadmits.isFinite⟩,
        ih hrest hlinks.2 helements.2⟩

end IsWalk

/-! ### Routes -/

namespace IsRoute

variable {src dst : Element} {ids : List LinkId}

/-- The element at the end of a root of a route, and the rest of the route from there. -/
theorem split {root rest : List LinkId} (h : net.IsRoute w src dst (root ++ rest)) :
  ∃ e, net.IsWalk w {} src root e ∧ net.IsRoute w e dst rest
  := by
  obtain ⟨e, hroot, hrest⟩ := isWalk_append.mp h.isWalk
  refine ⟨e, hroot, hrest, ?_⟩
  have hnodup := h.nodup
  rw [targets_append, ← List.cons_append, List.nodup_append] at hnodup
  obtain ⟨-, hnodup, hdisjoint⟩ := hnodup
  rw [List.nodup_cons]
  constructor
  · intro hmem
    have hlast : e ∈ src :: net.targets root := by
      rw [← hroot.getLast_eq]
      apply List.getLast_mem
    apply hdisjoint e hlast e hmem rfl
  · apply hnodup

/-- The links of a route after the first never leave the element where it starts. -/
theorem src_ne {i j : LinkId} {rest : List LinkId} (h : net.IsRoute w src dst (i :: rest))
    (hj : j ∈ rest) {l : Link} (hl : net.link? j = some l) :
  l.src.element ≠ src
  := by
  obtain ⟨l', hl', -, -, hrest⟩ := h.isWalk
  have hnodup := h.nodup
  rw [targets_cons hl', List.nodup_cons] at hnodup
  obtain ⟨l'', hl'', hmem⟩ := hrest.src_mem hj
  obtain rfl := Option.some.inj (hl.symm.trans hl'')
  rintro rfl
  apply hnodup.1 hmem

/-- A route to an element does not go on from there. -/
theorem eq_of_isPrefix {ids' : List LinkId} (h : net.IsRoute w src dst ids)
    (h' : net.IsRoute w src dst ids') (hstart : ids <+: ids') :
  ids = ids'
  := by
  obtain ⟨rest, rfl⟩ := hstart
  obtain ⟨e, hroot, hrest⟩ := h'.split
  obtain rfl := h.isWalk.end_unique hroot
  by_contra hne
  have hrest_ne : rest ≠ [] := by
    rintro rfl
    apply hne (List.append_nil ids).symm
  have hnodup := hrest.nodup
  rw [List.nodup_cons] at hnodup
  apply hnodup.1 (hrest.isWalk.end_mem_targets hrest_ne)

end IsRoute

/-! ### Counting -/

variable (net w) in
/-- The routes from one element to another. -/
def routes (src dst : Element) : Set (List LinkId) :=
  {ids | net.IsRoute w src dst ids}

theorem IsRoute.length_le {src dst : Element} {ids : List LinkId}
    (h : net.IsRoute w src dst ids) :
  ids.length ≤ net.links.length
  := by
  have hsubset : net.targets ids ⊆ net.links.map (·.dst.element) := by
    apply List.map_subset
    intro l hl
    obtain ⟨i, -, hi⟩ := List.mem_filterMap.mp hl
    apply List.mem_of_getElem? hi
  have hlength := (List.subperm_of_subset (List.nodup_cons.mp h.nodup).2 hsubset).length_le
  rw [h.isWalk.length_targets, List.length_map] at hlength
  apply hlength

variable (net w) in
/-- There are finitely many routes, as none takes more links than there are. -/
theorem finite_routes (src dst : Element) :
  (net.routes w src dst).Finite
  := by
  have hfinite := (List.finite_length_le (Fin net.links.length) net.links.length).image
    (List.map Fin.val)
  apply hfinite.subset
  intro ids hids
  have hplaces : ∀ i ∈ ids, i < net.links.length := by
    intro i hi
    obtain ⟨l, hl, -⟩ := hids.isWalk.admits hi
    apply (List.getElem?_eq_some_iff.mp hl).1
  use ids.pmap Fin.mk hplaces
  constructor
  · rw [Set.mem_ofPred_eq, List.length_pmap]
    apply hids.length_le
  · rw [List.map_pmap, List.pmap_eq_map, List.map_id']

end Network

end ReliableRouting
