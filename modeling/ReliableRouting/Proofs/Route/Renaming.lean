import ReliableRouting.Proofs.Route.Shortest

/-!
# Renaming places

A search looks at the place of a link for no other purpose than to tell links apart, and at
the links that leave an element only in so far as they are passages. So when a network has
the passages of another one, in the same order but under other names, a search finds the
same routes there under these names, at the same costs and in the same order. Every
function that takes part in a search commutes with a renaming that keeps different places
different.
-/

namespace ReliableRouting

/-! ### Renaming the data of a search -/

section Rename

variable (φ : LinkId → LinkId)

/-- The passage under another name. -/
def Passage.rename (p : Passage) : Passage :=
  { p with link := φ p.link }

/-- The bans with the links under other names. -/
def Bans.rename (bans : Bans) : Bans :=
  { bans with links := bans.links.map φ }

/-- The trail with the links taken under other names. -/
def Trail.rename (t : Trail) : Trail :=
  { t with steps := t.steps.map fun (i, e) => (φ i, e) }

/-- What an exploration has found, under other names. -/
def Exploration.rename (x : Exploration) : Exploration :=
  { x with found := x.found.map (Trail.rename φ) }

/-- The route with its links under other names. -/
def Route.rename (r : Route) : Route :=
  { r with links := r.links.map φ }

/-- The spur with all links under other names. -/
def Spur.rename (s : Spur) : Spur :=
  { s with root := s.root.map φ, bans := s.bans.rename φ }

/-- The pool with all routes renamed. -/
def Pool.rename (p : Pool) : Pool where
  accepted := p.accepted.map (Route.rename φ)
  last := p.last.rename φ
  candidates := p.candidates.map (Route.rename φ)

end Rename

/-- The passages of a network are those of another one under other names. -/
structure Network.IsRenamed (w : Weigher) (φ : LinkId → LinkId) (net net' : Network) :
    Prop where
  injective : Function.Injective φ
  contains_eq : net'.contains = net.contains
  link?_eq : ∀ i, net'.link? (φ i) = net.link? i
  length_le : net.links.length ≤ net'.links.length
  passages_eq : ∀ bans e,
    net'.passages w (bans.rename φ) e = (net.passages w bans e).map (Passage.rename φ)

variable {φ : LinkId → LinkId}

/-! ### Explorations -/

theorem Trail.route_rename (t : Trail) :
  (t.rename φ).route = t.route.rename φ
  := by
  simp [Trail.rename, Trail.route, Route.rename, Function.comp_def]

theorem Trail.continuations_rename (passages : List Passage) (settled : List Element)
    (t : Trail) :
  (t.rename φ).continuations (passages.map (Passage.rename φ)) settled
    = (t.continuations passages settled).map (Trail.rename φ)
  := by
  rw [Trail.continuations, List.filter_map, List.map_map, Trail.continuations, List.map_map]
  rfl

theorem explore_rename {passages passages' : Element → List Passage}
    (h : ∀ e, passages' e = (passages e).map (Passage.rename φ)) (dst : Element) (fuel : ℕ)
    (settled : List Element) (frontier : List Trail) :
  explore passages' dst fuel settled (frontier.map (Trail.rename φ))
    = (explore passages dst fuel settled frontier).rename φ
  := by
  induction fuel generalizing settled frontier with
  | zero => rfl
  | succ fuel ih =>
      have htake := takeCheapest_map Trail.cost Trail.cost (Trail.rename φ) (fun _ => rfl) frontier
      rw [explore, explore, htake]
      cases takeCheapest Trail.cost frontier with
      | none => rfl
      | some taken =>
          obtain ⟨t, others⟩ := taken
          have hstop : (t.rename φ).stop = t.stop := rfl
          simp only [Option.map_some, hstop]
          split_ifs
          · apply ih
          · rfl
          · rw [h, Trail.continuations_rename, ← List.map_append]
            apply ih

/-! ### Places -/

theorem take_map_eq_iff (hφ : Function.Injective φ) (root ids : List LinkId) :
  (ids.map φ).take (root.map φ).length = root.map φ ↔ ids.take root.length = root
  := by
  rw [List.length_map, ← List.map_take, (List.map_injective_iff.mpr hφ).eq_iff]

namespace Route

variable (hφ : Function.Injective φ)

include hφ

theorem linkAfter?_rename (root : List LinkId) (r : Route) :
  (r.rename φ).linkAfter? (root.map φ) = (r.linkAfter? root).map φ
  := by
  have hroot := take_map_eq_iff hφ root r.links
  rw [linkAfter?, linkAfter?, Route.rename]
  simp only [hroot]
  split_ifs
  · rw [List.length_map, List.getElem?_map]
  · rfl

theorem spurAt_rename (accepted : List Route) (r : Route) (i : ℕ) (e : Element) :
  (r.rename φ).spurAt (accepted.map (Route.rename φ)) i e
    = (r.spurAt accepted i e).rename φ
  := by
  have hroot : (r.rename φ).links.take i = (r.links.take i).map φ := List.map_take.symm
  have hbans : (accepted.map (Route.rename φ)).filterMap (linkAfter? ((r.links.take i).map φ))
      = (accepted.filterMap (linkAfter? (r.links.take i))).map φ := by
    rw [List.filterMap_map, List.map_filterMap]
    apply List.filterMap_congr
    intro r' _
    apply linkAfter?_rename hφ
  rw [spurAt, hroot, hbans]
  rfl

theorem spurs_rename (accepted : List Route) (r : Route) :
  (r.rename φ).spurs (accepted.map (Route.rename φ)) = (r.spurs accepted).map (Spur.rename φ)
  := by
  have hlength : (r.rename φ).links.length = r.links.length := List.length_map φ
  rw [spurs, hlength, spurs, List.map_map]
  apply List.map_congr_left
  rintro ⟨e, i⟩ -
  apply spurAt_rename hφ

end Route

theorem Route.sortByCost_rename (routes : List Route) :
  Route.sortByCost (routes.map (Route.rename φ)) = (Route.sortByCost routes).map (Route.rename φ)
  := by
  symm
  apply List.map_mergeSort
  intro a _ b _
  rfl

/-! ### Pools -/

namespace Pool

theorem addCandidate_rename (hφ : Function.Injective φ) (accepted candidates : List Route)
    (r : Route) :
  addCandidate (accepted.map (Route.rename φ)) (candidates.map (Route.rename φ)) (r.rename φ)
    = (addCandidate accepted candidates r).map (Route.rename φ)
  := by
  have hlinks : ∀ known : Route,
      (known.rename φ).links = (r.rename φ).links ↔ known.links = r.links :=
    fun known => (List.map_injective_iff.mpr hφ).eq_iff
  rw [addCandidate, addCandidate, ← List.map_append, List.any_map]
  simp only [Function.comp_def, hlinks]
  split_ifs
  · rfl
  · rw [List.map_append, List.map_singleton]

theorem foldl_addCandidate_rename (hφ : Function.Injective φ)
    (accepted candidates routes : List Route) :
  (routes.map (Route.rename φ)).foldl (addCandidate (accepted.map (Route.rename φ)))
      (candidates.map (Route.rename φ))
    = (routes.foldl (addCandidate accepted) candidates).map (Route.rename φ)
  := by
  induction routes generalizing candidates with
  | nil => rfl
  | cons r routes ih =>
      rw [List.map_cons, List.foldl_cons, addCandidate_rename hφ, ih, List.foldl_cons]

end Pool

/-! ### Searches -/

namespace Network.IsRenamed

variable {net net' : Network} {w : Weigher} (h : net.IsRenamed w φ net')

include h

theorem linksAt_map (ids : List LinkId) :
  net'.linksAt (ids.map φ) = net.linksAt ids
  := by
  rw [linksAt, List.filterMap_map]
  apply List.filterMap_congr
  intro i _
  apply h.link?_eq

/-- The exploration of the other network has fuel to spare, if anything. -/
theorem explore_eq (bans : Bans) (src dst : Element) :
  net'.explore w (bans.rename φ) src dst = (net.explore w bans src dst).rename φ
  := by
  have hfuel := Nat.succ_le_succ h.length_le
  rw [← explore_eq_of_le hfuel, Network.explore]
  apply explore_rename (h.passages_eq bans) dst _ [] [.start src]

theorem shortest?_eq (bans : Bans) (src dst : Element) :
  net'.shortest? w (bans.rename φ) src dst
    = (net.shortest? w bans src dst).map (Route.rename φ)
  := by
  rw [shortest?, h.explore_eq, Exploration.rename, shortest?, Option.map_map, Option.map_map]
  congr 1
  funext t
  apply Trail.route_rename

theorem route?_eq (dst : Element) (s : Spur) :
  (s.rename φ).route? net' w dst = (s.route? net w dst).map (Route.rename φ)
  := by
  have htail := h.shortest?_eq s.bans s.element dst
  rw [Spur.route?, Spur.rename, htail, Spur.route?, Option.map_map, Option.map_map]
  congr 1
  funext tail
  have hlinks : s.root.map φ ++ (tail.rename φ).links = (s.root ++ tail.links).map φ :=
    List.map_append.symm
  simp only [Function.comp_apply, hlinks, h.linksAt_map]
  rfl

theorem widened_eq (dst : Element) (p : Pool) :
  (p.rename φ).widened net' w dst = (p.widened net w dst).map (Route.rename φ)
  := by
  have hroutes : ((p.last.spurs p.accepted).map (Spur.rename φ)).filterMap
        (Spur.route? net' w dst)
      = ((p.last.spurs p.accepted).filterMap (Spur.route? net w dst)).map (Route.rename φ) := by
    rw [List.filterMap_map, List.map_filterMap]
    apply List.filterMap_congr
    intro s _
    apply h.route?_eq
  rw [Pool.widened, Pool.rename, Route.spurs_rename h.injective, hroutes,
    Pool.foldl_addCandidate_rename h.injective, Pool.widened]

theorem next?_eq (dst : Element) (p : Pool) :
  (p.rename φ).next? net' w dst = (p.next? net w dst).map (Pool.rename φ)
  := by
  have htake := takeCheapest_map Route.cost Route.cost (Route.rename φ) (fun _ => rfl)
    (p.widened net w dst)
  rw [Pool.next?, h.widened_eq, htake, Pool.next?, Option.map_map, Option.map_map]
  congr 1
  funext taken
  simp [Pool.rename]

theorem grow_eq (dst : Element) (n : ℕ) (p : Pool) :
  Pool.grow net' w dst n (p.rename φ) = (Pool.grow net w dst n p).rename φ
  := by
  induction n generalizing p with
  | zero => rfl
  | succ n ih =>
      rw [Pool.grow, h.next?_eq, Pool.grow]
      cases p.next? net w dst with
      | none => rfl
      | some q => apply ih

/-- The best routes are the same under other names. -/
theorem bestRoutes_eq (src dst : Element) (k : ℕ) :
  net'.bestRoutes w src dst k = (net.bestRoutes w src dst k).map (Route.rename φ)
  := by
  have hfirst := h.shortest?_eq {} src dst
  have hconnects : net'.connects src dst = net.connects src dst := by
    rw [connects, h.contains_eq, connects]
  rw [bestRoutes, bestRoutes, hconnects]
  split_ifs
  · rfl
  · rw [show ({} : Bans).rename φ = {} from rfl] at hfirst
    rw [hfirst]
    cases net.shortest? w {} src dst with
    | none => rfl
    | some first =>
        have hpool : (Pool.rename φ ⟨[first], first, []⟩)
            = ⟨[first.rename φ], first.rename φ, []⟩ := rfl
        simp only [Option.map_some, ← hpool, h.grow_eq]
        apply Route.sortByCost_rename

/-- A search returns the same paths. -/
theorem search_eq (src dst : Element) (k : ℕ) :
  net'.search w src dst k = net.search w src dst k
  := by
  rw [search, h.bestRoutes_eq, List.filterMap_map]
  apply List.filterMap_congr
  intro r _
  have hlinks : net'.linksAt (r.rename φ).links = net.linksAt r.links := h.linksAt_map r.links
  simp only [Function.comp_apply, Route.path?, hlinks]
  rfl

end Network.IsRenamed

end ReliableRouting
