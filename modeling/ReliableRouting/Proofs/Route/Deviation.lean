import ReliableRouting.Proofs.Route.Exact
import ReliableRouting.Proofs.Route.Shortest

/-!
# Deviations

A route departs from the accepted ones at a root if it goes on from there by a link by which
none of them does. At each spur of a route there is a candidate as soon as any route departs
there: the candidate departs at the same root, it is a route, and if costs add up without
rounding, no route that departs there is cheaper.

The banned links all leave the spur's element. A route that departs there never comes back
to it, so the ban takes nothing from it but its first link.
-/

namespace ReliableRouting

open Network

/-- A route that is what its links say: it visits their elements, no element twice, and
costs what they cost. -/
structure Route.Valid (net : Network) (w : Weigher) (src dst : Element) (r : Route) : Prop where
  isRoute : net.IsRoute w src dst r.links
  stops_eq : r.stops = src :: net.targets r.links
  cost_eq : r.cost = net.cost w r.links

/-- The links go on from a root by a link by which no accepted route does. -/
def Departs (accepted : List Route) (root ids : List LinkId) : Prop :=
  ∃ i, root ++ [i] <+: ids ∧ ∀ r ∈ accepted, ¬ root ++ [i] <+: r.links

variable {net : Network} {w : Weigher} {src dst : Element} {accepted : List Route}

/-! ### Roots -/

theorem isPrefix_of_append_singleton {root ids : List LinkId} {i : LinkId}
    (h : root ++ [i] <+: ids) :
  root <+: ids
  := (List.prefix_append root [i]).trans h

/-- A link leaves a root on a route where the root with the link begins the route. -/
theorem Route.linkAfter?_eq_some_iff {root : List LinkId} {r : Route} {i : LinkId} :
  r.linkAfter? root = some i ↔ root ++ [i] <+: r.links
  := by
  rw [Route.linkAfter?]
  constructor
  · intro h
    split_ifs at h with htake
    rw [List.prefix_iff_eq_take, List.length_append, List.length_singleton, List.take_add_one,
      htake, h]
    rfl
  · rintro ⟨rest, hrest⟩
    simp [← hrest]

namespace Departs

theorem isPrefix {root ids : List LinkId} (h : Departs accepted root ids) :
  root <+: ids
  := by
  obtain ⟨i, hi, -⟩ := h
  apply isPrefix_of_append_singleton hi

theorem of_append {more : List Route} {root ids : List LinkId}
    (h : Departs (accepted ++ more) root ids) :
  Departs accepted root ids
  := by
  obtain ⟨i, hi, hnew⟩ := h
  use i, hi
  intro r hr
  apply hnew r (List.mem_append_left _ hr)

/-- Accepting a route that does not begin with the root matters not. -/
theorem append_singleton {r : Route} {root ids : List LinkId} (h : Departs accepted root ids)
    (hroot : ¬ root <+: r.links) :
  Departs (accepted ++ [r]) root ids
  := by
  obtain ⟨i, hi, hnew⟩ := h
  use i, hi
  intro r' hr'
  rcases List.mem_append.mp hr' with hr' | hr'
  · apply hnew r' hr'
  · rw [List.mem_singleton.mp hr']
    exact fun hi' => hroot (isPrefix_of_append_singleton hi')

/-- No accepted route departs. -/
theorem ne_links {root ids : List LinkId} (h : Departs accepted root ids) {r : Route}
    (hr : r ∈ accepted) :
  r.links ≠ ids
  := by
  obtain ⟨i, hi, hnew⟩ := h
  rintro rfl
  apply hnew r hr hi

/-- A route that is not accepted departs somewhere along an accepted one. -/
theorem exists_of_not_mem {ids : List LinkId} (hids : net.IsRoute w src dst ids)
    (hvalid : ∀ r ∈ accepted, r.Valid net w src dst) (hne : accepted ≠ [])
    (hnew : ∀ r ∈ accepted, r.links ≠ ids) :
  ∃ r ∈ accepted, ∃ root, root <+: r.links ∧ Departs accepted root ids
  := by
  have hdeparts : ∀ rest root, root ++ rest = ids → (∃ r ∈ accepted, root <+: r.links) →
      ∃ r ∈ accepted, ∃ root, root <+: r.links ∧ Departs accepted root ids := by
    intro rest
    induction rest with
    | nil =>
        rintro root hids' ⟨r, hr, hroot⟩
        rw [List.append_nil] at hids'
        rw [hids'] at hroot
        apply absurd (hids.eq_of_isPrefix (hvalid r hr).isRoute hroot).symm (hnew r hr)
    | cons i rest ih =>
        rintro root hids' ⟨r, hr, hroot⟩
        rw [← List.singleton_append, ← List.append_assoc] at hids'
        by_cases hlonger : ∃ r ∈ accepted, root ++ [i] <+: r.links
        · apply ih (root ++ [i]) hids' hlonger
        · refine ⟨r, hr, root, hroot, i, ⟨rest, hids'⟩, ?_⟩
          intro r' hr' hi
          apply hlonger ⟨r', hr', hi⟩
  obtain ⟨r, rest, rfl⟩ := List.exists_cons_of_ne_nil hne
  apply hdeparts ids [] (List.nil_append ids)
  exact ⟨r, List.mem_cons_self, List.nil_prefix⟩

end Departs

/-! ### Spurs -/

namespace Spur

/-- A spur stands at the end of a proper root of a route, and the links by which accepted
routes leave the root are banned, as are the elements of the root. -/
structure IsAt (net : Network) (w : Weigher) (src dst : Element) (accepted : List Route)
    (s : Spur) : Prop where
  isRoute : ∃ rest, rest ≠ [] ∧ net.IsRoute w src dst (s.root ++ rest)
  isWalk : net.IsWalk w {} src s.root s.element
  stops_eq : s.rootStops ++ [s.element] = src :: net.targets s.root
  mem_links_iff : ∀ i, i ∈ s.bans.links ↔ ∃ r ∈ accepted, s.root ++ [i] <+: r.links
  elements_eq : s.bans.elements = s.rootStops

end Spur

namespace Route

variable {r : Route} {s : Spur}

theorem mem_spurs_iff :
  s ∈ r.spurs accepted
    ↔ ∃ i e, i < r.links.length ∧ r.stops[i]? = some e ∧ r.spurAt accepted i e = s
  := by
  simp only [spurs, List.mem_map, Prod.exists, List.mem_zipIdx_iff_getElem?]
  constructor
  · rintro ⟨e, i, he, rfl⟩
    rw [List.getElem?_take] at he
    split_ifs at he with hi
    exact ⟨i, e, hi, he, rfl⟩
  · rintro ⟨i, e, hi, he, rfl⟩
    refine ⟨e, i, ?_, rfl⟩
    rw [List.getElem?_take, if_pos hi, he]

namespace Valid

theorem length_stops (h : r.Valid net w src dst) :
  r.stops.length = r.links.length + 1
  := by
  rw [h.stops_eq, List.length_cons, h.isRoute.isWalk.length_targets]

/-- The elements of a root end where its spur stands. -/
theorem take_stops (h : r.Valid net w src dst) {i : ℕ} (hi : i < r.links.length) {e : Element}
    (he : r.stops[i]? = some e) :
  r.stops.take i ++ [e] = src :: net.targets (r.links.take i)
  := by
  obtain ⟨m, hroot, -⟩ := isWalk_append.mp (List.take_append_drop i r.links ▸ h.isRoute.isWalk)
  have hlength : (src :: net.targets (r.links.take i)).length = i + 1 := by
    rw [List.length_cons, hroot.length_targets, List.length_take, Nat.min_eq_left hi.le]
  have hstops : r.stops
      = (src :: net.targets (r.links.take i)) ++ net.targets (r.links.drop i) := by
    rw [h.stops_eq, List.cons_append, ← Network.targets_append, List.take_append_drop]
  calc
    r.stops.take i ++ [e] = r.stops.take (i + 1) := by rw [List.take_add_one, he]; rfl
    _ = src :: net.targets (r.links.take i) := by rw [hstops, List.take_left' hlength]

theorem spurAt_isAt (h : r.Valid net w src dst) {i : ℕ} (hi : i < r.links.length) {e : Element}
    (he : r.stops[i]? = some e) :
  (r.spurAt accepted i e).IsAt net w src dst accepted
  where
  isRoute := by
    use r.links.drop i
    constructor
    · apply List.drop_eq_nil_iff.not.mpr (Nat.not_le.mpr hi)
    · apply (List.take_append_drop i r.links).symm ▸ h.isRoute
  isWalk := by
    obtain ⟨m, hroot, -⟩ := isWalk_append.mp (List.take_append_drop i r.links ▸ h.isRoute.isWalk)
    have hlast := hroot.getLast_eq
    simp only [← h.take_stops hi he, List.getLast_append_singleton] at hlast
    apply hlast ▸ hroot
  stops_eq := h.take_stops hi he
  mem_links_iff j := by
    simp only [spurAt, List.mem_filterMap, linkAfter?_eq_some_iff]
  elements_eq := rfl

theorem isAt_of_mem_spurs (h : r.Valid net w src dst) (hs : s ∈ r.spurs accepted) :
  s.IsAt net w src dst accepted
  := by
  obtain ⟨i, e, hi, he, rfl⟩ := mem_spurs_iff.mp hs
  apply h.spurAt_isAt hi he

/-- A route has a spur at each of its proper roots. -/
theorem exists_mem_spurs (h : r.Valid net w src dst) (accepted : List Route)
    {root : List LinkId} (hroot : root <+: r.links) (hne : root ≠ r.links) :
  ∃ s ∈ r.spurs accepted, s.root = root
  := by
  have hlength : root.length < r.links.length :=
    hroot.length_le.lt_of_ne fun heq => hne (hroot.eq_of_length heq)
  have hstop : root.length < r.stops.length := by
    rw [h.length_stops]
    omega
  refine ⟨_, mem_spurs_iff.mpr ⟨root.length, _, hlength, List.getElem?_eq_getElem hstop, rfl⟩, ?_⟩
  apply (List.prefix_iff_eq_take.mp hroot).symm

end Valid

end Route

/-! ### Candidates -/

namespace Spur.IsAt

variable {s : Spur} (h : s.IsAt net w src dst accepted)

include h

/-- The elements of a root followed by those of a rest from the spur are the elements of
both together. -/
theorem rootStops_append (ids : List LinkId) :
  s.rootStops ++ s.element :: net.targets ids = src :: net.targets (s.root ++ ids)
  := by
  rw [← List.singleton_append, ← List.append_assoc, h.stops_eq, targets_append, List.cons_append]

theorem nodup_rootStops :
  (s.rootStops ++ [s.element]).Nodup
  := by
  obtain ⟨rest, -, hroute⟩ := h.isRoute
  have hnodup := hroute.nodup
  rw [targets_append, ← List.cons_append, ← h.stops_eq] at hnodup
  apply hnodup.of_append_left

theorem element_ne_dst :
  s.element ≠ dst
  := by
  obtain ⟨rest, hne, hroute⟩ := h.isRoute
  obtain ⟨e, hroot, hrest⟩ := hroute.split
  obtain rfl := hroot.end_unique h.isWalk
  rintro rfl
  have hnodup := hrest.nodup
  rw [List.nodup_cons] at hnodup
  apply hnodup.1 (hrest.isWalk.end_mem_targets hne)

/-- A walk from the spur that heeds the bans completes the root to a route. -/
theorem isRoute_append {ids : List LinkId} (hids : net.IsWalk w s.bans s.element ids dst)
    (hnodup : (s.element :: net.targets ids).Nodup) :
  net.IsRoute w src dst (s.root ++ ids)
  where
  isWalk := isWalk_append.mpr ⟨s.element, h.isWalk, hids.of_bans⟩
  nodup := by
    have hroot := h.nodup_rootStops
    rw [List.nodup_append] at hroot
    rw [← h.rootStops_append, List.nodup_append]
    refine ⟨hroot.1, hnodup, ?_⟩
    rintro x hx y hy rfl
    rcases List.mem_cons.mp hy with rfl | hy
    · apply hroot.2.2 s.element hx s.element (List.mem_singleton_self _) rfl
    · apply hids.target_not_mem_bans hy
      rw [h.elements_eq]
      apply hx

/-- A walk from the spur that heeds the bans departs there. -/
theorem departs_append {ids : List LinkId} (hids : net.IsWalk w s.bans s.element ids dst) :
  Departs accepted s.root (s.root ++ ids)
  := by
  cases ids with
  | nil => apply absurd hids h.element_ne_dst
  | cons i ids =>
      obtain ⟨l, -, -, hadmits, -⟩ := hids
      refine ⟨i, ⟨ids, List.append_cons _ _ _ |>.symm⟩, ?_⟩
      intro r hr hi
      apply hadmits.link_not_mem
      apply (h.mem_links_iff i).mpr ⟨r, hr, hi⟩

/-- The rest of a route that departs at a root heeds the bans of the spur there. -/
theorem isWalk_rest (hvalid : ∀ r ∈ accepted, r.Valid net w src dst) {i : LinkId}
    {rest : List LinkId} (hroute : net.IsRoute w src dst (s.root ++ i :: rest))
    (hrest : net.IsRoute w s.element dst (i :: rest))
    (hnew : ∀ r ∈ accepted, ¬ s.root ++ [i] <+: r.links) :
  net.IsWalk w s.bans s.element (i :: rest) dst
  := by
  apply hrest.isWalk.with_bans
  · intro j hj hbanned
    obtain ⟨r, hr, hjr⟩ := (h.mem_links_iff j).mp hbanned
    rcases List.mem_cons.mp hj with rfl | hj
    · apply hnew r hr hjr
    · -- A banned link leaves the spur's element, where the rest does not come again.
      obtain ⟨more, hmore⟩ := hjr
      have hwalk := (hvalid r hr).isRoute.isWalk
      rw [← hmore, List.append_assoc] at hwalk
      obtain ⟨e, hroot, hlast⟩ := isWalk_append.mp hwalk
      obtain rfl := hroot.end_unique h.isWalk
      obtain ⟨l, hl, hsrc, -, -⟩ := hlast
      apply hrest.src_ne hj hl hsrc
  · intro x hx hbanned
    rw [h.elements_eq] at hbanned
    have hnodup := hroute.nodup
    rw [← h.rootStops_append, List.nodup_append] at hnodup
    apply hnodup.2.2 x hbanned x (List.mem_cons_of_mem _ hx) rfl

/-- The candidate at a spur is a route that departs there. -/
theorem of_route?_eq_some {c : Route} (hc : s.route? net w dst = some c) :
  c.Valid net w src dst ∧ Departs accepted s.root c.links
  := by
  obtain ⟨tail, htail, rfl⟩ := Option.map_eq_some_iff.mp hc
  obtain ⟨hwalk, hstops, hnodup, -⟩ := of_shortest?_eq_some htail
  rw [hstops] at hnodup
  refine ⟨⟨h.isRoute_append hwalk hnodup, ?_, rfl⟩, h.departs_append hwalk⟩
  rw [← h.rootStops_append, ← hstops]

/-- Where a route departs, there is a candidate. Unless something is rounded, it costs no
more than the route. -/
theorem exists_route?_eq_some (hvalid : ∀ r ∈ accepted, r.Valid net w src dst)
    {ids : List LinkId} (hids : net.IsRoute w src dst ids)
    (hdeparts : Departs accepted s.root ids) :
  ∃ c, s.route? net w dst = some c ∧ (net.AddsExactly w → c.cost ≤ net.cost w ids)
  := by
  obtain ⟨i, ⟨rest, hi⟩, hnew⟩ := hdeparts
  rw [List.append_assoc, List.singleton_append] at hi
  subst hi
  obtain ⟨e, hroot, hrest⟩ := hids.split
  obtain rfl := hroot.end_unique h.isWalk
  have hwalk := h.isWalk_rest hvalid hids hrest hnew
  cases htail : net.shortest? w s.bans s.element dst with
  | none => apply absurd hwalk (not_isWalk_of_shortest?_eq_none htail _)
  | some tail =>
      obtain ⟨htail_walk, hstops, hnodup, hcost, hcheapest⟩ := of_shortest?_eq_some htail
      rw [hstops] at hnodup
      refine ⟨_, Option.map_eq_some_iff.mpr ⟨tail, htail, rfl⟩, ?_⟩
      intro hexact
      have hroute := h.isRoute_append htail_walk hnodup
      have hle := Weight.le_iff.mp (hcheapest _ hwalk)
      rw [hcost] at hle
      rw [Weight.le_iff, hexact.steps_cost_append hids hrest]
      apply (hexact.steps_cost_append hroute ⟨htail_walk.of_bans, hnodup⟩).trans_le
      apply add_le_add_right hle

end Spur.IsAt

end ReliableRouting
