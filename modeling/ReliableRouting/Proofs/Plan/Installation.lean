import ReliableRouting.Proofs.Plan.RoundTrip

/-!
# Handing over a plan and its way back

A path enters the network at the first device that it visits. Of a link between two devices, it
is the source that is handed over, and so a path that ends with one leaves the network at the
device before the last. For a way back that is the way there mirrored, the two ends change
places exactly where that is not so, and in particular between hosts.
-/

namespace ReliableRouting

/-! ### Ports of links -/

namespace Link

variable {l : Link} {port port' : ConnectPoint}

/-- Both ends of the link are at devices. -/
def JoinsDevices (l : Link) : Prop :=
  l.src.element.isDevice = true ∧ l.dst.element.isDevice = true

theorem joinsDevices_reversed_iff :
  l.reversed.JoinsDevices ↔ l.JoinsDevices
  := and_comm

/-- Of a link between devices, the source is taken. -/
theorem JoinsDevices.devicePort (h : l.JoinsDevices) :
  l.devicePort = .ok l.src
  := if_pos h.1

/-- The end that is taken is the source at a device, or the destination if only that is at one. -/
theorem devicePort_eq_ok_iff :
  l.devicePort = .ok port
    ↔ l.src.element.isDevice = true ∧ l.src = port
      ∨ l.src.element.isDevice = false ∧ l.dst.element.isDevice = true ∧ l.dst = port
  := by
  rw [Link.devicePort]
  cases l.src.element.isDevice with
  | true => simp
  | false =>
      cases l.dst.element.isDevice with
      | true => simp
      | false => simp

/-- Of a link with a single end at a device, the same end is taken in both directions. -/
theorem devicePort_reversed (h : l.devicePort = .ok port) (hjoins : ¬ l.JoinsDevices) :
  l.reversed.devicePort = .ok port
  := by
  apply devicePort_eq_ok_iff.mpr
  rcases devicePort_eq_ok_iff.mp h with ⟨hsrc, rfl⟩ | ⟨-, hdst, rfl⟩
  · have hdst : l.dst.element.isDevice = false :=
      Bool.eq_false_iff.mpr fun hdst => hjoins ⟨hsrc, hdst⟩
    exact .inr ⟨hdst, hsrc, rfl⟩
  · exact .inl ⟨hdst, rfl⟩

/-- Of a link between different elements, the ends that are taken in both directions are at the
same element only if they are the same end. -/
theorem devicePort_reversed_cases (hne : l.src.element ≠ l.dst.element)
    (h : l.devicePort = .ok port) (h' : l.reversed.devicePort = .ok port') :
  l.JoinsDevices ∧ port = l.src ∧ port' = l.dst ∧ port'.element ≠ port.element
    ∨ ¬ l.JoinsDevices ∧ port' = port
  := by
  by_cases hjoins : l.JoinsDevices
  · have hsrc : l.src = port := Except.ok.inj (hjoins.devicePort.symm.trans h)
    have hdst : l.dst = port' :=
      Except.ok.inj ((joinsDevices_reversed_iff.mpr hjoins).devicePort.symm.trans h')
    subst hsrc hdst
    exact .inl ⟨hjoins, rfl, rfl, hne.symm⟩
  · exact .inr ⟨hjoins, Except.ok.inj (h'.symm.trans (devicePort_reversed h hjoins))⟩

end Link

namespace Path

variable {p : Path} {src dst : Element} {port : ConnectPoint}

/-! ### Devices on the way -/

/-- The first device that is visited. -/
def firstDevice? (p : Path) : Option Element :=
  p.stops.find? (·.isDevice)

/-- The last device that is visited. -/
def lastDevice? (p : Path) : Option Element :=
  p.stops.reverse.find? (·.isDevice)

theorem lastDevice?_eq (h : IsChain p.links) :
  p.lastDevice? = p.reversed.firstDevice?
  := by
  rw [lastDevice?, firstDevice?, stops_reversed h]

theorem stops_eq_cons (p : Path) :
  ∃ later, p.stops = p.first.src.element :: p.first.dst.element :: later
  := by
  obtain ⟨links, cost, hne⟩ := p
  obtain ⟨l, rest, rfl⟩ := List.exists_cons_of_ne_nil hne
  exact ⟨rest.map (·.dst.element), rfl⟩

/-- The end that is taken of the first link is at the first device that is visited. -/
theorem firstDevice?_eq_some (h : p.first.devicePort = .ok port) :
  p.firstDevice? = some port.element
  := by
  obtain ⟨later, hstops⟩ := p.stops_eq_cons
  rw [firstDevice?, hstops]
  rcases Link.devicePort_eq_ok_iff.mp h with ⟨hsrc, rfl⟩ | ⟨hsrc, hdst, rfl⟩
  · apply List.find?_cons_of_pos hsrc
  · rw [List.find?_cons_of_neg (Bool.eq_false_iff.mp hsrc)]
    apply List.find?_cons_of_pos hdst

/-- The first link of a path without loops joins different elements. -/
theorem Leads.first_ne (h : p.Leads src dst) :
  p.first.src.element ≠ p.first.dst.element
  := by
  obtain ⟨later, hstops⟩ := p.stops_eq_cons
  have hnodup : p.stops.Nodup := of_decide_eq_true h.isLoopFree
  rw [hstops, List.nodup_cons, List.mem_cons, not_or] at hnodup
  apply hnodup.1.1

/-! ### Installations -/

theorem installation_eq_ok_iff {data : Installation} :
  p.installation = .ok data
    ↔ p.first.devicePort = .ok data.ingress ∧ p.last.devicePort = .ok data.egress
      ∧ p.src.element = data.one ∧ p.dst.element = data.two ∧ p.coreLinks = data.links
  := by
  simp only [installation, bind_eq_ok_iff]
  constructor
  · rintro ⟨ingress, hingress, egress, hegress, ⟨⟩⟩
    exact ⟨hingress, hegress, rfl, rfl, rfl⟩
  · obtain ⟨one, two, ingress, egress, links⟩ := data
    rintro ⟨hingress, hegress, rfl, rfl, rfl⟩
    exact ⟨ingress, hingress, egress, hegress, rfl⟩

/-- A path is entered at the first device that it visits. -/
theorem firstDevice?_eq_ingress {data : Installation} (h : p.installation = .ok data) :
  p.firstDevice? = some data.ingress.element
  := firstDevice?_eq_some (installation_eq_ok_iff.mp h).1

end Path

/-- Where a path is left, how it compares with where the way back is entered. -/
structure Installation.MeetAtEnd (p : Path) (there back : Installation) : Prop where
  /-- The same connect point is taken in both directions unless both ends of the last link are
  at devices. -/
  ingress_eq_iff : back.ingress = there.egress ↔ ¬ p.last.JoinsDevices
  /-- The path is left at the last device it visits, under the same condition. -/
  lastDevice?_eq_iff : p.lastDevice? = some there.egress.element ↔ ¬ p.last.JoinsDevices
  /-- Of a link between devices, each direction takes its own source. -/
  of_joinsDevices : p.last.JoinsDevices → there.egress = p.last.src ∧ back.ingress = p.last.dst

namespace Path

variable {p : Path} {src dst : Element} {there back : Installation}

theorem Leads.meetAtEnd (h : p.Leads src dst) (hthere : p.installation = .ok there)
    (hback : p.reversed.installation = .ok back) :
  Installation.MeetAtEnd p there back
  := by
  have hne : p.last.src.element ≠ p.last.dst.element := by
    have hne := h.reversed.first_ne
    rw [first_reversed] at hne
    apply hne.symm
  obtain ⟨-, hegress, -⟩ := installation_eq_ok_iff.mp hthere
  obtain ⟨hingress, -⟩ := installation_eq_ok_iff.mp hback
  have hlast := (lastDevice?_eq h.isChain).trans (firstDevice?_eq_ingress hback)
  rw [first_reversed] at hingress
  rcases Link.devicePort_reversed_cases hne hegress hingress with
    ⟨hjoins, hsrc, hdst, hdiffer⟩ | ⟨hjoins, hsame⟩
  · constructor
    · apply iff_of_false (fun hsame => hdiffer (congrArg _ hsame)) (not_not_intro hjoins)
    · rw [hlast, Option.some_inj]
      apply iff_of_false hdiffer (not_not_intro hjoins)
    · intro _
      exact ⟨hsrc, hdst⟩
  · constructor
    · apply iff_of_true hsame hjoins
    · rw [hlast, hsame]
      apply iff_of_true rfl hjoins
    · intro hjoins'
      apply absurd hjoins' hjoins

end Path

/-! ### Plans -/

/-- The data for a mirrored plan, there and back. -/
structure RoundTrip.HandedOver (paths : RoundTrip) (there back : Installation) : Prop where
  reverse_eq : paths.reverse = paths.forward.reversed
  one_eq : back.one = there.two
  two_eq : back.two = there.one
  /-- The links are turned round one by one, and come in the opposite order. -/
  links_eq : back.links = (there.links.map Link.reversed).reverse
  firstDevice?_forward : paths.forward.firstDevice? = some there.ingress.element
  firstDevice?_reverse : paths.reverse.firstDevice? = some back.ingress.element
  meetAtEnd_forward : Installation.MeetAtEnd paths.forward there back
  meetAtEnd_reverse : Installation.MeetAtEnd paths.reverse back there

theorem RoundTrip.installations_eq_ok_iff {paths : RoundTrip} {there back : Installation} :
  paths.installations = .ok (there, back)
    ↔ paths.forward.installation = .ok there ∧ paths.reverse.installation = .ok back
  := by
  simp only [installations, bind_eq_ok_iff]
  constructor
  · rintro ⟨there, hthere, back, hback, ⟨⟩⟩
    exact ⟨hthere, hback⟩
  · rintro ⟨hthere, hback⟩
    exact ⟨there, hthere, back, hback, rfl⟩

/-- A path that leads somewhere and the same path mirrored are handed over together. -/
theorem Path.Leads.handedOver {paths : RoundTrip} {src dst : Element} {there back : Installation}
    (h : paths.forward.Leads src dst) (hreverse : paths.reverse = paths.forward.reversed)
    (hinstall : paths.installations = .ok (there, back)) :
  paths.HandedOver there back
  := by
  obtain ⟨forward, reverse, asymmetric⟩ := paths
  change reverse = forward.reversed at hreverse
  subst hreverse
  obtain ⟨hthere, hback⟩ := RoundTrip.installations_eq_ok_iff.mp hinstall
  obtain ⟨-, -, hone, htwo, hlinks⟩ := installation_eq_ok_iff.mp hthere
  obtain ⟨-, -, hone', htwo', hlinks'⟩ := installation_eq_ok_iff.mp hback
  constructor
  · rfl
  · rw [← hone', ← htwo, Path.src, first_reversed]
    rfl
  · rw [← htwo', ← hone, Path.dst, last_reversed]
    rfl
  · rw [← hlinks', ← hlinks, coreLinks_reversed]
  · apply firstDevice?_eq_ingress hthere
  · apply firstDevice?_eq_ingress hback
  · apply h.meetAtEnd hthere hback
  · apply h.reversed.meetAtEnd hback
    rw [reversed_reversed]
    apply hthere

theorem Path.Leads.not_joinsDevices_last {p : Path} {src dst : Element} (h : p.Leads src dst)
    (hhost : dst.isDevice = false) :
  ¬ p.last.JoinsDevices
  := by
  rintro ⟨-, hdst⟩
  rw [← Path.dst, h.dst_eq, hhost] at hdst
  cases hdst

namespace Call

/-! ### Two hosts

Two hosts are attached to a device each, and the devices are joined by a link. -/

/-- The device of the host that calls. -/
def near : Element :=
  .device "near"

/-- The device of the host that is called. -/
def far : Element :=
  .device "far"

/-- The links on the way from one host to the other. -/
def links : List Link :=
  [Network.attachment "caller" ⟨near, 1⟩, { src := ⟨near, 2⟩, dst := ⟨far, 2⟩ },
    (Network.attachment "callee" ⟨far, 1⟩).reversed]

/-- The network of hosts and devices. -/
def network : Network :=
  ⟨[near, far, .host "caller", .host "callee"], links⟩

/-- A router that counts hops, where every packet gets through. -/
def router : Router :=
  ⟨network, .hopCount, fun _ => .ok 1⟩

/-- The path from one host to the other. -/
def path : Path :=
  ⟨links, .ofFloat 3, by decide⟩

theorem search_eq :
  network.search .hopCount (.host "caller") (.host "callee") 1 = [path]
  := by
  have hshortest : network.shortest? .hopCount {} (.host "caller") (.host "callee")
      = some ⟨[0, 1, 2], [.host "caller", near, far, .host "callee"], .ofFloat 3⟩ := by
    decide +kernel
  rw [Network.search, Network.bestRoutes_eq_sortByCost (by decide) (by decide) hshortest,
    Pool.grow, Route.sortByCost, List.mergeSort_singleton]
  decide +kernel

end Call

/-- What is handed over for a mirrored plan is mirrored too, but for links between devices at the
ends. At hosts, the way back is entered where the way there is left, at the last device that it
visits, and the other way round. -/
theorem Router.installations_mirrored {r : Router} {cs : Constraints} {src dst : Element} {k : ℕ}
    {asymmetric : Bool} {paths : RoundTrip} {there back : Installation}
    (hplan : r.plan cs src dst k asymmetric = .ok (.routed paths))
    (hmirrored : paths.asymmetric = false)
    (hinstall : paths.installations = .ok (there, back)) :
  paths.HandedOver there back
    ∧ (dst.isDevice = false → back.ingress = there.egress
        ∧ paths.forward.lastDevice? = some there.egress.element)
    ∧ (src.isDevice = false → back.egress = there.ingress
        ∧ paths.reverse.lastDevice? = some back.egress.element)
  := by
  have hplanned := isPlanned_of_routed hplan
  have hreverse : paths.reverse = paths.forward.reversed := by
    obtain ⟨-, ⟨-, -, hown⟩ | ⟨-, hreverse, -⟩⟩ := plan_eq_routed_iff.mp hplan
    · rw [hmirrored] at hown
      cases hown
    · apply hreverse
  have hhanded := hplanned.leads_forward.handedOver hreverse hinstall
  refine ⟨hhanded, ?_, ?_⟩
  · intro hdst
    have hlast := hplanned.leads_forward.not_joinsDevices_last hdst
    exact ⟨hhanded.meetAtEnd_forward.ingress_eq_iff.mpr hlast,
      hhanded.meetAtEnd_forward.lastDevice?_eq_iff.mpr hlast⟩
  · intro hsrc
    have hlast := hplanned.leads_reverse.not_joinsDevices_last hsrc
    exact ⟨(hhanded.meetAtEnd_reverse.ingress_eq_iff.mpr hlast).symm,
      hhanded.meetAtEnd_reverse.lastDevice?_eq_iff.mpr hlast⟩

/-- From one host to the other and back, the devices are entered and left at the same ports. -/
theorem Router.installations_mirrored_call :
  Call.router.plan [] (.host "caller") (.host "callee") 1 false
      = .ok (.routed ⟨Call.path, Call.path.reversed, false⟩)
    ∧ ∃ there back, RoundTrip.installations ⟨Call.path, Call.path.reversed, false⟩
        = .ok (there, back)
      ∧ back.ingress = there.egress ∧ back.egress = there.ingress
      ∧ Call.path.lastDevice? = some there.egress.element
  := by
  have hselect : Call.router.select [] (.host "caller") (.host "callee") 1
      = .ok (.found Call.path) :=
    select_of_singleton (by decide) Call.search_eq rfl
  have hplan : Call.router.plan [] (.host "caller") (.host "callee") 1 false
      = .ok (.routed ⟨Call.path, Call.path.reversed, false⟩) :=
    plan_eq_routed_iff.mpr ⟨hselect, .inr ⟨by decide, rfl, rfl⟩⟩
  refine ⟨hplan, _, _, rfl, ?_⟩
  obtain ⟨-, hthere, hback⟩ := Router.installations_mirrored hplan rfl rfl
  exact ⟨(hthere rfl).1, (hback rfl).1, (hthere rfl).2⟩

/-- Over the detour, the direct path ends with a link between devices. It is left at the device
where it starts, and the way back is entered at the other end of the link. -/
theorem Router.ingress_ne_egress_detour :
  Detour.router.plan [.notOptical] Detour.start Detour.goal 1 false
      = .ok (.routed ⟨Detour.direct, Detour.direct.reversed, false⟩)
    ∧ ∃ there back, RoundTrip.installations ⟨Detour.direct, Detour.direct.reversed, false⟩
        = .ok (there, back)
      ∧ there.egress = ⟨Detour.start, 1⟩ ∧ back.ingress = ⟨Detour.goal, 1⟩
      ∧ back.ingress ≠ there.egress ∧ back.egress ≠ there.ingress
      ∧ Detour.direct.lastDevice? = some Detour.goal
      ∧ Detour.direct.lastDevice? ≠ some there.egress.element
  := ⟨plan_eq_detour, _, _, rfl, rfl, rfl, by decide, by decide, rfl, by decide⟩

end ReliableRouting
