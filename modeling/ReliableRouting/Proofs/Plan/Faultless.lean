import ReliableRouting.Loading
import ReliableRouting.Plan.Listing
import ReliableRouting.Proofs.Network.Additions
import ReliableRouting.Proofs.Plan.BothWays
import ReliableRouting.Proofs.Policy.Judging

/-!
# Routing that does not fail

Two things can make routing fail: a law that refuses a length of a path, and a link without a
device at an end of a path that is handed over. When links are ranked by the law that judges
them, a length that it refuses makes a link unusable, and so no candidate has one, whatever
the law. And every link of a loaded network touches a device.
-/

namespace ReliableRouting

variable {law : DeliveryLaw} {net : Network} {src dst : Element} {k : ℕ}

/-! ### Requests over a network -/

/-- The router of a request, with a law in the place of the one that its model gives. -/
def Request.routerBy (req : Request) (law : DeliveryLaw) (net : Network) : Router :=
  ⟨net, if req.useReliabilityWeighting then .reliability law else .hopCount, law⟩

theorem Request.router_eq_routerBy (req : Request) (net : Network) :
  req.router net = req.routerBy req.model.law net
  := by
  rw [router, routerBy, rankingRule]
  split_ifs
  · rfl
  · rfl

/-! ### Links and paths -/

/-- The law that ranks a viable link has a probability for it. -/
theorem Link.exists_delivery_of_isFinite {l : Link}
    (h : ((Weigher.reliability law).weight l).isFinite = true) :
  ∃ x, l.delivery law = .ok x
  := by
  have hinfinite : Weight.infinite.isFinite = false := by decide
  rw [Weigher.reliability] at h
  simp only at h
  split_ifs at h
  · rw [hinfinite] at h
    cases h
  · rw [delivery]
    cases hlength : l.length with
    | error fault =>
        rw [hlength, hinfinite] at h
        cases h
    | ok length =>
        cases length with
        | none => exact ⟨1.0, rfl⟩
        | some length =>
            rw [hlength] at h
            simp only at h ⊢
            cases hlaw : law length with
            | error fault =>
                rw [hlaw, hinfinite] at h
                cases h
            | ok probability => exact ⟨probability, rfl⟩

namespace Path

variable {p : Path}

theorem exists_loss (h : ∀ l ∈ p.links, ∃ x, l.delivery law = .ok x) :
  ∃ x, p.loss law = .ok x
  := by
  have hdelivery : ∃ x, p.delivery law = .ok x := by
    apply exists_foldlM_eq_ok
    intro total l hl
    obtain ⟨x, hx⟩ := h l (List.mem_of_mem_filter hl)
    exact ⟨total * x, map_eq_ok_iff.mpr ⟨x, hx, rfl⟩⟩
  obtain ⟨x, hx⟩ := hdelivery
  exact ⟨1.0 - x, map_eq_ok_iff.mpr ⟨x, hx, rfl⟩⟩

/-- Judging a path that has a loss does not fail. -/
theorem exists_accept (h : ∃ x, p.loss law = .ok x) (cs : Constraints) :
  ∃ accepts, cs.accept law p = .ok accepts
  := by
  obtain ⟨x, hx⟩ := h
  apply Constraints.exists_accept
  intro reason hloss
  rw [hx] at hloss
  cases hloss

/-- A path that has a loss is listed with it. -/
theorem exists_listed (h : ∃ x, p.loss law = .ok x) (cs : Constraints) :
  ∃ line, p.listed law cs = .ok line ∧ line.packetLoss.isSome = true
  := by
  obtain ⟨accepts, haccepts⟩ := exists_accept h cs
  obtain ⟨x, hx⟩ := h
  rw [listed, listedLoss, hx, haccepts]
  exact ⟨_, rfl, rfl⟩

end Path

/-! ### Where the law that judges ranks -/

namespace Router

variable {r : Router} (hweigher : r.weigher = .reliability r.law)

include hweigher

/-- Candidates have a loss. -/
theorem exists_loss_of_mem_candidates {p : Path} (hp : p ∈ r.candidates src dst k) :
  ∃ x, p.loss r.law = .ok x
  := by
  apply Path.exists_loss
  intro l hl
  obtain ⟨-, -, hfinite⟩ := viable_of_mem_candidates hp hl
  rw [hweigher] at hfinite
  apply Link.exists_delivery_of_isFinite hfinite

theorem exists_select (cs : Constraints) (src dst : Element) (k : ℕ) :
  ∃ answer, r.select cs src dst k = .ok answer
  := by
  by_cases hne : src = dst
  · exact ⟨.sameEndpoint, if_pos hne⟩
  · cases h : r.select cs src dst k with
    | ok answer => exact ⟨answer, rfl⟩
    | error fault =>
        obtain ⟨before, p, after, hcandidates, -, hfails⟩ :=
          accepted_eq_error_iff.mp ((select_eq_error_iff hne).mp h)
        have hp : p ∈ r.candidates src dst k := by
          rw [hcandidates]
          apply List.mem_append_cons_self
        obtain ⟨accepts, haccepts⟩ :=
          Path.exists_accept (exists_loss_of_mem_candidates hweigher hp) cs
        rw [hfails] at haccepts
        cases haccepts

/-- Every candidate is listed with its loss. -/
theorem exists_listing (cs : Constraints) (src dst : Element) (k : ℕ) :
  ∃ listing, r.listing cs src dst k = .ok listing
    ∧ ∀ line ∈ listing.candidates, line.packetLoss.isSome = true
  := by
  have hlisted : ∀ p ∈ r.candidates src dst k,
      ∃ line, p.listed r.law cs = .ok line ∧ line.packetLoss.isSome = true :=
    fun p hp => Path.exists_listed (exists_loss_of_mem_candidates hweigher hp) cs
  obtain ⟨lines, hlines⟩ := exists_mapM_eq_ok fun p hp => (hlisted p hp).imp fun _ => And.left
  refine ⟨_, bind_eq_ok_iff.mpr ⟨lines, hlines, rfl⟩, ?_⟩
  intro line hline
  obtain ⟨p, hp, hlisting⟩ := exists_mem_of_mapM hlines hline
  obtain ⟨line', hline', hsome⟩ := hlisted p hp
  obtain rfl := Except.ok.inj (hlisting.symm.trans hline')
  apply hsome

end Router

/-! ### Handing over -/

/-- A link that touches a device has a port at one. -/
theorem Link.TouchesDevice.exists_devicePort {l : Link} (h : l.TouchesDevice) :
  ∃ port, l.devicePort = .ok port
  := by
  rw [Link.devicePort]
  split_ifs with hsrc hdst
  · exact ⟨l.src, rfl⟩
  · exact ⟨l.dst, rfl⟩
  · rcases h with h | h
    · apply absurd h hsrc
    · apply absurd h hdst

namespace Path

variable {p : Path}

/-- A path over links that touch devices can be handed over. -/
theorem exists_installation (h : ∀ l ∈ p.links, l.TouchesDevice) :
  ∃ c, p.installation = .ok c
  := by
  obtain ⟨ingress, hingress⟩ := (h p.first (List.head_mem _)).exists_devicePort
  obtain ⟨egress, hegress⟩ := (h p.last (List.getLast_mem _)).exists_devicePort
  rw [installation, hingress, hegress]
  exact ⟨_, rfl⟩

theorem touchesDevice_reversed (h : ∀ l ∈ p.links, l.TouchesDevice) :
  ∀ l ∈ p.reversed.links, l.TouchesDevice
  := by
  intro l hl
  obtain ⟨l', hl', rfl⟩ := List.mem_map.mp (List.mem_reverse.mp hl)
  apply (h l' hl').reversed

end Path

/-- Handing a routed plan over succeeds if every link of the network touches a device. -/
theorem Router.exists_installations {r : Router} {cs : Constraints} {asymmetric : Bool}
    (htouches : ∀ l ∈ r.network.links, l.TouchesDevice) {paths : RoundTrip}
    (h : r.plan cs src dst k asymmetric = .ok (.routed paths)) :
  ∃ installations, paths.installations = .ok installations
  := by
  obtain ⟨hforward, hreverse⟩ := of_eq_routed h
  have hfound : ∀ {src dst : Element} {p : Path}, r.select cs src dst k = .ok (.found p) →
      ∀ l ∈ p.links, l.TouchesDevice := fun hp l hl =>
    htouches l (viable_of_mem_candidates (mem_candidates_of_found hp) hl).1
  have hback : ∀ l ∈ paths.reverse.links, l.TouchesDevice := by
    rcases hreverse with heq | hreverse
    · rw [heq]
      apply Path.touchesDevice_reversed (hfound hforward)
    · apply hfound hreverse
  obtain ⟨one, hone⟩ := Path.exists_installation (hfound hforward)
  obtain ⟨two, htwo⟩ := Path.exists_installation hback
  rw [RoundTrip.installations, hone, htwo]
  exact ⟨_, rfl⟩

/-! ### Loaded networks -/

/-- A network that is loaded from a file is one of a snapshot. -/
theorem exists_ofSnapshot_of_loadNetwork {content : FileContent} {net : Network}
    (h : loadNetwork content = .ok net) :
  ∃ s, Network.ofSnapshot s = .ok net
  := by
  obtain ⟨s, -, h⟩ := bind_eq_ok_iff.mp h
  cases hs : Network.ofSnapshot s with
  | error fault =>
      rw [hs] at h
      cases h
  | ok net' =>
      rw [hs] at h
      obtain rfl := Except.ok.inj h
      exact ⟨s, hs⟩

/-- Routing over a loaded network does not fail for a request that ranks links by reliability,
whatever the law in the place of the one that the request's model gives: every listing comes
about, with a loss for each candidate, and so do every selection and every plan, and a plan
that is routed can be handed over both ways. -/
theorem routes_without_fault {net : Network}
    (hnet : (∃ s, Network.ofSnapshot s = .ok net) ∨ ∃ content, loadNetwork content = .ok net)
    {req : Request} (hreq : req.useReliabilityWeighting = true) (law : DeliveryLaw)
    (src dst : Element) (k : ℕ) :
  req.router net = req.routerBy req.model.law net
    ∧ (∃ listing, (req.routerBy law net).listing req.constraints src dst k = .ok listing
      ∧ ∀ line ∈ listing.candidates, line.packetLoss.isSome = true)
    ∧ (∃ answer, (req.routerBy law net).select req.constraints src dst k = .ok answer)
    ∧ ∀ asymmetric, ∃ plan,
      (req.routerBy law net).plan req.constraints src dst k asymmetric = .ok plan
        ∧ ∀ paths, plan = .routed paths →
          ∃ installations, paths.installations = .ok installations
  := by
  have hweigher : (req.routerBy law net).weigher = .reliability (req.routerBy law net).law :=
    if_pos hreq
  have htouches : ∀ l ∈ net.links, l.TouchesDevice := by
    rcases hnet with ⟨s, hs⟩ | ⟨content, hcontent⟩
    · apply Network.touchesDevice_of_ofSnapshot hs
    · obtain ⟨s, hs⟩ := exists_ofSnapshot_of_loadNetwork hcontent
      apply Network.touchesDevice_of_ofSnapshot hs
  have hselect := Router.exists_select hweigher req.constraints
  refine ⟨req.router_eq_routerBy net, Router.exists_listing hweigher _ src dst k,
    hselect src dst k, ?_⟩
  intro asymmetric
  obtain ⟨plan, hplan⟩ := Router.exists_plan (hselect src dst k) (hselect dst src k)
  refine ⟨plan, hplan, ?_⟩
  rintro paths rfl
  apply Router.exists_installations htouches hplan

/-! ### A refused length -/

namespace Refused

/-- A link from a gate to a mast that is given no length to speak of, and its opposite. -/
def flatEntry : LinkEntry where
  src := "gate/1"
  dst := "mast/1"
  length := some (.text "0")
  bidirectional := true

/-- Another link from the gate to the mast. -/
def soundEntry : LinkEntry where
  src := "gate/2"
  dst := "mast/2"
  length := some (.text "50")

/-- A snapshot with both links, and with a camera at the mast. -/
def snapshot : Snapshot where
  devices := ["gate", "mast"]
  hosts := [⟨"camera", "mast/3"⟩]
  links := [flatEntry, soundEntry]

/-- The link of the first entry. -/
def flat : Link where
  src := ⟨.device "gate", 1⟩
  dst := ⟨.device "mast", 1⟩
  annotations := Annotations.empty.set "length" "0"

/-- The link of the other entry. -/
def sound : Link where
  src := ⟨.device "gate", 2⟩
  dst := ⟨.device "mast", 2⟩
  annotations := Annotations.empty.set "length" "50"

/-- The link from the camera. -/
def camera : Link :=
  Network.attachment "camera" ⟨.device "mast", 3⟩

/-- The network of the snapshot. -/
def network : Network where
  elements := [.device "gate", .device "mast", .host "camera"]
  links := [flat, flat.reversed, sound, camera, camera.reversed]

/-- A law that refuses lengths that are not positive and loses every second packet over any
other. -/
def lossy : DeliveryLaw := fun length =>
  if length <= 0.0 then .error (.invalidLength length) else .ok 0.5

theorem toLink_flatEntry :
  flatEntry.toLink = .ok flat
  := by
  decide +kernel

theorem toLink_soundEntry :
  soundEntry.toLink = .ok sound
  := by
  decide +kernel

theorem ofText_mast :
  ConnectPoint.ofText "mast/3" = .ok ⟨.device "mast", 3⟩
  := by
  decide +kernel

theorem ofSnapshot_eq :
  Network.ofSnapshot snapshot = .ok network
  := by
  have hlinks : snapshot.links.foldlM Network.addLinkEntry
      (snapshot.devices.foldl Network.addDevice .empty)
      = .ok ⟨[.device "gate", .device "mast"], [flat, flat.reversed, sound]⟩ := by
    simp only [snapshot, List.foldlM_cons, List.foldlM_nil, Network.addLinkEntry,
      toLink_flatEntry, toLink_soundEntry]
    decide
  have hhosts : snapshot.hosts.foldlM Network.addHostEntry
      ⟨[.device "gate", .device "mast"], [flat, flat.reversed, sound]⟩ = .ok network := by
    simp only [snapshot, List.foldlM_cons, List.foldlM_nil, Network.addHostEntry, ofText_mast]
    decide
  apply bind_eq_ok_iff.mpr ⟨_, hlinks, hhosts⟩

end Refused

/-- A selection and a plan come about over a network where the law refuses the length of a
link. -/
theorem routes_without_fault_refused :
  Refused.flat.delivery Refused.lossy = .error (.rejected (.invalidLength 0.0))
    ∧ Network.ofSnapshot Refused.snapshot = .ok Refused.network
    ∧ (∃ answer, (({} : Request).routerBy Refused.lossy Refused.network).select
        ({} : Request).constraints (.device "gate") (.host "camera") 10 = .ok answer)
    ∧ ∃ plan, (({} : Request).routerBy Refused.lossy Refused.network).plan
        ({} : Request).constraints (.device "gate") (.host "camera") 10 true = .ok plan
  := by
  have hroutes := routes_without_fault (.inl ⟨_, Refused.ofSnapshot_eq⟩)
    (show ({} : Request).useReliabilityWeighting = true from rfl) Refused.lossy (.device "gate")
    (.host "camera") 10
  obtain ⟨-, -, hselect, hplan⟩ := hroutes
  obtain ⟨plan, hplan, -⟩ := hplan true
  exact ⟨by decide +kernel, Refused.ofSnapshot_eq, hselect, plan, hplan⟩

end ReliableRouting
