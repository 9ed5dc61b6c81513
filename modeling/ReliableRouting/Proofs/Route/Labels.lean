import ReliableRouting.Proofs.Route.Due
import ReliableRouting.Proofs.Route.Growth
import ReliableRouting.Proofs.Route.Search

/-!
# Labels follow trails

The labels of elements record what matters of the trails on the frontier. For an element that is
not settled, its label has the cost and the last step of the first of the cheapest trails that
lead there, and what is due first belongs to the trail that is taken first. Since labels change
only for elements that are not settled, the steps read back from the destination are those of the
trail that is found. Hence a search by labels ends, and it returns what the search by trails does:
a cheapest walk, whatever is rounded.
-/

namespace ReliableRouting

/-! ### Steps back -/

/-- From an element some steps lead back to the start. The elements on the way have been settled,
and their labels are by these steps. -/
inductive Labelling.LeadsBack (L : Labelling) (src : Element) :
    Element → List (LinkId × Element) → Prop
  | start : L.LeadsBack src src []
  | step {e e' : Element} {i : LinkId} {steps : List (LinkId × Element)} (hne : e ≠ src)
    (hsettled : e' ∈ L.settled) (hlabel : L.steps.lookup e' = steps.head?)
    (h : L.LeadsBack src e' steps) :
    L.LeadsBack src e ((i, e') :: steps)

namespace Labelling

variable {L L' : Labelling} {src dst e : Element} {steps : List (LinkId × Element)}

namespace LeadsBack

/-- From what has been settled the way leads over what has been settled. -/
theorem src_mem_settled (h : L.LeadsBack src e steps) (hsettled : e ∈ L.settled) :
  src ∈ L.settled
  := by
  induction h with
  | start => apply hsettled
  | step _ hmem _ _ ih => apply ih hmem

/-- As long as labels of settled elements are kept, so are ways back. -/
theorem mono (h : L.LeadsBack src e steps) (hsettled : L.settled ⊆ L'.settled)
    (hlabel : ∀ x ∈ L.settled, L'.steps.lookup x = L.steps.lookup x) :
  L'.LeadsBack src e steps
  := by
  induction h with
  | start => exact .start
  | step hne hmem heq _ ih =>
      exact .step hne (hsettled hmem) ((hlabel _ hmem).trans heq) ih

/-- The steps back are read off the labels in as many rounds, whatever follows them. -/
theorem retrace_eq (h : L.LeadsBack src e steps) (hlabel : L.steps.lookup e = steps.head?)
    {rounds : ℕ} (hrounds : steps.length < rounds) (links : List LinkId) (stops : List Element) :
  L.retrace src rounds e links stops
    = some (some ((steps.map Prod.fst).reverse ++ links, (steps.map Prod.snd).reverse ++ stops))
  := by
  induction h generalizing rounds links stops with
  | start =>
      obtain ⟨rounds, rfl⟩ := Nat.exists_eq_add_of_lt hrounds
      rw [retrace, if_pos rfl]
      rfl
  | @step e e' i steps hne _ heq _ ih =>
      obtain ⟨rounds, rfl⟩ := Nat.exists_eq_succ_of_ne_zero (Nat.ne_zero_of_lt hrounds)
      rw [retrace, if_neg hne, hlabel, List.head?_cons]
      simp only [ih heq (Nat.lt_of_succ_lt_succ hrounds), List.map_cons, List.reverse_cons,
        List.append_assoc, List.cons_append, List.nil_append]

end LeadsBack

/-! ### Relaxation -/

variable (L) in
theorem settled_relax (cost : Weight) (p : Passage) :
  (L.relax e cost p).settled = L.settled
  := by
  rw [relax]
  split_ifs
  · rfl
  · rfl
  · rfl

/-- The labels of settled elements are kept. -/
theorem lookup_steps_relax {x : Element} (hx : x ∈ L.settled) (cost : Weight) (p : Passage) :
  (L.relax e cost p).steps.lookup x = L.steps.lookup x
  := by
  rw [relax]
  split_ifs with hsettled
  · rfl
  · apply AList.lookup_insert_ne
    rintro rfl
    apply hsettled hx
  · rfl

variable (L) in
theorem length_due_relax_le (cost : Weight) (p : Passage) :
  (L.relax e cost p).due.length ≤ L.due.length + 1
  := by
  rw [relax]
  split_ifs
  · apply Nat.le_succ
  · rw [label, List.length_append, List.length_singleton]
  · apply Nat.le_succ

variable (L) in
theorem settled_foldl_relax (cost : Weight) (passages : List Passage) :
  (passages.foldl (relax e cost) L).settled = L.settled
  := by
  induction passages generalizing L with
  | nil => rfl
  | cons p passages ih => rw [List.foldl_cons, ih, settled_relax]

variable (L) in
theorem length_due_foldl_relax_le (cost : Weight) (passages : List Passage) :
  (passages.foldl (relax e cost) L).due.length ≤ L.due.length + passages.length
  := by
  induction passages generalizing L with
  | nil => rfl
  | cons p passages ih =>
      have hrest := ih (L.relax e cost p)
      have hfirst := L.length_due_relax_le cost p (e := e)
      rw [List.foldl_cons, List.length_cons]
      omega

/-! ### Rounds -/

/-- What is due and what may still be. -/
def outstanding (net : Network) (L : Labelling) : ℕ :=
  L.due.length + net.pending L.settled

section Taken

variable {net : Network} {w : Weigher} {bans : Bans} {a : Arrival} {due : List Arrival}
  (h : takeNext L.due = some (a, due))

include h

variable (net) in
theorem outstanding_drop :
  outstanding net { L with due } < outstanding net L
  := by
  have hlength := length_of_takeNext h
  simp only [outstanding]
  omega

variable (net w bans) in
theorem outstanding_settle (helement : a.element ∉ L.settled) :
  outstanding net ((net.passages w bans a.element).foldl (relax a.element a.cost)
      (L.settle a.element due))
    < outstanding net L
  := by
  have hlength := length_of_takeNext h
  have hdue := (L.settle a.element due).length_due_foldl_relax_le a.cost
    (net.passages w bans a.element) (e := a.element)
  have hpassages := net.length_passages_le w bans a.element
  have hpending := net.length_outgoing_add_pending helement
  unfold outstanding
  rw [settled_foldl_relax]
  simp only [settle] at hdue ⊢
  omega

end Taken

end Labelling

/-! ### The frontier -/

section Frontier

variable {src dst x : Element} {settled : List Element} {frontier others : List Trail} {t : Trail}
  {L : Labelling} {a : Arrival} {due : List Arrival}

/-- The first of the cheapest trails to an element. -/
def bestTo (frontier : List Trail) (x : Element) : Option Trail :=
  cheapest? Trail.cost (frontier.filter fun t => decide (t.stop = x))

theorem bestTo_append_singleton_self (frontier : List Trail) (t : Trail) :
  bestTo (frontier ++ [t]) t.stop
    = some ((bestTo frontier t.stop).elim t fun best => if t.cost < best.cost then t else best)
  := by
  rw [bestTo, List.filter_append, List.filter_singleton, decide_eq_true rfl, cond_true,
    cheapest?_append_singleton, bestTo]

theorem bestTo_append_singleton_of_ne (frontier : List Trail) (hne : t.stop ≠ x) :
  bestTo (frontier ++ [t]) x = bestTo frontier x
  := by
  rw [bestTo, List.filter_append, List.filter_singleton, decide_eq_false hne, cond_false,
    List.append_nil, bestTo]

theorem bestTo_start (src x : Element) :
  bestTo [.start src] x = if src = x then some (.start src) else none
  := by
  split_ifs with hx
  · subst hx
    exact bestTo_append_singleton_self [] (.start src)
  · exact bestTo_append_singleton_of_ne [] hx

theorem of_bestTo_eq_some (h : bestTo frontier x = some t) :
  t ∈ frontier ∧ t.stop = x
  := by
  obtain ⟨hmem, hstop⟩ := List.mem_filter.mp (mem_of_cheapest? h)
  exact ⟨hmem, of_decide_eq_true hstop⟩

/-- A trail taken is the first of the cheapest trails to where it leads. -/
theorem bestTo_stop_of_takeCheapest (h : takeCheapest Trail.cost frontier = some (t, others)) :
  bestTo frontier t.stop = some t
  := cheapest?_filter h (decide_eq_true rfl)

/-- Trails to settled elements do not matter to what is not settled. -/
theorem bestTo_filter (frontier : List Trail) (hx : x ∉ settled) :
  bestTo (frontier.filter fun t => decide (t.stop ∉ settled)) x = bestTo frontier x
  := by
  have hlive : ∀ t : Trail, (decide (t.stop = x) && decide (t.stop ∉ settled))
      = decide (t.stop = x) := by
    intro t
    by_cases heq : t.stop = x
    · simp [heq, hx]
    · simp [heq]
  simp only [bestTo, List.filter_filter, hlive]

/-- The labels and what is due record the trails on a frontier. -/
structure Tracks (src : Element) (settled : List Element) (frontier : List Trail)
    (L : Labelling) : Prop where
  settled_eq : L.settled = settled
  number_le : ∀ a ∈ L.due, a.number ≤ L.number
  /-- Whatever is stale, the arrivals and trails that count come in the same order. -/
  represents : Represents (L.due.filter fun a => decide (a.element ∉ settled))
    (frontier.filter fun t => decide (t.stop ∉ settled))
  costs_eq : ∀ x ∉ settled, L.costs.lookup x = (bestTo frontier x).map Trail.cost
  steps_eq : ∀ x ∉ settled, L.steps.lookup x = (bestTo frontier x).bind fun t => t.steps.head?
  leadsBack : ∀ t ∈ frontier, L.LeadsBack src t.stop t.steps

namespace Tracks

/-- At the start, the trail that stands there is recorded. -/
theorem initial (src : Element) :
  Tracks src [] [.start src] (.start src)
  where
  settled_eq := rfl
  number_le a ha := by
    obtain rfl := List.mem_singleton.mp ha
    apply le_rfl
  represents := by
    have hnone : ∀ b ∈ ([] : List Arrival), b.number < 0 := fun b hb => absurd hb List.not_mem_nil
    exact @Represents.keep [] [] ⟨0, 0, src⟩ (.start src) .nil rfl rfl hnone
  costs_eq x _ := by
    rw [bestTo_start]
    split_ifs with hx
    · subst hx
      apply AList.lookup_insert
    · apply AList.lookup_insert_ne (Ne.symm hx)
  steps_eq x _ := by
    rw [bestTo_start]
    split_ifs
    · rfl
    · rfl
  leadsBack t ht := by
    obtain rfl := List.mem_singleton.mp ht
    exact .start

/-- A further trail is the first of the cheapest to its element if it improves the label. -/
theorem bestTo_append (h : Tracks src settled frontier L) (hstop : t.stop ∉ settled) :
  bestTo (frontier ++ [t]) t.stop
    = if L.improves t.stop t.cost then some t else bestTo frontier t.stop
  := by
  rw [bestTo_append_singleton_self, Labelling.improves, h.costs_eq _ hstop]
  cases bestTo frontier t.stop with
  | none => rfl
  | some best =>
      simp only [Option.elim_some, Option.map_some, Option.all_some, decide_eq_true_eq]
      split_ifs
      · rfl
      · rfl

/-- A trail that improves the label of its element is recorded by labelling the element. -/
theorem label (h : Tracks src settled frontier L) (hstop : t.stop ∉ settled)
    (hback : L.LeadsBack src t.stop t.steps) {step : LinkId × Element}
    (hstep : t.steps.head? = some step) (himproves : L.improves t.stop t.cost = true) :
  Tracks src settled (frontier ++ [t]) (L.label t.stop t.cost step)
  where
  settled_eq := h.settled_eq
  number_le a ha := by
    rcases List.mem_append.mp ha with ha | ha
    · apply (h.number_le a ha).trans (Nat.le_succ _)
    · obtain rfl := List.mem_singleton.mp ha
      apply le_rfl
  represents := by
    rw [Labelling.label, List.filter_append, List.filter_append, List.filter_singleton,
      List.filter_singleton, decide_eq_true hstop, cond_true, cond_true]
    apply h.represents.keep rfl rfl
    intro b hb
    apply Nat.lt_succ_of_le (h.number_le b (List.mem_of_mem_filter hb))
  costs_eq x hx := by
    by_cases heq : t.stop = x
    · subst heq
      rw [h.bestTo_append hstop, if_pos himproves]
      apply AList.lookup_insert
    · rw [bestTo_append_singleton_of_ne frontier heq, ← h.costs_eq x hx]
      apply AList.lookup_insert_ne (Ne.symm heq)
  steps_eq x hx := by
    by_cases heq : t.stop = x
    · subst heq
      rw [h.bestTo_append hstop, if_pos himproves, Option.bind_some, hstep]
      apply AList.lookup_insert
    · rw [bestTo_append_singleton_of_ne frontier heq, ← h.steps_eq x hx]
      apply AList.lookup_insert_ne (Ne.symm heq)
  leadsBack t' ht' := by
    have hback' : L.LeadsBack src t'.stop t'.steps := by
      rcases List.mem_append.mp ht' with ht' | ht'
      · apply h.leadsBack t' ht'
      · obtain rfl := List.mem_singleton.mp ht'
        apply hback
    apply hback'.mono
    · apply List.Subset.refl
    · intro x hx
      apply AList.lookup_insert_ne
      rintro rfl
      apply hstop (h.settled_eq ▸ hx)

/-- A trail that does not improve the label of its element is recorded already. -/
theorem pass (h : Tracks src settled frontier L) (hstop : t.stop ∉ settled)
    (hback : L.LeadsBack src t.stop t.steps) (himproves : ¬ L.improves t.stop t.cost = true) :
  Tracks src settled (frontier ++ [t]) L
  where
  settled_eq := h.settled_eq
  number_le := h.number_le
  represents := by
    cases hbest : bestTo frontier t.stop with
    | none =>
        rw [Labelling.improves, h.costs_eq _ hstop, hbest] at himproves
        exact absurd rfl himproves
    | some best =>
        rw [Labelling.improves, h.costs_eq _ hstop, hbest, Option.map_some, Option.all_some,
          decide_eq_true_eq] at himproves
        obtain ⟨hmem, hsame⟩ := of_bestTo_eq_some hbest
        have hlive : best ∈ frontier.filter fun t => decide (t.stop ∉ settled) :=
          List.mem_filter.mpr ⟨hmem, decide_eq_true (hsame ▸ hstop)⟩
        obtain ⟨a, ha, helement, hcost⟩ := h.represents.exists_cost_le hlive
        rw [List.filter_append, List.filter_singleton, decide_eq_true hstop, cond_true]
        apply h.represents.drop ha (helement.trans hsame)
        apply Weight.le_trans hcost (Weight.le_of_not_lt himproves)
  costs_eq x hx := by
    by_cases heq : t.stop = x
    · subst heq
      rw [h.bestTo_append hstop, if_neg himproves, h.costs_eq _ hx]
    · rw [bestTo_append_singleton_of_ne frontier heq, h.costs_eq x hx]
  steps_eq x hx := by
    by_cases heq : t.stop = x
    · subst heq
      rw [h.bestTo_append hstop, if_neg himproves, h.steps_eq _ hx]
    · rw [bestTo_append_singleton_of_ne frontier heq, h.steps_eq x hx]
  leadsBack t' ht' := by
    rcases List.mem_append.mp ht' with ht' | ht'
    · apply h.leadsBack t' ht'
    · obtain rfl := List.mem_singleton.mp ht'
      apply hback

/-- A passage that is taken continues a trail, unless it leads to a settled element. -/
theorem relax (h : Tracks src settled frontier L) (hstop : t.stop ∈ settled)
    (hback : L.LeadsBack src t.stop t.steps) (hlabel : L.steps.lookup t.stop = t.steps.head?)
    (p : Passage) :
  Tracks src settled (frontier ++ t.continuations [p] settled) (L.relax t.stop t.cost p)
  := by
  rw [← h.settled_eq] at hstop
  rw [Trail.continuations, Labelling.relax, h.settled_eq]
  by_cases htarget : p.target ∈ settled
  · rw [if_pos htarget, List.filter_singleton, decide_eq_false (not_not.mpr htarget), cond_false,
      List.map_nil, List.append_nil]
    apply h
  · rw [if_neg htarget, List.filter_singleton, decide_eq_true htarget, cond_true,
      List.map_singleton]
    have hne : p.target ≠ src := by
      rintro rfl
      apply htarget (h.settled_eq ▸ hback.src_mem_settled hstop)
    have hback' : L.LeadsBack src (t.extend p).stop (t.extend p).steps :=
      .step hne hstop hlabel hback
    split_ifs with himproves
    · exact h.label htarget hback' rfl himproves
    · exact h.pass htarget hback' himproves

/-- The passages that are taken in turn continue a trail, unless they lead to settled elements. -/
theorem foldl_relax (h : Tracks src settled frontier L) (hstop : t.stop ∈ settled)
    (hback : L.LeadsBack src t.stop t.steps) (hlabel : L.steps.lookup t.stop = t.steps.head?)
    (passages : List Passage) :
  Tracks src settled (frontier ++ t.continuations passages settled)
    (passages.foldl (Labelling.relax t.stop t.cost) L)
  := by
  induction passages generalizing frontier L with
  | nil => simpa [Trail.continuations] using h
  | cons p passages ih =>
      have hcontinuations : t.continuations (p :: passages) settled
          = t.continuations [p] settled ++ t.continuations passages settled := by
        rw [← List.singleton_append, Trail.continuations, List.filter_append, List.map_append]
        rfl
      have hkept : ∀ x ∈ L.settled, (L.relax t.stop t.cost p).steps.lookup x = L.steps.lookup x :=
        fun x hx => Labelling.lookup_steps_relax hx t.cost p
      rw [hcontinuations, ← List.append_assoc, List.foldl_cons]
      apply ih (h.relax hstop hback hlabel p)
      · apply hback.mono _ hkept
        rw [Labelling.settled_relax]
        apply List.Subset.refl
      · rw [hkept _ (h.settled_eq ▸ hstop), hlabel]

/-- Trails and arrivals may be dropped where they lead to what is settled. -/
theorem restrict (h : Tracks src settled frontier L) {settled' : List Element}
    (hsettled : settled ⊆ settled') (hothers : others ⊆ frontier) (hdue : due ⊆ L.due)
    (htrails : others.filter (fun t => decide (t.stop ∉ settled'))
      = frontier.filter fun t => decide (t.stop ∉ settled'))
    (harrivals : due.filter (fun a => decide (a.element ∉ settled'))
      = L.due.filter fun a => decide (a.element ∉ settled')) :
  Tracks src settled' others { L with settled := settled', due }
  := by
  have hlive : ∀ x, (decide (x ∉ settled') && decide (x ∉ settled)) = decide (x ∉ settled') := by
    intro x
    by_cases hx : x ∈ settled
    · simp [hx, hsettled hx]
    · simp [hx]
  have hbest : ∀ x ∉ settled', bestTo others x = bestTo frontier x := by
    intro x hx
    rw [← bestTo_filter others hx, htrails, bestTo_filter frontier hx]
  refine ⟨rfl, fun a ha => h.number_le a (hdue ha), ?_, ?_, ?_, ?_⟩
  · have hrepresents := h.represents.filter fun x => decide (x ∉ settled')
    simp only [List.filter_filter, hlive] at hrepresents
    rw [htrails, harrivals]
    exact hrepresents
  · intro x hx
    rw [hbest x hx]
    apply h.costs_eq x fun hmem => hx (hsettled hmem)
  · intro x hx
    rw [hbest x hx]
    apply h.steps_eq x fun hmem => hx (hsettled hmem)
  · intro t ht
    apply (h.leadsBack t (hothers ht)).mono
    · rw [h.settled_eq]
      exact hsettled
    · intro x _
      rfl

/-- A trail to a settled element may be dropped. -/
theorem drop (h : Tracks src settled frontier L)
    (htaken : takeCheapest Trail.cost frontier = some (t, others)) (hstop : t.stop ∈ settled) :
  Tracks src settled others L
  := by
  have htracks := h.restrict (List.Subset.refl settled) (subset_of_takeCheapest htaken)
    (List.Subset.refl L.due)
    (filter_of_takeCheapest htaken (decide_eq_false (not_not.mpr hstop))) rfl
  rw [← h.settled_eq] at htracks ⊢
  exact htracks

/-- An arrival at a settled element may be dropped. -/
theorem drop_due (h : Tracks src settled frontier L) (hnext : takeNext L.due = some (a, due))
    (helement : a.element ∈ settled) :
  Tracks src settled frontier { L with due }
  := by
  have htracks := h.restrict (List.Subset.refl settled) (List.Subset.refl frontier)
    (subset_of_takeNext hnext) rfl
    (filter_of_takeNext hnext (decide_eq_false (not_not.mpr helement)))
  rw [← h.settled_eq] at htracks ⊢
  exact htracks

section Taken

variable (h : Tracks src settled frontier L)
  (htaken : takeCheapest Trail.cost frontier = some (t, others)) (hstop : t.stop ∉ settled)

include h htaken hstop

/-- What is due first belongs to the trail that is taken. -/
theorem arrival_eq (hnext : takeNext L.due = some (a, due)) (helement : a.element ∉ settled) :
  a.element = t.stop ∧ a.cost = t.cost
  := by
  obtain ⟨-, -, -, -, hfirst⟩ := exists_split_of_takeNext hnext
  apply h.represents.of_key_le (cheapest?_filter htaken (decide_eq_true hstop))
  · exact List.mem_filter.mpr ⟨mem_of_takeNext hnext, decide_eq_true helement⟩
  · intro b hb
    apply hfirst b (List.mem_of_mem_filter hb)

/-- Something is due. -/
theorem due_ne_nil :
  L.due ≠ []
  := by
  intro hempty
  have hmem : t ∈ frontier.filter fun t => decide (t.stop ∉ settled) :=
    List.mem_filter.mpr ⟨mem_of_takeCheapest htaken, decide_eq_true hstop⟩
  obtain ⟨a, ha, -⟩ := h.represents.exists_cost_le hmem
  rw [hempty] at ha
  cases ha

theorem lookup_costs_eq :
  L.costs.lookup t.stop = some t.cost
  := by
  rw [h.costs_eq _ hstop, bestTo_stop_of_takeCheapest htaken, Option.map_some]

theorem lookup_steps_eq :
  L.steps.lookup t.stop = t.steps.head?
  := by
  rw [h.steps_eq _ hstop, bestTo_stop_of_takeCheapest htaken, Option.bind_some]

omit hstop in
/-- Settling the element where the trail taken stands keeps the record. -/
theorem settle (hnext : takeNext L.due = some (a, due)) (helement : a.element = t.stop) :
  Tracks src (t.stop :: settled) others (L.settle t.stop due)
  := by
  rw [Labelling.settle, h.settled_eq]
  apply h.restrict (List.subset_cons_self _ _) (subset_of_takeCheapest htaken)
    (subset_of_takeNext hnext)
  · apply filter_of_takeCheapest htaken
    simp
  · apply filter_of_takeNext hnext
    simp [helement]

end Taken

section Rounds

variable {net : Network} {w : Weigher} {bans : Bans} {rounds back : ℕ}

/-- What is due at settled elements is passed over. -/
theorem exists_run_eq (h : Tracks src settled frontier L) (hrounds : L.outstanding net < rounds) :
  ∃ L' rounds', Tracks src settled frontier L' ∧ L'.outstanding net ≤ rounds'
    ∧ Labelling.run (net.passages w bans) dst rounds L
      = Labelling.run (net.passages w bans) dst (rounds' + 1) L'
    ∧ ∀ a due, takeNext L'.due = some (a, due) → a.element ∉ settled
  := by
  induction rounds generalizing L with
  | zero => exact absurd hrounds (Nat.not_lt_zero _)
  | succ rounds ih =>
      cases hnext : takeNext L.due with
      | none => exact ⟨L, rounds, h, Nat.le_of_lt_succ hrounds, rfl, by simp [hnext]⟩
      | some taken =>
          obtain ⟨a, due⟩ := taken
          by_cases helement : a.element ∈ settled
          · have hless := Labelling.outstanding_drop net hnext
            obtain ⟨L', rounds', htracks, hrounds', hrun, hlive⟩ :=
              ih (h.drop_due hnext helement) (hless.trans_le (Nat.le_of_lt_succ hrounds))
            refine ⟨L', rounds', htracks, hrounds', ?_, hlive⟩
            rw [← hrun, Labelling.run, hnext]
            simp only [h.settled_eq, if_pos helement]
          · refine ⟨L, rounds, h, Nat.le_of_lt_succ hrounds, rfl, ?_⟩
            intro a' due' hnext'
            obtain ⟨rfl, rfl⟩ := by simpa using hnext.symm.trans hnext'
            apply helement

/-- Without trails nothing is found. -/
theorem route?_run_eq_none (h : Tracks src settled [] L) (hdst : dst ∉ settled)
    (hrounds : L.outstanding net < rounds) :
  ((Labelling.run (net.passages w bans) dst rounds L).bind fun L => L.route? src dst back)
    = some none
  := by
  obtain ⟨L', rounds', htracks, -, hrun, hlive⟩ := h.exists_run_eq hrounds
  have hnone : takeNext L'.due = none := by
    cases hnext : takeNext L'.due with
    | none => rfl
    | some taken =>
        obtain ⟨a, due⟩ := taken
        have hmem : a ∈ L'.due.filter fun a => decide (a.element ∉ settled) :=
          List.mem_filter.mpr ⟨mem_of_takeNext hnext, decide_eq_true (hlive a due hnext)⟩
        rw [htracks.represents.eq_nil] at hmem
        cases hmem
  rw [← htracks.settled_eq] at hdst
  rw [hrun, Labelling.run, hnone, Option.bind_some, Labelling.route?, if_pos hdst]

section Taken

variable (h : Tracks src settled frontier L)
  (htaken : takeCheapest Trail.cost frontier = some (t, others)) (hstop : t.stop ∉ settled)

include h htaken hstop

/-- The element where the trail taken stands is settled next, at the cost of the trail. -/
theorem exists_run_eq_settle (hrounds : L.outstanding net < rounds) :
  ∃ L' due rounds', Tracks src settled frontier L'
    ∧ Tracks src (t.stop :: settled) others (L'.settle t.stop due)
    ∧ ((net.passages w bans t.stop).foldl (Labelling.relax t.stop t.cost)
        (L'.settle t.stop due)).outstanding net < rounds'
    ∧ Labelling.run (net.passages w bans) dst rounds L
      = if t.stop = dst then some (L'.settle t.stop due)
        else Labelling.run (net.passages w bans) dst rounds'
          ((net.passages w bans t.stop).foldl (Labelling.relax t.stop t.cost)
            (L'.settle t.stop due))
  := by
  obtain ⟨L', rounds', htracks, hrounds', hrun, hlive⟩ := h.exists_run_eq hrounds
  cases hnext : takeNext L'.due with
  | none => exact absurd (takeNext_eq_none_iff.mp hnext) (htracks.due_ne_nil htaken hstop)
  | some taken =>
      obtain ⟨a, due⟩ := taken
      have helement := hlive a due hnext
      obtain ⟨hsame, hcost⟩ := htracks.arrival_eq htaken hstop hnext helement
      rw [← htracks.settled_eq] at helement
      have hless := Labelling.outstanding_settle net w bans hnext helement
      rw [hsame] at helement
      rw [hsame, hcost] at hless
      refine ⟨L', due, rounds', htracks, htracks.settle htaken hnext hsame,
        hless.trans_le hrounds', ?_⟩
      rw [hrun, Labelling.run, hnext]
      simp only [hsame, hcost, if_neg helement]

omit hstop in
theorem leadsBack_settle (due : List Arrival) :
  (L.settle t.stop due).LeadsBack src t.stop t.steps
  := by
  apply (h.leadsBack t (mem_of_takeCheapest htaken)).mono (List.subset_cons_self _ _)
  intro x _
  rfl

/-- The route to an element that is settled is that of the trail taken there. -/
theorem route?_settle (hback : t.steps.length < back) (due : List Arrival) :
  (L.settle t.stop due).route? src t.stop back = some (some t.route)
  := by
  have hleads := h.leadsBack_settle htaken due
  have hcost : (L.settle t.stop due).costs.lookup t.stop = some t.cost :=
    h.lookup_costs_eq htaken hstop
  have hmem : t.stop ∈ (L.settle t.stop due).settled := List.mem_cons_self
  rw [Labelling.route?, if_neg (not_not.mpr hmem),
    hleads.retrace_eq (h.lookup_steps_eq htaken hstop) hback, hcost, List.append_nil]
  rfl

end Taken

end Rounds

end Tracks

end Frontier

/-! ### The search -/

namespace Network

section Search

variable {net : Network} {w : Weigher} {bans : Bans} {src dst : Element} {rounds back : ℕ}

/-- A search by labels ends, and it returns the route of the trail that is found. -/
theorem route?_run_eq {settled : List Element} {frontier : List Trail} {L : Labelling} {fuel : ℕ}
    (h : Tracks src settled frontier L) (hdst : dst ∉ settled)
    (hfuel : net.budget settled frontier ≤ fuel) (hrounds : L.outstanding net < rounds)
    (hback : ∀ t, (ReliableRouting.explore (net.passages w bans) dst fuel settled frontier).found
      = some t → t.steps.length < back) :
  ((Labelling.run (net.passages w bans) dst rounds L).bind fun L => L.route? src dst back)
    = some ((ReliableRouting.explore (net.passages w bans) dst fuel settled frontier).found.map
        Trail.route)
  := by
  induction fuel generalizing settled frontier L rounds with
  | zero =>
      obtain rfl := eq_nil_of_budget_le_zero hfuel
      apply h.route?_run_eq_none hdst hrounds
  | succ fuel ih =>
      rw [ReliableRouting.explore] at hback ⊢
      cases htaken : takeCheapest Trail.cost frontier with
      | none =>
          obtain rfl := (takeCheapest_eq_none_iff _ _).mp htaken
          apply h.route?_run_eq_none hdst hrounds
      | some taken =>
          obtain ⟨t, others⟩ := taken
          simp only [htaken] at hback ⊢
          split_ifs at hback ⊢ with hstop heq
          · have hless := net.budget_drop settled htaken
            apply ih (h.drop htaken hstop) hdst (Nat.le_of_lt_succ (hless.trans_le hfuel)) hrounds
              hback
          · subst heq
            obtain ⟨L', due, _, htracks, -, -, hrun⟩ := h.exists_run_eq_settle htaken hstop hrounds
            rw [hrun, if_pos rfl, Option.bind_some,
              htracks.route?_settle htaken hstop (hback t rfl)]
            rfl
          · obtain ⟨L', due, rounds', htracks, hsettled, hrounds', hrun⟩ :=
              h.exists_run_eq_settle htaken hstop hrounds
            have hless := net.budget_settle w bans htaken hstop
            have hdst' : dst ∉ t.stop :: settled := by
              rw [List.mem_cons, not_or]
              exact ⟨Ne.symm heq, hdst⟩
            rw [hrun, if_neg heq]
            apply ih _ hdst' (Nat.le_of_lt_succ (hless.trans_le hfuel)) hrounds' hback
            apply hsettled.foldl_relax List.mem_cons_self (htracks.leadsBack_settle htaken due)
            apply htracks.lookup_steps_eq htaken hstop

/-- A trail that is found takes no more links than there are. -/
theorem length_steps_le {t : Trail} (h : (net.explore w bans src dst).found = some t) :
  t.steps.length ≤ net.links.length
  := by
  have hroute : net.shortest? w bans src dst = some t.route :=
    Option.map_eq_some_iff.mpr ⟨t, h, rfl⟩
  obtain ⟨hwalk, hstops, hnodup, -⟩ := of_shortest?_eq_some hroute
  have hlength := IsRoute.length_le ⟨hwalk.of_bans, hstops ▸ hnodup⟩
  rw [Trail.route, List.length_reverse, List.length_map] at hlength
  exact hlength

variable (net w bans src dst) in
/-- The search by labels ends, and it returns what the search by trails does. A round for each link
is enough, with one for the start and one in which nothing is due. -/
theorem labelled?_eq (hrounds : net.links.length + 2 ≤ rounds) :
  net.labelled? w bans src dst rounds = some (net.shortest? w bans src dst)
  := by
  apply route?_run_eq (.initial src) List.not_mem_nil (net.budget_start src)
  · have hpending : net.pending [] ≤ net.links.length := List.countP_le_length
    simp only [Labelling.outstanding, Labelling.start, List.length_singleton]
    omega
  · intro t ht
    have hlength := length_steps_le ht
    omega

end Search

/-- A search by labels ends, and it finds a route exactly if some walk over links that are admitted
leads to the destination. The route is such a walk with the elements that it visits, none of them
twice, at the cost of its links added up from the start, and no walk costs less. So the first path
of a search for any number of paths is a cheapest one, however sums are rounded. -/
theorem labelled_cheapest (net : Network) (w : Weigher) (bans : Bans) (src dst : Element) :
  ∃ found, (∀ rounds, net.links.length + 2 ≤ rounds →
        net.labelled? w bans src dst rounds = some found)
    ∧ found = net.shortest? w bans src dst
    ∧ ((∃ r, found = some r) ↔ ∃ ids, net.IsWalk w bans src ids dst)
    ∧ (∀ r, found = some r →
        net.IsWalk w bans src r.links dst ∧ r.stops = src :: net.targets r.links ∧ r.stops.Nodup
          ∧ r.cost = net.cost w r.links
          ∧ ∀ ids, net.IsWalk w bans src ids dst → r.cost ≤ net.cost w ids)
    ∧ (∀ k p rest, net.search w src dst k = p :: rest →
        (∃ ids, IsPathAlong net w src dst ids p)
          ∧ ∀ ids, net.IsRoute w src dst ids → p.cost ≤ net.cost w ids)
    ∧ ∀ k, 1 ≤ k → src ≠ dst → net.connects src dst = true →
        (net.search w src dst k = [] ↔ ∀ ids, ¬ net.IsRoute w src dst ids)
  := by
  refine ⟨net.shortest? w bans src dst, fun _ hrounds => labelled?_eq net w bans src dst hrounds,
    rfl, ⟨?_, ?_⟩, fun r hr => of_shortest?_eq_some hr, ?_, ?_⟩
  · rintro ⟨r, hr⟩
    exact ⟨r.links, (of_shortest?_eq_some hr).1⟩
  · rintro ⟨ids, hids⟩
    cases hr : net.shortest? w bans src dst with
    | none => exact absurd hids (not_isWalk_of_shortest?_eq_none hr ids)
    | some r => exact ⟨r, rfl⟩
  · intro k p rest h
    obtain ⟨-, -, halong⟩ := of_mem_search (h ▸ List.mem_cons_self)
    exact ⟨halong, fun ids hids => cost_le_of_search_eq_cons h hids⟩
  · intro k hk hne hconnects
    apply net.search_eq_nil_iff w k hne hconnects hk

/-- Where both direct links are banned, the detour is a cheapest way. Else a direct link is. -/
theorem labelled_cheapest_detour :
  Detour.network.labelled? .hopCount ⟨[0, 1], []⟩ Detour.start Detour.goal 6
      = some (some ⟨[2, 3], [Detour.start, Detour.middle, Detour.goal], .ofFloat 2⟩)
    ∧ (∀ ids, Detour.network.IsWalk .hopCount ⟨[0, 1], []⟩ Detour.start ids Detour.goal →
        .ofFloat 2 ≤ Detour.network.cost .hopCount ids)
    ∧ ∀ ids, Detour.network.IsRoute .hopCount Detour.start Detour.goal ids →
        Detour.direct.cost ≤ Detour.network.cost .hopCount ids
  := by
  obtain ⟨found, hends, hfound, -, hcheapest, hfirst, -⟩ :=
    labelled_cheapest Detour.network .hopCount ⟨[0, 1], []⟩ Detour.start Detour.goal
  have hdetour : Detour.network.shortest? .hopCount ⟨[0, 1], []⟩ Detour.start Detour.goal
      = some ⟨[2, 3], [Detour.start, Detour.middle, Detour.goal], .ofFloat 2⟩ := by
    decide +kernel
  rw [hdetour] at hfound
  refine ⟨hfound ▸ hends 6 (by decide), (hcheapest _ hfound).2.2.2.2, ?_⟩
  exact (hfirst 1 Detour.direct [] Detour.search_eq).2

end Network

end ReliableRouting
