import Mathlib.Data.List.Forall2

/-!
# Outcomes

Computations that may fail, one after the other: what the first leaves the second, what a run
of steps preserves, and when it succeeds. Side by side, computations agree that fail in the
same way or succeed with related results; those that agree step by step agree as a whole.
-/

namespace ReliableRouting

variable {ε α β : Type}

theorem bind_eq_ok_iff {x : Except ε α} {f : α → Except ε β} {b : β} :
  x >>= f = .ok b ↔ ∃ a, x = .ok a ∧ f a = .ok b
  := by
  cases x with
  | error e =>
      constructor
      · intro h
        cases h
      · rintro ⟨a, h, -⟩
        cases h
  | ok a =>
      constructor
      · intro h
        exact ⟨a, rfl, h⟩
      · rintro ⟨_, ⟨⟩, h⟩
        apply h

theorem bind_eq_error_iff {x : Except ε α} {f : α → Except ε β} {e : ε} :
  x >>= f = .error e ↔ x = .error e ∨ ∃ a, x = .ok a ∧ f a = .error e
  := by
  cases x with
  | error e' =>
      constructor
      · rintro ⟨⟩
        exact .inl rfl
      · rintro (⟨⟨⟩⟩ | ⟨a, ⟨⟩, -⟩)
        rfl
  | ok a =>
      constructor
      · intro h
        exact .inr ⟨a, rfl, h⟩
      · rintro (⟨⟨⟩⟩ | ⟨_, ⟨⟩, h⟩)
        apply h

theorem map_eq_ok_iff {x : Except ε α} {f : α → β} {b : β} :
  x.map f = .ok b ↔ ∃ a, x = .ok a ∧ f a = b
  := by
  cases x with
  | error e =>
      constructor
      · rintro ⟨⟩
      · rintro ⟨a, ⟨⟩, -⟩
  | ok a =>
      constructor
      · intro h
        exact ⟨a, rfl, Except.ok.inj h⟩
      · rintro ⟨_, ⟨⟩, rfl⟩
        rfl

theorem map_eq_error_iff {x : Except ε α} {f : α → β} {e : ε} :
  x.map f = .error e ↔ x = .error e
  := by
  cases x with
  | error e' =>
      constructor
      · rintro ⟨⟩
        rfl
      · rintro ⟨⟩
        rfl
  | ok a =>
      constructor
      · rintro ⟨⟩
      · rintro ⟨⟩

theorem toOption_mapError {x : Except ε α} {f : ε → β} :
  (x.mapError f).toOption = x.toOption
  := by
  cases x with
  | error e => rfl
  | ok a => rfl

/-- What every step preserves, a run that succeeds preserves. -/
theorem foldlM_preserves {P : α → Prop} {f : α → β → Except ε α}
    (hstep : ∀ a b a', P a → f a b = .ok a' → P a') {a a' : α} {items : List β} (ha : P a)
    (h : items.foldlM f a = .ok a') :
  P a'
  := by
  induction items generalizing a with
  | nil =>
      obtain rfl := Except.ok.inj h
      apply ha
  | cons b items ih =>
      rw [List.foldlM_cons] at h
      obtain ⟨a'', hb, hrest⟩ := bind_eq_ok_iff.mp h
      apply ih (hstep a b a'' ha hb) hrest

/-- A run succeeds if every step does. -/
theorem exists_foldlM_eq_ok {f : α → β → Except ε α} {items : List β}
    (hstep : ∀ a, ∀ b ∈ items, ∃ a', f a b = .ok a') (a : α) :
  ∃ a', items.foldlM f a = .ok a'
  := by
  induction items generalizing a with
  | nil => exact ⟨a, rfl⟩
  | cons b items ih =>
      obtain ⟨hb, hrest⟩ := forall_and.mp fun a => List.forall_mem_cons.mp (hstep a)
      obtain ⟨a', ha'⟩ := hb a
      obtain ⟨a'', ha''⟩ := ih hrest a'
      refine ⟨a'', ?_⟩
      rw [List.foldlM_cons]
      apply bind_eq_ok_iff.mpr ⟨a', ha', ha''⟩

section Independent

variable {P : α → Prop} {Q : β → Prop} {f : α → β → Except ε α} {items : List β} {a : α}
  (hpreserves : ∀ a b a', P a → f a b = .ok a' → P a')
  (hok : ∀ a b, P a → ((∃ a', f a b = .ok a') ↔ Q b))

include hpreserves hok

/-- If what went before does not matter to whether a step succeeds, a run succeeds exactly when
every step does. -/
theorem exists_foldlM_eq_ok_iff (ha : P a) :
  (∃ a', items.foldlM f a = .ok a') ↔ ∀ b ∈ items, Q b
  := by
  induction items generalizing a with
  | nil => exact iff_of_true ⟨a, rfl⟩ (List.forall_mem_nil Q)
  | cons b items ih =>
      rw [List.forall_mem_cons, ← hok a b ha]
      simp only [List.foldlM_cons, bind_eq_ok_iff]
      constructor
      · rintro ⟨a'', a', hb, hrest⟩
        exact ⟨⟨a', hb⟩, (ih (hpreserves a b a' ha hb)).mp ⟨a'', hrest⟩⟩
      · rintro ⟨⟨a', hb⟩, hrest⟩
        obtain ⟨a'', ha''⟩ := (ih (hpreserves a b a' ha hb)).mpr hrest
        exact ⟨a'', a', hb, ha''⟩

/-- If what went before does not matter to how a step fails, a run fails as the first step does
that fails. -/
theorem foldlM_eq_error_iff {F : β → ε → Prop}
    (herror : ∀ a b e, P a → (f a b = .error e ↔ F b e)) {e : ε} (ha : P a) :
  items.foldlM f a = .error e
    ↔ ∃ before b after, items = before ++ b :: after ∧ (∀ b' ∈ before, Q b') ∧ F b e
  := by
  induction items generalizing a with
  | nil =>
      constructor
      · intro h
        cases h
      · rintro ⟨before, b, after, hitems, -⟩
        simp at hitems
  | cons b items ih =>
      rw [List.foldlM_cons, bind_eq_error_iff, herror a b e ha]
      constructor
      · rintro (hfails | ⟨a', hb, hrest⟩)
        · exact ⟨[], b, items, rfl, by simp, hfails⟩
        · obtain ⟨before, b', after, rfl, hbefore, hfails⟩ :=
            (ih (hpreserves a b a' ha hb)).mp hrest
          exact ⟨b :: before, b', after, rfl,
            List.forall_mem_cons.mpr ⟨(hok a b ha).mp ⟨a', hb⟩, hbefore⟩, hfails⟩
      · rintro ⟨before, b', after, hitems, hbefore, hfails⟩
        cases before with
        | nil =>
            obtain ⟨rfl, -⟩ := List.cons.inj hitems
            exact .inl hfails
        | cons b'' before =>
            obtain ⟨rfl, rfl⟩ := List.cons.inj hitems
            obtain ⟨hb, hbefore⟩ := List.forall_mem_cons.mp hbefore
            obtain ⟨a', ha'⟩ := (hok a b ha).mpr hb
            exact .inr ⟨a', ha', (ih (hpreserves a b a' ha ha')).mpr
              ⟨before, b', after, rfl, hbefore, hfails⟩⟩

end Independent

/-- A run that reads every item on its own and succeeds has read them all. -/
theorem exists_of_foldlM_map {γ : Type} {read : β → Except ε γ} {f : α → γ → α} {items : List β}
    {a a' : α} (h : items.foldlM (fun a b => (read b).map (f a)) a = .ok a') {b : β}
    (hb : b ∈ items) :
  ∃ c, read b = .ok c
  := by
  have hstep : ∀ a b, (∃ a', (read b).map (f a) = .ok a') ↔ ∃ c, read b = .ok c := by
    intro a b
    simp [map_eq_ok_iff]
  apply (exists_foldlM_eq_ok_iff (P := fun _ => True) (fun _ _ _ _ _ => trivial)
    (fun a b _ => hstep a b) trivial).mp ⟨a', h⟩ b hb

section Longer

variable {f : α → β → Except ε α} {items items' : List β} (h : items <+: items') {a : α}

include h

/-- A run that fails over the first items fails in the same way over all. -/
theorem foldlM_eq_error_of_isPrefix {e : ε} (hfails : items.foldlM f a = .error e) :
  items'.foldlM f a = .error e
  := by
  obtain ⟨rest, rfl⟩ := h
  rw [List.foldlM_append]
  exact bind_eq_error_iff.mpr (.inl hfails)

/-- A run that succeeds over all items succeeds over the first ones. If every step keeps a
property and leads on along a relation, so do the steps over the other items. -/
theorem exists_foldlM_of_isPrefix {P : α → Prop} {R : α → α → Prop} (hrefl : ∀ a, P a → R a a)
    (htrans : ∀ a b c, R a b → R b c → R a c)
    (hstep : ∀ a b a', P a → f a b = .ok a' → P a' ∧ R a a') (ha : P a) {a'' : α}
    (hruns : items'.foldlM f a = .ok a'') :
  ∃ a', items.foldlM f a = .ok a' ∧ P a' ∧ R a' a'' ∧ P a''
  := by
  obtain ⟨rest, rfl⟩ := h
  rw [List.foldlM_append] at hruns
  obtain ⟨a', hfirst, hrest⟩ := bind_eq_ok_iff.mp hruns
  have ha' : P a' := foldlM_preserves (fun b c b' hb hc => (hstep b c b' hb hc).1) ha hfirst
  have hon : P a'' ∧ R a' a'' := by
    apply foldlM_preserves (P := fun b => P b ∧ R a' b) _ ⟨ha', hrefl a' ha'⟩ hrest
    rintro b c b' ⟨hb, hab⟩ hc
    obtain ⟨hb', hbb'⟩ := hstep b c b' hb hc
    exact ⟨hb', htrans a' b b' hab hbb'⟩
  exact ⟨a', hfirst, ha', hon.2, hon.1⟩

end Longer

/-- If every step appends a group to some list, a run appends the groups in the order of the
items. -/
theorem exists_groups_of_foldlM {γ : Type} {R : β → List γ → Prop} (view : α → List γ)
    {f : α → β → Except ε α}
    (hstep : ∀ a b a', f a b = .ok a' → ∃ group, R b group ∧ view a' = view a ++ group)
    {a a' : α} {items : List β} (h : items.foldlM f a = .ok a') :
  ∃ groups, List.Forall₂ R items groups ∧ view a' = view a ++ groups.flatten
  := by
  induction items generalizing a with
  | nil =>
      obtain rfl := Except.ok.inj h
      exact ⟨[], .nil, (List.append_nil _).symm⟩
  | cons b items ih =>
      rw [List.foldlM_cons] at h
      obtain ⟨a'', hb, hrest⟩ := bind_eq_ok_iff.mp h
      obtain ⟨group, hgroup, hview⟩ := hstep a b a'' hb
      obtain ⟨groups, hgroups, hview'⟩ := ih hrest
      refine ⟨group :: groups, .cons hgroup hgroups, ?_⟩
      rw [hview', hview, List.flatten_cons, List.append_assoc]

/-- What is related to the items of a list in turn is related to one of them each. -/
theorem exists_mem_of_forall₂ {R : α → β → Prop} {items : List α} {results : List β}
    (h : List.Forall₂ R items results) {b : β} (hb : b ∈ results) :
  ∃ a ∈ items, R a b
  := by
  induction h with
  | nil => cases hb
  | @cons a b' items results hab _ ih =>
      rcases List.mem_cons.mp hb with rfl | hb
      · exact ⟨a, List.mem_cons_self, hab⟩
      · obtain ⟨a', ha', hab'⟩ := ih hb
        exact ⟨a', List.mem_cons_of_mem a ha', hab'⟩

/-- A list is worked through if every item can be. -/
theorem exists_mapM_eq_ok {f : α → Except ε β} {items : List α}
    (h : ∀ a ∈ items, ∃ b, f a = .ok b) :
  ∃ results, items.mapM f = .ok results
  := by
  induction items with
  | nil => exact ⟨[], rfl⟩
  | cons a items ih =>
      obtain ⟨⟨b, hb⟩, hrest⟩ := List.forall_mem_cons.mp h
      obtain ⟨results, hresults⟩ := ih hrest
      refine ⟨b :: results, ?_⟩
      rw [List.mapM_cons]
      apply bind_eq_ok_iff.mpr
      refine ⟨b, hb, ?_⟩
      apply bind_eq_ok_iff.mpr
      exact ⟨results, hresults, rfl⟩

/-- Working through a list gives the result of each item in turn. -/
theorem forall₂_of_mapM {f : α → Except ε β} {items : List α} {results : List β}
    (h : items.mapM f = .ok results) :
  List.Forall₂ (fun a b => f a = .ok b) items results
  := by
  induction items generalizing results with
  | nil =>
      obtain rfl := Except.ok.inj h
      exact .nil
  | cons a items ih =>
      rw [List.mapM_cons] at h
      obtain ⟨b, hb, h⟩ := bind_eq_ok_iff.mp h
      obtain ⟨rest, hrest, h⟩ := bind_eq_ok_iff.mp h
      obtain rfl := Except.ok.inj h
      exact .cons hb (ih hrest)

/-- Every result is that of an item. -/
theorem exists_mem_of_mapM {f : α → Except ε β} {items : List α} {results : List β}
    (h : items.mapM f = .ok results) {b : β} (hb : b ∈ results) :
  ∃ a ∈ items, f a = .ok b
  := exists_mem_of_forall₂ (forall₂_of_mapM h) hb

/-! ### Computations side by side -/

/-- Two computations fail in the same way, or both succeed with results that are related. -/
inductive Agree (R : α → β → Prop) : Except ε α → Except ε β → Prop
  | error (e : ε) : Agree R (.error e) (.error e)
  | ok {a : α} {b : β} (h : R a b) : Agree R (.ok a) (.ok b)

namespace Agree

variable {α' β' : Type} {R : α → β → Prop} {S : α' → β' → Prop} {x : Except ε α}
  {y : Except ε β}

theorem refl {R : α → α → Prop} (h : ∀ a, R a a) (x : Except ε α) :
  Agree R x x
  := by
  cases x with
  | error e => exact .error e
  | ok a => exact .ok (h a)

theorem map (h : Agree R x y) {f : α → α'} {g : β → β'} (hfg : ∀ a b, R a b → S (f a) (g b)) :
  Agree S (x.map f) (y.map g)
  := by
  cases h with
  | error e => exact .error e
  | ok h => exact .ok (hfg _ _ h)

theorem bind (h : Agree R x y) {f : α → Except ε α'} {g : β → Except ε β'}
    (hfg : ∀ a b, R a b → Agree S (f a) (g b)) :
  Agree S (x >>= f) (y >>= g)
  := by
  cases h with
  | error e => exact .error e
  | ok h => exact hfg _ _ h

/-- Working through a list in two ways that agree on every item gives related results. -/
theorem mapM {f : α → Except ε α'} {g : α → Except ε β'} {items : List α}
    (h : ∀ a ∈ items, Agree S (f a) (g a)) :
  Agree (List.Forall₂ S) (items.mapM f) (items.mapM g)
  := by
  induction items with
  | nil => exact .ok .nil
  | cons a items ih =>
      obtain ⟨ha, hrest⟩ := List.forall_mem_cons.mp h
      rw [List.mapM_cons, List.mapM_cons]
      apply ha.bind
      intro b b' hb
      apply (ih hrest).bind
      intro results results' hresults
      exact .ok (.cons hb hresults)

end Agree

end ReliableRouting
