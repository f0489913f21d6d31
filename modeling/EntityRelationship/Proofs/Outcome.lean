import Mathlib.Data.List.Forall2

/-!
# Outcomes

A computation that may fail has a value or a fault. This file says what a successful sequence of
computations is made of, and which faults a sequence can have: those of its steps and no others.

Runs over a list come in two forms. A traversal treats each element by itself, so it succeeds
element by element. A fold hands a state on, and what is known of its outcome comes from an
invariant of the state.
-/

namespace EntityRelationship.Outcome

variable {ε δ α β γ σ τ : Type} {P : ε → Prop}

/-! ## Success -/

/-- A value is a success with itself and nothing else. -/
@[simp] theorem pure_eq_ok_iff {a b : α} : (pure a : Except ε α) = .ok b ↔ a = b := by
  simp [pure, Except.pure]

/-- A sequence succeeds exactly when both of its steps do. -/
theorem bind_eq_ok_iff {x : Except ε α} {f : α → Except ε β} {b : β} :
    (x >>= f) = .ok b ↔ ∃ a, x = .ok a ∧ f a = .ok b := by
  cases x <;> simp [bind, Except.bind]

/-- A computation whose value passes a test succeeds with a value that does. -/
theorem exists_eq_ok_of_any {x : Except ε α} {p : α → Bool} (h : x.toOption.any p = true) :
    ∃ a, x = .ok a ∧ p a = true := by
  cases x with
  | error e => cases h
  | ok a => exact ⟨a, rfl, h⟩

/-- What holds of every value of a computation that succeeds holds of the value that it has. -/
theorem forall_ok_iff {x : Except ε α} {a : α} {Q : α → Prop} (h : x = .ok a) :
    (∀ b, x = .ok b → Q b) ↔ Q a := by
  constructor
  · intro hall
    exact hall a h
  · intro ha b hb
    rw [← Except.ok.inj (h.symm.trans hb)]
    exact ha

/-- The step after a success goes on from its value. -/
theorem ok_bind {a : α} {f : α → Except ε β} : (Except.ok a >>= f) = f a := rfl

/-- Putting faults in other words leaves success as it is. -/
theorem mapError_eq_ok_iff {x : Except ε α} {f : ε → δ} {a : α} :
    x.mapError f = .ok a ↔ x = .ok a := by
  cases x <;> simp [Except.mapError]

/-- A traversal succeeds exactly when it does on each element. -/
theorem mapM_eq_ok_iff {f : α → Except ε β} {xs : List α} {ys : List β} :
    xs.mapM f = .ok ys ↔ List.Forall₂ (fun x y => f x = .ok y) xs ys := by
  induction xs generalizing ys with
  | nil =>
    rw [List.mapM_nil, pure_eq_ok_iff, List.forall₂_nil_left_iff]
    exact eq_comm
  | cons x xs ih =>
    rw [List.mapM_cons, bind_eq_ok_iff, List.forall₂_cons_left_iff]
    constructor
    · rintro ⟨y, hy, h⟩
      obtain ⟨ys, hys, h⟩ := bind_eq_ok_iff.1 h
      rw [pure_eq_ok_iff] at h
      exact ⟨y, ys, hy, ih.1 hys, h.symm⟩
    · rintro ⟨y, ys, hy, hys, rfl⟩
      exact ⟨y, hy, bind_eq_ok_iff.2 ⟨ys, ih.2 hys, rfl⟩⟩

/-- Of two lists that correspond, the second has an element for each of the first. -/
theorem exists_of_forall₂ {R : α → β → Prop} {xs : List α} {ys : List β}
    (h : List.Forall₂ R xs ys) {x : α} (hx : x ∈ xs) : ∃ y ∈ ys, R x y := by
  induction h with
  | nil => cases hx
  | cons hxy _ ih =>
    rcases List.mem_cons.1 hx with rfl | hx
    · exact ⟨_, List.mem_cons_self, hxy⟩
    · obtain ⟨y, hy, hxy⟩ := ih hx
      exact ⟨y, List.mem_cons_of_mem _ hy, hxy⟩

/-- A list that corresponds to two in a row is two in a row. -/
theorem exists_append_of_forall₂ {R : α → β → Prop} {xs xs' : List α} {ys : List β}
    (h : List.Forall₂ R (xs ++ xs') ys) :
    ∃ zs zs', List.Forall₂ R xs zs ∧ List.Forall₂ R xs' zs' ∧ ys = zs ++ zs' :=
  ⟨_, _, (List.forall₂_take_append _ _ _ h.flip).flip, (List.forall₂_drop_append _ _ _ h.flip).flip,
    (List.take_append_drop _ _).symm⟩

/-- A list that corresponds to several in a row is several in a row. -/
theorem exists_flatten_of_forall₂ {R : α → β → Prop} {xss : List (List α)} {ys : List β}
    (h : List.Forall₂ R xss.flatten ys) :
    ∃ yss, List.Forall₂ (List.Forall₂ R) xss yss ∧ ys = yss.flatten := by
  induction xss generalizing ys with
  | nil =>
    cases h
    exact ⟨[], .nil, rfl⟩
  | cons xs xss ih =>
    obtain ⟨zs, zs', hzs, hrest, rfl⟩ := exists_append_of_forall₂ h
    obtain ⟨yss, hyss, rfl⟩ := ih hrest
    exact ⟨zs :: yss, .cons hzs hyss, rfl⟩

/-- Lists correspond if each of them corresponds to a third one in between. -/
theorem forall₂_trans {R : α → β → Prop} {S : β → γ → Prop} {T : α → γ → Prop} {xs : List α}
    {ys : List β} {zs : List γ} (hT : ∀ x y z, R x y → S y z → T x z) (h : List.Forall₂ R xs ys)
    (h' : List.Forall₂ S ys zs) : List.Forall₂ T xs zs := by
  induction h generalizing zs with
  | nil =>
    cases h'
    exact .nil
  | cons hxy _ ih =>
    cases h' with
    | cons hyz h' => exact .cons (hT _ _ _ hxy hyz) (ih h')

/-- A successful traversal has a value for each element. -/
theorem exists_of_mapM_eq_ok {f : α → Except ε β} {xs : List α} {ys : List β}
    (h : xs.mapM f = .ok ys) {x : α} (hx : x ∈ xs) : ∃ y ∈ ys, f x = .ok y :=
  exists_of_forall₂ (mapM_eq_ok_iff.1 h) hx

/-- Each value of a successful traversal is that of an element. -/
theorem exists_of_mem_of_mapM {f : α → Except ε β} {xs : List α} {ys : List β}
    (h : xs.mapM f = .ok ys) {y : β} (hy : y ∈ ys) : ∃ x ∈ xs, f x = .ok y :=
  exists_of_forall₂ (mapM_eq_ok_iff.1 h).flip hy

/-- A traversal of elements that all succeed succeeds. -/
theorem exists_mapM_eq_ok {f : α → Except ε β} {xs : List α}
    (h : ∀ x ∈ xs, ∃ y, f x = .ok y) : ∃ ys, xs.mapM f = .ok ys := by
  induction xs with
  | nil => exact ⟨[], rfl⟩
  | cons x xs ih =>
    obtain ⟨y, hy⟩ := h x List.mem_cons_self
    obtain ⟨ys, hys⟩ := ih fun x hx => h x (List.mem_cons_of_mem _ hx)
    refine ⟨y :: ys, ?_⟩
    rw [List.mapM_cons, hy, ok_bind, hys]
    rfl

/-- What every successful step keeps holds at the end of a successful run. -/
theorem foldlM_induction {f : σ → α → Except ε σ} {I : σ → Prop} {xs : List α} {s s' : σ}
    (hstep : ∀ s x s', x ∈ xs → I s → f s x = .ok s' → I s')
    (h : xs.foldlM f s = .ok s') (hs : I s) : I s' := by
  induction xs generalizing s with
  | nil =>
    rw [List.foldlM_nil, pure_eq_ok_iff] at h
    exact h ▸ hs
  | cons x xs ih =>
    rw [List.foldlM_cons, bind_eq_ok_iff] at h
    obtain ⟨s₁, hx, hxs⟩ := h
    have hs₁ : I s₁ := hstep s x s₁ List.mem_cons_self hs hx
    exact ih (fun s y s' hy => hstep s y s' (List.mem_cons_of_mem _ hy)) hxs hs₁

/-- In a successful run every element has been taken from some state. -/
theorem exists_step_of_foldlM {f : σ → α → Except ε σ} {xs : List α} {s s' : σ}
    (h : xs.foldlM f s = .ok s') : ∀ x ∈ xs, ∃ r r', f r x = .ok r' := by
  induction xs generalizing s with
  | nil => exact fun x hx => absurd hx List.not_mem_nil
  | cons y xs ih =>
    rw [List.foldlM_cons, bind_eq_ok_iff] at h
    obtain ⟨s₁, hy, h⟩ := h
    intro x hx
    rcases List.mem_cons.1 hx with rfl | hx
    · exact ⟨s, s₁, hy⟩
    · exact ih h x hx

/-! ## Equal computations -/

/-- Sequences with the same first step are equal if they go on equally from its value. -/
theorem bind_congr_of_ok {x : Except ε α} {f g : α → Except ε β} (h : ∀ a, x = .ok a → f a = g a) :
    (x >>= f) = (x >>= g) := by
  cases x with
  | error e => rfl
  | ok a => exact h a rfl

/-- Traversals that treat each element equally are equal. -/
theorem mapM_congr {f g : α → Except ε β} {xs : List α} (h : ∀ x ∈ xs, f x = g x) :
    xs.mapM f = xs.mapM g := by
  induction xs with
  | nil => rfl
  | cons x xs ih =>
    rw [List.mapM_cons, List.mapM_cons, h x List.mem_cons_self,
      ih fun y hy => h y (List.mem_cons_of_mem _ hy)]

/-- Runs whose steps are equal at each element are equal. -/
theorem foldlM_congr {f g : σ → α → Except ε σ} {xs : List α} (h : ∀ x ∈ xs, ∀ s, f s x = g s x)
    (s : σ) : xs.foldlM f s = xs.foldlM g s := by
  induction xs generalizing s with
  | nil => rfl
  | cons x xs ih =>
    rw [List.foldlM_cons, List.foldlM_cons, h x List.mem_cons_self]
    exact bind_congr_of_ok fun r _ => ih (fun y hy => h y (List.mem_cons_of_mem _ hy)) r

/-- A traversal that joins what the elements give joins what the first one gives to the rest. -/
theorem mapM_flatten_cons {f : α → Except ε (List β)} {x : α} {xs : List α} :
    (do return (← (x :: xs).mapM f).flatten : Except ε (List β)) = (do
      let y ← f x
      let rest ← (do return (← xs.mapM f).flatten)
      return y ++ rest) := by
  rw [List.mapM_cons]
  cases f x with
  | error e => rfl
  | ok y => cases xs.mapM f <;> rfl

/-- Elements that give nothing may be left out of such a traversal. -/
theorem mapM_flatten_filter {f : α → Except ε (List β)} {p : α → Bool} {xs : List α}
    (h : ∀ x ∈ xs, p x = false → f x = .ok []) :
    (do return (← (xs.filter p).mapM f).flatten : Except ε (List β)) =
      (do return (← xs.mapM f).flatten) := by
  induction xs with
  | nil => rfl
  | cons x xs ih =>
    have ih := ih fun y hy => h y (List.mem_cons_of_mem _ hy)
    rw [mapM_flatten_cons, ← ih]
    cases hp : p x with
    | false =>
      rw [List.filter_cons_of_neg (by simp [hp]), h x List.mem_cons_self hp]
      cases (xs.filter p).mapM f <;> rfl
    | true => rw [List.filter_cons_of_pos hp, mapM_flatten_cons]

/-! ## Faults -/

/-- Every fault of a computation is of a certain sort. -/
def FaultsIn (P : ε → Prop) (x : Except ε α) : Prop :=
  ∀ e, x = .error e → P e

theorem faultsIn_ok (P : ε → Prop) (a : α) : FaultsIn P (.ok a) := by
  intro e h
  cases h

theorem faultsIn_error {e : ε} (h : P e) : FaultsIn P (.error e : Except ε α) := by
  intro e' he
  cases he
  exact h

/-- A computation that succeeds has no fault. -/
theorem faultsIn_of_exists {x : Except ε α} (h : ∃ a, x = .ok a) : FaultsIn P x := by
  obtain ⟨a, rfl⟩ := h
  exact faultsIn_ok P a

/-- The faults of a sequence are those of its steps. The second step is only taken from what the
first one gives. -/
theorem FaultsIn.bind {x : Except ε α} {f : α → Except ε β} (hx : FaultsIn P x)
    (hf : ∀ a, x = .ok a → FaultsIn P (f a)) : FaultsIn P (x >>= f) := by
  cases x with
  | error e => exact faultsIn_error (hx e rfl)
  | ok a => exact hf a rfl

/-- The faults of a run are those of its steps, each taken from a state with the invariant. -/
theorem FaultsIn.foldlM {f : σ → α → Except ε σ} {I : σ → Prop} {xs : List α} {s : σ}
    (hstep : ∀ s x s', x ∈ xs → I s → f s x = .ok s' → I s')
    (hfault : ∀ s x, x ∈ xs → I s → FaultsIn P (f s x)) (hs : I s) :
    FaultsIn P (xs.foldlM f s) := by
  induction xs generalizing s with
  | nil => exact faultsIn_ok P s
  | cons x xs ih =>
    rw [List.foldlM_cons]
    refine (hfault s x List.mem_cons_self hs).bind fun s₁ hx => ?_
    have hs₁ : I s₁ := hstep s x s₁ List.mem_cons_self hs hx
    exact ih (fun s y s' hy => hstep s y s' (List.mem_cons_of_mem _ hy))
      (fun s y hy => hfault s y (List.mem_cons_of_mem _ hy)) hs₁

/-- A computation succeeds or has a fault of the sort that all its faults are of. -/
theorem FaultsIn.ok_or_error {x : Except ε α} (h : FaultsIn P x) :
    (∃ a, x = .ok a) ∨ ∃ e, x = .error e ∧ P e := by
  cases x with
  | ok a => exact .inl ⟨a, rfl⟩
  | error e => exact .inr ⟨e, rfl, h e rfl⟩

/-- A traversal fails with the fault of the first element on which it fails. -/
theorem mapM_eq_error_iff {f : α → Except ε β} {xs : List α} {e : ε} :
    xs.mapM f = .error e ↔ ∃ before x after, xs = before ++ x :: after ∧
      (∀ y ∈ before, ∃ b, f y = .ok b) ∧ f x = .error e := by
  constructor
  · intro h
    induction xs with
    | nil => cases h
    | cons x xs ih =>
      rw [List.mapM_cons] at h
      cases hx : f x with
      | error e' =>
        rw [hx] at h
        cases h
        exact ⟨[], x, xs, rfl, by simp, hx⟩
      | ok b =>
        rw [hx, ok_bind] at h
        have hxs : xs.mapM f = .error e := by
          cases hrest : xs.mapM f with
          | error e' => rw [hrest] at h; cases h; rfl
          | ok bs => rw [hrest] at h; cases h
        obtain ⟨before, y, after, rfl, hbefore, hy⟩ := ih hxs
        exact ⟨x :: before, y, after, rfl, List.forall_mem_cons.2 ⟨⟨b, hx⟩, hbefore⟩, hy⟩
  · rintro ⟨before, x, after, rfl, hbefore, hx⟩
    obtain ⟨bs, hbs⟩ := exists_mapM_eq_ok hbefore
    rw [List.mapM_append, hbs, ok_bind, List.mapM_cons, hx]
    rfl

/-! ## Computations side by side -/

/-- Two computations succeed with related values or fail with related faults. -/
inductive Related (E : ε → δ → Prop) (R : α → β → Prop) : Except ε α → Except δ β → Prop
  | ok {a : α} {b : β} : R a b → Related E R (.ok a) (.ok b)
  | error {e : ε} {f : δ} : E e f → Related E R (.error e) (.error f)

variable {E : ε → δ → Prop} {R : α → β → Prop}

theorem Related.mono {S : α → β → Prop} {x : Except ε α} {y : Except δ β} (h : Related E R x y)
    (himp : ∀ a b, R a b → S a b) : Related E S x y := by
  cases h with
  | ok hab => exact .ok (himp _ _ hab)
  | error hef => exact .error hef

/-- Related faults may be put in other words. -/
theorem Related.mapError {ε' δ' : Type} {F : ε' → δ' → Prop} {i : ε → ε'} {j : δ → δ'}
    {x : Except ε α} {y : Except δ β} (h : Related E R x y) (hij : ∀ e f, E e f → F (i e) (j f)) :
    Related F R (x.mapError i) (y.mapError j) := by
  cases h with
  | ok hab => exact .ok hab
  | error hef => exact .error (hij _ _ hef)

/-- Sequences are related step by step. The second step is only taken from what the first one
gives. -/
theorem Related.bind {α' β' : Type} {S : α' → β' → Prop} {x : Except ε α} {y : Except δ β}
    {f : α → Except ε α'} {g : β → Except δ β'} (h : Related E R x y)
    (hfg : ∀ a b, x = .ok a → R a b → Related E S (f a) (g b)) :
    Related E S (x >>= f) (y >>= g) := by
  cases h with
  | ok hab => exact hfg _ _ rfl hab
  | error hef => exact .error hef

/-- After steps that give the same value, the next steps are taken from that value. -/
theorem Related.bind_eq {α' β' : Type} {S : α' → β' → Prop} {x : Except ε α} {y : Except δ α}
    {f : α → Except ε α'} {g : α → Except δ β'} (h : Related E Eq x y)
    (hfg : ∀ a, x = .ok a → Related E S (f a) (g a)) : Related E S (x >>= f) (y >>= g) :=
  h.bind fun a _ hx hab => hab ▸ hfg a hx

/-- A traversal gives the same values if each element gives the same value. -/
theorem Related.mapM {f : α → Except ε γ} {g : β → Except δ γ} {i : α → β} {xs : List α}
    (h : ∀ x ∈ xs, Related E Eq (f x) (g (i x))) :
    Related E Eq (xs.mapM f) ((xs.map i).mapM g) := by
  induction xs with
  | nil => exact .ok rfl
  | cons x xs ih =>
    rw [List.map_cons, List.mapM_cons, List.mapM_cons]
    refine (h x List.mem_cons_self).bind_eq fun y _ => ?_
    refine (ih fun x hx => h x (List.mem_cons_of_mem _ hx)).bind_eq fun ys _ => ?_
    exact .ok rfl

/-- Runs are related if they start from related states and each step keeps states related. -/
theorem Related.foldlM {I : σ → τ → Prop} {f : σ → α → Except ε σ} {g : τ → β → Except δ τ}
    {i : α → β} {xs : List α} (h : ∀ s t, I s t → ∀ x ∈ xs, Related E I (f s x) (g t (i x)))
    {s : σ} {t : τ} (hst : I s t) : Related E I (xs.foldlM f s) ((xs.map i).foldlM g t) := by
  induction xs generalizing s t with
  | nil => exact .ok hst
  | cons x xs ih =>
    rw [List.map_cons, List.foldlM_cons, List.foldlM_cons]
    refine (h s t hst x List.mem_cons_self).bind fun s' t' _ hst' => ?_
    exact ih (fun s t hst x hx => h s t hst x (List.mem_cons_of_mem _ hx)) hst'

end EntityRelationship.Outcome
