import Mathlib.Data.List.Basic

/-!
# Runs of a labelled step function

A component that takes one atomic step at a time is a function `f : S → A → Option S`:
the action `a` is possible in the state `s` when `f s a` is `some`. A run is a sequence of
such steps, so quantifying over runs quantifies over every interleaving of the parties that
the actions belong to.

## Key results

- `Run.append_iff`: a run of `as ++ bs` passes through a state between the two parts
- `Run.invariant`: what holds at the start and is kept by every step holds after every run
- `Run.invariant_of_meets`: the same for runs all of whose steps meet a condition
- `Run.simulate_delete`: a run with some of its actions deleted is a run, when every action that
  stays can be simulated and every one that goes is a stutter
-/

variable {S A : Type*}

/-- `Run f s as t`: the actions `as`, in order, lead from `s` to `t`. -/
def Run (f : S → A → Option S) (s : S) (as : List A) (t : S) : Prop :=
  as.foldlM f s = some t

namespace Run

variable {f : S → A → Option S}

instance [DecidableEq S] (s t : S) (as : List A) : Decidable (Run f s as t) :=
  inferInstanceAs (Decidable (as.foldlM f s = some t))

@[simp] theorem nil_iff {s t : S} : Run f s [] t ↔ s = t := by
  simp [Run]

/-- A run of `a :: as` takes a step by `a` first. -/
@[simp] theorem cons_iff {s u : S} {a : A} {as : List A} :
    Run f s (a :: as) u ↔ ∃ t, f s a = some t ∧ Run f t as u := by
  simp only [Run, List.foldlM_cons]
  exact Option.bind_eq_some_iff

/-- A run of `as ++ bs` passes through a state between the two parts. -/
theorem append_iff {s u : S} {as bs : List A} :
    Run f s (as ++ bs) u ↔ ∃ t, Run f s as t ∧ Run f t bs u := by
  simp only [Run, List.foldlM_append]
  exact Option.bind_eq_some_iff

/-- The last step of a run of `as ++ [a]` is by `a`. -/
theorem snoc_iff {s u : S} {a : A} {as : List A} :
    Run f s (as ++ [a]) u ↔ ∃ t, Run f s as t ∧ f t a = some u := by
  simp [append_iff]

/-- Runs compose. -/
theorem append {s t u : S} {as bs : List A} (h₁ : Run f s as t) (h₂ : Run f t bs u) :
    Run f s (as ++ bs) u :=
  append_iff.mpr ⟨t, h₁, h₂⟩

/-- The actions determine the outcome of a run. -/
theorem unique {s t t' : S} {as : List A} (h : Run f s as t) (h' : Run f s as t') : t = t' :=
  Option.some.inj (h.symm.trans h')

/-- After a part of a run, the run takes the rest. -/
theorem rest {s t u : S} {as pre post : List A} (h : Run f s as u) (hsplit : as = pre ++ post)
    (hpre : Run f s pre t) : Run f t post u := by
  obtain ⟨t', ht', hpost⟩ := append_iff.mp (hsplit ▸ h)
  exact hpre.unique ht' ▸ hpost

/-- Actions that are possible one after the other are a run. -/
theorem get (f : S → A → Option S) (s : S) (as : List A) (h : (as.foldlM f s).isSome = true) :
    Run f s as ((as.foldlM f s).get h) :=
  (Option.some_get h).symm

/-! ## Invariants -/

/-- Every step of the run `as` from `s` is taken in a state, and by an action, that `G` allows. -/
def Meets (f : S → A → Option S) (G : S → A → Prop) (s : S) (as : List A) : Prop :=
  ∀ pre a post t, as = pre ++ a :: post → Run f s pre t → G t a

/-- A condition met along a run is met by its first step and along the rest. -/
theorem Meets.uncons {G : S → A → Prop} {s t : S} {a : A} {as : List A}
    (h : Meets f G s (a :: as)) (hs : f s a = some t) : G s a ∧ Meets f G t as := by
  constructor
  · exact h [] a as s rfl (nil_iff.mpr rfl)
  · intro pre b post u hsplit hu
    exact h (a :: pre) b post u (by rw [hsplit, List.cons_append]) (cons_iff.mpr ⟨t, hs, hu⟩)

/-- A condition met along a run is met along its later part. -/
theorem Meets.suffix {G : S → A → Prop} {s t : S} {pre post : List A}
    (h : Meets f G s (pre ++ post)) (hpre : Run f s pre t) : Meets f G t post := by
  intro as a bs u hsplit hu
  exact h (pre ++ as) a bs u (by rw [hsplit, List.append_assoc]) (hpre.append hu)

/-- The condition is met along a run when its first step meets it, and the rest does. -/
theorem Meets.cons {G : S → A → Prop} {s : S} {a : A} {as : List A} (hG : G s a)
    (hrest : ∀ t, f s a = some t → Meets f G t as) : Meets f G s (a :: as) := by
  intro pre b post u hsplit hu
  -- The step in question is the first one or a later one
  cases pre with
  | nil =>
    obtain ⟨rfl, -⟩ := List.cons.inj hsplit
    exact nil_iff.mp hu ▸ hG
  | cons c pre =>
    obtain ⟨rfl, hrest'⟩ := List.cons.inj hsplit
    obtain ⟨t, ht, hu⟩ := cons_iff.mp hu
    exact hrest t ht pre b post u hrest' hu

/-- A condition met along a run, and one that each of its actions meets. -/
theorem Meets.and_mem {G : S → A → Prop} {P : A → Prop} {s : S} {as : List A}
    (h : Meets f G s as) (hP : ∀ a ∈ as, P a) : Meets f (fun s a => G s a ∧ P a) s as :=
  fun pre a post t hsplit hpre => ⟨h pre a post t hsplit hpre, hP a (by simp [hsplit])⟩

/-- Whether a run meets a decidable condition can be found out by taking its steps. -/
instance Meets.decidable {G : S → A → Prop} [∀ s a, Decidable (G s a)] (s : S) :
    (as : List A) → Decidable (Meets f G s as)
  | [] => isTrue fun pre a post _ hsplit => absurd hsplit.symm (by simp)
  | a :: as =>
    if hG : G s a then
      match hs : f s a with
      | none => isTrue (.cons hG fun t ht => nomatch hs.symm.trans ht)
      | some t =>
        match Meets.decidable t as with
        | isTrue hrest => isTrue (.cons hG fun t' ht => Option.some.inj (hs.symm.trans ht) ▸ hrest)
        | isFalse hrest => isFalse fun h => hrest (h.uncons hs).2
    else isFalse fun h => hG (h [] a as s rfl (nil_iff.mpr rfl))

/-- A property that every step preserves, under a condition `G` that every step of the run
    meets, is carried from the start of the run to its end. -/
theorem invariant_of_meets {G : S → A → Prop} {I : S → Prop}
    (hstep : ∀ s a s', I s → G s a → f s a = some s' → I s') {s t : S} {as : List A}
    (hr : Run f s as t) (hG : Meets f G s as) (h₀ : I s) : I t := by
  -- The invariant moves along the run, so the induction is on the actions for every start
  induction as generalizing s with
  | nil => exact nil_iff.mp hr ▸ h₀
  | cons a as ih =>
    obtain ⟨u, hu, hrest⟩ := cons_iff.mp hr
    obtain ⟨hGs, hGrest⟩ := hG.uncons hu
    exact ih hrest hGrest (hstep s a u h₀ hGs hu)

/-- A property that every step preserves is carried from the start of a run to its end. -/
theorem invariant {I : S → Prop} (hstep : ∀ s a s', I s → f s a = some s' → I s')
    {s t : S} {as : List A} (hr : Run f s as t) (h₀ : I s) : I t :=
  invariant_of_meets (G := fun _ _ => True) (fun s a s' hI _ => hstep s a s' hI) hr
    (fun _ _ _ _ _ _ => trivial) h₀

/-! ## Deleting actions -/

/-- The actions of a run, but those that `d` picks by the state they are taken in and the actions
    that come after them. -/
def delete (f : S → A → Option S) (d : S → A → List A → Bool) (s : S) : List A → List A
  | [] => []
  | a :: as =>
    match f s a with
    | some t => if d s a as then delete f d t as else a :: delete f d t as
    | none => []

theorem delete_cons {d : S → A → List A → Bool} {s t : S} {a : A} {as : List A}
    (hs : f s a = some t) :
    delete f d s (a :: as) = if d s a as then delete f d t as else a :: delete f d t as := by
  simp only [delete, hs]

/-- The rest of a run is a run without the actions that are deleted, when a relation that knows
    what is still to come is kept by every action that stays, and by every one that goes with the
    second state standing still. -/
theorem simulate_delete {T : Type*} {g : T → A → Option T} {d : S → A → List A → Bool}
    {R : List A → S → T → Prop}
    (hgoes : ∀ s a as t u, R (a :: as) s u → f s a = some t → d s a as = true → R as t u)
    (hstays : ∀ s a as t u, R (a :: as) s u → f s a = some t → d s a as = false →
      ∃ v, g u a = some v ∧ R as t v)
    {s t : S} {u : T} {as : List A} (hr : Run f s as t) (hR : R as s u) :
    ∃ v, Run g u (delete f d s as) v ∧ R [] t v := by
  -- The relation moves along both runs
  induction as generalizing s u with
  | nil => exact ⟨u, nil_iff.mpr rfl, nil_iff.mp hr ▸ hR⟩
  | cons a as ih =>
    obtain ⟨s', hs, hrest⟩ := cons_iff.mp hr
    rw [delete_cons hs]
    cases hd : d s a as with
    | true => exact ih hrest (hgoes s a as s' u hR hs hd)
    | false =>
      obtain ⟨u', hu, hR'⟩ := hstays s a as s' u hR hs hd
      obtain ⟨v, hv, hRv⟩ := ih hrest hR'
      exact ⟨v, cons_iff.mpr ⟨u', hu, hv⟩, hRv⟩

/-- The actions that `p` picks from a run are a run, when a relation is kept by each of them and by
    the others with the second state standing still. -/
theorem simulate_filter {T : Type*} {g : T → A → Option T} {p : A → Bool} {R : S → T → Prop}
    (hgoes : ∀ s a t u, R s u → f s a = some t → p a = false → R t u)
    (hstays : ∀ s a t u, R s u → f s a = some t → p a = true → ∃ v, g u a = some v ∧ R t v)
    {s t : S} {u : T} {as : List A} (hr : Run f s as t) (hR : R s u) :
    ∃ v, Run g u (as.filter p) v ∧ R t v := by
  induction as generalizing s u with
  | nil => exact ⟨u, nil_iff.mpr rfl, nil_iff.mp hr ▸ hR⟩
  | cons a as ih =>
    obtain ⟨s', hs, hrest⟩ := cons_iff.mp hr
    cases hp : p a with
    | false =>
      rw [List.filter_cons_of_neg (by simp [hp])]
      exact ih hrest (hgoes s a s' u hR hs hp)
    | true =>
      rw [List.filter_cons_of_pos hp]
      obtain ⟨u', hu, hR'⟩ := hstays s a s' u hR hs hp
      obtain ⟨v, hv, hRv⟩ := ih hrest hR'
      exact ⟨v, cons_iff.mpr ⟨u', hu, hv⟩, hRv⟩

/-- An action that is left was not picked. -/
theorem of_mem_delete {d : S → A → List A → Bool} {s : S} {a : A} {as : List A}
    (h : a ∈ delete f d s as) :
    ∃ pre post u, as = pre ++ a :: post ∧ Run f s pre u ∧ d u a post = false := by
  induction as generalizing s with
  | nil => cases h
  | cons b as ih =>
    simp only [delete] at h
    split at h
    · rename_i t hs
      have hlater : a ∈ delete f d t as →
          ∃ pre post u, b :: as = pre ++ a :: post ∧ Run f s pre u ∧ d u a post = false := by
        intro hmem
        obtain ⟨pre, post, u, rfl, hu, hd⟩ := ih hmem
        exact ⟨b :: pre, post, u, rfl, cons_iff.mpr ⟨t, hs, hu⟩, hd⟩
      cases hd : d s b as with
      | true => exact hlater (by simpa [hd] using h)
      | false =>
        simp only [hd, Bool.false_eq_true, if_false, List.mem_cons] at h
        rcases h with rfl | h
        · exact ⟨[], as, s, rfl, nil_iff.mpr rfl, hd⟩
        · exact hlater h
    · cases h

/-- The deletion splits where the run does, if what is picked from the first part does not depend
    on what comes after it. -/
theorem delete_append {d : S → A → List A → Bool} {s t : S} {as bs : List A} (hr : Run f s as t)
    (hlocal : ∀ pre a post u, as = pre ++ a :: post → Run f s pre u →
      d u a (post ++ bs) = d u a post) :
    delete f d s (as ++ bs) = delete f d s as ++ delete f d t bs := by
  induction as generalizing s with
  | nil =>
    rw [nil_iff.mp hr]
    rfl
  | cons a as ih =>
    obtain ⟨s', hs, hrest⟩ := cons_iff.mp hr
    have hfirst := hlocal [] a as s rfl (nil_iff.mpr rfl)
    have htail := ih hrest fun pre b post u hsplit hu =>
      hlocal (a :: pre) b post u (by rw [hsplit, List.cons_append]) (cons_iff.mpr ⟨s', hs, hu⟩)
    rw [List.cons_append, delete_cons hs, delete_cons hs, hfirst, htail]
    cases d s a as with
    | true => rfl
    | false => rfl

end Run
