import Tateru.ForStd.Run

/-!
# Fair infinite runs

In an infinite run of a labelled step function, one action is taken at every time, or nothing
happens. A set of actions, such as those of one party, is treated fairly if it is not passed over
for ever: weakly, if one of them is taken whenever they stay possible; strongly, if one is taken
whenever they become possible again and again.

## Key results

- `InfRun.leadsTo_of_rank`: under weak fairness, what brings a rank down gets to its goal
- `InfRun.leadsTo_of_recurring`: under strong fairness, what is possible again and again is done
- `InfRun.eventually_all`: what comes to hold one by one, and stays, comes to hold together
- `InfRun.weaklyFair_ofRun`, `InfRun.stronglyFair_ofRun`: a run that ends is fair to those who can
  do nothing at its end
-/

variable {S A : Type*} {f : S → A → Option S} {s₀ : S}

/-- An infinite run from `s₀`; `none` is a time at which nothing happens. -/
structure InfRun (f : S → A → Option S) (s₀ : S) where
  state : Nat → S
  action : Nat → Option A
  start : state 0 = s₀
  next : ∀ k, (action k = none ∧ state (k + 1) = state k) ∨
    ∃ a, action k = some a ∧ f (state k) a = some (state (k + 1))

/-- One of the actions is possible. -/
def Enabled (f : S → A → Option S) (P : A → Prop) (s : S) : Prop :=
  ∃ a, P a ∧ (f s a).isSome = true

namespace InfRun

/-- One of the actions is taken at the time `k`. -/
def Takes (ρ : InfRun f s₀) (P : A → Prop) (k : Nat) : Prop :=
  ∃ a, P a ∧ ρ.action k = some a

/-- Actions that stay possible are not passed over for ever. -/
def WeaklyFair (ρ : InfRun f s₀) (P : A → Prop) : Prop :=
  ∀ k, (∀ l, k ≤ l → Enabled f P (ρ.state l)) → ∃ l, k ≤ l ∧ ρ.Takes P l

/-- Actions that become possible again and again are not passed over for ever. -/
def StronglyFair (ρ : InfRun f s₀) (P : A → Prop) : Prop :=
  ∀ k, (∀ l, k ≤ l → ∃ m, l ≤ m ∧ Enabled f P (ρ.state m)) → ∃ l, k ≤ l ∧ ρ.Takes P l

/-- From each state where `P` holds the run comes to one where `Q` holds. -/
def LeadsTo (ρ : InfRun f s₀) (P Q : S → Prop) : Prop :=
  ∀ k, P (ρ.state k) → ∃ l, k ≤ l ∧ Q (ρ.state l)

variable {ρ : InfRun f s₀}

/-! ## Safety -/

/-- A state is reached by the actions taken before it. -/
theorem exists_run (ρ : InfRun f s₀) {k l : Nat} (h : k ≤ l) :
    ∃ as, Run f (ρ.state k) as (ρ.state l) := by
  induction h with
  | refl => exact ⟨[], Run.nil_iff.mpr rfl⟩
  | @step l _ ih =>
    obtain ⟨as, has⟩ := ih
    rcases ρ.next l with ⟨-, hsame⟩ | ⟨a, -, ha⟩
    · exact ⟨as, hsame ▸ has⟩
    · exact ⟨as ++ [a], Run.snoc_iff.mpr ⟨_, has, ha⟩⟩

/-- A state is reached from the start. -/
theorem exists_run_start (ρ : InfRun f s₀) (k : Nat) : ∃ as, Run f s₀ as (ρ.state k) := by
  obtain ⟨as, has⟩ := ρ.exists_run (Nat.zero_le k)
  rw [ρ.start] at has
  exact ⟨as, has⟩

/-- What every step keeps holds from then on. -/
theorem stable {P : S → Prop} (hstep : ∀ s a s', P s → f s a = some s' → P s') {k l : Nat}
    (h : k ≤ l) (hP : P (ρ.state k)) : P (ρ.state l) := by
  obtain ⟨as, has⟩ := ρ.exists_run h
  exact Run.invariant hstep has hP

/-- What every step keeps until it gets to `Q` holds until then. -/
theorem until_goal {P Q : S → Prop} (hstep : ∀ s a s', P s → f s a = some s' → P s' ∨ Q s')
    {k l : Nat} (h : k ≤ l) (hP : P (ρ.state k)) :
    P (ρ.state l) ∨ ∃ m, k ≤ m ∧ m ≤ l ∧ Q (ρ.state m) := by
  induction h with
  | refl => exact Or.inl hP
  | @step l hkl ih =>
    rcases ih with hl | ⟨m, hkm, hml, hm⟩
    · rcases ρ.next l with ⟨-, hsame⟩ | ⟨a, -, ha⟩
      · exact Or.inl (hsame ▸ hl)
      · rcases hstep _ a _ hl ha with hl | hl
        · exact Or.inl hl
        · exact Or.inr ⟨l + 1, Nat.le_succ_of_le hkl, Nat.le_refl _, hl⟩
    · exact Or.inr ⟨m, hkm, Nat.le_succ_of_le hml, hm⟩

/-! ## Progress -/

theorem LeadsTo.trans {P Q R : S → Prop} (h : ρ.LeadsTo P Q) (h' : ρ.LeadsTo Q R) :
    ρ.LeadsTo P R := by
  intro k hP
  obtain ⟨l, hkl, hQ⟩ := h k hP
  obtain ⟨m, hlm, hR⟩ := h' l hQ
  exact ⟨m, Nat.le_trans hkl hlm, hR⟩

/-- Under weak fairness: as long as the goal is not reached the party can act, nobody raises the
    rank, and each action of the party lowers it. -/
theorem leadsTo_of_rank {party : A → Prop} {P Q : S → Prop} (rank : S → Nat)
    (hfair : ρ.WeaklyFair party) (henabled : ∀ s, P s → Q s ∨ Enabled f party s)
    (hstep : ∀ s a s', P s → f s a = some s' → Q s' ∨ (P s' ∧ rank s' ≤ rank s))
    (hparty : ∀ s a s', P s → party a → f s a = some s' → Q s' ∨ rank s' < rank s) :
    ρ.LeadsTo P Q := by
  intro k hP
  -- The induction is on the rank; between two actions of the party it does not rise
  induction hn : rank (ρ.state k) using Nat.strongRecOn generalizing k with
  | ind n ih =>
    by_contra hnever
    have hno : ∀ m, k ≤ m → ¬ Q (ρ.state m) := fun m hkm hQ => hnever ⟨m, hkm, hQ⟩
    have hkeeps : ∀ l, k ≤ l → P (ρ.state l) ∧ rank (ρ.state l) ≤ n := by
      intro l hkl
      induction hkl with
      | refl => exact ⟨hP, Nat.le_of_eq hn⟩
      | @step l hkl hl =>
        rcases ρ.next l with ⟨-, hsame⟩ | ⟨a, -, ha⟩
        · exact hsame ▸ hl
        · rcases hstep _ a _ hl.1 ha with hQ | ⟨hP', hrank⟩
          · exact absurd hQ (hno _ (Nat.le_succ_of_le hkl))
          · exact ⟨hP', Nat.le_trans hrank hl.2⟩
    obtain ⟨l, hkl, a, hparty', hal⟩ := hfair k fun l hkl =>
      (henabled _ (hkeeps l hkl).1).resolve_left (hno l hkl)
    rcases ρ.next l with ⟨hnone, -⟩ | ⟨a', ha', hstep'⟩
    · rw [hnone] at hal
      cases hal
    · obtain rfl := Option.some.inj (ha'.symm.trans hal)
      have hkl' : k ≤ l + 1 := Nat.le_succ_of_le hkl
      rcases hparty _ a' _ (hkeeps l hkl).1 hparty' hstep' with hQ | hlt
      · exact hno _ hkl' hQ
      · have hrank := Nat.lt_of_lt_of_le hlt (hkeeps l hkl).2
        obtain ⟨m, hm, hQ⟩ := ih _ hrank (l + 1) (hkeeps _ hkl').1 rfl
        exact hno m (Nat.le_trans hkl' hm) hQ

/-- Under strong fairness: as long as the goal is not reached the party can act again and again,
    and its action reaches it. -/
theorem leadsTo_of_recurring {party : A → Prop} {P Q : S → Prop} (hfair : ρ.StronglyFair party)
    (hagain : ρ.LeadsTo P fun s => Q s ∨ Enabled f party s)
    (hstep : ∀ s a s', P s → f s a = some s' → Q s' ∨ P s')
    (hparty : ∀ s a s', P s → party a → f s a = some s' → Q s') : ρ.LeadsTo P Q := by
  intro k hP
  by_contra hnever
  have hno : ∀ m, k ≤ m → ¬ Q (ρ.state m) := fun m hkm hQ => hnever ⟨m, hkm, hQ⟩
  have hkeeps : ∀ l, k ≤ l → P (ρ.state l) := by
    intro l hkl
    rcases until_goal (ρ := ρ) (fun s a s' hs ha => (hstep s a s' hs ha).symm) hkl hP with
      hl | ⟨m, hkm, -, hm⟩
    · exact hl
    · exact absurd hm (hno m hkm)
  obtain ⟨l, hkl, a, hparty', hal⟩ := hfair k fun l hkl => by
    obtain ⟨m, hlm, hm⟩ := hagain l (hkeeps l hkl)
    exact ⟨m, hlm, hm.resolve_left (hno m (Nat.le_trans hkl hlm))⟩
  rcases ρ.next l with ⟨hnone, -⟩ | ⟨a', ha', hstep'⟩
  · rw [hnone] at hal
    cases hal
  · obtain rfl := Option.some.inj (ha'.symm.trans hal)
    exact hno _ (Nat.le_succ_of_le hkl) (hparty _ a' _ (hkeeps l hkl) hparty' hstep')

/-- What comes to hold for each of finitely many, and stays, comes to hold for all of them. -/
theorem eventually_all {P : Nat → S → Prop} {n k : Nat}
    (hstable : ∀ i s a s', P i s → f s a = some s' → P i s')
    (h : ∀ i, i < n → ∃ l, k ≤ l ∧ P i (ρ.state l)) :
    ∃ l, k ≤ l ∧ ∀ i, i < n → P i (ρ.state l) := by
  induction n with
  | zero => exact ⟨k, Nat.le_refl k, fun i hi => absurd hi (Nat.not_lt_zero i)⟩
  | succ n ih =>
    obtain ⟨l, hkl, hl⟩ := ih fun i hi => h i (Nat.lt_succ_of_lt hi)
    obtain ⟨m, hkm, hm⟩ := h n (Nat.lt_succ_self n)
    refine ⟨max l m, Nat.le_trans hkl (Nat.le_max_left l m), fun i hi => ?_⟩
    rcases Nat.lt_succ_iff_lt_or_eq.mp hi with hi | rfl
    · exact stable (hstable i) (Nat.le_max_left l m) (hl i hi)
    · exact stable (hstable i) (Nat.le_max_right l m) hm

/-! ## Runs that end -/

/-- A finite run, after which nothing happens. -/
def ofRun {as : List A} {t : S} (h : Run f s₀ as t) : InfRun f s₀ where
  state k := ((as.take k).foldlM f s₀).getD s₀
  action k := as[k]?
  start := rfl
  next k := by
    cases ha : as[k]? with
    | none =>
      have hlen := List.getElem?_eq_none_iff.mp ha
      rw [List.take_of_length_le hlen, List.take_of_length_le (Nat.le_succ_of_le hlen)]
      exact Or.inl ⟨rfl, rfl⟩
    | some a =>
      obtain ⟨hk, rfl⟩ := List.getElem?_eq_some_iff.mp ha
      obtain ⟨v, hv, -⟩ := Run.append_iff.mp ((List.take_append_drop (k + 1) as).symm ▸ h)
      rw [← List.take_append_getElem hk] at hv ⊢
      obtain ⟨u, hu, hstep⟩ := Run.snoc_iff.mp hv
      refine Or.inr ⟨_, rfl, ?_⟩
      rw [show (as.take k).foldlM f s₀ = some u from hu,
        show (as.take k ++ [as[k]]).foldlM f s₀ = some v from hv]
      exact hstep

section

variable {as : List A} {t : S} (h : Run f s₀ as t)

/-- The state after the actions of a part of the run. -/
theorem state_ofRun {pre : List A} {u : S} {k : Nat} (hpre : Run f s₀ pre u)
    (hk : as.take k = pre) : (ofRun h).state k = u := by
  show ((as.take k).foldlM f s₀).getD s₀ = u
  rw [hk, show pre.foldlM f s₀ = some u from hpre, Option.getD_some]

theorem state_ofRun_of_length_le {k : Nat} (hk : as.length ≤ k) : (ofRun h).state k = t :=
  state_ofRun h h (List.take_of_length_le hk)

theorem weaklyFair_ofRun {P : A → Prop} (hend : ¬ Enabled f P t) : (ofRun h).WeaklyFair P := by
  intro k henabled
  have hlast := henabled (max k as.length) (Nat.le_max_left _ _)
  rw [state_ofRun_of_length_le h (Nat.le_max_right _ _)] at hlast
  exact absurd hlast hend

theorem stronglyFair_ofRun {P : A → Prop} (hend : ¬ Enabled f P t) :
    (ofRun h).StronglyFair P := by
  intro k hagain
  obtain ⟨m, hm, hlast⟩ := hagain (max k as.length) (Nat.le_max_left _ _)
  rw [state_ofRun_of_length_le h (Nat.le_trans (Nat.le_max_right _ _) hm)] at hlast
  exact absurd hlast hend

end

end InfRun
