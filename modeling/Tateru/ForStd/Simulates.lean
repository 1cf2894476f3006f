import Tateru.ForStd.Effect

/-!
# Two programs side by side

Two fallible programs run side by side, each on a state of its own. If they start in related
states, they come to the same outcome, and end in related states again: the rules show this of
two programs that are put together in the same way from parts of which it holds.

## Key results

- `EStateM.Simulates.bind`, `EStateM.Simulates.forM`: the parts of the programs in turn
-/

variable {ε σ τ α β γ : Type}

namespace EStateM

/-- The value that a computation returns, or the error that it fails with. -/
def Result.outcome : Result ε σ α → Except ε α
  | .ok a _ => .ok a
  | .error e _ => .error e

@[simp] theorem Result.outcome_ok (a : α) (s : σ) :
    (Result.ok a s : Result ε σ α).outcome = .ok a := rfl

@[simp] theorem Result.outcome_error (e : ε) (s : σ) :
    (Result.error e s : Result ε σ α).outcome = .error e := rfl

/-- From states that are related by `R`, the programs come to the same outcome, in states that
    are related by `R'`. -/
def Simulates (R R' : σ → τ → Prop) (m : EStateM ε σ α) (m' : EStateM ε τ α) : Prop :=
  ∀ s t, R s t → (m' t).outcome = (m s).outcome ∧ R' (m s).state (m' t).state

namespace Simulates

variable {R R' : σ → τ → Prop}

theorem pure (a : α) : Simulates R R (Pure.pure a : EStateM ε σ α) (Pure.pure a) :=
  fun _ _ h => ⟨rfl, h⟩

/-- Where the one program returns, the other returns the same. -/
theorem exists_ok {m : EStateM ε σ α} {m' : EStateM ε τ α} (hm : Simulates R R' m m') {s s' : σ}
    {t : τ} {a : α} (h : R s t) (hr : m s = .ok a s') : ∃ t', m' t = .ok a t' ∧ R' s' t' := by
  obtain ⟨hout, hstate⟩ := hm s t h
  rw [hr] at hout hstate
  cases hr' : m' t with
  | ok a' t' =>
    rw [hr'] at hout hstate
    obtain rfl := Except.ok.inj hout
    exact ⟨t', rfl, hstate⟩
  | error e' t' =>
    rw [hr'] at hout
    cases hout

/-- Where the one program fails, the other fails with the same error. -/
theorem exists_error {m : EStateM ε σ α} {m' : EStateM ε τ α} (hm : Simulates R R' m m')
    {s s' : σ} {t : τ} {e : ε} (h : R s t) (hr : m s = .error e s') :
    ∃ t', m' t = .error e t' ∧ R' s' t' := by
  obtain ⟨hout, hstate⟩ := hm s t h
  rw [hr] at hout hstate
  cases hr' : m' t with
  | ok a' t' =>
    rw [hr'] at hout
    cases hout
  | error e' t' =>
    rw [hr'] at hout hstate
    obtain rfl := Except.error.inj hout
    exact ⟨t', rfl, hstate⟩

/-- The continuations are only compared on what both programs return. -/
theorem bind {m : EStateM ε σ α} {m' : EStateM ε τ α} {f : α → EStateM ε σ β}
    {f' : α → EStateM ε τ β} (hm : Simulates R R' m m')
    (hf : ∀ a, Simulates R' R' (f a) (f' a)) : Simulates R R' (m >>= f) (m' >>= f') := by
  intro s t h
  cases hr : m s with
  | ok a s' =>
    obtain ⟨t', hr', hstate⟩ := hm.exists_ok h hr
    rw [bind_ok hr, bind_ok hr']
    exact hf a s' t' hstate
  -- Neither continuation is reached
  | error e s' =>
    obtain ⟨t', hr', hstate⟩ := hm.exists_error h hr
    rw [bind_error hr, bind_error hr']
    exact ⟨rfl, hstate⟩

/-- Two loops over one list, round by round. -/
theorem forM {f : γ → EStateM ε σ PUnit} {f' : γ → EStateM ε τ PUnit} (l : List γ)
    (h : ∀ x ∈ l, Simulates R R (f x) (f' x)) : Simulates R R (l.forM f) (l.forM f') := by
  induction l with
  | nil => exact pure _
  | cons x l ih =>
    have hrest := ih fun y hy => h y (List.mem_cons_of_mem x hy)
    exact bind (h x List.mem_cons_self) fun _ => hrest

end Simulates

end EStateM
