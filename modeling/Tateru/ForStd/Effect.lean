import Mathlib.Data.List.Basic

/-!
# Fallible effects and what they record

A program that performs a planned list of fallible steps, and gives up at the first one that
fails, is an `EStateM` computation over a state that records the steps taken and the outcome
of each.

## Key results

- `StopsAtFirst.append`, `StopsAtFirst.mem_plan`: a recording is made of recordings of the
  parts of its plan, and of no other step
- `EStateM.Traced.bind`, `EStateM.Traced.forM`: the plan of a program is put together from the
  plans of its parts
- `EStateM.Keeps.bind`, `EStateM.Keeps.forM`: what every part of a program keeps, the program
  keeps
- `Along.append_iff`: a recording whose outcomes are judged where its steps were taken
-/

variable {S ε : Type}

/-- `StopsAtFirst plan trace o`: the steps of `plan` were taken in order, up to the first one
    that failed; `trace` records them with their outcomes and `o` is the failure. -/
inductive StopsAtFirst : List S → List (S × Option ε) → Option ε → Prop where
  | done : StopsAtFirst [] [] none
  | fail (s : S) (plan : List S) (e : ε) : StopsAtFirst (s :: plan) [(s, some e)] (some e)
  | step (s : S) {plan : List S} {trace : List (S × Option ε)} {o : Option ε} :
      StopsAtFirst plan trace o → StopsAtFirst (s :: plan) ((s, none) :: trace) o

namespace StopsAtFirst

variable {plan plan' : List S} {trace trace' : List (S × Option ε)} {o : Option ε}

/-- A plan that succeeds is followed by the next one. -/
theorem append (h : StopsAtFirst plan trace none) (h' : StopsAtFirst plan' trace' o) :
    StopsAtFirst (plan ++ plan') (trace ++ trace') o := by
  -- Only the end of a recording can fail, so the induction is on the first one
  generalize ho : (none : Option ε) = o₁ at h
  induction h with
  | done => exact h'
  | fail s plan e => exact nomatch ho
  | step s _ ih => exact .step s (ih ho)

/-- A plan that fails hides the next one. -/
theorem append_right {e : ε} (h : StopsAtFirst plan trace (some e)) (plan' : List S) :
    StopsAtFirst (plan ++ plan') trace (some e) := by
  generalize ho : some e = o₁ at h
  induction h with
  | done => exact nomatch ho
  | fail s plan e => exact .fail s _ e
  | step s _ ih => exact .step s (ih ho)

/-- A recording without a failure is the whole plan. -/
theorem none_iff : StopsAtFirst plan trace (none : Option ε) ↔ trace = plan.map (·, none) := by
  constructor
  -- The recording: each step of the plan, without a failure
  · intro h
    generalize ho : (none : Option ε) = o₁ at h
    induction h with
    | done => rfl
    | fail s plan e => exact nomatch ho
    | step s _ ih =>
      subst ho
      rw [ih rfl, List.map_cons]
  -- The plan determines the recording
  · rintro rfl
    induction plan with
    | nil => exact .done
    | cons s plan ih => exact .step s ih

/-- Only planned steps are taken. -/
theorem mem_plan (h : StopsAtFirst plan trace o) {s : S} {o' : Option ε}
    (hs : (s, o') ∈ trace) : s ∈ plan := by
  induction h with
  | done => exact nomatch hs
  | fail s' plan e =>
    obtain rfl := (Prod.mk.inj (List.mem_singleton.mp hs)).1
    exact List.mem_cons_self
  | step s' _ ih =>
    rcases List.mem_cons.mp hs with heq | hs
    · obtain rfl := (Prod.mk.inj heq).1
      exact List.mem_cons_self
    · exact List.mem_cons_of_mem _ (ih hs)

/-- The steps that were taken are the first ones of the plan. -/
theorem isPrefix (h : StopsAtFirst plan trace o) : trace.map Prod.fst <+: plan := by
  induction h with
  | done => exact List.prefix_refl []
  | fail s plan e => exact ⟨plan, rfl⟩
  | step s _ ih =>
    rw [List.map_cons, List.cons_prefix_cons]
    exact ⟨rfl, ih⟩

/-- A recording that fails ends with the step that failed. -/
theorem exists_failed {e : ε} (h : StopsAtFirst plan trace (some e)) :
    ∃ before s after, plan = before ++ s :: after ∧
      trace = before.map (·, none) ++ [(s, some e)] := by
  generalize ho : some e = o at h
  induction h with
  | done => cases ho
  | fail s plan e' =>
    obtain rfl := Option.some.inj ho
    exact ⟨[], s, plan, rfl, rfl⟩
  | step s _ ih =>
    obtain ⟨before, s', after, rfl, rfl⟩ := ih ho
    exact ⟨s :: before, s', after, rfl, rfl⟩

/-- What was taken before a step is what is planned before it, and has not failed. -/
theorem split {pre post : List (S × Option ε)} {s : S} {o' : Option ε}
    (h : StopsAtFirst plan (pre ++ (s, o') :: post) o) :
    ∃ before after, plan = before ++ s :: after ∧ pre = before.map (·, none) := by
  generalize htrace : pre ++ (s, o') :: post = trace at h
  induction h generalizing pre with
  | done => simp at htrace
  | fail s' plan e =>
    cases pre with
    | nil =>
      obtain ⟨⟨rfl, rfl⟩, rfl⟩ := List.cons.inj htrace
      exact ⟨[], plan, rfl, rfl⟩
    | cons x pre => simp at htrace
  | step s' _ ih =>
    cases pre with
    | nil =>
      obtain ⟨⟨rfl, rfl⟩, rfl⟩ := List.cons.inj htrace
      exact ⟨[], _, rfl, rfl⟩
    | cons x pre =>
      obtain ⟨rfl, hrest⟩ := List.cons.inj htrace
      obtain ⟨before, after, rfl, rfl⟩ := ih hrest
      exact ⟨s' :: before, after, rfl, rfl⟩

end StopsAtFirst

section Along

variable {σ : Type}

/-- The state after the steps of a recording. -/
def afterSteps (next : σ → S → σ) (s : σ) (trace : List (S × Option ε)) : σ :=
  trace.foldl (fun s x => next s x.1) s

@[simp] theorem afterSteps_append (next : σ → S → σ) (s : σ) (t t' : List (S × Option ε)) :
    afterSteps next s (t ++ t') = afterSteps next (afterSteps next s t) t' :=
  List.foldl_append

/-- Each step of a recording and its outcome satisfy `P` in the state that the steps before it have
    led to. -/
def Along (next : σ → S → σ) (P : σ → S → Option ε → Prop) : σ → List (S × Option ε) → Prop
  | _, [] => True
  | s, (x, o) :: trace => P s x o ∧ Along next P (next s x) trace

namespace Along

variable {next : σ → S → σ} {P : σ → S → Option ε → Prop}

/-- The second part of a recording is judged where the first one has led to. -/
theorem append_iff {s : σ} {t t' : List (S × Option ε)} :
    Along next P s (t ++ t') ↔ Along next P s t ∧ Along next P (afterSteps next s t) t' := by
  induction t generalizing s with
  | nil => exact ⟨fun h => ⟨trivial, h⟩, And.right⟩
  | cons x t ih =>
    rw [List.cons_append, Along, Along, ih, and_assoc]
    rfl

theorem exists_of_mem {s : σ} {trace : List (S × Option ε)} (h : Along next P s trace) {x : S}
    {o : Option ε} (hmem : (x, o) ∈ trace) : ∃ s', P s' x o := by
  obtain ⟨before, after, rfl⟩ := List.append_of_mem hmem
  exact ⟨_, (append_iff.mp h).2.1⟩

end Along

end Along

namespace EStateM

variable {σ α β γ : Type}

/-- The state that a computation ends in, whether it fails or not. -/
def Result.state : Result ε σ α → σ
  | .ok _ s => s
  | .error _ s => s

@[simp] theorem Result.state_ok (a : α) (s : σ) :
    (Result.ok a s : Result ε σ α).state = s := rfl

@[simp] theorem Result.state_error (e : ε) (s : σ) :
    (Result.error e s : Result ε σ α).state = s := rfl

/-- The error that a computation fails with. -/
def Result.error? : Result ε σ α → Option ε
  | .ok _ _ => none
  | .error e _ => some e

@[simp] theorem Result.error?_ok (a : α) (s : σ) :
    (Result.ok a s : Result ε σ α).error? = none := rfl

@[simp] theorem Result.error?_error (e : ε) (s : σ) :
    (Result.error e s : Result ε σ α).error? = some e := rfl

theorem Result.exists_ok {r : Result ε σ α} (h : r.error? = none) : ∃ a, r = .ok a r.state := by
  cases r with
  | ok a s => exact ⟨a, rfl⟩
  | error e s => cases h

theorem bind_ok {m : EStateM ε σ α} {f : α → EStateM ε σ β} {s s' : σ} {a : α}
    (h : m s = .ok a s') : (m >>= f) s = f a s' := by
  change EStateM.bind m f s = f a s'
  simp only [EStateM.bind, h]

theorem bind_error {m : EStateM ε σ α} {f : α → EStateM ε σ β} {s s' : σ} {e : ε}
    (h : m s = .error e s') : (m >>= f) s = .error e s' := by
  change EStateM.bind m f s = .error e s'
  simp only [EStateM.bind, h]

/-- A chain of two steps fails when one of them does. -/
theorem bind_eq_error_iff {m : EStateM ε σ α} {f : α → EStateM ε σ β} {s s' : σ} {e : ε} :
    (m >>= f) s = .error e s' ↔
      m s = .error e s' ∨ ∃ a t, m s = .ok a t ∧ f a t = .error e s' := by
  cases hr : m s with
  | ok a t =>
    rw [bind_ok hr]
    simp
  | error e' t =>
    rw [bind_error hr]
    simp

/-- A chain of two steps succeeds when both do. -/
theorem bind_eq_ok_iff {m : EStateM ε σ α} {f : α → EStateM ε σ β} {s s' : σ} {b : β} :
    (m >>= f) s = .ok b s' ↔ ∃ a t, m s = .ok a t ∧ f a t = .ok b s' := by
  cases hr : m s with
  | ok a t =>
    rw [bind_ok hr]
    simp
  | error e t =>
    rw [bind_error hr]
    simp

/-! ## Recorded plans -/

/-- The program `m` takes the steps `plan`, recorded in `log`, and if none fails returns a
    value that satisfies `post`. -/
def Traced (log : σ → List (S × Option ε)) (m : EStateM ε σ α) (plan : List S)
    (post : α → Prop) : Prop :=
  ∀ s, match m s with
    | .ok a s' => post a ∧ log s' = log s ++ plan.map (·, none)
    | .error e s' => ∃ t, log s' = log s ++ t ∧ StopsAtFirst plan t (some e)

namespace Traced

variable {log : σ → List (S × Option ε)}

theorem pure {post : α → Prop} {a : α} (ha : post a) : Traced log (Pure.pure a) [] post :=
  fun s => ⟨ha, (List.append_nil (log s)).symm⟩

theorem bind {m : EStateM ε σ α} {f : α → EStateM ε σ β} {p q : List S}
    {post : α → Prop} {post' : β → Prop} (hm : Traced log m p post)
    (hf : ∀ a, post a → Traced log (f a) q post') :
    Traced log (m >>= f) (p ++ q) post' := by
  intro s
  have hs := hm s
  -- Where `m` fails, the steps of the continuation stay in the plan
  cases hr : m s with
  | error e s' =>
    rw [bind_error hr]
    rw [hr] at hs
    obtain ⟨t, ht, hstop⟩ := hs
    exact ⟨t, ht, hstop.append_right q⟩
  | ok a s' =>
    rw [bind_ok hr]
    rw [hr] at hs
    obtain ⟨ha, hlog⟩ := hs
    have hs' := hf a ha s'
    -- `m` has taken all its steps; the recording of the continuation is added
    cases hr' : f a s' with
    | error e s'' =>
      rw [hr'] at hs'
      obtain ⟨t, ht, hstop⟩ := hs'
      refine ⟨p.map (·, none) ++ t, ?_, ?_⟩
      · rw [ht, hlog, List.append_assoc]
      · exact (StopsAtFirst.none_iff.mpr rfl).append hstop
    | ok b s'' =>
      rw [hr'] at hs'
      obtain ⟨hb, hlog'⟩ := hs'
      refine ⟨hb, ?_⟩
      rw [hlog', hlog, List.append_assoc, List.map_append]

/-- A loop over a list takes the steps of its rounds. -/
theorem forM {f : γ → EStateM ε σ PUnit} {g : γ → S} (l : List γ)
    (h : ∀ x, Traced log (f x) [g x] fun _ => True) :
    Traced log (l.forM f) (l.map g) fun _ => True := by
  induction l with
  | nil => exact pure trivial
  | cons x l ih => exact (h x).bind fun _ _ => ih

/-- What is recorded of a run, whether it fails or not. -/
theorem stopsAtFirst {m : EStateM ε σ α} {plan : List S} {post : α → Prop}
    (hm : Traced log m plan post) (s : σ) :
    ∃ t, log (m s).state = log s ++ t ∧ StopsAtFirst plan t (m s).error? := by
  have hs := hm s
  cases hr : m s with
  | error e s' => rwa [hr] at hs
  | ok a s' =>
    rw [hr] at hs
    exact ⟨_, hs.2, StopsAtFirst.none_iff.mpr rfl⟩

end Traced

/-! ## What a program keeps -/

/-- The program `m` relates the state it starts in to the one it ends in by `R`. -/
def Keeps (R : σ → σ → Prop) (m : EStateM ε σ α) : Prop :=
  ∀ s, R s (m s).state

namespace Keeps

variable {R : σ → σ → Prop}

theorem pure (hrefl : ∀ s, R s s) (a : α) : Keeps R (Pure.pure a : EStateM ε σ α) :=
  fun s => hrefl s

theorem mono {R' : σ → σ → Prop} (h : ∀ s t, R s t → R' s t) {m : EStateM ε σ α}
    (hm : Keeps R m) : Keeps R' m :=
  fun s => h _ _ (hm s)

/-- What `m` relates, a continuation that keeps to `R'` relates as well. -/
theorem bind {R' : σ → σ → Prop} (htrans : ∀ s t u, R s t → R' t u → R s u)
    {m : EStateM ε σ α} {f : α → EStateM ε σ β} (hm : Keeps R m) (hf : ∀ a, Keeps R' (f a)) :
    Keeps R (m >>= f) := by
  intro s
  have hs := hm s
  cases hr : m s with
  | error e s' =>
    rw [bind_error hr]
    rwa [hr] at hs
  | ok a s' =>
    rw [bind_ok hr]
    rw [hr] at hs
    exact htrans _ _ _ hs (hf a s')

theorem forM (hrefl : ∀ s, R s s) (htrans : ∀ s t u, R s t → R t u → R s u)
    {f : γ → EStateM ε σ PUnit} (l : List γ) (h : ∀ x, Keeps R (f x)) :
    Keeps R (l.forM f) := by
  induction l with
  | nil => exact pure hrefl _
  | cons x l ih => exact bind htrans (h x) fun _ => ih

end Keeps

end EStateM
