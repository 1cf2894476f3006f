import Mathlib.Data.List.Forall2

/-!
# Fallible values

`Option::ok_or`, and how a chain or a list of fallible steps succeeds.
-/

/-- `Option::ok_or`. -/
def Option.okOr {α ε : Type} (o : Option α) (e : ε) : Except ε α :=
  match o with
  | some a => .ok a
  | none => .error e

@[simp] theorem Option.okOr_some {α ε : Type} (a : α) (e : ε) : (some a).okOr e = .ok a := rfl

@[simp] theorem Option.okOr_none {α ε : Type} (e : ε) :
    (none : Option α).okOr e = .error e := rfl

theorem Option.okOr_eq_ok_iff {α ε : Type} {o : Option α} {e : ε} {a : α} :
    o.okOr e = .ok a ↔ o = some a := by
  cases o <;> simp

theorem Option.eq_of_okOr_eq_error {α ε : Type} {o : Option α} {e e' : ε}
    (h : o.okOr e = .error e') : e' = e := by
  cases o with
  | some a => exact nomatch h
  | none => exact (Except.error.inj h).symm

theorem Option.okOr_ite {α ε : Type} (p : Prop) [Decidable p] (a : α) (e : ε) :
    (if p then some a else none).okOr e = if p then .ok a else .error e := by
  split <;> rfl

namespace Except

variable {α β ε : Type}

@[simp] theorem ok_bind (a : α) (f : α → Except ε β) : (.ok a >>= f) = f a := rfl

@[simp] theorem error_bind (e : ε) (f : α → Except ε β) : (.error e >>= f) = .error e := rfl

/-- A chain of two steps succeeds when both do. -/
theorem bind_eq_ok_iff {x : Except ε α} {f : α → Except ε β} {b : β} :
    (x >>= f) = .ok b ↔ ∃ a, x = .ok a ∧ f a = .ok b := by
  cases x <;> simp

/-- A chain of two steps fails when one of them does. -/
theorem bind_eq_error_iff {x : Except ε α} {f : α → Except ε β} {e : ε} :
    (x >>= f) = .error e ↔ x = .error e ∨ ∃ a, x = .ok a ∧ f a = .error e := by
  cases x <;> simp

/-- A list of steps succeeds when each of them does. -/
theorem mapM_eq_ok_iff {f : α → Except ε β} {as : List α} {bs : List β} :
    as.mapM f = .ok bs ↔ List.Forall₂ (fun a b => f a = .ok b) as bs := by
  induction as generalizing bs with
  | nil => simp [pure, Except.pure, eq_comm]
  | cons a as ih =>
    rw [List.mapM_cons, bind_eq_ok_iff, List.forall₂_cons_left_iff]
    constructor
    · rintro ⟨b, hb, htail⟩
      obtain ⟨bs', hbs', hpure⟩ := bind_eq_ok_iff.mp htail
      exact ⟨b, bs', hb, ih.mp hbs', (Except.ok.inj hpure).symm⟩
    · rintro ⟨b, bs', hb, hbs', rfl⟩
      exact ⟨b, hb, bind_eq_ok_iff.mpr ⟨bs', ih.mpr hbs', rfl⟩⟩

/-- A list of steps fails with the first error. -/
theorem mapM_eq_error_iff {f : α → Except ε β} {as : List α} {e : ε} :
    as.mapM f = .error e ↔ ∃ pre a post, as = pre ++ a :: post ∧
      (∀ x ∈ pre, ∃ b, f x = .ok b) ∧ f a = .error e := by
  induction as with
  | nil => simp [pure, Except.pure]
  | cons a as ih =>
    rw [List.mapM_cons, bind_eq_error_iff]
    constructor
    · rintro (hhead | ⟨b, hb, htail⟩)
      · exact ⟨[], a, as, rfl, by simp, hhead⟩
      · have hrest : as.mapM f = .error e := by
          rcases bind_eq_error_iff.mp htail with hrest | ⟨bs, -, hpure⟩
          · exact hrest
          · exact nomatch hpure
        obtain ⟨pre, x, post, rfl, hpre, hx⟩ := ih.mp hrest
        refine ⟨a :: pre, x, post, rfl, ?_, hx⟩
        rw [List.forall_mem_cons]
        exact ⟨⟨b, hb⟩, hpre⟩
    · rintro ⟨pre, x, post, hsplit, hpre, hx⟩
      cases pre with
      | nil =>
        obtain ⟨rfl, rfl⟩ := List.cons.inj hsplit
        exact Or.inl hx
      | cons y pre =>
        obtain ⟨rfl, rfl⟩ := List.cons.inj hsplit
        rw [List.forall_mem_cons] at hpre
        obtain ⟨⟨b, hb⟩, hpre⟩ := hpre
        have hrest := ih.mpr ⟨pre, x, post, rfl, hpre, hx⟩
        exact Or.inr ⟨b, hb, by rw [hrest]; rfl⟩

/-- If `x` fails, it fails with an error that satisfies `P`. -/
def ErrorsIn (P : ε → Prop) (x : Except ε α) : Prop :=
  ∀ e, x = .error e → P e

namespace ErrorsIn

variable {P : ε → Prop}

theorem ok (a : α) : ErrorsIn P (.ok a) :=
  fun _ h => nomatch h

theorem bind {x : Except ε α} {f : α → Except ε β} (hx : ErrorsIn P x)
    (hf : ∀ a, ErrorsIn P (f a)) : ErrorsIn P (x >>= f) := by
  intro e h
  rcases bind_eq_error_iff.mp h with h | ⟨a, -, h⟩
  · exact hx e h
  · exact hf a e h

theorem mapM {f : α → Except ε β} (hf : ∀ a, ErrorsIn P (f a)) (as : List α) :
    ErrorsIn P (as.mapM f) := by
  intro e h
  obtain ⟨pre, a, post, -, -, ha⟩ := mapM_eq_error_iff.mp h
  exact hf a e ha

end ErrorsIn

end Except
