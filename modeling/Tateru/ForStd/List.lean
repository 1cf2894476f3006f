import Mathlib.Data.List.Forall2

/-!
# List lemmas for the standard library

How `filterMap`, and the last element it keeps, grow with the list, where a list that has grown
by one element can be split, and when lists stay related element by element.
-/

namespace List

theorem filterMap_snoc {α β : Type*} (f : α → Option β) (l : List α) (a : α) :
    (l ++ [a]).filterMap f = l.filterMap f ++ (f a).toList := by
  rw [filterMap_append]
  cases h : f a <;> simp [h]

theorem filterMap_cons_toList {α β : Type*} (f : α → Option β) (a : α) (l : List α) :
    (a :: l).filterMap f = (f a).toList ++ l.filterMap f := by
  cases h : f a <;> simp [h]

/-- The last element kept is the new one if it is kept. -/
theorem getLast?_filterMap_snoc {α β : Type*} (f : α → Option β) (l : List α) (a : α) :
    ((l ++ [a]).filterMap f).getLast? = (f a).or (l.filterMap f).getLast? := by
  rw [filterMap_snoc, getLast?_append]
  cases f a <;> rfl

/-- An element of `l ++ [a]` is the last one, or one of `l`. -/
theorem snoc_eq_append_cons_iff {α : Type*} {l pre post : List α} {a b : α} :
    l ++ [a] = pre ++ b :: post ↔
      (l = pre ∧ a = b ∧ post = []) ∨ ∃ post', l = pre ++ b :: post' ∧ post = post' ++ [a] := by
  constructor
  · intro h
    rcases eq_nil_or_concat post with rfl | ⟨post, last, rfl⟩
    · obtain ⟨hl, ha⟩ := append_inj' h rfl
      exact Or.inl ⟨hl, (cons.inj ha).1, rfl⟩
    · rw [concat_eq_append, ← cons_append, ← append_assoc] at h
      obtain ⟨hl, ha⟩ := append_inj' h rfl
      exact Or.inr ⟨post, hl, by rw [concat_eq_append, ha]⟩
  · intro h
    rcases h with ⟨rfl, rfl, rfl⟩ | ⟨post, rfl, rfl⟩
    · rfl
    · simp

/-- Lists stay related when an element is replaced by one that is related to the same. -/
theorem Forall₂.set {α β : Type*} {R : α → β → Prop} {as : List α} {bs : List β} {i : Nat}
    {b b' : β} (h : Forall₂ R as bs) (hb : bs[i]? = some b) (hb' : ∀ a, R a b → R a b') :
    Forall₂ R as (bs.set i b') := by
  induction h generalizing i with
  | nil => exact .nil
  | cons hab hrest ih =>
    cases i with
    | zero =>
      obtain rfl := Option.some.inj hb
      exact .cons (hb' _ hab) hrest
    | succ i => exact .cons hab (ih hb)

/-- Lists stay related when both grow by one element. -/
theorem Forall₂.snoc {α β : Type*} {R : α → β → Prop} {as : List α} {bs : List β} {a : α} {b : β}
    (h : Forall₂ R as bs) (hab : R a b) : Forall₂ R (as ++ [a]) (bs ++ [b]) := by
  induction h with
  | nil => exact .cons hab .nil
  | cons hhead _ ih => exact .cons hhead ih

end List
