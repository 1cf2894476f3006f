import Tateru.Spec.MemoryParse

/-!
# Reading a printed memory size

A memory size is printed in GiB when it is a whole number of them, and in MiB otherwise. Either
text is in the grammar of `MemoryMib.parse`, and its value is the memory size again.

## Key results

- `memorySpec_toString`: what is printed is a specification
- `parse_toString`: `MemoryMib.parse` undoes the printing
-/

namespace Tateru.Spec

open Str

/-! ## What is printed -/

/-- The text of a memory size is a number and a unit, of that value in MiB. -/
theorem exists_toString (m : MemoryMib) :
    ∃ (n : UInt32) (u : MemoryUnit) (unit : String),
      toString m = toString n ++ unit ∧ u.toMib n.toNat = m.raw.toNat ∧
      (u = .gib ∧ unit = "GiB" ∨ u = .mib ∧ unit = "MiB") := by
  by_cases hgib : m.raw ≥ 1024 ∧ m.raw % 1024 = 0
  · refine ⟨m.raw / 1024, .gib, "GiB", if_pos hgib, ?_, Or.inl ⟨rfl, rfl⟩⟩
    -- The remainder is zero, so the quotient loses nothing
    have hmod : m.raw.toNat % 1024 = 0 := by
      rw [← UInt32.toNat_inj, UInt32.toNat_mod] at hgib
      exact hgib.2
    have hdiv : (m.raw / 1024).toNat = m.raw.toNat / 1024 := UInt32.toNat_div _ _
    rw [MemoryUnit.toMib, hdiv]
    omega
  · exact ⟨m.raw, .mib, "MiB", if_neg hgib, rfl, Or.inr ⟨rfl, rfl⟩⟩

/-- The text of a memory size is a specification of it, with nothing to trim. -/
theorem memorySpec_toString (m : MemoryMib) :
    ∃ u v, MemorySpec (trim (toString m).toList) u v ∧ u.toMib v = m.raw.toNat := by
  obtain ⟨n, u, unit, htext, hvalue, hunit⟩ := exists_toString m
  refine ⟨u, n.toNat, ?_, hvalue⟩
  have hnum := isNumeral_toString n
  rw [htext, String.toList_append]
  rcases hunit with ⟨rfl, rfl⟩ | ⟨rfl, rfl⟩
  · rw [hnum.trim_append_text (by simp) (by decide)]
    have hspec : MemorySpec ((toString n).toList ++ [] ++ "GiB".toList) .gib n.toNat :=
      .gib hnum nofun (by decide)
    rwa [List.append_nil] at hspec
  · rw [hnum.trim_append_text (by simp) (by decide)]
    have hspec : MemorySpec ((toString n).toList ++ [] ++ "MiB".toList) .mib n.toNat :=
      .mib hnum nofun (by decide)
    rwa [List.append_nil] at hspec

/-- The number of GiB that is printed for a memory size is exactly that size, and converting it
    back does not overflow. -/
theorem gib_of_toString {m : MemoryMib} {n : UInt32} (h : toString m = toString n ++ "GiB") :
    n.toNat * 1024 = m.raw.toNat ∧ n.checkedMul 1024 = some m.raw := by
  obtain ⟨n', u, unit, htext, hvalue, hunit⟩ := exists_toString m
  have hlist := congrArg String.toList (h.symm.trans htext)
  simp only [String.toList_append] at hlist
  rcases hunit with ⟨rfl, rfl⟩ | ⟨rfl, rfl⟩
  · have htoNat := repr_inj (String.toList_inj.mp (List.append_cancel_right hlist))
    obtain rfl : n = n' := UInt32.toNat_inj.mp htoNat
    have hmul : n.toNat * 1024 = m.raw.toNat := hvalue
    have htoNat : (1024 : UInt32).toNat = 1024 := rfl
    have hfit : n.toNat * (1024 : UInt32).toNat < UInt32.size := by
      rw [htoNat, hmul]
      exact m.raw.toNat_lt
    have hwrap : (n * 1024).toNat = m.raw.toNat := by
      rw [UInt32.toNat_mul, Nat.mod_eq_of_lt hfit, htoNat, hmul]
    refine ⟨hmul, ?_⟩
    rw [UInt32.checkedMul, if_pos hfit, UInt32.toNat_inj.mp hwrap]
  -- The texts would end in different units
  · have hlast := List.append_inj_right' hlist (by simp)
    exact absurd hlast (by decide)

/-! ## Reading it back -/

section

variable [CaseContext]

/-- A memory size that `MemoryMib.new` or `MemoryMib.parse` has given out. -/
def Obtained (m : MemoryMib) : Prop :=
  (∃ n, MemoryMib.new n = .ok m) ∨ ∃ s, MemoryMib.parse s = .ok m

/-- Neither gives out zero. -/
theorem Obtained.raw_ne_zero {m : MemoryMib} (h : Obtained m) : m.raw ≠ 0 := by
  rcases h with ⟨n, hnew⟩ | ⟨s, hparse⟩
  · obtain ⟨hne, rfl⟩ := MemoryMib.new_eq_ok_iff.mp hnew
    exact hne
  · exact MemoryMib.raw_ne_zero_of_parse hparse

/-- The text of a memory size that is not zero is read as this size. -/
theorem parse_toString {m : MemoryMib} (h : m.raw ≠ 0) :
    MemoryMib.parse (toString m) = .ok m := by
  obtain ⟨u, v, hspec, hvalue⟩ := memorySpec_toString m
  have hne : m.raw.toNat ≠ 0 := fun hzero => h (UInt32.toNat_inj.mp hzero)
  have hv : v ≠ 0 := by
    rwa [← hvalue, Ne, u.toMib_eq_zero_iff] at hne
  have hfit : u.toMib v < UInt32.size := hvalue ▸ m.raw.toNat_lt
  rw [parse_of_memorySpec hspec, memoryOutcome, if_neg hv, if_pos hfit, hvalue,
    UInt32.ofNat_toNat]

/-- **Printing and reading memory sizes are inverse.** A memory size that `new` or `parse` has
    given out is what `parse` reads off its text; so no two of them have the same text, and
    if the text is a number of GiB, this number is the size without a remainder, and
    converting it back does not overflow. -/
theorem printed_parses {m : MemoryMib} (h : Obtained m) :
    MemoryMib.parse (toString m) = .ok m ∧
    (∀ m', Obtained m' → toString m' = toString m → m' = m) ∧
    (∀ n : UInt32, toString m = toString n ++ "GiB" →
      n.toNat * 1024 = m.raw.toNat ∧ n.checkedMul 1024 = some m.raw) := by
  have hparse := parse_toString h.raw_ne_zero
  refine ⟨hparse, ?_, fun _ htext => gib_of_toString htext⟩
  intro m' h' htext
  have hparse' := parse_toString h'.raw_ne_zero
  rw [htext, hparse] at hparse'
  exact (Except.ok.inj hparse').symm

end

/-- The largest whole number of GiB. -/
theorem printed_parses_largest :
    letI : CaseContext := ⟨fun _ _ => false⟩
    MemoryMib.parse (toString (⟨4294966272⟩ : MemoryMib)) = .ok ⟨4294966272⟩ ∧
    ∀ n : UInt32, toString (⟨4294966272⟩ : MemoryMib) = toString n ++ "GiB" →
      n.toNat * 1024 = 4294966272 := by
  let context : CaseContext := ⟨fun _ _ => false⟩
  have h := printed_parses (m := ⟨4294966272⟩) (Or.inl ⟨4294966272, by decide⟩)
  exact ⟨h.1, fun n htext => (h.2.2 n htext).1⟩

end Tateru.Spec
