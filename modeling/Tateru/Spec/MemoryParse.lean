import Tateru.Native.Types

/-!
# The language of `MemoryMib.parse`

`MemorySpec` is the grammar of memory specifications. `MemoryMib.parse` accepts a string when
its trimmed text is in the grammar and its value fits, and reports a zero and everything
else by different errors.

## Key results

- `parseMib_of_memorySpec`: what the parser reads off a text in the grammar
- `memorySpec_of_parseMib`: the parser reads a number only off a text in the grammar
- `parse_exact`: `MemoryMib.parse` on every string
-/

namespace Tateru.Spec

open Str

/-! ## The grammar -/

/-- The unit a memory specification ends in. -/
inductive MemoryUnit where
  | none
  | mib
  | gib
deriving DecidableEq, Repr

/-- `v` of the unit, in MiB. -/
def MemoryUnit.toMib : MemoryUnit → Nat → Nat
  | .gib, v => v * 1024
  | _, v => v

/-- A numeral of value `v`, alone or followed by optional white space and a unit in any letter
    case. -/
inductive MemorySpec : List Char → MemoryUnit → Nat → Prop where
  | none {num : List Char} {v : Nat} : IsNumeral num v → MemorySpec num .none v
  | mib {num ws unit : List Char} {v : Nat} : IsNumeral num v → IsSpace ws →
      unit.map Char.toLower = ['m', 'i', 'b'] → MemorySpec (num ++ ws ++ unit) .mib v
  | gib {num ws unit : List Char} {v : Nat} : IsNumeral num v → IsSpace ws →
      unit.map Char.toLower = ['g', 'i', 'b'] → MemorySpec (num ++ ws ++ unit) .gib v

/-! ## Reading a text in the grammar -/

/-- The lower case of a numeral with white space and a unit after it. -/
private theorem lowered_suffixed {num ws unit l name : List Char} {v : Nat}
    (h : Lowered (num ++ ws ++ unit) l) (hnum : IsNumeral num v) (hws : IsSpace ws)
    (hunit : unit.map Char.toLower = name) (hname : ∀ d ∈ name, d.toNat < 0x80) :
    l = (num ++ ws) ++ name := by
  obtain ⟨l₁, l₂, rfl, h₁, h₂⟩ := Lowered.append_inv h
  have hplain : ∀ c ∈ num ++ ws, plain c = true := by
    intro c hc
    rcases List.mem_append.mp hc with hc | hc
    · exact hnum.plain c hc
    · simp [plain, hws c hc]
  -- What lowers to a letter of the unit is ASCII
  have hascii : ∀ c ∈ unit, c.toNat < 0x80 := fun c hc =>
    toNat_lt_of_toLower (hname _ (hunit ▸ List.mem_map_of_mem hc))
  rw [h₁.eq_of_plain hplain, h₂.eq_map_toLower hascii, hunit]

/-- A numeral does not end in a unit. -/
private theorem dropSuffix?_of_isNumeral {num name : List Char} {v : Nat}
    (hnum : IsNumeral num v) (hname : 'b' ∈ name) : num.dropSuffix? name = none := by
  rw [Option.eq_none_iff_forall_not_mem]
  intro p hp
  obtain ⟨s, rfl, hs⟩ := List.dropSuffix?_eq_some_iff.mp (Option.mem_def.mp hp)
  obtain rfl := eq_of_beq hs
  -- Every unit has a `b` in it, and no numeral has
  have hb := hnum.plain 'b' (List.mem_append_right p hname)
  exact absurd hb (by decide)

/-- Dropping a unit that is there. -/
private theorem dropSuffix?_append (l name : List Char) :
    (l ++ name).dropSuffix? name = some l :=
  List.dropSuffix?_eq_some_iff.mpr ⟨name, rfl, BEq.rfl⟩

/-- A different unit of the same length is not there. -/
private theorem dropSuffix?_append_ne {l name other : List Char}
    (hlen : name.length = other.length) (hne : name ≠ other) :
    (l ++ name).dropSuffix? other = none := by
  rw [Option.eq_none_iff_forall_not_mem]
  intro p hp
  obtain ⟨s, hs, hbeq⟩ := List.dropSuffix?_eq_some_iff.mp (Option.mem_def.mp hp)
  obtain rfl := eq_of_beq hbeq
  exact hne (List.append_inj_right' hs hlen)

/-- `checked_mul` on a number that fits. -/
private theorem checkedMul_ofNat {v : Nat} (hv : v < UInt32.size) :
    (UInt32.ofNat v).checkedMul 1024 =
      if v * 1024 < UInt32.size then some (UInt32.ofNat (v * 1024)) else none := by
  have htoNat : (UInt32.ofNat v).toNat = v := Nat.mod_eq_of_lt hv
  have hmul : UInt32.ofNat v * 1024 = UInt32.ofNat (v * 1024) := (UInt32.ofNat_mul v 1024).symm
  rw [UInt32.checkedMul, htoNat, hmul]
  rfl

/-- What the parser reads off a text in the grammar: its value in MiB, if that fits. -/
theorem parseMib_of_memorySpec {t l : List Char} {u : MemoryUnit} {v : Nat} (s : String)
    (h : MemorySpec t u v) (hl : Lowered t l) :
    MemoryMib.parseMib s l =
      if u.toMib v < UInt32.size then .ok (UInt32.ofNat (u.toMib v))
      else .error (.invalidMemory s) := by
  unfold MemoryMib.parseMib
  cases h with
  | none hnum =>
    rw [hl.eq_of_plain hnum.plain, dropSuffix?_of_isNumeral hnum (by simp),
      dropSuffix?_of_isNumeral hnum (by simp)]
    simp only [parseU32_of_isNumeral hnum, Option.okOr_ite]
    rfl
  | mib hnum hws hunit =>
    -- The parser looks for the other unit first
    have hgib : ∀ m : List Char, (m ++ ['m', 'i', 'b']).dropSuffix? ['g', 'i', 'b'] = none :=
      fun _ => dropSuffix?_append_ne rfl (by decide)
    rw [lowered_suffixed hl hnum hws hunit (by simp), hgib, dropSuffix?_append]
    simp only [hnum.trim_append hws, parseU32_of_isNumeral hnum, Option.okOr_ite]
    rfl
  | gib hnum hws hunit =>
    rw [lowered_suffixed hl hnum hws hunit (by simp), dropSuffix?_append]
    simp only [hnum.trim_append hws, parseU32_of_isNumeral hnum]
    -- The numeral has to fit, and then its value in MiB
    by_cases hv : v < UInt32.size
    · simp only [if_pos hv, Option.okOr_some, Except.ok_bind, checkedMul_ofNat hv,
        Option.okOr_ite]
      rfl
    · have hmib : ¬ MemoryUnit.gib.toMib v < UInt32.size := by
        simp only [MemoryUnit.toMib]
        omega
      rw [if_neg hv, if_neg hmib]
      rfl

/-! ## Only texts in the grammar are read -/

/-- A text whose lower case is white space, a numeral and white space again, followed by a
    unit, is a numeral with white space and the unit after it, if it does not start with
    white space. -/
private theorem suffixed_of_lowered {t x name : List Char} {n : UInt32}
    (ht : ∀ c rest, t = c :: rest → c.isUnicodeWhitespace = false)
    (hl : Lowered t (x ++ name)) (hname : ∀ d ∈ name, unitLetter d = true)
    (hparse : parseU32 (trim x) = some n) :
    ∃ num ws unit, t = num ++ ws ++ unit ∧ IsNumeral num n.toNat ∧ IsSpace ws ∧
      unit.map Char.toLower = name := by
  have hnum := isNumeral_of_parseU32 hparse
  obtain ⟨pre, post, hx, hpre, hpost⟩ := exists_trim x
  obtain ⟨t', unit, rfl, hunit, hl'⟩ := Lowered.suffix hl hname
  -- What precedes the unit is its own lower case
  have hplain : ∀ c ∈ x, plain c = true := by
    intro c hc
    rw [hx] at hc
    rcases List.mem_append.mp hc with hc | hc
    · rcases List.mem_append.mp hc with hc | hc
      · simp [plain, hpre c hc]
      · exact hnum.plain c hc
    · simp [plain, hpost c hc]
  obtain rfl := hl'.of_plain hplain
  -- The numeral comes first: the text does not start with white space
  obtain rfl : pre = [] := by
    cases pre with
    | nil => rfl
    | cons c rest =>
      rw [hx] at ht
      have := ht c _ rfl
      rw [hpre c List.mem_cons_self] at this
      cases this
  exact ⟨trim x, post, unit, by rw [← List.nil_append (trim x), ← hx], hnum, hpost, hunit⟩

/-- The parser reads a number only off a text in the grammar. -/
theorem memorySpec_of_parseMib {t l : List Char} {s : String} {n : UInt32}
    (ht : ∀ c rest, t = c :: rest → c.isUnicodeWhitespace = false) (hl : Lowered t l)
    (h : MemoryMib.parseMib s l = .ok n) : ∃ u v, MemorySpec t u v := by
  unfold MemoryMib.parseMib at h
  split at h
  -- The text ends in `gib`
  · rename_i g hg
    obtain ⟨name, rfl, hname⟩ := List.dropSuffix?_eq_some_iff.mp hg
    obtain rfl := eq_of_beq hname
    obtain ⟨m, hm, -⟩ := Except.bind_eq_ok_iff.mp h
    obtain ⟨num, ws, unit, rfl, hnum, hws, hunit⟩ :=
      suffixed_of_lowered ht hl (List.all_eq_true.mp (by decide)) (Option.okOr_eq_ok_iff.mp hm)
    exact ⟨.gib, _, .gib hnum hws hunit⟩
  · split at h
    -- The text ends in `mib`
    · rename_i m hm
      obtain ⟨name, rfl, hname⟩ := List.dropSuffix?_eq_some_iff.mp hm
      obtain rfl := eq_of_beq hname
      obtain ⟨num, ws, unit, rfl, hnum, hws, hunit⟩ :=
        suffixed_of_lowered ht hl (List.all_eq_true.mp (by decide)) (Option.okOr_eq_ok_iff.mp h)
      exact ⟨.mib, _, .mib hnum hws hunit⟩
    -- Neither: the text is the numeral itself
    · have hnum := isNumeral_of_parseU32 (Option.okOr_eq_ok_iff.mp h)
      obtain rfl := hl.of_plain hnum.plain
      exact ⟨.none, _, .none hnum⟩

/-! ## Every string -/

/-- What the value `v` of a specification in `u` comes to for the string `s`. -/
def memoryOutcome (s : String) (u : MemoryUnit) (v : Nat) : Except TateruError MemoryMib :=
  if v = 0 then .error (.invalidConfig "memory must be at least 1 MiB")
  else if u.toMib v < UInt32.size then .ok ⟨UInt32.ofNat (u.toMib v)⟩
  else .error (.invalidMemory s)

theorem MemoryUnit.toMib_eq_zero_iff (u : MemoryUnit) (v : Nat) : u.toMib v = 0 ↔ v = 0 := by
  cases u <;> simp [toMib]

theorem MemoryUnit.le_toMib (u : MemoryUnit) (v : Nat) : v ≤ u.toMib v := by
  cases u <;> simp only [toMib] <;> omega

variable [CaseContext]

/-- A text in the grammar has the outcome of its value. -/
theorem parse_of_memorySpec {s : String} {u : MemoryUnit} {v : Nat}
    (h : MemorySpec (trim s.toList) u v) : MemoryMib.parse s = memoryOutcome s u v := by
  unfold MemoryMib.parse memoryOutcome
  rw [parseMib_of_memorySpec s h (lowered_toLowercase _)]
  have hzero := u.toMib_eq_zero_iff v
  by_cases hfit : u.toMib v < UInt32.size
  · have hraw : UInt32.ofNat (u.toMib v) = 0 ↔ v = 0 := by
      rw [← hzero, ← UInt32.toNat_inj]
      exact Eq.congr_left (Nat.mod_eq_of_lt hfit)
    simp only [if_pos hfit, Except.ok_bind, MemoryMib.new, hraw]
  · have hv : v ≠ 0 := fun hv => hfit (by rw [hzero.mpr hv]; decide)
    simp only [if_neg hfit, Except.error_bind, if_neg hv]

/-- A text outside the grammar is an invalid specification. -/
theorem parse_of_not_memorySpec {s : String}
    (h : ¬ ∃ u v, MemorySpec (trim s.toList) u v) :
    MemoryMib.parse s = .error (.invalidMemory s) := by
  unfold MemoryMib.parse
  cases hmib : MemoryMib.parseMib s (toLowercase (trim s.toList)) with
  | ok n =>
    exact absurd (memorySpec_of_parseMib (fun c rest => not_whitespace_of_trim_eq_cons)
      (lowered_toLowercase _) hmib) h
  | error e =>
    rw [Except.error_bind, MemoryMib.eq_invalidMemory_of_parseMib hmib]

/-- **`MemoryMib.parse` accepts exactly its grammar, with exact arithmetic.** It accepts `s`
    with the value `m` when the trimmed text is a specification of a positive value that fits
    in 32 bits, in its unit and in MiB, and `m` is that value. A specification of zero is an
    invalid configuration, and every other string is an invalid specification. -/
theorem parse_exact (s : String) :
    (∀ m, MemoryMib.parse s = .ok m ↔ ∃ u v, MemorySpec (trim s.toList) u v ∧ 1 ≤ v ∧
      v ≤ 2 ^ 32 - 1 ∧ u.toMib v ≤ 2 ^ 32 - 1 ∧ m.raw.toNat = u.toMib v) ∧
    ((∃ msg, MemoryMib.parse s = .error (.invalidConfig msg)) ↔
      ∃ u, MemorySpec (trim s.toList) u 0) ∧
    (∀ e, MemoryMib.parse s = .error e → (∃ msg, e = .invalidConfig msg) ∨
      e = .invalidMemory s) := by
  by_cases hspec : ∃ u v, MemorySpec (trim s.toList) u v
  · obtain ⟨u, v, h⟩ := hspec
    have hparse := parse_of_memorySpec h
    refine ⟨?_, ?_, ?_⟩
    · intro m
      constructor
      · intro hm
        rw [hparse, memoryOutcome] at hm
        split at hm
        · exact nomatch hm
        · split at hm
          · rename_i hv hfit
            obtain rfl := Except.ok.inj hm
            have hle := u.le_toMib v
            have hsize : UInt32.size = 2 ^ 32 := rfl
            exact ⟨u, v, h, by omega, by omega, by omega, Nat.mod_eq_of_lt hfit⟩
          · exact nomatch hm
      · rintro ⟨u', v', h', hpos, -, hfit, hraw⟩
        have hsize : UInt32.size = 2 ^ 32 := rfl
        rw [parse_of_memorySpec h', memoryOutcome, if_neg (by omega), if_pos (by omega), ← hraw]
        cases m with
        | mk raw => rw [UInt32.ofNat_toNat]
    · constructor
      · rintro ⟨msg, hmsg⟩
        rw [hparse, memoryOutcome] at hmsg
        split at hmsg
        · rename_i hv
          exact ⟨u, hv ▸ h⟩
        · split at hmsg <;> exact nomatch hmsg
      · rintro ⟨u', h'⟩
        exact ⟨_, parse_of_memorySpec h'⟩
    · intro e he
      rw [hparse, memoryOutcome] at he
      split at he
      · exact Or.inl ⟨_, (Except.error.inj he).symm⟩
      · split at he
        · exact nomatch he
        · exact Or.inr (Except.error.inj he).symm
  · have hparse := parse_of_not_memorySpec hspec
    refine ⟨?_, ?_, ?_⟩
    · intro m
      constructor
      · intro hm
        rw [hparse] at hm
        exact nomatch hm
      · rintro ⟨u, v, h, -⟩
        exact absurd ⟨u, v, h⟩ hspec
    · constructor
      · rintro ⟨msg, hmsg⟩
        rw [hparse] at hmsg
        exact nomatch hmsg
      · rintro ⟨u, h⟩
        exact absurd ⟨u, 0, h⟩ hspec
    · intro e he
      rw [hparse] at he
      exact Or.inr (Except.error.inj he).symm

end Tateru.Spec
