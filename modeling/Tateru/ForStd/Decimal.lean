import Mathlib.Data.List.Basic

/-!
# ASCII texts and decimal numbers

The bytes of an ASCII string are its characters, one by one, and a decimal number is such a
string, of digits that determine it.

## Key results

- `bytes_of_ascii`, `mem_of_mem_bytes`: the bytes of an ASCII string
- `repr_inj`: decimal digits determine the number
-/

namespace Str

/-! ## ASCII texts -/

/-- The bytes of an ASCII string. -/
theorem bytes_of_ascii {s : String} (h : ∀ c ∈ s.toList, c.utf8Size = 1) :
    s.toByteArray.data.toList = s.toList.map fun c => c.val.toUInt8 := by
  have henc : ∀ l : List Char, (∀ c ∈ l, c.utf8Size = 1) →
      l.flatMap String.utf8EncodeChar = l.map fun c => c.val.toUInt8 := by
    intro l hl
    induction l with
    | nil => rfl
    | cons c l ih =>
      rw [List.flatMap_cons, List.map_cons, ih fun c' hc' => hl c' (List.mem_cons_of_mem _ hc'),
        String.utf8EncodeChar_eq_singleton (hl c List.mem_cons_self), List.singleton_append]
  rw [← henc s.toList h]
  rw [← String.utf8Encode_toList, List.utf8Encode, List.data_toByteArray]

/-- Strings are told apart by their bytes. -/
theorem bytes_inj {s s' : String}
    (h : s.toByteArray.data.toList = s'.toByteArray.data.toList) : s = s' := by
  rw [Array.toList_inj] at h
  exact String.toByteArray_inj.mp (ByteArray.ext h)

/-- An ASCII character whose byte is in an ASCII string is in the string. -/
theorem mem_of_mem_bytes {s : String} {d : Char} (h : ∀ c ∈ s.toList, c.utf8Size = 1)
    (hd : d.utf8Size = 1) (hmem : d.val.toUInt8 ∈ s.toByteArray.data.toList) :
    d ∈ s.toList := by
  rw [bytes_of_ascii h] at hmem
  obtain ⟨c, hc, hbyte⟩ := List.mem_map.mp hmem
  -- Below 128 the byte is the code point
  have hval : c.val = d.val := by
    have hle := Char.utf8Size_eq_one_iff.mp (h c hc)
    have hle' := Char.utf8Size_eq_one_iff.mp hd
    rw [UInt32.le_iff_toNat_le] at hle hle'
    have hmod := congrArg UInt8.toNat hbyte
    rw [UInt32.toNat_toUInt8, UInt32.toNat_toUInt8] at hmod
    have h127 : (127 : UInt32).toNat = 127 := rfl
    apply UInt32.toNat_inj.mp
    omega
  exact Char.ext hval ▸ hc

/-! ## Decimal numbers -/

theorem isDigit_of_mem_repr {n : Nat} {c : Char} (h : c ∈ n.repr.toList) :
    c.isDigit = true := by
  rw [Nat.toList_repr] at h
  exact Nat.isDigit_of_mem_toDigits (by decide) (by decide) h

/-- Digits are ASCII. -/
theorem utf8Size_of_isDigit {c : Char} (h : c.isDigit = true) : c.utf8Size = 1 := by
  simp only [Char.isDigit, Bool.and_eq_true, decide_eq_true_eq] at h
  rw [Char.utf8Size_eq_one_iff]
  exact UInt32.le_trans h.2 (by decide)

/-- Decimal digits determine the number. -/
theorem repr_inj {n n' : Nat} (h : n.repr = n'.repr) : n = n' := by
  have hdigits : Nat.toDigits 10 n = Nat.toDigits 10 n' := by
    rw [← Nat.toList_repr, ← Nat.toList_repr, h]
  rw [← Nat.ofDigitChars_ten_toDigits (n := n), hdigits, Nat.ofDigitChars_ten_toDigits]

end Str
