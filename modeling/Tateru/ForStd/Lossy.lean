import Mathlib.Data.List.Basic

/-!
# The text of bytes that may not be UTF-8

`String::from_utf8_lossy`: characters are read off the bytes from left to right, and a sequence
of bytes that is none is replaced by U+FFFD.

## Key results

- `lossy_bytes`: nothing is replaced in the bytes of a string
-/

namespace Str

/-- A byte that continues the encoding of a character. -/
def isContinuation (b : UInt8) : Bool :=
  0x80 ≤ b && b ≤ 0xBF

/-- The first two bytes of an encoding of three bytes. -/
def startsThree (b b' : UInt8) : Bool :=
  b = 0xE0 && 0xA0 ≤ b' && b' ≤ 0xBF ||
  0xE1 ≤ b && b ≤ 0xEC && isContinuation b' ||
  b = 0xED && 0x80 ≤ b' && b' ≤ 0x9F ||
  0xEE ≤ b && b ≤ 0xEF && isContinuation b'

/-- The first two bytes of an encoding of four bytes. -/
def startsFour (b b' : UInt8) : Bool :=
  b = 0xF0 && 0x90 ≤ b' && b' ≤ 0xBF ||
  0xF1 ≤ b && b ≤ 0xF3 && isContinuation b' ||
  b = 0xF4 && 0x80 ≤ b' && b' ≤ 0x8F

/-- How many bytes U+FFFD stands for, at the start of bytes that do not start with a character:
    the longest start of an encoding, but at least one. -/
def invalidLength : List UInt8 → Nat
  | b :: b' :: bs =>
    if startsThree b b' then 2
    else if startsFour b b' then
      match bs with
      | b'' :: _ => if isContinuation b'' then 3 else 2
      | [] => 2
    else 1
  | _ => 1

/-- `String::from_utf8_lossy`, of at most `n` characters. -/
def lossyUpTo : Nat → List UInt8 → List Char
  | 0, _ | _, [] => []
  | n + 1, b :: bs =>
    match ByteArray.utf8DecodeChar? ⟨(b :: bs).toArray⟩ 0 with
    | some c => c :: lossyUpTo n ((b :: bs).drop c.utf8Size)
    | none => '\uFFFD' :: lossyUpTo n ((b :: bs).drop (invalidLength (b :: bs)))

/-- `String::from_utf8_lossy`. -/
def lossy (bs : List UInt8) : List Char :=
  lossyUpTo bs.length bs

/-- The first character of the bytes of a string is read off, and the rest is left. -/
private theorem lossyUpTo_cons (n : Nat) (c : Char) (bs : List UInt8) :
    lossyUpTo (n + 1) (String.utf8EncodeChar c ++ bs) = c :: lossyUpTo n bs := by
  have hlength := String.length_utf8EncodeChar c
  have hdrop : (String.utf8EncodeChar c ++ bs).drop c.utf8Size = bs := by
    rw [← hlength, List.drop_left]
  have hdecode : ByteArray.utf8DecodeChar? ⟨(String.utf8EncodeChar c ++ bs).toArray⟩ 0 =
      some c := by
    have hbytes : (⟨(String.utf8EncodeChar c ++ bs).toArray⟩ : ByteArray) =
        (String.utf8EncodeChar c).toByteArray ++ bs.toByteArray := by
      rw [← List.toByteArray_append]
      exact ByteArray.ext (List.data_toByteArray).symm
    rw [hbytes, ByteArray.utf8DecodeChar?_utf8EncodeChar_append]
  -- The encoding of a character is not empty
  cases hall : String.utf8EncodeChar c ++ bs with
  | nil =>
    have hpos := c.utf8Size_pos
    rw [List.append_eq_nil_iff] at hall
    rw [hall.1] at hlength
    exact absurd hlength (by simp; omega)
  | cons b rest =>
    rw [hall] at hdecode hdrop
    simp only [lossyUpTo, hdecode, hdrop]

private theorem lossyUpTo_flatMap (cs : List Char) {n : Nat}
    (hn : (cs.flatMap String.utf8EncodeChar).length ≤ n) :
    lossyUpTo n (cs.flatMap String.utf8EncodeChar) = cs := by
  induction cs generalizing n with
  | nil => cases n <;> rfl
  | cons c cs ih =>
    rw [List.flatMap_cons, List.length_append, String.length_utf8EncodeChar] at hn
    have hpos := c.utf8Size_pos
    obtain ⟨n, rfl⟩ : ∃ m, n = m + 1 := ⟨n - 1, by omega⟩
    rw [List.flatMap_cons, lossyUpTo_cons, ih (by omega)]

/-- Nothing is replaced in the bytes of a string. -/
theorem lossy_bytes (s : String) : lossy s.toByteArray.data.toList = s.toList := by
  have hbytes : s.toByteArray.data.toList = s.toList.flatMap String.utf8EncodeChar := by
    rw [← String.utf8Encode_toList, List.utf8Encode, List.data_toByteArray]
  rw [lossy, hbytes]
  exact lossyUpTo_flatMap s.toList (Nat.le_refl _)

end Str
