import Mathlib.Data.List.Basic

/-!
# What C reads at a pointer

A pointer is the memory from its address on. C reads a string up to the first NUL, and an array
of pointers up to the first NULL; either runs off the end of the memory if there is none.

## Key results

- `read_append`: a string without NUL is read back, whatever follows its NUL
- `readArray_append`: so is an array of such strings, whatever follows its NULL
-/

namespace CStr

/-- Read a string. -/
def read : List UInt8 → Option (List UInt8)
  | [] => none
  | b :: mem => if b = 0 then some [] else (read mem).map (b :: ·)

/-- Read an array of strings, where `none` is the NULL pointer. -/
def readArray : List (Option (List UInt8)) → Option (List (List UInt8))
  | [] => none
  | none :: _ => some []
  | some ptr :: ptrs => do
    let s ← read ptr
    let ss ← readArray ptrs
    return s :: ss

theorem read_append {s : List UInt8} (hs : 0 ∉ s) (mem : List UInt8) :
    read (s ++ 0 :: mem) = some s := by
  induction s with
  | nil => rfl
  | cons b s ih =>
    rw [List.mem_cons, not_or] at hs
    rw [List.cons_append, read, if_neg (Ne.symm hs.1), ih hs.2, Option.map_some]

theorem readArray_append {ss : List (List UInt8)} (hs : ∀ s ∈ ss, 0 ∉ s)
    (mem : List (Option (List UInt8))) :
    readArray (ss.map (fun s => some (s ++ [0])) ++ none :: mem) = some ss := by
  induction ss with
  | nil => rfl
  | cons s ss ih =>
    rw [List.forall_mem_cons] at hs
    rw [List.map_cons, List.cons_append, readArray, read_append hs.1, ih hs.2]
    rfl

end CStr
