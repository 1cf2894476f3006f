import Tateru.ForStd.Except
import Tateru.ForStd.Str
import Tateru.Native.Error
import Mathlib.Data.UInt

/-!
# Newtypes around the values that cross the FFI boundary

The constructors `new` reject zero. The fields carry no such guarantee: the derived
deserialization of a newtype wraps whatever integer it reads.
-/

/-- `u32::checked_mul`. -/
def UInt32.checkedMul (a b : UInt32) : Option UInt32 :=
  if a.toNat * b.toNat < UInt32.size then some (a * b) else none

namespace Tateru

/-- VM context identifier returned by `create_ctx`. -/
structure CtxId where
  raw : UInt32
deriving DecidableEq, Repr

/-- Number of virtual CPUs. -/
structure VcpuCount where
  raw : UInt8
deriving DecidableEq, Repr

/-- VM memory in mebibytes. -/
structure MemoryMib where
  raw : UInt32
deriving DecidableEq, Repr

/-- Port number on the guest side. -/
structure GuestPort where
  raw : UInt32
deriving DecidableEq, Repr

/-- Log verbosity. -/
inductive LogLevel where
  | off
  | error
  | warn
  | info
  | debug
  | trace
deriving DecidableEq, Repr

/-- Raw value for FFI. -/
def LogLevel.raw : LogLevel → UInt32
  | .off => 0
  | .error => 1
  | .warn => 2
  | .info => 3
  | .debug => 4
  | .trace => 5

namespace VcpuCount

/-- Create a validated vCPU count. -/
def new (count : UInt8) : Except TateruError VcpuCount :=
  if count = 0 then .error (.invalidConfig "vCPU count must be at least 1")
  else .ok ⟨count⟩

/-- The derived `Deserialize` of the newtype. -/
def deserialize (n : UInt8) : VcpuCount := ⟨n⟩

end VcpuCount

namespace MemoryMib

/-- Create from a raw MiB value. -/
def new (mib : UInt32) : Except TateruError MemoryMib :=
  if mib = 0 then .error (.invalidConfig "memory must be at least 1 MiB")
  else .ok ⟨mib⟩

/-- The derived `Deserialize` of the newtype. -/
def deserialize (n : UInt32) : MemoryMib := ⟨n⟩

/-- The number of mebibytes that the trimmed lower case text `lower` of `s` spells. -/
def parseMib (s : String) (lower : List Char) : Except TateruError UInt32 :=
  match lower.dropSuffix? ['g', 'i', 'b'] with
  -- A unit is looked for in this order, and white space before it is dropped
  | some g => do
    let gib ← (Str.parseU32 (Str.trim g)).okOr (.invalidMemory s)
    (gib.checkedMul 1024).okOr (.invalidMemory s)
  | none =>
    match lower.dropSuffix? ['m', 'i', 'b'] with
    | some m => (Str.parseU32 (Str.trim m)).okOr (.invalidMemory s)
    -- Without a unit the text is taken as it is
    | none => (Str.parseU32 lower).okOr (.invalidMemory s)

/-- Parse a memory string: `"8GiB"`, `"8192MiB"`, or `"8192"` for plain MiB. -/
def parse [Str.CaseContext] (s : String) : Except TateruError MemoryMib := do
  let mib ← parseMib s (Str.toLowercase (Str.trim s.toList))
  new mib

/-- `Display`: whole gibibytes are written as such. -/
instance : ToString MemoryMib where
  toString m :=
    if m.raw ≥ 1024 ∧ m.raw % 1024 = 0 then toString (m.raw / 1024) ++ "GiB"
    else toString m.raw ++ "MiB"

end MemoryMib

namespace GuestPort

/-- Create a validated guest port. -/
def new (port : UInt32) : Except TateruError GuestPort :=
  if port = 0 then .error (.invalidConfig "guest port must be > 0")
  else .ok ⟨port⟩

/-- The derived `Deserialize` of the newtype. -/
def deserialize (n : UInt32) : GuestPort := ⟨n⟩

end GuestPort

/-! ## The constructors reject exactly zero -/

theorem VcpuCount.new_eq_ok_iff {n : UInt8} {v : VcpuCount} :
    VcpuCount.new n = .ok v ↔ n ≠ 0 ∧ v = ⟨n⟩ := by
  unfold new
  split <;> simp_all [eq_comm]

theorem MemoryMib.new_eq_ok_iff {n : UInt32} {m : MemoryMib} :
    MemoryMib.new n = .ok m ↔ n ≠ 0 ∧ m = ⟨n⟩ := by
  unfold new
  split <;> simp_all [eq_comm]

theorem GuestPort.new_eq_ok_iff {n : UInt32} {p : GuestPort} :
    GuestPort.new n = .ok p ↔ n ≠ 0 ∧ p = ⟨n⟩ := by
  unfold new
  split <;> simp_all [eq_comm]

/-- A parsed memory size is not zero. -/
theorem MemoryMib.raw_ne_zero_of_parse [Str.CaseContext] {s : String} {m : MemoryMib}
    (h : parse s = .ok m) : m.raw ≠ 0 := by
  obtain ⟨mib, -, hnew⟩ := Except.bind_eq_ok_iff.mp h
  obtain ⟨hne, rfl⟩ := new_eq_ok_iff.mp hnew
  exact hne

/-- A text that spells no number is reported as the invalid specification it is. -/
theorem MemoryMib.eq_invalidMemory_of_parseMib {s : String} {lower : List Char}
    {e : TateruError} (h : parseMib s lower = .error e) : e = .invalidMemory s := by
  unfold parseMib at h
  split at h
  · rename_i g _
    -- Both failures of the GiB branch, no number and overflow, report the text
    cases hg : Str.parseU32 (Str.trim g) with
    | none =>
      rw [hg] at h
      exact (Except.error.inj h).symm
    | some gib =>
      rw [hg] at h
      exact Option.eq_of_okOr_eq_error (o := gib.checkedMul 1024) h
  · split at h <;> exact Option.eq_of_okOr_eq_error h

end Tateru
