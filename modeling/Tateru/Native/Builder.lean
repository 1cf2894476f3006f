import Tateru.Native.Devices

/-!
# The VM builder

A `VmBuilder` collects what a VM is made of. `BuilderCall` names the calls of its chain, so
that a chain of calls is a list; `validate` checks what must be present.
-/

namespace Tateru

/-- A vsock bridge request: host TCP port ↔ guest vsock port. -/
structure BridgeRequest where
  hostPort : UInt16
  guestPort : GuestPort
deriving DecidableEq, Repr

/-- Builder for constructing and launching a VM, with an engine of type `E`. -/
structure VmBuilder (E : Type) where
  engine : E
  vcpus : Option VcpuCount
  memory : Option MemoryMib
  disks : List DiskConfig
  virtiofsMounts : List VirtioFsMount
  vsockPorts : List VsockPort
  bridges : List BridgeRequest
  console : Option ConsoleConfig
  oemStrings : List String
  nestedVirt : Option Bool

/-- A call of the builder chain. -/
inductive BuilderCall where
  | cpus (count : UInt8)
  | vcpus (vcpus : VcpuCount)
  | memory (spec : String)
  | memoryMib (mib : MemoryMib)
  | disk (disk : DiskConfig)
  | virtiofs (mount : VirtioFsMount)
  | vsock (port : VsockPort)
  | vsockBridge (hostPort : UInt16) (guestPort : UInt32)
  | console (config : ConsoleConfig)
  | oemString (s : String)
  | nestedVirt (enabled : Bool)
deriving DecidableEq, Repr

namespace VmBuilder

variable {E : Type}

/-- Create a new builder with the given engine. -/
def new (engine : E) : VmBuilder E where
  engine := engine
  vcpus := none
  memory := none
  disks := []
  virtiofsMounts := []
  vsockPorts := []
  bridges := []
  console := none
  oemStrings := []
  nestedVirt := none

/-- Set the number of vCPUs. -/
def cpus (b : VmBuilder E) (count : UInt8) : Except TateruError (VmBuilder E) := do
  let vcpus ← VcpuCount.new count
  return { b with vcpus := some vcpus }

/-- Set the vCPU count from a pre-validated value. -/
def setVcpus (b : VmBuilder E) (vcpus : VcpuCount) : VmBuilder E :=
  { b with vcpus := some vcpus }

/-- Set memory from a human-readable string. -/
def setMemory [Str.CaseContext] (b : VmBuilder E) (spec : String) :
    Except TateruError (VmBuilder E) := do
  let memory ← MemoryMib.parse spec
  return { b with memory := some memory }

/-- Set memory from a pre-validated value. -/
def memoryMib (b : VmBuilder E) (mib : MemoryMib) : VmBuilder E :=
  { b with memory := some mib }

/-- Add a disk image. -/
def disk (b : VmBuilder E) (disk : DiskConfig) : VmBuilder E :=
  { b with disks := b.disks ++ [disk] }

/-- Add a virtiofs shared directory. -/
def virtiofs (b : VmBuilder E) (mount : VirtioFsMount) : VmBuilder E :=
  { b with virtiofsMounts := b.virtiofsMounts ++ [mount] }

/-- Add a vsock port (raw, no bridge). -/
def vsock (b : VmBuilder E) (port : VsockPort) : VmBuilder E :=
  { b with vsockPorts := b.vsockPorts ++ [port] }

/-- Add a vsock bridge: host TCP port ↔ guest vsock port. -/
def vsockBridge (b : VmBuilder E) (hostPort : UInt16) (guestPort : UInt32) :
    Except TateruError (VmBuilder E) := do
  let guestPort ← GuestPort.new guestPort
  return { b with bridges := b.bridges ++ [⟨hostPort, guestPort⟩] }

/-- Set console output path. -/
def setConsole (b : VmBuilder E) (config : ConsoleConfig) : VmBuilder E :=
  { b with console := some config }

/-- Add SMBIOS OEM strings. -/
def oemString (b : VmBuilder E) (s : String) : VmBuilder E :=
  { b with oemStrings := b.oemStrings ++ [s] }

/-- Enable or disable nested virtualization. -/
def setNestedVirt (b : VmBuilder E) (enabled : Bool) : VmBuilder E :=
  { b with nestedVirt := some enabled }

/-- Make the call that a `BuilderCall` names. -/
def apply [Str.CaseContext] (b : VmBuilder E) : BuilderCall → Except TateruError (VmBuilder E)
  | .cpus count => b.cpus count
  | .vcpus vcpus => .ok (b.setVcpus vcpus)
  | .memory spec => b.setMemory spec
  | .memoryMib mib => .ok (b.memoryMib mib)
  | .disk disk => .ok (b.disk disk)
  | .virtiofs mount => .ok (b.virtiofs mount)
  | .vsock port => .ok (b.vsock port)
  | .vsockBridge hostPort guestPort => b.vsockBridge hostPort guestPort
  | .console config => .ok (b.setConsole config)
  | .oemString s => .ok (b.oemString s)
  | .nestedVirt enabled => .ok (b.setNestedVirt enabled)

/-- A chain of calls, which stops at the first one that fails. -/
def build [Str.CaseContext] (b : VmBuilder E) (calls : List BuilderCall) :
    Except TateruError (VmBuilder E) :=
  calls.foldlM apply b

/-- Validate the builder configuration. -/
def validate (b : VmBuilder E) : Except TateruError Unit :=
  if b.vcpus.isNone then .error (.invalidConfig "vCPU count not set")
  else if b.memory.isNone then .error (.invalidConfig "memory not set")
  else if b.disks.isEmpty then .error (.invalidConfig "at least one disk is required")
  else .ok ()

/-! ## When a call succeeds -/

variable {b b' : VmBuilder E}

theorem cpus_eq_ok_iff {count : UInt8} :
    b.cpus count = .ok b' ↔ count ≠ 0 ∧ b' = { b with vcpus := some ⟨count⟩ } := by
  simp [cpus, Except.bind_eq_ok_iff, VcpuCount.new_eq_ok_iff, pure, Except.pure, @eq_comm _ b']

theorem setMemory_eq_ok_iff [Str.CaseContext] {spec : String} :
    b.setMemory spec = .ok b' ↔
      ∃ m, MemoryMib.parse spec = .ok m ∧ b' = { b with memory := some m } := by
  simp [setMemory, Except.bind_eq_ok_iff, pure, Except.pure, @eq_comm _ b']

theorem vsockBridge_eq_ok_iff {hostPort : UInt16} {guestPort : UInt32} :
    b.vsockBridge hostPort guestPort = .ok b' ↔
      guestPort ≠ 0 ∧ b' = { b with bridges := b.bridges ++ [⟨hostPort, ⟨guestPort⟩⟩] } := by
  simp [vsockBridge, Except.bind_eq_ok_iff, GuestPort.new_eq_ok_iff, pure, Except.pure,
    @eq_comm _ b']

theorem validate_ok_iff {b : VmBuilder E} :
    b.validate = .ok () ↔ b.vcpus.isSome ∧ b.memory.isSome ∧ b.disks ≠ [] := by
  unfold validate
  cases b.vcpus with
  | none => simp
  | some v =>
    cases b.memory with
    | none => simp
    | some m => cases b.disks <;> simp

/-- A validated builder has a vCPU count. -/
theorem isSome_vcpus {b : VmBuilder E} (h : b.validate = .ok ()) : b.vcpus.isSome :=
  (validate_ok_iff.mp h).1

/-- A validated builder has a memory size. -/
theorem isSome_memory {b : VmBuilder E} (h : b.validate = .ok ()) : b.memory.isSome :=
  (validate_ok_iff.mp h).2.1

/-- What a validated builder has. -/
theorem exists_of_validate_ok {b : VmBuilder E} (h : b.validate = .ok ()) :
    ∃ vcpus memory, b.vcpus = some vcpus ∧ b.memory = some memory ∧ b.disks ≠ [] := by
  obtain ⟨hvcpus, hmemory, hdisks⟩ := validate_ok_iff.mp h
  obtain ⟨vcpus, hvcpus⟩ := Option.isSome_iff_exists.mp hvcpus
  obtain ⟨memory, hmemory⟩ := Option.isSome_iff_exists.mp hmemory
  exact ⟨vcpus, memory, hvcpus, hmemory, hdisks⟩

end VmBuilder

end Tateru
