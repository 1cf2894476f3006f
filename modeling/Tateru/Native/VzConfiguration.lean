import Tateru.ForStd.Lossy
import Tateru.Native.Ffi
import Tateru.Native.Vz

/-!
# The configuration of a Virtualization.framework machine

Builds a machine configuration from the collected state of a context.
Virtualization.framework itself is not part of this repository: `Vz` is what it makes
configurations and attachments of.
-/

namespace Tateru

/-- `Path::display`. -/
def PathBuf.display (p : PathBuf) : String :=
  .ofList (Str.lossy p.bytes)

/-- What boots the machine. -/
inductive VzBootLoader where
  | efi
deriving DecidableEq, Repr

/-- A virtio block device with its attachment. -/
structure VzBlockDevice (A : Type) where
  attachment : A
deriving DecidableEq, Repr

/-- `VZVirtualMachineConfiguration`, whose attachments are of the type `A`. -/
structure VzConfiguration (A : Type) where
  cpuCount : Nat
  memorySize : UInt64
  bootLoader : Option VzBootLoader
  storageDevices : List (VzBlockDevice A)
deriving DecidableEq, Repr

/-- Virtualization.framework: a new configuration, and the attachment of the disk image at a path,
    or the text of the error. -/
structure Vz (A : Type) where
  newConfiguration : VzConfiguration A
  attach (path : String) (readOnly : Bool) : Except String A

namespace Vz

variable {A : Type}

/-- Wrap a host-path disk image as an attachment. -/
def makeDiskAttachment (V : Vz A) (path : PathBuf) (readOnly : Bool) : Except TateruError A := do
  let pathStr ← (Ffi.toStr path).okOr
    (.invalidConfig ("vz: non-utf8 disk path: " ++ path.display))
  (V.attach pathStr readOnly).mapError fun err =>
    .invalidConfig ("vz: disk attachment failed for " ++ path.display ++ ": " ++ err)

/-- Build a complete configuration from collected per-context ops. -/
def buildConfiguration (V : Vz A) (state : VzCtxState) :
    Except TateruError (VzConfiguration A) := do
  let vcpus ← state.vcpus.okOr (.invalidConfig "vz: vcpus not set")
  let memory ← state.memory.okOr (.invalidConfig "vz: memory not set")
  if state.disks.isEmpty then
    throw (.invalidConfig "vz: at least one disk is required (boot media)")
  let cfg := V.newConfiguration
  let cfg := { cfg with cpuCount := vcpus.raw.toNat }
  let cfg := { cfg with memorySize := memory.raw.toUInt64 * 1024 * 1024 }
  let cfg := { cfg with bootLoader := some .efi }
  -- The first disk without an attachment ends the loop
  let storageDevs ← state.disks.mapM fun disk => do
    let attachment ← V.makeDiskAttachment disk.path disk.readOnly
    return VzBlockDevice.mk attachment
  return { cfg with storageDevices := storageDevs }

end Vz

end Tateru
