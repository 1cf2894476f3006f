import Tateru.Native.Types

/-!
# Device configuration

Plain records; an engine translates them into calls of its own.
-/

namespace Tateru

/-- Disk image format. -/
inductive DiskFormat where
  | raw
  | qcow2
deriving DecidableEq, Repr

/-- The libkrun constant for a format. -/
def DiskFormat.toFfi : DiskFormat → UInt32
  | .raw => 0
  | .qcow2 => 1

/-- A disk image attached to the VM. -/
structure DiskConfig where
  path : PathBuf
  format : DiskFormat
  readOnly : Bool
deriving DecidableEq, Repr

/-- A host directory shared with the guest via virtiofs. -/
structure VirtioFsMount where
  hostPath : PathBuf
  mountTag : String
deriving DecidableEq, Repr

/-- A vsock port mapping backed by a Unix socket on the host. -/
structure VsockPort where
  guestPort : GuestPort
  hostSocket : PathBuf
deriving DecidableEq, Repr

/-- Console output redirection. -/
structure ConsoleConfig where
  logPath : PathBuf
deriving DecidableEq, Repr

end Tateru
