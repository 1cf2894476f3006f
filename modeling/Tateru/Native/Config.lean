import Tateru.Native.Builder

/-!
# Configuration files

`TateruConfig` is what a configuration file holds. Its numbers are plain integers;
`intoBuilder` checks them on the way into a builder.
-/

namespace Tateru

/-- A vsock bridge entry in the config file. -/
structure BridgeEntry where
  hostPort : UInt16
  guestPort : UInt32
deriving DecidableEq, Repr

/-- Top-level configuration. -/
structure TateruConfig where
  cpus : UInt8 := 6
  memory : String := "8GiB"
  disk : PathBuf
  diskFormat : DiskFormat := .qcow2
  diskReadOnly : Bool := false
  virtiofs : List VirtioFsMount := []
  vsockBridges : List BridgeEntry := []
deriving DecidableEq, Repr

/-- Convert this config into a builder. -/
def TateruConfig.intoBuilder [Str.CaseContext] {E : Type} (c : TateruConfig) (engine : E) :
    Except TateruError (VmBuilder E) := do
  let vcpus ← VcpuCount.new c.cpus
  let memory ← MemoryMib.parse c.memory
  -- Nothing below can fail but the guest port of a bridge
  let builder := (((VmBuilder.new engine).setVcpus vcpus).memoryMib memory).disk
    ⟨c.disk, c.diskFormat, c.diskReadOnly⟩
  let builder := c.virtiofs.foldl VmBuilder.virtiofs builder
  c.vsockBridges.foldlM (fun b bridge => b.vsockBridge bridge.hostPort bridge.guestPort) builder

end Tateru
