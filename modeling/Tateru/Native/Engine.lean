import Tateru.ForStd.Effect
import Tateru.Native.Devices
import Tateru.Native.FileSys

/-!
# The engine interface

`VmEngine σ` is the trait of all operations of a VM engine whose state is `σ`. An operation
also sees the file system of the host, since an engine may unlink a stale socket.

`EngineCall` names an operation together with its arguments, so that a sequence of calls is
a list; `VmEngine.run` performs the call it names.
-/

namespace Tateru

/-- What an engine operation can read and change. -/
structure Host (σ : Type) where
  engine : σ
  fs : FileSys

/-- An engine operation. -/
abbrev EngineM (σ : Type) := EStateM TateruError (Host σ)

/-- Abstraction over VM engine operations. -/
structure VmEngine (σ : Type) where
  createCtx : EngineM σ CtxId
  setVmConfig (ctx : CtxId) (vcpus : VcpuCount) (memory : MemoryMib) : EngineM σ Unit
  addDisk (ctx : CtxId) (disk : DiskConfig) (index : Nat) : EngineM σ Unit
  addVirtiofs (ctx : CtxId) (mount : VirtioFsMount) : EngineM σ Unit
  addVsockPort (ctx : CtxId) (port : VsockPort) : EngineM σ Unit
  setConsoleOutput (ctx : CtxId) (console : ConsoleConfig) : EngineM σ Unit
  getShutdownEventfd (ctx : CtxId) : EngineM σ Int32
  startEnter (ctx : CtxId) : EngineM σ Unit
  setLogLevel (level : LogLevel) : EngineM σ Unit
  checkNestedVirt : EngineM σ Bool
  setNestedVirt (ctx : CtxId) (enabled : Bool) : EngineM σ Unit
  setSmbiosOemStrings (ctx : CtxId) (strings : List String) : EngineM σ Unit

/-- A call of an engine operation. -/
inductive EngineCall where
  | createCtx
  | setVmConfig (ctx : CtxId) (vcpus : VcpuCount) (memory : MemoryMib)
  | addDisk (ctx : CtxId) (disk : DiskConfig) (index : Nat)
  | addVirtiofs (ctx : CtxId) (mount : VirtioFsMount)
  | addVsockPort (ctx : CtxId) (port : VsockPort)
  | setConsoleOutput (ctx : CtxId) (console : ConsoleConfig)
  | getShutdownEventfd (ctx : CtxId)
  | startEnter (ctx : CtxId)
  | setLogLevel (level : LogLevel)
  | checkNestedVirt
  | setNestedVirt (ctx : CtxId) (enabled : Bool)
  | setSmbiosOemStrings (ctx : CtxId) (strings : List String)
deriving DecidableEq, Repr

/-- The type of the value that a call returns. -/
@[reducible] def EngineCall.Ret : EngineCall → Type
  | .createCtx => CtxId
  | .getShutdownEventfd _ => Int32
  | .checkNestedVirt => Bool
  | _ => Unit

/-- Perform the operation that a call names. -/
def VmEngine.run {σ : Type} (E : VmEngine σ) : (c : EngineCall) → EngineM σ c.Ret
  | .createCtx => E.createCtx
  | .setVmConfig ctx vcpus memory => E.setVmConfig ctx vcpus memory
  | .addDisk ctx disk index => E.addDisk ctx disk index
  | .addVirtiofs ctx mount => E.addVirtiofs ctx mount
  | .addVsockPort ctx port => E.addVsockPort ctx port
  | .setConsoleOutput ctx console => E.setConsoleOutput ctx console
  | .getShutdownEventfd ctx => E.getShutdownEventfd ctx
  | .startEnter ctx => E.startEnter ctx
  | .setLogLevel level => E.setLogLevel level
  | .checkNestedVirt => E.checkNestedVirt
  | .setNestedVirt ctx enabled => E.setNestedVirt ctx enabled
  | .setSmbiosOemStrings ctx strings => E.setSmbiosOemStrings ctx strings

end Tateru
