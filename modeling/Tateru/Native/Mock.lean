import Tateru.Native.Engine

/-!
# The mock engine

Records the calls it receives and fails those it is told to fail.
-/

namespace Tateru

namespace Mock

/-- A recorded call. -/
inductive EngineCall where
  | createCtx
  | setVmConfig (ctx : UInt32) (vcpus : UInt8) (memoryMib : UInt32)
  | addDisk (ctx : UInt32) (index : Nat)
  | addVirtiofs (ctx : UInt32) (tag : String)
  | addVsockPort (ctx : UInt32) (guestPort : UInt32)
  | setConsoleOutput (ctx : UInt32)
  | getShutdownEventfd (ctx : UInt32)
  | startEnter (ctx : UInt32)
  | setLogLevel (level : UInt32)
  | checkNestedVirt
  | setNestedVirt (ctx : UInt32) (enabled : Bool)
  | setSmbiosOemStrings (ctx : UInt32) (count : Nat)
deriving DecidableEq, Repr

end Mock

/-- The state of the mock. `pipe` is what the operating system answers when the mock asks for
    a pipe: the descriptor of its write end, or an error. -/
structure MockEngine where
  calls : List Mock.EngineCall := []
  nextCtxId : UInt32 := 0
  failCreateCtx : Bool := false
  failStartEnter : Bool := false
  failSetVmConfig : Bool := false
  failAddDisk : Bool := false
  failGetShutdownEventfd : Bool := false
  nestedVirtSupported : Bool := true
  pipe : Except IoError Int32 := .ok 3

namespace MockEngine

/-- Record a call. -/
def record (call : Mock.EngineCall) : EngineM MockEngine Unit := fun h =>
  .ok () { h with engine := { h.engine with calls := h.engine.calls ++ [call] } }

/-- Fail the libkrun function `function` with `code` if the mock is told to. -/
def failIf (flag : MockEngine → Bool) (function : String) (code : Int32) :
    EngineM MockEngine Unit := fun h =>
  if flag h.engine then .error (.ffi function code) h else .ok () h

/-- Hand out the next context id. -/
def fetchAdd : EngineM MockEngine CtxId := fun h =>
  .ok ⟨h.engine.nextCtxId⟩
    { h with engine := { h.engine with nextCtxId := h.engine.nextCtxId + 1 } }

/-- A pipe whose write end stands in for an eventfd. -/
def openPipe : EngineM MockEngine Int32 := fun h =>
  match h.engine.pipe with
  | .ok fd => .ok fd h
  | .error e => .error (.bridgeIo e) h

/-- Whether the mock is told to support nested virtualization. -/
def nestedVirt : EngineM MockEngine Bool := fun h =>
  .ok h.engine.nestedVirtSupported h

/-- Mock engine for unit testing without libkrun. -/
def engine : VmEngine MockEngine where
  createCtx := do
    record .createCtx
    failIf failCreateCtx "krun_create_ctx" (-1)
    fetchAdd
  setVmConfig ctx vcpus memory := do
    record (.setVmConfig ctx.raw vcpus.raw memory.raw)
    failIf failSetVmConfig "krun_set_vm_config" (-22)
  addDisk ctx _ index := do
    record (.addDisk ctx.raw index)
    failIf failAddDisk "krun_add_disk2" (-22)
  addVirtiofs ctx mount := record (.addVirtiofs ctx.raw mount.mountTag)
  addVsockPort ctx port := record (.addVsockPort ctx.raw port.guestPort.raw)
  setConsoleOutput ctx _ := record (.setConsoleOutput ctx.raw)
  getShutdownEventfd ctx := do
    record (.getShutdownEventfd ctx.raw)
    failIf failGetShutdownEventfd "krun_get_shutdown_eventfd" (-1)
    openPipe
  startEnter ctx := do
    record (.startEnter ctx.raw)
    failIf failStartEnter "krun_start_enter" (-22)
  setLogLevel level := record (.setLogLevel level.raw)
  checkNestedVirt := do
    record .checkNestedVirt
    nestedVirt
  setNestedVirt ctx enabled := record (.setNestedVirt ctx.raw enabled)
  setSmbiosOemStrings ctx strings := record (.setSmbiosOemStrings ctx.raw strings.length)

end MockEngine

end Tateru
