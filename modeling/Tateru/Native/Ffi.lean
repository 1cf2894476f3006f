import Tateru.Native.Engine

/-!
# The libkrun engine

The wrappers around the C functions of libkrun. What the C library does is not part of this
repository: it is a parameter `Krun`, a function from a C call to a return code that may
change the library's own state and the file system.
-/

namespace Tateru

/-- A string as C reads it: it has no NUL inside. -/
structure CString where
  bytes : List UInt8
  noNul : bytes.contains 0 = false
deriving DecidableEq, Repr

/-- `CString::new`. -/
def CString.new (bytes : List UInt8) : Option CString :=
  if h : bytes.contains 0 = false then some ⟨bytes, h⟩ else none

/-- A call of a C function of libkrun. -/
inductive KrunCall where
  | createCtx
  | setVmConfig (ctxId : UInt32) (numVcpus : UInt8) (ramMib : UInt32)
  | addDisk2 (ctxId : UInt32) (blockId diskPath : CString) (diskFormat : UInt32)
      (readOnly : Bool)
  | addVirtiofs (ctxId : UInt32) (tag path : CString)
  | addVsockPort2 (ctxId port : UInt32) (filepath : CString) (listen : Bool)
  | setConsoleOutput (ctxId : UInt32) (filepath : CString)
  | startEnter (ctxId : UInt32)
  | getShutdownEventfd (ctxId : UInt32)
  | setLogLevel (level : UInt32)
  | setSmbiosOemStrings (ctxId : UInt32) (oemStrings : List CString)
  | setNestedVirt (ctxId : UInt32) (enabled : Bool)
  | checkNestedVirt
deriving DecidableEq, Repr

/-- `CString::as_ptr`, as the memory at the pointer: the bytes, and the NUL after them. -/
def CString.asPtr (s : CString) : List UInt8 :=
  s.bytes ++ [0]

/-- An argument that is passed to a C function. -/
inductive CArg where
  | u8 (v : UInt8)
  | u32 (v : UInt32)
  | bool (v : Bool)
  | str (ptr : List UInt8)
  /-- an array of pointers, where `none` is the NULL pointer -/
  | strs (ptrs : List (Option (List UInt8)))
deriving DecidableEq, Repr

namespace KrunCall

/-- The name of the C function. -/
def function : KrunCall → String
  | .createCtx => "krun_create_ctx"
  | .setVmConfig .. => "krun_set_vm_config"
  | .addDisk2 .. => "krun_add_disk2"
  | .addVirtiofs .. => "krun_add_virtiofs"
  | .addVsockPort2 .. => "krun_add_vsock_port2"
  | .setConsoleOutput .. => "krun_set_console_output"
  | .startEnter .. => "krun_start_enter"
  | .getShutdownEventfd .. => "krun_get_shutdown_eventfd"
  | .setLogLevel .. => "krun_set_log_level"
  | .setSmbiosOemStrings .. => "krun_set_smbios_oem_strings"
  | .setNestedVirt .. => "krun_set_nested_virt"
  | .checkNestedVirt => "krun_check_nested_virt"

/-- What is passed to the C function, in the order of its declaration. -/
def args : KrunCall → List CArg
  | .createCtx => []
  | .setVmConfig ctxId numVcpus ramMib => [.u32 ctxId, .u8 numVcpus, .u32 ramMib]
  | .addDisk2 ctxId blockId diskPath diskFormat readOnly =>
    [.u32 ctxId, .str blockId.asPtr, .str diskPath.asPtr, .u32 diskFormat, .bool readOnly]
  | .addVirtiofs ctxId tag path => [.u32 ctxId, .str tag.asPtr, .str path.asPtr]
  | .addVsockPort2 ctxId port filepath listen =>
    [.u32 ctxId, .u32 port, .str filepath.asPtr, .bool listen]
  | .setConsoleOutput ctxId filepath => [.u32 ctxId, .str filepath.asPtr]
  | .startEnter ctxId => [.u32 ctxId]
  | .getShutdownEventfd ctxId => [.u32 ctxId]
  | .setLogLevel level => [.u32 level]
  | .setSmbiosOemStrings ctxId oemStrings =>
    -- The array ends with a NULL pointer
    [.u32 ctxId, .strs (oemStrings.map (fun s => some s.asPtr) ++ [none])]
  | .setNestedVirt ctxId enabled => [.u32 ctxId, .bool enabled]
  | .checkNestedVirt => []

end KrunCall

/-- The C library: its answer to each call. -/
def Krun (κ : Type) : Type :=
  KrunCall → Host κ → Int32 × Host κ

/-- The state behind the libkrun engine: the state of the C library, and the calls made. -/
structure Libkrun (κ : Type) where
  lib : κ
  calls : List KrunCall := []

namespace Ffi

variable {κ : Type}

/-- Call a C function. -/
def krun (K : Krun κ) (c : KrunCall) : EngineM (Libkrun κ) Int32 := fun h =>
  let (ret, h') := K c ⟨h.engine.lib, h.fs⟩
  .ok ret ⟨⟨h'.engine, h.engine.calls ++ [c]⟩, h'.fs⟩

/-- `Path::to_str`. -/
def toStr (path : PathBuf) : Option String :=
  String.fromUTF8? ⟨path.bytes.toArray⟩

def pathToCstring (path : PathBuf) : Except TateruError CString := do
  let s ← (toStr path).okOr (.invalidPath path)
  (CString.new s.toByteArray.data.toList).okOr (.invalidPath path)

def strToCstring (s : String) : Except TateruError CString :=
  (CString.new s.toByteArray.data.toList).okOr
    (.invalidConfig ("string contains NUL: " ++ s))

/-- A negative return code is an error of the function. -/
def check (function : String) (ret : Int32) : Except TateruError Unit :=
  if ret < 0 then .error (.ffi function ret) else .ok ()

/-- Return codes that stand for a value when they are not negative. -/
def checkValue (function : String) (ret : Int32) : Except TateruError Int32 :=
  if ret < 0 then .error (.ffi function ret) else .ok ret

/-- Create a new VM context. Returns the context ID. -/
def createCtx (K : Krun κ) : EngineM (Libkrun κ) UInt32 := do
  let ret ← krun K .createCtx
  let ret ← ofExcept (checkValue "krun_create_ctx" ret)
  return ret.toUInt32

/-- Configure vCPUs and memory. -/
def setVmConfig (K : Krun κ) (ctxId : UInt32) (vcpus : UInt8) (ramMib : UInt32) :
    EngineM (Libkrun κ) Unit := do
  let ret ← krun K (.setVmConfig ctxId vcpus ramMib)
  ofExcept (check "krun_set_vm_config" ret)

/-- Add a disk image to the VM. -/
def addDisk (K : Krun κ) (ctxId : UInt32) (blockId : String) (diskPath : PathBuf)
    (format : UInt32) (readOnly : Bool) : EngineM (Libkrun κ) Unit := do
  let cBlockId ← ofExcept (strToCstring blockId)
  let cPath ← ofExcept (pathToCstring diskPath)
  let ret ← krun K (.addDisk2 ctxId cBlockId cPath format readOnly)
  ofExcept (check "krun_add_disk2" ret)

/-- Add a virtiofs shared directory. -/
def addVirtiofs (K : Krun κ) (ctxId : UInt32) (tag : String) (path : PathBuf) :
    EngineM (Libkrun κ) Unit := do
  let cTag ← ofExcept (strToCstring tag)
  let cPath ← ofExcept (pathToCstring path)
  let ret ← krun K (.addVirtiofs ctxId cTag cPath)
  ofExcept (check "krun_add_virtiofs" ret)

/-- Unlink a socket that a prior run may have left. A missing file is no error. -/
def unlinkStale (socketPath : PathBuf) : EngineM (Libkrun κ) Unit := fun h =>
  match h.fs.removeFile socketPath with
  | (.ok (), fs) => .ok () { h with fs }
  | (.error e, fs) =>
    -- `NotFound` is passed over, every other kind is reported
    if e.kind = .notFound then .ok () { h with fs } else .error (.bridgeIo e) { h with fs }

/-- Register a vsock port backed by a Unix socket. -/
def addVsockPort (K : Krun κ) (ctxId port : UInt32) (socketPath : PathBuf) :
    EngineM (Libkrun κ) Unit := do
  -- The file goes before the path is checked to be a C string
  unlinkStale socketPath
  let cPath ← ofExcept (pathToCstring socketPath)
  let ret ← krun K (.addVsockPort2 ctxId port cPath true)
  ofExcept (check "krun_add_vsock_port2" ret)

/-- Redirect console output to a file. -/
def setConsoleOutput (K : Krun κ) (ctxId : UInt32) (path : PathBuf) :
    EngineM (Libkrun κ) Unit := do
  let cPath ← ofExcept (pathToCstring path)
  let ret ← krun K (.setConsoleOutput ctxId cPath)
  ofExcept (check "krun_set_console_output" ret)

/-- Start the VM. It only returns on error, whatever the code. -/
def startEnter (K : Krun κ) (ctxId : UInt32) : EngineM (Libkrun κ) Unit := do
  let ret ← krun K (.startEnter ctxId)
  -- A return is an error, also with a code that is not negative
  throw (.ffi "krun_start_enter" ret)

/-- Get the shutdown eventfd. -/
def getShutdownEventfd (K : Krun κ) (ctxId : UInt32) : EngineM (Libkrun κ) Int32 := do
  let ret ← krun K (.getShutdownEventfd ctxId)
  ofExcept (checkValue "krun_get_shutdown_eventfd" ret)

/-- Set libkrun log level. -/
def setLogLevel (K : Krun κ) (level : UInt32) : EngineM (Libkrun κ) Unit := do
  let ret ← krun K (.setLogLevel level)
  ofExcept (check "krun_set_log_level" ret)

/-- Set SMBIOS OEM strings. -/
def setSmbiosOemStrings (K : Krun κ) (ctxId : UInt32) (strings : List String) :
    EngineM (Libkrun κ) Unit := do
  let cStrings ← ofExcept (strings.mapM strToCstring)
  let ret ← krun K (.setSmbiosOemStrings ctxId cStrings)
  ofExcept (check "krun_set_smbios_oem_strings" ret)

/-- Enable or disable nested virtualization. -/
def setNestedVirt (K : Krun κ) (ctxId : UInt32) (enabled : Bool) :
    EngineM (Libkrun κ) Unit := do
  let ret ← krun K (.setNestedVirt ctxId enabled)
  ofExcept (check "krun_set_nested_virt" ret)

/-- Check if nested virtualization is supported. -/
def checkNestedVirt (K : Krun κ) : EngineM (Libkrun κ) Bool := do
  let ret ← krun K .checkNestedVirt
  let ret ← ofExcept (checkValue "krun_check_nested_virt" ret)
  -- 1 is the only code that says yes
  return ret == 1

end Ffi

/-- Production engine that calls through to the C library. -/
def LibkrunEngine.engine {κ : Type} (K : Krun κ) : VmEngine (Libkrun κ) where
  createCtx := do return ⟨← Ffi.createCtx K⟩
  setVmConfig ctx vcpus memory := Ffi.setVmConfig K ctx.raw vcpus.raw memory.raw
  addDisk ctx disk index :=
    Ffi.addDisk K ctx.raw ("disk" ++ toString index) disk.path disk.format.toFfi disk.readOnly
  addVirtiofs ctx mount := Ffi.addVirtiofs K ctx.raw mount.mountTag mount.hostPath
  addVsockPort ctx port := Ffi.addVsockPort K ctx.raw port.guestPort.raw port.hostSocket
  setConsoleOutput ctx console := Ffi.setConsoleOutput K ctx.raw console.logPath
  getShutdownEventfd ctx := Ffi.getShutdownEventfd K ctx.raw
  startEnter ctx := Ffi.startEnter K ctx.raw
  setLogLevel level := Ffi.setLogLevel K level.raw
  checkNestedVirt := Ffi.checkNestedVirt K
  setNestedVirt ctx enabled := Ffi.setNestedVirt K ctx.raw enabled
  setSmbiosOemStrings ctx strings := Ffi.setSmbiosOemStrings K ctx.raw strings

end Tateru
