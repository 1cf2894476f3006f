import Tateru.Native.Bridge
import Tateru.Native.Builder
import Tateru.Native.Engine

/-!
# Launching a VM

`VmBuilder.launchWithSpawner` drives an engine through the configuration of a builder. The
`World` it runs in holds the engine and the file system, the file descriptors that were
taken over and closed, the shutdown channel and the bridge tasks; its `trace` records every
step that can fail or that others can see, with its outcome.
-/

namespace Tateru

/-- A step of a launch. -/
inductive LaunchStep where
  | engine (c : EngineCall)
  | createDirAll (path : PathBuf)
  | spawnBridge (config : BridgeConfig)
  | spawnThread
deriving DecidableEq, Repr

/-- What a launch reads and changes. -/
structure World (σ : Type) where
  host : Host σ
  trace : List (LaunchStep × Option TateruError)
  opened : List Int32
  closed : List Int32
  channel : Option (Watch Bool)
  bridges : List BridgeTask

/-- The world before anything was launched. -/
def World.new {σ : Type} (host : Host σ) : World σ :=
  ⟨host, [], [], [], none, []⟩

/-- What a launch is given by the operating system: the directory for temporary files, and
    the error that the spawn of the VM thread reports, if it does. -/
structure Env where
  tempDir : PathBuf
  spawnError : Option IoError

/-- How a bridge is spawned; `none` is a spawner that starts no task. -/
abbrev BridgeSpawner := BridgeConfig → Watch.Receiver → Option BridgeTask

/-- Production bridge spawner. -/
def tokioBridgeSpawner : BridgeSpawner :=
  fun config shutdown => some (BridgeTask.spawn config shutdown)

/-- Handle to trigger VM shutdown via an eventfd that it owns. -/
structure EventfdShutdown where
  fd : Int32
deriving DecidableEq, Repr

/-- The VM thread, which runs `start_enter` on a context. -/
structure VmThread where
  ctx : CtxId
deriving DecidableEq, Repr

/-- Handle to a running VM. -/
structure VmHandle where
  running : Bool
  shutdown : EventfdShutdown
  vmThread : Option VmThread
  workdir : PathBuf
deriving DecidableEq, Repr

/-- `tateru-{ctx}` -/
def CtxId.dirName (ctx : CtxId) : PathBuf :=
  .ofString ("tateru-" ++ toString ctx.raw)

/-- `vsock-{port}.sock` -/
def GuestPort.socketName (guestPort : GuestPort) : PathBuf :=
  .ofString ("vsock-" ++ toString guestPort.raw ++ ".sock")

/-- The directory for the sockets of a context. -/
def Env.workdir (env : Env) (ctx : CtxId) : PathBuf :=
  env.tempDir.join ctx.dirName

/-- The socket of a bridge to a guest port. -/
def PathBuf.bridgeSocket (workdir : PathBuf) (guestPort : GuestPort) : PathBuf :=
  workdir.join guestPort.socketName

/-- A launch in progress. -/
abbrev LaunchM (σ : Type) := EStateM TateruError (World σ)

namespace LaunchM

variable {σ : Type}

/-- Record a step with its outcome. -/
def record (w : World σ) (s : LaunchStep) (o : Option TateruError) : World σ :=
  { w with trace := w.trace ++ [(s, o)] }

/-- Call the engine. -/
def call (E : VmEngine σ) (c : EngineCall) : LaunchM σ c.Ret := fun w =>
  match E.run c w.host with
  | .ok r host => .ok r (record { w with host } (.engine c) none)
  | .error e host => .error e (record { w with host } (.engine c) (some e))

theorem call_ok {E : VmEngine σ} {c : EngineCall} {w : World σ} {r : c.Ret} {host : Host σ}
    (h : E.run c w.host = .ok r host) :
    call E c w = .ok r (record { w with host } (.engine c) none) := by
  simp only [call, h]

theorem call_error {E : VmEngine σ} {c : EngineCall} {w : World σ} {e : TateruError}
    {host : Host σ} (h : E.run c w.host = .error e host) :
    call E c w = .error e (record { w with host } (.engine c) (some e)) := by
  simp only [call, h]

/-- A call changes the host as its operation does, and is recorded with the outcome. -/
theorem call_state (E : VmEngine σ) (c : EngineCall) (w : World σ) :
    (call E c w).state = record { w with host := (E.run c w.host).state } (.engine c)
      (E.run c w.host).error? := by
  unfold call
  cases E.run c w.host with
  | ok r host => rfl
  | error e host => rfl

/-- `std::fs::create_dir_all`. -/
def createDirAll (path : PathBuf) : LaunchM σ Unit := fun w =>
  match w.host.fs.createDirAll path with
  | (.ok (), fs) =>
    .ok () (record { w with host := { w.host with fs } } (.createDirAll path) none)
  | (.error e, fs) =>
    .error (.bridgeIo e)
      (record { w with host := { w.host with fs } } (.createDirAll path) (some (.bridgeIo e)))

/-- `EventfdShutdown::from_raw_fd`: the launch now owns the descriptor. -/
def fromRawFd (fd : Int32) : LaunchM σ EventfdShutdown := fun w =>
  .ok ⟨fd⟩ { w with opened := w.opened ++ [fd] }

/-- `watch::channel(false)`. -/
def watchChannel : LaunchM σ Watch.Receiver := fun w =>
  .ok (Watch.channel false).2 { w with channel := some (Watch.channel false).1 }

/-- Spawn a bridge task with a clone of the receiver. -/
def spawnBridge (spawner : BridgeSpawner) (shutdownRx : Watch.Receiver)
    (config : BridgeConfig) : LaunchM σ Unit := fun w =>
  .ok () (record { w with bridges := w.bridges ++ (spawner config shutdownRx).toList }
    (.spawnBridge config) none)

/-- What an early return drops once the channel exists: the sender, then the descriptor. -/
def dropLocals (w : World σ) (shutdown : EventfdShutdown) : World σ :=
  { w with channel := w.channel.map Watch.dropSender, closed := w.closed ++ [shutdown.fd] }

/-- Spawn the VM thread. -/
def spawnThread (env : Env) (shutdown : EventfdShutdown) (ctx : CtxId) : LaunchM σ VmThread :=
  fun w =>
    match env.spawnError with
    | none => .ok ⟨ctx⟩ (record w .spawnThread none)
    | some e =>
      .error (.bridgeIo e)
        (dropLocals (record w .spawnThread (some (.bridgeIo e))) shutdown)

end LaunchM

namespace VmBuilder

variable {σ : Type}

open LaunchM

/-- Configure the VM and apply its devices. -/
def configure (b : VmBuilder (VmEngine σ)) (ctx : CtxId) (vcpus : VcpuCount)
    (memory : MemoryMib) : LaunchM σ Unit := do
  call b.engine (.setVmConfig ctx vcpus memory)
  b.disks.zipIdx.forM fun (disk, i) => call b.engine (.addDisk ctx disk i)
  b.virtiofsMounts.forM fun mount => call b.engine (.addVirtiofs ctx mount)
  b.vsockPorts.forM fun port => call b.engine (.addVsockPort ctx port)

/-- Register vsock ports for bridges. -/
def registerBridges (b : VmBuilder (VmEngine σ)) (ctx : CtxId) (workdir : PathBuf) :
    LaunchM σ (List BridgeConfig) :=
  b.bridges.mapM fun br => do
    let socketPath := workdir.bridgeSocket br.guestPort
    -- Libkrun unlinks a stale socket at this path
    call b.engine (.addVsockPort ctx ⟨br.guestPort, socketPath⟩)
    return ⟨br.hostPort, socketPath⟩

/-- Console, OEM strings and nested virtualization. -/
def configureOptions (b : VmBuilder (VmEngine σ)) (ctx : CtxId) : LaunchM σ Unit := do
  b.console.toList.forM fun console => call b.engine (.setConsoleOutput ctx console)
  -- One call with all strings, and none without strings
  (if b.oemStrings.isEmpty then [] else [b.oemStrings]).forM fun strings =>
    call b.engine (.setSmbiosOemStrings ctx strings)
  b.nestedVirt.toList.forM fun enabled => call b.engine (.setNestedVirt ctx enabled)

/-- Get the shutdown eventfd, spawn the bridge tasks and the VM thread. -/
def start (b : VmBuilder (VmEngine σ)) (env : Env) (spawner : BridgeSpawner) (ctx : CtxId)
    (bridgeConfigs : List BridgeConfig) : LaunchM σ VmHandle := do
  let shutdownFd ← call b.engine (.getShutdownEventfd ctx)
  let shutdown ← fromRawFd shutdownFd
  let shutdownRx ← watchChannel
  bridgeConfigs.forM (spawnBridge spawner shutdownRx)
  -- The bridge tasks are running already if this fails
  let vmThread ← spawnThread env shutdown ctx
  return ⟨true, shutdown, some vmThread, env.workdir ctx⟩

/-- The launch of a context, once it exists. -/
def launchCtx (b : VmBuilder (VmEngine σ)) (env : Env) (spawner : BridgeSpawner)
    (vcpus : VcpuCount) (memory : MemoryMib) (ctx : CtxId) : LaunchM σ VmHandle := do
  b.configure ctx vcpus memory
  -- From here on an early return leaves the directory
  createDirAll (env.workdir ctx)
  let bridgeConfigs ← b.registerBridges ctx (env.workdir ctx)
  b.configureOptions ctx
  b.start env spawner ctx bridgeConfigs

/-- The launch of a validated builder. -/
def launchValidated (b : VmBuilder (VmEngine σ)) (env : Env) (spawner : BridgeSpawner)
    (vcpus : VcpuCount) (memory : MemoryMib) : LaunchM σ VmHandle := do
  let ctx ← call b.engine .createCtx
  b.launchCtx env spawner vcpus memory ctx

/-- Launch the VM with a custom bridge spawner. -/
def launchWithSpawner (b : VmBuilder (VmEngine σ)) (env : Env) (spawner : BridgeSpawner) :
    LaunchM σ VmHandle :=
  match h : b.validate with
  | .error e => throw e
  | .ok () =>
    b.launchValidated env spawner (b.vcpus.get (isSome_vcpus h))
      (b.memory.get (isSome_memory h))

theorem launchWithSpawner_of_error {b : VmBuilder (VmEngine σ)} {e : TateruError}
    (h : b.validate = .error e) (env : Env) (spawner : BridgeSpawner) :
    b.launchWithSpawner env spawner = throw e := by
  unfold launchWithSpawner
  split
  · rename_i e' h'
    rw [h] at h'
    rw [Except.error.inj h']
  · rename_i h'
    rw [h] at h'
    exact nomatch h'

theorem launchWithSpawner_of_some {b : VmBuilder (VmEngine σ)} {vcpus : VcpuCount}
    {memory : MemoryMib} (hvcpus : b.vcpus = some vcpus) (hmemory : b.memory = some memory)
    (hdisks : b.disks ≠ []) (env : Env) (spawner : BridgeSpawner) :
    b.launchWithSpawner env spawner = b.launchValidated env spawner vcpus memory := by
  have hvalid : b.validate = .ok () :=
    validate_ok_iff.mpr ⟨by rw [hvcpus]; rfl, by rw [hmemory]; rfl, hdisks⟩
  unfold launchWithSpawner
  split
  · rename_i h'
    rw [hvalid] at h'
    exact nomatch h'
  · simp only [hvcpus, hmemory, Option.get_some]

/-- A launch is refused before it does anything, or goes on with what the builder has set. -/
theorem launchWithSpawner_cases (b : VmBuilder (VmEngine σ)) (env : Env)
    (spawner : BridgeSpawner) :
    (∃ e, b.launchWithSpawner env spawner = throw e) ∨
    (b.validate = .ok () ∧ ∃ vcpus memory, b.vcpus = some vcpus ∧ b.memory = some memory ∧
      b.launchWithSpawner env spawner = b.launchValidated env spawner vcpus memory) := by
  cases hvalid : b.validate with
  | error e => exact Or.inl ⟨e, launchWithSpawner_of_error hvalid env spawner⟩
  | ok u =>
    obtain ⟨vcpus, memory, hvcpus, hmemory, hdisks⟩ := exists_of_validate_ok hvalid
    exact Or.inr ⟨rfl, vcpus, memory, hvcpus, hmemory,
      launchWithSpawner_of_some hvcpus hmemory hdisks env spawner⟩

/-- Launch the VM using the default spawner. -/
def launch (b : VmBuilder (VmEngine σ)) (env : Env) : LaunchM σ VmHandle :=
  b.launchWithSpawner env tokioBridgeSpawner

end VmBuilder

/-- What the VM thread does to its engine. -/
def VmThread.run {σ : Type} (E : VmEngine σ) (t : VmThread) : LaunchM σ Unit :=
  LaunchM.call E (.startEnter t.ctx)

/-- Launch a VM, and let its thread enter it. -/
def VmBuilder.launchAndEnter {σ : Type} (b : VmBuilder (VmEngine σ)) (env : Env)
    (spawner : BridgeSpawner) : LaunchM σ Unit := do
  let handle ← b.launchWithSpawner env spawner
  handle.vmThread.toList.forM fun t => t.run b.engine

end Tateru
