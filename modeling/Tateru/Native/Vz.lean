import Tateru.Native.Engine

/-!
# The Virtualization.framework engine

`VzEngine` keeps the configuration of every context in a map behind a lock, and hands out
context ids from an atomic counter. Taking an id from the counter and inserting the context
under it are two separate steps, between which other threads may run.
-/

namespace Tateru

/-- Mutable per-context state. -/
structure VzCtxState where
  vcpus : Option VcpuCount := none
  memory : Option MemoryMib := none
  disks : List DiskConfig := []
  virtiofs : List VirtioFsMount := []
  vsockPorts : List VsockPort := []
  console : Option ConsoleConfig := none
deriving DecidableEq, Repr

/-- VZ-backed engine. `poisoned` says that a thread panicked while it held the lock. -/
structure VzEngine where
  contexts : CtxId → Option VzCtxState
  nextId : UInt32
  poisoned : Bool

namespace VzEngine

/-- `VzEngine::new`. -/
def new : VzEngine := ⟨fun _ => none, 0, false⟩

/-- `HashMap::insert`. -/
def insert (e : VzEngine) (ctx : CtxId) (state : VzCtxState) : VzEngine :=
  { e with contexts := fun c => if c = ctx then some state else e.contexts c }

/-- Run `f` on the state of a context, under the lock. -/
def withCtx {α : Type} (ctx : CtxId) (f : VzCtxState → Except TateruError α × VzCtxState) :
    EngineM VzEngine α := fun h =>
  if h.engine.poisoned then
    .error (.invalidConfig "vz state lock poisoned") h
  else
    match h.engine.contexts ctx with
    | none => .error (.invalidConfig ("vz: unknown ctx " ++ toString ctx.raw)) h
    | some state =>
      -- `f` works on the state in the map: its changes stay if it fails
      match f state with
      | (.ok a, state') => .ok a { h with engine := h.engine.insert ctx state' }
      | (.error e, state') => .error e { h with engine := h.engine.insert ctx state' }

/-- The first step of `create_ctx`: take an id from the counter. -/
def fetchAdd : EngineM VzEngine CtxId := fun h =>
  .ok ⟨h.engine.nextId⟩ { h with engine := { h.engine with nextId := h.engine.nextId + 1 } }

/-- The second step of `create_ctx`: insert a fresh context, under the lock. -/
def insertCtx (id : CtxId) : EngineM VzEngine CtxId := fun h =>
  if h.engine.poisoned then
    .error (.invalidConfig "vz state lock poisoned") h
  else
    .ok id { h with engine := h.engine.insert id {} }

/-- The engine that collects the configuration of each context. -/
def engine : VmEngine VzEngine where
  createCtx := do insertCtx (← fetchAdd)
  setVmConfig ctx vcpus memory := withCtx ctx fun state =>
    (.ok (), { state with vcpus := some vcpus, memory := some memory })
  addDisk ctx disk _ := withCtx ctx fun state =>
    (.ok (), { state with disks := state.disks ++ [disk] })
  addVirtiofs ctx mount := withCtx ctx fun state =>
    (.ok (), { state with virtiofs := state.virtiofs ++ [mount] })
  addVsockPort ctx port := withCtx ctx fun state =>
    (.ok (), { state with vsockPorts := state.vsockPorts ++ [port] })
  setConsoleOutput ctx console := withCtx ctx fun state =>
    (.ok (), { state with console := some console })
  getShutdownEventfd _ :=
    throw (.invalidConfig "vz: shutdown eventfd not available; use VM observer (M2)")
  startEnter _ :=
    throw (.invalidConfig "vz: start_enter not implemented yet (M1 deliverable)")
  setLogLevel _ := return ()
  checkNestedVirt := return false
  setNestedVirt _ _ := return ()
  setSmbiosOemStrings _ _ := return ()

end VzEngine

/-! ## Threads -/

/-- Something that happened to the contexts, or to a call about them. -/
inductive VzEvent where
  | inserted (ctx : CtxId)
  | called (c : EngineCall) (e : Option TateruError)
deriving DecidableEq, Repr

/-- An engine shared by threads. A thread is in `pending` from its `fetch_add` to its insert.
    `returned` and `history` record the ids that `create_ctx` has returned and what happened,
    in the order of the lock. -/
structure VzThreads where
  host : Host VzEngine
  pending : Nat → Option CtxId
  returned : List CtxId
  history : List VzEvent

inductive VzAction where
  /-- the thread starts `create_ctx` -/
  | fetchAdd (thread : Nat)
  /-- the thread finishes `create_ctx` -/
  | insert (thread : Nat)
  /-- the thread makes another call -/
  | call (thread : Nat) (c : EngineCall)
deriving DecidableEq, Repr

namespace VzThreads

/-- A fresh engine, which no thread uses yet. -/
def new (fs : FileSys) : VzThreads :=
  ⟨⟨.new, fs⟩, fun _ => none, [], []⟩

def setPending (s : VzThreads) (thread : Nat) (id : Option CtxId) : VzThreads :=
  { s with pending := fun t => if t = thread then id else s.pending t }

@[simp] theorem pending_setPending (s : VzThreads) (thread t : Nat) (id : Option CtxId) :
    (s.setPending thread id).pending t = if t = thread then id else s.pending t := rfl

/-- One atomic step of a thread. -/
def step (s : VzThreads) : VzAction → Option VzThreads
  | .fetchAdd thread =>
    match s.pending thread, VzEngine.fetchAdd s.host with
    -- A thread that is between the two steps of `create_ctx` can make no other call
    | none, .ok id host => some ({ s with host }.setPending thread (some id))
    | _, _ => none
  | .insert thread =>
    match s.pending thread with
    | none => none
    | some id =>
      match VzEngine.insertCtx id s.host with
      | .ok id host =>
        some ({ s with
          host
          returned := s.returned ++ [id]
          history := s.history ++ [VzEvent.inserted id] }.setPending thread none)
      | .error _ host => some ({ s with host }.setPending thread none)
  | .call thread c =>
    -- `create_ctx` is the two actions above
    if s.pending thread = none ∧ c ≠ .createCtx then
      let result := VzEngine.engine.run c s.host
      some { s with
        host := result.state
        history := s.history ++ [VzEvent.called c result.error?] }
    else none

end VzThreads

end Tateru
