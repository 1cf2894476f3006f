import Tateru.Native.Bridge

/-!
# A VM and its handle

Everything that runs once the engine is configured: the owner, who finishes the launch and
then calls `stop` or drops the handle, the VM thread, the bridge tasks and their connections.
Each action is one atomic step of one of them, so a run is an interleaving; `log` records
what the owner has done and what its calls have returned.
-/

namespace Tateru

/-- How the VM thread comes out of `start_enter`. -/
inductive ThreadExit where
  | returned
  | failed
  | panicked
deriving DecidableEq, Repr

/-- Where the VM thread stands: not spawned, in `start_enter`, back from it, past the store of
    `running`, or at its end. -/
inductive ThreadPhase where
  | absent
  | entered
  | left (how : ThreadExit)
  | stored (how : ThreadExit)
  | terminated (how : ThreadExit)
deriving DecidableEq, Repr

/-- What `stop` has still to do: trigger the shutdown, signal the bridges, take the join
    handle, join the VM thread, remove the working directory, store `running`. -/
inductive StopPc where
  | trigger
  | signal
  | take
  | join
  | cleanup
  | store
deriving DecidableEq, Repr

/-- What `drop` has still to do: trigger the shutdown, signal the bridges, remove the working
    directory, drop the fields of the handle. -/
inductive DropPc where
  | trigger
  | signal
  | cleanup
  | fields
deriving DecidableEq, Repr

/-- Where the owner stands: launching, with bridges left to spawn; after a launch that failed;
    between two calls on the handle; in `stop`; in `drop`; or without the handle. -/
inductive Owner where
  | launching (todo : List BridgeConfig)
  | failed
  | idle
  | stopping (pc : StopPc)
  | dropping (pc : DropPc)
  | dropped
deriving DecidableEq, Repr

/-- What a call of `stop` returns. -/
inductive StopResult where
  | ok
  | notRunning
  | bridgeIo
  | vmThreadPanicked
deriving DecidableEq, Repr

/-- What the owner does, and what it sees. -/
inductive VmEvent where
  | isRunning (answer : Bool)
  | triggered (ok : Bool)
  | sent
  | joined
  | removedWorkdir
  | stopped (result : StopResult)
deriving DecidableEq, Repr

/-- A VM with everything that belongs to it. `hasThread` says that the handle still has the
    join handle of the VM thread. -/
structure VmSystem where
  owner : Owner
  running : Bool
  hasThread : Bool
  thread : ThreadPhase
  chan : Watch Bool
  bridges : List BridgeTask
  conns : List Connection
  log : List VmEvent
deriving DecidableEq, Repr

inductive VmAction where
  /-- the launch spawns the next bridge -/
  | spawnBridge
  /-- the launch spawns the VM thread, and returns -/
  | spawnThread (ok : Bool)
  /-- the VM thread leaves `start_enter` -/
  | leave (how : ThreadExit)
  /-- the VM thread stores `running = false` -/
  | storeStopped
  /-- the VM thread ends -/
  | terminate
  /-- the owner calls `is_running` -/
  | isRunning
  /-- the owner calls `stop`, which reads `running` -/
  | stop
  /-- `stop` or `drop` triggers the shutdown -/
  | trigger (ok : Bool)
  /-- `stop` or `drop` sends `true` -/
  | signal
  /-- `stop` takes the join handle -/
  | take
  /-- `stop` joins the VM thread -/
  | join
  /-- `stop` or `drop` removes the working directory -/
  | cleanup
  /-- `stop` stores `running = false`, and returns -/
  | finish
  /-- the owner drops the handle, and `drop` reads `running` -/
  | drop
  /-- the fields of the handle are dropped -/
  | dropFields
  /-- a step of a bridge task -/
  | bridge (i : Nat) (a : BridgeAction)
  /-- a bridge task spawns a connection, whose peers will send `a` and `b` -/
  | spawnConn (i : Nat) (a b : List UInt8)
  /-- a step of a connection -/
  | conn (i : Nat) (a : ConnAction)
deriving DecidableEq, Repr

namespace VmSystem

/-- A launch that has its shutdown eventfd and its channel. -/
def launch (configs : List BridgeConfig) : VmSystem where
  owner := .launching configs
  running := true
  hasThread := false
  thread := .absent
  chan := (Watch.channel false).1
  bridges := []
  conns := []
  log := []

/-- The number of receivers of the channel. -/
def receivers (s : VmSystem) : Nat :=
  s.bridges.countP BridgeTask.live + s.conns.countP Connection.live

/-- Record an event. -/
def record (s : VmSystem) (ev : VmEvent) : VmSystem :=
  { s with log := s.log ++ [ev] }

/-- Return from `stop`. -/
def returnStop (s : VmSystem) (result : StopResult) : VmSystem :=
  { s with owner := .idle, log := s.log ++ [.stopped result] }

/-- `shutdown_tx.send(true)`, and go on. -/
def send (s : VmSystem) (next : Owner) : VmSystem :=
  { s with owner := next, chan := s.chan.send s.receivers true, log := s.log ++ [.sent] }

/-- One step of a VM. -/
def step (s : VmSystem) : VmAction → Option VmSystem
  | .spawnBridge =>
    match s.owner with
    | .launching (config :: todo) =>
      some { s with
        owner := .launching todo
        bridges := s.bridges ++ [BridgeTask.spawn config (Watch.channel false).2] }
    | _ => none
  | .spawnThread ok =>
    match s.owner with
    | .launching [] =>
      -- The early return drops the sender, which has sent nothing
      if ok then some { s with owner := .idle, hasThread := true, thread := .entered }
      else some { s with owner := .failed, chan := s.chan.dropSender }
    | _ => none
  | .leave how =>
    match s.thread with
    | .entered =>
      -- A panic unwinds past the store of `running`
      some { s with thread := if how = .panicked then .terminated how else .left how }
    | _ => none
  | .storeStopped =>
    match s.thread with
    | .left how => some { s with running := false, thread := .stored how }
    | _ => none
  | .terminate =>
    match s.thread with
    | .stored how => some { s with thread := .terminated how }
    | _ => none
  | .isRunning =>
    match s.owner with
    | .idle => some (s.record (.isRunning s.running))
    | _ => none
  | .stop =>
    match s.owner with
    | .idle =>
      if s.running then some { s with owner := .stopping .trigger }
      else some (s.returnStop .notRunning)
    | _ => none
  | .trigger ok =>
    match s.owner with
    | .stopping .trigger =>
      if ok then some { s.record (.triggered ok) with owner := .stopping .signal }
      -- `?` returns before the bridges are signalled
      else some ((s.record (.triggered ok)).returnStop .bridgeIo)
    -- `drop` ignores the outcome
    | .dropping .trigger => some { s.record (.triggered ok) with owner := .dropping .signal }
    | _ => none
  | .signal =>
    match s.owner with
    | .stopping .signal => some (s.send (.stopping .take))
    | .dropping .signal => some (s.send (.dropping .cleanup))
    | _ => none
  | .take =>
    match s.owner with
    | .stopping .take =>
      -- The join handle is gone from here on, also while `join` blocks
      if s.hasThread then some { s with owner := .stopping .join, hasThread := false }
      else some { s with owner := .stopping .cleanup }
    | _ => none
  | .join =>
    match s.owner, s.thread with
    | .stopping .join, .terminated how =>
      -- The working directory stays, and so does `running`
      if how = .panicked then some ((s.record .joined).returnStop .vmThreadPanicked)
      else some { s.record .joined with owner := .stopping .cleanup }
    | _, _ => none
  | .cleanup =>
    match s.owner with
    | .stopping .cleanup => some { s.record .removedWorkdir with owner := .stopping .store }
    | .dropping .cleanup => some { s.record .removedWorkdir with owner := .dropping .fields }
    | _ => none
  | .finish =>
    match s.owner with
    | .stopping .store => some ({ s with running := false }.returnStop .ok)
    | _ => none
  | .drop =>
    match s.owner with
    | .idle =>
      if s.running then some { s with owner := .dropping .trigger }
      -- No trigger and no signal for a VM that is not running
      else some { s with owner := .dropping .cleanup }
    | _ => none
  | .dropFields =>
    match s.owner with
    | .dropping .fields => some { s with owner := .dropped, chan := s.chan.dropSender }
    | _ => none
  | .bridge i a =>
    match s.bridges[i]? with
    | some t => if a = .spawn then none else
      (t.step s.chan a).map fun t' => { s with bridges := s.bridges.set i t' }
    | none => none
  | .spawnConn i a b =>
    match s.bridges[i]? with
    | some t => (t.step s.chan .spawn).map fun t' =>
      { s with
        bridges := s.bridges.set i t'
        conns := s.conns ++ [Connection.handle t.config.socketPath t.shutdown a b] }
    | none => none
  | .conn i a =>
    match s.conns[i]? with
    | some c => (c.step s.chan a).map fun c' => { s with conns := s.conns.set i c' }
    | none => none

end VmSystem

end Tateru
