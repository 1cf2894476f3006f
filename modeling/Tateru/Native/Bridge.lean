import Tateru.ForStd.Run
import Tateru.ForStd.Watch
import Tateru.Native.Error

/-!
# The vsock bridge

A bridge task accepts TCP connections and starts a connection task for each; a connection
task copies bytes between the TCP stream and a Unix socket. Both wait for the shutdown
signal in the same `select!` as for their work, and the actions of a task are the points
where it can be interleaved with everything else.

`BridgeTask.step` and `Connection.step` take the shutdown channel as it stands.
-/

namespace Tateru

/-- Configuration for a single vsock bridge. -/
structure BridgeConfig where
  hostPort : UInt16
  socketPath : PathBuf
deriving DecidableEq, Repr

/-! ## The accept loop -/

/-- Where a bridge task stands: before it has bound its port, in the `select!`, between an
    accepted connection and the spawn of its task, after `changed` completed, or at its end. -/
inductive BridgePhase where
  | binding
  | accepting
  | accepted
  | woken
  | returned
deriving DecidableEq, Repr

/-- A bridge task with its receiver of the shutdown channel. -/
structure BridgeTask where
  config : BridgeConfig
  shutdown : Watch.Receiver
  phase : BridgePhase
deriving DecidableEq, Repr

inductive BridgeAction where
  /-- `TcpListener::bind` completes -/
  | bind (ok : Bool)
  /-- the accept branch of the `select!` wins -/
  | accept (ok : Bool)
  /-- the connection task is spawned with a clone of the receiver -/
  | spawn
  /-- the branch of `shutdown.changed()` wins -/
  | changed
  /-- the value of the channel is looked at -/
  | react
deriving DecidableEq, Repr

namespace BridgeTask

/-- `spawn_bridge`: the task as it is spawned. -/
def spawn (config : BridgeConfig) (shutdown : Watch.Receiver) : BridgeTask :=
  ⟨config, shutdown, .binding⟩

/-- A task that has not returned holds its receiver. -/
def live (t : BridgeTask) : Bool :=
  t.phase != .returned

/-- One step of a bridge task. -/
def step (chan : Watch Bool) (t : BridgeTask) : BridgeAction → Option BridgeTask
  | .bind ok =>
    -- A bind that fails ends the task
    if t.phase = .binding then some { t with phase := if ok then .accepting else .returned }
    else none
  | .accept ok =>
    -- A failed accept is logged, and the loop goes on
    if t.phase = .accepting then some { t with phase := if ok then .accepted else .accepting }
    else none
  | .spawn =>
    if t.phase = .accepted then some { t with phase := .accepting } else none
  | .changed =>
    if t.phase = .accepting then
      -- What `changed` returned is ignored: it may be that the sender is gone
      (t.shutdown.changed chan).map fun (_, shutdown) => { t with shutdown, phase := .woken }
    else none
  | .react =>
    if t.phase = .woken then
      some { t with phase := if chan.borrow then .returned else .accepting }
    else none

end BridgeTask

/-! ## Connections -/

/-- The two directions that a connection copies. -/
inductive Direction where
  | tcpToUnix
  | unixToTcp
deriving DecidableEq, Repr

/-- The opposite direction. -/
def Direction.other : Direction → Direction
  | .tcpToUnix => .unixToTcp
  | .unixToTcp => .tcpToUnix

/-- There are two directions. -/
theorem Direction.forall_iff {P : Direction → Prop} :
    (∀ d, P d) ↔ P .tcpToUnix ∧ P .unixToTcp := by
  constructor
  · exact fun h => ⟨h .tcpToUnix, h .unixToTcp⟩
  · intro ⟨htcp, hunix⟩ d
    cases d with
    | tcpToUnix => exact htcp
    | unixToTcp => exact hunix

/-- One direction of a connection: what the sending peer has yet to send before it closes
    its write side, what it sent and `copy` has not read, what `copy` has read and not
    written, and what the receiving peer got. -/
structure Copy where
  toSend : List UInt8
  closed : Bool
  inFlight : List UInt8
  buf : List UInt8
  written : List UInt8
deriving DecidableEq, Repr

namespace Copy

/-- A direction before its peer has sent any of `bytes`. -/
def start (bytes : List UInt8) : Copy :=
  ⟨bytes, false, [], [], []⟩

/-- The peer sends its next `n` bytes. -/
def send (k : Copy) (n : Nat) : Copy :=
  { k with toSend := k.toSend.drop n, inFlight := k.inFlight ++ k.toSend.take n }

/-- `copy` reads `n` bytes. -/
def read (k : Copy) (n : Nat) : Copy :=
  { k with inFlight := k.inFlight.drop n, buf := k.buf ++ k.inFlight.take n }

/-- `copy` writes `n` bytes. -/
def write (k : Copy) (n : Nat) : Copy :=
  { k with buf := k.buf.drop n, written := k.written ++ k.buf.take n }

end Copy

/-- Where a connection task stands: connecting to the Unix socket, in the `select!`, shutting
    down the write half of the direction that ended, or at its end. -/
inductive ConnPhase where
  | connecting
  | copying
  | closing (d : Direction)
  | ended
deriving DecidableEq, Repr

/-- A connection task with its receiver of the shutdown channel. -/
structure Connection where
  socketPath : PathBuf
  shutdown : Watch.Receiver
  phase : ConnPhase
  tcpToUnix : Copy
  unixToTcp : Copy
deriving DecidableEq, Repr

inductive ConnAction where
  /-- `UnixStream::connect` completes -/
  | connect (ok : Bool)
  /-- the sending peer sends its next `n` bytes -/
  | send (d : Direction) (n : Nat)
  /-- the sending peer has sent everything and closes its write side -/
  | close (d : Direction)
  /-- `copy` reads `n` bytes -/
  | read (d : Direction) (n : Nat)
  /-- `copy` writes `n` bytes -/
  | write (d : Direction) (n : Nat)
  /-- `copy` has reached the end of its stream, and its branch wins -/
  | finish (d : Direction)
  /-- a read or a write of `copy` fails, and its branch wins -/
  | fail (d : Direction)
  /-- the shutdown of the write half is over -/
  | shutdown
  /-- the branch of `shutdown.changed()` wins -/
  | changed
deriving DecidableEq, Repr

namespace Connection

/-- `handle_connection`, for a client that will send `a` and a guest that will send `b`. -/
def handle (socketPath : PathBuf) (shutdown : Watch.Receiver) (a b : List UInt8) :
    Connection :=
  ⟨socketPath, shutdown, .connecting, .start a, .start b⟩

/-- A task that has not ended holds its receiver. -/
def live (c : Connection) : Bool :=
  c.phase != .ended

/-- One of the two directions. -/
def copy (c : Connection) : Direction → Copy
  | .tcpToUnix => c.tcpToUnix
  | .unixToTcp => c.unixToTcp

/-- Change one of the two directions. -/
def setCopy (c : Connection) (d : Direction) (k : Copy) : Connection :=
  match d with
  | .tcpToUnix => { c with tcpToUnix := k }
  | .unixToTcp => { c with unixToTcp := k }

/-- One step of a connection task or of one of its peers. -/
def step (chan : Watch Bool) (c : Connection) : ConnAction → Option Connection
  | .connect ok =>
    if c.phase = .connecting then some { c with phase := if ok then .copying else .ended }
    else none
  | .send d n =>
    let k := c.copy d
    if 0 < n ∧ n ≤ k.toSend.length then some (c.setCopy d (k.send n)) else none
  | .close d =>
    let k := c.copy d
    if k.toSend = [] then some (c.setCopy d { k with closed := true }) else none
  | .read d n =>
    let k := c.copy d
    if c.phase = .copying ∧ 0 < n ∧ n ≤ k.inFlight.length then some (c.setCopy d (k.read n))
    else none
  | .write d n =>
    let k := c.copy d
    if c.phase = .copying ∧ 0 < n ∧ n ≤ k.buf.length then some (c.setCopy d (k.write n))
    else none
  | .finish d =>
    let k := c.copy d
    -- The other direction is dropped with whatever it still holds
    if c.phase = .copying ∧ k.closed ∧ k.inFlight = [] ∧ k.buf = [] then
      some { c with phase := .closing d }
    else none
  -- The result of `copy` is ignored, so a failure ends the `select!` as an end of stream does
  | .fail d => if c.phase = .copying then some { c with phase := .closing d } else none
  | .shutdown =>
    match c.phase with
    | .closing _ => some { c with phase := .ended }
    | _ => none
  | .changed =>
    -- The value is not looked at here
    if c.phase = .copying ∧ c.shutdown.ready chan then some { c with phase := .ended } else none

@[simp] theorem copy_setCopy (c : Connection) (d d' : Direction) (k : Copy) :
    (c.setCopy d k).copy d' = if d' = d then k else c.copy d' := by
  cases d <;> cases d' <;> rfl

@[simp] theorem copy_withPhase (c : Connection) (phase : ConnPhase) (d : Direction) :
    { c with phase }.copy d = c.copy d := by
  cases d <;> rfl

@[simp] theorem phase_setCopy (c : Connection) (d : Direction) (k : Copy) :
    (c.setCopy d k).phase = c.phase := by
  cases d <;> rfl

@[simp] theorem shutdown_setCopy (c : Connection) (d : Direction) (k : Copy) :
    (c.setCopy d k).shutdown = c.shutdown := by
  cases d <;> rfl

end Connection

end Tateru
