import Tateru.Spec.BridgeCopy
import Tateru.Spec.PortClashes

/-!
# The connections of a VM

A VM serves many connections at once, over several bridges. Each one is between the peers it was
spawned for and the socket of its own bridge, and whatever else happens, what a peer has got is a
first part of what the other one sends, which only grows.

## Key results

- `connections_serve`: every connection of every run
-/

namespace Tateru.Spec

variable {s s' : VmSystem} {a : VmAction}

/-! ## One step -/

/-- What the peers and `copy` only add to at the end is added to at the end by every step. -/
theorem prefix_of_step {f : Copy → List UInt8} (hsend : ∀ k n, f k <+: f (k.send n))
    (hclose : ∀ k : Copy, f k <+: f { k with closed := true }) (hread : ∀ k n, f k <+: f (k.read n))
    (hwrite : ∀ k n, f k <+: f (k.write n)) {chan : Watch Bool} {c c' : Connection}
    {act : ConnAction} (h : ConnStep chan c act c') (d : Direction) :
    f (c.copy d) <+: f (c'.copy d) := by
  have hset : ∀ {d' : Direction} {k : Copy}, f (c.copy d') <+: f k →
      f (c.copy d) <+: f ((c.setCopy d' k).copy d) := by
    intro d' k hk
    rw [Connection.copy_setCopy]
    split
    · rename_i heq
      exact heq ▸ hk
    · exact List.prefix_refl _
  cases h with
  | send => exact hset (hsend _ _)
  | close => exact hset (hclose _)
  | read => exact hset (hread _ _)
  | write => exact hset (hwrite _ _)
  | _ => cases d <;> exact List.prefix_refl _

/-- A step takes nothing back that was delivered, and adds at the end. -/
theorem written_prefix_of_step {chan : Watch Bool} {c c' : Connection} {act : ConnAction}
    (h : ConnStep chan c act c') (d : Direction) :
    (c.copy d).written <+: (c'.copy d).written :=
  prefix_of_step (f := Copy.written) (fun _ _ => List.prefix_rfl) (fun _ => List.prefix_rfl)
    (fun _ _ => List.prefix_rfl) (fun _ _ => List.prefix_append _ _) h d

/-- A connection keeps the socket it was spawned for. -/
theorem socketPath_of_step {chan : Watch Bool} {c c' : Connection} {act : ConnAction}
    (h : ConnStep chan c act c') : c'.socketPath = c.socketPath := by
  have hset : ∀ (d : Direction) (k : Copy), (c.setCopy d k).socketPath = c.socketPath := by
    intro d k
    cases d <;> rfl
  cases h with
  | send | close | read | write => exact hset _ _
  | _ => rfl

/-! ## All connections -/

/-- The connection that an action spawns: the bridge that accepted it, and what its peers will
    send. -/
def spawned? : VmAction → Option (Nat × List UInt8 × List UInt8)
  | .spawnConn i a b => some (i, a, b)
  | _ => none

/-- The connection goes to the socket of the bridge that accepted it, and neither loses, invents
    nor reorders a byte of its peers. -/
structure Serves (configs : List BridgeConfig) (spawned : Nat × List UInt8 × List UInt8)
    (c : Connection) : Prop where
  socket : (configs[spawned.1]?).map BridgeConfig.socketPath = some c.socketPath
  copies : CopyInv spawned.2.1 spawned.2.2 c

namespace Serves

variable {configs : List BridgeConfig} {spawned : Nat × List UInt8 × List UInt8}
  {c c' : Connection}

theorem step {chan : Watch Bool} {act : ConnAction} (h : Serves configs spawned c)
    (hstep : ConnStep chan c act c') : Serves configs spawned c' :=
  ⟨h.socket.trans (congrArg some (socketPath_of_step hstep).symm), h.copies.step hstep⟩

/-- What has been delivered comes first in what is sent. -/
theorem written_prefix (h : Serves configs spawned c) (d : Direction) :
    (c.copy d).written <+: sentBytes spawned.2.1 spawned.2.2 d := by
  rw [← h.copies.total d, total, List.append_assoc, List.append_assoc]
  exact List.prefix_append _ _

end Serves

variable {configs : List BridgeConfig}

/-- The configuration of a bridge task is that of its place in the launch. -/
theorem config_of_run {as : List VmAction} (hrun : Run VmSystem.step (.launch configs) as s)
    {i : Nat} {t : BridgeTask} (ht : s.bridges[i]? = some t) : configs[i]? = some t.config := by
  have hall : s.bridges.map (·.config) ++ toSpawn s.owner = configs :=
    Run.invariant (I := fun s => s.bridges.map (·.config) ++ toSpawn s.owner = configs)
      (fun _ _ _ hI h => (Step.of_step h).configs.trans hI) hrun rfl
  rw [← hall, List.getElem?_append_left (by simpa using (List.getElem?_eq_some_iff.mp ht).1),
    List.getElem?_map, ht, Option.map_some]

/-- The connections are those that were spawned, in order, and each serves its peers. -/
theorem serves_of_run {as : List VmAction} (hrun : Run VmSystem.step (.launch configs) as s) :
    List.Forall₂ (Serves configs) (as.filterMap spawned?) s.conns := by
  induction as using List.reverseRecOn generalizing s with
  | nil =>
    obtain rfl := Run.nil_iff.mp hrun
    exact .nil
  | append_singleton as a ih =>
    obtain ⟨u, hu, hstep⟩ := Run.snoc_iff.mp hrun
    have hserves := ih hu
    rw [List.filterMap_snoc]
    cases Step.of_step hstep with
    | spawnConn ht =>
      refine hserves.snoc ⟨?_, .handle _ _ _ _⟩
      rw [config_of_run hu ht]
      rfl
    | @conn i act c c' hc hconn =>
      rw [show spawned? (.conn i act) = none from rfl, Option.toList_none, List.append_nil]
      exact hserves.set hc fun spawned h => h.step (.of_step hconn)
    | _ =>
      simp only [spawned?, Option.toList_none, List.append_nil]
      exact hserves

/-- What a run adds to what a connection has delivered. -/
theorem delivered_of_run {bs : List VmAction} (hrun : Run VmSystem.step s bs s') {i : Nat}
    {c : Connection} (hc : s.conns[i]? = some c) :
    ∃ c', s'.conns[i]? = some c' ∧
      (∀ d, (c.copy d).written <+: (c'.copy d).written) ∧
      (HasLeftSelect c.phase → HasLeftSelect c'.phase ∧
        ∀ d, (c'.copy d).written = (c.copy d).written) := by
  refine Run.invariant (I := fun u => ∃ c', u.conns[i]? = some c' ∧
    (∀ d, (c.copy d).written <+: (c'.copy d).written) ∧
    (HasLeftSelect c.phase → HasLeftSelect c'.phase ∧
      ∀ d, (c'.copy d).written = (c.copy d).written)) ?_ hrun
    ⟨c, hc, fun _ => List.prefix_refl _, fun hleft => ⟨hleft, fun _ => rfl⟩⟩
  rintro u a u' ⟨c₁, hc₁, hinit, hleft⟩ h
  obtain ⟨c₂, hc₂, ⟨-, rfl⟩ | ⟨act, -, hact⟩⟩ := (Step.of_step h).conn_by hc₁
  · exact ⟨c₂, hc₂, hinit, hleft⟩
  · refine ⟨c₂, hc₂, fun d => (hinit d).trans (written_prefix_of_step (.of_step hact) d),
      fun hc => ?_⟩
    obtain ⟨hleft₁, hsame⟩ := hleft hc
    obtain ⟨hleft₂, hsame'⟩ := written_of_step (.of_step hact) hleft₁
    exact ⟨hleft₂, fun d => (hsame' d).trans (hsame d)⟩

/-- **Every connection serves its own peers.** In every run of a VM, whatever is accepted, stopped,
    dropped, refused or cut off, the connections are those that the bridges have spawned, in the
    order in which they did. Each one goes to the socket that its bridge is configured with, and
    what a peer has got is a first part of what the other peer of the same connection sends.
    Nothing that was delivered is taken back later, and nothing is delivered to a connection any
    more once it has left its `select!`. -/
theorem connections_serve {as : List VmAction} (hrun : Run VmSystem.step (.launch configs) as s) :
    List.Forall₂ (fun spawned c =>
        (configs[spawned.1]?).map BridgeConfig.socketPath = some c.socketPath ∧
        ∀ d, (c.copy d).written <+: sentBytes spawned.2.1 spawned.2.2 d)
      (as.filterMap spawned?) s.conns ∧
    ∀ bs s', Run VmSystem.step s bs s' → ∀ (i : Nat) (c : Connection), s.conns[i]? = some c →
      ∃ c', s'.conns[i]? = some c' ∧ (∀ d, (c.copy d).written <+: (c'.copy d).written) ∧
        (HasLeftSelect c.phase → ∀ d, (c'.copy d).written = (c.copy d).written) := by
  refine ⟨(serves_of_run hrun).imp fun spawned c h => ⟨h.socket, h.written_prefix⟩, ?_⟩
  intro bs s' hrun' i c hc
  obtain ⟨c', hc', hinit, hleft⟩ := delivered_of_run hrun' hc
  exact ⟨c', hc', hinit, fun hphase => (hleft hphase).2⟩

/-- Two connections over one bridge, of which the first is cut off. -/
theorem connections_serve_two :
    let configs : List BridgeConfig := [⟨31122, .ofString "/tmp/vsock-22.sock"⟩]
    let actions : List VmAction := [.spawnBridge, .spawnThread true, .bridge 0 (.bind true),
      .bridge 0 (.accept true), .spawnConn 0 [1, 2] [3], .bridge 0 (.accept true),
      .spawnConn 0 [4] [], .conn 0 (.connect true), .conn 1 (.connect true),
      .conn 0 (.send .tcpToUnix 2), .conn 0 (.read .tcpToUnix 2), .conn 0 (.write .tcpToUnix 1),
      .conn 0 (.fail .tcpToUnix)]
    ∃ s, Run VmSystem.step (.launch configs) actions s ∧
      s.conns.map (fun c => c.tcpToUnix.written) = [[1], []] ∧
      List.Forall₂ (fun spawned c =>
          ∀ d, (c.copy d).written <+: sentBytes spawned.2.1 spawned.2.2 d)
        [(0, [1, 2], [3]), (0, [4], [])] s.conns := by
  intro configs actions
  have hrun := Run.get VmSystem.step (.launch configs) actions rfl
  exact ⟨_, hrun, rfl, (connections_serve hrun).1.imp fun spawned c h => h.2⟩

end Tateru.Spec
