import Mathlib.Logic.Function.Basic
import Tateru.Native.Handle

/-!
# The ports of a VM

Whether a bind succeeds is up to the operating system: a port has one listener at a time, and a
bind to port 0 comes to any free port of those that are handed out for this. Nobody but the
bridge tasks of the VM holds a port that one of them asks for.
-/

namespace Tateru

/-- A bridge task that has bound its port holds the listener until it returns. -/
def BridgeTask.listening (t : BridgeTask) : Bool :=
  t.phase != .binding && t.phase != .returned

/-- A VM, and the port that each bridge task has bound. -/
structure PortSystem where
  vm : VmSystem
  ports : Nat → Option UInt16

inductive PortAction where
  /-- `TcpListener::bind` of a bridge task completes, with a listener on a port or an error -/
  | bind (i : Nat) (port : Option UInt16)
  /-- any other step of the VM -/
  | vm (a : VmAction)
deriving DecidableEq, Repr

/-- The ports that a bind to `hostPort` can come to; `ephemeral` are those that are handed out
    for port 0. -/
def mayTake (ephemeral : UInt16 → Bool) (hostPort port : UInt16) : Bool :=
  if hostPort = 0 then port != 0 && ephemeral port else port == hostPort

namespace PortSystem

/-- A launch, with no port bound. -/
def launch (configs : List BridgeConfig) : PortSystem :=
  ⟨.launch configs, fun _ => none⟩

/-- No bridge task listens on the port. -/
def free (s : PortSystem) (port : UInt16) : Bool :=
  s.vm.bridges.zipIdx.all fun (t, i) => !t.listening || s.ports i != some port

/-- One step of a VM, with binds as the operating system answers them. -/
def step (ephemeral : UInt16 → Bool) (s : PortSystem) : PortAction → Option PortSystem
  | .bind i (some port) =>
    match s.vm.bridges[i]? with
    | some t =>
      if mayTake ephemeral t.config.hostPort port ∧ s.free port then
        (s.vm.step (.bridge i (.bind true))).map fun vm =>
          { vm, ports := Function.update s.ports i (some port) }
      else none
    | none => none
  | .bind i none =>
    match s.vm.bridges[i]? with
    | some t =>
      -- A bind to port 0 can fail for want of a port to hand out
      if t.config.hostPort = 0 ∨ ¬ s.free t.config.hostPort then
        (s.vm.step (.bridge i (.bind false))).map fun vm => { s with vm }
      else none
    | none => none
  | .vm (.bridge _ (.bind _)) => none
  | .vm a => (s.vm.step a).map fun vm => { s with vm }

theorem free_iff {s : PortSystem} {port : UInt16} :
    s.free port = true ↔
      ∀ i t, s.vm.bridges[i]? = some t → t.listening = true → s.ports i ≠ some port := by
  simp only [free, List.all_eq_true, Prod.forall, List.mem_zipIdx_iff_getElem?, Bool.or_eq_true,
    Bool.not_eq_true', bne_iff_ne]
  constructor
  · intro h i t ht hlistening
    exact (h t i ht).resolve_left (by simp [hlistening])
  · intro h t i ht
    cases hlistening : t.listening with
    | false => exact Or.inl rfl
    | true => exact Or.inr (h i t ht hlistening)

end PortSystem

end Tateru
