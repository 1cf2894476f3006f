import Tateru.Native.MockVmControl
import Tateru.Spec.Lifecycle

/-!
# The mock handle refines the handle

A caller makes a given sequence of calls, with a given choice for each `stop` whether its trigger
fails. The mock answers at once; the handle answers somewhere in an interleaving with the VM
thread, the bridges and their connections. As long as the VM thread does not panic, and stays in
`start_enter` until it is triggered, both show the caller the same.

## Key results

- `CallerInv.step`: while the VM has not been triggered it runs, and once it has, the `stop` that
  did it is on its way to success
- `Follows.run`: what the handle has shown so far is what the mock shows first
- `mock_refines_handle`: every run that answers all calls shows what the mock shows
-/

namespace Tateru

/-- A call on a handle. `fail` is whether the shutdown fails in this call. -/
inductive VmCall where
  | isRunning
  | stop (fail : Bool)
deriving DecidableEq, Repr

/-- What a call of `stop` returns, up to the I/O error. The other errors belong to other
    operations. -/
def StopResult.ofExcept : Except TateruError Unit → Option StopResult
  | .ok () => some .ok
  | .error .notRunning => some .notRunning
  | .error (.bridgeIo _) => some .bridgeIo
  | .error .vmThreadPanicked => some .vmThreadPanicked
  | .error _ => none

/-- What a call shows to its caller. -/
inductive Observation where
  | isRunning (answer : Bool)
  | stopped (result : Option StopResult)
deriving DecidableEq, Repr

/-- What an event shows to the caller. -/
def VmEvent.observation : VmEvent → Option Observation
  | .isRunning answer => some (.isRunning answer)
  | .stopped result => some (.stopped (some result))
  | _ => none

/-- What the calls on a handle have shown. -/
def VmSystem.observations (s : VmSystem) : List Observation :=
  s.log.filterMap VmEvent.observation

theorem VmSystem.observations_of_log {s s' : VmSystem} (evs : List VmEvent)
    (h : s'.log = s.log ++ evs) :
    s'.observations = s.observations ++ evs.filterMap VmEvent.observation := by
  rw [observations, h, List.filterMap_append, observations]

/-- What calls on the mock show, with `fail_stop` set before each call of `stop`. -/
def MockVmControl.observations (m : MockVmControl) : List VmCall → List Observation
  | [] => []
  | .isRunning :: calls => .isRunning m.isRunning :: m.observations calls
  | .stop fail :: calls =>
    let (result, m) := { m with failStop := fail }.stop
    .stopped (StopResult.ofExcept result) :: m.observations calls

/-- What a call of `stop` on the mock returns when it is told to fail, or not. -/
def MockVmControl.outcome (m : MockVmControl) (fail : Bool) : StopResult :=
  if !m.running then .notRunning else if fail then .bridgeIo else .ok

/-- A call of `stop` shows its outcome, and the mock runs on if it has failed. -/
theorem MockVmControl.observations_stop (m : MockVmControl) (fail : Bool) (calls : List VmCall) :
    ∃ m' : MockVmControl,
      m.observations (.stop fail :: calls) =
        .stopped (some (m.outcome fail)) :: m'.observations calls ∧
      m'.running = (m.running && fail) := by
  obtain ⟨running, stopCount, failStop⟩ := m
  cases running with
  | false => exact ⟨_, rfl, rfl⟩
  | true =>
    cases fail with
    | false => exact ⟨_, rfl, rfl⟩
    | true => exact ⟨_, rfl, rfl⟩

/-! ## The caller -/

/-- A VM and its owner, who has the calls `todo` still to make. `fail` is the choice for the
    `stop` that was called last. -/
structure Caller where
  todo : List VmCall
  fail : Bool
  vm : VmSystem

namespace Caller

/-- A launch, and the calls to make on the handle. -/
def start (configs : List BridgeConfig) (calls : List VmCall) : Caller :=
  ⟨calls, false, .launch configs⟩

/-- One step of the VM, as far as the calls and the VM thread allow it: the owner makes the calls
    in order, the trigger fails where that is chosen, and the thread leaves `start_enter` without
    a panic and only after a successful trigger. -/
def step (c : Caller) (a : VmAction) : Option Caller :=
  match a with
  | .isRunning =>
    match c.todo with
    | .isRunning :: todo => (c.vm.step a).map fun vm => { c with todo, vm }
    | _ => none
  | .stop =>
    match c.todo with
    | .stop fail :: todo => (c.vm.step a).map fun vm => { todo, fail, vm }
    | _ => none
  | .trigger ok =>
    if ok = !c.fail then (c.vm.step a).map fun vm => { c with vm } else none
  | .leave how =>
    if how ≠ .panicked ∧ .triggered true ∈ c.vm.log then
      (c.vm.step a).map fun vm => { c with vm }
    else none
  | .drop => none
  | _ => (c.vm.step a).map fun vm => { c with vm }

/-- The calls that have not returned. -/
def pending (c : Caller) : List VmCall :=
  match c.vm.owner with
  | .stopping _ => .stop c.fail :: c.todo
  | _ => c.todo

theorem pending_of_stopping {c : Caller} {pc : StopPc}
    (h : c.vm.owner = .stopping pc) : c.pending = .stop c.fail :: c.todo := by
  simp only [pending, h]

theorem pending_of_not {c : Caller} (h : ∀ pc, c.vm.owner ≠ .stopping pc) :
    c.pending = c.todo := by
  unfold pending
  split
  · rename_i howner
    exact absurd howner (h _)
  · rfl

/-- All calls have been made and have returned. -/
def Done (c : Caller) : Prop :=
  c.todo = [] ∧ c.vm.owner = .idle

end Caller

namespace Spec

/-- What a step of a caller and its VM is, by the action. -/
structure CallerStep (c : Caller) (a : VmAction) (c' : Caller) : Prop where
  vm : Step c.vm a c'.vm
  isRunning : a = .isRunning → c.todo = .isRunning :: c'.todo ∧ c'.fail = c.fail
  stop : a = .stop → c.todo = .stop c'.fail :: c'.todo
  trigger : ∀ ok, a = .trigger ok → ok = !c.fail
  leave : ∀ how, a = .leave how → how ≠ .panicked ∧ .triggered true ∈ c.vm.log
  drop : a ≠ .drop
  other : a ≠ .isRunning → a ≠ .stop → c'.todo = c.todo ∧ c'.fail = c.fail

theorem CallerStep.of_step {c c' : Caller} {a : VmAction} (h : c.step a = some c') :
    CallerStep c a c' := by
  cases a with
  | isRunning =>
    simp only [Caller.step] at h
    split at h
    · rename_i htodo
      obtain ⟨vm, hvm, rfl⟩ := Option.map_eq_some_iff.mp h
      exact ⟨.of_step hvm, fun _ => ⟨htodo, rfl⟩, by simp, by simp, by simp, by simp, by simp⟩
    · cases h
  | stop =>
    simp only [Caller.step] at h
    split at h
    · rename_i htodo
      obtain ⟨vm, hvm, rfl⟩ := Option.map_eq_some_iff.mp h
      exact ⟨.of_step hvm, by simp, fun _ => htodo, by simp, by simp, by simp, by simp⟩
    · cases h
  | trigger ok =>
    simp only [Caller.step] at h
    split at h
    · rename_i hok
      obtain ⟨vm, hvm, rfl⟩ := Option.map_eq_some_iff.mp h
      exact ⟨.of_step hvm, by simp, by simp, by simpa using hok, by simp, by simp, by simp⟩
    · cases h
  | leave how =>
    simp only [Caller.step] at h
    split at h
    · rename_i hhow
      obtain ⟨vm, hvm, rfl⟩ := Option.map_eq_some_iff.mp h
      exact ⟨.of_step hvm, by simp, by simp, by simp, by simpa using hhow, by simp, by simp⟩
    · cases h
  | drop => cases h
  | _ =>
    obtain ⟨vm, hvm, rfl⟩ := Option.map_eq_some_iff.mp h
    exact ⟨.of_step hvm, by simp, by simp, by simp, by simp, by simp, by simp⟩

/-! ## The VM under such a caller -/

/-- The VM thread does not panic and has not left before the trigger; and once the VM has been
    triggered, the `stop` that did it is past the trigger, or has cleared the flag. The handle is
    not dropped. -/
structure CallerInv (s : VmSystem) : Prop where
  thread : s.thread ≠ .left .panicked ∧ s.thread ≠ .stored .panicked ∧
    s.thread ≠ .terminated .panicked
  left : HasLeft s.thread → .triggered true ∈ s.log
  triggered : .triggered true ∈ s.log →
    (∃ pc, pc ≠ .trigger ∧ s.owner = .stopping pc) ∨ (s.owner = .idle ∧ s.running = false)
  owner : ∀ pc, s.owner ≠ .dropping pc

namespace CallerInv

theorem launch (configs : List BridgeConfig) : CallerInv (.launch configs) where
  thread := by simp [VmSystem.launch]
  left h := h.elim
  triggered h := nomatch h
  owner pc := by simp [VmSystem.launch]

variable {c c' : Caller} {a : VmAction}

theorem thread_of_step (hinv : CallerInv c.vm) (h : CallerStep c a c') :
    c'.vm.thread ≠ .left .panicked ∧ c'.vm.thread ≠ .stored .panicked ∧
      c'.vm.thread ≠ .terminated .panicked := by
  obtain ⟨hleft, hstored, hterminated⟩ := hinv.thread
  obtain ⟨hvm, -, -, -, hleave, -, -⟩ := h
  generalize c'.vm = s' at hvm ⊢
  cases hvm with
  | leave _ hhow => simpa using hhow
  | panic => exact absurd rfl (hleave _ rfl).1
  | storeStopped hthread =>
    rw [hthread] at hleft
    simpa using hleft
  | terminate hthread =>
    rw [hthread] at hstored
    simpa using hstored
  | spawnThread => simp
  | _ => exact hinv.thread

theorem left_of_step (hinv : CallerInv c.vm) (h : CallerStep c a c')
    (hleft : HasLeft c'.vm.thread) :
    .triggered true ∈ c'.vm.log := by
  have hmono := h.vm.log_mono.subset
  obtain ⟨hvm, -, -, -, hleave, -, -⟩ := h
  generalize c'.vm = s' at hvm hleft hmono ⊢
  cases hvm with
  | leave => exact hmono (hleave _ rfl).2
  | panic => exact absurd rfl (hleave _ rfl).1
  | storeStopped hthread | terminate hthread => exact hmono (hinv.left (hthread ▸ trivial))
  | spawnThread => exact hleft.elim
  | _ => exact hmono (hinv.left hleft)

/-- Before the launch is over, between two calls on a running VM, and before the trigger of a
    call, the VM has not been triggered. -/
theorem not_triggered (hinv : CallerInv c.vm) (hidle : c.vm.owner = .idle → c.vm.running = true)
    (hstopping : ∀ pc, pc ≠ .trigger → c.vm.owner ≠ .stopping pc) :
    .triggered true ∉ c.vm.log := by
  intro htriggered
  rcases hinv.triggered htriggered with ⟨pc, hpc, howner⟩ | ⟨howner, hrunning⟩
  · exact hstopping pc hpc howner
  · exact nomatch (hidle howner).symm.trans hrunning

/-- Until the trigger of a call the VM thread has not left, so the flag is set. -/
theorem running_of_trigger (hthread : ThreadInv c.vm) (hinv : CallerInv c.vm)
    (howner : c.vm.owner = .stopping .trigger) : c.vm.running = true := by
  cases hrunning : c.vm.running with
  | true => rfl
  | false =>
    have hnone := hinv.not_triggered (by simp [howner]) (by simp [howner, eq_comm])
    exact absurd (hinv.left (hthread.running hrunning)) hnone

theorem triggered_of_step (hinv : CallerInv c.vm) (h : CallerStep c a c')
    (htriggered : .triggered true ∈ c'.vm.log) :
    (∃ pc, pc ≠ .trigger ∧ c'.vm.owner = .stopping pc) ∨
      (c'.vm.owner = .idle ∧ c'.vm.running = false) := by
  obtain ⟨hvm, -, -, -, -, hdrop, -⟩ := h
  generalize c'.vm = s' at hvm htriggered ⊢
  cases hvm with
  | spawnBridge howner | spawnThread howner | spawnThreadFails howner =>
    exact absurd htriggered (hinv.not_triggered (by simp [howner]) (by simp [howner]))
  | stop howner hrunning =>
    exact absurd htriggered (hinv.not_triggered (fun _ => hrunning) (by simp [howner]))
  | triggerFails howner =>
    refine absurd ?_ (hinv.not_triggered (by simp [howner]) (by simp [howner, eq_comm]))
    simpa [VmSystem.returnStop, VmSystem.record] using htriggered
  | stopNotRunning _ hrunning => exact Or.inr ⟨rfl, hrunning⟩
  | finish => exact Or.inr ⟨rfl, rfl⟩
  | trigger | signal | take | takeNothing | join | cleanup =>
    exact Or.inl ⟨_, by simp, rfl⟩
  | joinPanicked _ hthread => exact absurd hthread hinv.thread.2.2
  | dropTrigger howner | dropSignal howner | dropCleanup howner | dropFields howner =>
    exact absurd howner (hinv.owner _)
  | drop | dropStopped => exact absurd rfl hdrop
  | isRunning =>
    exact hinv.triggered (by simpa [VmSystem.record] using htriggered)
  | storeStopped => exact (hinv.triggered htriggered).imp_right (And.imp_right fun _ => rfl)
  | _ => exact hinv.triggered htriggered

theorem owner_of_step (hinv : CallerInv c.vm) (h : CallerStep c a c') (pc : DropPc) :
    c'.vm.owner ≠ .dropping pc := by
  obtain ⟨hvm, -, -, -, -, hdrop, -⟩ := h
  generalize c'.vm = s' at hvm ⊢
  cases hvm with
  | drop | dropStopped => exact absurd rfl hdrop
  | dropTrigger howner | dropSignal howner | dropCleanup howner =>
    exact absurd howner (hinv.owner _)
  | leave | panic | storeStopped | terminate | isRunning | bridge | spawnConn | conn =>
    exact hinv.owner pc
  | _ => simp [VmSystem.returnStop, VmSystem.send]

theorem step (hinv : CallerInv c.vm) (h : CallerStep c a c') : CallerInv c'.vm where
  thread := hinv.thread_of_step h
  left := hinv.left_of_step h
  triggered := hinv.triggered_of_step h
  owner := hinv.owner_of_step h

end CallerInv

/-! ## The mock alongside -/

/-- What `calls` show on the mock is what the handle has shown, and then what the calls that have
    not returned show on a mock that runs if the VM did when the owner was last out of `stop`. -/
def Shown (calls : List VmCall) (c : Caller) : Prop :=
  ∃ m : MockVmControl,
    (∀ pc, c.vm.owner = .stopping pc → m.running = true) ∧
    ((∀ pc, c.vm.owner ≠ .stopping pc) → m.running = c.vm.running) ∧
    MockVmControl.new.observations calls = c.vm.observations ++ m.observations c.pending

/-- The handle shows what the mock shows, and a call that is past its trigger does not fail. -/
structure Follows (calls : List VmCall) (c : Caller) : Prop where
  fail : ∀ pc, pc ≠ .trigger → c.vm.owner = .stopping pc → c.fail = false
  shown : Shown calls c

namespace Follows

theorem start (configs : List BridgeConfig) (calls : List VmCall) :
    Follows calls (.start configs calls) where
  fail _ _ h := nomatch h
  shown := ⟨.new, nofun, fun _ => rfl, rfl⟩

variable {calls : List VmCall} {c c' : Caller} {a : VmAction}

theorem fail_of_step (hinv : Follows calls c) (h : CallerStep c a c') (pc : StopPc)
    (hpc : pc ≠ .trigger) (howner' : c'.vm.owner = .stopping pc) : c'.fail = false := by
  obtain ⟨hvm, -, -, htrigger, -, -, hother⟩ := h
  generalize c'.vm = s' at hvm howner'
  cases hvm with
  | trigger =>
    have hfail := htrigger true rfl
    exact (hother (by simp) (by simp)).2.trans (by simpa using hfail.symm)
  | signal howner | take howner | takeNothing howner | join howner | cleanup howner =>
    exact (hother (by simp) (by simp)).2.trans (hinv.fail _ (by simp) howner)
  | leave | panic | storeStopped | terminate | bridge | spawnConn | conn =>
    exact (hother (by simp) (by simp)).2.trans (hinv.fail pc hpc howner')
  | isRunning howner => cases howner.symm.trans howner'
  | stop => exact absurd (Owner.stopping.inj howner').symm hpc
  | _ => cases howner'

/-- The owner stays in the call it is in, and nothing is shown. -/
theorem shown_inside (hinv : Follows calls c) {pc pc' : StopPc} (howner : c.vm.owner = .stopping pc)
    (howner' : c'.vm.owner = .stopping pc') (htodo : c'.todo = c.todo) (hfail : c'.fail = c.fail)
    (hobs : c'.vm.observations = c.vm.observations) : Shown calls c' := by
  obtain ⟨m, hstopping, -, hshown⟩ := hinv.shown
  refine ⟨m, fun _ _ => hstopping pc howner, fun hnot => absurd howner' (hnot pc'), ?_⟩
  rw [hshown, hobs, Caller.pending_of_stopping howner, Caller.pending_of_stopping howner', htodo,
    hfail]

/-- The owner stays out of `stop`, and nothing is shown. -/
theorem shown_outside (hinv : Follows calls c) (howner : ∀ pc, c.vm.owner ≠ .stopping pc)
    (howner' : ∀ pc, c'.vm.owner ≠ .stopping pc) (htodo : c'.todo = c.todo)
    (hrunning : c'.vm.running = c.vm.running)
    (hobs : c'.vm.observations = c.vm.observations) : Shown calls c' := by
  obtain ⟨m, -, hnot, hshown⟩ := hinv.shown
  refine ⟨m, fun pc h => absurd h (howner' pc), fun _ => (hnot howner).trans hrunning.symm, ?_⟩
  rw [hshown, hobs, Caller.pending_of_not howner, Caller.pending_of_not howner', htodo]

/-- A thread or a task takes a step, and the owner none. -/
theorem shown_background (hinv : Follows calls c) (howner : c'.vm.owner = c.vm.owner)
    (htodo : c'.todo = c.todo) (hfail : c'.fail = c.fail) (hlog : c'.vm.log = c.vm.log)
    (hrunning : (∀ pc, c.vm.owner ≠ .stopping pc) → c'.vm.running = c.vm.running) :
    Shown calls c' := by
  have hobs : c'.vm.observations = c.vm.observations := by
    rw [VmSystem.observations, hlog, VmSystem.observations]
  by_cases hin : ∃ pc, c.vm.owner = .stopping pc
  · obtain ⟨pc, hpc⟩ := hin
    exact hinv.shown_inside hpc (howner.trans hpc) htodo hfail hobs
  · have hout : ∀ pc, c.vm.owner ≠ .stopping pc := fun pc hpc => hin ⟨pc, hpc⟩
    have hout' : ∀ pc, c'.vm.owner ≠ .stopping pc := fun pc hpc => hout pc (howner.symm.trans hpc)
    exact hinv.shown_outside hout hout' htodo (hrunning hout) hobs

/-- The owner comes out of a call that has shown `o`. -/
theorem shown_next {m : MockVmControl} {o : Observation}
    (hshown : MockVmControl.new.observations calls =
      c.vm.observations ++ o :: m.observations c'.todo)
    (hidle : c'.vm.owner = .idle) (hobs : c'.vm.observations = c.vm.observations ++ [o])
    (hrunning : m.running = c'.vm.running) : Shown calls c' := by
  have hnot : ∀ pc, c'.vm.owner ≠ .stopping pc := by simp [hidle]
  refine ⟨m, fun pc h => absurd h (hnot pc), fun _ => hrunning, ?_⟩
  rw [hshown, hobs, Caller.pending_of_not hnot, List.append_assoc, List.singleton_append]

/-- The owner returns from `stop` with what the mock returns. -/
theorem shown_return {m : MockVmControl} {fail : Bool}
    (hshown : MockVmControl.new.observations calls =
      c.vm.observations ++ m.observations (.stop fail :: c'.todo))
    (hidle : c'.vm.owner = .idle)
    (hobs : c'.vm.observations = c.vm.observations ++ [.stopped (some (m.outcome fail))])
    (hrunning : c'.vm.running = (m.running && fail)) : Shown calls c' := by
  obtain ⟨m', hm', hrunning'⟩ := m.observations_stop fail c'.todo
  rw [hm'] at hshown
  exact shown_next hshown hidle hobs (hrunning'.trans hrunning.symm)

theorem shown_of_step (hthread : ThreadInv c.vm) (hcaller : CallerInv c.vm)
    (hinv : Follows calls c) (h : CallerStep c a c') :
    Shown calls c' := by
  have hfail := hinv.fail
  obtain ⟨m, hstopping, hnot, hshown⟩ := hinv.shown
  obtain ⟨hvm, hisRunning, hstop, htrigger, -, hdrop, hother⟩ := h
  obtain ⟨todo, fail, s⟩ := c'
  cases hvm with
  | isRunning howner =>
    have hout : ∀ pc, c.vm.owner ≠ .stopping pc := by simp [howner]
    rw [Caller.pending_of_not hout, (hisRunning rfl).1] at hshown
    refine shown_next hshown howner ?_ (hnot hout)
    rw [MockVmControl.isRunning, hnot hout]
    exact VmSystem.observations_of_log [.isRunning c.vm.running] rfl
  | stop howner hrunning =>
    have hout : ∀ pc, c.vm.owner ≠ .stopping pc := by simp [howner]
    refine ⟨m, fun _ _ => (hnot hout).trans hrunning, fun h => absurd rfl (h .trigger), ?_⟩
    rw [hshown, Caller.pending_of_not hout, hstop rfl]
    rfl
  | stopNotRunning howner hrunning =>
    have hout : ∀ pc, c.vm.owner ≠ .stopping pc := by simp [howner]
    have hm := (hnot hout).trans hrunning
    rw [Caller.pending_of_not hout, hstop rfl] at hshown
    have houtcome : m.outcome fail = .notRunning := by simp [MockVmControl.outcome, hm]
    refine shown_return hshown rfl ?_ (by rw [hm]; exact hrunning)
    rw [houtcome]
    exact VmSystem.observations_of_log [.stopped .notRunning] rfl
  | triggerFails howner =>
    have hm := hstopping _ howner
    have hchosen : c.fail = true := by simpa using htrigger false rfl
    rw [Caller.pending_of_stopping howner, hchosen, ← (hother (by simp) (by simp)).1] at hshown
    have houtcome : m.outcome true = .bridgeIo := by simp [MockVmControl.outcome, hm]
    have hset := hcaller.running_of_trigger hthread howner
    refine shown_return hshown rfl ?_ (by rw [hm]; exact hset)
    rw [houtcome]
    exact VmSystem.observations_of_log [.triggered false, .stopped .bridgeIo]
      (List.append_assoc _ _ _)
  | finish howner =>
    have hm := hstopping _ howner
    have hchosen := hfail _ (by simp) howner
    rw [Caller.pending_of_stopping howner, hchosen, ← (hother (by simp) (by simp)).1] at hshown
    have houtcome : m.outcome false = .ok := by simp [MockVmControl.outcome, hm]
    refine shown_return hshown rfl ?_ (Bool.and_false _).symm
    rw [houtcome]
    exact VmSystem.observations_of_log [.stopped .ok] rfl
  | joinPanicked _ hpanicked => exact absurd hpanicked hcaller.thread.2.2
  | drop | dropStopped => exact absurd rfl hdrop
  | dropTrigger howner | dropSignal howner | dropCleanup howner | dropFields howner =>
    exact absurd howner (hcaller.owner _)
  | trigger howner | signal howner | take howner | takeNothing howner | join howner
  | cleanup howner =>
    obtain ⟨htodo, hfail'⟩ := hother (by simp) (by simp)
    apply hinv.shown_inside howner rfl htodo hfail'
    simp [VmSystem.observations, VmSystem.record, VmEvent.observation]
  | spawnBridge howner | spawnThread howner | spawnThreadFails howner =>
    obtain ⟨htodo, -⟩ := hother (by simp) (by simp)
    exact hinv.shown_outside (by simp [howner]) (by simp) htodo rfl rfl
  -- A thread that comes to its store has been triggered: a `stop` waits for it, or is over
  | storeStopped hleft =>
    obtain ⟨htodo, hfail'⟩ := hother (by simp) (by simp)
    refine hinv.shown_background rfl htodo hfail' rfl fun hout => ?_
    rcases hcaller.triggered (hcaller.left (hleft ▸ trivial)) with ⟨pc, -, howner⟩ | ⟨-, hrunning⟩
    · exact absurd howner (hout pc)
    · exact hrunning.symm
  | leave | panic | terminate | bridge | spawnConn | conn =>
    obtain ⟨htodo, hfail'⟩ := hother (by simp) (by simp)
    exact hinv.shown_background rfl htodo hfail' rfl fun _ => rfl

theorem step (hthread : ThreadInv c.vm) (hcaller : CallerInv c.vm) (hinv : Follows calls c)
    (h : CallerStep c a c') : Follows calls c' where
  fail := hinv.fail_of_step h
  shown := hinv.shown_of_step hthread hcaller h

theorem run {configs : List BridgeConfig} {as : List VmAction}
    (hrun : Run Caller.step (.start configs calls) as c) : Follows calls c :=
  (Run.invariant (I := fun c => ThreadInv c.vm ∧ CallerInv c.vm ∧ Follows calls c)
    (fun _ _ _ ⟨hthread, hcaller, hinv⟩ h =>
      have h := CallerStep.of_step h
      ⟨hthread.step h.vm, hcaller.step h, hinv.step hthread hcaller h⟩) hrun
    ⟨.launch configs, .launch configs, .start configs calls⟩).2.2

end Follows

/-! ## Every call returns -/

/-- Nothing keeps the calls from returning: the VM is not running, or the thread is in
    `start_enter` and the handle has its join handle. -/
def Ready (s : VmSystem) : Prop :=
  s.owner = .idle ∧
    (s.running = false ∨ (s.running = true ∧ s.hasThread = true ∧ s.thread = .entered))

/-- The launch goes through. -/
theorem ready_of_launching (configs : List BridgeConfig) (c : Caller)
    (howner : c.vm.owner = .launching configs) (hrunning : c.vm.running = true) :
    ∃ as c', Run Caller.step c as c' ∧ c'.todo = c.todo ∧ Ready c'.vm := by
  obtain ⟨todo, fail, ⟨owner, running, hasThread, thread, chan, bridges, conns, log⟩⟩ := c
  cases howner
  cases hrunning
  induction configs generalizing bridges with
  | nil =>
    exact ⟨[.spawnThread true], _, rfl, rfl, rfl, Or.inr ⟨rfl, rfl, rfl⟩⟩
  | cons config configs ih =>
    obtain ⟨as, c', hrun, htodo, hready⟩ :=
      ih (bridges ++ [BridgeTask.spawn config (Watch.channel false).2])
    exact ⟨.spawnBridge :: as, c', Run.cons_iff.mpr ⟨_, rfl, hrun⟩, htodo, hready⟩

/-- The next call returns, and nothing keeps the ones after it from returning. -/
theorem ready_of_call {call : VmCall} {todo : List VmCall} (c : Caller)
    (htodo : c.todo = call :: todo) (hready : Ready c.vm) :
    ∃ as c', Run Caller.step c as c' ∧ c'.todo = todo ∧ Ready c'.vm := by
  obtain ⟨calls, fail, ⟨owner, running, hasThread, thread, chan, bridges, conns, log⟩⟩ := c
  obtain ⟨howner, hrunning⟩ := hready
  cases htodo
  cases howner
  cases call with
  | isRunning => exact ⟨[.isRunning], _, rfl, rfl, rfl, hrunning⟩
  | stop fail' =>
    rcases hrunning with hstopped | ⟨hrunning, hhas, hthread⟩
    · cases hstopped
      exact ⟨[.stop], _, rfl, rfl, rfl, Or.inl rfl⟩
    · cases hrunning
      cases hhas
      cases hthread
      cases fail' with
      | true => exact ⟨[.stop, .trigger false], _, rfl, rfl, rfl, Or.inr ⟨rfl, rfl, rfl⟩⟩
      | false =>
        -- The thread leaves right after the trigger
        refine ⟨[.stop, .trigger true, .leave .failed, .storeStopped, .terminate, .signal, .take,
          .join, .cleanup, .finish], _, Run.cons_iff.mpr ⟨_, rfl, Run.cons_iff.mpr ⟨_, rfl,
          Run.cons_iff.mpr ⟨_, if_pos ?_, rfl⟩⟩⟩, rfl, rfl, Or.inl rfl⟩
        simp [VmSystem.record]

/-- Every sequence of calls can be answered. -/
theorem done_of_ready (calls : List VmCall) (c : Caller) (htodo : c.todo = calls)
    (hready : Ready c.vm) : ∃ as c', Run Caller.step c as c' ∧ c'.Done := by
  induction calls generalizing c with
  | nil => exact ⟨[], c, rfl, htodo, hready.1⟩
  | cons call calls ih =>
    obtain ⟨as, c', hrun, htodo', hready'⟩ := ready_of_call c htodo hready
    obtain ⟨bs, c'', hrun', hdone⟩ := ih c' htodo' hready'
    exact ⟨as ++ bs, c'', hrun.append hrun', hdone⟩

/-- For every sequence of calls and every choice of failures: the handle can answer all of them,
    and in every run what it has shown is what the mock shows first, and all of it once every
    call has returned. -/
theorem mock_refines_handle (configs : List BridgeConfig) (calls : List VmCall) :
    (∃ as c, Run Caller.step (.start configs calls) as c ∧ c.Done) ∧
    ∀ as c, Run Caller.step (.start configs calls) as c →
      c.vm.observations <+: MockVmControl.new.observations calls ∧
      (c.Done → c.vm.observations = MockVmControl.new.observations calls) := by
  constructor
  · obtain ⟨as, c, hrun, htodo, hready⟩ :=
      ready_of_launching configs (.start configs calls) rfl rfl
    obtain ⟨bs, c', hrun', hdone⟩ := done_of_ready calls c htodo hready
    exact ⟨as ++ bs, c', hrun.append hrun', hdone⟩
  · intro as c hrun
    obtain ⟨m, -, -, hshown⟩ := (Follows.run hrun).shown
    refine ⟨⟨_, hshown.symm⟩, fun ⟨htodo, hidle⟩ => ?_⟩
    rw [hshown, Caller.pending_of_not (by simp [hidle]), htodo]
    exact (List.append_nil _).symm

end Spec

end Tateru
