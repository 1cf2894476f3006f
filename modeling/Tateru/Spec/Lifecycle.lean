import Tateru.ForStd.List
import Tateru.Spec.VmStep

/-!
# The lifecycle of a handle

The `running` flag is cleared by the VM thread and by `stop`; the join handle is taken by the
first `stop` that gets as far. Whatever order they come in, a cleared flag means that the VM
has been left, and a `stop` that has succeeded leaves nothing for a later one.

## Key results

- `ThreadInv.run`: how the flag, the join handle and the VM thread are tied together
- `CallsInv.run`: what a successful `stop` has done, and what happens after it
- `lifecycle_safe`: the two together, in every state of every run
- `taken_before_joined`: the join handle is gone before the VM thread has terminated
-/

namespace Tateru.Spec

/-- The VM thread has come out of `start_enter`. -/
def HasLeft : ThreadPhase → Prop
  | .absent | .entered => False
  | .left _ | .stored _ | .terminated _ => True

/-- The VM thread is at its end. -/
def IsTerminated : ThreadPhase → Prop
  | .terminated _ => True
  | _ => False

theorem IsTerminated.hasLeft {t : ThreadPhase} (h : IsTerminated t) : HasLeft t := by
  cases t with
  | terminated => exact trivial
  | _ => exact h.elim

/-- A launch has returned a handle. -/
def IsLaunched : Owner → Prop
  | .launching _ | .failed => False
  | _ => True

variable {s s' : VmSystem} {a : VmAction}

/-- Nothing sets the flag again. -/
theorem Step.running (h : Step s a s') (hrunning : s.running = false) : s'.running = false := by
  cases h with
  | storeStopped | finish => rfl
  | _ => exact hrunning

/-- A launch that is over stays so. -/
theorem Step.launched (h : Step s a s') (howner : IsLaunched s.owner) : IsLaunched s'.owner := by
  cases h with
  | spawnBridge hnot | spawnThreadFails hnot =>
    rw [hnot] at howner
    exact howner.elim
  | leave | panic | storeStopped | terminate | isRunning | bridge | spawnConn | conn => exact howner
  | _ => exact trivial

/-! ## The flag, the join handle and the thread -/

/-- Before the launch is over there is no thread, and the flag is set. A cleared flag means that
    the thread has left the VM; a taken join handle, that it is at its end or `stop` still
    waits for it; and `stop` cleans up only after the end of the thread. -/
structure ThreadInv (s : VmSystem) : Prop where
  launching : ∀ todo, s.owner = .launching todo → s.thread = .absent ∧ s.running = true
  running : s.running = false → HasLeft s.thread
  taken : IsLaunched s.owner → s.hasThread = false →
    IsTerminated s.thread ∨ s.owner = .stopping .join
  joined : s.owner = .stopping .cleanup ∨ s.owner = .stopping .store → IsTerminated s.thread

namespace ThreadInv

theorem launch (configs : List BridgeConfig) : ThreadInv (.launch configs) where
  launching _ _ := ⟨rfl, rfl⟩
  running h := nomatch h
  taken h := h.elim
  joined h := h.elim nofun nofun

/-- The end of the thread is its end. -/
theorem terminated_of_step (hinv : ThreadInv s) (h : Step s a s')
    (hterminated : IsTerminated s.thread) : IsTerminated s'.thread := by
  cases h with
  | spawnThread howner =>
    rw [(hinv.launching _ howner).1] at hterminated
    exact hterminated.elim
  | leave hthread | storeStopped hthread =>
    rw [hthread] at hterminated
    exact hterminated.elim
  | panic | terminate => exact trivial
  | _ => exact hterminated

/-- Having left is not undone. -/
theorem hasLeft_of_step (hinv : ThreadInv s) (h : Step s a s') (hleft : HasLeft s.thread) :
    HasLeft s'.thread := by
  cases h with
  | spawnThread howner =>
    rw [(hinv.launching _ howner).1] at hleft
    exact hleft.elim
  | leave | panic | storeStopped | terminate => exact trivial
  | _ => exact hleft

theorem step (hinv : ThreadInv s) (h : Step s a s') : ThreadInv s' := by
  have hleft := hinv.hasLeft_of_step h
  have hterminated := hinv.terminated_of_step h
  refine ⟨?launching, ?running, ?taken, ?joined⟩
  case launching =>
    intro todo howner'
    cases h with
    | spawnBridge howner => exact hinv.launching _ howner
    -- There is no thread yet that could take a step
    | leave hthread | panic hthread | storeStopped hthread | terminate hthread =>
      exact nomatch (hinv.launching _ howner').1.symm.trans hthread
    | isRunning | bridge | spawnConn | conn => exact hinv.launching _ howner'
    | _ => exact nomatch howner'
  case running =>
    intro hrunning
    cases h with
    | storeStopped => exact trivial
    -- `stop` has joined the thread before it stores the flag
    | finish howner => exact (hinv.joined (Or.inr howner)).hasLeft
    | _ => exact hleft (hinv.running hrunning)
  case taken =>
    intro hlaunched hhas
    cases h with
    | spawnBridge | spawnThreadFails => exact hlaunched.elim
    | spawnThread => exact nomatch hhas
    | take => exact Or.inr rfl
    -- The owner is not in `join`, so the thread was at its end already
    | takeNothing howner hhas | stop howner | stopNotRunning howner | trigger howner
    | triggerFails howner | dropTrigger howner | signal howner | dropSignal howner
    | cleanup howner | dropCleanup howner | finish howner | drop howner | dropStopped howner
    | dropFields howner =>
      exact Or.inl ((hinv.taken (howner ▸ trivial) hhas).resolve_right (howner ▸ nofun))
    | join _ hthread | joinPanicked _ hthread => exact Or.inl (hthread ▸ trivial)
    | _ => exact (hinv.taken hlaunched hhas).imp_left hterminated
  case joined =>
    intro howner'
    cases h with
    -- Without a join handle `stop` goes on at once, but then the thread is at its end
    | takeNothing howner hhas =>
      exact (hinv.taken (howner ▸ trivial) hhas).resolve_right (howner ▸ nofun)
    | join _ hthread => exact hthread ▸ trivial
    | cleanup howner => exact hinv.joined (Or.inl howner)
    | leave | panic | storeStopped | terminate | isRunning | bridge | spawnConn | conn =>
      exact hterminated (hinv.joined howner')
    | _ => exact howner'.elim nofun nofun

theorem run {configs : List BridgeConfig} {as : List VmAction}
    (hrun : Run VmSystem.step (.launch configs) as s) : ThreadInv s :=
  Run.invariant (fun _ _ _ hinv h => hinv.step (.of_step h)) hrun (.launch configs)

end ThreadInv

/-! ## What a successful `stop` leaves behind -/

/-- What the owner can still see after a successful `stop`: that the VM is not running, and the
    cleanup of `drop`. -/
def IsQuiet (ev : VmEvent) : Prop :=
  ev = .isRunning false ∨ ev = .stopped .notRunning ∨ ev = .removedWorkdir

/-- A successful `stop` was preceded by the signal, and is followed by quiet events. -/
def QuietAfterOk (log : List VmEvent) : Prop :=
  ∀ pre post, log = pre ++ .stopped .ok :: post → .sent ∈ pre ∧ ∀ ev ∈ post, IsQuiet ev

/-- The log grows by one event: a success comes after the signal, and what comes after a
    success is quiet. -/
theorem QuietAfterOk.snoc {log : List VmEvent} {ev : VmEvent} (h : QuietAfterOk log)
    (hok : ev = .stopped .ok → .sent ∈ log) (hquiet : .stopped .ok ∈ log → IsQuiet ev) :
    QuietAfterOk (log ++ [ev]) := by
  intro pre post hsplit
  -- The success in question is the new event, or is followed by it
  rcases List.snoc_eq_append_cons_iff.mp hsplit with ⟨rfl, rfl, rfl⟩ | ⟨post, rfl, rfl⟩
  · exact ⟨hok rfl, by simp⟩
  · obtain ⟨hsent, hpost⟩ := h pre post rfl
    refine ⟨hsent, fun ev' hev => ?_⟩
    rcases List.mem_append.mp hev with hev | hev
    · exact hpost ev' hev
    · exact List.mem_singleton.mp hev ▸ hquiet (by simp)

/-- What the owner still can do after a successful `stop`. -/
def IsSettled : Owner → Prop
  | .idle | .dropping .cleanup | .dropping .fields | .dropped => True
  | _ => False

/-- A `stop` that is past the signal has sent it; after a success the flag is cleared, the
    thread at its end and the owner settled; and the log says the same. -/
structure CallsInv (s : VmSystem) : Prop where
  sent : s.owner = .stopping .take ∨ s.owner = .stopping .join ∨ s.owner = .stopping .cleanup ∨
    s.owner = .stopping .store → .sent ∈ s.log
  settled : .stopped .ok ∈ s.log →
    s.running = false ∧ IsTerminated s.thread ∧ IsSettled s.owner
  quiet : QuietAfterOk s.log

namespace CallsInv

theorem launch (configs : List BridgeConfig) : CallsInv (.launch configs) where
  sent h := by simp [VmSystem.launch] at h
  settled h := nomatch h
  quiet pre post h := by simp [VmSystem.launch] at h

/-- After a success, no step leads the owner back into `stop` or to a signal. -/
theorem settled_of_step (hthread : ThreadInv s) (hinv : CallsInv s) (h : Step s a s')
    (hok : .stopped .ok ∈ s.log) :
    s'.running = false ∧ IsTerminated s'.thread ∧ IsSettled s'.owner := by
  obtain ⟨hrunning, hterminated, hsettled⟩ := hinv.settled hok
  refine ⟨h.running hrunning, hthread.terminated_of_step h hterminated, ?_⟩
  cases h with
  | spawnBridge howner | spawnThread howner | spawnThreadFails howner | trigger howner
  | triggerFails howner | dropTrigger howner | signal howner | dropSignal howner | take howner
  | takeNothing howner | join howner | joinPanicked howner | cleanup howner | finish howner =>
    rw [howner] at hsettled
    exact hsettled.elim
  -- The flag is cleared, so neither gets past its check
  | stop _ hset | drop _ hset => exact nomatch hset.symm.trans hrunning
  | stopNotRunning | dropStopped | dropCleanup | dropFields => exact trivial
  | _ => exact hsettled

theorem step (hthread : ThreadInv s) (hinv : CallsInv s) (h : Step s a s') : CallsInv s' := by
  have hsettled := hinv.settled_of_step hthread h
  refine ⟨?sent, ?settled, ?quiet⟩
  case sent =>
    intro howner'
    cases h with
    | signal => exact List.mem_append_right _ (List.mem_singleton_self _)
    | take howner | takeNothing howner => exact hinv.sent (Or.inl howner)
    | join howner => exact List.mem_append_left _ (hinv.sent (Or.inr (Or.inl howner)))
    | cleanup howner =>
      exact List.mem_append_left _ (hinv.sent (Or.inr (Or.inr (Or.inl howner))))
    | leave | panic | storeStopped | terminate | bridge | spawnConn | conn =>
      exact hinv.sent howner'
    | isRunning => exact List.mem_append_left _ (hinv.sent howner')
    | _ => simp [VmSystem.returnStop, VmSystem.record, VmSystem.send] at howner'
  case settled =>
    intro hok
    by_cases hold : .stopped .ok ∈ s.log
    · exact hsettled hold
    · cases h with
      -- The only step that logs a success
      | finish howner => exact ⟨rfl, hthread.joined (Or.inr howner), trivial⟩
      | _ =>
        simp [VmSystem.returnStop, VmSystem.record, VmSystem.send] at hok
        exact absurd hok hold
  case quiet =>
    -- What is logged after a success can only be logged by a settled owner
    have hnone : ∀ {p : Prop}, ¬ IsSettled s.owner → .stopped .ok ∈ s.log → p :=
      fun hnot hok => absurd (hinv.settled hok).2.2 hnot
    have htwo : ∀ {ev ev' : VmEvent}, ev ≠ .stopped .ok → ev' ≠ .stopped .ok →
        ¬ IsSettled s.owner → QuietAfterOk (s.log ++ [ev] ++ [ev']) := by
      intro ev ev' hev hev' hnot
      apply (hinv.quiet.snoc (absurd · hev) (hnone hnot)).snoc (absurd · hev')
      intro hok
      exact hnone hnot ((List.mem_append.mp hok).resolve_right (by simpa using hev.symm))
    cases h with
    | isRunning howner =>
      refine hinv.quiet.snoc (by simp) fun hok => Or.inl ?_
      rw [(hinv.settled hok).1]
    | stopNotRunning => exact hinv.quiet.snoc (by simp) fun _ => Or.inr (Or.inl rfl)
    | trigger howner | dropTrigger howner | signal howner | dropSignal howner | join howner
    | cleanup howner =>
      exact hinv.quiet.snoc (by simp) (hnone (howner ▸ id))
    | dropCleanup => exact hinv.quiet.snoc (by simp) fun _ => Or.inr (Or.inr rfl)
    -- These two log the outcome and the return
    | triggerFails howner => exact htwo (by simp) (by simp) (howner ▸ id)
    | joinPanicked howner => exact htwo (by simp) (by simp) (howner ▸ id)
    | finish howner =>
      exact hinv.quiet.snoc (fun _ => hinv.sent (Or.inr (Or.inr (Or.inr howner))))
        (hnone (howner ▸ id))
    | _ => exact hinv.quiet

theorem run {configs : List BridgeConfig} {as : List VmAction}
    (hrun : Run VmSystem.step (.launch configs) as s) : CallsInv s :=
  (Run.invariant (I := fun s => ThreadInv s ∧ CallsInv s)
    (fun _ _ _ hinv h => ⟨hinv.1.step (.of_step h), hinv.2.step hinv.1 (.of_step h)⟩) hrun
    ⟨.launch configs, .launch configs⟩).2

end CallsInv

/-! ## The lifecycle -/

/-- In every state of every run: the flag is never set again; when it is cleared the thread has
    left the VM; when the join handle is gone the thread is at its end, unless the `stop` that
    took it still waits; and when a `stop` has succeeded the thread is at its end, the flag is
    cleared, the signal had been sent, everything since is quiet, and another `stop` only
    returns that the VM is not running. -/
theorem lifecycle_safe {configs : List BridgeConfig} {as : List VmAction} {s : VmSystem}
    (hrun : Run VmSystem.step (.launch configs) as s) :
    (∀ a s', s.step a = some s' → s.running = false → s'.running = false) ∧
    (s.running = false → HasLeft s.thread) ∧
    (IsLaunched s.owner → s.hasThread = false →
      IsTerminated s.thread ∨ s.owner = .stopping .join) ∧
    ∀ pre post, s.log = pre ++ .stopped .ok :: post →
      IsTerminated s.thread ∧ s.running = false ∧ .sent ∈ pre ∧ (∀ ev ∈ post, IsQuiet ev) ∧
      ∀ s', s.step .stop = some s' → s' = s.returnStop .notRunning := by
  have hthread := ThreadInv.run hrun
  have hcalls := CallsInv.run hrun
  refine ⟨fun _ _ h => (Step.of_step h).running, hthread.running, hthread.taken, ?_⟩
  intro pre post hsplit
  obtain ⟨hrunning, hterminated, -⟩ := hcalls.settled (by simp [hsplit])
  obtain ⟨hsent, hpost⟩ := hcalls.quiet pre post hsplit
  refine ⟨hterminated, hrunning, hsent, hpost, fun s' hstop => ?_⟩
  cases Step.of_step hstop with
  | stop _ hset => exact nomatch hset.symm.trans hrunning
  | stopNotRunning => rfl

/-- A handle that is stopped twice. -/
theorem lifecycle_safe_twice :
    let actions : List VmAction := [.spawnThread true, .isRunning, .stop, .trigger true, .signal,
      .take, .leave .failed, .storeStopped, .terminate, .join, .cleanup, .finish, .isRunning, .stop]
    ∃ s, Run VmSystem.step (.launch []) actions s ∧ IsTerminated s.thread ∧
      ∀ ev ∈ [VmEvent.isRunning false, .stopped .notRunning], IsQuiet ev := by
  intro actions
  have hrun := Run.get VmSystem.step (.launch []) actions rfl
  have h := (lifecycle_safe hrun).2.2.2
    [.isRunning true, .triggered true, .sent, .joined, .removedWorkdir]
    [.isRunning false, .stopped .notRunning] rfl
  exact ⟨_, hrun, h.1, h.2.2.2.1⟩

/-- While `stop` waits for the VM thread, the join handle is gone and the thread is still in the
    VM. -/
theorem taken_before_joined :
    ∃ s, Run VmSystem.step (.launch [])
        [.spawnThread true, .stop, .trigger true, .signal, .take] s ∧
      s.hasThread = false ∧ s.thread = .entered ∧ ¬ IsTerminated s.thread :=
  ⟨_, rfl, rfl, rfl, id⟩

end Tateru.Spec
