import Tateru.ForStd.Fair
import Tateru.Spec.Lifecycle
import Tateru.Spec.ShutdownSignal

/-!
# Calls on a handle return

`stop` waits for one thing, the end of the VM thread, and `drop` for nothing. In a fair run, in
which no task is passed over for ever, a `stop` returns once the VM thread has left the VM, and
every `drop` and every launch comes to its end.

## Key results

- `Step.stopping`, `Step.dropping`: what a step does to a call in progress
- `calls_return`: every call returns
-/

namespace Tateru.Spec

/-! ## Fairness -/

/-- The owner goes on with a call that it has started. -/
def GoesOn : VmAction → Prop
  | .spawnBridge | .spawnThread _ | .trigger _ | .signal | .take | .join | .cleanup | .finish
  | .dropFields => True
  | _ => False

/-- The VM thread goes on after it has left the VM. -/
def ThreadGoesOn : VmAction → Prop
  | .storeStopped | .terminate => True
  | _ => False

/-- The bridge task `i` goes on, other than in its `select!`. -/
def BridgeGoesOn (i : Nat) (a : VmAction) : Prop :=
  match bridgeAction? i a with
  | some (.bind _) | some .spawn | some .react => True
  | _ => False

/-- The connection `i` goes on, other than by copying. -/
def ConnGoesOn (i : Nat) (a : VmAction) : Prop :=
  match connAction? i a with
  | some (.connect _) | some .changed | some .shutdown => True
  | _ => False

/-- Nobody is passed over for ever. The `select!` of a bridge polls its branches in a random order,
    so a branch that is ready again and again is taken. When the VM is left is not a matter of
    fairness. -/
structure FairRun {configs : List BridgeConfig} (ρ : InfRun VmSystem.step (.launch configs)) :
    Prop where
  owner : ρ.WeaklyFair GoesOn
  thread : ρ.WeaklyFair ThreadGoesOn
  bridge : ∀ i, ρ.WeaklyFair (BridgeGoesOn i)
  changed : ∀ i, ρ.StronglyFair (· = .bridge i .changed)
  conn : ∀ i, ρ.WeaklyFair (ConnGoesOn i)

/-- After its end, only the peers of a connection take steps. -/
theorem peer_of_ended {chan : Watch Bool} {c c' : Connection} {b : ConnAction}
    (hended : c.phase = .ended) (h : c.step chan b = some c') :
    (∃ d n, b = .send d n) ∨ ∃ d, b = .close d := by
  cases ConnStep.of_step h with
  | send => exact Or.inl ⟨_, _, rfl⟩
  | close => exact Or.inr ⟨_, rfl⟩
  | connect hphase | connectFails hphase | read hphase | write hphase | finish hphase | fail hphase
  | shutdown hphase | changed hphase => cases hended.symm.trans hphase

/-- A run is fair if everybody has come to their end. -/
theorem fairRun_ofRun {configs : List BridgeConfig} {as : List VmAction} {s : VmSystem}
    (hrun : Run VmSystem.step (.launch configs) as s)
    (howner : s.owner = .dropped) (hthread : IsTerminated s.thread) (hnone : s.receivers = 0) :
    FairRun (.ofRun hrun) := by
  obtain ⟨hbridges, hconns⟩ := receivers_eq_zero_iff.mp hnone
  have hbridge : ∀ i a b, bridgeAction? i a = some b → s.step a = none := by
    intro i a b hb
    cases h : s.step a with
    | none => rfl
    | some s' =>
      cases Step.of_step h with
      | bridge ht _ hstep | spawnConn ht hstep =>
        exact absurd (hbridges _ (List.mem_of_getElem? ht)) (BridgeTask.not_returned_of_step hstep)
      | _ => cases hb
  refine ⟨InfRun.weaklyFair_ofRun hrun ?owner, InfRun.weaklyFair_ofRun hrun ?thread,
    fun i => InfRun.weaklyFair_ofRun hrun ?bridge, fun i => InfRun.stronglyFair_ofRun hrun ?changed,
    fun i => InfRun.weaklyFair_ofRun hrun ?conn⟩
  case owner =>
    rintro ⟨a, ha, hsome⟩
    obtain ⟨s', h⟩ := Option.isSome_iff_exists.mp hsome
    cases Step.of_step h with
    | leave | panic | storeStopped | terminate | isRunning | stop | stopNotRunning | drop
    | dropStopped | bridge | spawnConn | conn => exact ha
    | spawnBridge hnot | spawnThread hnot | spawnThreadFails hnot | trigger hnot | triggerFails hnot
    | dropTrigger hnot | signal hnot | dropSignal hnot | take hnot | takeNothing hnot | join hnot
    | joinPanicked hnot | cleanup hnot | dropCleanup hnot | finish hnot | dropFields hnot =>
      cases howner.symm.trans hnot
  case thread =>
    rintro ⟨a, ha, hsome⟩
    obtain ⟨s', h⟩ := Option.isSome_iff_exists.mp hsome
    cases Step.of_step h with
    | storeStopped hnot | terminate hnot =>
      rw [hnot] at hthread
      exact hthread
    | _ => exact ha
  case bridge =>
    rintro ⟨a, ha, hsome⟩
    cases hb : bridgeAction? i a with
    | none => simp [BridgeGoesOn, hb] at ha
    | some b => simp [hbridge i a b hb] at hsome
  case changed =>
    rintro ⟨a, rfl, hsome⟩
    have hb : bridgeAction? i (.bridge i .changed) = some .changed := if_pos rfl
    simp [hbridge i _ _ hb] at hsome
  case conn =>
    rintro ⟨a, ha, hsome⟩
    obtain ⟨s', h⟩ := Option.isSome_iff_exists.mp hsome
    cases Step.of_step h with
    | conn hc hstep =>
      rcases peer_of_ended (hconns _ (List.mem_of_getElem? hc)) hstep with ⟨d, n, rfl⟩ | ⟨d, rfl⟩
      all_goals
        unfold ConnGoesOn connAction? at ha
        split at ha <;> simp_all
    | _ => exact ha

/-! ## Calls in progress -/

/-- The number of actions that are left of a `stop`. -/
def stopLeft : StopPc → Nat
  | .trigger => 6
  | .signal => 5
  | .take => 4
  | .join => 3
  | .cleanup => 2
  | .store => 1

/-- The number of actions that are left of a `drop`. -/
def dropLeft : DropPc → Nat
  | .trigger => 4
  | .signal => 3
  | .cleanup => 2
  | .fields => 1

/-- The number of actions that are left of the call in progress. -/
def callLeft : Owner → Nat
  | .launching todo => todo.length
  | .stopping pc => stopLeft pc
  | .dropping pc => dropLeft pc
  | _ => 0

/-- The action takes the call in progress on, or is not of the owner. -/
def Advances (a : VmAction) (owner owner' : Owner) : Prop :=
  callLeft owner' < callLeft owner ∨ (¬ GoesOn a ∧ owner' = owner)

variable {s s' : VmSystem} {a : VmAction}

/-- A step returns from a `stop`, or goes on with it, or is not of the owner. -/
theorem Step.stopping (h : Step s a s') {pc : StopPc} (howner : s.owner = .stopping pc) :
    s'.owner = .idle ∨ (∃ pc', s'.owner = .stopping pc') ∧ Advances a s.owner s'.owner := by
  cases h with
  | trigger hat | signal hat | take hat | takeNothing hat | join hat | cleanup hat =>
    rw [hat]
    exact Or.inr ⟨⟨_, rfl⟩, Or.inl (by simp [callLeft, stopLeft, VmSystem.send])⟩
  | triggerFails | joinPanicked | finish => exact Or.inl rfl
  | leave | panic | storeStopped | terminate | bridge | spawnConn | conn =>
    exact Or.inr ⟨⟨pc, howner⟩, Or.inr ⟨id, rfl⟩⟩
  -- The owner does nothing else meanwhile
  | spawnBridge hnot | spawnThread hnot | spawnThreadFails hnot | isRunning hnot | stop hnot
  | stopNotRunning hnot | dropTrigger hnot | dropSignal hnot | dropCleanup hnot | drop hnot
  | dropStopped hnot | dropFields hnot => cases howner.symm.trans hnot

/-- A step ends a `drop`, or goes on with it, or is not of the owner. -/
theorem Step.dropping (h : Step s a s') {pc : DropPc} (howner : s.owner = .dropping pc) :
    s'.owner = .dropped ∨ (∃ pc', s'.owner = .dropping pc') ∧ Advances a s.owner s'.owner := by
  cases h with
  | dropTrigger hat | dropSignal hat | dropCleanup hat =>
    rw [hat]
    exact Or.inr ⟨⟨_, rfl⟩, Or.inl (by simp [callLeft, dropLeft, VmSystem.send])⟩
  | dropFields => exact Or.inl rfl
  | leave | panic | storeStopped | terminate | bridge | spawnConn | conn =>
    exact Or.inr ⟨⟨pc, howner⟩, Or.inr ⟨id, rfl⟩⟩
  | spawnBridge hnot | spawnThread hnot | spawnThreadFails hnot | isRunning hnot | stop hnot
  | stopNotRunning hnot | trigger hnot | triggerFails hnot | signal hnot | take hnot
  | takeNothing hnot | join hnot | joinPanicked hnot | cleanup hnot | finish hnot | drop hnot
  | dropStopped hnot => cases howner.symm.trans hnot

/-- A step ends a launch, or spawns the next bridge, or is not of the owner. -/
theorem Step.launches (h : Step s a s') {todo : List BridgeConfig}
    (howner : s.owner = .launching todo) :
    (s'.owner = .idle ∨ s'.owner = .failed) ∨
      (∃ todo', s'.owner = .launching todo') ∧ Advances a s.owner s'.owner := by
  cases h with
  | spawnBridge hat =>
    rw [hat]
    exact Or.inr ⟨⟨_, rfl⟩, Or.inl (Nat.lt_succ_self _)⟩
  | spawnThread => exact Or.inl (Or.inl rfl)
  | spawnThreadFails => exact Or.inl (Or.inr rfl)
  | leave | panic | storeStopped | terminate | bridge | spawnConn | conn =>
    exact Or.inr ⟨⟨todo, howner⟩, Or.inr ⟨id, rfl⟩⟩
  | isRunning hnot | stop hnot | stopNotRunning hnot | trigger hnot | triggerFails hnot
  | dropTrigger hnot | signal hnot | dropSignal hnot | take hnot | takeNothing hnot | join hnot
  | joinPanicked hnot | cleanup hnot | dropCleanup hnot | finish hnot | drop hnot
  | dropStopped hnot | dropFields hnot => cases howner.symm.trans hnot

/-- The next action of a `stop` is possible, once the VM thread is at its end. -/
theorem enabled_of_stopping {pc : StopPc} (howner : s.owner = .stopping pc)
    (hthread : IsTerminated s.thread) : Enabled VmSystem.step GoesOn s := by
  cases pc with
  | trigger => exact ⟨.trigger true, trivial, by simp [VmSystem.step, howner]⟩
  | signal => exact ⟨.signal, trivial, by simp [VmSystem.step, howner]⟩
  | take => exact ⟨.take, trivial, by cases h : s.hasThread <;> simp [VmSystem.step, howner, h]⟩
  | join =>
    refine ⟨.join, trivial, ?_⟩
    cases h : s.thread with
    | terminated how => cases how <;> simp [VmSystem.step, howner, h]
    | _ =>
      rw [h] at hthread
      exact hthread.elim
  | cleanup => exact ⟨.cleanup, trivial, by simp [VmSystem.step, howner]⟩
  | store => exact ⟨.finish, trivial, by simp [VmSystem.step, howner]⟩

/-- The next action of a `drop` is always possible. -/
theorem enabled_of_dropping {pc : DropPc} (howner : s.owner = .dropping pc) :
    Enabled VmSystem.step GoesOn s := by
  cases pc with
  | trigger => exact ⟨.trigger true, trivial, by simp [VmSystem.step, howner]⟩
  | signal => exact ⟨.signal, trivial, by simp [VmSystem.step, howner]⟩
  | cleanup => exact ⟨.cleanup, trivial, by simp [VmSystem.step, howner]⟩
  | fields => exact ⟨.dropFields, trivial, by simp [VmSystem.step, howner]⟩

/-- So is the next action of a launch. -/
theorem enabled_of_launching {todo : List BridgeConfig} (howner : s.owner = .launching todo) :
    Enabled VmSystem.step GoesOn s := by
  cases todo with
  | nil => exact ⟨.spawnThread true, trivial, by simp [VmSystem.step, howner]⟩
  | cons config todo => exact ⟨.spawnBridge, trivial, by simp [VmSystem.step, howner]⟩

/-! ## The VM thread -/

/-- The number of steps that are left of the VM thread when it is out of the VM. -/
def threadLeft : ThreadPhase → Nat
  | .left _ => 2
  | .stored _ => 1
  | _ => 0

/-- A step brings a thread that is out of the VM to its end, or takes it on, or is not its own. -/
theorem ThreadInv.threadLeft_of_step (hinv : ThreadInv s) (h : Step s a s')
    (hleft : HasLeft s.thread) :
    IsTerminated s'.thread ∨ threadLeft s'.thread < threadLeft s.thread ∨
      (¬ ThreadGoesOn a ∧ s'.thread = s.thread) := by
  cases h with
  | spawnThread howner =>
    rw [(hinv.launching _ howner).1] at hleft
    exact hleft.elim
  | leave hthread | panic hthread =>
    rw [hthread] at hleft
    exact hleft.elim
  | storeStopped hthread =>
    rw [hthread]
    exact Or.inr (Or.inl (Nat.lt_succ_self 1))
  | terminate => exact Or.inl trivial
  | _ => exact Or.inr (Or.inr ⟨id, rfl⟩)

/-- The next step of a thread that is out of the VM is possible until it is at its end. -/
theorem enabled_of_hasLeft (hleft : HasLeft s.thread) :
    IsTerminated s.thread ∨ Enabled VmSystem.step ThreadGoesOn s := by
  cases h : s.thread with
  | absent | entered =>
    rw [h] at hleft
    exact hleft.elim
  | left how => exact Or.inr ⟨.storeStopped, trivial, by simp [VmSystem.step, h]⟩
  | stored how => exact Or.inr ⟨.terminate, trivial, by simp [VmSystem.step, h]⟩
  | terminated how => exact Or.inl trivial

/-! ## Calls return -/

section

variable {configs : List BridgeConfig} {ρ : InfRun VmSystem.step (.launch configs)}

theorem threadInv_of_infRun (ρ : InfRun VmSystem.step (.launch configs)) (k : Nat) :
    ThreadInv (ρ.state k) := by
  obtain ⟨as, has⟩ := ρ.exists_run_start k
  exact .run has

/-- A thread that is out of the VM comes to its end. -/
theorem thread_ends (hfair : FairRun ρ) :
    ρ.LeadsTo (fun s => ThreadInv s ∧ HasLeft s.thread) fun s => IsTerminated s.thread := by
  apply InfRun.leadsTo_of_rank (fun s => threadLeft s.thread) hfair.thread
  · exact fun s hs => enabled_of_hasLeft hs.2
  · intro s a s' ⟨hinv, hleft⟩ h
    have hstep := Step.of_step h
    rcases hinv.threadLeft_of_step hstep hleft with hend | hlt | ⟨-, hsame⟩
    · exact Or.inl hend
    · exact Or.inr ⟨⟨hinv.step hstep, hinv.hasLeft_of_step hstep hleft⟩, Nat.le_of_lt hlt⟩
    · exact Or.inr ⟨⟨hinv.step hstep, hsame ▸ hleft⟩, Nat.le_of_eq (by rw [hsame])⟩
  · intro s a s' ⟨hinv, hleft⟩ hparty h
    rcases hinv.threadLeft_of_step (.of_step h) hleft with hend | hlt | ⟨hnot, -⟩
    · exact Or.inl hend
    · exact Or.inr hlt
    · exact absurd hparty hnot

/-- A call that the owner can always go on with comes to its end. -/
theorem call_ends (hfair : FairRun ρ) {P Q : VmSystem → Prop}
    (henabled : ∀ s, P s → Enabled VmSystem.step GoesOn s)
    (hstep : ∀ s a s', P s → Step s a s' → Q s' ∨ P s' ∧ Advances a s.owner s'.owner) :
    ρ.LeadsTo P Q := by
  apply InfRun.leadsTo_of_rank (fun s => callLeft s.owner) hfair.owner
  · exact fun s hs => Or.inr (henabled s hs)
  · intro s a s' hs h
    rcases hstep s a s' hs (.of_step h) with hend | ⟨hs', hlt | ⟨-, hsame⟩⟩
    · exact Or.inl hend
    · exact Or.inr ⟨hs', Nat.le_of_lt hlt⟩
    · exact Or.inr ⟨hs', Nat.le_of_eq (by rw [hsame])⟩
  · intro s a s' hs hparty h
    rcases hstep s a s' hs (.of_step h) with hend | ⟨-, hlt | ⟨hnot, -⟩⟩
    · exact Or.inl hend
    · exact Or.inr hlt
    · exact absurd hparty hnot

/-- A `stop` returns when the VM thread is at its end. -/
theorem stop_returns_of_terminated (hfair : FairRun ρ) :
    ρ.LeadsTo (fun s => (ThreadInv s ∧ IsTerminated s.thread) ∧ ∃ pc, s.owner = .stopping pc)
      fun s => s.owner = .idle := by
  apply call_ends hfair
  · rintro s ⟨⟨-, hthread⟩, pc, howner⟩
    exact enabled_of_stopping howner hthread
  · rintro s a s' ⟨⟨hinv, hthread⟩, pc, howner⟩ h
    exact (h.stopping howner).imp_right fun ⟨howner', hadvances⟩ =>
      ⟨⟨⟨hinv.step h, hinv.terminated_of_step h hthread⟩, howner'⟩, hadvances⟩

/-- A `drop` comes to its end. -/
theorem drop_ends (hfair : FairRun ρ) :
    ρ.LeadsTo (fun s => ∃ pc, s.owner = .dropping pc) fun s => s.owner = .dropped := by
  apply call_ends hfair
  · exact fun s ⟨pc, howner⟩ => enabled_of_dropping howner
  · exact fun s a s' ⟨pc, howner⟩ h => h.dropping howner

/-- A launch comes to its end. -/
theorem launch_ends (hfair : FairRun ρ) :
    ρ.LeadsTo (fun s => ∃ todo, s.owner = .launching todo)
      fun s => s.owner = .idle ∨ s.owner = .failed := by
  apply call_ends hfair
  · exact fun s ⟨todo, howner⟩ => enabled_of_launching howner
  · exact fun s a s' ⟨todo, howner⟩ h => h.launches howner

/-- **Calls return.** In a fair run every launch and every `drop` comes to its end, whatever the VM
    does, and once the VM thread leaves the VM every `stop` returns, whether it was called before
    or after that. -/
theorem calls_return (hfair : FairRun ρ) :
    (ρ.LeadsTo (fun s => ∃ todo, s.owner = .launching todo)
      fun s => s.owner = .idle ∨ s.owner = .failed) ∧
    (ρ.LeadsTo (fun s => ∃ pc, s.owner = .dropping pc) fun s => s.owner = .dropped) ∧
    ∀ k, HasLeft (ρ.state k).thread →
      ρ.LeadsTo (fun s => ∃ pc, s.owner = .stopping pc) fun s => s.owner = .idle := by
  refine ⟨launch_ends hfair, drop_ends hfair, ?_⟩
  intro k hleft l hstopping
  obtain ⟨m, hkm, hthread⟩ := thread_ends hfair k ⟨threadInv_of_infRun ρ k, hleft⟩
  -- At some time the thread is at its end, and `stop` is still there or has returned before
  have hterminated := InfRun.stable (ρ := ρ) (P := fun s => ThreadInv s ∧ IsTerminated s.thread)
    (fun s a s' hs h => ⟨hs.1.step (.of_step h), hs.1.terminated_of_step (.of_step h) hs.2⟩)
    (Nat.le_max_left m l) ⟨threadInv_of_infRun ρ m, hthread⟩
  rcases InfRun.until_goal (ρ := ρ) (Q := fun s => s.owner = .idle)
      (fun s a s' hs h => ((Step.of_step h).stopping hs.choose_spec).symm.imp_left And.left)
      (Nat.le_max_right m l) hstopping with hstill | ⟨n, hln, -, hidle⟩
  · obtain ⟨n, hn, hidle⟩ := stop_returns_of_terminated hfair _ ⟨hterminated, hstill⟩
    exact ⟨n, Nat.le_trans (Nat.le_max_right m l) hn, hidle⟩
  · exact ⟨n, hln, hidle⟩

end

/-- A VM that leaves by itself while it is being stopped, and is dropped after that. -/
theorem calls_return_left :
    let actions : List VmAction := [.spawnThread true, .stop, .trigger true, .signal, .take,
      .leave .returned, .storeStopped, .terminate, .join, .cleanup, .finish, .drop, .cleanup,
      .dropFields]
    ∃ s, ∃ hrun : Run VmSystem.step (.launch []) actions s,
      ((InfRun.ofRun hrun).state 2).owner = .stopping .trigger ∧
      HasLeft ((InfRun.ofRun hrun).state 6).thread ∧
      ∃ l, 2 ≤ l ∧ ((InfRun.ofRun hrun).state l).owner = .idle := by
  intro actions
  have hrun := Run.get VmSystem.step (.launch []) actions (by decide +kernel)
  have hstopping : ((InfRun.ofRun hrun).state 2).owner = .stopping .trigger := rfl
  have hleft : HasLeft ((InfRun.ofRun hrun).state 6).thread := trivial
  have hfair := fairRun_ofRun hrun (by decide +kernel) trivial (by decide +kernel)
  exact ⟨_, hrun, hstopping, hleft, (calls_return hfair).2.2 6 hleft 2 ⟨_, hstopping⟩⟩

end Tateru.Spec
