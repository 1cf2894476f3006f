import Tateru.Spec.JoinedStops
import Tateru.Spec.TasksEnd

/-!
# A stop ends everything

A `stop` that has triggered the shutdown only has to wait for the VM. When the VM leaves, in a
fair run, the call returns `Ok`, the flag is cleared, and the bridges and connections are gone
for good.

## Key results

- `Step.stops`: what a step does to a `stop` that is past its trigger
- `stop_ends_all`: how such a `stop` ends
-/

namespace Tateru.Spec

variable {s s' : VmSystem} {a : VmAction}

/-- A step lets a `stop` that is past its trigger return `Ok`, or goes on with it, or is not of the
    owner; unless the thread has panicked. -/
theorem Step.stops (h : Step s a s') {pc : StopPc} (howner : s.owner = .stopping pc)
    (hpc : pc ≠ .trigger) (hthread : s.thread ≠ .terminated .panicked) :
    .stopped .ok ∈ s'.log ∨
      (∃ pc', pc' ≠ .trigger ∧ s'.owner = .stopping pc') ∧ Advances a s.owner s'.owner := by
  rcases h.stopping howner with hidle | ⟨⟨pc', howner'⟩, hadvances⟩
  · apply Or.inl
    cases h with
    | finish => exact List.mem_append_right _ (List.mem_singleton_self _)
    | triggerFails hat =>
      exact absurd (Owner.stopping.inj (howner.symm.trans hat)) hpc
    | joinPanicked _ hpanicked => exact absurd hpanicked hthread
    -- Nobody else lets the owner be idle
    | isRunning hnot | stopNotRunning hnot | spawnThread hnot =>
      cases howner.symm.trans hnot
    | leave | panic | storeStopped | terminate | bridge | spawnConn | conn =>
      exact nomatch howner.symm.trans hidle
    | _ => exact nomatch hidle
  · refine Or.inr ⟨⟨pc', ?_, howner'⟩, hadvances⟩
    rintro rfl
    rw [howner, howner'] at hadvances
    rcases hadvances with hlt | ⟨-, hsame⟩
    · cases pc <;> simp [callLeft, stopLeft] at hlt
    · exact hpc (Owner.stopping.inj hsame).symm

/-- The thread has come out of the VM in this way. -/
def CameOut (how : ThreadExit) (thread : ThreadPhase) : Prop :=
  thread = .left how ∨ thread = .stored how ∨ thread = .terminated how

theorem CameOut.step (hinv : ThreadInv s) (h : Step s a s') {how : ThreadExit}
    (hout : CameOut how s.thread) : CameOut how s'.thread := by
  have hleft : HasLeft s.thread := by
    rcases hout with hout | hout | hout <;> rw [hout] <;> trivial
  cases h with
  | spawnThread howner =>
    rw [(hinv.launching _ howner).1] at hleft
    exact hleft.elim
  | leave hthread | panic hthread =>
    rw [hthread] at hleft
    exact hleft.elim
  | storeStopped hthread =>
    rcases hout with hout | hout | hout
    · exact Or.inr (Or.inl (by rw [ThreadPhase.left.inj (hthread.symm.trans hout)]))
    · exact nomatch hthread.symm.trans hout
    · exact nomatch hthread.symm.trans hout
  | terminate hthread =>
    rcases hout with hout | hout | hout
    · exact nomatch hthread.symm.trans hout
    · exact Or.inr (Or.inr (by rw [ThreadPhase.stored.inj (hthread.symm.trans hout)]))
    · exact nomatch hthread.symm.trans hout
  | _ => exact hout

section

variable {configs : List BridgeConfig} {ρ : InfRun VmSystem.step (.launch configs)}

/-- A thread that comes out of the VM in one way has never panicked. -/
theorem not_panicked (ρ : InfRun VmSystem.step (.launch configs)) {j : Nat} {how : ThreadExit}
    (hhow : how ≠ .panicked) (hleft : (ρ.state j).thread = .left how) (l : Nat) :
    (ρ.state l).thread ≠ .terminated .panicked := by
  intro hpanicked
  rcases Nat.le_total j l with hjl | hlj
  · have hout := InfRun.stable (ρ := ρ) (P := fun s => ThreadInv s ∧ CameOut how s.thread)
      (fun s a s' hs h => ⟨hs.1.step (.of_step h), hs.2.step hs.1 (.of_step h)⟩) hjl
      ⟨threadInv_of_infRun ρ j, Or.inl hleft⟩
    rw [hpanicked] at hout
    rcases hout.2 with hout | hout | hout
    · cases hout
    · cases hout
    · exact hhow (ThreadPhase.terminated.inj hout).symm
  · have hend := InfRun.stable (ρ := ρ)
      (P := fun s => ThreadInv s ∧ s.thread = .terminated .panicked)
      (fun s a s' hs h =>
        ⟨hs.1.step (.of_step h), hs.1.terminated_eq_of_step (.of_step h) hs.2⟩) hlj
      ⟨threadInv_of_infRun ρ l, hpanicked⟩
    exact nomatch hleft.symm.trans hend.2

/-- A `stop` that is past its trigger. -/
def IsStopping (s : VmSystem) : Prop :=
  ∃ pc, pc ≠ .trigger ∧ s.owner = .stopping pc

/-- A `stop` has returned `Ok`, or none ever will. -/
def IsDecided (s : VmSystem) : Prop :=
  .stopped .ok ∈ s.log ∨ s.thread = .terminated .panicked

/-- A `stop` that is past its trigger goes on until it is decided. -/
theorem decided_of_step (hinv : ThreadInv s) (h : Step s a s') (hstopping : IsStopping s) :
    IsDecided s' ∨ IsStopping s' ∧ Advances a s.owner s'.owner := by
  obtain ⟨pc, hpc, howner⟩ := hstopping
  by_cases hpanicked : s.thread = .terminated .panicked
  · exact Or.inl (Or.inr (hinv.terminated_eq_of_step h hpanicked))
  · exact (h.stops howner hpc hpanicked).imp_left Or.inl

/-- It is decided when the thread is at its end. -/
theorem decided_of_terminated (hfair : FairRun ρ) :
    ρ.LeadsTo (fun s => (ThreadInv s ∧ IsTerminated s.thread) ∧ IsStopping s) IsDecided := by
  apply call_ends hfair
  · rintro s ⟨⟨-, hthread⟩, pc, -, howner⟩
    exact enabled_of_stopping howner hthread
  · rintro s a s' ⟨⟨hinv, hthread⟩, hstopping⟩ h
    exact (decided_of_step hinv h hstopping).imp_right fun ⟨hstopping', hadvances⟩ =>
      ⟨⟨⟨hinv.step h, hinv.terminated_of_step h hthread⟩, hstopping'⟩, hadvances⟩

/-- **A stop ends everything.** In a fair run, when a `stop` has triggered the shutdown and the VM
    leaves, before that or later and without a panic, there comes a time from which on that call
    has returned `Ok`, as none had before it, the VM does not count as running, and no bridge task
    and no connection is left. -/
theorem stop_ends_all (hfair : FairRun ρ) {k : Nat} {pc : StopPc}
    (howner : (ρ.state k).owner = .stopping pc) (hpc : pc ≠ .trigger) {j : Nat} {how : ThreadExit}
    (hhow : how ≠ .panicked) (hleft : (ρ.state j).thread = .left how) :
    .stopped .ok ∉ (ρ.state k).log ∧ ∃ l, k ≤ l ∧ ∀ m, l ≤ m →
      .stopped .ok ∈ (ρ.state m).log ∧ (ρ.state m).running = false ∧
      (ρ.state m).receivers = 0 := by
  have hcalls : ∀ m, CallsInv (ρ.state m) := fun m => by
    obtain ⟨as, has⟩ := ρ.exists_run_start m
    exact .run has
  have hbefore : .stopped .ok ∉ (ρ.state k).log := by
    intro hok
    have hsettled := ((hcalls k).settled hok).2.2
    rw [howner] at hsettled
    exact hsettled.elim
  refine ⟨hbefore, ?_⟩
  obtain ⟨m, -, hthread⟩ := thread_ends hfair j ⟨threadInv_of_infRun ρ j, by rw [hleft]; trivial⟩
  have hdecided : ∃ n, k ≤ n ∧ IsDecided (ρ.state n) := by
    have hterminated := InfRun.stable (ρ := ρ) (P := fun s => ThreadInv s ∧ IsTerminated s.thread)
      (fun s a s' hs h => ⟨hs.1.step (.of_step h), hs.1.terminated_of_step (.of_step h) hs.2⟩)
      (Nat.le_max_left m k) ⟨threadInv_of_infRun ρ m, hthread⟩
    -- At some time the thread is at its end, and the call is still there or has returned before
    rcases InfRun.until_goal (ρ := ρ) (P := fun s => ThreadInv s ∧ IsStopping s) (Q := IsDecided)
        (fun s a s' hs h => (decided_of_step hs.1 (.of_step h) hs.2).symm.imp_left fun hs' =>
          ⟨hs.1.step (.of_step h), hs'.1⟩)
        (Nat.le_max_right m k) ⟨threadInv_of_infRun ρ k, pc, hpc, howner⟩ with
      ⟨-, hstill⟩ | ⟨n, hkn, -, hn⟩
    · obtain ⟨n, hn, hdecided⟩ := decided_of_terminated hfair _ ⟨hterminated, hstill⟩
      exact ⟨n, Nat.le_trans (Nat.le_max_right m k) hn, hdecided⟩
    · exact ⟨n, hkn, hn⟩
  obtain ⟨n, hkn, hok | hpanicked⟩ := hdecided
  · have hlog : ∀ m, n ≤ m → .stopped .ok ∈ (ρ.state m).log := fun m hnm =>
      InfRun.stable (ρ := ρ) (P := fun s => .stopped .ok ∈ s.log)
        (fun s a s' hs h => (Step.of_step h).log_mono.subset hs) hnm hok
    have hsent : .sent ∈ (ρ.state n).log := by
      obtain ⟨pre, post, hsplit⟩ := List.append_of_mem hok
      rw [hsplit]
      exact List.mem_append_left _ ((hcalls n).quiet pre post hsplit).1
    obtain ⟨l, hnl, hnone⟩ := receivers_gone hfair hsent
    refine ⟨l, Nat.le_trans hkn hnl, fun m hlm => ?_⟩
    have hok := hlog m (Nat.le_trans hnl hlm)
    exact ⟨hok, ((hcalls m).settled hok).1, hnone m hlm⟩
  · exact absurd hpanicked (not_panicked ρ hhow hleft n)

end

/-- A VM with a bridge and a connection that leaves after the signal. -/
theorem stop_ends_all_signalled :
    let configs : List BridgeConfig := [⟨31122, .ofString "/tmp/vsock-22.sock"⟩]
    let actions : List VmAction := [.spawnBridge, .spawnThread true, .bridge 0 (.bind true),
      .bridge 0 (.accept true), .spawnConn 0 [1] [2], .stop, .trigger true, .signal, .take,
      .leave .returned, .storeStopped, .terminate, .join, .cleanup, .finish,
      .conn 0 (.connect true), .conn 0 .changed, .bridge 0 .changed, .bridge 0 .react, .drop,
      .cleanup, .dropFields]
    ∃ s, ∃ hrun : Run VmSystem.step (.launch configs) actions s,
      ((InfRun.ofRun hrun).state 7).owner = .stopping .signal ∧
      ((InfRun.ofRun hrun).state 10).thread = .left .returned ∧
      .stopped .ok ∉ ((InfRun.ofRun hrun).state 7).log ∧ ∃ l, 7 ≤ l ∧ ∀ m, l ≤ m →
        .stopped .ok ∈ ((InfRun.ofRun hrun).state m).log ∧
        ((InfRun.ofRun hrun).state m).running = false ∧
        ((InfRun.ofRun hrun).state m).receivers = 0 := by
  intro configs actions
  have hrun := Run.get VmSystem.step (.launch configs) actions (by decide +kernel)
  have howner : ((InfRun.ofRun hrun).state 7).owner = .stopping .signal := rfl
  have hleft : ((InfRun.ofRun hrun).state 10).thread = .left .returned := rfl
  have hfair := fairRun_ofRun hrun (by decide +kernel) trivial (by decide +kernel)
  exact ⟨_, hrun, howner, hleft, stop_ends_all hfair howner (by simp) (by simp) hleft⟩

end Tateru.Spec
