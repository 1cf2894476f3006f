import Tateru.Spec.Lifecycle

/-!
# The `stop` that joins the VM thread

`running` is cleared in two places: by the VM thread after `start_enter`, and by `stop` at its
end. A panic skips the first, and the early return of a `stop` that finds a panicked thread skips
the second, together with the removal of the working directory.

## Key results

- `JoinInv.run`: what the log says about a `stop` that has joined the VM thread
- `finished_iff_not_panicked`: such a `stop` has done its job exactly when the VM thread has not
  panicked
-/

namespace Tateru.Spec

/-- The `stop` that joined the VM thread has just returned. -/
def JoinReturned (log : List VmEvent) : Prop :=
  ∃ pre mid r, log = pre ++ .joined :: mid ++ [.stopped r] ∧ ∀ r', .stopped r' ∉ mid

/-- The job of `stop` is done: the VM does not count as running, the bridges have been signalled,
    the removal of the working directory has been tried, and every `stop` that returns from here
    on returns that the VM is not running. -/
structure JobFinished (s : VmSystem) : Prop where
  running : s.running = false
  sent : .sent ∈ s.log
  removed : .removedWorkdir ∈ s.log
  later : ∀ bs t post, Run VmSystem.step s bs t → t.log = s.log ++ post →
    ∀ r, .stopped r ∈ post → r = .notRunning

variable {s s' : VmSystem} {a : VmAction}

namespace ThreadInv

/-- A thread that is at its end stays there, with the same outcome. -/
theorem terminated_eq_of_step (hinv : ThreadInv s) (h : Step s a s') {how : ThreadExit}
    (hterminated : s.thread = .terminated how) : s'.thread = .terminated how := by
  cases h with
  | spawnThread howner =>
    have habsent := (hinv.launching _ howner).1
    exact nomatch habsent.symm.trans hterminated
  | leave hthread | panic hthread | storeStopped hthread | terminate hthread =>
    exact nomatch hthread.symm.trans hterminated
  | _ => exact hterminated

end ThreadInv

/-- No panicked thread comes to its store, so its flag is only cleared by a `stop` that succeeds.
    A `stop` that has joined the thread either goes on, the thread not having panicked, or it has
    returned: after a panic at once, else after the removal of the working directory. -/
structure JoinInv (s : VmSystem) : Prop where
  thread : s.thread ≠ .left .panicked ∧ s.thread ≠ .stored .panicked
  running : s.running = false → s.thread = .terminated .panicked → .stopped .ok ∈ s.log
  joined : ∀ pre mid, s.log = pre ++ .joined :: mid → (∀ r, .stopped r ∉ mid) →
    ∃ how, how ≠ .panicked ∧ s.thread = .terminated how ∧
      (s.owner = .stopping .cleanup ∧ mid = [] ∨
        s.owner = .stopping .store ∧ mid = [.removedWorkdir])
  returned : ∀ pre mid r, s.log = pre ++ .joined :: mid ++ [.stopped r] →
    (∀ r', .stopped r' ∉ mid) →
    r = .vmThreadPanicked ∧ s.thread = .terminated .panicked ∨
      r = .ok ∧ .removedWorkdir ∈ mid ∧ ∃ how, how ≠ .panicked ∧ s.thread = .terminated how

namespace JoinInv

theorem launch (configs : List BridgeConfig) : JoinInv (.launch configs) where
  thread := ⟨nofun, nofun⟩
  running h := nomatch h
  joined pre mid h := by simp [VmSystem.launch] at h
  returned pre mid r h := by simp [VmSystem.launch] at h

theorem thread_of_step (hinv : JoinInv s) (h : Step s a s') :
    s'.thread ≠ .left .panicked ∧ s'.thread ≠ .stored .panicked := by
  cases h with
  | leave _ hhow => exact ⟨fun heq => hhow (ThreadPhase.left.inj heq), by simp⟩
  | storeStopped hthread =>
    refine ⟨by simp, fun heq => hinv.thread.1 ?_⟩
    rw [hthread, ThreadPhase.stored.inj heq]
  | spawnThread | panic | terminate => exact ⟨by simp, by simp⟩
  | _ => exact hinv.thread

theorem running_of_step (hthread : ThreadInv s) (hinv : JoinInv s) (h : Step s a s')
    (hrunning : s'.running = false) (hpanicked : s'.thread = .terminated .panicked) :
    .stopped .ok ∈ s'.log := by
  have hmono := h.log_mono
  cases h with
  | spawnThread | leave | storeStopped => exact nomatch hpanicked
  -- Before the thread has left, the flag is set
  | panic hentered =>
    have hleft := hthread.running hrunning
    rw [hentered] at hleft
    exact hleft.elim
  | terminate hstored =>
    refine absurd ?_ hinv.thread.2
    rw [hstored, ThreadPhase.terminated.inj hpanicked]
  | finish => exact List.mem_append_right _ (List.mem_singleton_self _)
  | _ => exact hmono.subset (hinv.running hrunning hpanicked)

/-- An owner that is not past the join has logged none in this call. -/
theorem log_ne_joined (hinv : JoinInv s) (hcleanup : s.owner ≠ .stopping .cleanup)
    (hstore : s.owner ≠ .stopping .store) {pre mid mid' : List VmEvent}
    (hmid : ∀ r, .stopped r ∉ mid) (hinit : mid' <+: mid) : s.log ≠ pre ++ .joined :: mid' := by
  intro hlog
  have hmid' : ∀ r, .stopped r ∉ mid' := fun r hr => hmid r (hinit.subset hr)
  obtain ⟨_, -, -, ⟨howner, -⟩ | ⟨howner, -⟩⟩ := hinv.joined pre mid' hlog hmid'
  · exact hcleanup howner
  · exact hstore howner

theorem joined_of_step (hthread : ThreadInv s) (hinv : JoinInv s) (h : Step s a s')
    {pre mid : List VmEvent} (hlog : s'.log = pre ++ .joined :: mid)
    (hmid : ∀ r, .stopped r ∉ mid) :
    ∃ how, how ≠ .panicked ∧ s'.thread = .terminated how ∧
      (s'.owner = .stopping .cleanup ∧ mid = [] ∨
        s'.owner = .stopping .store ∧ mid = [.removedWorkdir]) := by
  have hterminated : ∀ how, s.thread = .terminated how → s'.thread = .terminated how :=
    fun _ => hthread.terminated_eq_of_step h
  -- What has been logged since the join says where the owner is
  have hold : ∀ {mid'}, mid' <+: mid → s.log = pre ++ .joined :: mid' →
      ∃ how, how ≠ .panicked ∧ s.thread = .terminated how ∧
        (s.owner = .stopping .cleanup ∧ mid' = [] ∨
          s.owner = .stopping .store ∧ mid' = [.removedWorkdir]) := by
    intro mid' hinit hlog'
    exact hinv.joined pre mid' hlog' fun r hr => hmid r (hinit.subset hr)
  have hother : ∀ {ev}, ev ≠ .joined → s.owner ≠ .stopping .cleanup → s.owner ≠ .stopping .store →
      s.log ++ [ev] ≠ pre ++ .joined :: mid := by
    intro ev hev hcleanup hstore heq
    rcases List.snoc_eq_append_cons_iff.mp heq with ⟨-, hjoined, -⟩ | ⟨post, hlog', rfl⟩
    · exact hev hjoined
    · exact hinv.log_ne_joined hcleanup hstore hmid (List.prefix_append _ _) hlog'
  -- A step that logs a return ends the call
  have hstopped : ∀ log r, log ++ [.stopped r] ≠ pre ++ .joined :: mid := by
    intro log r heq
    rcases List.snoc_eq_append_cons_iff.mp heq with ⟨-, hev, -⟩ | ⟨post, -, rfl⟩
    · cases hev
    · exact hmid r (by simp)
  cases h with
  | isRunning howner | trigger howner | dropTrigger howner | signal howner | dropSignal howner
  | dropCleanup howner =>
    exact absurd hlog (hother (by simp) (by simp [howner]) (by simp [howner]))
  | stopNotRunning | triggerFails | joinPanicked | finish => exact absurd hlog (hstopped _ _)
  | join howner hterm hhow =>
    rcases List.snoc_eq_append_cons_iff.mp hlog with ⟨-, -, rfl⟩ | ⟨post, hlog', rfl⟩
    · exact ⟨_, hhow, hterm, Or.inl ⟨rfl, rfl⟩⟩
    -- The thread is joined once
    · exact absurd hlog' (hinv.log_ne_joined (by simp [howner]) (by simp [howner]) hmid
        (List.prefix_append _ _))
  | cleanup howner =>
    rcases List.snoc_eq_append_cons_iff.mp hlog with ⟨-, hev, -⟩ | ⟨post, hlog', rfl⟩
    · cases hev
    · obtain ⟨how, hhow, hterm, ⟨-, rfl⟩ | ⟨howner', -⟩⟩ := hold (List.prefix_append _ _) hlog'
      · exact ⟨how, hhow, hterm, Or.inr ⟨rfl, rfl⟩⟩
      · exact nomatch howner.symm.trans howner'
  | leave | panic | storeStopped | terminate | bridge | spawnConn | conn =>
    obtain ⟨how, hhow, hterm, howner⟩ := hold (List.prefix_refl _) hlog
    exact ⟨how, hhow, hterminated how hterm, howner⟩
  | spawnBridge howner | spawnThread howner | spawnThreadFails howner | stop howner | take howner
  | takeNothing howner | drop howner | dropStopped howner | dropFields howner =>
    exact absurd hlog (hinv.log_ne_joined (by simp [howner]) (by simp [howner]) hmid
      (List.prefix_refl _))

theorem returned_of_step (hthread : ThreadInv s) (hinv : JoinInv s) (h : Step s a s')
    {pre mid : List VmEvent} {r : StopResult}
    (hlog : s'.log = pre ++ .joined :: mid ++ [.stopped r]) (hmid : ∀ r', .stopped r' ∉ mid) :
    r = .vmThreadPanicked ∧ s'.thread = .terminated .panicked ∨
      r = .ok ∧ .removedWorkdir ∈ mid ∧
        ∃ how, how ≠ .panicked ∧ s'.thread = .terminated how := by
  have hterminated : ∀ how, s.thread = .terminated how → s'.thread = .terminated how :=
    fun _ => hthread.terminated_eq_of_step h
  cases h with
  | isRunning | trigger | dropTrigger | signal | dropSignal | join | cleanup | dropCleanup =>
    exact nomatch (List.append_inj' hlog rfl).2
  | stopNotRunning howner =>
    have hlog' := (List.append_inj' hlog rfl).1
    exact absurd hlog' (hinv.log_ne_joined (by simp [howner]) (by simp [howner]) hmid
      (List.prefix_refl _))
  | triggerFails howner =>
    have hlog' := (List.append_inj' hlog rfl).1
    rcases List.snoc_eq_append_cons_iff.mp hlog' with ⟨-, hev, -⟩ | ⟨post, hold, rfl⟩
    · cases hev
    · exact absurd hold (hinv.log_ne_joined (by simp [howner]) (by simp [howner]) hmid
        (List.prefix_append _ _))
  | joinPanicked howner hterm =>
    have hr := (List.append_inj' hlog rfl).2
    exact Or.inl ⟨by simpa using hr.symm, hterm⟩
  | finish howner =>
    obtain ⟨hlog', hr⟩ := List.append_inj' hlog rfl
    obtain ⟨how, hhow, hterm, ⟨howner', -⟩ | ⟨-, rfl⟩⟩ := hinv.joined pre mid hlog' hmid
    · exact nomatch howner.symm.trans howner'
    · exact Or.inr ⟨by simpa using hr.symm, by simp, how, hhow, hterm⟩
  | _ =>
    rcases hinv.returned pre mid r hlog hmid with ⟨hr, hterm⟩ | ⟨hr, hmem, how, hhow, hterm⟩
    · exact Or.inl ⟨hr, hterminated _ hterm⟩
    · exact Or.inr ⟨hr, hmem, how, hhow, hterminated _ hterm⟩

theorem step (hthread : ThreadInv s) (hinv : JoinInv s) (h : Step s a s') : JoinInv s' where
  thread := hinv.thread_of_step h
  running := hinv.running_of_step hthread h
  joined _ _ := hinv.joined_of_step hthread h
  returned _ _ _ := hinv.returned_of_step hthread h

theorem run {configs : List BridgeConfig} {as : List VmAction}
    (hrun : Run VmSystem.step (.launch configs) as s) : JoinInv s :=
  (Run.invariant (I := fun s => ThreadInv s ∧ JoinInv s)
    (fun _ _ _ hinv h => ⟨hinv.1.step (.of_step h), hinv.2.step hinv.1 (.of_step h)⟩) hrun
    ⟨.launch configs, .launch configs⟩).2

/-- The end of a thread tells whether it has panicked: no other way leads there. -/
theorem panicked_of_step (hthread : ThreadInv s) (hinv : JoinInv s) (h : Step s a s') :
    s'.thread = .terminated .panicked ↔
      s.thread = .terminated .panicked ∨ .leave .panicked = a := by
  constructor
  · intro hpanicked
    cases h with
    | panic => exact Or.inr rfl
    | terminate hstored =>
      refine absurd ?_ hinv.thread.2
      rw [hstored, ThreadPhase.terminated.inj hpanicked]
    | spawnThread | leave | storeStopped => cases hpanicked
    | _ => exact Or.inl hpanicked
  · intro hpanicked
    rcases hpanicked with hpanicked | rfl
    · exact hthread.terminated_eq_of_step h hpanicked
    · cases h with
      | leave _ hhow => exact absurd rfl hhow
      | panic => rfl

theorem panicked_of_run {t : VmSystem} {as : List VmAction} (hthread : ThreadInv s)
    (hinv : JoinInv s) (hrun : Run VmSystem.step s as t) :
    t.thread = .terminated .panicked ↔
      s.thread = .terminated .panicked ∨ .leave .panicked ∈ as := by
  induction as generalizing s with
  | nil =>
    obtain rfl := Run.nil_iff.mp hrun
    simp
  | cons a as ih =>
    obtain ⟨u, hu, hrest⟩ := Run.cons_iff.mp hrun
    have h := Step.of_step hu
    rw [ih (hthread.step h) (hinv.step hthread h) hrest, hinv.panicked_of_step hthread h,
      List.mem_cons, or_assoc]

end JoinInv

/-! ## When the job is done -/

/-- When a `stop` has joined the VM thread and returned, its job is done exactly when the VM
    thread has not panicked. -/
theorem finished_iff_not_panicked {configs : List BridgeConfig} {as : List VmAction}
    (hrun : Run VmSystem.step (.launch configs) as s) (hreturned : JoinReturned s.log) :
    JobFinished s ↔ .leave .panicked ∉ as := by
  have hcalls := CallsInv.run hrun
  have hinv := JoinInv.run hrun
  have hpanicked := JoinInv.panicked_of_run (.launch configs) (.launch configs) hrun
  obtain ⟨pre, mid, r, hlog, hmid⟩ := hreturned
  constructor
  · intro hfinished hpanic
    have hterm : s.thread = .terminated .panicked := hpanicked.mpr (Or.inr hpanic)
    -- Only a `stop` that succeeds has cleared the flag, and it has nothing to join after it
    have hok := hinv.running hfinished.running hterm
    obtain ⟨rfl, -⟩ | ⟨-, -, how, hhow, hterm'⟩ := hinv.returned pre mid r hlog hmid
    · have hpre : .stopped .ok ∈ pre := by simpa [hlog, hmid] using hok
      obtain ⟨p, q, rfl⟩ := List.append_of_mem hpre
      have hquiet := (hcalls.quiet p (q ++ .joined :: mid ++ [.stopped .vmThreadPanicked])
        (by simp [hlog])).2 .joined (by simp)
      simp [IsQuiet] at hquiet
    · exact hhow (ThreadPhase.terminated.inj (hterm'.symm.trans hterm))
  · intro hnot
    obtain ⟨-, hterm⟩ | ⟨rfl, hremoved, -⟩ := hinv.returned pre mid r hlog hmid
    · rcases hpanicked.mp hterm with habsent | hpanic
      · cases habsent
      · exact absurd hpanic hnot
    · have hok : .stopped .ok ∈ s.log := by simp [hlog]
      have hsent := (hcalls.quiet (pre ++ .joined :: mid) [] hlog).1
      refine ⟨(hcalls.settled hok).1, ?sent, ?removed, ?later⟩
      case sent => simpa [hlog] using hsent
      case removed => simp [hlog, hremoved]
      case later =>
        intro bs t post hrun' hpost r hr
        have hquiet := ((CallsInv.run (hrun.append hrun')).quiet (pre ++ .joined :: mid) post
          (by simp [hpost, hlog])).2 _ hr
        simpa [IsQuiet] using hquiet

/-- A `stop` that joins a thread that has come out of `start_enter` with an error. -/
theorem finished_iff_not_panicked_failed :
    let actions : List VmAction := [.spawnThread true, .stop, .trigger true, .signal, .take,
      .leave .failed, .storeStopped, .terminate, .join, .cleanup, .finish]
    ∃ s, Run VmSystem.step (.launch []) actions s ∧ JobFinished s := by
  intro actions
  have hrun := Run.get VmSystem.step (.launch []) actions rfl
  have hreturned : JoinReturned
      [.triggered true, .sent, .joined, .removedWorkdir, .stopped .ok] :=
    ⟨[.triggered true, .sent], [.removedWorkdir], .ok, rfl, by simp⟩
  exact ⟨_, hrun, (finished_iff_not_panicked hrun hreturned).mpr (by decide)⟩

/-- After a panic `stop` leaves the flag set and the working directory alone, and the next
    `stop` goes through all of its steps but the join, and succeeds. -/
theorem panicked_thread_unfinished :
    ∃ s t, Run VmSystem.step (.launch [])
        [.spawnThread true, .stop, .trigger true, .signal, .take, .leave .panicked, .join] s ∧
      JoinReturned s.log ∧ s.running = true ∧ .removedWorkdir ∉ s.log ∧
      Run VmSystem.step s [.stop, .trigger true, .signal, .take, .cleanup, .finish] t ∧
      t.log = s.log ++ [.triggered true, .sent, .removedWorkdir, .stopped .ok] ∧
      ¬ JobFinished s := by
  refine ⟨_, _, rfl, ?_, rfl, by decide, rfl, rfl, fun h => ?_⟩
  · exact ⟨[.triggered true, .sent], [], .vmThreadPanicked, rfl, by simp⟩
  · exact nomatch h.running

end Tateru.Spec
