import Tateru.Spec.VmStep

/-!
# Failed stops are invisible

A `stop` that finds the VM not running, or whose trigger fails, has changed nothing when it
returns. So a run can be replayed without any of these calls: everything else that happens in it
is still possible, sees the same and leaves the same behind. While such a call is in progress,
the owner of the replayed run is between two calls.

## Key results

- `step_log`: no step depends on the log
- `replay_goes`, `replay_stays`: the replay is kept by the steps of the calls that go, and by all
  others
- `failed_stops_invisible`: every run, without its failed stops, is a run with the same end
-/

namespace Tateru.Spec

/-- The outcome of the next trigger. -/
def nextTrigger : List VmAction → Option Bool
  | [] => none
  | .trigger ok :: _ => some ok
  | _ :: as => nextTrigger as

/-- The action belongs to a call of `stop` that returns `NotRunning` or the error of its trigger;
    `rest` is what comes after it. -/
def ofFailedStop (s : VmSystem) (a : VmAction) (rest : List VmAction) : Bool :=
  match a with
  | .stop => !s.running || nextTrigger rest == some false
  | .trigger ok => s.owner == .stopping .trigger && !ok
  | _ => false

/-- The actions of a run from `s` without the calls of `stop` that fail. -/
def withoutFailedStops (s : VmSystem) (as : List VmAction) : List VmAction :=
  Run.delete VmSystem.step ofFailedStop s as

/-- The returns that failed stops are deleted for. -/
def IsFailure (ev : VmEvent) : Prop :=
  ev = .stopped .notRunning ∨ ev = .stopped .bridgeIo

/-- The second log is the first one without what the failed stops have logged. -/
inductive WithoutFailures : List VmEvent → List VmEvent → Prop where
  | nil : WithoutFailures [] []
  | keep {log log' : List VmEvent} {ev : VmEvent} (h : WithoutFailures log log')
      (hev : ¬ IsFailure ev) : WithoutFailures (log ++ [ev]) (log' ++ [ev])
  | notRunning {log log' : List VmEvent} (h : WithoutFailures log log') :
      WithoutFailures (log ++ [.stopped .notRunning]) log'
  | bridgeIo {log log' : List VmEvent} (h : WithoutFailures log log') :
      WithoutFailures (log ++ [.triggered false] ++ [.stopped .bridgeIo]) log'

theorem WithoutFailures.append {log log' evs : List VmEvent} (h : WithoutFailures log log')
    (hevs : ∀ ev ∈ evs, ¬ IsFailure ev) : WithoutFailures (log ++ evs) (log' ++ evs) := by
  induction evs generalizing log log' with
  | nil => simpa using h
  | cons ev evs ih =>
    have hnext := ih (h.keep (hevs ev (by simp))) fun ev' hev' => hevs ev' (by simp [hev'])
    simpa using hnext

/-! ## What a step depends on -/

/-- What the VM thread, the bridge tasks and the connections do. -/
def IsBackground : VmAction → Prop
  | .leave _ | .storeStopped | .terminate | .bridge _ _ | .spawnConn _ _ _ | .conn _ _ => True
  | _ => False

variable {s t : VmSystem} {a : VmAction}

/-- A step in the background depends neither on the owner nor on the log, and leaves both. -/
theorem step_background (ha : IsBackground a) (h : Step s a t) :
    t.owner = s.owner ∧ t.log = s.log ∧
      ∀ owner log, VmSystem.step { s with owner, log } a = some { t with owner, log } := by
  cases h with
  | leave hthread hhow =>
    exact ⟨rfl, rfl, fun _ _ => by simp only [VmSystem.step, hthread, if_neg hhow]⟩
  | panic hthread | storeStopped hthread | terminate hthread =>
    exact ⟨rfl, rfl, fun _ _ => by simp only [VmSystem.step, hthread, if_true]⟩
  | bridge ht hspawn hstep =>
    exact ⟨rfl, rfl, fun owner log => step_bridge (s := { s with owner, log }) ht hspawn hstep⟩
  | spawnConn ht hstep =>
    exact ⟨rfl, rfl, fun owner log => step_spawnConn (s := { s with owner, log }) ht hstep⟩
  | conn hc hstep =>
    exact ⟨rfl, rfl, fun _ _ => by simp only [VmSystem.step, hc, hstep, Option.map_some]⟩
  | _ => exact ha.elim

/-- An owner that is at the trigger of a call takes no other step. -/
theorem background_or_trigger (howner : s.owner = .stopping .trigger) (h : Step s a t) :
    IsBackground a ∨ ∃ ok, a = .trigger ok := by
  cases h with
  | leave | panic | storeStopped | terminate | bridge | spawnConn | conn => exact Or.inl trivial
  | trigger | triggerFails | dropTrigger => exact Or.inr ⟨_, rfl⟩
  | spawnBridge howner' | spawnThread howner' | spawnThreadFails howner' | isRunning howner'
  | stop howner' | stopNotRunning howner' | signal howner' | dropSignal howner' | take howner'
  | takeNothing howner' | join howner' | joinPanicked howner' | cleanup howner'
  | dropCleanup howner' | finish howner' | drop howner' | dropStopped howner'
  | dropFields howner' => cases howner.symm.trans howner'

/-- No step depends on the log, and what it logs is no failure, but for a `stop` that finds the
    VM not running and for a trigger that fails. -/
theorem step_log (h : Step s a t) :
    ∃ evs, t.log = s.log ++ evs ∧
      (∀ log, VmSystem.step { s with log } a = some { t with log := log ++ evs }) ∧
      (ofFailedStop s a [] = false → ∀ ev ∈ evs, ¬ IsFailure ev) := by
  have hbackground : IsBackground a → ∃ evs, t.log = s.log ++ evs ∧
      (∀ log, VmSystem.step { s with log } a = some { t with log := log ++ evs }) ∧
      (ofFailedStop s a [] = false → ∀ ev ∈ evs, ¬ IsFailure ev) := by
    intro ha
    obtain ⟨howner, hlog, hstep⟩ := step_background ha h
    refine ⟨[], by simp [hlog], fun log => ?_, by simp⟩
    simpa only [List.append_nil, howner] using hstep s.owner log
  obtain ⟨owner, running, hasThread, thread, chan, bridges, conns, log⟩ := s
  cases h with
  | leave | panic | storeStopped | terminate | bridge | spawnConn | conn =>
    exact hbackground trivial
  | spawnBridge howner | spawnThread howner | spawnThreadFails howner | dropFields howner =>
    cases howner
    exact ⟨[], (List.append_nil _).symm, fun log => by rw [List.append_nil]; rfl, by simp⟩
  | stop howner hflag | drop howner hflag | dropStopped howner hflag | take howner hflag
  | takeNothing howner hflag =>
    cases howner
    cases hflag
    exact ⟨[], (List.append_nil _).symm, fun log => by rw [List.append_nil]; rfl, by simp⟩
  | isRunning howner | trigger howner | dropTrigger howner | signal howner | dropSignal howner
  | cleanup howner | dropCleanup howner | finish howner =>
    cases howner
    exact ⟨[_], rfl, fun _ => rfl, by simp [IsFailure]⟩
  | join howner hthread hhow =>
    cases howner
    cases hthread
    exact ⟨[.joined], rfl, fun _ => by simp only [VmSystem.step, if_neg hhow]; rfl,
      by simp [IsFailure]⟩
  | joinPanicked howner hthread =>
    cases howner
    cases hthread
    exact ⟨[.joined, .stopped .vmThreadPanicked], List.append_assoc _ _ _,
      fun log => by rw [List.append_cons]; rfl, by simp [IsFailure]⟩
  | stopNotRunning howner hflag =>
    cases howner
    cases hflag
    exact ⟨[.stopped .notRunning], rfl, fun log => rfl, by simp [ofFailedStop]⟩
  | triggerFails howner =>
    cases howner
    exact ⟨[.triggered false, .stopped .bridgeIo], List.append_assoc _ _ _,
      fun log => by rw [List.append_cons]; rfl, by simp [ofFailedStop]⟩

/-! ## The replay -/

/-- `Replays rest s u`: the replay is in `u` when the run is in `s` with `rest` still to come.
    In the middle of a `stop` that will fail the owner of the replay is between two calls. -/
inductive Replays (rest : List VmAction) (s : VmSystem) : VmSystem → Prop where
  | between {log : List VmEvent} (hlog : WithoutFailures s.log log)
      (howner : s.owner = .stopping .trigger) (hfails : nextTrigger rest = some false) :
      Replays rest s { s with owner := .idle, log }
  | along {log : List VmEvent} (hlog : WithoutFailures s.log log)
      (hnot : s.owner = .stopping .trigger → nextTrigger rest ≠ some false) :
      Replays rest s { s with log }

theorem nextTrigger_of_background (ha : IsBackground a) (as : List VmAction) :
    nextTrigger (a :: as) = nextTrigger as := by
  cases a with
  | leave | storeStopped | terminate | bridge | spawnConn | conn => rfl
  | _ => exact ha.elim

/-- The steps of a `stop` that fails do not move the replay. -/
theorem replay_goes {as : List VmAction} {u : VmSystem} (hreplay : Replays (a :: as) s u)
    (h : Step s a t) (hgoes : ofFailedStop s a as = true) : Replays as t u := by
  cases hreplay with
  | between hlog howner hfails =>
    cases h with
    | triggerFails => exact .along hlog.bridgeIo (by simp [VmSystem.returnStop])
    | trigger => cases hfails
    | stop howner' | stopNotRunning howner' | dropTrigger howner' =>
      cases howner.symm.trans howner'
    | _ => cases hgoes
  | along hlog hnot =>
    obtain ⟨owner, running, hasThread, thread, chan, bridges, conns, log⟩ := s
    cases h with
    | stop howner hrunning =>
      cases howner
      cases hrunning
      exact .between hlog rfl (by simpa [ofFailedStop] using hgoes)
    | stopNotRunning howner =>
      cases howner
      exact .along hlog.notRunning (by simp [VmSystem.returnStop])
    -- A trigger that fails is met in the middle of a call
    | triggerFails howner => exact absurd rfl (hnot howner)
    | trigger howner => simp [ofFailedStop] at hgoes
    | dropTrigger howner =>
      cases howner
      cases hgoes
    | _ => cases hgoes

/-- Every other step is a step of the replay. -/
theorem replay_stays {as : List VmAction} {u : VmSystem} (hreplay : Replays (a :: as) s u)
    (h : Step s a t) (hstays : ofFailedStop s a as = false) :
    ∃ v, u.step a = some v ∧ Replays as t v := by
  cases hreplay with
  | @between log hlog howner hfails =>
    rcases background_or_trigger howner h with ha | ⟨ok, rfl⟩
    · obtain ⟨howner', hlog', hstep⟩ := step_background ha h
      refine ⟨_, hstep _ _, .between (hlog' ▸ hlog) (howner'.trans howner) ?_⟩
      exact (nextTrigger_of_background ha as).symm.trans hfails
    -- The trigger of the call fails, and is deleted
    · obtain rfl : ok = false := Option.some.inj hfails
      simp [ofFailedStop, howner] at hstays
  | along hlog hnot =>
    obtain ⟨evs, hevs, hstep, hfailure⟩ := step_log h
    have hnone : ofFailedStop s a [] = false := by
      cases a with
      | stop => simpa [ofFailedStop, nextTrigger] using (Bool.or_eq_false_iff.mp hstays).1
      | _ => exact hstays
    refine ⟨_, hstep _, .along (hevs ▸ hlog.append (hfailure hnone)) ?_⟩
    -- A call that stays does not come to a trigger that fails
    have hbackground : IsBackground a → t.owner = .stopping .trigger →
        nextTrigger as ≠ some false := by
      intro ha howner
      rw [← nextTrigger_of_background ha as]
      exact hnot ((step_background ha h).1.symm.trans howner)
    cases h with
    | leave | panic | storeStopped | terminate | bridge | spawnConn | conn =>
      exact hbackground trivial
    | stop =>
      intro _ hfails
      simp [ofFailedStop, hfails] at hstays
    | isRunning howner => simp [VmSystem.record, howner]
    | _ => simp [VmSystem.returnStop, VmSystem.send]

/-! ## The first `stop` -/

theorem nextTrigger_append (as bs : List VmAction) :
    nextTrigger (as ++ bs) = (nextTrigger as).or (nextTrigger bs) := by
  induction as with
  | nil => rfl
  | cons a as ih =>
    cases a with
    | trigger ok => rfl
    | _ => exact ih

theorem mem_of_nextTrigger {as : List VmAction} {ok : Bool} (h : nextTrigger as = some ok) :
    .trigger ok ∈ as := by
  induction as with
  | nil => cases h
  | cons a as ih =>
    cases a with
    | trigger ok' => exact Option.some.inj h ▸ List.mem_cons_self
    | _ => exact List.mem_cons_of_mem _ (ih h)

/-- Without a trigger the owner does not get out of the call it is in. -/
theorem stopping_of_run {as : List VmAction} (howner : s.owner = .stopping .trigger)
    (hnone : nextTrigger as = none) (hrun : Run VmSystem.step s as t) :
    t.owner = .stopping .trigger := by
  induction as generalizing s with
  | nil => exact Run.nil_iff.mp hrun ▸ howner
  | cons a as ih =>
    obtain ⟨u, hu, hrest⟩ := Run.cons_iff.mp hrun
    have h := Step.of_step hu
    rcases background_or_trigger howner h with ha | ⟨ok, rfl⟩
    · have hnone' := (nextTrigger_of_background ha as).symm.trans hnone
      exact ih ((step_background ha h).1.trans howner) hnone' hrest
    · cases hnone

/-- A `stop` that has been called gets to its trigger, or has found the VM not running, before
    the owner is between two calls again. -/
theorem nextTrigger_of_stop {post : List VmAction} (hstop : s.step .stop = some t) {u : VmSystem}
    (hrun : Run VmSystem.step t post u) (hidle : u.owner = .idle) :
    s.running = false ∨ ∃ ok, nextTrigger post = some ok := by
  cases Step.of_step hstop with
  | stop =>
    cases hnext : nextTrigger post with
    | none => exact nomatch hidle.symm.trans (stopping_of_run rfl hnext hrun)
    | some ok => exact Or.inr ⟨ok, rfl⟩
  | stopNotRunning _ hrunning => exact Or.inl hrunning

/-! ## Runs without their failed stops -/

/-- Every run without its failed stops is a run. It ends in the same state and has logged the
    same, but for what the failed stops have logged. And where every trigger has failed so far,
    no `stop` is left: the next one is the first. -/
theorem failed_stops_invisible {configs : List BridgeConfig} {as : List VmAction}
    (hrun : Run VmSystem.step (.launch configs) as t) :
    (∃ log, Run VmSystem.step (.launch configs) (withoutFailedStops (.launch configs) as)
        { t with log } ∧ WithoutFailures t.log log) ∧
    ∀ pre post u, as = pre ++ post → Run VmSystem.step (.launch configs) pre u →
      u.owner = .idle → (∀ ok, .trigger ok ∈ pre → ok = false) →
      withoutFailedStops (.launch configs) as =
          withoutFailedStops (.launch configs) pre ++ withoutFailedStops u post ∧
        .stop ∉ withoutFailedStops (.launch configs) pre := by
  constructor
  · have hstart : Replays as (.launch configs) (.launch configs) :=
      @Replays.along as (.launch configs) [] .nil (by simp [VmSystem.launch])
    obtain ⟨v, hv, hreplay⟩ := Run.simulate_delete (d := ofFailedStop) (g := VmSystem.step)
      (fun s a as t u hR hs hd => replay_goes hR (.of_step hs) hd)
      (fun s a as t u hR hs hd => replay_stays hR (.of_step hs) hd) hrun hstart
    cases hreplay with
    | between _ _ hfails => cases hfails
    | along hlog => exact ⟨_, hv, hlog⟩
  · intro pre post u hsplit hpre hidle hfails
    -- A call that is over before `u` is deleted whatever comes after `u`
    have hreach : ∀ p q v, pre = p ++ .stop :: q → Run VmSystem.step (.launch configs) p v →
        v.running = false ∨ ∃ ok, nextTrigger q = some ok := by
      intro p q v hpq hv
      obtain ⟨w, hstop, hrest⟩ := Run.cons_iff.mp (hpre.rest hpq hv)
      exact nextTrigger_of_stop hstop hrest hidle
    constructor
    · rw [hsplit]
      apply Run.delete_append hpre
      intro p a q v hpq hv
      cases a with
      | stop =>
        rcases hreach p q v hpq hv with hrunning | ⟨ok, hok⟩
        · simp [ofFailedStop, hrunning]
        · simp [ofFailedStop, nextTrigger_append, hok]
      | _ => rfl
    · intro hmem
      obtain ⟨p, q, v, hpq, hv, hstays⟩ := Run.of_mem_delete hmem
      rcases hreach p q v hpq hv with hrunning | ⟨ok, hok⟩
      · simp [ofFailedStop, hrunning] at hstays
      · have hfalse := hfails ok (by simp [hpq, mem_of_nextTrigger hok])
        simp [ofFailedStop, hok, hfalse] at hstays

/-- The VM thread leaves while a `stop` is on its way to a trigger that fails; the one after that
    finds the VM not running. -/
theorem failed_stops_invisible_concurrent :
    let actions : List VmAction := [.spawnThread true, .stop, .leave .failed, .trigger false,
      .isRunning, .storeStopped, .stop, .isRunning]
    ∃ t log, Run VmSystem.step (.launch []) actions t ∧
      Run VmSystem.step (.launch [])
        [.spawnThread true, .leave .failed, .isRunning, .storeStopped, .isRunning]
        { t with log } ∧
      WithoutFailures t.log log := by
  intro actions
  have hrun := Run.get VmSystem.step (.launch []) actions rfl
  obtain ⟨log, hreplay, hlog⟩ := (failed_stops_invisible hrun).1
  have hactions : withoutFailedStops (.launch []) actions =
      [.spawnThread true, .leave .failed, .isRunning, .storeStopped, .isRunning] := by decide
  exact ⟨_, log, hrun, hactions ▸ hreplay, hlog⟩

end Tateru.Spec
