import Tateru.Native.Bridge

/-!
# What a bridge task and a connection can do

## Key results

- `BridgeStep.of_step`, `ConnStep.of_step`: every step is one of the transitions
- `BridgeTask.not_returned_of_step`: a task that has returned takes no step
- `BridgeTask.exists_woken`: every other task can be woken once the sender is gone
- `Connection.shutdown_of_step`: a connection keeps the receiver it was spawned with
-/

namespace Tateru.Spec

/-! ## Bridge tasks -/

/-- The transitions of a bridge task. -/
inductive BridgeStep (chan : Watch Bool) (t : BridgeTask) : BridgeAction → BridgeTask → Prop where
  | bind {ok : Bool} (hphase : t.phase = .binding) :
      BridgeStep chan t (.bind ok) { t with phase := if ok then .accepting else .returned }
  | accept {ok : Bool} (hphase : t.phase = .accepting) :
      BridgeStep chan t (.accept ok) { t with phase := if ok then .accepted else .accepting }
  | spawn (hphase : t.phase = .accepted) : BridgeStep chan t .spawn { t with phase := .accepting }
  | changed {o : Watch.Changed} {r : Watch.Receiver} (hphase : t.phase = .accepting)
      (hchanged : t.shutdown.changed chan = some (o, r)) :
      BridgeStep chan t .changed { t with shutdown := r, phase := .woken }
  | react (hphase : t.phase = .woken) (hvalue : chan.value = false) :
      BridgeStep chan t .react { t with phase := .accepting }
  | reactReturns (hphase : t.phase = .woken) (hvalue : chan.value = true) :
      BridgeStep chan t .react { t with phase := .returned }

theorem BridgeStep.of_step {chan : Watch Bool} {t t' : BridgeTask} {a : BridgeAction}
    (h : t.step chan a = some t') : BridgeStep chan t a t' := by
  cases a with
  | bind ok =>
    obtain ⟨hphase, h⟩ := Option.ite_none_right_eq_some.mp h
    exact Option.some.inj h ▸ .bind hphase
  | accept ok =>
    obtain ⟨hphase, h⟩ := Option.ite_none_right_eq_some.mp h
    exact Option.some.inj h ▸ .accept hphase
  | spawn =>
    obtain ⟨hphase, h⟩ := Option.ite_none_right_eq_some.mp h
    exact Option.some.inj h ▸ .spawn hphase
  | changed =>
    obtain ⟨hphase, h⟩ := Option.ite_none_right_eq_some.mp h
    obtain ⟨_, hchanged, rfl⟩ := Option.map_eq_some_iff.mp h
    exact .changed hphase hchanged
  | react =>
    obtain ⟨hphase, h⟩ := Option.ite_none_right_eq_some.mp h
    -- The value decides between returning and the next round
    cases hvalue : chan.value with
    | false =>
      simp only [Watch.borrow, hvalue, Bool.false_eq_true, if_false] at h
      exact Option.some.inj h ▸ .react hphase hvalue
    | true =>
      simp only [Watch.borrow, hvalue, if_true] at h
      exact Option.some.inj h ▸ .reactReturns hphase hvalue

namespace BridgeTask

variable {chan : Watch Bool} {t t' : BridgeTask}

/-- A task that has returned takes no step. -/
theorem not_returned_of_step {a : BridgeAction} (h : t.step chan a = some t') :
    t.phase ≠ .returned := by
  cases BridgeStep.of_step h with
  | bind hphase | accept hphase | spawn hphase | changed hphase | react hphase
  | reactReturns hphase => simp [hphase]

/-- Only a task that has accepted a connection spawns one. -/
theorem accepted_of_spawn (h : t.step chan .spawn = some t') : t.phase = .accepted := by
  cases BridgeStep.of_step h with
  | spawn hphase => exact hphase

/-- Without its sender, a task that has not returned can be woken. -/
theorem exists_woken (hclosed : chan.closed = true) (hphase : t.phase ≠ .returned) :
    ∃ as t', Run (BridgeTask.step chan) t as t' ∧ t'.phase = .woken := by
  have hready : (t.shutdown.changed chan).isSome = true := by
    rw [Watch.Receiver.changed_isSome, Watch.Receiver.ready, hclosed, Bool.or_true]
  obtain ⟨⟨o, rx⟩, hchanged⟩ := Option.isSome_iff_exists.mp hready
  -- From the `select!` it takes one step, and before it one more to get there
  have haccepting : ∀ {u : BridgeTask}, u.shutdown = t.shutdown → u.phase = .accepting →
      BridgeTask.step chan u .changed = some { u with shutdown := rx, phase := .woken } := by
    intro u hu hphase
    simp [BridgeTask.step, hphase, hu, hchanged]
  cases hp : t.phase with
  | binding =>
    refine ⟨[.bind true, .changed], _, Run.cons_iff.mpr ⟨{ t with phase := .accepting }, ?_,
      Run.cons_iff.mpr ⟨_, haccepting rfl rfl, Run.nil_iff.mpr rfl⟩⟩, rfl⟩
    simp [BridgeTask.step, hp]
  | accepting =>
    exact ⟨[.changed], _, Run.cons_iff.mpr ⟨_, haccepting rfl hp, Run.nil_iff.mpr rfl⟩, rfl⟩
  | accepted =>
    refine ⟨[.spawn, .changed], _, Run.cons_iff.mpr ⟨{ t with phase := .accepting }, ?_,
      Run.cons_iff.mpr ⟨_, haccepting rfl rfl, Run.nil_iff.mpr rfl⟩⟩, rfl⟩
    simp [BridgeTask.step, hp]
  | woken => exact ⟨[], t, Run.nil_iff.mpr rfl, hp⟩
  | returned => exact absurd hp hphase

end BridgeTask

/-! ## Connections -/

/-- The transitions of a connection and its peers. -/
inductive ConnStep (chan : Watch Bool) (c : Connection) : ConnAction → Connection → Prop where
  | connect (hphase : c.phase = .connecting) :
      ConnStep chan c (.connect true) { c with phase := .copying }
  | connectFails (hphase : c.phase = .connecting) :
      ConnStep chan c (.connect false) { c with phase := .ended }
  | send {d : Direction} {n : Nat} : ConnStep chan c (.send d n) (c.setCopy d ((c.copy d).send n))
  | close {d : Direction} (hsent : (c.copy d).toSend = []) :
      ConnStep chan c (.close d) (c.setCopy d { c.copy d with closed := true })
  | read {d : Direction} {n : Nat} (hphase : c.phase = .copying) :
      ConnStep chan c (.read d n) (c.setCopy d ((c.copy d).read n))
  | write {d : Direction} {n : Nat} (hphase : c.phase = .copying) :
      ConnStep chan c (.write d n) (c.setCopy d ((c.copy d).write n))
  | finish {d : Direction} (hphase : c.phase = .copying) (hclosed : (c.copy d).closed = true)
      (hflight : (c.copy d).inFlight = []) (hbuf : (c.copy d).buf = []) :
      ConnStep chan c (.finish d) { c with phase := .closing d }
  | fail {d : Direction} (hphase : c.phase = .copying) :
      ConnStep chan c (.fail d) { c with phase := .closing d }
  | shutdown {d : Direction} (hphase : c.phase = .closing d) :
      ConnStep chan c .shutdown { c with phase := .ended }
  | changed (hphase : c.phase = .copying) (hready : c.shutdown.ready chan = true) :
      ConnStep chan c .changed { c with phase := .ended }

theorem ConnStep.of_step {chan : Watch Bool} {c c' : Connection} {a : ConnAction}
    (h : c.step chan a = some c') : ConnStep chan c a c' := by
  cases a with
  | connect ok =>
    obtain ⟨hphase, h⟩ := Option.ite_none_right_eq_some.mp h
    cases ok with
    | true => exact Option.some.inj h ▸ .connect hphase
    | false => exact Option.some.inj h ▸ .connectFails hphase
  | send d n =>
    obtain ⟨-, h⟩ := Option.ite_none_right_eq_some.mp h
    exact Option.some.inj h ▸ .send
  | close d =>
    obtain ⟨hsent, h⟩ := Option.ite_none_right_eq_some.mp h
    exact Option.some.inj h ▸ .close hsent
  | read d n =>
    obtain ⟨⟨hphase, -⟩, h⟩ := Option.ite_none_right_eq_some.mp h
    exact Option.some.inj h ▸ .read hphase
  | write d n =>
    obtain ⟨⟨hphase, -⟩, h⟩ := Option.ite_none_right_eq_some.mp h
    exact Option.some.inj h ▸ .write hphase
  | finish d =>
    obtain ⟨⟨hphase, hclosed, hflight, hbuf⟩, h⟩ := Option.ite_none_right_eq_some.mp h
    exact Option.some.inj h ▸ .finish hphase hclosed hflight hbuf
  | fail d =>
    obtain ⟨hphase, h⟩ := Option.ite_none_right_eq_some.mp h
    exact Option.some.inj h ▸ .fail hphase
  | shutdown =>
    simp only [Connection.step] at h
    split at h
    · rename_i hphase
      exact Option.some.inj h ▸ .shutdown hphase
    · exact nomatch h
  | changed =>
    obtain ⟨⟨hphase, hready⟩, h⟩ := Option.ite_none_right_eq_some.mp h
    exact Option.some.inj h ▸ .changed hphase hready

namespace Connection

variable {chan : Watch Bool} {c c' : Connection}

/-- A connection keeps the receiver it was spawned with. -/
theorem shutdown_of_step {a : ConnAction} (h : c.step chan a = some c') :
    c'.shutdown = c.shutdown := by
  cases ConnStep.of_step h with
  | send | close | read | write => exact Connection.shutdown_setCopy _ _ _
  | _ => rfl

/-- A connection that has ended stays so. -/
theorem ended_of_step {a : ConnAction} (hphase : c.phase = .ended)
    (h : c.step chan a = some c') : c'.phase = .ended := by
  cases ConnStep.of_step h with
  -- The peers may go on after the task has ended
  | send | close => exact (Connection.phase_setCopy _ _ _).trans hphase
  | connect hnot | read hnot | write hnot | finish hnot | fail hnot =>
    exact nomatch hphase.symm.trans hnot
  | connectFails | shutdown | changed => rfl

end Connection

end Tateru.Spec
