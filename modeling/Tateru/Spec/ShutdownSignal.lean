import Tateru.Spec.VmStep

/-!
# No connection misses the shutdown signal

The shutdown signal is consumed by the same `select!` that accepts connections, and every
connection is spawned with a clone of the receiver it is consumed from. What makes the clone
safe is that a loop which has consumed the signal never gets back to accepting.

## Key results

- `SignalInv.run`: the receivers that are waited on have seen no value sent, in every run
- `no_connection_misses_shutdown`: every connection can still be shut down, and a loop that
  has looked at the value `true` accepts nothing any more
-/

namespace Tateru.Spec

/-- The task has consumed no value, unless it is about to return, or has returned. -/
def Attentive (chan : Watch Bool) (t : BridgeTask) : Prop :=
  t.shutdown.seen = 0 ∨ (t.phase = .woken ∧ chan.value = true) ∨ t.phase = .returned

namespace Attentive

variable {chan chan' : Watch Bool} {t t' : BridgeTask}

theorem mono (h : Attentive chan t) (hvalue : chan.value = true → chan'.value = true) :
    Attentive chan' t :=
  h.imp_right (Or.imp_left (And.imp_right hvalue))

/-- A task that waits in the `select!` has consumed nothing. -/
theorem seen_eq_zero (h : Attentive chan t) (hwoken : t.phase ≠ .woken)
    (hreturned : t.phase ≠ .returned) : t.shutdown.seen = 0 := by
  rcases h with h | ⟨h, -⟩ | h
  · exact h
  · exact absurd h hwoken
  · exact absurd h hreturned

/-- A step of the task: it consumes a value only to wake up, and goes back to accepting only
    when the value it finds is `false`, so that it has consumed none. -/
theorem step {a : BridgeAction} (h : Attentive chan t)
    (hvalue : 0 < chan.version → chan.value = true) (hstep : t.step chan a = some t') :
    Attentive chan t' := by
  cases BridgeStep.of_step hstep with
  | bind hphase | accept hphase | spawn hphase =>
    exact Or.inl (h.seen_eq_zero (by simp [hphase]) (by simp [hphase]))
  | changed _ hchanged =>
    have hseen := Watch.Receiver.seen_of_changed hchanged
    -- Woken without a version to see: only the sender is gone
    by_cases hversion : chan.version = 0
    · exact Or.inl (hseen.trans hversion)
    · exact Or.inr (Or.inl ⟨rfl, hvalue (Nat.pos_of_ne_zero hversion)⟩)
  -- What it would have consumed is the value `true`, and then it does not get here
  | react hphase hfalse =>
    rcases h with h | ⟨-, htrue⟩ | h
    · exact Or.inl h
    · exact nomatch htrue.symm.trans hfalse
    · exact nomatch hphase.symm.trans h
  | reactReturns => exact Or.inr (Or.inr rfl)

end Attentive

/-- No receiver is left. -/
theorem receivers_eq_zero_iff {s : VmSystem} :
    s.receivers = 0 ↔ (∀ t ∈ s.bridges, t.phase = .returned) ∧ ∀ c ∈ s.conns, c.phase = .ended := by
  simp [VmSystem.receivers, List.countP_eq_zero, BridgeTask.live, Connection.live]

/-- Once the launch is over, no receiver is added when there is none. -/
theorem receivers_of_step {s s' : VmSystem} {a : VmAction} (h : Step s a s')
    (howner : ∀ todo, s.owner ≠ .launching todo) (hnone : s.receivers = 0) :
    s'.receivers = 0 := by
  rw [receivers_eq_zero_iff] at hnone ⊢
  constructor
  · intro t' ht'
    rcases h.bridges ht' with ht' | ⟨_, _, hlaunching, -⟩ | ⟨t, ht, b, hstep⟩
    · exact hnone.1 t' ht'
    · exact absurd hlaunching (howner _)
    · exact absurd (hnone.1 t ht) (BridgeTask.not_returned_of_step hstep)
  · intro c' hc'
    rcases h.conns hc' with hc' | ⟨t, ht, haccepted, -⟩ | ⟨c, hc, b, hstep⟩
    · exact hnone.2 c' hc'
    -- A task that has returned spawns no connection
    · exact absurd ((hnone.1 t ht).symm.trans haccepted) (by decide)
    · exact Connection.ended_of_step (hnone.2 c hc) hstep

/-- What the shutdown signal comes to: the value is `true` once there is a version to see; the
    receivers that tasks wait on have seen none; and a signal that was sent is there to see,
    unless nobody was left to see it. -/
structure SignalInv (s : VmSystem) : Prop where
  value : s.chan.value = true ↔ 0 < s.chan.version
  bridges : ∀ t ∈ s.bridges, Attentive s.chan t
  conns : ∀ c ∈ s.conns, c.shutdown.seen = 0
  version : 0 < s.chan.version → .sent ∈ s.log
  sent : .sent ∈ s.log → 0 < s.chan.version ∨ s.receivers = 0
  launching : ∀ todo, s.owner = .launching todo → .sent ∉ s.log

namespace SignalInv

theorem launch (configs : List BridgeConfig) : SignalInv (.launch configs) where
  value := by simp [VmSystem.launch, Watch.channel]
  bridges _ h := nomatch h
  conns _ h := nomatch h
  version h := nomatch h
  sent h := nomatch h
  launching _ _ h := nomatch h

variable {s s' : VmSystem} {a : VmAction}

/-- Versions are never lost. -/
theorem version_mono (h : Step s a s') : s.chan.version ≤ s'.chan.version := by
  rcases h.chan with h | ⟨-, h⟩ | h
  · exact Nat.le_of_eq (h ▸ rfl)
  · exact h ▸ Watch.version_le_send _ _ _
  · exact Nat.le_of_eq (h ▸ rfl)

theorem step (hinv : SignalInv s) (h : Step s a s') : SignalInv s' := by
  have hvalue : s'.chan.value = true ↔ 0 < s'.chan.version := by
    rcases h.chan with h | ⟨-, h⟩ | h <;> rw [h]
    · exact hinv.value
    · unfold Watch.send
      split
      · exact hinv.value
      · simp
    · exact hinv.value
  refine ⟨hvalue, ?bridges, ?conns, ?version, ?sent, ?launching⟩
  case bridges =>
    intro t' ht'
    rcases h.bridges ht' with ht' | ⟨_, _, -, rfl⟩ | ⟨t, ht, b, hstep⟩
    · exact (hinv.bridges t' ht').mono h.value
    · exact Or.inl rfl
    · exact ((hinv.bridges t ht).step hinv.value.mpr hstep).mono h.value
  case conns =>
    intro c' hc'
    rcases h.conns hc' with hc' | ⟨t, ht, haccepted, _, _, rfl⟩ | ⟨c, hc, b, hstep⟩
    · exact hinv.conns c' hc'
    · -- the clone is taken by a task that is back in the `select!`
      exact (hinv.bridges t ht).seen_eq_zero (by simp [haccepted]) (by simp [haccepted])
    · rw [Connection.shutdown_of_step hstep]
      exact hinv.conns c hc
  case version =>
    intro hversion
    rcases h.chan with hchan | ⟨hlog, -⟩ | hchan
    · exact h.log_mono.subset (hinv.version (hchan ▸ hversion))
    · rw [hlog]
      exact List.mem_append_right _ (List.mem_singleton_self _)
    · rw [hchan] at hversion
      exact h.log_mono.subset (hinv.version hversion)
  case sent =>
    intro hsent
    rcases h.sent hsent with hsent | ⟨hchan, hbridges, hconns, -⟩
    · rcases hinv.sent hsent with hversion | hnone
      · exact Or.inl (Nat.lt_of_lt_of_le hversion (version_mono h))
      · exact Or.inr (receivers_of_step h (fun todo hl => hinv.launching todo hl hsent) hnone)
    · have hreceivers : s'.receivers = s.receivers := by
        simp only [VmSystem.receivers, hbridges, hconns]
      -- The send makes a version to see, unless nobody listens
      rcases Nat.eq_zero_or_pos s.receivers with hnone | hpos
      · exact Or.inr (hreceivers.trans hnone)
      · apply Or.inl
        rw [hchan, Watch.send_of_pos _ _ hpos]
        exact Nat.succ_pos _
  case launching =>
    intro todo howner hsent
    obtain ⟨todo', howner'⟩ := h.launching howner
    rcases h.sent hsent with hsent | ⟨-, -, -, hover⟩
    · exact hinv.launching todo' howner' hsent
    · exact hover todo howner

theorem run {configs : List BridgeConfig} {as : List VmAction}
    (hrun : Run VmSystem.step (.launch configs) as s) : SignalInv s :=
  Run.invariant (fun _ _ _ hinv h => hinv.step (.of_step h)) hrun (.launch configs)

end SignalInv

/-- A task that has returned stays so. -/
theorem returned_of_run {s s' : VmSystem} {as : List VmAction}
    (hrun : Run VmSystem.step s as s') {i : Nat} {t : BridgeTask} (ht : s.bridges[i]? = some t)
    (hphase : t.phase = .returned) : s'.bridges[i]? = some t := by
  refine Run.invariant (I := fun s => s.bridges[i]? = some t) ?_ hrun ht
  intro u a u' hu h
  obtain ⟨t', ht', rfl | ⟨b, hstep⟩⟩ := (Step.of_step h).bridge_at hu
  · exact ht'
  · exact absurd hphase (BridgeTask.not_returned_of_step hstep)

/-- A task that looks at the value `true` returns. -/
theorem returned_of_react {s s' : VmSystem} {i : Nat} (h : s.step (.bridge i .react) = some s')
    (hvalue : s.chan.borrow = true) : ∃ t, s'.bridges[i]? = some t ∧ t.phase = .returned := by
  cases Step.of_step h with
  | bridge ht _ hstep =>
    cases BridgeStep.of_step hstep with
    | react _ hfalse => exact nomatch hvalue.symm.trans hfalse
    | reactReturns =>
      exact ⟨_, List.getElem?_set_self (List.getElem?_eq_some_iff.mp ht).1, rfl⟩

/-- In every run, a connection that has not ended has not consumed the signal: once the signal
    was sent or the sender was dropped, its `changed` is ready, and its `select!` can take that
    branch. The tasks that still accept have not consumed it either, and a task that has
    looked at the value `true` neither accepts nor spawns any more. -/
theorem no_connection_misses_shutdown {configs : List BridgeConfig} {as : List VmAction}
    {s : VmSystem} (hrun : Run VmSystem.step (.launch configs) as s) :
    (∀ i c, s.conns[i]? = some c → c.live = true → c.shutdown.seen = 0 ∧
      (.sent ∈ s.log ∨ s.chan.closed = true → c.shutdown.ready s.chan = true ∧
        (c.phase = .copying → (s.step (.conn i .changed)).isSome = true))) ∧
    (∀ t ∈ s.bridges, t.phase = .accepting ∨ t.phase = .accepted → t.shutdown.seen = 0) ∧
    (∀ pre i post t, as = pre ++ .bridge i .react :: post →
      Run VmSystem.step (.launch configs) pre t → t.chan.borrow = true →
      (∀ ok, s.step (.bridge i (.accept ok)) = none) ∧
        ∀ a b, s.step (.spawnConn i a b) = none) := by
  have hinv := SignalInv.run hrun
  refine ⟨?_, ?_, ?_⟩
  · intro i c hc hlive
    have hmem := List.mem_of_getElem? hc
    have hseen := hinv.conns c hmem
    refine ⟨hseen, fun hsignal => ?_⟩
    have hready : c.shutdown.ready s.chan = true := by
      simp only [Watch.Receiver.ready, Bool.or_eq_true, bne_iff_ne, hseen]
      rcases hsignal with hsent | hclosed
      -- The connection itself is a receiver, so somebody was left to see the signal
      · rcases hinv.sent hsent with hversion | hnone
        · exact Or.inl (Nat.ne_of_lt hversion)
        · rw [Connection.live, (receivers_eq_zero_iff.mp hnone).2 c hmem] at hlive
          cases hlive
      · exact Or.inr hclosed
    refine ⟨hready, fun hphase => ?_⟩
    simp [VmSystem.step, hc, Connection.step, hphase, hready]
  · intro t ht hphase
    apply (hinv.bridges t ht).seen_eq_zero <;> rcases hphase with h | h <;> simp [h]
  · intro pre i post t hsplit hpre hvalue
    obtain ⟨u, hreact, hpost⟩ := Run.cons_iff.mp (hrun.rest hsplit hpre)
    -- The task has returned, and stays so
    obtain ⟨b, hb, hreturned⟩ := returned_of_react hreact hvalue
    have hb := returned_of_run hpost hb hreturned
    constructor
    · intro ok
      simp [VmSystem.step, hb, BridgeTask.step, hreturned]
    · intro x y
      simp [VmSystem.step, hb, BridgeTask.step, hreturned]

/-- A connection that is accepted when the signal is already there. -/
theorem no_connection_misses_shutdown_late :
    let configs : List BridgeConfig := [⟨31122, ⟨[]⟩⟩]
    let actions : List VmAction := [.spawnBridge, .spawnThread true, .bridge 0 (.bind true), .stop,
      .trigger true, .signal, .bridge 0 (.accept true), .spawnConn 0 [1] [2],
      .conn 0 (.connect true)]
    ∃ s c, Run VmSystem.step (.launch configs) actions s ∧ s.conns[0]? = some c ∧
      c.shutdown.ready s.chan = true ∧ (s.step (.conn 0 .changed)).isSome = true := by
  intro configs actions
  have hrun := Run.get VmSystem.step (.launch configs) actions rfl
  obtain ⟨hseen, hready⟩ := (no_connection_misses_shutdown hrun).1 0 _ rfl rfl
  exact ⟨_, _, hrun, rfl, (hready (Or.inl (by decide))).1, (hready (Or.inl (by decide))).2 rfl⟩

end Tateru.Spec
