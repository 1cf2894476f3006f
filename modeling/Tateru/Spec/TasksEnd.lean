import Tateru.Spec.AcceptLoops
import Tateru.Spec.CallsReturn
import Tateru.Spec.Connections

/-!
# Signalled tasks end

The shutdown signal is only a value that a task may look at, and a task waits for it next to its
other work. In a fair run it gets there all the same: once `true` has been sent every bridge task
returns and every connection ends, in whatever they were caught.

## Key results

- `bridge_returns`, `conn_ends`: one task
- `tasks_end`: all of them, for good
-/

namespace Tateru.Spec

variable {s s' : VmSystem} {a : VmAction} {i : Nat}

/-! ## Bridge tasks -/

/-- `true` has been sent, and is there to see. -/
structure Signalled (s : VmSystem) : Prop where
  inv : SignalInv s
  sent : .sent ∈ s.log
  version : 0 < s.chan.version

/-- The bridge task `i` is there, in a phase such as `P`. -/
def BridgeIn (i : Nat) (P : BridgePhase → Prop) (s : VmSystem) : Prop :=
  ∃ t, s.bridges[i]? = some t ∧ P t.phase

namespace Signalled

/-- The launch is over. -/
theorem not_launching (h : Signalled s) (todo : List BridgeConfig) : s.owner ≠ .launching todo :=
  fun howner => h.inv.launching todo howner h.sent

theorem step (hs : Signalled s) (h : Step s a s') : Signalled s' where
  inv := hs.inv.step h
  sent := h.log_mono.subset hs.sent
  version := Nat.lt_of_lt_of_le hs.version (SignalInv.version_mono h)

end Signalled

/-- A signalled task that is awake finds the value `true`. -/
theorem returned_of_woken (hs : Signalled s) {t t' : BridgeTask} {b : BridgeAction}
    (hphase : t.phase = .woken) (h : BridgeStep s.chan t b t') : t'.phase = .returned := by
  cases h with
  | reactReturns => rfl
  | react _ hvalue => cases hvalue.symm.trans (hs.inv.value.mpr hs.version)
  | bind hnot | accept hnot | spawn hnot | changed hnot => cases hphase.symm.trans hnot

/-- The phases of the `select!` and after it. -/
def AfterBind : BridgePhase → Prop
  | .accepting | .woken | .returned => True
  | _ => False

section

variable {configs : List BridgeConfig} {ρ : InfRun VmSystem.step (.launch configs)}

/-- A task that is not in its `select!` gets there. -/
theorem bridge_selects (hfair : FairRun ρ) (i : Nat) :
    ρ.LeadsTo (BridgeIn i fun _ => True) (BridgeIn i AfterBind) := by
  apply InfRun.leadsTo_of_rank (fun _ => 0) (hfair.bridge i)
  · rintro s ⟨t, ht, -⟩
    cases hphase : t.phase with
    | binding =>
      refine Or.inr ⟨.bridge i (.bind true), by simp [BridgeGoesOn, bridgeAction?], ?_⟩
      simp [VmSystem.step, ht, BridgeTask.step, hphase]
    | accepted =>
      refine Or.inr ⟨.spawnConn i [] [], by simp [BridgeGoesOn, bridgeAction?], ?_⟩
      simp [VmSystem.step, ht, BridgeTask.step, hphase]
    | accepting | woken | returned => exact Or.inl ⟨t, ht, by rw [hphase]; trivial⟩
  · rintro s a s' ⟨t, ht, -⟩ h
    obtain ⟨t', ht', -⟩ := (Step.of_step h).bridge_by ht
    exact Or.inr ⟨⟨t', ht', trivial⟩, Nat.le_refl 0⟩
  · rintro s a s' ⟨t, ht, -⟩ hparty h
    unfold BridgeGoesOn at hparty
    obtain ⟨t', ht', ⟨hnone, -⟩ | ⟨b, hb, hstep⟩⟩ := (Step.of_step h).bridge_by ht
    · rw [hnone] at hparty
      exact hparty.elim
    · refine Or.inl ⟨t', ht', ?_⟩
      rw [hb] at hparty
      cases BridgeStep.of_step hstep with
      | @bind ok => cases ok <;> exact trivial
      | accept => exact hparty.elim
      | spawn | changed | react | reactReturns => exact trivial

/-- A task that is signalled wakes up. -/
theorem bridge_wakes (hfair : FairRun ρ) (i : Nat) :
    ρ.LeadsTo (fun s => Signalled s ∧ BridgeIn i (fun _ => True) s)
      (BridgeIn i fun phase => phase = .woken ∨ phase = .returned) := by
  apply InfRun.leadsTo_of_recurring (hfair.changed i)
  · rintro k ⟨hsignalled, hthere⟩
    obtain ⟨l, hkl, t, ht, hphase⟩ := bridge_selects hfair i k hthere
    refine ⟨l, hkl, ?_⟩
    have hl := InfRun.stable (ρ := ρ) (fun s a s' hs h => Signalled.step hs (.of_step h)) hkl
      hsignalled
    cases hp : t.phase with
    | binding | accepted =>
      rw [hp] at hphase
      exact hphase.elim
    | woken | returned => exact Or.inl ⟨t, ht, by simp [hp]⟩
    | accepting =>
      -- It has seen no version, and there is one to see
      have hseen := (hl.inv.bridges t (List.mem_of_getElem? ht)).seen_eq_zero
        (by simp [hp]) (by simp [hp])
      have hready : t.shutdown.ready (ρ.state l).chan = true := by
        have hversion := Nat.ne_of_lt hl.version
        simp [Watch.Receiver.ready, hseen, hversion]
      refine Or.inr ⟨.bridge i .changed, rfl, ?_⟩
      simp [VmSystem.step, ht, BridgeTask.step, hp, Watch.Receiver.changed_isSome, hready]
  · rintro s a s' ⟨hs, t, ht, -⟩ h
    obtain ⟨t', ht', -⟩ := (Step.of_step h).bridge_by ht
    exact Or.inr ⟨hs.step (.of_step h), t', ht', trivial⟩
  · rintro s a s' ⟨-, t, ht, -⟩ rfl h
    have hchanged : bridgeAction? i (.bridge i .changed) = some .changed := if_pos rfl
    obtain ⟨t', ht', ⟨hnone, -⟩ | ⟨b, hb, hstep⟩⟩ := (Step.of_step h).bridge_by ht
    · cases hnone.symm.trans hchanged
    · obtain rfl := Option.some.inj (hb.symm.trans hchanged)
      cases BridgeStep.of_step hstep
      exact ⟨_, ht', Or.inl rfl⟩

/-- A task that is signalled returns. -/
theorem bridge_returns (hfair : FairRun ρ) (i : Nat) :
    ρ.LeadsTo (fun s => Signalled s ∧ BridgeIn i (fun _ => True) s)
      (BridgeIn i fun phase => phase = .returned) := by
  have hwoken : ρ.LeadsTo (fun s => Signalled s ∧ BridgeIn i (· = .woken) s)
      (BridgeIn i (· = .returned)) := by
    apply InfRun.leadsTo_of_rank (fun _ => 0) (hfair.bridge i)
    · rintro s ⟨-, t, ht, hphase⟩
      refine Or.inr ⟨.bridge i .react, by simp [BridgeGoesOn, bridgeAction?], ?_⟩
      simp [VmSystem.step, ht, BridgeTask.step, hphase]
    all_goals
      rintro s a s' ⟨hs, t, ht, hphase⟩
    · intro h
      obtain ⟨t', ht', ⟨-, rfl⟩ | ⟨b, -, hstep⟩⟩ := (Step.of_step h).bridge_by ht
      · exact Or.inr ⟨⟨hs.step (.of_step h), t', ht', hphase⟩, Nat.le_refl 0⟩
      · exact Or.inl ⟨t', ht', returned_of_woken hs hphase (.of_step hstep)⟩
    · intro hparty h
      unfold BridgeGoesOn at hparty
      obtain ⟨t', ht', ⟨hnone, -⟩ | ⟨b, -, hstep⟩⟩ := (Step.of_step h).bridge_by ht
      · rw [hnone] at hparty
        exact hparty.elim
      · exact Or.inl ⟨t', ht', returned_of_woken hs hphase (.of_step hstep)⟩
  rintro k ⟨hsignalled, hthere⟩
  obtain ⟨l, hkl, t, ht, hphase⟩ := bridge_wakes hfair i k ⟨hsignalled, hthere⟩
  rcases hphase with hphase | hphase
  · have hl := InfRun.stable (ρ := ρ) (fun s a s' hs h => Signalled.step hs (.of_step h)) hkl
      hsignalled
    obtain ⟨m, hlm, hm⟩ := hwoken l ⟨hl, t, ht, hphase⟩
    exact ⟨m, Nat.le_trans hkl hlm, hm⟩
  · exact ⟨l, hkl, t, ht, hphase⟩

/-! ## Connections -/

end

/-- The number of steps that are left of a connection, other than copying. -/
def connLeft : ConnPhase → Nat
  | .connecting => 3
  | .copying => 2
  | .closing _ => 1
  | .ended => 0

/-- What a step does to a connection, if it has not ended. -/
theorem connLeft_of_step {chan : Watch Bool} {c c' : Connection} {b : ConnAction}
    (h : ConnStep chan c b c') :
    connLeft c'.phase < connLeft c.phase ∨
      (c'.phase = c.phase ∧ b ≠ .changed ∧ b ≠ .shutdown ∧ ∀ ok, b ≠ .connect ok) := by
  cases h with
  | connect hphase | connectFails hphase | finish hphase | fail hphase | shutdown hphase
  | changed hphase => simp [hphase, connLeft]
  | send | close | read | write => simp

section

variable {configs : List BridgeConfig} {ρ : InfRun VmSystem.step (.launch configs)}

/-- The connection `i` is there, in a phase such as `P`. -/
def ConnIn (i : Nat) (P : ConnPhase → Prop) (s : VmSystem) : Prop :=
  ∃ c, s.conns[i]? = some c ∧ P c.phase

/-- Every receiver that has seen nothing is ready. -/
structure Heard (s : VmSystem) : Prop where
  inv : SignalInv s
  ready : 0 < s.chan.version ∨ s.chan.closed = true

namespace Heard

theorem step (hs : Heard s) (h : Step s a s') : Heard s' where
  inv := hs.inv.step h
  ready := by
    rcases hs.ready with hversion | hclosed
    · exact Or.inl (Nat.lt_of_lt_of_le hversion (SignalInv.version_mono h))
    · apply Or.inr
      rcases h.chan with hchan | ⟨-, hchan⟩ | hchan <;> rw [hchan]
      · exact hclosed
      · rw [Watch.closed_send, hclosed]
      · rfl

/-- A connection of such a VM can go on until it has ended. -/
theorem enabled (hs : Heard s) {c : Connection} (hc : s.conns[i]? = some c) :
    c.phase = .ended ∨ Enabled VmSystem.step (ConnGoesOn i) s := by
  have hready : c.shutdown.ready s.chan = true := by
    simp only [Watch.Receiver.ready, Bool.or_eq_true, bne_iff_ne,
      hs.inv.conns c (List.mem_of_getElem? hc)]
    exact hs.ready.imp_left Nat.ne_of_lt
  cases hphase : c.phase with
  | connecting =>
    refine Or.inr ⟨.conn i (.connect true), by simp [ConnGoesOn, connAction?], ?_⟩
    simp [VmSystem.step, hc, Connection.step, hphase]
  | copying =>
    refine Or.inr ⟨.conn i .changed, by simp [ConnGoesOn, connAction?], ?_⟩
    simp [VmSystem.step, hc, Connection.step, hphase, hready]
  | closing d =>
    refine Or.inr ⟨.conn i .shutdown, by simp [ConnGoesOn, connAction?], ?_⟩
    simp [VmSystem.step, hc, Connection.step, hphase]
  | ended => exact Or.inl rfl

end Heard

/-- What is left of the connection `i`, in a measure of connections. -/
def measureAt (i : Nat) (m : Connection → Nat) (s : VmSystem) : Nat :=
  (s.conns[i]?.map m).getD 0

theorem measureAt_eq {m : Connection → Nat} {c : Connection} (hc : s.conns[i]? = some c) :
    measureAt i m s = m c := by
  rw [measureAt, hc]
  rfl

/-- A connection ends when the signal is there, or the sender is gone. -/
theorem conn_ends (hfair : FairRun ρ) (i : Nat) :
    ρ.LeadsTo (fun s => Heard s ∧ ConnIn i (fun _ => True) s) (ConnIn i (· = .ended)) := by
  apply InfRun.leadsTo_of_rank (measureAt i fun c => connLeft c.phase) (hfair.conn i)
  · rintro s ⟨hs, c, hc, -⟩
    exact (hs.enabled hc).imp_left fun hphase => ⟨c, hc, hphase⟩
  · rintro s a s' ⟨hs, c, hc, -⟩ h
    obtain ⟨c', hc', hby⟩ := (Step.of_step h).conn_by hc
    refine Or.inr ⟨⟨hs.step (.of_step h), c', hc', trivial⟩, ?_⟩
    rw [measureAt_eq hc, measureAt_eq hc']
    rcases hby with ⟨-, rfl⟩ | ⟨b, -, hstep⟩
    · exact Nat.le_refl _
    · rcases connLeft_of_step (.of_step hstep) with hlt | ⟨hsame, -⟩
      · exact Nat.le_of_lt hlt
      · exact Nat.le_of_eq (by rw [hsame])
  · rintro s a s' ⟨hs, c, hc, -⟩ hparty h
    unfold ConnGoesOn at hparty
    obtain ⟨c', hc', hby⟩ := (Step.of_step h).conn_by hc
    refine Or.inr ?_
    rw [measureAt_eq hc, measureAt_eq hc']
    rcases hby with ⟨hnone, -⟩ | ⟨b, hb, hstep⟩
    · rw [hnone] at hparty
      exact hparty.elim
    · rw [hb] at hparty
      rcases connLeft_of_step (.of_step hstep) with hlt | ⟨-, hchanged, hshutdown, hconnect⟩
      · exact hlt
      · cases b with
        | connect ok => exact absurd rfl (hconnect ok)
        | changed => exact absurd rfl hchanged
        | shutdown => exact absurd rfl hshutdown
        | _ => exact hparty.elim

/-! ## All tasks -/

/-- A launch that is over spawns no bridge. -/
theorem Step.length_bridges (h : Step s a s') (howner : ∀ todo, s.owner ≠ .launching todo) :
    s'.bridges.length = s.bridges.length := by
  cases h with
  | spawnBridge hlaunching => exact absurd hlaunching (howner _)
  | bridge | spawnConn => exact List.length_set
  | _ => rfl

/-- Bridges that have all returned spawn no connection. -/
theorem Step.length_conns (h : Step s a s') (hall : AllReturned s) :
    s'.conns.length = s.conns.length := by
  cases h with
  | spawnConn ht hstep =>
    exact absurd (hall _ (List.mem_of_getElem? ht)) (BridgeTask.not_returned_of_step hstep)
  | conn => exact List.length_set
  | _ => rfl

/-- Connections that are there end. -/
theorem conns_end (hfair : FairRun ρ) {k : Nat} (hheard : Heard (ρ.state k)) :
    ∃ l, k ≤ l ∧ ∀ i, i < (ρ.state k).conns.length → ConnIn i (· = .ended) (ρ.state l) := by
  apply InfRun.eventually_all
  · rintro i s a s' ⟨c, hc, hended⟩ h
    obtain ⟨c', hc', ⟨-, rfl⟩ | ⟨b, -, hstep⟩⟩ := (Step.of_step h).conn_by hc
    · exact ⟨c', hc', hended⟩
    · exact ⟨c', hc', Connection.ended_of_step hended hstep⟩
  · intro i hi
    exact conn_ends hfair i k ⟨hheard, _, List.getElem?_eq_getElem hi, trivial⟩

/-- The launch is over, and all its bridges have returned. -/
structure Quiet (s : VmSystem) : Prop where
  launched : ∀ todo, s.owner ≠ .launching todo
  returned : AllReturned s

theorem Quiet.step (hs : Quiet s) (h : Step s a s') : Quiet s' where
  launched todo howner := by
    obtain ⟨todo', hlaunching⟩ := h.launching howner
    exact hs.launched todo' hlaunching
  returned t' ht' := by
    rcases h.bridges ht' with ht' | ⟨_, _, hlaunching, -⟩ | ⟨t, ht, b, hstep⟩
    · exact hs.returned t' ht'
    · exact absurd hlaunching (hs.launched _)
    · exact absurd (hs.returned t ht) (BridgeTask.not_returned_of_step hstep)

/-- The bridges that are signalled all return. -/
theorem bridges_return (hfair : FairRun ρ) {k : Nat} (hs : Signalled (ρ.state k)) :
    ∃ l, k ≤ l ∧ Quiet (ρ.state l) := by
  obtain ⟨l, hkl, hl⟩ := InfRun.eventually_all (ρ := ρ) (P := fun i => BridgeIn i (· = .returned))
    (n := (ρ.state k).bridges.length) (k := k) (by
      rintro i s a s' ⟨t, ht, hreturned⟩ h
      obtain ⟨t', ht', ⟨-, rfl⟩ | ⟨b, -, hstep⟩⟩ := (Step.of_step h).bridge_by ht
      · exact ⟨t', ht', hreturned⟩
      · exact absurd hreturned (BridgeTask.not_returned_of_step hstep))
    (fun i hi => bridge_returns hfair i k ⟨hs, _, List.getElem?_eq_getElem hi, trivial⟩)
  -- No bridge has been added meanwhile
  have hlength := InfRun.stable (ρ := ρ)
    (P := fun s => Signalled s ∧ s.bridges.length = (ρ.state k).bridges.length)
    (fun s a s' hI h => ⟨hI.1.step (.of_step h),
      ((Step.of_step h).length_bridges hI.1.not_launching).trans hI.2⟩) hkl ⟨hs, rfl⟩
  refine ⟨l, hkl, hlength.1.not_launching, fun t ht => ?_⟩
  obtain ⟨i, hi, rfl⟩ := List.mem_iff_getElem.mp ht
  obtain ⟨t', ht', hreturned⟩ := hl i (hlength.2 ▸ hi)
  rw [List.getElem?_eq_getElem hi] at ht'
  exact Option.some.inj ht' ▸ hreturned

/-- Once no bridge is left, the connections come to their end too. -/
theorem receivers_end (hfair : FairRun ρ) {k : Nat} (hheard : Heard (ρ.state k))
    (hquiet : Quiet (ρ.state k)) :
    ∃ l, k ≤ l ∧ Quiet (ρ.state l) ∧ (ρ.state l).receivers = 0 := by
  obtain ⟨l, hkl, hended⟩ := conns_end hfair hheard
  -- No connection has been added meanwhile
  have hlength := InfRun.stable (ρ := ρ)
    (P := fun s => Quiet s ∧ s.conns.length = (ρ.state k).conns.length)
    (fun s a s' hI h => ⟨hI.1.step (.of_step h),
      ((Step.of_step h).length_conns hI.1.returned).trans hI.2⟩) hkl ⟨hquiet, rfl⟩
  refine ⟨l, hkl, hlength.1, receivers_eq_zero_iff.mpr ⟨hlength.1.returned, fun c hc => ?_⟩⟩
  obtain ⟨i, hi, rfl⟩ := List.mem_iff_getElem.mp hc
  obtain ⟨c', hc', hended'⟩ := hended i (hlength.2 ▸ hi)
  rw [List.getElem?_eq_getElem hi] at hc'
  exact Option.some.inj hc' ▸ hended'

/-- Once `true` has been sent, there comes a time from which on no receiver is left. -/
theorem receivers_gone (hfair : FairRun ρ) {k : Nat} (hsent : .sent ∈ (ρ.state k).log) :
    ∃ l, k ≤ l ∧ ∀ m, l ≤ m → (ρ.state m).receivers = 0 := by
  obtain ⟨as, has⟩ := ρ.exists_run_start k
  have hinv := SignalInv.run has
  have hend : ∃ l, k ≤ l ∧ Quiet (ρ.state l) ∧ (ρ.state l).receivers = 0 := by
    rcases hinv.sent hsent with hversion | hnone
    · obtain ⟨l, hkl, hquiet⟩ := bridges_return hfair ⟨hinv, hsent, hversion⟩
      have hheard := InfRun.stable (ρ := ρ) (fun s a s' hs h => Heard.step hs (.of_step h)) hkl
        ⟨hinv, Or.inl hversion⟩
      obtain ⟨m, hlm, hm⟩ := receivers_end hfair hheard hquiet
      exact ⟨m, Nat.le_trans hkl hlm, hm⟩
    -- Nobody was left to see the signal
    · exact ⟨k, Nat.le_refl k, ⟨fun todo howner => hinv.launching todo howner hsent,
        (receivers_eq_zero_iff.mp hnone).1⟩, hnone⟩
  obtain ⟨l, hkl, hl⟩ := hend
  refine ⟨l, hkl, fun m hlm => ?_⟩
  exact (InfRun.stable (ρ := ρ) (P := fun s => Quiet s ∧ s.receivers = 0)
    (fun s a s' hs h =>
      ⟨hs.1.step (.of_step h), receivers_of_step (.of_step h) hs.1.launched hs.2⟩)
    hlm hl).2

/-- **Signalled tasks end.** In a fair run, once `true` has been sent, by a `stop` or by a `drop`,
    there comes a time from which on no bridge task and no connection is left, whatever had been
    accepted before and meanwhile. Once the sender is gone, signal or not, the connections that
    are there end. -/
theorem tasks_end (hfair : FairRun ρ) (k : Nat) :
    (.sent ∈ (ρ.state k).log → ∃ l, k ≤ l ∧ ∀ m, l ≤ m → (ρ.state m).receivers = 0) ∧
    ((ρ.state k).chan.closed = true →
      ∃ l, k ≤ l ∧ ∀ i, i < (ρ.state k).conns.length → ConnIn i (· = .ended) (ρ.state l)) := by
  refine ⟨receivers_gone hfair, fun hclosed => conns_end hfair ⟨?_, Or.inr hclosed⟩⟩
  obtain ⟨as, has⟩ := ρ.exists_run_start k
  exact .run has

end

/-- A bridge with a connection, when the handle is dropped. -/
theorem tasks_end_dropped :
    let configs : List BridgeConfig := [⟨31122, .ofString "/tmp/vsock-22.sock"⟩]
    let actions : List VmAction := [.spawnBridge, .spawnThread true, .bridge 0 (.bind true),
      .bridge 0 (.accept true), .spawnConn 0 [1] [2], .conn 0 (.connect true), .drop,
      .trigger true, .signal, .bridge 0 .changed, .bridge 0 .react, .conn 0 .changed, .cleanup,
      .dropFields, .leave .returned, .storeStopped, .terminate]
    ∃ s, ∃ hrun : Run VmSystem.step (.launch configs) actions s,
      ((InfRun.ofRun hrun).state 9).receivers = 2 ∧ .sent ∈ ((InfRun.ofRun hrun).state 9).log ∧
      ∃ l, 9 ≤ l ∧ ∀ m, l ≤ m → ((InfRun.ofRun hrun).state m).receivers = 0 := by
  intro configs actions
  have hrun := Run.get VmSystem.step (.launch configs) actions (by decide +kernel)
  have hlog : ((InfRun.ofRun hrun).state 9).log = [.triggered true, .sent] := rfl
  have hsent : .sent ∈ ((InfRun.ofRun hrun).state 9).log := by simp [hlog]
  have hfair := fairRun_ofRun hrun (by decide +kernel) trivial (by decide +kernel)
  exact ⟨_, hrun, rfl, hsent, (tasks_end hfair 9).1 hsent⟩

end Tateru.Spec
