import Tateru.Spec.ShutdownSignal

/-!
# Connections that are stuck

A connection has a task of its own. With the rest of the VM it shares the shutdown channel, which
it only reads, and it counts as one of its receivers. So nobody has to wait for a client or for a
guest: without all that some connections do, a run is still one.

## Key results

- `Held.stays`, `Held.goes`: a step of a VM while some connections are held
- `connections_hold_nobody`: every run without the actions of some connections
-/

namespace Tateru.Spec

/-- The action is one of a connection that `J` picks, or of its peers. -/
def ofConns (J : Nat → Bool) : VmAction → Bool
  | .conn i _ => J i
  | _ => false

/-- Nobody is left to look at the channel, and nobody comes. -/
def Deserted (s : VmSystem) : Prop :=
  s.receivers = 0 ∧ ∀ todo, s.owner ≠ .launching todo

/-- The channel and the connections of a VM that has done what `s` has, but for the connections
    that `J` picks: they still connect. The channels only differ if nobody else looks at them. -/
structure Held (J : Nat → Bool) (s : VmSystem) (chan : Watch Bool) (conns : List Connection) :
    Prop where
  length : conns.length = s.conns.length
  others : ∀ i, J i = false → conns[i]? = s.conns[i]?
  held : ∀ i c, J i = true → conns[i]? = some c → c.phase = .connecting
  chan : chan = s.chan ∨ Deserted s

variable {J : Nat → Bool} {s t : VmSystem} {a : VmAction} {chan : Watch Bool}
  {conns : List Connection}

theorem Deserted.step (hs : Deserted s) (h : Step s a t) : Deserted t := by
  refine ⟨receivers_of_step h hs.2 hs.1, fun todo howner => ?_⟩
  obtain ⟨todo', hlaunching⟩ := h.launching howner
  exact hs.2 todo' hlaunching

/-- A connection that has ended does not look at the channel. -/
theorem step_of_ended {c : Connection} (hended : c.phase = .ended) (chan chan' : Watch Bool)
    (b : ConnAction) : c.step chan b = c.step chan' b := by
  cases b <;> simp [Connection.step, hended]

namespace Held

/-- A step that leaves the connections alone. -/
theorem keep (hheld : Held J s chan conns) (h : Step s a t) {chan' : Watch Bool}
    (hconns : t.conns = s.conns) (hchan : chan = s.chan → chan' = t.chan) :
    Held J t chan' conns where
  length := hconns ▸ hheld.length
  others := hconns ▸ hheld.others
  held := hheld.held
  chan := hheld.chan.imp hchan (Deserted.step · h)

/-- The connections that are held keep their receivers. -/
theorem receivers_pos (hheld : Held J s chan conns) (hpos : 0 < s.receivers) :
    0 < ({ s with chan, conns } : VmSystem).receivers := by
  rw [Nat.pos_iff_ne_zero] at hpos ⊢
  intro hzero
  obtain ⟨hbridges, hended⟩ := receivers_eq_zero_iff.mp hzero
  refine hpos (receivers_eq_zero_iff.mpr ⟨hbridges, fun c hc => ?_⟩)
  obtain ⟨i, hi⟩ := List.mem_iff_getElem?.mp hc
  cases hJ : J i with
  | false => exact hended c (List.mem_of_getElem? ((hheld.others i hJ).trans hi))
  | true =>
    have hlt : i < conns.length := by
      rw [hheld.length]
      exact (List.getElem?_eq_some_iff.mp hi).1
    have hconnecting := hheld.held i _ hJ (List.getElem?_eq_getElem hlt)
    cases hconnecting.symm.trans (hended _ (List.getElem_mem hlt))

/-- A bridge task that takes a step sees the same channel. -/
theorem chan_of_bridge (hheld : Held J s chan conns) {i : Nat} {b b' : BridgeTask}
    {act : BridgeAction} (hb : s.bridges[i]? = some b) (hstep : b.step s.chan act = some b') :
    chan = s.chan := by
  refine hheld.chan.resolve_right fun hdeserted => ?_
  have hreturned := (receivers_eq_zero_iff.mp hdeserted.1).1 b (List.mem_of_getElem? hb)
  exact BridgeTask.not_returned_of_step hstep hreturned

/-- Sending has the same effect, unless nobody is left. -/
theorem send (hheld : Held J s chan conns) {next : Owner} (hnext : ∀ todo, next ≠ .launching todo) :
    Held J (s.send next) (chan.send ({ s with chan, conns } : VmSystem).receivers true) conns where
  length := hheld.length
  others := hheld.others
  held := hheld.held
  chan := by
    rcases Nat.eq_zero_or_pos s.receivers with hzero | hpos
    · exact Or.inr ⟨hzero, hnext⟩
    · rcases hheld.chan with rfl | hdeserted
      · apply Or.inl
        rw [VmSystem.send, Watch.send_of_pos _ _ (hheld.receivers_pos hpos),
          Watch.send_of_pos _ _ hpos]
      · exact Or.inr ⟨hdeserted.1, hnext⟩

/-- A connection is spawned. -/
theorem spawn (hheld : Held J s chan conns) {c : Connection} (hphase : c.phase = .connecting)
    (hconns : t.conns = s.conns ++ [c]) (hchan : chan = t.chan) :
    Held J t chan (conns ++ [c]) where
  length := by rw [hconns, List.length_append, List.length_append, hheld.length]
  others i hi := by
    rw [hconns, List.getElem?_append, List.getElem?_append, hheld.length, hheld.others i hi]
  held i c' hi hc' := by
    rw [List.getElem?_append] at hc'
    split at hc'
    · exact hheld.held i c' hi hc'
    · obtain rfl := List.mem_singleton.mp (List.mem_of_getElem? hc')
      exact hphase
  chan := Or.inl hchan

/-- A connection that is not held takes a step. -/
theorem set (hheld : Held J s chan conns) {i : Nat} {c' : Connection} {act : ConnAction}
    (hi : J i = false) (h : Step s (.conn i act) { s with conns := s.conns.set i c' }) :
    Held J { s with conns := s.conns.set i c' } chan (conns.set i c') where
  length := by rw [List.length_set, List.length_set, hheld.length]
  others k hk := by
    rw [List.getElem?_set, List.getElem?_set, hheld.length, hheld.others k hk]
  held k c hk hc := by
    have hne : i ≠ k := by
      rintro rfl
      cases hi.symm.trans hk
    rw [List.getElem?_set_ne hne] at hc
    exact hheld.held k c hk hc
  chan := hheld.chan.imp_right (Deserted.step · h)

/-- A step of a connection that is held is left out. -/
theorem goes (hheld : Held J s chan conns) (h : Step s a t) (ha : ofConns J a = true) :
    Held J t chan conns ∧ { s with chan, conns } = { t with chan, conns } := by
  cases h with
  | @conn i act c c' hc hstep =>
    refine ⟨⟨?_, fun k hk => ?_, hheld.held, ?_⟩, rfl⟩
    · rw [List.length_set, hheld.length]
    · have hne : i ≠ k := by
        rintro rfl
        cases hk.symm.trans ha
      rw [hheld.others k hk, List.getElem?_set_ne hne]
    · exact hheld.chan.imp_right (Deserted.step · (.conn hc hstep))
  | _ => cases ha

/-- Every other step can be taken while they are held. -/
theorem stays (hheld : Held J s chan conns) (h : Step s a t) (ha : ofConns J a = false) :
    ∃ chan' conns', ({ s with chan, conns } : VmSystem).step a =
        some { t with chan := chan', conns := conns' } ∧ Held J t chan' conns' := by
  have hkeep : ∀ {chan'}, t.conns = s.conns → (chan = s.chan → chan' = t.chan) →
      Held J t chan' conns := hheld.keep h
  cases h with
  -- The owner and the VM thread look at neither the channel nor the connections
  | spawnBridge howner | spawnThread howner | isRunning howner | trigger howner
  | triggerFails howner | dropTrigger howner | cleanup howner | dropCleanup howner
  | finish howner =>
    exact ⟨chan, conns, by simp [VmSystem.step, howner, VmSystem.record, VmSystem.returnStop],
      hkeep rfl id⟩
  | stop howner hflag | stopNotRunning howner hflag | take howner hflag | takeNothing howner hflag
  | drop howner hflag | dropStopped howner hflag | joinPanicked howner hflag =>
    exact ⟨chan, conns, by simp [VmSystem.step, howner, hflag, VmSystem.record,
      VmSystem.returnStop], hkeep rfl id⟩
  | join howner hthread hhow =>
    exact ⟨chan, conns, by simp [VmSystem.step, howner, hthread, hhow, VmSystem.record],
      hkeep rfl id⟩
  | leave hthread hhow =>
    exact ⟨chan, conns, by simp [VmSystem.step, hthread, hhow], hkeep rfl id⟩
  | panic hthread | storeStopped hthread | terminate hthread =>
    exact ⟨chan, conns, by simp [VmSystem.step, hthread], hkeep rfl id⟩
  | signal howner | dropSignal howner =>
    exact ⟨_, conns, by simp [VmSystem.step, howner, VmSystem.send], hheld.send (by simp)⟩
  | spawnThreadFails howner | dropFields howner =>
    exact ⟨chan.dropSender, conns, by simp [VmSystem.step, howner],
      hkeep rfl (congrArg Watch.dropSender)⟩
  | bridge hb hact hstep =>
    obtain rfl := hheld.chan_of_bridge hb hstep
    exact ⟨_, conns, step_bridge hb hact hstep, hkeep rfl id⟩
  | spawnConn hb hstep =>
    obtain rfl := hheld.chan_of_bridge hb hstep
    exact ⟨_, _, step_spawnConn hb hstep, hheld.spawn rfl rfl rfl⟩
  | @conn i act c c' hc hstep =>
    have hc' : conns[i]? = some c := (hheld.others i ha).trans hc
    have hsame : c.step chan act = some c' := by
      rcases hheld.chan with rfl | hdeserted
      · exact hstep
      -- If the channels differ, this connection has ended like everybody else
      · have hended := (receivers_eq_zero_iff.mp hdeserted.1).2 c (List.mem_of_getElem? hc)
        rw [step_of_ended hended chan s.chan, hstep]
    exact ⟨chan, conns.set i c', by simp [VmSystem.step, hc', hsame], hheld.set ha (.conn hc hstep)⟩

end Held

/-- `u` has done what `s` has, but for all that the connections that `J` picks do. -/
def Lacks (J : Nat → Bool) (s u : VmSystem) : Prop :=
  ∃ chan conns, u = { s with chan, conns } ∧ Held J s chan conns

namespace Lacks

variable {u : VmSystem}

theorem launch (J : Nat → Bool) (configs : List BridgeConfig) :
    Lacks J (.launch configs) (.launch configs) :=
  ⟨_, _, rfl, rfl, fun _ _ => rfl, fun _ _ _ h => by simp at h, Or.inl rfl⟩

theorem goes (hlacks : Lacks J s u) (h : Step s a t) (ha : ofConns J a = true) : Lacks J t u := by
  obtain ⟨chan, conns, rfl, hheld⟩ := hlacks
  obtain ⟨hheld', hsame⟩ := hheld.goes h ha
  exact ⟨chan, conns, hsame, hheld'⟩

theorem stays (hlacks : Lacks J s u) (h : Step s a t) (ha : ofConns J a = false) :
    ∃ v, u.step a = some v ∧ Lacks J t v := by
  obtain ⟨chan, conns, rfl, hheld⟩ := hlacks
  obtain ⟨chan', conns', hstep, hheld'⟩ := hheld.stays h ha
  exact ⟨_, hstep, chan', conns', rfl, hheld'⟩

end Lacks

/-- **Nobody has to wait for a connection.** Take any run of a VM and leave out all that some of the
    connections and their peers do after they were accepted: that they connect, send, read, write,
    end or see the signal. What is left is a run too, in which the owner gets the same answers,
    and the VM thread, the bridges and all other connections come to where they were before. -/
theorem connections_hold_nobody {configs : List BridgeConfig} {as : List VmAction}
    (hrun : Run VmSystem.step (.launch configs) as s) (J : Nat → Bool) :
    ∃ u, Run VmSystem.step (.launch configs) (as.filter fun a => !ofConns J a) u ∧
      u.log = s.log ∧ u.owner = s.owner ∧ u.running = s.running ∧ u.thread = s.thread ∧
      u.bridges = s.bridges ∧ u.conns.length = s.conns.length ∧
      ∀ i, J i = false → u.conns[i]? = s.conns[i]? := by
  obtain ⟨_, hu, chan, conns, rfl, hheld⟩ := Run.simulate_filter (g := VmSystem.step)
    (p := fun a => !ofConns J a)
    (fun s a t u hlacks h ha => hlacks.goes (.of_step h) (by simpa using ha))
    (fun s a t u hlacks h ha => hlacks.stays (.of_step h) (by simpa using ha))
    hrun (Lacks.launch J configs)
  exact ⟨_, hu, rfl, rfl, rfl, rfl, rfl, hheld.length, hheld.others⟩

/-- The first of two connections is left out, and the VM is stopped as before. -/
theorem connections_hold_nobody_first :
    let configs : List BridgeConfig := [⟨31122, .ofString "/tmp/vsock-22.sock"⟩]
    let actions : List VmAction := [.spawnBridge, .spawnThread true, .bridge 0 (.bind true),
      .bridge 0 (.accept true), .spawnConn 0 [1] [2], .bridge 0 (.accept true),
      .spawnConn 0 [3] [], .conn 0 (.connect true), .conn 1 (.connect true),
      .conn 1 (.send .tcpToUnix 1), .conn 0 (.fail .tcpToUnix), .conn 1 (.read .tcpToUnix 1),
      .conn 1 (.write .tcpToUnix 1), .stop, .trigger true, .signal, .take, .leave .returned,
      .storeStopped, .terminate, .conn 0 .shutdown, .join, .cleanup, .finish, .conn 1 .changed]
    ∃ s u, Run VmSystem.step (.launch configs) actions s ∧
      Run VmSystem.step (.launch configs) (actions.filter fun a => !ofConns (· == 0) a) u ∧
      u.log = s.log ∧ .stopped .ok ∈ u.log ∧ u.conns[1]? = s.conns[1]? := by
  intro configs actions
  have hrun := Run.get VmSystem.step (.launch configs) actions (by decide +kernel)
  obtain ⟨u, hu, hlog, -, -, -, -, -, hconns⟩ := connections_hold_nobody hrun (· == 0)
  have hok : .stopped .ok ∈ u.log := by
    rw [hlog]
    decide +kernel
  exact ⟨_, u, hrun, hu, hlog, hok, hconns 1 rfl⟩

end Tateru.Spec
