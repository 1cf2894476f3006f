import Tateru.Spec.VmStep

/-!
# What a connection delivers

Each direction of a connection is a pipeline, through which bytes go in order and without
loss. But the `select!` of a connection ends with the first of the two directions, and what is
then left in the other one is never written.

## Key results

- `CopyInv.run`: no direction loses, invents or reorders a byte
- `delivered_iff`: both peers get everything exactly when nothing is left in the connection at
  the step that ends its `select!`
- `half_close_loses_response`: a client that half-closes after its request loses the response
-/

namespace Tateru.Spec

/-! ## One direction -/

/-- The bytes of a direction, from the ones that were delivered first. -/
def total (k : Copy) : List UInt8 :=
  k.written ++ k.buf ++ k.inFlight ++ k.toSend

/-- Everything in the direction has been delivered. -/
def Drained (k : Copy) : Prop :=
  k.toSend = [] ∧ k.inFlight = [] ∧ k.buf = []

instance (k : Copy) : Decidable (Drained k) :=
  inferInstanceAs (Decidable (_ ∧ _ ∧ _))

@[simp] theorem total_send (k : Copy) (n : Nat) : total (k.send n) = total k := by
  simp only [total, Copy.send, List.append_assoc, List.take_append_drop]

@[simp] theorem total_read (k : Copy) (n : Nat) : total (k.read n) = total k := by
  simp only [total, Copy.read, List.append_assoc]
  rw [← List.append_assoc (k.inFlight.take n), List.take_append_drop]

@[simp] theorem total_write (k : Copy) (n : Nat) : total (k.write n) = total k := by
  simp only [total, Copy.write, List.append_assoc]
  rw [← List.append_assoc (k.buf.take n), List.take_append_drop]

/-- A direction has delivered all its bytes exactly when nothing is left in it. -/
theorem written_eq_total_iff (k : Copy) : k.written = total k ↔ Drained k := by
  simp only [total, List.append_assoc, List.self_eq_append_right, List.append_eq_nil_iff, Drained]
  constructor
  · exact fun ⟨hbuf, hflight, hsend⟩ => ⟨hsend, hflight, hbuf⟩
  · exact fun ⟨hsend, hflight, hbuf⟩ => ⟨hbuf, hflight, hsend⟩

/-! ## Both directions -/

/-- The bytes that the sending peer of a direction will send. -/
def sentBytes (a b : List UInt8) : Direction → List UInt8
  | .tcpToUnix => a
  | .unixToTcp => b

/-- The task is past its `select!`. -/
def HasLeftSelect : ConnPhase → Prop
  | .connecting | .copying => False
  | .closing _ | .ended => True

/-- No byte of either direction is lost; a peer closes after its last byte; and nothing is
    delivered before the Unix socket is connected. -/
structure CopyInv (a b : List UInt8) (c : Connection) : Prop where
  total : ∀ d, total (c.copy d) = sentBytes a b d
  closed : ∀ d, (c.copy d).closed = true → (c.copy d).toSend = []
  connecting : c.phase = .connecting → ∀ d, (c.copy d).written = []

variable {chan : Watch Bool} {c c' : Connection} {path : PathBuf} {rx : Watch.Receiver}
  {a b : List UInt8}

namespace CopyInv

theorem handle (path : PathBuf) (rx : Watch.Receiver) (a b : List UInt8) :
    CopyInv a b (.handle path rx a b) where
  total d := by cases d <;> rfl
  closed d h := by cases d <;> exact nomatch h
  connecting _ d := by cases d <;> rfl

/-- A change of one direction that keeps its bytes in order. -/
theorem setCopy {d : Direction} {k : Copy} (hinv : CopyInv a b c)
    (htotal : Spec.total k = Spec.total (c.copy d)) (hclosed : k.closed = true → k.toSend = [])
    (hconnecting : c.phase = .connecting → k.written = (c.copy d).written) :
    CopyInv a b (c.setCopy d k) where
  total d' := by
    rw [Connection.copy_setCopy]
    split
    · rename_i heq
      rw [htotal, heq, hinv.total d]
    · exact hinv.total d'
  closed d' h := by
    rw [Connection.copy_setCopy] at h ⊢
    split at h
    · rename_i heq
      rw [if_pos heq]
      exact hclosed h
    · rename_i hne
      rw [if_neg hne]
      exact hinv.closed d' h
  connecting h d' := by
    rw [Connection.phase_setCopy] at h
    rw [Connection.copy_setCopy]
    split
    · rw [hconnecting h, hinv.connecting h d]
    · exact hinv.connecting h d'

/-- A change of the phase, after which the task does not connect any more. -/
theorem setPhase {phase : ConnPhase} (hinv : CopyInv a b c) (hphase : phase ≠ .connecting) :
    CopyInv a b { c with phase } where
  total d := by rw [Connection.copy_withPhase, hinv.total d]
  closed d := by rw [Connection.copy_withPhase]; exact hinv.closed d
  connecting h := absurd h hphase

theorem step {act : ConnAction} (hinv : CopyInv a b c) (h : ConnStep chan c act c') :
    CopyInv a b c' := by
  cases h with
  | @send d n =>
    refine hinv.setCopy (total_send _ _) (fun hclosed => ?_) fun _ => rfl
    -- A peer that has closed has nothing left to send
    change ((c.copy d).toSend.drop n) = []
    rw [hinv.closed d hclosed, List.drop_nil]
  | close hsent => exact hinv.setCopy rfl (fun _ => hsent) fun _ => rfl
  | @read d _ hphase =>
    exact hinv.setCopy (total_read _ _) (hinv.closed d) fun _ => rfl
  | @write d _ hphase =>
    exact hinv.setCopy (total_write _ _) (hinv.closed d) fun h => nomatch h.symm.trans hphase
  | connect | connectFails | finish | fail | shutdown | changed => exact hinv.setPhase nofun

theorem run {as : List ConnAction} (hrun : Run (Connection.step chan) (.handle path rx a b) as c) :
    CopyInv a b c :=
  Run.invariant (fun _ _ _ hinv h => hinv.step (.of_step h)) hrun (.handle path rx a b)

/-- A direction that ends has delivered its bytes. -/
theorem written_of_finish {d : Direction} (hinv : CopyInv a b c)
    (hclosed : (c.copy d).closed = true) (hflight : (c.copy d).inFlight = [])
    (hbuf : (c.copy d).buf = []) : (c.copy d).written = sentBytes a b d := by
  rw [← hinv.total d]
  exact (written_eq_total_iff _).mpr ⟨hinv.closed d hclosed, hflight, hbuf⟩

theorem written_iff (hinv : CopyInv a b c) (d : Direction) :
    (c.copy d).written = sentBytes a b d ↔ Drained (c.copy d) := by
  rw [← hinv.total d]
  exact written_eq_total_iff _

end CopyInv

/-- A change of one direction that delivers nothing. -/
theorem written_setCopy {d : Direction} {k : Copy} (hk : k.written = (c.copy d).written)
    (d' : Direction) : ((c.setCopy d k).copy d').written = (c.copy d').written := by
  rw [Connection.copy_setCopy]
  split
  · rename_i heq
    rw [hk, heq]
  · rfl

/-- Past the `select!` nothing is delivered any more. -/
theorem written_of_step {act : ConnAction} (h : ConnStep chan c act c')
    (hleft : HasLeftSelect c.phase) :
    HasLeftSelect c'.phase ∧ ∀ d, (c'.copy d).written = (c.copy d).written := by
  cases h with
  | send | close => exact ⟨by rwa [Connection.phase_setCopy], written_setCopy rfl⟩
  | connect hphase | connectFails hphase | read hphase | write hphase | finish hphase
  | fail hphase | changed hphase =>
    rw [hphase] at hleft
    exact hleft.elim
  | shutdown => exact ⟨trivial, fun d => by rw [Connection.copy_withPhase]⟩

theorem written_of_run {as : List ConnAction} (hrun : Run (Connection.step chan) c as c')
    (hleft : HasLeftSelect c.phase) (d : Direction) :
    (c'.copy d).written = (c.copy d).written := by
  refine (Run.invariant (I := fun u => HasLeftSelect u.phase ∧
    ∀ d, (u.copy d).written = (c.copy d).written) ?_ hrun ⟨hleft, fun _ => rfl⟩).2 d
  intro u act u' hu h
  obtain ⟨hleft', hsame⟩ := written_of_step (.of_step h) hu.1
  exact ⟨hleft', fun d => (hsame d).trans (hu.2 d)⟩

/-! ## Delivery -/

/-- The step cuts no direction off: the Unix socket is connected, unless there is nothing to
    deliver; when one direction ends there is nothing left in the other; and when the task is
    woken there is nothing left in either. -/
def CutsNothing (a b : List UInt8) (c : Connection) : ConnAction → Prop
  | .connect ok => ok = true ∨ (a = [] ∧ b = [])
  | .finish d => Drained (c.copy d.other)
  | .changed => Drained c.tcpToUnix ∧ Drained c.unixToTcp
  | _ => True

instance (c : Connection) : (act : ConnAction) → Decidable (CutsNothing a b c act)
  | .connect ok => inferInstanceAs (Decidable (ok = true ∨ (a = [] ∧ b = [])))
  | .finish d => inferInstanceAs (Decidable (Drained (c.copy d.other)))
  | .changed => inferInstanceAs (Decidable (Drained c.tcpToUnix ∧ Drained c.unixToTcp))
  | .send _ _ | .close _ | .read _ _ | .write _ _ | .fail _ | .shutdown => isTrue trivial

/-- Both peers have got everything. -/
private theorem delivered_all_iff :
    (∀ d, (c.copy d).written = sentBytes a b d) ↔
      c.tcpToUnix.written = a ∧ c.unixToTcp.written = b :=
  Direction.forall_iff

private theorem drained_all_iff :
    (∀ d, Drained (c.copy d)) ↔ Drained c.tcpToUnix ∧ Drained c.unixToTcp :=
  Direction.forall_iff

/-- A step past which everything is delivered cuts nothing off. -/
private theorem cutsNothing_of_delivered {act : ConnAction} (hinv : CopyInv a b c)
    (h : ConnStep chan c act c')
    (hdelivered : HasLeftSelect c'.phase → ∀ d, (c'.copy d).written = sentBytes a b d) :
    CutsNothing a b c act := by
  cases h with
  | connect => exact Or.inl rfl
  | connectFails hphase =>
    -- A task that never connected has delivered nothing
    have hnone : ∀ d, sentBytes a b d = [] := by
      intro d
      rw [← hdelivered trivial d, Connection.copy_withPhase, hinv.connecting hphase d]
    exact Or.inr ⟨hnone .tcpToUnix, hnone .unixToTcp⟩
  | @finish d =>
    have hother := hdelivered trivial d.other
    rw [Connection.copy_withPhase] at hother
    exact (hinv.written_iff _).mp hother
  | changed =>
    apply drained_all_iff.mp
    intro d
    have hd := hdelivered trivial d
    rw [Connection.copy_withPhase] at hd
    exact (hinv.written_iff _).mp hd
  | _ => exact trivial

/-- A step that cuts nothing off leaves the `select!` with everything delivered. -/
private theorem delivered_of_cutsNothing {act : ConnAction} (hinv : CopyInv a b c)
    (hbefore : HasLeftSelect c.phase → ∀ d, (c.copy d).written = sentBytes a b d)
    (hcuts : CutsNothing a b c act) (hfail : ∀ d, act ≠ .fail d) (h : ConnStep chan c act c')
    (hleft : HasLeftSelect c'.phase) (d : Direction) :
    (c'.copy d).written = sentBytes a b d := by
  -- Nothing changes after the `select!`, so look at the step that leaves it
  by_cases hleft₀ : HasLeftSelect c.phase
  · rw [(written_of_step h hleft₀).2 d, hbefore hleft₀ d]
  cases h with
  | send | close | read | write =>
    rw [Connection.phase_setCopy] at hleft
    exact absurd hleft hleft₀
  | connect => exact hleft.elim
  | connectFails hphase =>
    obtain ⟨rfl, rfl⟩ := hcuts.resolve_left nofun
    rw [Connection.copy_withPhase, hinv.connecting hphase d]
    cases d <;> rfl
  | @finish d₀ _ hclosed hflight hbuf =>
    rw [Connection.copy_withPhase]
    have hend := hinv.written_of_finish hclosed hflight hbuf
    have hother := (hinv.written_iff _).mpr hcuts
    -- The direction that ended, and the other one
    cases d <;> cases d₀
    · exact hend
    · exact hother
    · exact hother
    · exact hend
  | @fail d => exact absurd rfl (hfail d)
  | shutdown hphase => exact absurd (hphase ▸ trivial) hleft₀
  | changed =>
    rw [Connection.copy_withPhase]
    exact (hinv.written_iff d).mpr (drained_all_iff.mpr hcuts d)

/-- In every run without a failed read or write, when the connection has ended both peers have
    got everything exactly when no step cut a direction off. -/
theorem delivered_iff {as : List ConnAction}
    (hrun : Run (Connection.step chan) (.handle path rx a b) as c) (hended : c.phase = .ended)
    (hfail : ∀ d, .fail d ∉ as) :
    (c.tcpToUnix.written = a ∧ c.unixToTcp.written = b) ↔
      Run.Meets (Connection.step chan) (CutsNothing a b) (.handle path rx a b) as := by
  rw [← delivered_all_iff]
  constructor
  · intro hdelivered pre act post t hsplit hpre
    -- What the last state says of a step: nothing is delivered after it
    obtain ⟨u, hu, hpost⟩ := Run.cons_iff.mp (hrun.rest hsplit hpre)
    apply cutsNothing_of_delivered (.run hpre) (.of_step hu)
    intro hleft d
    rw [← written_of_run hpost hleft d, hdelivered d]
  · intro hmeets
    -- The invariant is that everything is delivered once the `select!` is left
    refine (Run.invariant_of_meets
      (G := fun c act => CutsNothing a b c act ∧ ∀ d, act ≠ .fail d)
      (I := fun c => CopyInv a b c ∧
        (HasLeftSelect c.phase → ∀ d, (c.copy d).written = sentBytes a b d))
      ?_ hrun ?_ ⟨.handle path rx a b, fun h => h.elim⟩).2 (hended ▸ trivial)
    · intro u act u' hu hact h
      exact ⟨hu.1.step (.of_step h),
        delivered_of_cutsNothing hu.1 hu.2 hact.1 hact.2 (.of_step h)⟩
    · exact hmeets.and_mem fun act hact d heq => hfail d (heq ▸ hact)

/-- A request and a response, where the guest closes last. -/
theorem delivered_iff_request :
    let actions : List ConnAction := [.connect true, .send .tcpToUnix 2, .read .tcpToUnix 2,
      .write .tcpToUnix 2, .send .unixToTcp 1, .read .unixToTcp 1, .write .unixToTcp 1,
      .close .tcpToUnix, .finish .tcpToUnix, .shutdown]
    ∃ c, Run (Connection.step (Watch.channel false).1) (.handle ⟨[]⟩ ⟨0⟩ [1, 2] [3]) actions c ∧
      c.tcpToUnix.written = [1, 2] ∧ c.unixToTcp.written = [3] := by
  intro actions
  have hrun := Run.get (Connection.step (Watch.channel false).1)
    (.handle ⟨[]⟩ ⟨0⟩ [1, 2] [3]) actions rfl
  have hfail : ∀ d, .fail d ∉ actions := by rintro (_ | _) <;> decide
  exact ⟨_, hrun, (delivered_iff hrun rfl hfail).mpr (by decide)⟩

/-- A client that closes its write side after its request gets nothing of the response, although
    no read or write fails, no signal is sent and the handle is still there. -/
theorem half_close_loses_response :
    let actions : List ConnAction := [.connect true, .send .tcpToUnix 2, .close .tcpToUnix,
      .read .tcpToUnix 2, .write .tcpToUnix 2, .finish .tcpToUnix, .shutdown]
    ∃ c, Run (Connection.step (Watch.channel false).1) (.handle ⟨[]⟩ ⟨0⟩ [1, 2] [3]) actions c ∧
      c.phase = .ended ∧ c.tcpToUnix.written = [1, 2] ∧ c.unixToTcp.written ≠ [3] :=
  ⟨_, rfl, rfl, rfl, by decide⟩

/-! ## The connections of a VM -/

/-- A connection of a VM has taken its own steps, whatever happened around it. -/
theorem exists_conn_run {configs : List BridgeConfig} {as : List VmAction} {s : VmSystem}
    (hrun : Run VmSystem.step (.launch configs) as s) {chan : Watch Bool}
    (hclosed : chan.closed = true) :
    ∀ c ∈ s.conns, ∃ path rx a b cs, Run (Connection.step chan) (.handle path rx a b) cs c := by
  -- To a connection, a closed channel allows what any channel does
  have hchan : ∀ {chan' : Watch Bool} {c c' : Connection} {act : ConnAction},
      c.step chan' act = some c' → c.step chan act = some c' := by
    intro chan' c c' act h
    cases act with
    | changed =>
      obtain ⟨⟨hphase, -⟩, h⟩ := Option.ite_none_right_eq_some.mp h
      exact Option.ite_none_right_eq_some.mpr
        ⟨⟨hphase, by rw [Watch.Receiver.ready, hclosed, Bool.or_true]⟩, h⟩
    | _ => exact h
  refine Run.invariant (I := fun s => ∀ c ∈ s.conns, ∃ path rx a b cs,
    Run (Connection.step chan) (.handle path rx a b) cs c) ?_ hrun (by simp [VmSystem.launch])
  intro u act u' hu h c' hc'
  rcases (Step.of_step h).conns hc' with hc' | ⟨t, -, -, a, b, rfl⟩ | ⟨c, hc, act', hstep⟩
  · exact hu c' hc'
  · exact ⟨_, _, a, b, [], Run.nil_iff.mpr rfl⟩
  · obtain ⟨path, rx, a, b, cs, hcs⟩ := hu c hc
    exact ⟨path, rx, a, b, cs ++ [act'], Run.snoc_iff.mpr ⟨c, hcs, hchan hstep⟩⟩

end Tateru.Spec
