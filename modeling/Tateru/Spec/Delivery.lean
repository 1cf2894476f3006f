import Tateru.Spec.TasksEnd

/-!
# What is sent arrives

A bridge only moves bytes that it has been sent, and in a fair run it moves them all: what a peer
has sent at some time gets to the other peer, unless the connection leaves its `select!` before.

## Key results

- `stage_ends`: one stage of a direction passes everything on
- `bytes_arrive`: the whole way
-/

namespace Tateru.Spec

/-- What `copy` has read from the sending peer. -/
def taken (k : Copy) : List UInt8 :=
  k.written ++ k.buf

/-- What the sending peer has sent. -/
def sentSoFar (k : Copy) : List UInt8 :=
  taken k ++ k.inFlight

@[simp] theorem taken_write (k : Copy) (n : Nat) : taken (k.write n) = taken k := by
  rw [taken, Copy.write, taken, List.append_assoc, List.take_append_drop]

theorem taken_read (k : Copy) (n : Nat) : taken (k.read n) = taken k ++ k.inFlight.take n :=
  (List.append_assoc _ _ _).symm

@[simp] theorem sentSoFar_write (k : Copy) (n : Nat) : sentSoFar (k.write n) = sentSoFar k :=
  congrArg (· ++ k.inFlight) (taken_write k n)

@[simp] theorem sentSoFar_read (k : Copy) (n : Nat) : sentSoFar (k.read n) = sentSoFar k := by
  rw [sentSoFar, taken_read, Copy.read, List.append_assoc, List.take_append_drop, sentSoFar]

theorem sentSoFar_send (k : Copy) (n : Nat) :
    sentSoFar (k.send n) = sentSoFar k ++ k.toSend.take n :=
  (List.append_assoc _ _ _).symm

theorem taken_prefix_of_step {chan : Watch Bool} {c c' : Connection} {act : ConnAction}
    (h : ConnStep chan c act c') (d : Direction) : taken (c.copy d) <+: taken (c'.copy d) :=
  prefix_of_step (fun _ _ => List.prefix_rfl) (fun _ => List.prefix_rfl)
    (fun k n => by rw [taken_read]; exact List.prefix_append _ _)
    (fun k n => by rw [taken_write]) h d

theorem sentSoFar_prefix_of_step {chan : Watch Bool} {c c' : Connection} {act : ConnAction}
    (h : ConnStep chan c act c') (d : Direction) :
    sentSoFar (c.copy d) <+: sentSoFar (c'.copy d) :=
  prefix_of_step (fun k n => by rw [sentSoFar_send]; exact List.prefix_append _ _)
    (fun _ => List.prefix_rfl) (fun k n => by rw [sentSoFar_read])
    (fun k n => by rw [sentSoFar_write]) h d

/-- A connection only connects at its start, and only gets to its `select!` from there. -/
theorem phase_of_step {chan : Watch Bool} {c c' : Connection} {act : ConnAction}
    (h : ConnStep chan c act c') (hphase : c.phase ≠ .connecting) :
    c'.phase ≠ .connecting ∧ (c'.phase = .copying → c.phase = .copying) := by
  cases h with
  | send | close | read | write => simpa using hphase
  | connect hconnecting => exact absurd hconnecting hphase
  | connectFails | finish | fail | shutdown | changed => simp

/-! ## Stages -/

/-- The connection `i` has left its `select!`, or it is there and `bytes` come first in the part
    `f` of the direction `d`. -/
def HasIn (i : Nat) (d : Direction) (f : Copy → List UInt8) (bytes : List UInt8) (s : VmSystem) :
    Prop :=
  ∃ c, s.conns[i]? = some c ∧ c.phase ≠ .connecting ∧
    (c.phase = .copying → bytes <+: f (c.copy d))

/-- The connection `i` reads in the direction `d`. -/
def Reads (i : Nat) (d : Direction) (a : VmAction) : Prop :=
  ∃ n, a = .conn i (.read d n)

/-- The connection `i` writes in the direction `d`. -/
def Writes (i : Nat) (d : Direction) (a : VmAction) : Prop :=
  ∃ n, a = .conn i (.write d n)

section

variable {configs : List BridgeConfig} {ρ : InfRun VmSystem.step (.launch configs)} {i : Nat}
  {d : Direction} {bytes : List UInt8}

theorem HasIn.step {f : Copy → List UInt8}
    (hf : ∀ {chan : Watch Bool} {c c' : Connection} {act : ConnAction}, ConnStep chan c act c' →
      f (c.copy d) <+: f (c'.copy d)) {s s' : VmSystem} {a : VmAction}
    (hs : HasIn i d f bytes s) (h : Step s a s') : HasIn i d f bytes s' := by
  obtain ⟨c, hc, hphase, hbytes⟩ := hs
  obtain ⟨c', hc', ⟨-, rfl⟩ | ⟨b, -, hconn⟩⟩ := h.conn_by hc
  · exact ⟨c', hc', hphase, hbytes⟩
  · have hstep := ConnStep.of_step hconn
    obtain ⟨hphase', hcopying⟩ := phase_of_step hstep hphase
    exact ⟨c', hc', hphase', fun h => (hbytes (hcopying h)).trans (hf hstep)⟩

/-- A stage from the part `g` of a direction to its first part `f` passes everything on, if its
    party can act as long as there is something else in `g`, and adds to `f` when it does. -/
theorem stage_ends {party : VmAction → Prop} {f g : Copy → List UInt8}
    (hfair : ρ.WeaklyFair party) (hinit : ∀ k, f k <+: g k)
    (hf : ∀ {chan : Watch Bool} {c c' : Connection} {act : ConnAction}, ConnStep chan c act c' →
      f (c.copy d) <+: f (c'.copy d))
    (hg : ∀ {chan : Watch Bool} {c c' : Connection} {act : ConnAction}, ConnStep chan c act c' →
      g (c.copy d) <+: g (c'.copy d))
    (henabled : ∀ s c, s.conns[i]? = some c → c.phase = .copying → f (c.copy d) ≠ g (c.copy d) →
      Enabled VmSystem.step party s)
    (hparty : ∀ (s : VmSystem) a s' c c', party a → s.step a = some s' → s.conns[i]? = some c →
      s'.conns[i]? = some c' → (f (c.copy d)).length < (f (c'.copy d)).length) :
    ρ.LeadsTo (HasIn i d g bytes) (HasIn i d f bytes) := by
  apply InfRun.leadsTo_of_rank
    (measureAt i fun c => bytes.length - (f (c.copy d)).length) hfair
  · rintro s ⟨c, hc, hphase, hbytes⟩
    by_cases hcopying : c.phase = .copying
    · by_cases hsame : f (c.copy d) = g (c.copy d)
      · exact Or.inl ⟨c, hc, hphase, fun h => hsame ▸ hbytes h⟩
      · exact Or.inr (henabled s c hc hcopying hsame)
    · exact Or.inl ⟨c, hc, hphase, fun h => absurd h hcopying⟩
  · rintro s a s' hs h
    have hstep := Step.of_step h
    refine Or.inr ⟨hs.step hg hstep, ?_⟩
    obtain ⟨c, hc, -⟩ := hs
    obtain ⟨c', hc', hby⟩ := hstep.conn_by hc
    rw [measureAt_eq hc, measureAt_eq hc']
    rcases hby with ⟨-, rfl⟩ | ⟨b, -, hconn⟩
    · exact Nat.le_refl _
    · exact Nat.sub_le_sub_left (hf (.of_step hconn)).length_le _
  · rintro s a s' hs hacts h
    have hs' := hs.step hg (.of_step h)
    obtain ⟨c, hc, -⟩ := hs
    obtain ⟨c', hc', hphase', hbytes'⟩ := hs'
    have hlt := hparty s a s' c c' hacts h hc hc'
    -- Either all the bytes have passed, or fewer are left
    rcases Nat.lt_or_ge (f (c.copy d)).length bytes.length with hfew | hall
    · rw [measureAt_eq hc, measureAt_eq hc']
      exact Or.inr (by omega)
    · refine Or.inl ⟨c', hc', hphase', fun hcopying => ?_⟩
      exact List.prefix_of_prefix_length_le (hbytes' hcopying) (hinit _) (by omega)

/-- What a step of a connection leads to. -/
theorem conn_of_step {s s' : VmSystem} {b : ConnAction} {c : Connection}
    (hc : s.conns[i]? = some c) (h : s.step (.conn i b) = some s') :
    ∃ c', s'.conns[i]? = some c' ∧ c.step s.chan b = some c' := by
  have hb : connAction? i (.conn i b) = some b := if_pos rfl
  obtain ⟨c', hc', ⟨hnone, -⟩ | ⟨b', hb', hconn⟩⟩ := (Step.of_step h).conn_by hc
  · cases hnone.symm.trans hb
  · obtain rfl := Option.some.inj (hb'.symm.trans hb)
    exact ⟨c', hc', hconn⟩

/-- What has been sent is read. -/
theorem read_ends (hfair : ρ.WeaklyFair (Reads i d)) :
    ρ.LeadsTo (HasIn i d sentSoFar bytes) (HasIn i d taken bytes) := by
  apply stage_ends hfair (fun _ => List.prefix_append _ _) (taken_prefix_of_step · d)
    (sentSoFar_prefix_of_step · d)
  · intro s c hc hcopying hne
    have hflight : (c.copy d).inFlight ≠ [] := by
      intro hnil
      rw [hnil, List.append_nil] at hne
      exact hne rfl
    refine ⟨.conn i (.read d 1), ⟨1, rfl⟩, ?_⟩
    simp [VmSystem.step, hc, Connection.step, hcopying]
    exact List.length_pos_iff.mpr hflight
  · rintro s a s' c c' ⟨n, rfl⟩ h hc hc'
    obtain ⟨u, hu, hconn⟩ := conn_of_step hc h
    obtain rfl := Option.some.inj (hc'.symm.trans hu)
    obtain ⟨⟨-, hpos, hle⟩, hstep⟩ := Option.ite_none_right_eq_some.mp hconn
    rw [← Option.some.inj hstep, Connection.copy_setCopy, if_pos rfl, taken_read,
      List.length_append, List.length_take]
    omega

/-- What has been read is written. -/
theorem write_ends (hfair : ρ.WeaklyFair (Writes i d)) :
    ρ.LeadsTo (HasIn i d taken bytes) (HasIn i d Copy.written bytes) := by
  apply stage_ends hfair (fun _ => List.prefix_append _ _) (written_prefix_of_step · d)
    (taken_prefix_of_step · d)
  · intro s c hc hcopying hne
    have hbuf : (c.copy d).buf ≠ [] := by
      intro hnil
      rw [hnil, List.append_nil] at hne
      exact hne rfl
    refine ⟨.conn i (.write d 1), ⟨1, rfl⟩, ?_⟩
    simp [VmSystem.step, hc, Connection.step, hcopying]
    exact List.length_pos_iff.mpr hbuf
  · rintro s a s' c c' ⟨n, rfl⟩ h hc hc'
    obtain ⟨u, hu, hconn⟩ := conn_of_step hc h
    obtain rfl := Option.some.inj (hc'.symm.trans hu)
    obtain ⟨⟨-, hpos, hle⟩, hstep⟩ := Option.ite_none_right_eq_some.mp hconn
    rw [← Option.some.inj hstep, Connection.copy_setCopy, if_pos rfl, Copy.write,
      List.length_append, List.length_take]
    omega

/-- A connection gets to its `select!`, or fails to connect. -/
theorem connect_ends (hfair : FairRun ρ) :
    ρ.LeadsTo (fun s => ∃ c, s.conns[i]? = some c ∧ bytes <+: sentSoFar (c.copy d))
      (HasIn i d sentSoFar bytes) := by
  apply InfRun.leadsTo_of_rank (fun _ => 0) (hfair.conn i)
  · rintro s ⟨c, hc, hbytes⟩
    by_cases hphase : c.phase = .connecting
    · refine Or.inr ⟨.conn i (.connect true), by simp [ConnGoesOn, connAction?], ?_⟩
      simp [VmSystem.step, hc, Connection.step, hphase]
    · exact Or.inl ⟨c, hc, hphase, fun _ => hbytes⟩
  all_goals
    rintro s a s' ⟨c, hc, hbytes⟩
  · intro h
    obtain ⟨c', hc', ⟨-, rfl⟩ | ⟨b, -, hconn⟩⟩ := (Step.of_step h).conn_by hc
    · exact Or.inr ⟨⟨c', hc', hbytes⟩, Nat.le_refl 0⟩
    · exact Or.inr ⟨⟨c', hc', hbytes.trans (sentSoFar_prefix_of_step (.of_step hconn) d)⟩,
        Nat.le_refl 0⟩
  · intro hparty h
    unfold ConnGoesOn at hparty
    obtain ⟨c', hc', ⟨hnone, -⟩ | ⟨b, hb, hconn⟩⟩ := (Step.of_step h).conn_by hc
    · rw [hnone] at hparty
      exact hparty.elim
    · have hstep := ConnStep.of_step hconn
      refine Or.inl ⟨c', hc', ?_, fun _ => hbytes.trans (sentSoFar_prefix_of_step hstep d)⟩
      rw [hb] at hparty
      -- None of its own steps leads back to connecting
      cases hstep with
      | send | close | read | write => exact hparty.elim
      | connect | connectFails | finish | fail | shutdown | changed => simp

/-- **What is sent arrives.** In a fair run in which this direction of the connection is not passed
    over for ever, everything that its peer has sent at some time gets to the other peer later, in
    order and without a gap, unless the connection leaves its `select!` or fails to connect. -/
theorem bytes_arrive (hfair : FairRun ρ) (hreads : ρ.WeaklyFair (Reads i d))
    (hwrites : ρ.WeaklyFair (Writes i d)) {k : Nat} {c : Connection}
    (hc : (ρ.state k).conns[i]? = some c) :
    ∃ l, k ≤ l ∧ ∃ c', (ρ.state l).conns[i]? = some c' ∧
      (HasLeftSelect c'.phase ∨ sentSoFar (c.copy d) <+: (c'.copy d).written) := by
  obtain ⟨l, hkl, c', hc', hphase, hbytes⟩ :=
    ((connect_ends hfair).trans (read_ends hreads)).trans (write_ends hwrites) k
      ⟨c, hc, List.prefix_rfl⟩
  refine ⟨l, hkl, c', hc', ?_⟩
  cases hp : c'.phase with
  | connecting => exact absurd hp hphase
  | copying => exact Or.inr (hbytes hp)
  | closing d => exact Or.inl trivial
  | ended => exact Or.inl trivial

end

/-- A guest that answers, and then the handle is dropped. -/
theorem bytes_arrive_answer :
    let configs : List BridgeConfig := [⟨31122, .ofString "/tmp/vsock-22.sock"⟩]
    let actions : List VmAction := [.spawnBridge, .spawnThread true, .bridge 0 (.bind true),
      .bridge 0 (.accept true), .spawnConn 0 [] [1, 2], .conn 0 (.send .unixToTcp 2),
      .conn 0 (.connect true), .conn 0 (.read .unixToTcp 2), .conn 0 (.write .unixToTcp 2), .drop,
      .trigger true, .signal, .bridge 0 .changed, .bridge 0 .react, .conn 0 .changed, .cleanup,
      .dropFields, .leave .returned, .storeStopped, .terminate]
    ∃ s, ∃ hrun : Run VmSystem.step (.launch configs) actions s, ∃ c,
      ((InfRun.ofRun hrun).state 6).conns[0]? = some c ∧ sentSoFar c.unixToTcp = [1, 2] ∧
      ∃ l, 6 ≤ l ∧ ∃ c', ((InfRun.ofRun hrun).state l).conns[0]? = some c' ∧
        (HasLeftSelect c'.phase ∨ [1, 2] <+: c'.unixToTcp.written) := by
  intro configs actions
  have hrun := Run.get VmSystem.step (.launch configs) actions (by decide +kernel)
  have hfair := fairRun_ofRun hrun (by decide +kernel) trivial (by decide +kernel)
  have hreads : (InfRun.ofRun hrun).WeaklyFair (Reads 0 .unixToTcp) := by
    apply InfRun.weaklyFair_ofRun
    rintro ⟨a, ⟨n, rfl⟩, hsome⟩
    cases hsome
  have hwrites : (InfRun.ofRun hrun).WeaklyFair (Writes 0 .unixToTcp) := by
    apply InfRun.weaklyFair_ofRun
    rintro ⟨a, ⟨n, rfl⟩, hsome⟩
    cases hsome
  have hc : ((InfRun.ofRun hrun).state 6).conns[0]? =
      some ⟨_, _, .connecting, .start [], ⟨[], false, [1, 2], [], []⟩⟩ := rfl
  exact ⟨_, hrun, _, hc, rfl, bytes_arrive (d := .unixToTcp) hfair hreads hwrites hc⟩

end Tateru.Spec
