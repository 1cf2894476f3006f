import Tateru.Spec.ShutdownSignal

/-!
# Accept loops and the end of the sender

A bridge task that is woken looks at the value of the channel, not at what `changed` reported.
When the sender goes away without having sent `true`, the task finds `false`, goes back to
its `select!`, and is woken again at once. That happens when the VM has exited before the
handle is dropped, and when the launch fails after the bridges were spawned.

## Key results

- `woken_returns_without_sender`: no loop goes on without its sender, in every run where the
  bridges are signalled before the sender goes away
- `woken_goes_on_without_sender`: a run in which the VM exits first
- `loop_goes_on_of_unsignalled`: whenever the bridges are not signalled, a loop can go on
-/

namespace Tateru.Spec

/-- Every bridge task has returned. -/
def AllReturned (s : VmSystem) : Prop :=
  ∀ t ∈ s.bridges, t.phase = .returned

/-- The steps that do not let the sender go away unheard: the handle is dropped while the VM
    runs, or after a value `true`, or when there is no bridge task left; and the spawn of the
    VM thread fails only when there is none. -/
def SignalsBridges (s : VmSystem) (a : VmAction) : Prop :=
  (a = .spawnThread false → AllReturned s) ∧
    (a = .drop → s.running = true ∨ s.chan.value = true ∨ AllReturned s)

instance (s : VmSystem) : Decidable (AllReturned s) :=
  inferInstanceAs (Decidable (∀ t ∈ s.bridges, t.phase = .returned))

instance (s : VmSystem) (a : VmAction) : Decidable (SignalsBridges s a) :=
  inferInstanceAs (Decidable ((a = .spawnThread false → AllReturned s) ∧
    (a = .drop → s.running = true ∨ s.chan.value = true ∨ AllReturned s)))

theorem exists_of_not_allReturned {s : VmSystem} (h : ¬ AllReturned s) :
    ∃ t ∈ s.bridges, t.phase ≠ .returned := by
  simpa [AllReturned] using h

/-- The owner sends nothing any more. -/
def NoSender : Owner → Prop
  | .failed | .dropping .cleanup | .dropping .fields | .dropped => True
  | _ => False

/-- Once the owner sends nothing any more, the value is `true` or no bridge task is left. -/
structure HeardInv (s : VmSystem) : Prop where
  closed : s.chan.closed = true → NoSender s.owner
  heard : NoSender s.owner → s.chan.value = true ∨ AllReturned s

namespace HeardInv

theorem launch (configs : List BridgeConfig) : HeardInv (.launch configs) where
  closed h := nomatch h
  heard h := h.elim

variable {s s' : VmSystem} {a : VmAction}

/-- No bridge task comes back, and none is spawned after the launch. -/
theorem allReturned_of_step (h : Step s a s') (howner : NoSender s.owner)
    (hall : AllReturned s) : AllReturned s' := by
  intro t' ht'
  rcases h.bridges ht' with ht' | ⟨_, _, hlaunching, -⟩ | ⟨t, ht, b, hstep⟩
  · exact hall t' ht'
  · exact (hlaunching ▸ howner : NoSender (.launching _)).elim
  -- A task that has returned takes no step
  · exact absurd (hall t ht) (BridgeTask.not_returned_of_step hstep)

/-- What was heard before a step is heard after it. -/
theorem heard_of_step (hinv : HeardInv s) (h : Step s a s') (howner : NoSender s.owner) :
    s'.chan.value = true ∨ AllReturned s' :=
  (hinv.heard howner).imp h.value (allReturned_of_step h howner)

/-- After `send(true)` the value is `true`, unless nobody listens. -/
theorem heard_of_send (s : VmSystem) (next : Owner) :
    (s.send next).chan.value = true ∨ AllReturned (s.send next) := by
  -- A send that nobody listens to stores nothing
  rcases Nat.eq_zero_or_pos s.receivers with hnone | hpos
  · exact Or.inr (receivers_eq_zero_iff.mp hnone).1
  · apply Or.inl
    change (s.chan.send s.receivers true).value = true
    rw [Watch.send_of_pos _ _ hpos]

theorem step (hinv : HeardInv s) (hguard : SignalsBridges s a) (h : Step s a s') :
    HeardInv s' := by
  have hopen : s.chan.closed = true → ¬ NoSender s.owner → False :=
    fun hclosed howner => howner (hinv.closed hclosed)
  constructor
  case closed =>
    intro hclosed
    cases h with
    | spawnThreadFails | dropFields => exact trivial
    | signal howner =>
      rw [VmSystem.send, Watch.closed_send] at hclosed
      exact (hopen hclosed (howner ▸ id)).elim
    | dropSignal | dropStopped | dropCleanup => exact trivial
    -- The owner still holds the sender before these
    | spawnBridge howner | spawnThread howner | stop howner | stopNotRunning howner
    | trigger howner | triggerFails howner | dropTrigger howner | take howner | takeNothing howner
    | join howner | joinPanicked howner | cleanup howner | finish howner | drop howner =>
      exact (hopen hclosed (howner ▸ id)).elim
    | _ => exact hinv.closed hclosed
  case heard =>
    intro howner'
    have hheard := hinv.heard_of_step h
    cases h with
    -- The three ways to give up the sender; the condition is about the first and the last
    | spawnThreadFails => exact Or.inr (hguard.1 rfl)
    | dropSignal => exact heard_of_send s _
    | dropStopped howner hrunning =>
      rcases hguard.2 rfl with h | h | h
      · exact absurd (h.symm.trans hrunning) (by decide)
      · exact Or.inl h
      · exact Or.inr h
    | dropCleanup howner | dropFields howner => exact hinv.heard (howner ▸ trivial)
    | spawnBridge | spawnThread | stop | stopNotRunning | trigger | triggerFails | dropTrigger
    | signal | take | takeNothing | join | joinPanicked | cleanup | finish | drop =>
      exact howner'.elim
    | _ => exact hheard howner'

theorem run {configs : List BridgeConfig} {as : List VmAction}
    (hrun : Run VmSystem.step (.launch configs) as s)
    (hmeets : Run.Meets VmSystem.step SignalsBridges (.launch configs) as) : HeardInv s :=
  Run.invariant_of_meets (fun _ _ _ hinv hguard h => hinv.step hguard (.of_step h)) hrun hmeets
    (.launch configs)

end HeardInv

/-- In every run that signals the bridges before the sender goes away: once it is gone, a
    bridge task that is woken returns. -/
theorem woken_returns_without_sender {configs : List BridgeConfig} {as : List VmAction}
    {s s' : VmSystem} {i : Nat} (hrun : Run VmSystem.step (.launch configs) as s)
    (hmeets : Run.Meets VmSystem.step SignalsBridges (.launch configs) as)
    (hclosed : s.chan.closed = true) (hreact : s.step (.bridge i .react) = some s') :
    ∃ t, s'.bridges[i]? = some t ∧ t.phase = .returned := by
  have hinv := HeardInv.run hrun hmeets
  -- The value is `true`, or no task is left that could be woken
  rcases hinv.heard (hinv.closed hclosed) with hvalue | hall
  · exact returned_of_react hreact hvalue
  · cases Step.of_step hreact with
    | bridge ht _ hstep =>
      exact absurd (hall _ (List.mem_of_getElem? ht)) (BridgeTask.not_returned_of_step hstep)

/-- A bridge without clients: the owner stops the VM, and drops the handle. -/
theorem woken_returns_without_sender_stopped :
    let configs : List BridgeConfig := [⟨31122, ⟨[]⟩⟩]
    let actions : List VmAction := [.spawnBridge, .spawnThread true, .bridge 0 (.bind true), .stop,
      .trigger true, .signal, .take, .leave .returned, .storeStopped, .terminate, .join, .cleanup,
      .finish, .drop, .cleanup, .dropFields, .bridge 0 .changed]
    ∃ s, Run VmSystem.step (.launch configs) actions s ∧
      ∃ s', s.step (.bridge 0 .react) = some s' ∧
        ∃ t, s'.bridges[0]? = some t ∧ t.phase = .returned := by
  intro configs actions
  have hrun := Run.get VmSystem.step (.launch configs) actions rfl
  have hmeets : Run.Meets VmSystem.step SignalsBridges (.launch configs) actions :=
    by decide
  exact ⟨_, hrun, _, rfl, woken_returns_without_sender hrun hmeets rfl rfl⟩

/-- The VM exits, and the owner, who has not called `stop`, drops the handle: the bridge task is
    woken without its sender, and goes back to accepting. -/
theorem woken_goes_on_without_sender :
    let configs : List BridgeConfig := [⟨31122, ⟨[]⟩⟩]
    let actions : List VmAction := [.spawnBridge, .spawnThread true, .bridge 0 (.bind true),
      .leave .returned, .storeStopped, .terminate, .drop, .cleanup, .dropFields,
      .bridge 0 .changed]
    ∃ s, Run VmSystem.step (.launch configs) actions s ∧ s.chan.closed = true ∧
      ∃ s', s.step (.bridge 0 .react) = some s' ∧
        ∃ t, s'.bridges[0]? = some t ∧ t.phase = .accepting := by
  intro configs actions
  have hrun := Run.get VmSystem.step (.launch configs) actions rfl
  exact ⟨_, hrun, rfl, _, rfl, _, rfl, rfl⟩

/-! ## What an unheard signal leads to -/

/-- A bridge task that can take steps does so in the system. -/
private theorem exists_run {s : VmSystem} {i : Nat} {t t' : BridgeTask} {as : List BridgeAction}
    (ht : s.bridges[i]? = some t) (hrun : Run (BridgeTask.step s.chan) t as t') :
    ∃ bs s', Run VmSystem.step s bs s' ∧ s'.chan = s.chan ∧ s'.bridges[i]? = some t' := by
  induction as generalizing s t with
  | nil => exact ⟨[], s, Run.nil_iff.mpr rfl, rfl, Run.nil_iff.mp hrun ▸ ht⟩
  | cons a as ih =>
    obtain ⟨u, hu, hrest⟩ := Run.cons_iff.mp hrun
    have hset := List.getElem?_set_self (a := u) (List.getElem?_eq_some_iff.mp ht).1
    -- The spawn of a connection is an action of its own
    have hstep : ∃ b s₁, s.step b = some s₁ ∧ s₁.chan = s.chan ∧ s₁.bridges[i]? = some u := by
      by_cases ha : a = .spawn
      · subst ha
        exact ⟨.spawnConn i [] [], _, step_spawnConn ht hu, rfl, hset⟩
      · exact ⟨.bridge i a, _, step_bridge ht ha hu, rfl, hset⟩
    obtain ⟨b, s₁, hb, hchan, hu⟩ := hstep
    obtain ⟨bs, s', hbs, hchan', ht'⟩ := ih hu (hchan ▸ hrest)
    exact ⟨b :: bs, s', Run.cons_iff.mpr ⟨s₁, hb, hbs⟩, hchan'.trans hchan, ht'⟩

/-- The condition is exact: after a step that does not meet it, the run can go on to a bridge
    task that is woken without its sender, and goes back to accepting. -/
theorem loop_goes_on_of_unsignalled {configs : List BridgeConfig} {as : List VmAction}
    {s s' : VmSystem} {a : VmAction} (hrun : Run VmSystem.step (.launch configs) as s)
    (h : s.step a = some s') (hguard : ¬ SignalsBridges s a) :
    ∃ bs u, Run VmSystem.step s' bs u ∧ u.chan.closed = true ∧
      ∃ i u', u.step (.bridge i .react) = some u' ∧
        ∃ t, u'.bridges[i]? = some t ∧ t.phase = .accepting := by
  have hinv := SignalInv.run hrun
  -- It is enough to get to a state without the sender, where the value is still `false`
  suffices hgone : ∃ bs v, Run VmSystem.step s' bs v ∧ v.chan.closed = true ∧
      v.chan.value = false ∧ ∃ t ∈ v.bridges, t.phase ≠ .returned by
    obtain ⟨bs, v, hv, hclosed, hvalue, t, ht, hphase⟩ := hgone
    obtain ⟨i, ht⟩ := List.getElem?_of_mem ht
    obtain ⟨as', t', hrun', hwoken⟩ := BridgeTask.exists_woken hclosed hphase
    obtain ⟨cs, u, hu, hchan, ht'⟩ := exists_run ht hrun'
    have hreact : t'.step u.chan .react = some { t' with phase := .accepting } := by
      simp [BridgeTask.step, hwoken, hchan, Watch.borrow, hvalue]
    exact ⟨bs ++ cs, u, hv.append hu, hchan ▸ hclosed, i, _, step_bridge ht' (by simp) hreact, _,
      List.getElem?_set_self (List.getElem?_eq_some_iff.mp ht').1, rfl⟩
  cases Step.of_step h with
  | spawnThreadFails howner =>
    -- A launch that is not over has sent nothing
    have hvalue : s.chan.value = false := by
      rw [← Bool.not_eq_true]
      exact fun hvalue => hinv.launching _ howner (hinv.version (hinv.value.mp hvalue))
    have hall : ¬ AllReturned s := fun hall => hguard ⟨fun _ => hall, by simp⟩
    obtain ⟨t, ht, hphase⟩ := exists_of_not_allReturned hall
    exact ⟨[], _, Run.nil_iff.mpr rfl, rfl, hvalue, t, ht, hphase⟩
  | dropStopped howner hrunning =>
    have hheard : ¬ (s.chan.value = true ∨ AllReturned s) :=
      fun hheard => hguard ⟨by simp, fun _ => Or.inr hheard⟩
    rw [not_or, Bool.not_eq_true] at hheard
    obtain ⟨hvalue, hall⟩ := hheard
    obtain ⟨t, ht, hphase⟩ := exists_of_not_allReturned hall
    -- `drop` goes on to drop the fields
    exact ⟨[.cleanup, .dropFields], _, rfl, rfl, hvalue, t, ht, hphase⟩
  | drop howner hrunning => exact absurd ⟨by simp, fun _ => Or.inl hrunning⟩ hguard
  | _ => exact absurd ⟨by simp, by simp⟩ hguard

end Tateru.Spec
