import Tateru.Native.Handle
import Tateru.Spec.BridgeSteps

/-!
# What one step of a VM can do

## Key results

- `Step.of_step`: every step is one of the transitions of `Step`
- `Step.chan`, `Step.bridges`, `Step.conns`: what a step does to the channel, and where the
  bridge tasks and connections after it come from
-/

namespace Tateru.Spec

/-- The transitions of a VM, each with the state it is possible in and the state it leads to. -/
inductive Step (s : VmSystem) : VmAction → VmSystem → Prop where
  | spawnBridge {config : BridgeConfig} {todo : List BridgeConfig}
      (howner : s.owner = .launching (config :: todo)) :
      Step s .spawnBridge { s with
        owner := .launching todo
        bridges := s.bridges ++ [BridgeTask.spawn config (Watch.channel false).2] }
  | spawnThread (howner : s.owner = .launching []) :
      Step s (.spawnThread true) { s with owner := .idle, hasThread := true, thread := .entered }
  | spawnThreadFails (howner : s.owner = .launching []) :
      Step s (.spawnThread false) { s with owner := .failed, chan := s.chan.dropSender }
  | leave {how : ThreadExit} (hthread : s.thread = .entered) (hhow : how ≠ .panicked) :
      Step s (.leave how) { s with thread := .left how }
  | panic (hthread : s.thread = .entered) :
      Step s (.leave .panicked) { s with thread := .terminated .panicked }
  | storeStopped {how : ThreadExit} (hthread : s.thread = .left how) :
      Step s .storeStopped { s with running := false, thread := .stored how }
  | terminate {how : ThreadExit} (hthread : s.thread = .stored how) :
      Step s .terminate { s with thread := .terminated how }
  | isRunning (howner : s.owner = .idle) : Step s .isRunning (s.record (.isRunning s.running))
  | stop (howner : s.owner = .idle) (hrunning : s.running = true) :
      Step s .stop { s with owner := .stopping .trigger }
  | stopNotRunning (howner : s.owner = .idle) (hrunning : s.running = false) :
      Step s .stop (s.returnStop .notRunning)
  | trigger (howner : s.owner = .stopping .trigger) :
      Step s (.trigger true) { s.record (.triggered true) with owner := .stopping .signal }
  | triggerFails (howner : s.owner = .stopping .trigger) :
      Step s (.trigger false) ((s.record (.triggered false)).returnStop .bridgeIo)
  | dropTrigger {ok : Bool} (howner : s.owner = .dropping .trigger) :
      Step s (.trigger ok) { s.record (.triggered ok) with owner := .dropping .signal }
  | signal (howner : s.owner = .stopping .signal) : Step s .signal (s.send (.stopping .take))
  | dropSignal (howner : s.owner = .dropping .signal) :
      Step s .signal (s.send (.dropping .cleanup))
  | take (howner : s.owner = .stopping .take) (hhas : s.hasThread = true) :
      Step s .take { s with owner := .stopping .join, hasThread := false }
  | takeNothing (howner : s.owner = .stopping .take) (hhas : s.hasThread = false) :
      Step s .take { s with owner := .stopping .cleanup }
  | join {how : ThreadExit} (howner : s.owner = .stopping .join)
      (hthread : s.thread = .terminated how) (hhow : how ≠ .panicked) :
      Step s .join { s.record .joined with owner := .stopping .cleanup }
  | joinPanicked (howner : s.owner = .stopping .join)
      (hthread : s.thread = .terminated .panicked) :
      Step s .join ((s.record .joined).returnStop .vmThreadPanicked)
  | cleanup (howner : s.owner = .stopping .cleanup) :
      Step s .cleanup { s.record .removedWorkdir with owner := .stopping .store }
  | dropCleanup (howner : s.owner = .dropping .cleanup) :
      Step s .cleanup { s.record .removedWorkdir with owner := .dropping .fields }
  | finish (howner : s.owner = .stopping .store) :
      Step s .finish ({ s with running := false }.returnStop .ok)
  | drop (howner : s.owner = .idle) (hrunning : s.running = true) :
      Step s .drop { s with owner := .dropping .trigger }
  | dropStopped (howner : s.owner = .idle) (hrunning : s.running = false) :
      Step s .drop { s with owner := .dropping .cleanup }
  | dropFields (howner : s.owner = .dropping .fields) :
      Step s .dropFields { s with owner := .dropped, chan := s.chan.dropSender }
  | bridge {i : Nat} {a : BridgeAction} {t t' : BridgeTask} (ht : s.bridges[i]? = some t)
      (ha : a ≠ .spawn) (hstep : t.step s.chan a = some t') :
      Step s (.bridge i a) { s with bridges := s.bridges.set i t' }
  | spawnConn {i : Nat} {a b : List UInt8} {t t' : BridgeTask} (ht : s.bridges[i]? = some t)
      (hstep : t.step s.chan .spawn = some t') :
      Step s (.spawnConn i a b) { s with
        bridges := s.bridges.set i t'
        conns := s.conns ++ [Connection.handle t.config.socketPath t.shutdown a b] }
  | conn {i : Nat} {a : ConnAction} {c c' : Connection} (hc : s.conns[i]? = some c)
      (hstep : c.step s.chan a = some c') :
      Step s (.conn i a) { s with conns := s.conns.set i c' }

/-- Every step is one of the transitions. -/
theorem Step.of_step {s s' : VmSystem} {a : VmAction} (h : s.step a = some s') :
    Step s a s' := by
  cases a with
  | spawnBridge =>
    simp only [VmSystem.step] at h
    split at h
    · rename_i howner
      exact Option.some.inj h ▸ .spawnBridge howner
    · exact nomatch h
  | spawnThread ok =>
    simp only [VmSystem.step] at h
    split at h
    · rename_i howner
      cases ok with
      | true => exact Option.some.inj h ▸ .spawnThread howner
      | false => exact Option.some.inj h ▸ .spawnThreadFails howner
    · exact nomatch h
  | leave how =>
    simp only [VmSystem.step] at h
    split at h
    · rename_i hthread
      split at h
      · rename_i hhow
        subst hhow
        exact Option.some.inj h ▸ .panic hthread
      · rename_i hhow
        exact Option.some.inj h ▸ .leave hthread hhow
    · exact nomatch h
  | storeStopped =>
    simp only [VmSystem.step] at h
    split at h
    · rename_i hthread
      exact Option.some.inj h ▸ .storeStopped hthread
    · exact nomatch h
  | terminate =>
    simp only [VmSystem.step] at h
    split at h
    · rename_i hthread
      exact Option.some.inj h ▸ .terminate hthread
    · exact nomatch h
  | isRunning =>
    simp only [VmSystem.step] at h
    split at h
    · rename_i howner
      exact Option.some.inj h ▸ .isRunning howner
    · exact nomatch h
  | stop =>
    simp only [VmSystem.step] at h
    split at h
    · rename_i howner
      split at h
      · rename_i hrunning
        exact Option.some.inj h ▸ .stop howner hrunning
      · rename_i hrunning
        exact Option.some.inj h ▸ .stopNotRunning howner (Bool.not_eq_true _ ▸ hrunning)
    · exact nomatch h
  | trigger ok =>
    simp only [VmSystem.step] at h
    split at h
    · rename_i howner
      cases ok with
      | true => exact Option.some.inj h ▸ .trigger howner
      | false => exact Option.some.inj h ▸ .triggerFails howner
    · rename_i howner
      exact Option.some.inj h ▸ .dropTrigger howner
    · exact nomatch h
  | signal =>
    simp only [VmSystem.step] at h
    split at h
    · rename_i howner
      exact Option.some.inj h ▸ .signal howner
    · rename_i howner
      exact Option.some.inj h ▸ .dropSignal howner
    · exact nomatch h
  | take =>
    simp only [VmSystem.step] at h
    split at h
    · rename_i howner
      split at h
      · rename_i hhas
        exact Option.some.inj h ▸ .take howner hhas
      · rename_i hhas
        exact Option.some.inj h ▸ .takeNothing howner (Bool.not_eq_true _ ▸ hhas)
    · exact nomatch h
  | join =>
    simp only [VmSystem.step] at h
    split at h
    · rename_i how howner hthread
      split at h
      · rename_i hhow
        subst hhow
        exact Option.some.inj h ▸ .joinPanicked howner hthread
      · rename_i hhow
        exact Option.some.inj h ▸ .join howner hthread hhow
    · exact nomatch h
  | cleanup =>
    simp only [VmSystem.step] at h
    split at h
    · rename_i howner
      exact Option.some.inj h ▸ .cleanup howner
    · rename_i howner
      exact Option.some.inj h ▸ .dropCleanup howner
    · exact nomatch h
  | finish =>
    simp only [VmSystem.step] at h
    split at h
    · rename_i howner
      exact Option.some.inj h ▸ .finish howner
    · exact nomatch h
  | drop =>
    simp only [VmSystem.step] at h
    split at h
    · rename_i howner
      split at h
      · rename_i hrunning
        exact Option.some.inj h ▸ .drop howner hrunning
      · rename_i hrunning
        exact Option.some.inj h ▸ .dropStopped howner (Bool.not_eq_true _ ▸ hrunning)
    · exact nomatch h
  | dropFields =>
    simp only [VmSystem.step] at h
    split at h
    · rename_i howner
      exact Option.some.inj h ▸ .dropFields howner
    · exact nomatch h
  | bridge i a =>
    simp only [VmSystem.step] at h
    split at h
    · rename_i t ht
      split at h
      · exact nomatch h
      · rename_i ha
        obtain ⟨t', hstep, rfl⟩ := Option.map_eq_some_iff.mp h
        exact .bridge ht ha hstep
    · exact nomatch h
  | spawnConn i a b =>
    simp only [VmSystem.step] at h
    split at h
    · rename_i t ht
      obtain ⟨t', hstep, rfl⟩ := Option.map_eq_some_iff.mp h
      exact .spawnConn ht hstep
    · exact nomatch h
  | conn i a =>
    simp only [VmSystem.step] at h
    split at h
    · rename_i c hc
      obtain ⟨c', hstep, rfl⟩ := Option.map_eq_some_iff.mp h
      exact .conn hc hstep
    · exact nomatch h

variable {s s' : VmSystem} {a : VmAction}

/-- A step of a bridge task is one of the VM. -/
theorem step_bridge {i : Nat} {b : BridgeAction} {t t' : BridgeTask}
    (ht : s.bridges[i]? = some t) (hb : b ≠ .spawn) (hstep : t.step s.chan b = some t') :
    s.step (.bridge i b) = some { s with bridges := s.bridges.set i t' } := by
  simp only [VmSystem.step, ht, if_neg hb, hstep, Option.map_some]

/-- The spawn of a connection is a step of the VM. -/
theorem step_spawnConn {i : Nat} {x y : List UInt8} {t t' : BridgeTask}
    (ht : s.bridges[i]? = some t) (hstep : t.step s.chan .spawn = some t') :
    s.step (.spawnConn i x y) = some { s with
      bridges := s.bridges.set i t'
      conns := s.conns ++ [Connection.handle t.config.socketPath t.shutdown x y] } := by
  simp only [VmSystem.step, ht, hstep, Option.map_some]

/-! ## What a step does to each part -/

/-- The channel only changes when `true` is sent and when the sender is dropped. -/
theorem Step.chan (h : Step s a s') :
    s'.chan = s.chan ∨
      (s'.log = s.log ++ [.sent] ∧ s'.chan = s.chan.send s.receivers true) ∨
      s'.chan = s.chan.dropSender := by
  cases h with
  | signal | dropSignal => exact Or.inr (Or.inl ⟨rfl, rfl⟩)
  | spawnThreadFails | dropFields => exact Or.inr (Or.inr rfl)
  | _ => exact Or.inl rfl

/-- A value `true` stays. -/
theorem Step.value (h : Step s a s') (hvalue : s.chan.value = true) : s'.chan.value = true := by
  rcases h.chan with h | ⟨-, h⟩ | h
  · exact h ▸ hvalue
  · rw [h, Watch.send]
    -- Sending stores `true`, or nothing when no receiver is left
    split
    · exact hvalue
    · rfl
  · exact h ▸ hvalue

/-- A bridge task was there before, or is new, or has taken a step. -/
theorem Step.bridges (h : Step s a s') {t' : BridgeTask} (ht' : t' ∈ s'.bridges) :
    t' ∈ s.bridges ∨
      (∃ config todo, s.owner = .launching (config :: todo) ∧
        t' = BridgeTask.spawn config (Watch.channel false).2) ∨
      ∃ t ∈ s.bridges, ∃ b, t.step s.chan b = some t' := by
  cases h with
  | spawnBridge howner =>
    rcases List.mem_append.mp ht' with ht' | ht'
    · exact Or.inl ht'
    · exact Or.inr (Or.inl ⟨_, _, howner, List.mem_singleton.mp ht'⟩)
  | bridge ht _ hstep | spawnConn ht hstep =>
    rcases List.mem_or_eq_of_mem_set ht' with ht' | rfl
    · exact Or.inl ht'
    · exact Or.inr (Or.inr ⟨_, List.mem_of_getElem? ht, _, hstep⟩)
  | _ => exact Or.inl ht'

/-- A connection was there before, or a bridge task has spawned it, or it has taken a step. -/
theorem Step.conns (h : Step s a s') {c' : Connection} (hc' : c' ∈ s'.conns) :
    c' ∈ s.conns ∨
      (∃ t ∈ s.bridges, t.phase = .accepted ∧ ∃ a b,
        c' = Connection.handle t.config.socketPath t.shutdown a b) ∨
      ∃ c ∈ s.conns, ∃ b, c.step s.chan b = some c' := by
  cases h with
  | spawnConn ht hstep =>
    rcases List.mem_append.mp hc' with hc' | hc'
    · exact Or.inl hc'
    · exact Or.inr (Or.inl ⟨_, List.mem_of_getElem? ht, BridgeTask.accepted_of_spawn hstep,
        _, _, List.mem_singleton.mp hc'⟩)
  | conn hc hstep =>
    rcases List.mem_or_eq_of_mem_set hc' with hc' | rfl
    · exact Or.inl hc'
    · exact Or.inr (Or.inr ⟨_, List.mem_of_getElem? hc, _, hstep⟩)
  | _ => exact Or.inl hc'

/-- Where a bridge task that is there goes: it stays as it is, or takes a step. -/
theorem Step.bridge_at (h : Step s a s') {i : Nat} {t : BridgeTask}
    (ht : s.bridges[i]? = some t) :
    ∃ t', s'.bridges[i]? = some t' ∧ (t' = t ∨ ∃ b, t.step s.chan b = some t') := by
  have hset : ∀ {j : Nat} {u u' : BridgeTask} {b : BridgeAction}, s.bridges[j]? = some u →
      u.step s.chan b = some u' →
      ∃ t', (s.bridges.set j u')[i]? = some t' ∧ (t' = t ∨ ∃ b, t.step s.chan b = some t') := by
    intro j u u' b hu hstep
    have hlt : i < s.bridges.length := (List.getElem?_eq_some_iff.mp ht).1
    -- The step is of this task or of another one
    by_cases hj : j = i
    · subst hj
      obtain rfl := Option.some.inj (hu.symm.trans ht)
      exact ⟨u', List.getElem?_set_self hlt, Or.inr ⟨b, hstep⟩⟩
    · exact ⟨t, (List.getElem?_set_ne hj).trans ht, Or.inl rfl⟩
  cases h with
  | spawnBridge =>
    exact ⟨t, (List.getElem?_append_left (List.getElem?_eq_some_iff.mp ht).1).trans ht, Or.inl rfl⟩
  | bridge hu _ hstep | spawnConn hu hstep => exact hset hu hstep
  | _ => exact ⟨t, ht, Or.inl rfl⟩

/-- The step of the bridge task `i` that an action is. -/
def bridgeAction? (i : Nat) : VmAction → Option BridgeAction
  | .bridge j b => if j = i then some b else none
  | .spawnConn j _ _ => if j = i then some .spawn else none
  | _ => none

/-- The step of the connection `i` that an action is. -/
def connAction? (i : Nat) : VmAction → Option ConnAction
  | .conn j b => if j = i then some b else none
  | _ => none

/-- What an action does to the bridge task `i`: it is a step of it, or does nothing to it. -/
theorem Step.bridge_by (h : Step s a s') {i : Nat} {t : BridgeTask}
    (ht : s.bridges[i]? = some t) :
    ∃ t', s'.bridges[i]? = some t' ∧
      ((bridgeAction? i a = none ∧ t' = t) ∨
        ∃ b, bridgeAction? i a = some b ∧ t.step s.chan b = some t') := by
  have hlt : i < s.bridges.length := (List.getElem?_eq_some_iff.mp ht).1
  have hset : ∀ {j : Nat} {u u' : BridgeTask} {b : BridgeAction},
      bridgeAction? i a = (if j = i then some b else none) → s.bridges[j]? = some u →
      u.step s.chan b = some u' →
      ∃ t', (s.bridges.set j u')[i]? = some t' ∧ ((bridgeAction? i a = none ∧ t' = t) ∨
        ∃ b, bridgeAction? i a = some b ∧ t.step s.chan b = some t') := by
    intro j u u' b ha hu hstep
    by_cases hj : j = i
    · subst hj
      obtain rfl := Option.some.inj (hu.symm.trans ht)
      rw [if_pos rfl] at ha
      exact ⟨u', List.getElem?_set_self hlt, Or.inr ⟨b, ha, hstep⟩⟩
    · rw [if_neg hj] at ha
      exact ⟨t, (List.getElem?_set_ne hj).trans ht, Or.inl ⟨ha, rfl⟩⟩
  cases h with
  | spawnBridge => exact ⟨t, (List.getElem?_append_left hlt).trans ht, Or.inl ⟨rfl, rfl⟩⟩
  | bridge hu _ hstep | spawnConn hu hstep => exact hset rfl hu hstep
  | _ => exact ⟨t, ht, Or.inl ⟨rfl, rfl⟩⟩

/-- What an action does to the connection `i`: it is a step of it, or does nothing to it. -/
theorem Step.conn_by (h : Step s a s') {i : Nat} {c : Connection} (hc : s.conns[i]? = some c) :
    ∃ c', s'.conns[i]? = some c' ∧
      ((connAction? i a = none ∧ c' = c) ∨
        ∃ b, connAction? i a = some b ∧ c.step s.chan b = some c') := by
  have hlt : i < s.conns.length := (List.getElem?_eq_some_iff.mp hc).1
  cases h with
  | spawnConn => exact ⟨c, (List.getElem?_append_left hlt).trans hc, Or.inl ⟨rfl, rfl⟩⟩
  | @conn j b u u' hu hstep =>
    by_cases hj : j = i
    · subst hj
      obtain rfl := Option.some.inj (hu.symm.trans hc)
      exact ⟨u', List.getElem?_set_self hlt, Or.inr ⟨b, if_pos rfl, hstep⟩⟩
    · exact ⟨c, (List.getElem?_set_ne hj).trans hc, Or.inl ⟨if_neg hj, rfl⟩⟩
  | _ => exact ⟨c, hc, Or.inl ⟨rfl, rfl⟩⟩

/-- `true` has been sent before, or is sent now, with the launch over. -/
theorem Step.sent (h : Step s a s') (hsent : .sent ∈ s'.log) :
    .sent ∈ s.log ∨ (s'.chan = s.chan.send s.receivers true ∧ s'.bridges = s.bridges ∧
      s'.conns = s.conns ∧ ∀ todo, s'.owner ≠ .launching todo) := by
  cases h with
  | signal | dropSignal => exact Or.inr ⟨rfl, rfl, rfl, nofun⟩
  | isRunning | stopNotRunning | trigger | triggerFails | dropTrigger | join | joinPanicked
  | cleanup | dropCleanup | finish =>
    simp only [VmSystem.record, VmSystem.returnStop, List.mem_append, List.mem_singleton,
      reduceCtorEq, or_false] at hsent
    exact Or.inl hsent
  | _ => exact Or.inl hsent

/-- The log only grows. -/
theorem Step.log_mono (h : Step s a s') : s.log <+: s'.log := by
  cases h with
  | isRunning | stopNotRunning | trigger | dropTrigger | signal | dropSignal | join | cleanup
  | dropCleanup | finish => exact List.prefix_append _ _
  -- These two log the outcome and the return
  | triggerFails | joinPanicked =>
    exact (List.prefix_append _ _).trans (List.prefix_append _ _)
  | _ => exact List.prefix_refl _

/-- A launch that is not over has not been over before. -/
theorem Step.launching (h : Step s a s') {todo : List BridgeConfig}
    (howner : s'.owner = .launching todo) : ∃ todo', s.owner = .launching todo' := by
  cases h with
  | spawnBridge hlaunching => exact ⟨_, hlaunching⟩
  | leave | panic | storeStopped | terminate | isRunning | bridge | spawnConn | conn =>
    exact ⟨_, howner⟩
  | _ => exact nomatch howner

end Tateru.Spec
