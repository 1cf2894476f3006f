import Tateru.ForStd.List
import Tateru.ForStd.Run
import Tateru.Native.Vz
import Mathlib.Data.List.Nodup

/-!
# The contexts of the Virtualization.framework engine

What the engine should keep of a context is told by the history of calls alone: the calls
addressed to it since its insert, each overwriting or extending one setting. The engine
refines this: in every interleaving of its threads, as long as the counter of ids has not
wrapped around, its map is the replay of the history.

## Key results

- `run_config`: what a configuration call does, on the map of contexts
- `ThreadsInv.step`: ids in use are distinct, and the map is the replay of the history
- `foldl_update`: what a list of configuration calls leaves in a context
- `contexts_isolated`: ids are distinct, and each context holds exactly its own calls
-/

namespace Tateru.Spec

/-! ## What the history says -/

/-- The context that a call configures. -/
def configures : EngineCall → Option CtxId
  | .setVmConfig ctx _ _ => some ctx
  | .addDisk ctx _ _ => some ctx
  | .addVirtiofs ctx _ => some ctx
  | .addVsockPort ctx _ => some ctx
  | .setConsoleOutput ctx _ => some ctx
  | _ => none

/-- What a configuration call does to its context. -/
def update (state : VzCtxState) : EngineCall → VzCtxState
  | .setVmConfig _ vcpus memory => { state with vcpus := some vcpus, memory := some memory }
  | .addDisk _ disk _ => { state with disks := state.disks ++ [disk] }
  | .addVirtiofs _ mount => { state with virtiofs := state.virtiofs ++ [mount] }
  | .addVsockPort _ port => { state with vsockPorts := state.vsockPorts ++ [port] }
  | .setConsoleOutput _ console => { state with console := some console }
  | _ => state

def vcpusOf : EngineCall → Option VcpuCount
  | .setVmConfig _ vcpus _ => some vcpus
  | _ => none

def memoryOf : EngineCall → Option MemoryMib
  | .setVmConfig _ _ memory => some memory
  | _ => none

def diskOf : EngineCall → Option DiskConfig
  | .addDisk _ disk _ => some disk
  | _ => none

def mountOf : EngineCall → Option VirtioFsMount
  | .addVirtiofs _ mount => some mount
  | _ => none

def portOf : EngineCall → Option VsockPort
  | .addVsockPort _ port => some port
  | _ => none

def consoleOf : EngineCall → Option ConsoleConfig
  | .setConsoleOutput _ console => some console
  | _ => none

/-- The context that a list of configuration calls leaves: the vCPUs, the memory and the
    console that were set last, and the devices in the order they were added. -/
def ofConfigCalls (calls : List EngineCall) : VzCtxState where
  vcpus := (calls.filterMap vcpusOf).getLast?
  memory := (calls.filterMap memoryOf).getLast?
  disks := calls.filterMap diskOf
  virtiofs := calls.filterMap mountOf
  vsockPorts := calls.filterMap portOf
  console := (calls.filterMap consoleOf).getLast?

/-- Configuration calls overwrite and extend what is there. -/
theorem foldl_update (calls : List EngineCall) :
    calls.foldl update {} = ofConfigCalls calls := by
  induction calls using List.reverseRecOn with
  | nil => rfl
  | append_singleton calls c ih =>
    rw [List.foldl_append, List.foldl_cons, List.foldl_nil, ih]
    simp only [ofConfigCalls, List.filterMap_snoc]
    cases c <;>
    simp only [update, vcpusOf, memoryOf, diskOf, mountOf, portOf, consoleOf,
      Option.toList_some, Option.toList_none, List.append_nil, List.getLast?_concat]

/-- The calls of a history that configure `ctx`, in order. -/
def callsTo (ctx : CtxId) (history : List VzEvent) : List EngineCall :=
  history.filterMap fun
    | .called c _ => if configures c = some ctx then some c else none
    | .inserted _ => none

/-- The contexts after one more event. -/
def replayEvent (contexts : CtxId → Option VzCtxState) :
    VzEvent → CtxId → Option VzCtxState
  | .inserted id, ctx => if ctx = id then some {} else contexts ctx
  | .called c _, ctx =>
    if configures c = some ctx then (contexts ctx).map (update · c) else contexts ctx

/-- The contexts after a history. -/
def replay (history : List VzEvent) : CtxId → Option VzCtxState :=
  history.foldl replayEvent fun _ => none

/-- The ids inserted in a history. -/
def insertedIds (history : List VzEvent) : List CtxId :=
  history.filterMap fun
    | .inserted id => some id
    | .called _ _ => none

theorem replay_snoc (history : List VzEvent) (ev : VzEvent) :
    replay (history ++ [ev]) = replayEvent (replay history) ev := by
  rw [replay, List.foldl_append]
  rfl

theorem mem_insertedIds {history : List VzEvent} {id : CtxId} :
    id ∈ insertedIds history ↔ VzEvent.inserted id ∈ history := by
  simp only [insertedIds, List.mem_filterMap]
  constructor
  · rintro ⟨ev, hev, h⟩
    cases ev with
    | inserted id' => exact Option.some.inj h ▸ hev
    | called c e => exact nomatch h
  · exact fun h => ⟨_, h, rfl⟩

/-- A context that was never inserted has no state. -/
theorem replay_of_not_mem {history : List VzEvent} {id : CtxId}
    (h : id ∉ insertedIds history) : replay history id = none := by
  -- The replay is a fold from the left, so the last event is taken off
  induction history using List.reverseRecOn with
  | nil => rfl
  | append_singleton history ev ih =>
    rw [mem_insertedIds, List.mem_append, not_or] at h
    have hnone := ih (mem_insertedIds.not.mpr h.1)
    rw [replay_snoc]
    cases ev with
    | inserted id' =>
      have hne : id ≠ id' := fun heq => h.2 (heq ▸ List.mem_singleton_self _)
      rw [replayEvent, if_neg hne, hnone]
    | called c e =>
      rw [replayEvent, hnone]
      split <;> rfl

/-- A context that was inserted once holds the calls that configured it since. -/
theorem replay_eq_foldl {pre post : List VzEvent} {id : CtxId}
    (h : id ∉ insertedIds post) :
    replay (pre ++ .inserted id :: post) id = some ((callsTo id post).foldl update {}) := by
  induction post using List.reverseRecOn with
  | nil =>
    rw [replay_snoc, replayEvent, if_pos rfl]
    rfl
  | append_singleton post ev ih =>
    rw [mem_insertedIds, List.mem_append, not_or] at h
    have hpost := ih (mem_insertedIds.not.mpr h.1)
    rw [← List.cons_append, ← List.append_assoc, replay_snoc]
    cases ev with
    | inserted id' =>
      have hne : id ≠ id' := fun heq => h.2 (heq ▸ List.mem_singleton_self _)
      rw [replayEvent, if_neg hne, hpost]
      simp [callsTo]
    | called c e =>
      by_cases hc : configures c = some id
      · rw [replayEvent, if_pos hc, hpost]
        simp [callsTo, hc]
      · rw [replayEvent, if_neg hc, hpost]
        simp [callsTo, hc]

/-! ## What the engine does -/

/-- A configuration call updates its context, or is refused if the context is unknown. -/
theorem run_config {h : Host VzEngine} (hlock : h.engine.poisoned = false) {c : EngineCall}
    {ctx : CtxId} (hc : configures c = some ctx) :
    (VzEngine.engine.run c h).state.engine =
        (match h.engine.contexts ctx with
        | none => h.engine
        | some state => h.engine.insert ctx (update state c)) ∧
      (VzEngine.engine.run c h).error? =
        (match h.engine.contexts ctx with
        | none => some (.invalidConfig ("vz: unknown ctx " ++ toString ctx.raw))
        | some _ => none) := by
  -- All five methods go through `with_ctx`
  have hwith : ∀ f : VzCtxState → VzCtxState,
      let result := VzEngine.withCtx ctx (fun state => (.ok (), f state)) h
      result.state.engine =
        (match h.engine.contexts ctx with
        | none => h.engine
        | some state => h.engine.insert ctx (f state)) ∧
      result.error? =
        (match h.engine.contexts ctx with
        | none => some (.invalidConfig ("vz: unknown ctx " ++ toString ctx.raw))
        | some _ => none) := by
    intro f
    simp only [VzEngine.withCtx, hlock, Bool.false_eq_true, if_false]
    cases h.engine.contexts ctx <;> exact ⟨rfl, rfl⟩
  cases c with
  | setVmConfig ctx' vcpus memory =>
    obtain rfl := Option.some.inj hc
    exact hwith fun state => { state with vcpus := some vcpus, memory := some memory }
  | addDisk ctx' disk index =>
    obtain rfl := Option.some.inj hc
    exact hwith fun state => { state with disks := state.disks ++ [disk] }
  | addVirtiofs ctx' mount =>
    obtain rfl := Option.some.inj hc
    exact hwith fun state => { state with virtiofs := state.virtiofs ++ [mount] }
  | addVsockPort ctx' port =>
    obtain rfl := Option.some.inj hc
    exact hwith fun state => { state with vsockPorts := state.vsockPorts ++ [port] }
  | setConsoleOutput ctx' console =>
    obtain rfl := Option.some.inj hc
    exact hwith fun state => { state with console := some console }
  | _ => cases hc

/-- The other calls change nothing. -/
theorem run_other {h : Host VzEngine} {c : EngineCall} (hc : configures c = none)
    (hcreate : c ≠ .createCtx) : (VzEngine.engine.run c h).state = h := by
  cases c with
  | createCtx => exact absurd rfl hcreate
  | setVmConfig | addDisk | addVirtiofs | addVsockPort | setConsoleOutput => exact nomatch hc
  | _ => rfl

/-- Any call but `create_ctx` does to the map of contexts what it does in the replay. -/
theorem run_eq_replayEvent {h : Host VzEngine} (hlock : h.engine.poisoned = false)
    {c : EngineCall} (hcreate : c ≠ .createCtx) :
    (VzEngine.engine.run c h).state.engine =
      { h.engine with contexts := replayEvent h.engine.contexts (.called c none) } := by
  cases hc : configures c with
  | none =>
    rw [run_other hc hcreate]
    refine congrArg (fun contexts => { h.engine with contexts }) (funext fun ctx => ?_)
    simp [replayEvent, hc]
  | some ctx =>
    rw [(run_config hlock hc).1]
    cases hstate : h.engine.contexts ctx with
    | none =>
      -- The replay has no state to update either
      refine congrArg (fun contexts => { h.engine with contexts }) (funext fun ctx' => ?_)
      by_cases heq : ctx' = ctx
      · subst heq
        simp [replayEvent, hc, hstate]
      · simp [replayEvent, hc, Ne.symm heq]
    | some state =>
      refine congrArg (fun contexts => { h.engine with contexts }) (funext fun ctx' => ?_)
      by_cases heq : ctx' = ctx
      · subst heq
        simp [replayEvent, hc, hstate]
      · simp [replayEvent, hc, heq, Ne.symm heq]

/-! ## Every interleaving -/

/-- After `created` calls of `fetch_add`, fewer than the counter has values: the ids that are
    pending or inserted are distinct, and the map is the replay of the history. -/
structure ThreadsInv (created : Nat) (s : VzThreads) : Prop where
  lock : s.host.engine.poisoned = false
  nextId : s.host.engine.nextId = UInt32.ofNat created
  pending_lt : ∀ t id, s.pending t = some id → id.raw.toNat < created
  inserted_lt : ∀ id ∈ insertedIds s.history, id.raw.toNat < created
  pending_inj : ∀ t t' id, s.pending t = some id → s.pending t' = some id → t = t'
  pending_fresh : ∀ t id, s.pending t = some id → id ∉ insertedIds s.history
  nodup : (insertedIds s.history).Nodup
  returned : s.returned = insertedIds s.history
  contexts : s.host.engine.contexts = replay s.history

/-- The steps that start a `create_ctx`. -/
def isFetchAdd : VzAction → Bool
  | .fetchAdd _ => true
  | _ => false

namespace ThreadsInv

theorem new (fs : FileSys) : ThreadsInv 0 (.new fs) where
  lock := rfl
  nextId := rfl
  pending_lt _ _ h := nomatch h
  inserted_lt _ h := nomatch h
  pending_inj _ _ _ h := nomatch h
  pending_fresh _ _ h := nomatch h
  nodup := List.nodup_nil
  returned := rfl
  contexts := rfl

variable {created : Nat} {s s' : VzThreads}

/-- Taking an id from the counter, which has not wrapped around, makes a new one pending. -/
theorem fetchAdd {thread : Nat} (hinv : ThreadsInv created s) (hfew : created < UInt32.size)
    (h : s.step (.fetchAdd thread) = some s') : ThreadsInv (created + 1) s' := by
  simp only [VzThreads.step, VzEngine.fetchAdd] at h
  split at h
  · rename_i hpending hfetch
    obtain ⟨rfl, rfl⟩ := EStateM.Result.ok.inj hfetch
    obtain rfl := Option.some.inj h
    have hnew : (UInt32.ofNat created).toNat = created := UInt32.toNat_ofNat_of_lt' hfew
    -- The ids handed out before are below the counter
    have hold : ∀ id : CtxId, id.raw.toNat < created → id ≠ ⟨s.host.engine.nextId⟩ := by
      rintro id hlt rfl
      rw [hinv.nextId, hnew] at hlt
      exact absurd hlt (Nat.lt_irrefl _)
    refine ⟨hinv.lock, ?_, ?_, ?_, ?_, ?_, hinv.nodup, hinv.returned, hinv.contexts⟩
    · change s.host.engine.nextId + 1 = _
      rw [hinv.nextId]
      exact (UInt32.ofNat_add created 1).symm
    · intro t id hid
      rw [VzThreads.pending_setPending] at hid
      split at hid
      · obtain rfl := Option.some.inj hid
        rw [hinv.nextId, hnew]
        exact Nat.lt_succ_self created
      · exact Nat.lt_succ_of_lt (hinv.pending_lt t id hid)
    · exact fun id hid => Nat.lt_succ_of_lt (hinv.inserted_lt id hid)
    · intro t t' id hid hid'
      rw [VzThreads.pending_setPending] at hid hid'
      -- The thread that took the new id, or one with an id from before
      split at hid <;> split at hid'
      · rename_i ht ht'
        rw [ht, ht']
      · exact absurd (Option.some.inj hid).symm (hold _ (hinv.pending_lt t' _ hid'))
      · exact absurd (Option.some.inj hid').symm (hold _ (hinv.pending_lt t _ hid))
      · exact hinv.pending_inj t t' id hid hid'
    · intro t id hid hmem
      rw [VzThreads.pending_setPending] at hid
      split at hid
      · exact hold _ (hinv.inserted_lt _ hmem) (Option.some.inj hid).symm
      · exact hinv.pending_fresh t id hid hmem
  · exact nomatch h

/-- The insert makes the context of a pending id, which no other thread has. -/
theorem insert {thread : Nat} (hinv : ThreadsInv created s)
    (h : s.step (.insert thread) = some s') : ThreadsInv created s' := by
  simp only [VzThreads.step] at h
  split at h
  · exact nomatch h
  · rename_i id hpending
    simp only [VzEngine.insertCtx, hinv.lock, Bool.false_eq_true, if_false] at h
    obtain rfl := Option.some.inj h
    have hids : insertedIds (s.history ++ [.inserted id]) = insertedIds s.history ++ [id] := by
      simp [insertedIds]
    refine ⟨hinv.lock, hinv.nextId, ?_, ?_, ?_, ?_, ?_, ?_, ?_⟩
    · intro t id' hid'
      rw [VzThreads.pending_setPending] at hid'
      split at hid'
      · exact nomatch hid'
      · exact hinv.pending_lt t id' hid'
    · intro id' hid'
      rcases List.mem_append.mp (hids ▸ hid') with hid' | hid'
      · exact hinv.inserted_lt id' hid'
      · exact List.mem_singleton.mp hid' ▸ hinv.pending_lt thread id hpending
    · intro t t' id' ht ht'
      rw [VzThreads.pending_setPending] at ht ht'
      split at ht
      · exact nomatch ht
      · split at ht'
        · exact nomatch ht'
        · exact hinv.pending_inj t t' id' ht ht'
    · intro t id' hid' hmem
      rw [VzThreads.pending_setPending] at hid'
      split at hid'
      · exact nomatch hid'
      -- Another thread: its id is another one
      · rename_i hne
        rcases List.mem_append.mp (hids ▸ hmem) with hmem | hmem
        · exact hinv.pending_fresh t id' hid' hmem
        · obtain rfl := List.mem_singleton.mp hmem
          exact hne (hinv.pending_inj t thread id' hid' hpending)
    · change (insertedIds (s.history ++ [.inserted id])).Nodup
      rw [hids, ← List.concat_eq_append]
      exact hinv.nodup.concat (hinv.pending_fresh thread id hpending)
    · change s.returned ++ [id] = insertedIds (s.history ++ [.inserted id])
      rw [hids, hinv.returned]
    · change _ = replay (s.history ++ [.inserted id])
      rw [replay_snoc, ← hinv.contexts]
      rfl

/-- A call changes at most the context it configures. -/
theorem call {thread : Nat} {c : EngineCall} (hinv : ThreadsInv created s)
    (h : s.step (.call thread c) = some s') : ThreadsInv created s' := by
  simp only [VzThreads.step] at h
  split at h
  · rename_i hcall
    obtain rfl := Option.some.inj h
    have hids : insertedIds (s.history ++ [.called c (VzEngine.engine.run c s.host).error?]) =
        insertedIds s.history := by
      simp [insertedIds]
    have hengine := run_eq_replayEvent hinv.lock hcall.2
    refine ⟨?_, ?_, hinv.pending_lt, ?_, hinv.pending_inj, ?_, ?_, ?_, ?_⟩
    · rw [hengine]
      exact hinv.lock
    · rw [hengine]
      exact hinv.nextId
    · exact fun id hid => hinv.inserted_lt id (hids ▸ hid)
    · exact fun t id hid hmem => hinv.pending_fresh t id hid (hids ▸ hmem)
    · exact hids.symm ▸ hinv.nodup
    · exact hinv.returned.trans hids.symm
    · change (VzEngine.engine.run c s.host).state.engine.contexts = replay (s.history ++ _)
      rw [replay_snoc, hengine, ← hinv.contexts]
      rfl
  · exact nomatch h

/-- What an interleaving with few enough `create_ctx` calls comes to. -/
theorem run {fs : FileSys} {as : List VzAction}
    (hrun : Run VzThreads.step (.new fs) as s) (hfew : as.countP isFetchAdd ≤ UInt32.size) :
    ThreadsInv (as.countP isFetchAdd) s := by
  induction as using List.reverseRecOn generalizing s with
  | nil => exact Run.nil_iff.mp hrun ▸ .new fs
  | append_singleton as a ih =>
    obtain ⟨t, hrun, hstep⟩ := Run.snoc_iff.mp hrun
    rw [List.countP_append, List.countP_singleton] at hfew ⊢
    -- The counter has not wrapped around as long as fewer ids were taken than there are
    have hinv := ih hrun (by omega)
    cases a with
    | fetchAdd thread => exact hinv.fetchAdd (by simp [isFetchAdd] at hfew; omega) hstep
    | insert thread => exact hinv.insert hstep
    | call thread c => exact hinv.call hstep

end ThreadsInv

/-- In every interleaving of threads with at most as many `create_ctx` calls as there are ids:
    the ids returned are distinct; each inserted context holds exactly the calls that
    configured it since its insert; a call for a context that is not inserted is refused and
    changes nothing, and the calls that configure no context change nothing. -/
theorem contexts_isolated {fs : FileSys} {as : List VzAction} {s : VzThreads}
    (hrun : Run VzThreads.step (.new fs) as s) (hfew : as.countP isFetchAdd ≤ 2 ^ 32) :
    s.returned.Nodup ∧
    (∀ pre id post, s.history = pre ++ .inserted id :: post →
      s.host.engine.contexts id = some ((callsTo id post).foldl update {}) ∧
      (callsTo id post).foldl update {} = ofConfigCalls (callsTo id post)) ∧
    (∀ id, .inserted id ∉ s.history → s.host.engine.contexts id = none) ∧
    ∀ thread c s', s.step (.call thread c) = some s' →
      (∀ ctx, configures c = some ctx → .inserted ctx ∉ s.history →
        s'.host.engine = s.host.engine ∧ s'.history = s.history ++
          [.called c (some (.invalidConfig ("vz: unknown ctx " ++ toString ctx.raw)))]) ∧
      (∀ ctx, configures c = some ctx → .inserted ctx ∈ s.history →
        s'.history = s.history ++ [.called c none]) ∧
      (configures c = none → s'.host.engine = s.host.engine) := by
  have hinv := ThreadsInv.run hrun hfew
  have hnone : ∀ id, .inserted id ∉ s.history → s.host.engine.contexts id = none := by
    intro id hid
    rw [hinv.contexts]
    exact replay_of_not_mem (mem_insertedIds.not.mpr hid)
  have hsome : ∀ pre id post, s.history = pre ++ .inserted id :: post →
      s.host.engine.contexts id = some ((callsTo id post).foldl update {}) := by
    intro pre id post hsplit
    have hnodup := hinv.nodup
    rw [hinv.contexts, hsplit]
    rw [hsplit, insertedIds, List.filterMap_append, List.filterMap_cons] at hnodup
    exact replay_eq_foldl (List.nodup_cons.mp (List.nodup_append.mp hnodup).2.1).1
  refine ⟨hinv.returned ▸ hinv.nodup, ?_, hnone, ?_⟩
  · exact fun pre id post hsplit => ⟨hsome pre id post hsplit, foldl_update _⟩
  · intro thread c s' hstep
    simp only [VzThreads.step] at hstep
    split at hstep
    · rename_i hcall
      obtain rfl := Option.some.inj hstep
      refine ⟨?_, ?_, ?_⟩
      · intro ctx hc hctx
        have hrun := run_config hinv.lock hc
        simp only [hnone ctx hctx] at hrun
        exact ⟨hrun.1, by rw [hrun.2]⟩
      · intro ctx hc hctx
        obtain ⟨pre, post, hsplit⟩ := List.append_of_mem hctx
        have hrun := run_config hinv.lock hc
        simp only [hsome pre ctx post hsplit] at hrun
        rw [hrun.2]
      · intro hc
        rw [run_other hc hcall.2]
    · exact nomatch hstep

/-- Two threads whose `create_ctx` overlap, with a call to one of the contexts. -/
theorem contexts_isolated_overlap :
    let actions : List VzAction := [.fetchAdd 0, .fetchAdd 1, .insert 1,
      .call 1 (.setConsoleOutput ⟨1⟩ ⟨⟨[]⟩⟩), .insert 0]
    ∃ s, Run VzThreads.step (.new (.ofDirs [])) actions s ∧ s.returned.Nodup ∧
      s.host.engine.contexts ⟨1⟩ = some { console := some ⟨⟨[]⟩⟩ } := by
  intro actions
  have hrun := Run.get VzThreads.step (.new (.ofDirs [])) actions rfl
  have h := contexts_isolated hrun (by decide)
  exact ⟨_, hrun, h.1, (h.2.1 [] ⟨1⟩ _ rfl).1⟩

end Tateru.Spec
