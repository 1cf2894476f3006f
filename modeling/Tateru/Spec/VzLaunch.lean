import Tateru.Spec.EngineFs
import Tateru.Spec.LaunchPlan
import Tateru.Spec.VzConfigurations
import Tateru.Spec.VzContexts

/-!
# A launch on Virtualization.framework

The engine collects the configuration of a VM and cannot start one yet. Every launch fails, at
the shutdown eventfd at the latest; what it leaves is a context that has collected all settings
of the builder, and a configuration can be built from it.

## Key results

- `vz_runAll`: a list of calls about one context
- `vz_launch_collects`: what a launch leaves
-/

namespace Tateru.Spec

/-! ## Calls about one context -/

@[simp] theorem contexts_insert (e : VzEngine) (ctx : CtxId) (state : VzCtxState) :
    (e.insert ctx state).contexts ctx = some state :=
  if_pos rfl

@[simp] theorem insert_insert (e : VzEngine) (ctx : CtxId) (state state' : VzCtxState) :
    (e.insert ctx state).insert ctx state' = e.insert ctx state' := by
  simp only [VzEngine.insert, VzEngine.mk.injEq, and_true]
  funext c
  split <;> rfl

/-- Nothing changes when a context gets the state that it has. -/
theorem insert_self {e : VzEngine} {ctx : CtxId} {state : VzCtxState}
    (h : e.contexts ctx = some state) : e.insert ctx state = e := by
  have hcontexts : (fun c => if c = ctx then some state else e.contexts c) = e.contexts := by
    funext c
    by_cases hc : c = ctx
    · rw [if_pos hc, hc, h]
    · rw [if_neg hc]
  rw [VzEngine.insert, hcontexts]

/-- A call that configures `ctx`, or that the engine accepts without effect. -/
inductive VzAccepts (ctx : CtxId) : EngineCall → Prop where
  | configures {c : EngineCall} : configures c = some ctx → VzAccepts ctx c
  | oemStrings (strings : List String) : VzAccepts ctx (.setSmbiosOemStrings ctx strings)
  | nestedVirt (enabled : Bool) : VzAccepts ctx (.setNestedVirt ctx enabled)

theorem vz_run {ctx : CtxId} {c : EngineCall} (hc : VzAccepts ctx c) {h : Host VzEngine}
    {state : VzCtxState} (hlock : h.engine.poisoned = false)
    (hstate : h.engine.contexts ctx = some state) :
    ∃ r, VzEngine.engine.run c h = .ok r ⟨h.engine.insert ctx (update state c), h.fs⟩ := by
  cases hc with
  | configures hc =>
    obtain ⟨hengine, herror⟩ := run_config hlock hc
    simp only [hstate] at hengine herror
    obtain ⟨r, hr⟩ := EStateM.Result.exists_ok herror
    have hfs : (VzEngine.engine.run c h).state.fs = h.fs := vz_keepsFs c h
    exact ⟨r, by rw [hr, ← hengine, ← hfs]⟩
  | oemStrings strings =>
    have hsame : h.engine.insert ctx (update state (.setSmbiosOemStrings ctx strings)) = h.engine :=
      insert_self hstate
    exact ⟨(), by rw [hsame]; rfl⟩
  | nestedVirt enabled =>
    have hsame : h.engine.insert ctx (update state (.setNestedVirt ctx enabled)) = h.engine :=
      insert_self hstate
    exact ⟨(), by rw [hsame]; rfl⟩

/-- Calls about one context succeed one after the other, and update its state. -/
theorem vz_runAll {ctx : CtxId} {cs : List EngineCall} (hcs : ∀ c ∈ cs, VzAccepts ctx c)
    {h : Host VzEngine} {state : VzCtxState} (hlock : h.engine.poisoned = false)
    (hstate : h.engine.contexts ctx = some state) :
    runAll VzEngine.engine cs h =
      .ok () ⟨h.engine.insert ctx (cs.foldl update state), h.fs⟩ := by
  induction cs generalizing h state with
  | nil =>
    rw [List.foldl_nil, insert_self hstate]
    rfl
  | cons c cs ih =>
    rw [List.forall_mem_cons] at hcs
    obtain ⟨r, hr⟩ := vz_run hcs.1 hlock hstate
    have hrest := ih hcs.2 (h := ⟨h.engine.insert ctx (update state c), h.fs⟩) hlock
      (contexts_insert _ _ _)
    rw [runAll_cons, EStateM.bind_ok hr, hrest, List.foldl_cons, insert_insert]

/-! ## What the builder's calls collect -/

section

variable {E : Type}

/-- A context that has collected the settings of a builder up to its raw vsock ports. -/
def configured (b : VmBuilder E) : VzCtxState where
  vcpus := b.vcpus
  memory := b.memory
  disks := b.disks
  virtiofs := b.virtiofsMounts
  vsockPorts := b.vsockPorts

/-- A context that has collected all settings of a builder. -/
def collected (b : VmBuilder E) (env : Env) (ctx : CtxId) : VzCtxState :=
  { configured b with
    vsockPorts := b.vsockPorts ++ b.bridges.map (bridgePort env ctx)
    console := b.console }

/-- What is collected of calls that are made for the elements of a list, one setting at a time. -/
private theorem filterMap_calls {α β : Type} (l : List α) (call : α → EngineCall)
    (setting : EngineCall → Option β) :
    (l.map call).filterMap setting = l.filterMap fun a => setting (call a) :=
  List.filterMap_map

private theorem filterMap_nothing {α β : Type} (l : List α) :
    l.filterMap (fun _ => (none : Option β)) = [] := by
  simp

theorem ofConfigCalls_configurePlan (b : VmBuilder E) (ctx : CtxId) (vcpus : VcpuCount)
    (memory : MemoryMib) :
    ofConfigCalls (configurePlan b ctx vcpus memory) = {
      vcpus := some vcpus
      memory := some memory
      disks := b.disks
      virtiofs := b.virtiofsMounts
      vsockPorts := b.vsockPorts
      console := none } := by
  have hdisks : b.disks.zipIdx.map Prod.fst = b.disks := List.zipIdx_map_fst 0 b.disks
  simp only [ofConfigCalls, configurePlan, List.filterMap_cons_toList, List.filterMap_append,
    filterMap_calls, filterMap_nothing, vcpusOf, memoryOf, diskOf, mountOf, portOf, consoleOf,
    List.filterMap_eq_map', hdisks, List.filterMap_some, Option.toList_some, Option.toList_none,
    List.append_nil, List.nil_append]
  rfl

theorem foldl_configurePlan {b : VmBuilder E} {vcpus : VcpuCount} {memory : MemoryMib}
    (hvcpus : b.vcpus = some vcpus) (hmemory : b.memory = some memory) (ctx : CtxId) :
    (configurePlan b ctx vcpus memory).foldl update {} = configured b := by
  rw [foldl_update, ofConfigCalls_configurePlan, configured, hvcpus, hmemory]

/-- The bridges add their ports after those that are there. -/
theorem foldl_bridgesPlan (b : VmBuilder E) (env : Env) (ctx : CtxId) (state : VzCtxState) :
    (bridgesPlan b env ctx).foldl update state =
      { state with vsockPorts := state.vsockPorts ++ b.bridges.map (bridgePort env ctx) } := by
  unfold bridgesPlan
  induction b.bridges generalizing state with
  | nil => rw [List.map_nil, List.map_nil, List.append_nil]; rfl
  | cons br bridges ih =>
    rw [List.map_cons, List.foldl_cons, ih, update, List.map_cons, List.append_assoc]
    rfl

/-- Of the options, a context keeps the console. -/
theorem foldl_optionsPlan (b : VmBuilder E) (ctx : CtxId) (state : VzCtxState) :
    (optionsPlan b ctx).foldl update state =
      { state with console := b.console.or state.console } := by
  have hoem : ∀ (l : List (List String)) (state : VzCtxState),
      (l.map (.setSmbiosOemStrings ctx)).foldl update state = state := by
    intro l state
    induction l with
    | nil => rfl
    | cons strings l ih => exact ih
  unfold optionsPlan
  rw [List.foldl_append, List.foldl_append, hoem]
  cases b.console <;> cases b.nestedVirt <;> rfl

theorem configurePlan_accepts (b : VmBuilder E) (ctx : CtxId) (vcpus : VcpuCount)
    (memory : MemoryMib) : ∀ c ∈ configurePlan b ctx vcpus memory, VzAccepts ctx c := by
  intro c hc
  apply VzAccepts.configures
  simp only [configurePlan, List.mem_cons, List.mem_append, List.mem_map] at hc
  rcases hc with rfl | ⟨p, -, rfl⟩ | ⟨mount, -, rfl⟩ | ⟨port, -, rfl⟩
  · rfl
  · rfl
  · rfl
  · rfl

theorem bridgesPlan_accepts (b : VmBuilder E) (env : Env) (ctx : CtxId) :
    ∀ c ∈ bridgesPlan b env ctx, VzAccepts ctx c := by
  intro c hc
  obtain ⟨br, -, rfl⟩ := List.mem_map.mp hc
  exact .configures rfl

theorem optionsPlan_accepts (b : VmBuilder E) (ctx : CtxId) :
    ∀ c ∈ optionsPlan b ctx, VzAccepts ctx c := by
  intro c hc
  simp only [optionsPlan, List.mem_append, List.mem_map] at hc
  rcases hc with ⟨console, -, rfl⟩ | ⟨strings, -, rfl⟩ | ⟨enabled, -, rfl⟩
  · exact .configures rfl
  · exact .oemStrings strings
  · exact .nestedVirt enabled

end

/-! ## A whole launch -/

/-- A launch has made a context of its own, with this state and in this file system, and nothing
    else: no descriptor, no channel, no bridge task. -/
structure VzLeaves (w w' : World VzEngine) (fs : FileSys) (state : VzCtxState) : Prop where
  engine : w'.host.engine = VzEngine.insert
    { w.host.engine with nextId := w.host.engine.nextId + 1 } ⟨w.host.engine.nextId⟩ state
  fs : w'.host.fs = fs
  opened : w'.opened = w.opened
  closed : w'.closed = w.closed
  channel : w'.channel = w.channel
  bridges : w'.bridges = w.bridges

namespace VzLeaves

variable {w w' : World VzEngine} {fs fs' : FileSys} {state : VzCtxState}

/-- The first step of a launch. -/
theorem createCtx (hlock : w.host.engine.poisoned = false) :
    ∃ w', LaunchM.call VzEngine.engine .createCtx w = .ok ⟨w.host.engine.nextId⟩ w' ∧
      VzLeaves w w' w.host.fs {} := by
  have hrun : VzEngine.engine.run .createCtx w.host = .ok ⟨w.host.engine.nextId⟩
      ⟨VzEngine.insert { w.host.engine with nextId := w.host.engine.nextId + 1 }
        ⟨w.host.engine.nextId⟩ {}, w.host.fs⟩ := by
    show (VzEngine.fetchAdd >>= VzEngine.insertCtx) w.host = _
    rw [EStateM.bind_ok (show VzEngine.fetchAdd w.host = .ok _ _ from rfl), VzEngine.insertCtx,
      if_neg (by rw [hlock]; simp)]
  exact ⟨_, LaunchM.call_ok hrun, rfl, rfl, rfl, rfl, rfl, rfl⟩

/-- Calls about the context update its state. -/
theorem callAll (h : VzLeaves w w' fs state) (hlock : w.host.engine.poisoned = false)
    {cs : List EngineCall} (hcs : ∀ c ∈ cs, VzAccepts ⟨w.host.engine.nextId⟩ c) :
    ∃ w'', callAll VzEngine.engine cs w' = .ok () w'' ∧
      VzLeaves w w'' fs (cs.foldl update state) := by
  obtain ⟨t, ht⟩ := callAll_run VzEngine.engine cs w'
  rw [vz_runAll hcs (by rw [h.engine]; exact hlock) (by rw [h.engine]; exact contexts_insert _ _ _)]
    at ht
  exact ⟨_, ht, by rw [h.engine, insert_insert], h.fs, h.opened, h.closed, h.channel, h.bridges⟩

theorem createDirAll_ok (h : VzLeaves w w' fs state) {path : PathBuf}
    (hdir : fs.createDirAll path = (.ok (), fs')) :
    ∃ w'', LaunchM.createDirAll path w' = .ok () w'' ∧ VzLeaves w w'' fs' state := by
  unfold LaunchM.createDirAll
  rw [h.fs, hdir]
  exact ⟨_, rfl, h.engine, rfl, h.opened, h.closed, h.channel, h.bridges⟩

theorem createDirAll_error (h : VzLeaves w w' fs state) {path : PathBuf} {e : IoError}
    (hdir : fs.createDirAll path = (.error e, fs')) :
    ∃ w'', LaunchM.createDirAll path w' = .error (.bridgeIo e) w'' ∧ VzLeaves w w'' fs' state := by
  unfold LaunchM.createDirAll
  rw [h.fs, hdir]
  exact ⟨_, rfl, h.engine, rfl, h.opened, h.closed, h.channel, h.bridges⟩

/-- Every start of a VM ends at the eventfd. -/
theorem start (h : VzLeaves w w' fs state) {b : VmBuilder (VmEngine VzEngine)}
    (hb : b.engine = VzEngine.engine) (env : Env) (spawner : BridgeSpawner) (ctx : CtxId)
    (configs : List BridgeConfig) :
    ∃ w'', b.start env spawner ctx configs w' =
        .error (.invalidConfig "vz: shutdown eventfd not available; use VM observer (M2)") w'' ∧
      VzLeaves w w'' fs state := by
  have hcall : VzEngine.engine.run (.getShutdownEventfd ctx) w'.host = .error
      (.invalidConfig "vz: shutdown eventfd not available; use VM observer (M2)") w'.host := rfl
  refine ⟨_, EStateM.bind_error (by rw [hb]; exact LaunchM.call_error hcall), ?_⟩
  exact ⟨h.engine, h.fs, h.opened, h.closed, h.channel, h.bridges⟩

end VzLeaves

/-- A configuration can be built from what a builder has collected when its disks can be
    attached. -/
theorem configuration_of_collected {E A : Type} (V : Vz A) {b : VmBuilder E} {vcpus : VcpuCount}
    {memory : MemoryMib} (hvcpus : b.vcpus = some vcpus) (hmemory : b.memory = some memory)
    (hdisks : b.disks ≠ []) (env : Env) (ctx : CtxId) :
    ((∃ cfg, V.buildConfiguration (collected b env ctx) = .ok cfg) ↔
      ∀ disk ∈ b.disks, ∃ a, HasAttachment V disk a) ∧
    ∀ cfg, V.buildConfiguration (collected b env ctx) = .ok cfg →
      Materialises V (configured b) cfg := by
  rcases fault_or_materialises V (collected b env ctx) with
    ⟨e, hfault⟩ | ⟨-, -, -, hattach, cfg, hcfg, hmat⟩
  · have herror := buildConfiguration_of_fault hfault
    have hnone : ¬ ∃ cfg, V.buildConfiguration (collected b env ctx) = .ok cfg := by
      rintro ⟨cfg, hcfg⟩
      exact nomatch herror.symm.trans hcfg
    refine ⟨iff_of_false hnone ?_, fun cfg hcfg => absurd ⟨cfg, hcfg⟩ hnone⟩
    -- All that can be wrong is a disk
    intro hattach
    cases hfault with
    | vcpus hnovcpus => exact nomatch hvcpus.symm.trans hnovcpus
    | memory _ hnomemory => exact nomatch hmemory.symm.trans hnomemory
    | noDisks _ _ hnodisks => exact hdisks hnodisks
    | @disk pre post disk _ _ _ hsplit hpre hdisk =>
      replace hsplit : b.disks = pre ++ disk :: post := hsplit
      obtain ⟨a, ha⟩ := hattach disk (by rw [hsplit]; simp)
      have hok := makeDiskAttachment_eq_ok_iff.mpr ha
      rw [makeDiskAttachment_eq_error_iff.mpr hdisk] at hok
      cases hok
  · refine ⟨iff_of_true ⟨cfg, hcfg⟩ hattach, ?_⟩
    intro cfg' hcfg'
    obtain rfl := Except.ok.inj (hcfg.symm.trans hcfg')
    exact ⟨hmat.cpuCount, hmat.memorySize, hmat.storageDevices⟩

/-- **A launch on Virtualization.framework collects the whole builder, and never starts.** On an
    engine whose lock is not poisoned, the launch of a valid builder makes the context of the next
    id. If its working directory cannot be made, it fails with that error, and the context has the
    settings up to the raw vsock ports; otherwise it fails at the shutdown eventfd, and the context
    has all settings: the ports of the bridges after the raw ones, in order, and the console. No
    other context is changed, no descriptor is taken over and no bridge task spawned. A
    configuration can be built from the context if and only if every disk of the builder has an
    attachment, and is then that of the builder. -/
theorem vz_launch_collects {b : VmBuilder (VmEngine VzEngine)} (hb : b.engine = VzEngine.engine)
    (hvalid : b.validate = .ok ()) (env : Env) (spawner : BridgeSpawner) {w : World VzEngine}
    (hlock : w.host.engine.poisoned = false) :
    let ctx : CtxId := ⟨w.host.engine.nextId⟩
    let launched := b.launchWithSpawner env spawner w
    (∀ e fs, w.host.fs.createDirAll (env.workdir ctx) = (.error e, fs) →
      launched.error? = some (.bridgeIo e) ∧ VzLeaves w launched.state fs (configured b)) ∧
    (∀ fs, w.host.fs.createDirAll (env.workdir ctx) = (.ok (), fs) →
      launched.error? =
        some (.invalidConfig "vz: shutdown eventfd not available; use VM observer (M2)") ∧
      VzLeaves w launched.state fs (collected b env ctx)) ∧
    ∀ (A : Type) (V : Vz A),
      ((∃ cfg, V.buildConfiguration (collected b env ctx) = .ok cfg) ↔
        ∀ disk ∈ b.disks, ∃ a, HasAttachment V disk a) ∧
      ∀ cfg, V.buildConfiguration (collected b env ctx) = .ok cfg →
        Materialises V (configured b) cfg := by
  intro ctx launched
  obtain ⟨vcpus, memory, hvcpus, hmemory, hdisks⟩ := VmBuilder.exists_of_validate_ok hvalid
  obtain ⟨w₁, hcreate, h₁⟩ := VzLeaves.createCtx hlock
  obtain ⟨w₂, hconfigure, h₂⟩ := h₁.callAll hlock (configurePlan_accepts b ctx vcpus memory)
  rw [foldl_configurePlan hvcpus hmemory] at h₂
  -- Up to the working directory every launch goes the same way
  have hlaunch : launched = (do
      LaunchM.createDirAll (env.workdir ctx)
      callAll b.engine (bridgesPlan b env ctx)
      callAll b.engine (optionsPlan b ctx)
      b.start env spawner ctx (b.bridges.map (bridgeConfig env ctx))) w₂ := by
    show b.launchWithSpawner env spawner w = _
    rw [VmBuilder.launchWithSpawner_of_some hvcpus hmemory hdisks, VmBuilder.launchValidated, hb,
      EStateM.bind_ok hcreate, launchCtx_eq_callAll, hb, EStateM.bind_ok hconfigure]
  refine ⟨?noDir, ?made, ?configuration⟩
  case noDir =>
    intro e fs hdir
    obtain ⟨w₃, herror, h₃⟩ := h₂.createDirAll_error hdir
    rw [hlaunch, EStateM.bind_error herror]
    exact ⟨rfl, h₃⟩
  case made =>
    intro fs hdir
    obtain ⟨w₃, hmade, h₃⟩ := h₂.createDirAll_ok hdir
    obtain ⟨w₄, hbridges, h₄⟩ := h₃.callAll hlock (bridgesPlan_accepts b env ctx)
    obtain ⟨w₅, hoptions, h₅⟩ := h₄.callAll hlock (optionsPlan_accepts b ctx)
    obtain ⟨w₆, hstart, h₆⟩ := h₅.start hb env spawner ctx (b.bridges.map (bridgeConfig env ctx))
    rw [foldl_optionsPlan, foldl_bridgesPlan] at h₆
    rw [hlaunch, EStateM.bind_ok hmade, hb, EStateM.bind_ok hbridges, EStateM.bind_ok hoptions,
      hstart]
    refine ⟨rfl, ?_⟩
    rw [collected, ← show b.console.or none = b.console by cases b.console <;> rfl]
    exact h₆
  case configuration =>
    intro A V
    exact configuration_of_collected V hvcpus hmemory hdisks env ctx

/-- A VM with a bridge, launched on a fresh engine. -/
theorem vz_launch_collects_bridge :
    let b : VmBuilder (VmEngine VzEngine) :=
      { VmBuilder.new VzEngine.engine with
        vcpus := some ⟨2⟩, memory := some ⟨1024⟩, bridges := [⟨31122, ⟨22⟩⟩]
        disks := [⟨.ofString "/vm.raw", .raw, false⟩] }
    let env : Env := ⟨.ofString "/tmp", none⟩
    let w : World VzEngine := .new ⟨.new, .ofDirs [[], [(PathBuf.ofString "tmp").bytes]]⟩
    let launched := b.launchWithSpawner env tokioBridgeSpawner w
    launched.error? =
      some (.invalidConfig "vz: shutdown eventfd not available; use VM observer (M2)") ∧
    (launched.state.host.engine.contexts ⟨0⟩).map VzCtxState.vsockPorts =
      some [⟨⟨22⟩, .ofString "/tmp/tateru-0/vsock-22.sock"⟩] := by
  intro b env w launched
  obtain ⟨-, hmade, -⟩ := vz_launch_collects (b := b) rfl rfl env tokioBridgeSpawner (w := w) rfl
  obtain ⟨herror, hleaves⟩ := hmade _ (Prod.ext (by decide +kernel) rfl)
  refine ⟨herror, ?_⟩
  rw [hleaves.engine]
  decide +kernel

end Tateru.Spec
