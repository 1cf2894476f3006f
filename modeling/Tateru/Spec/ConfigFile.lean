import Tateru.Native.Config
import Tateru.Spec.LaunchPlan

/-!
# A configuration file is a chain of builder calls

A configuration is checked on the way into a builder, before anything is launched. What is
launched in the end is what the chain of builder calls launches that spells it out.

## Key results

- `intoBuilder_eq_build`: a configuration is checked and stored like the chain of builder
  calls that spells it out
- `intoBuilder_of_fault`: what is wrong with a configuration is what is reported
- `configured_like_chain`: when a configuration is launched, and how
-/

namespace Tateru.Spec

variable {E : Type}

/-- The builder calls that spell out a configuration. -/
def configCalls (c : TateruConfig) : List BuilderCall :=
  .cpus c.cpus :: .memory c.memory :: .disk ⟨c.disk, c.diskFormat, c.diskReadOnly⟩ ::
    (c.virtiofs.map .virtiofs ++
      c.vsockBridges.map fun bridge => .vsockBridge bridge.hostPort bridge.guestPort)

private theorem foldlM_virtiofs (b : VmBuilder E) (mounts : List VirtioFsMount) :
    mounts.foldlM (fun b mount => .ok (b.virtiofs mount)) b =
      (.ok (mounts.foldl VmBuilder.virtiofs b) : Except TateruError (VmBuilder E)) :=
  List.foldlM_pure

/-- A configuration is checked and stored like the chain of builder calls that spells it
    out. -/
theorem intoBuilder_eq_build [Str.CaseContext] (c : TateruConfig) (engine : E) :
    c.intoBuilder engine = (VmBuilder.new engine).build (configCalls c) := by
  simp only [TateruConfig.intoBuilder, VmBuilder.build, configCalls, List.foldlM_cons,
    List.foldlM_append, List.foldlM_map, VmBuilder.apply, foldlM_virtiofs, VmBuilder.cpus,
    VmBuilder.setMemory]
  -- Both check the vCPU count before the memory
  cases VcpuCount.new c.cpus with
  | error e => rfl
  | ok vcpus =>
    cases MemoryMib.parse c.memory with
    | error e => rfl
    | ok memory => rfl

/-- The settings of one kind in the chain. -/
private theorem filterMap_configCalls {α : Type} (setting : BuilderCall → Option α)
    (c : TateruConfig) :
    (configCalls c).filterMap setting =
      (setting (.cpus c.cpus)).toList ++ ((setting (.memory c.memory)).toList ++
        ((setting (.disk ⟨c.disk, c.diskFormat, c.diskReadOnly⟩)).toList ++
          (c.virtiofs.filterMap (fun mount => setting (.virtiofs mount)) ++
            c.vsockBridges.filterMap fun entry =>
              setting (.vsockBridge entry.hostPort entry.guestPort)))) := by
  rw [configCalls, List.filterMap_cons_toList, List.filterMap_cons_toList,
    List.filterMap_cons_toList, List.filterMap_append, List.filterMap_map, List.filterMap_map]
  rfl

/-! ## What can be wrong with a configuration -/

/-- The first bridge to the guest port 0 ends the loop over the bridges. -/
theorem foldlM_vsockBridge_of_zero (b : VmBuilder E) {pre post : List BridgeEntry}
    {bridge : BridgeEntry} (hpre : ∀ entry ∈ pre, entry.guestPort ≠ 0)
    (hzero : bridge.guestPort = 0) :
    (pre ++ bridge :: post).foldlM
      (fun b bridge => b.vsockBridge bridge.hostPort bridge.guestPort) b =
        .error (.invalidConfig "guest port must be > 0") := by
  induction pre generalizing b with
  | nil =>
    rw [List.nil_append, List.foldlM_cons, VmBuilder.vsockBridge, GuestPort.new, if_pos hzero]
    rfl
  | cons entry pre ih =>
    rw [List.forall_mem_cons] at hpre
    rw [List.cons_append, List.foldlM_cons,
      VmBuilder.vsockBridge_eq_ok_iff.mpr ⟨hpre.1, rfl⟩, Except.ok_bind]
    exact ih _ hpre.2

section

variable [Str.CaseContext]

/-- What is wrong with a configuration: the first check that fails. -/
inductive ConfigFault (c : TateruConfig) : TateruError → Prop where
  | cpus : c.cpus = 0 → ConfigFault c (.invalidConfig "vCPU count must be at least 1")
  | memory {e : TateruError} : c.cpus ≠ 0 → MemoryMib.parse c.memory = .error e →
      ConfigFault c e
  | bridge {m : MemoryMib} {pre post : List BridgeEntry} {bridge : BridgeEntry} :
      c.cpus ≠ 0 → MemoryMib.parse c.memory = .ok m → c.vsockBridges = pre ++ bridge :: post →
      (∀ entry ∈ pre, entry.guestPort ≠ 0) → bridge.guestPort = 0 →
      ConfigFault c (.invalidConfig "guest port must be > 0")

/-- A configuration in which every check succeeds. -/
def IsValid (c : TateruConfig) : Prop :=
  c.cpus ≠ 0 ∧ (∃ m, MemoryMib.parse c.memory = .ok m) ∧
    ∀ entry ∈ c.vsockBridges, entry.guestPort ≠ 0

/-- Either something is wrong with a configuration, or it is valid. -/
theorem fault_or_isValid (c : TateruConfig) : (∃ e, ConfigFault c e) ∨ IsValid c := by
  by_cases hcpus : c.cpus = 0
  · exact Or.inl ⟨_, .cpus hcpus⟩
  · cases hmemory : MemoryMib.parse c.memory with
    | error e => exact Or.inl ⟨e, .memory hcpus hmemory⟩
    | ok m =>
      by_cases hbridges : ∀ entry ∈ c.vsockBridges, entry.guestPort ≠ 0
      · exact Or.inr ⟨hcpus, ⟨m, hmemory⟩, hbridges⟩
      · cases hfind : c.vsockBridges.find? (·.guestPort = 0) with
        | none => exact absurd (by simpa using hfind) hbridges
        -- The first entry that names the port 0
        | some bridge =>
          obtain ⟨hzero, pre, post, hsplit, hpre⟩ := List.find?_eq_some_iff_append.mp hfind
          refine Or.inl ⟨_, .bridge hcpus hmemory hsplit ?_ (of_decide_eq_true hzero)⟩
          simpa using hpre

/-- The chain that spells out a valid configuration is accepted. -/
theorem isValid_iff_accepted (c : TateruConfig) :
    IsValid c ↔ ∀ call ∈ configCalls c, Accepted call := by
  simp [configCalls, IsValid, Accepted, or_imp, forall_and]

/-- What is wrong with a configuration is what is reported. -/
theorem intoBuilder_of_fault {c : TateruConfig} {e : TateruError} (h : ConfigFault c e)
    (engine : E) : c.intoBuilder engine = .error e := by
  cases h with
  | cpus hcpus =>
    rw [TateruConfig.intoBuilder, VcpuCount.new, if_pos hcpus]
    rfl
  | memory hcpus hmemory =>
    rw [TateruConfig.intoBuilder, VcpuCount.new, if_neg hcpus, hmemory]
    rfl
  | bridge hcpus hmemory hbridges hpre hzero =>
    rw [TateruConfig.intoBuilder, VcpuCount.new, if_neg hcpus, hmemory, hbridges]
    exact foldlM_vsockBridge_of_zero _ hpre hzero

/-- What the chain leaves in the builder. -/
theorem ofCalls_configCalls (engine : E) (c : TateruConfig) :
    ofCalls engine (configCalls c) = {
      engine := engine
      vcpus := some ⟨c.cpus⟩
      memory := (MemoryMib.parse c.memory).toOption
      disks := [⟨c.disk, c.diskFormat, c.diskReadOnly⟩]
      virtiofsMounts := c.virtiofs
      vsockPorts := []
      bridges := c.vsockBridges.map fun entry => ⟨entry.hostPort, ⟨entry.guestPort⟩⟩
      console := none
      oemStrings := []
      nestedVirt := none } := by
  have hnone : ∀ {α β : Type} (l : List α), l.filterMap (fun _ => (none : Option β)) = [] := by
    simp
  simp only [ofCalls, lastOf, filterMap_configCalls, vcpus?, memory?, disk?, virtiofs?, vsock?,
    bridge?, console?, oemString?, nestedVirt?, hnone, List.filterMap_eq_map', Option.toList_none,
    Option.toList_some, List.nil_append, List.append_nil]
  cases MemoryMib.parse c.memory <;> simp [Except.toOption]

end

/-! ## What is launched -/

section

variable [Str.CaseContext] {σ : Type}

/-- The vsock port of a bridge of a configuration. -/
def entryPort (env : Env) (ctx : CtxId) (entry : BridgeEntry) : VsockPort :=
  ⟨⟨entry.guestPort⟩, (env.workdir ctx).bridgeSocket ⟨entry.guestPort⟩⟩

/-- The steps that launch the context `ctx` of a configuration with this memory. -/
def configPlan (c : TateruConfig) (memory : MemoryMib) (env : Env) (ctx : CtxId) :
    List LaunchStep :=
  .engine (.setVmConfig ctx ⟨c.cpus⟩ memory) ::
    .engine (.addDisk ctx ⟨c.disk, c.diskFormat, c.diskReadOnly⟩ 0) ::
    (c.virtiofs.map (fun mount => .engine (.addVirtiofs ctx mount)) ++
      .createDirAll (env.workdir ctx) ::
      (c.vsockBridges.map (fun entry => .engine (.addVsockPort ctx (entryPort env ctx entry))) ++
        .engine (.getShutdownEventfd ctx) ::
        (c.vsockBridges.map (fun entry =>
            .spawnBridge ⟨entry.hostPort, (entryPort env ctx entry).hostSocket⟩) ++
          [.spawnThread])))

/-- Launch a configuration. -/
def launchConfig (c : TateruConfig) (E : VmEngine σ) (env : Env) (spawner : BridgeSpawner) :
    LaunchM σ VmHandle := do
  let b ← ofExcept (c.intoBuilder E)
  b.launchWithSpawner env spawner

theorem launchPlan_configCalls (E : VmEngine σ) (c : TateruConfig) (env : Env)
    (memory : MemoryMib) (ctx : CtxId) :
    launchPlan (ofCalls E (configCalls c)) env ⟨c.cpus⟩ memory ctx =
      configPlan c memory env ctx := by
  rw [ofCalls_configCalls]
  simp only [launchPlan, configurePlan, bridgesPlan, optionsPlan, startPlan, configPlan,
    List.zipIdx_cons, List.zipIdx_nil, List.map_cons, List.map_nil, List.append_nil,
    List.cons_append, List.nil_append, List.map_map, Option.toList_none, List.isEmpty_nil, if_true]
  rfl

/-- **A configuration is launched like the chain of calls that spells it out.** It makes a builder
    if and only if its number of vCPUs and the guest ports of its bridges are not zero and its
    memory can be parsed; the builder is then complete, is launched like the builder of the chain,
    and takes the steps of the configuration in its order. Otherwise the error is that of the
    first check that fails, and nothing has happened. -/
theorem configured_like_chain (E : VmEngine σ) (c : TateruConfig) (env : Env)
    (spawner : BridgeSpawner) :
    ((∃ b, c.intoBuilder E = .ok b) ↔ IsValid c) ∧
    (∀ b, c.intoBuilder E = .ok b → b.validate = .ok () ∧
      (∃ chain, (VmBuilder.new E).build (configCalls c) = .ok chain ∧
        b.launchWithSpawner env spawner = chain.launchWithSpawner env spawner) ∧
      ∃ m, MemoryMib.parse c.memory = .ok m ∧ ∀ w, ∃ t,
        (b.launchWithSpawner env spawner w).state.trace = w.trace ++ t ∧
        StopsAtFirst (afterCreateCtx E w.host (configPlan c m env)) t
          (b.launchWithSpawner env spawner w).error?) ∧
    (∀ e, c.intoBuilder E = .error e ↔ ConfigFault c e) ∧
    ∀ e w, c.intoBuilder E = .error e → launchConfig c E env spawner w = .error e w := by
  have hvalid : (∃ b, c.intoBuilder E = .ok b) ↔ IsValid c := by
    rw [intoBuilder_eq_build, isValid_iff_accepted]
    constructor
    · rintro ⟨b, hb⟩
      exact (build_eq_ok_iff.mp hb).1
    · exact fun hall => ⟨_, build_eq_ok_iff.mpr ⟨hall, rfl⟩⟩
  refine ⟨hvalid, ?launch, ?fault, ?nothing⟩
  case launch =>
    intro b hb
    obtain ⟨-, ⟨m, hm⟩, -⟩ := hvalid.mp ⟨b, hb⟩
    rw [intoBuilder_eq_build] at hb
    have hvcpus : (ofCalls E (configCalls c)).vcpus = some ⟨c.cpus⟩ := by
      rw [ofCalls_configCalls]
    have hmemory : (ofCalls E (configCalls c)).memory = some m := by
      rw [ofCalls_configCalls, hm]
      rfl
    have hdisks : (ofCalls E (configCalls c)).disks ≠ [] := by
      rw [ofCalls_configCalls]
      exact List.cons_ne_nil _ _
    obtain ⟨-, rfl⟩ := build_eq_ok_iff.mp hb
    refine ⟨?_, ⟨_, hb, rfl⟩, m, hm, fun w => ?_⟩
    · exact VmBuilder.validate_ok_iff.mpr ⟨by rw [hvcpus]; rfl, by rw [hmemory]; rfl, hdisks⟩
    · rw [VmBuilder.launchWithSpawner_of_some hvcpus hmemory hdisks]
      have htraced := stopsAtFirst_afterCreateCtx E
        (launchCtx_traced (ofCalls E (configCalls c)) env spawner ⟨c.cpus⟩ m) w
      rwa [funext (launchPlan_configCalls E c env m)] at htraced
  case fault =>
    intro e
    constructor
    · intro herror
      rcases fault_or_isValid c with ⟨e', hfault⟩ | hall
      · obtain rfl := Except.error.inj (herror.symm.trans (intoBuilder_of_fault hfault E))
        exact hfault
      · obtain ⟨b, hb⟩ := hvalid.mpr hall
        exact nomatch herror.symm.trans hb
    · exact fun hfault => intoBuilder_of_fault hfault E
  case nothing =>
    intro e w herror
    exact EStateM.bind_error (by rw [herror]; rfl)

end

end Tateru.Spec
