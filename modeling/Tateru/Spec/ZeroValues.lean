import Tateru.Spec.ConfigFile
import Tateru.Spec.LaunchCleanup

/-!
# Zeros on their way to the engine

The newtypes for vCPU counts, memory sizes and guest ports reject zero when they are made, but
not when they are deserialized. A deserialized zero that is given to the builder goes through
to the engine.

## Key results

- `permissive_launch_ok`: on an engine that accepts every call, a launch takes its whole plan
- `engine_sees_no_zero_iff`: the settings whose launch shows no engine a zero
-/

namespace Tateru.Spec

/-- A call without a zero where there must be none. -/
def NoZero : EngineCall → Prop
  | .setVmConfig _ vcpus memory => 1 ≤ vcpus.raw ∧ 1 ≤ memory.raw
  | .addVsockPort _ port => 1 ≤ port.guestPort.raw
  | _ => True

/-- Where a chain of builder calls starts. -/
inductive Origin where
  | new
  | config (c : TateruConfig)

section Chain

variable [Str.CaseContext] {E : Type}

/-- A builder from the public interface: `new` or `into_builder`, and then builder calls. -/
def chain (engine : E) (origin : Origin) (calls : List BuilderCall) :
    Except TateruError (VmBuilder E) :=
  match origin with
  | .new => (VmBuilder.new engine).build calls
  | .config c => do (← c.intoBuilder engine).build calls

/-- The builder calls that an origin stands for. -/
def Origin.calls : Origin → List BuilderCall
  | .new => []
  | .config c => configCalls c

theorem chain_eq_build (engine : E) (origin : Origin) (calls : List BuilderCall) :
    chain engine origin calls = (VmBuilder.new engine).build (origin.calls ++ calls) := by
  cases origin with
  | new => rfl
  | config c =>
    simp only [chain, intoBuilder_eq_build, Origin.calls, VmBuilder.build, List.foldlM_append]

/-- No engine is shown a zero by a launch of the builder. -/
def EngineSeesNoZero (origin : Origin) (calls : List BuilderCall) : Prop :=
  ∀ {σ : Type} (E : VmEngine σ) (b : VmBuilder (VmEngine σ)), chain E origin calls = .ok b →
    ∀ (env : Env) (spawner : BridgeSpawner) (host : Host σ) (c : EngineCall)
      (o : Option TateruError),
      (.engine c, o) ∈ (b.launchWithSpawner env spawner (.new host)).state.trace → NoZero c

/-- The settings that a builder passes on unchecked are not zero. -/
structure NonzeroSettings (b : VmBuilder E) : Prop where
  vcpus : ∀ v ∈ b.vcpus, v.raw ≠ 0
  memory : ∀ m ∈ b.memory, m.raw ≠ 0
  vsockPorts : ∀ p ∈ b.vsockPorts, p.guestPort.raw ≠ 0

end Chain

private theorem uint8_one_le {n : UInt8} : 1 ≤ n ↔ n ≠ 0 := by
  rw [UInt8.le_iff_toNat_le, ne_eq, ← UInt8.toNat_inj]
  exact Nat.one_le_iff_ne_zero

private theorem uint32_one_le {n : UInt32} : 1 ≤ n ↔ n ≠ 0 := by
  rw [UInt32.le_iff_toNat_le, ne_eq, ← UInt32.toNat_inj]
  exact Nat.one_le_iff_ne_zero

/-! ## Settings without a zero -/

/-- The builder checks the guest ports of its bridges. -/
private theorem bridges_ne_zero [Str.CaseContext] {E : Type} {engine : E}
    {calls : List BuilderCall} (hacc : ∀ c ∈ calls, Accepted c) :
    ∀ br ∈ (ofCalls engine calls).bridges, br.guestPort.raw ≠ 0 := by
  intro br hbr
  obtain ⟨c, hc, hbridge⟩ := List.mem_filterMap.mp hbr
  have hc' := hacc c hc
  cases c with
  | vsockBridge hostPort guestPort =>
    obtain rfl := Option.some.inj hbridge
    exact hc'
  | _ => exact nomatch hbridge

/-- A launch plans no call with a zero if its builder has none. -/
private theorem noZero_of_mem_launchPlan {E : Type} {b : VmBuilder E}
    (hset : NonzeroSettings b) (hbridges : ∀ br ∈ b.bridges, br.guestPort.raw ≠ 0)
    {vcpus : VcpuCount} {memory : MemoryMib} (hvcpus : b.vcpus = some vcpus)
    (hmemory : b.memory = some memory) {env : Env} {ctx : CtxId} {c : EngineCall}
    (hc : .engine c ∈ launchPlan b env vcpus memory ctx) : NoZero c := by
  simp only [launchPlan, configurePlan, bridgesPlan, optionsPlan, startPlan, List.mem_append,
    List.mem_cons, List.mem_map, LaunchStep.engine.injEq, exists_eq_right, reduceCtorEq,
    false_or, and_false, exists_false, or_false, List.not_mem_nil] at hc
  -- The calls with a number in them come from the settings and from the bridges
  rcases hc with (rfl | ⟨d, -, rfl⟩ | ⟨m, -, rfl⟩ | ⟨p, hp, rfl⟩) | ⟨br, hbr, rfl⟩ |
    (⟨_, -, rfl⟩ | ⟨_, -, rfl⟩ | ⟨_, -, rfl⟩) | rfl
  · exact ⟨uint8_one_le.mpr (hset.vcpus vcpus hvcpus),
      uint32_one_le.mpr (hset.memory memory hmemory)⟩
  · trivial
  · trivial
  · exact uint32_one_le.mpr (hset.vsockPorts p hp)
  · exact uint32_one_le.mpr (hbridges br hbr)
  · trivial
  · trivial
  · trivial
  · trivial

/-- A launch shows its engine only what it planned. -/
private theorem noZero_of_nonzeroSettings {σ : Type} {b : VmBuilder (VmEngine σ)}
    (hset : b.validate = .ok () → NonzeroSettings b)
    (hbridges : ∀ br ∈ b.bridges, br.guestPort.raw ≠ 0) (env : Env) (spawner : BridgeSpawner)
    (host : Host σ) {c : EngineCall} {o : Option TateruError}
    (hc : (.engine c, o) ∈ (b.launchWithSpawner env spawner (.new host)).state.trace) :
    NoZero c := by
  rcases b.launchWithSpawner_cases env spawner with
    ⟨e, hrefused⟩ | ⟨hvalid, vcpus, memory, hvcpus, hmemory, hlaunch⟩
  · rw [hrefused] at hc
    cases hc
  · rw [hlaunch] at hc
    obtain ⟨t, ht, hstop⟩ := stopsAtFirst_afterCreateCtx b.engine
      (launchCtx_traced b env spawner vcpus memory) (.new host)
    rw [VmBuilder.launchValidated, ht] at hc
    have hmem := hstop.mem_plan hc
    unfold afterCreateCtx at hmem
    rcases List.mem_cons.mp hmem with heq | hmem
    · obtain rfl := LaunchStep.engine.inj heq
      trivial
    · split at hmem
      · exact noZero_of_mem_launchPlan (hset hvalid) hbridges hvcpus hmemory hmem
      · cases hmem

/-! ## An engine that accepts every call -/

/-- The engine that accepts every call. -/
def permissive : VmEngine Unit where
  createCtx := pure ⟨0⟩
  setVmConfig _ _ _ := pure ()
  addDisk _ _ _ := pure ()
  addVirtiofs _ _ := pure ()
  addVsockPort _ _ := pure ()
  setConsoleOutput _ _ := pure ()
  getShutdownEventfd _ := pure 3
  startEnter _ := pure ()
  setLogLevel _ := pure ()
  checkNestedVirt := pure true
  setNestedVirt _ _ := pure ()
  setSmbiosOemStrings _ _ := pure ()

/-- A host where every directory is there already. -/
def openHost : Host Unit :=
  ⟨(), .lexical, fun _ => some .dir, fun _ => none⟩

private theorem permissive_run (c : EngineCall) (h : Host Unit) :
    ∃ r, permissive.run c h = .ok r h := by
  cases c <;> exact ⟨_, rfl⟩

private theorem permissive_runAll (cs : List EngineCall) (h : Host Unit) :
    runAll permissive cs h = .ok () h := by
  induction cs with
  | nil => rfl
  | cons c cs ih =>
    obtain ⟨r, hr⟩ := permissive_run c h
    rw [runAll_cons, EStateM.bind_ok hr, ih]

private theorem permissive_keepsDirs : KeepsDirs permissive := by
  intro c h
  obtain ⟨r, hr⟩ := permissive_run c h
  rw [hr]
  exact .refl h

private theorem openHost_createDirAll (p : PathBuf) :
    openHost.fs.createDirAll p = (.ok (), openHost.fs) := by
  have hall : ∀ (names : List Name) above,
      openHost.fs.createDirsFrom above names = (.ok (), openHost.fs) := by
    intro names
    induction names with
    | nil => exact fun _ => rfl
    | cons name rest ih => exact fun above => ih (above ++ [name])
  exact hall _ _

/-- On an engine that accepts every call, a launch takes its whole plan. -/
theorem permissive_launch_ok {b : VmBuilder (VmEngine Unit)} (hengine : b.engine = permissive)
    {vcpus : VcpuCount} {memory : MemoryMib} (hvcpus : b.vcpus = some vcpus)
    (hmemory : b.memory = some memory) (hdisks : b.disks ≠ []) (tempDir : PathBuf) :
    (b.launch ⟨tempDir, none⟩ (.new openHost)).state.trace =
      (LaunchStep.engine .createCtx :: launchPlan b ⟨tempDir, none⟩ vcpus memory ⟨0⟩).map
        (·, none) := by
  rw [VmBuilder.launch, VmBuilder.launchWithSpawner_of_some hvcpus hmemory hdisks]
  obtain ⟨t, ht, hstop⟩ := stopsAtFirst_afterCreateCtx b.engine
    (launchCtx_traced b ⟨tempDir, none⟩ tokioBridgeSpawner vcpus memory) (.new openHost)
  rw [← VmBuilder.launchValidated] at ht hstop
  have hplan : afterCreateCtx b.engine (World.new openHost).host
      (launchPlan b ⟨tempDir, none⟩ vcpus memory) =
      .engine .createCtx :: launchPlan b ⟨tempDir, none⟩ vcpus memory ⟨0⟩ := by
    rw [hengine]
    rfl
  cases hlaunch : b.launchValidated ⟨tempDir, none⟩ tokioBridgeSpawner vcpus memory
      (.new openHost) with
  | ok handle w' =>
    rw [hlaunch] at ht hstop
    rw [ht, StopsAtFirst.none_iff.mp hstop, hplan]
    rfl
  -- Neither a call nor the spawn of the thread can be what failed
  | error e w' =>
    have hmade : workdirMade b ⟨tempDir, none⟩ vcpus memory (World.new openHost).host =
        some (⟨0⟩, openHost) := by
      simp only [workdirMade, makeWorkdir, hengine, permissive_runAll]
      simp only [permissive, pure, EStateM.pure, World.new, openHost_createDirAll]
      rfl
    rcases launchValidated_error (hengine ▸ permissive_keepsDirs) hlaunch with
      ⟨hnone, -, -⟩ | ⟨ctx, host₀, host, -, -, hfails, -⟩
    · rw [hmade] at hnone
      cases hnone
    · cases hfails with
      | engine hcall hrest =>
        rw [hengine, permissive_runAll] at hcall
        cases hcall
      | spawn hcalls hspawn fd hopened hclosed hchannel hbridges => cases hspawn

/-! ## The settings whose launch shows no engine a zero -/

/-- No engine is shown a zero by a launch exactly when the settings that the builder passes on
    unchecked are not zero, if the builder is complete. -/
theorem engine_sees_no_zero_iff [Str.CaseContext] (origin : Origin)
    (calls : List BuilderCall) :
    EngineSeesNoZero origin calls ↔
      ∀ b : VmBuilder Unit, chain () origin calls = .ok b → b.validate = .ok () →
        NonzeroSettings b := by
  constructor
  · intro hsees b hb hvalid
    rw [chain_eq_build, build_eq_ok_iff] at hb
    obtain ⟨hacc, rfl⟩ := hb
    obtain ⟨vcpus, memory, hvcpus, hmemory, hdisks⟩ := VmBuilder.exists_of_validate_ok hvalid
    -- On an engine that accepts every call the whole plan is made, so its calls are seen
    have hsees' := hsees permissive _ ((chain_eq_build _ _ _).trans
      (build_eq_ok_iff.mpr ⟨hacc, rfl⟩)) ⟨⟨[]⟩, none⟩ tokioBridgeSpawner openHost
    have htrace := permissive_launch_ok (b := ofCalls permissive (origin.calls ++ calls)) rfl
      hvcpus hmemory hdisks ⟨[]⟩
    have hplanned : ∀ c ∈ configurePlan (ofCalls permissive (origin.calls ++ calls)) ⟨0⟩ vcpus
        memory, NoZero c := by
      intro c hc
      refine hsees' c none (htrace.symm ▸ ?_)
      refine List.mem_map_of_mem (List.mem_cons_of_mem _ ?_)
      exact List.mem_append_left _ (List.mem_map_of_mem hc)
    have hconfig := hplanned _ List.mem_cons_self
    refine ⟨?_, ?_, ?_⟩
    · intro v hv
      obtain rfl := Option.some.inj (hvcpus.symm.trans hv)
      exact uint8_one_le.mp hconfig.1
    · intro m hm
      obtain rfl := Option.some.inj (hmemory.symm.trans hm)
      exact uint32_one_le.mp hconfig.2
    · intro p hp
      refine uint32_one_le.mp (hplanned (.addVsockPort ⟨0⟩ p) ?_)
      refine List.mem_cons_of_mem _ (List.mem_append_right _ (List.mem_append_right _ ?_))
      exact List.mem_map_of_mem hp
  · intro hset σ E b hb env spawner host c o hc
    rw [chain_eq_build, build_eq_ok_iff] at hb
    obtain ⟨hacc, rfl⟩ := hb
    refine noZero_of_nonzeroSettings (fun hvalid => ?_) (bridges_ne_zero hacc) env spawner host hc
    have hset' := hset (ofCalls () (origin.calls ++ calls))
      ((chain_eq_build _ _ _).trans (build_eq_ok_iff.mpr ⟨hacc, rfl⟩)) hvalid
    exact ⟨hset'.vcpus, hset'.memory, hset'.vsockPorts⟩

/-- A deserialized vCPU count of zero gets to the engine. -/
theorem deserialized_zero_reaches_engine :
    letI : Str.CaseContext := ⟨fun _ _ => false⟩
    ¬ EngineSeesNoZero .new [.vcpus (VcpuCount.deserialize 0), .memoryMib ⟨1024⟩,
      .disk ⟨.ofString "/vm.qcow2", .qcow2, false⟩] := by
  intro hsees
  have hzero := hsees MockEngine.engine _ rfl ⟨.ofString "/tmp", none⟩ tokioBridgeSpawner
    ⟨{}, .ofDirs []⟩ (.setVmConfig ⟨0⟩ ⟨0⟩ ⟨1024⟩) none
  exact absurd (hzero (by decide +kernel)).1 (by decide)

end Tateru.Spec
