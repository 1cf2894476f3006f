import Tateru.ForStd.List
import Tateru.Native.Launch
import Tateru.Native.Mock

/-!
# A launch realises the builder chain

The settings that a chain of builder calls makes are read off the calls themselves, and with
them the list of steps that a launch has to take. A launch takes these steps in order and
stops at the first one that fails.

## Key results

- `build_eq_ok_iff`: when a chain succeeds, and what it leaves in the builder
- `launchCtx_traced`: the launch of a context follows the plan of its builder
- `launch_follows_plan`: a launch follows the plan of the builder's calls
-/

namespace Tateru.Spec

open EStateM (Traced)

/-! ## The settings of a chain of calls -/

/-- The last value of a setting. -/
def lastOf {α : Type} (setting : BuilderCall → Option α) (calls : List BuilderCall) :
    Option α :=
  (calls.filterMap setting).getLast?

private theorem lastOf_snoc {α : Type} (setting : BuilderCall → Option α)
    (calls : List BuilderCall) (c : BuilderCall) :
    lastOf setting (calls ++ [c]) = (setting c).or (lastOf setting calls) :=
  List.getLast?_filterMap_snoc setting calls c

section Settings

variable [Str.CaseContext]

/-- The vCPU count that a call sets. -/
def vcpus? : BuilderCall → Option VcpuCount
  | .cpus count => some ⟨count⟩
  | .vcpus vcpus => some vcpus
  | _ => none

/-- The memory size that a call sets. -/
def memory? : BuilderCall → Option MemoryMib
  | .memory spec => (MemoryMib.parse spec).toOption
  | .memoryMib mib => some mib
  | _ => none

def disk? : BuilderCall → Option DiskConfig
  | .disk disk => some disk
  | _ => none

def virtiofs? : BuilderCall → Option VirtioFsMount
  | .virtiofs mount => some mount
  | _ => none

def vsock? : BuilderCall → Option VsockPort
  | .vsock port => some port
  | _ => none

def bridge? : BuilderCall → Option BridgeRequest
  | .vsockBridge hostPort guestPort => some ⟨hostPort, ⟨guestPort⟩⟩
  | _ => none

def console? : BuilderCall → Option ConsoleConfig
  | .console config => some config
  | _ => none

def oemString? : BuilderCall → Option String
  | .oemString s => some s
  | _ => none

def nestedVirt? : BuilderCall → Option Bool
  | .nestedVirt enabled => some enabled
  | _ => none

/-- The builder with the settings of a chain of calls. -/
def ofCalls {E : Type} (engine : E) (calls : List BuilderCall) : VmBuilder E where
  engine := engine
  vcpus := lastOf vcpus? calls
  memory := lastOf memory? calls
  disks := calls.filterMap disk?
  virtiofsMounts := calls.filterMap virtiofs?
  vsockPorts := calls.filterMap vsock?
  bridges := calls.filterMap bridge?
  console := lastOf console? calls
  oemStrings := calls.filterMap oemString?
  nestedVirt := lastOf nestedVirt? calls

/-- The builder takes the call. -/
def Accepted : BuilderCall → Prop
  | .cpus count => count ≠ 0
  | .memory spec => ∃ m, MemoryMib.parse spec = .ok m
  | .vsockBridge _ guestPort => guestPort ≠ 0
  | _ => True

/-- A further call adds its settings. -/
private theorem ofCalls_snoc {E : Type} (engine : E) (calls : List BuilderCall)
    (c : BuilderCall) :
    ofCalls engine (calls ++ [c]) =
      let b := ofCalls engine calls
      { engine := engine
        vcpus := (vcpus? c).or b.vcpus
        memory := (memory? c).or b.memory
        disks := b.disks ++ (disk? c).toList
        virtiofsMounts := b.virtiofsMounts ++ (virtiofs? c).toList
        vsockPorts := b.vsockPorts ++ (vsock? c).toList
        bridges := b.bridges ++ (bridge? c).toList
        console := (console? c).or b.console
        oemStrings := b.oemStrings ++ (oemString? c).toList
        nestedVirt := (nestedVirt? c).or b.nestedVirt } := by
  simp only [ofCalls, lastOf_snoc, List.filterMap_snoc]

private theorem apply_ofCalls {E : Type} {engine : E} {calls : List BuilderCall}
    {c : BuilderCall} {b : VmBuilder E} :
    (ofCalls engine calls).apply c = .ok b ↔
      Accepted c ∧ b = ofCalls engine (calls ++ [c]) := by
  rw [ofCalls_snoc]
  -- A call sets one field, and adds nothing to the others
  cases c with
  | memory spec =>
    cases hm : MemoryMib.parse spec <;>
    simp [VmBuilder.apply, VmBuilder.setMemory_eq_ok_iff, hm, Except.toOption, vcpus?, memory?,
      disk?, virtiofs?, vsock?, bridge?, console?, oemString?, nestedVirt?, Accepted, ofCalls,
      @eq_comm _ b]
  | _ =>
    simp [VmBuilder.apply, VmBuilder.cpus_eq_ok_iff, VmBuilder.vsockBridge_eq_ok_iff,
      VmBuilder.setVcpus, VmBuilder.memoryMib, VmBuilder.disk, VmBuilder.virtiofs,
      VmBuilder.vsock, VmBuilder.setConsole, VmBuilder.oemString, VmBuilder.setNestedVirt, vcpus?,
      memory?, disk?, virtiofs?, vsock?, bridge?, console?, oemString?, nestedVirt?, Accepted,
      ofCalls, @eq_comm _ b]

/-- A chain of calls succeeds when the builder takes each of them, and leaves their settings
    in the builder. -/
theorem build_eq_ok_iff {E : Type} {engine : E} {calls : List BuilderCall} {b : VmBuilder E} :
    (VmBuilder.new engine).build calls = .ok b ↔
      (∀ c ∈ calls, Accepted c) ∧ b = ofCalls engine calls := by
  -- The builder is filled by one call after the other, so the last call is taken off
  induction calls using List.reverseRecOn generalizing b with
  | nil =>
    constructor
    · intro h
      exact ⟨(fun c hc => nomatch hc), (Except.ok.inj h).symm⟩
    · rintro ⟨-, rfl⟩
      rfl
  | append_singleton calls c ih =>
    simp only [VmBuilder.build, List.foldlM_append, List.foldlM_cons, List.foldlM_nil,
      bind_pure, Except.bind_eq_ok_iff]
    constructor
    · rintro ⟨b', hb', hc⟩
      obtain ⟨hcalls, rfl⟩ := ih.mp hb'
      obtain ⟨hacc, rfl⟩ := apply_ofCalls.mp hc
      refine ⟨fun c' hc' => ?_, rfl⟩
      rcases List.mem_append.mp hc' with hc' | hc'
      · exact hcalls c' hc'
      · exact List.mem_singleton.mp hc' ▸ hacc
    · rintro ⟨hcalls, rfl⟩
      refine ⟨ofCalls engine calls, ih.mpr ⟨fun c' hc' => ?_, rfl⟩, apply_ofCalls.mpr ⟨?_, rfl⟩⟩
      · exact hcalls c' (List.mem_append_left _ hc')
      · exact hcalls c (List.mem_append_right _ List.mem_cons_self)

end Settings

/-! ## The plan of a builder -/

section Plan

variable {E σ : Type}

/-- The calls that configure the VM and apply its devices. -/
def configurePlan (b : VmBuilder E) (ctx : CtxId) (vcpus : VcpuCount) (memory : MemoryMib) :
    List EngineCall :=
  .setVmConfig ctx vcpus memory ::
    (b.disks.zipIdx.map (fun (disk, i) => .addDisk ctx disk i) ++
      (b.virtiofsMounts.map (.addVirtiofs ctx) ++ b.vsockPorts.map (.addVsockPort ctx)))

/-- The vsock port of a bridge. -/
def bridgePort (env : Env) (ctx : CtxId) (br : BridgeRequest) : VsockPort :=
  ⟨br.guestPort, (env.workdir ctx).bridgeSocket br.guestPort⟩

/-- What the bridge task of a request is configured with. -/
def bridgeConfig (env : Env) (ctx : CtxId) (br : BridgeRequest) : BridgeConfig :=
  ⟨br.hostPort, (env.workdir ctx).bridgeSocket br.guestPort⟩

/-- The calls that register the vsock ports of the bridges. -/
def bridgesPlan (b : VmBuilder E) (env : Env) (ctx : CtxId) : List EngineCall :=
  b.bridges.map fun br => .addVsockPort ctx (bridgePort env ctx br)

/-- The calls for the console, the OEM strings and nested virtualization. -/
def optionsPlan (b : VmBuilder E) (ctx : CtxId) : List EngineCall :=
  b.console.toList.map (.setConsoleOutput ctx) ++
    ((if b.oemStrings.isEmpty then [] else [b.oemStrings]).map (.setSmbiosOemStrings ctx) ++
      b.nestedVirt.toList.map (.setNestedVirt ctx))

/-- The engine calls of a launch after its working directory is made. -/
def laterPlan (b : VmBuilder E) (env : Env) (ctx : CtxId) : List EngineCall :=
  bridgesPlan b env ctx ++ (optionsPlan b ctx ++ [.getShutdownEventfd ctx])

/-- The steps from the shutdown eventfd to the VM thread. -/
def startPlan (b : VmBuilder E) (env : Env) (ctx : CtxId) : List LaunchStep :=
  .engine (.getShutdownEventfd ctx) ::
    (b.bridges.map (fun br => .spawnBridge (bridgeConfig env ctx br)) ++ [.spawnThread])

/-- The steps of a launch of the context `ctx`. -/
def launchPlan (b : VmBuilder E) (env : Env) (vcpus : VcpuCount) (memory : MemoryMib)
    (ctx : CtxId) : List LaunchStep :=
  (configurePlan b ctx vcpus memory).map .engine ++
    (.createDirAll (env.workdir ctx) ::
      ((bridgesPlan b env ctx).map .engine ++
        ((optionsPlan b ctx).map .engine ++ startPlan b env ctx)))

/-- Continue with the context that `create_ctx` returns, if it does. -/
def afterCreateCtx (E : VmEngine σ) (host : Host σ) (plan : CtxId → List LaunchStep) :
    List LaunchStep :=
  .engine .createCtx ::
    match E.createCtx host with
    | .ok ctx _ => plan ctx
    | .error _ _ => []

end Plan

/-! ## A launch makes the planned calls -/

section Calls

variable {σ : Type}

/-- Make the calls `cs` in order, up to the first one that fails. -/
def runAll (E : VmEngine σ) (cs : List EngineCall) : EngineM σ Unit :=
  cs.forM fun c => E.run c >>= fun _ => pure ()

/-- The same as part of a launch. -/
def callAll (E : VmEngine σ) (cs : List EngineCall) : LaunchM σ Unit :=
  cs.forM fun c => LaunchM.call E c >>= fun _ => pure ()

theorem runAll_cons (E : VmEngine σ) (c : EngineCall) (cs : List EngineCall) :
    runAll E (c :: cs) = E.run c >>= fun _ => runAll E cs := by
  simp [runAll]

private theorem callAll_cons (E : VmEngine σ) (c : EngineCall) (cs : List EngineCall) :
    callAll E (c :: cs) = LaunchM.call E c >>= fun _ => callAll E cs := by
  simp [callAll]

private theorem callAll_append (E : VmEngine σ) (cs cs' : List EngineCall) :
    callAll E (cs ++ cs') = callAll E cs >>= fun _ => callAll E cs' :=
  List.forM_append

/-- A loop over a list makes a call for each element. -/
private theorem callAll_map {γ : Type} (E : VmEngine σ) (f : γ → EngineCall) (l : List γ) :
    callAll E (l.map f) = l.forM fun x => LaunchM.call E (f x) >>= fun _ => pure () :=
  List.forM_map

/-- The calls of a launch change the host and the trace, and nothing else. -/
theorem callAll_run (E : VmEngine σ) (cs : List EngineCall) (w : World σ) :
    ∃ t, callAll E cs w =
      match runAll E cs w.host with
      | .ok _ host => .ok () { w with host, trace := w.trace ++ t }
      | .error e host => .error e { w with host, trace := w.trace ++ t } := by
  induction cs generalizing w with
  | nil => exact ⟨[], by rw [List.append_nil]; rfl⟩
  | cons c cs ih =>
    rw [callAll_cons, runAll_cons]
    -- The first call decides whether the others are made
    cases hr : E.run c w.host with
    | error e host =>
      rw [EStateM.bind_error (LaunchM.call_error hr), EStateM.bind_error hr]
      exact ⟨_, rfl⟩
    | ok r host =>
      rw [EStateM.bind_ok (LaunchM.call_ok hr), EStateM.bind_ok hr]
      obtain ⟨t, ht⟩ := ih (LaunchM.record { w with host } (.engine c) none)
      refine ⟨(.engine c, none) :: t, ?_⟩
      rw [ht]
      simp only [LaunchM.record, List.append_assoc, List.singleton_append]

theorem configure_eq_callAll (b : VmBuilder (VmEngine σ)) (ctx : CtxId) (vcpus : VcpuCount)
    (memory : MemoryMib) :
    b.configure ctx vcpus memory = callAll b.engine (configurePlan b ctx vcpus memory) := by
  rw [configurePlan, ← List.singleton_append, callAll_append, callAll_append, callAll_append,
    callAll_map, callAll_map, callAll_map]
  simp only [VmBuilder.configure, callAll, List.forM_eq_forM, List.forM_cons, List.forM_nil,
    bind_pure_unit]

theorem configureOptions_eq_callAll (b : VmBuilder (VmEngine σ)) (ctx : CtxId) :
    b.configureOptions ctx = callAll b.engine (optionsPlan b ctx) := by
  rw [optionsPlan, callAll_append, callAll_append, callAll_map, callAll_map, callAll_map]
  simp only [VmBuilder.configureOptions, bind_pure_unit]

theorem registerBridges_eq_callAll (b : VmBuilder (VmEngine σ)) (env : Env) (ctx : CtxId) :
    b.registerBridges ctx (env.workdir ctx) =
      callAll b.engine (bridgesPlan b env ctx) >>= fun _ =>
        pure (b.bridges.map (bridgeConfig env ctx)) := by
  rw [bridgesPlan, callAll_map]
  simp only [VmBuilder.registerBridges]
  -- The loop registers and collects; the list it collects does not depend on the calls
  induction b.bridges with
  | nil => rfl
  | cons br rest ih =>
    rw [List.mapM_cons, ih]
    simp [bridgeConfig, bridgePort]

/-- The launch of a context, in its parts. -/
theorem launchCtx_eq_callAll (b : VmBuilder (VmEngine σ)) (env : Env) (spawner : BridgeSpawner)
    (vcpus : VcpuCount) (memory : MemoryMib) (ctx : CtxId) :
    b.launchCtx env spawner vcpus memory ctx = (do
      callAll b.engine (configurePlan b ctx vcpus memory)
      LaunchM.createDirAll (env.workdir ctx)
      callAll b.engine (bridgesPlan b env ctx)
      callAll b.engine (optionsPlan b ctx)
      b.start env spawner ctx (b.bridges.map (bridgeConfig env ctx))) := by
  rw [VmBuilder.launchCtx, configure_eq_callAll, registerBridges_eq_callAll,
    configureOptions_eq_callAll, bind_assoc]
  simp only [pure_bind]

/-- Take one step of a launch, and say whether it succeeded. -/
def perform (E : VmEngine σ) (h : Host σ) : LaunchStep → Bool × Host σ
  | .engine c => (((E.run c h).error?).isNone, (E.run c h).state)
  | .createDirAll path =>
    match h.fs.createDirAll path with
    | (.ok (), fs) => (true, { h with fs })
    | (.error _, fs) => (false, { h with fs })
  | .spawnBridge _ | .spawnThread => (true, h)

@[simp] theorem perform_createDirAll_fs (E : VmEngine σ) (h : Host σ) (path : PathBuf) :
    (perform E h (.createDirAll path)).2.fs = (h.fs.createDirAll path).2 := by
  simp only [perform]
  rcases h.fs.createDirAll path with ⟨_ | _, fs⟩ <;> rfl

/-- No step but a call changes the engine. -/
theorem perform_engine (E : VmEngine σ) (h : Host σ) {s : LaunchStep}
    (hs : ∀ c, s ≠ .engine c) : (perform E h s).2.engine = h.engine := by
  cases s with
  | engine c => exact absurd rfl (hs c)
  | createDirAll path =>
    simp only [perform]
    rcases h.fs.createDirAll path with ⟨_ | _, fs⟩ <;> rfl
  | spawnBridge | spawnThread => rfl

end Calls

/-! ## A launch follows its plan -/

section Traced

variable {σ : Type}

private theorem call_traced (E : VmEngine σ) (c : EngineCall) :
    Traced World.trace (LaunchM.call E c) [.engine c] fun _ => True := by
  intro w
  simp only [LaunchM.call]
  cases E.run c w.host with
  | ok r host => exact ⟨trivial, rfl⟩
  | error e host => exact ⟨_, rfl, .fail _ _ _⟩

private theorem callAll_traced (E : VmEngine σ) (cs : List EngineCall) :
    Traced World.trace (callAll E cs) (cs.map .engine) fun _ => True :=
  Traced.forM cs fun c => (call_traced E c).bind (q := []) fun _ _ => Traced.pure trivial

private theorem createDirAll_traced (path : PathBuf) :
    Traced World.trace (LaunchM.createDirAll (σ := σ) path) [.createDirAll path]
      fun _ => True := by
  intro w
  simp only [LaunchM.createDirAll]
  rcases w.host.fs.createDirAll path with ⟨_ | _, fs⟩
  · exact ⟨_, rfl, .fail _ _ _⟩
  · exact ⟨trivial, rfl⟩

private theorem spawnThread_traced (env : Env) (shutdown : EventfdShutdown) (ctx : CtxId) :
    Traced World.trace (LaunchM.spawnThread (σ := σ) env shutdown ctx) [.spawnThread]
      (· = ⟨ctx⟩) := by
  intro w
  unfold LaunchM.spawnThread
  cases env.spawnError with
  | none => exact ⟨rfl, rfl⟩
  | some e => exact ⟨_, rfl, .fail _ _ _⟩

private theorem start_traced (b : VmBuilder (VmEngine σ)) (env : Env)
    (spawner : BridgeSpawner) (ctx : CtxId) :
    Traced World.trace (b.start env spawner ctx (b.bridges.map (bridgeConfig env ctx)))
      (startPlan b env ctx) (·.vmThread = some ⟨ctx⟩) := by
  apply (call_traced b.engine _).bind (p := [_])
  intro fd _
  have hfd : Traced World.trace (LaunchM.fromRawFd (σ := σ) fd) [] fun _ => True :=
    fun w => ⟨trivial, (List.append_nil _).symm⟩
  have hchan : Traced World.trace (LaunchM.watchChannel (σ := σ)) [] fun _ => True :=
    fun w => ⟨trivial, (List.append_nil _).symm⟩
  apply hfd.bind (p := [])
  intro shutdown _
  apply hchan.bind (p := [])
  intro rx _
  -- One step for each bridge, and then the VM thread
  rw [← Function.comp_def LaunchStep.spawnBridge, ← List.map_map]
  refine (Traced.forM _ fun config => ?_).bind fun _ _ => ?_
  · exact fun w => ⟨trivial, rfl⟩
  · apply (spawnThread_traced env shutdown ctx).bind (q := [])
    intro t ht
    exact Traced.pure (congrArg some ht)

/-- The launch of a context follows its plan. -/
theorem launchCtx_traced (b : VmBuilder (VmEngine σ)) (env : Env) (spawner : BridgeSpawner)
    (vcpus : VcpuCount) (memory : MemoryMib) (ctx : CtxId) :
    Traced World.trace (b.launchCtx env spawner vcpus memory ctx)
      (launchPlan b env vcpus memory ctx) (·.vmThread = some ⟨ctx⟩) := by
  rw [launchCtx_eq_callAll]
  apply (callAll_traced b.engine _).bind
  intro _ _
  apply (createDirAll_traced _).bind (p := [_])
  intro _ _
  apply (callAll_traced b.engine _).bind
  intro _ _
  apply (callAll_traced b.engine _).bind
  intro _ _
  exact start_traced b env spawner ctx

/-- What goes on with the context that `create_ctx` returns is recorded after the call. -/
theorem stopsAtFirst_afterCreateCtx {α : Type} (E : VmEngine σ) {f : CtxId → LaunchM σ α}
    {plan : CtxId → List LaunchStep} {post : CtxId → α → Prop}
    (hf : ∀ ctx, Traced World.trace (f ctx) (plan ctx) (post ctx)) (w : World σ) :
    ∃ t, ((LaunchM.call E .createCtx >>= f) w).state.trace = w.trace ++ t ∧
      StopsAtFirst (afterCreateCtx E w.host plan) t
        ((LaunchM.call E .createCtx >>= f) w).error? := by
  unfold afterCreateCtx
  cases hctx : E.createCtx w.host with
  | error e host =>
    rw [EStateM.bind_error (LaunchM.call_error (c := .createCtx) hctx)]
    exact ⟨_, rfl, .fail _ _ _⟩
  | ok ctx host =>
    rw [EStateM.bind_ok (LaunchM.call_ok (c := .createCtx) hctx)]
    obtain ⟨t, ht, hstop⟩ := (hf ctx).stopsAtFirst
      (LaunchM.record { w with host } (.engine .createCtx) none)
    exact ⟨_ :: t, by rw [ht, LaunchM.record, List.append_assoc]; rfl, hstop.step _⟩

/-- A launched VM enters the context that was created for it. -/
theorem enter_traced (b : VmBuilder (VmEngine σ)) (env : Env) (spawner : BridgeSpawner)
    (vcpus : VcpuCount) (memory : MemoryMib) (ctx : CtxId) :
    Traced World.trace
      (b.launchCtx env spawner vcpus memory ctx >>= fun handle =>
        handle.vmThread.toList.forM fun t => t.run b.engine)
      (launchPlan b env vcpus memory ctx ++ [.engine (.startEnter ctx)]) fun _ => True := by
  apply (launchCtx_traced b env spawner vcpus memory ctx).bind
  intro handle hthread
  -- The handle holds the thread of this context
  rw [hthread]
  exact Traced.forM (g := fun t : VmThread => LaunchStep.engine (.startEnter t.ctx)) [⟨ctx⟩]
    fun t => call_traced b.engine (.startEnter t.ctx)

end Traced

/-- A launch realises the chain of builder calls: it reports what is missing without doing
    anything, or else it takes the planned steps in order, on the context that `create_ctx`
    returns, up to the first one that fails, whose error it returns; and when none fails the
    VM thread enters that context. -/
theorem launch_follows_plan [Str.CaseContext] {σ : Type} (E : VmEngine σ)
    {calls : List BuilderCall} {b : VmBuilder (VmEngine σ)}
    (hb : (VmBuilder.new E).build calls = .ok b) (env : Env) (spawner : BridgeSpawner)
    (w : World σ) :
    match lastOf vcpus? calls, lastOf memory? calls, calls.filterMap disk? with
    | none, _, _ =>
      b.launchWithSpawner env spawner w = .error (.invalidConfig "vCPU count not set") w
    | some _, none, _ =>
      b.launchWithSpawner env spawner w = .error (.invalidConfig "memory not set") w
    | some _, some _, [] =>
      b.launchWithSpawner env spawner w =
        .error (.invalidConfig "at least one disk is required") w
    | some vcpus, some memory, _ :: _ =>
      let plan := launchPlan (ofCalls E calls) env vcpus memory
      (∃ t, (b.launchWithSpawner env spawner w).state.trace = w.trace ++ t ∧
        StopsAtFirst (afterCreateCtx E w.host plan) t
          (b.launchWithSpawner env spawner w).error?) ∧
      (∃ t, (b.launchAndEnter env spawner w).state.trace = w.trace ++ t ∧
        StopsAtFirst (afterCreateCtx E w.host fun ctx =>
            plan ctx ++ [.engine (.startEnter ctx)]) t
          (b.launchAndEnter env spawner w).error?) := by
  obtain ⟨-, rfl⟩ := build_eq_ok_iff.mp hb
  -- The three checks of `validate`, in its order, and then the launch
  split
  · rename_i hvcpus
    rw [VmBuilder.launchWithSpawner_of_error (e := .invalidConfig "vCPU count not set")]
    · rfl
    · simp [VmBuilder.validate, ofCalls, hvcpus]
  · rename_i hvcpus hmemory
    rw [VmBuilder.launchWithSpawner_of_error (e := .invalidConfig "memory not set")]
    · rfl
    · simp [VmBuilder.validate, ofCalls, hvcpus, hmemory]
  · rename_i hvcpus hmemory hdisks
    rw [VmBuilder.launchWithSpawner_of_error
      (e := .invalidConfig "at least one disk is required")]
    · rfl
    · simp [VmBuilder.validate, ofCalls, hvcpus, hmemory, hdisks]
  · rename_i vcpus memory disk disks hvcpus hmemory hdisks
    have hlaunch := VmBuilder.launchWithSpawner_of_some (b := ofCalls E calls) hvcpus hmemory
      (by rw [ofCalls, hdisks]; exact List.cons_ne_nil _ _) env spawner
    constructor
    · rw [hlaunch]
      exact stopsAtFirst_afterCreateCtx E
        (launchCtx_traced (ofCalls E calls) env spawner vcpus memory) w
    · rw [VmBuilder.launchAndEnter, hlaunch, VmBuilder.launchValidated, bind_assoc]
      exact stopsAtFirst_afterCreateCtx E
        (enter_traced (ofCalls E calls) env spawner vcpus memory) w

/-- A launch on the mock in which nothing fails: a disk and a bridge to the guest port 22. -/
theorem launch_follows_plan_mock :
    letI : Str.CaseContext := ⟨fun _ _ => false⟩
    let disk : DiskConfig := ⟨.ofString "/vm.qcow2", .qcow2, false⟩
    let socket := PathBuf.ofString "/tmp/tateru-0/vsock-22.sock"
    let calls : List BuilderCall :=
      [.cpus 2, .disk disk, .vsockBridge 31122 22, .memoryMib ⟨1024⟩]
    let env : Env := ⟨.ofString "/tmp", none⟩
    let world := World.new ⟨({} : MockEngine), .ofDirs [[], [(PathBuf.ofString "tmp").bytes]]⟩
    let plan : List LaunchStep :=
      [.engine .createCtx, .engine (.setVmConfig ⟨0⟩ ⟨2⟩ ⟨1024⟩), .engine (.addDisk ⟨0⟩ disk 0),
        .createDirAll (.ofString "/tmp/tateru-0"),
        .engine (.addVsockPort ⟨0⟩ ⟨⟨22⟩, socket⟩), .engine (.getShutdownEventfd ⟨0⟩),
        .spawnBridge ⟨31122, socket⟩, .spawnThread, .engine (.startEnter ⟨0⟩)]
    ∃ b : VmBuilder (VmEngine MockEngine),
      (VmBuilder.new MockEngine.engine).build calls = .ok b ∧
      StopsAtFirst plan (b.launchAndEnter env tokioBridgeSpawner world).state.trace
        (b.launchAndEnter env tokioBridgeSpawner world).error? := by
  intro disk socket calls env world plan
  let context : Str.CaseContext := ⟨fun _ _ => false⟩
  have hplan : plan = afterCreateCtx MockEngine.engine world.host fun ctx =>
      launchPlan (ofCalls MockEngine.engine calls) env ⟨2⟩ ⟨1024⟩ ctx ++
        [.engine (.startEnter ctx)] := by
    decide +kernel
  have hbuild : (VmBuilder.new MockEngine.engine).build calls =
      .ok (ofCalls MockEngine.engine calls) := rfl
  obtain ⟨t, ht, hstop⟩ :=
    (launch_follows_plan MockEngine.engine hbuild env tokioBridgeSpawner world).2
  refine ⟨_, hbuild, ?_⟩
  rw [ht, hplan]
  exact hstop

end Tateru.Spec
