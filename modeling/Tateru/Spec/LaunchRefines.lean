import Tateru.Spec.Fleet
import Tateru.Spec.LaunchCleanup

/-!
# From the launch of the code to a running VM

A launch is modelled twice: as the program that drives an engine, and as the first steps of a
VM in a fleet. The two agree: left alone, the steps of the fleet do to the host what the
program does, and the VM starts with the channel, the bridge tasks and the handle that the
program has made.

## Key results

- `launch_alone`: the steps of a launch in a fleet come to what `launchCtx` does to its host
- `start_refines`: what `start` returns is where the first steps of a VM lead
- `launch_ok`: a launch that returns a handle has spawned a task for every bridge that is asked for
-/

namespace Tateru.Spec

/-! ## The host -/

section Fleets

variable {ε : Type} [DecidableEq ε] {σ : ε → Type} (E : ∀ e, VmEngine (σ e)) (env : Env)

/-- Left alone, a launch takes all its steps, up to the first one that fails. -/
theorem prepare_run {s : Fleet σ} {i : Nat} {b : VmBuilder ε} {ctx : CtxId}
    {todo : List LaunchStep} (hvm : s.vms[i]? = some ⟨b, .preparing ctx todo⟩) :
    ∃ n s', Run (Fleet.step E env) s (List.replicate n (.prepare i)) s' ∧
      s'.host b.engine = (performAll (E b.engine) (s.host b.engine) todo).2 ∧
      s'.vms[i]? = some ⟨b, if (performAll (E b.engine) (s.host b.engine) todo).1 then
        .preparing ctx [] else .failed⟩ := by
  induction todo generalizing s with
  | nil => exact ⟨0, s, Run.nil_iff.mpr rfl, rfl, hvm⟩
  | cons step todo ih =>
    have hlt := (List.getElem?_eq_some_iff.mp hvm).1
    have hhost : ∀ h vm phase, (s.advance b.engine h i vm phase).host b.engine = h := by
      intro h vm phase
      simp [Fleet.host, Fleet.advance]
    rcases hperform : perform (E b.engine) (s.host b.engine) step with ⟨ok, h⟩
    have hstep : Fleet.step E env s (.prepare i) = some (s.advance b.engine h i
        ⟨b, .preparing ctx (step :: todo)⟩ (if ok then .preparing ctx todo else .failed)) := by
      cases ok <;> simp [Fleet.step, hvm, hperform]
    -- A step that fails ends the launch; otherwise the rest goes on from its host
    rw [performAll_cons, hperform]
    cases ok with
    | true =>
      obtain ⟨n, s', hrun, hs'⟩ := ih (s := s.advance b.engine h i
        ⟨b, .preparing ctx (step :: todo)⟩ (.preparing ctx todo)) (List.getElem?_set_self hlt)
      rw [hhost] at hs'
      exact ⟨n + 1, s', Run.cons_iff.mpr ⟨_, hstep, hrun⟩, hs'⟩
    | false =>
      exact ⟨1, _, Run.cons_iff.mpr ⟨_, hstep, Run.nil_iff.mpr rfl⟩, hhost _ _ _,
        List.getElem?_set_self hlt⟩

/-- Left alone, a launch whose context is created does to its engine and to the file system
    what `launchCtx` does. -/
theorem launch_alone {s : Fleet σ} {i : Nat} {b : VmBuilder ε} {vcpus : VcpuCount}
    {memory : MemoryMib} {ctx : CtxId} {h : Host (σ b.engine)}
    (hvm : s.vms[i]? = some ⟨b, .creating vcpus memory⟩)
    (hcreate : (E b.engine).createCtx (s.host b.engine) = .ok ctx h) (spawner : BridgeSpawner)
    {w : World (σ b.engine)} (hw : w.host = h) :
    ∃ n s', Run (Fleet.step E env) s (List.replicate n (.prepare i)) s' ∧
      s'.host b.engine = (VmBuilder.launchCtx { b with engine := E b.engine } env spawner vcpus
        memory ctx w).state.host := by
  have hlt := (List.getElem?_eq_some_iff.mp hvm).1
  have hstep : Fleet.step E env s (.prepare i) = some (s.advance b.engine h i
      ⟨b, .creating vcpus memory⟩ (.preparing ctx (preparePlan b env vcpus memory ctx))) := by
    simp [Fleet.step, hvm, hcreate]
  obtain ⟨n, s', hrun, hs', -⟩ := prepare_run E env
    (s := s.advance b.engine h i ⟨b, .creating vcpus memory⟩
      (.preparing ctx (preparePlan b env vcpus memory ctx))) (List.getElem?_set_self hlt)
  refine ⟨n + 1, s', Run.cons_iff.mpr ⟨_, hstep, hrun⟩, hs'.trans ?_⟩
  have hhost : (s.advance b.engine h i ⟨b, .creating vcpus memory⟩
      (.preparing ctx (preparePlan b env vcpus memory ctx))).host b.engine = w.host := by
    simp [Fleet.host, Fleet.advance, hw]
  -- Both have done the same steps, from the same host
  rw [prepare_eq_launchCtx, hhost]
  rfl

end Fleets

/-! ## The handle -/

section Start

variable {σ : Type}

/-- Spawning the bridges of a launch one after the other. -/
theorem spawnBridges_steps (s : VmSystem) (configs : List BridgeConfig)
    (howner : s.owner = .launching configs) :
    Run VmSystem.step s (List.replicate configs.length .spawnBridge)
      { s with
        owner := .launching []
        bridges := s.bridges ++ configs.map (BridgeTask.spawn · (Watch.channel false).2) } := by
  induction configs generalizing s with
  | nil =>
    rw [← howner, List.map_nil, List.append_nil]
    exact Run.nil_iff.mpr rfl
  | cons config configs ih =>
    refine Run.cons_iff.mpr ⟨{ s with
      owner := .launching configs
      bridges := s.bridges ++ [BridgeTask.spawn config (Watch.channel false).2] },
      by simp only [VmSystem.step, howner], ?_⟩
    have hrest := ih { s with
      owner := .launching configs
      bridges := s.bridges ++ [BridgeTask.spawn config (Watch.channel false).2] } rfl
    rwa [List.append_assoc] at hrest

/-- When the shutdown eventfd is there, `start` ends where the first steps of a VM lead: with the
    same channel, the same bridge tasks, and a handle exactly if it is launched. -/
theorem start_refines {b : VmBuilder (VmEngine σ)} {ctx : CtxId} {w : World σ} {fd : Int32}
    {host : Host σ} (hfd : b.engine.getShutdownEventfd ctx w.host = .ok fd host) (env : Env)
    (configs : List BridgeConfig) :
    ∃ s, Run VmSystem.step (.launch configs)
        (List.replicate configs.length .spawnBridge ++ [.spawnThread env.spawnError.isNone]) s ∧
      (b.start env tokioBridgeSpawner ctx configs w).state.channel = some s.chan ∧
      (b.start env tokioBridgeSpawner ctx configs w).state.bridges = w.bridges ++ s.bridges ∧
      match b.start env tokioBridgeSpawner ctx configs w with
      | .ok handle _ => s.owner = .idle ∧ handle.running = s.running ∧
          handle.vmThread.isSome = s.hasThread
      | .error _ _ => s.owner = .failed := by
  have hspawn := spawnBridges_steps (.launch configs) configs rfl
  obtain ⟨t, ht⟩ := start_run hfd env tokioBridgeSpawner configs
  have htasks : configs.filterMap (tokioBridgeSpawner · (Watch.channel false).2) =
      configs.map (BridgeTask.spawn · (Watch.channel false).2) :=
    List.filterMap_eq_map ▸ rfl
  rw [ht, htasks]
  cases henv : env.spawnError with
  | none => exact ⟨_, Run.snoc_iff.mpr ⟨_, hspawn, rfl⟩, rfl, rfl, rfl, rfl, rfl⟩
  | some e => exact ⟨_, Run.snoc_iff.mpr ⟨_, hspawn, rfl⟩, rfl, rfl, rfl⟩

private theorem callAll_ok {E : VmEngine σ} {cs : List EngineCall} {w w' : World σ} {u : Unit}
    (h : callAll E cs w = .ok u w') : Untouched w w' := by
  obtain ⟨t, ht⟩ := callAll_run E cs w
  rw [ht] at h
  cases hrun : runAll E cs w.host with
  | ok u' host =>
    rw [hrun] at h
    obtain ⟨-, rfl⟩ := EStateM.Result.ok.inj h
    exact ⟨rfl, rfl, rfl, rfl⟩
  | error e host =>
    rw [hrun] at h
    cases h

private theorem createDirAll_ok {path : PathBuf} {w w' : World σ} {u : Unit}
    (h : LaunchM.createDirAll path w = .ok u w') : Untouched w w' := by
  unfold LaunchM.createDirAll at h
  split at h
  · obtain ⟨-, rfl⟩ := EStateM.Result.ok.inj h
    exact .record _ _ _ _
  · cases h

private theorem call_ok_inv {E : VmEngine σ} {c : EngineCall} {w w' : World σ} {r : c.Ret}
    (h : LaunchM.call E c w = .ok r w') :
    ∃ host, E.run c w.host = .ok r host ∧ Untouched w w' := by
  cases hrun : E.run c w.host with
  | ok r' host =>
    rw [LaunchM.call_ok hrun] at h
    obtain ⟨rfl, rfl⟩ := EStateM.Result.ok.inj h
    exact ⟨host, rfl, .record _ _ _ _⟩
  | error e host =>
    rw [LaunchM.call_error hrun] at h
    cases h

private theorem start_ok {b : VmBuilder (VmEngine σ)} {env : Env} {spawner : BridgeSpawner}
    {ctx : CtxId} {configs : List BridgeConfig} {w w' : World σ} {handle : VmHandle}
    (h : b.start env spawner ctx configs w = .ok handle w') :
    handle.workdir = env.workdir ctx ∧ handle.running = true ∧
      w'.channel = some (Watch.channel false).1 ∧
      w'.bridges = w.bridges ++ configs.filterMap (spawner · (Watch.channel false).2) := by
  cases hget : b.engine.getShutdownEventfd ctx w.host with
  | error e host =>
    rw [VmBuilder.start, EStateM.bind_error
      (LaunchM.call_error (c := .getShutdownEventfd ctx) hget)] at h
    cases h
  | ok fd host =>
    obtain ⟨t, ht⟩ := start_run hget env spawner configs
    rw [ht] at h
    cases hspawn : env.spawnError with
    | none =>
      simp only [hspawn] at h
      obtain ⟨rfl, rfl⟩ := EStateM.Result.ok.inj h
      exact ⟨rfl, rfl, rfl, rfl⟩
    | some e =>
      simp only [hspawn] at h
      cases h

/-- A launch that returns a handle has spawned a task for every bridge that is asked for, and has
    registered its socket for the guest port. -/
theorem launch_ok {b : VmBuilder (VmEngine σ)} {env : Env} {w w' : World σ} {handle : VmHandle}
    (h : b.launch env w = .ok handle w') :
    ∃ ctx host, b.engine.createCtx w.host = .ok ctx host ∧ handle.workdir = env.workdir ctx ∧
      handle.running = true ∧ w'.channel = some (Watch.channel false).1 ∧
      w'.bridges = w.bridges ++ (b.bridges.map (bridgeConfig env ctx)).map
        (BridgeTask.spawn · (Watch.channel false).2) ∧
      ∀ br ∈ b.bridges, (.engine (.addVsockPort ctx (bridgePort env ctx br)), none) ∈ w'.trace := by
  rw [VmBuilder.launch] at h
  rcases b.launchWithSpawner_cases env tokioBridgeSpawner with
    ⟨e, hrefused⟩ | ⟨-, vcpus, memory, -, -, hlaunch⟩
  · rw [hrefused] at h
    cases h
  · rw [hlaunch] at h
    obtain ⟨t, ht, hstop⟩ := stopsAtFirst_afterCreateCtx b.engine
      (launchCtx_traced b env tokioBridgeSpawner vcpus memory) w
    rw [VmBuilder.launchValidated] at h
    rw [h, EStateM.Result.state_ok] at ht
    rw [h, EStateM.Result.error?_ok, StopsAtFirst.none_iff] at hstop
    obtain ⟨ctx, w₁, hctx, h⟩ := EStateM.bind_eq_ok_iff.mp h
    obtain ⟨host, hcreate, hrest₁⟩ := call_ok_inv hctx
    rw [launchCtx_eq_callAll] at h
    obtain ⟨_, w₂, hconfigure, h⟩ := EStateM.bind_eq_ok_iff.mp h
    obtain ⟨_, w₃, hdir, h⟩ := EStateM.bind_eq_ok_iff.mp h
    obtain ⟨_, w₄, hregister, h⟩ := EStateM.bind_eq_ok_iff.mp h
    obtain ⟨_, w₅, hoptions, h⟩ := EStateM.bind_eq_ok_iff.mp h
    -- None of the steps before the start touches the bridge tasks
    have hrest := (((hrest₁.trans (callAll_ok hconfigure)).trans (createDirAll_ok hdir)).trans
      (callAll_ok hregister)).trans (callAll_ok hoptions)
    obtain ⟨hworkdir, hrunning, hchannel, hbridges⟩ := start_ok h
    refine ⟨ctx, host, hcreate, hworkdir, hrunning, hchannel, ?_, fun br hbr => ?_⟩
    · rw [hbridges, hrest.bridges]
      exact congrArg _ (congrFun List.filterMap_eq_map _)
    · have hplan : b.engine.createCtx w.host = .ok ctx host := hcreate
      rw [ht, hstop, afterCreateCtx, hplan]
      have hregister :
          EngineCall.addVsockPort ctx (bridgePort env ctx br) ∈ bridgesPlan b env ctx :=
        List.mem_map_of_mem hbr
      simp [launchPlan, hregister]

end Start

end Tateru.Spec
