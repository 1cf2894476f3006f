import Tateru.ForStd.Simulates
import Tateru.Spec.DeviceNames

/-!
# Two launches side by side

A launch only learns about its host from its engine calls and from the creation of its working
directory. So if these go the same way on two hosts, the launch of a builder does.

## Key results

- `launch_simulates`: two launches of one builder on related hosts
-/

namespace Tateru.Spec

open EStateM (Simulates)

variable {σ : Type}

/-- The worlds are the same, but for their hosts, which are related by `R`. -/
structure Beside (R : Host σ → Host σ → Prop) (w w' : World σ) : Prop where
  host : R w.host w'.host
  rest : w' = { w with host := w'.host }

/-- The directory at the path is created the same way on hosts related by `R`. -/
def CreatesAlike (R : Host σ → Host σ → Prop) (path : PathBuf) : Prop :=
  ∀ h h', R h h' → (h'.fs.createDirAll path).1 = (h.fs.createDirAll path).1 ∧
    R { h with fs := (h.fs.createDirAll path).2 } { h' with fs := (h'.fs.createDirAll path).2 }

section Parts

variable {R R' : Host σ → Host σ → Prop}

/-- What neither looks at the host nor changes it goes the same way. -/
private theorem simulates_of_rest {α : Type} {m : LaunchM σ α}
    (hout : ∀ w host, (m { w with host }).outcome = (m w).outcome)
    (hstate : ∀ w host, (m { w with host }).state = { (m w).state with host })
    (hhost : ∀ w, (m w).state.host = w.host) : Simulates (Beside R) (Beside R) m m := by
  intro w w' h
  rw [h.rest]
  refine ⟨hout w _, ?_⟩
  rw [hstate w w'.host]
  constructor
  · show R (m w).state.host w'.host
    rw [hhost]
    exact h.host
  · rfl

theorem call_simulates {E : VmEngine σ} {c : EngineCall}
    (hc : Simulates R R' (E.run c) (E.run c)) :
    Simulates (Beside R) (Beside R') (LaunchM.call E c) (LaunchM.call E c) := by
  intro w w' h
  cases hr : E.run c w.host with
  | ok r host =>
    obtain ⟨host', hr', hstate⟩ := hc.exists_ok h.host hr
    rw [LaunchM.call_ok hr, LaunchM.call_ok hr']
    exact ⟨rfl, ⟨hstate, by rw [h.rest]; rfl⟩⟩
  | error e host =>
    obtain ⟨host', hr', hstate⟩ := hc.exists_error h.host hr
    rw [LaunchM.call_error hr, LaunchM.call_error hr']
    exact ⟨rfl, ⟨hstate, by rw [h.rest]; rfl⟩⟩

private theorem callAll_simulates {E : VmEngine σ} {cs : List EngineCall}
    (hcs : ∀ c ∈ cs, Simulates R R (E.run c) (E.run c)) :
    Simulates (Beside R) (Beside R) (callAll E cs) (callAll E cs) :=
  .forM cs fun c hc => .bind (call_simulates (hcs c hc)) fun _ => .pure _

private theorem createDirAll_simulates {path : PathBuf} (hpath : CreatesAlike R path) :
    Simulates (Beside R) (Beside R) (LaunchM.createDirAll path) (LaunchM.createDirAll path) := by
  intro w w' h
  obtain ⟨hout, hstate⟩ := hpath w.host w'.host h.host
  rw [h.rest]
  unfold LaunchM.createDirAll
  dsimp only
  rcases hr : w.host.fs.createDirAll path with ⟨result, fs⟩
  rcases hr' : w'.host.fs.createDirAll path with ⟨result', fs'⟩
  rw [hr, hr'] at hout hstate
  obtain rfl : result' = result := hout
  cases result' with
  | ok u => exact ⟨rfl, ⟨hstate, rfl⟩⟩
  | error e => exact ⟨rfl, ⟨hstate, rfl⟩⟩

/-- From the shutdown eventfd on, a launch makes no other call. -/
private theorem start_simulates {b : VmBuilder (VmEngine σ)} {env : Env} {ctx : CtxId}
    (hget : Simulates R R (b.engine.run (.getShutdownEventfd ctx))
      (b.engine.run (.getShutdownEventfd ctx))) (spawner : BridgeSpawner)
    (configs : List BridgeConfig) :
    Simulates (Beside R) (Beside R) (b.start env spawner ctx configs)
      (b.start env spawner ctx configs) := by
  unfold VmBuilder.start
  apply (call_simulates hget).bind
  intro fd
  have hfd : Simulates (Beside R) (Beside R) (LaunchM.fromRawFd fd) (LaunchM.fromRawFd fd) :=
    simulates_of_rest (fun _ _ => rfl) (fun _ _ => rfl) fun _ => rfl
  apply hfd.bind
  intro shutdown
  have hchannel : Simulates (Beside R) (Beside R) LaunchM.watchChannel LaunchM.watchChannel :=
    simulates_of_rest (fun _ _ => rfl) (fun _ _ => rfl) fun _ => rfl
  apply hchannel.bind
  intro rx
  have hspawn : ∀ config, Simulates (Beside R) (Beside R)
      (LaunchM.spawnBridge spawner rx config) (LaunchM.spawnBridge spawner rx config) :=
    fun config => simulates_of_rest (fun _ _ => rfl) (fun _ _ => rfl) fun _ => rfl
  apply (Simulates.forM configs fun config _ => hspawn config).bind
  intro _
  have hthread : Simulates (Beside R) (Beside R) (LaunchM.spawnThread env shutdown ctx)
      (LaunchM.spawnThread env shutdown ctx) := by
    unfold LaunchM.spawnThread
    cases env.spawnError with
    | none => exact simulates_of_rest (fun _ _ => rfl) (fun _ _ => rfl) fun _ => rfl
    | some e => exact simulates_of_rest (fun _ _ => rfl) (fun _ _ => rfl) fun _ => rfl
  apply hthread.bind
  exact fun thread => .pure _

end Parts

/-- If the calls that a launch can plan go the same way on related hosts, and so does the creation
    of its working directory, then the launch goes the same way. -/
theorem launch_simulates {R : Host σ → Host σ → Prop} {b : VmBuilder (VmEngine σ)} {env : Env}
    (hcreate : Simulates R R (b.engine.run .createCtx) (b.engine.run .createCtx))
    (hcalls : ∀ vcpus memory ctx c, .engine c ∈ launchPlan b env vcpus memory ctx →
      Simulates R R (b.engine.run c) (b.engine.run c))
    (hdir : ∀ ctx, CreatesAlike R (env.workdir ctx)) (spawner : BridgeSpawner) :
    Simulates (Beside R) (Beside R) (b.launchWithSpawner env spawner)
      (b.launchWithSpawner env spawner) := by
  rcases b.launchWithSpawner_cases env spawner with
    ⟨e, hrefused⟩ | ⟨-, vcpus, memory, -, -, hlaunch⟩
  · rw [hrefused]
    exact fun w w' h => ⟨rfl, h⟩
  · rw [hlaunch]
    apply (call_simulates hcreate).bind
    intro ctx
    have hplan := hcalls vcpus memory ctx
    simp only [launchPlan, startPlan, List.mem_append, List.mem_cons, List.mem_map,
      LaunchStep.engine.injEq] at hplan
    rw [launchCtx_eq_callAll]
    apply (callAll_simulates fun c hc => hplan c (by simp [hc])).bind
    intro _
    apply (createDirAll_simulates (hdir ctx)).bind
    intro _
    apply (callAll_simulates fun c hc => hplan c (by simp [hc])).bind
    intro _
    apply (callAll_simulates fun c hc => hplan c (by simp [hc])).bind
    intro _
    exact start_simulates (hplan _ (by simp)) spawner _

end Tateru.Spec
