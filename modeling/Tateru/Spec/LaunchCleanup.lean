import Tateru.Spec.BridgeSteps
import Tateru.Spec.EngineFs
import Tateru.Spec.LaunchPlan
import Tateru.Spec.SocketPaths

/-!
# What a failed launch leaves behind

A launch that fails after it has made its working directory leaves the directory there, and
one whose VM thread cannot be spawned also leaves its bridge tasks in their accept loops. The
shutdown descriptor is closed exactly once in any case.

## Key results

- `launchValidated_error`: the three ways a launch of a validated builder fails
- `failed_launch_restored_iff`: when a failed launch leaves the host as it was
- `spawnedTasks_tokio`: what that comes to for the production spawner
-/

namespace Tateru.Spec

open FileSys (SameDirs)

variable {σ : Type}

/-- Whatever it does, the bridge task returns when it has observed the channel. -/
def ReturnsOnShutdown (chan : Watch Bool) (t : BridgeTask) : Prop :=
  ∀ as t' t'', Run (BridgeTask.step chan) t as t' → t'.step chan .react = some t'' →
    t''.phase = .returned

/-- A failed launch from `w` to `w'` has left the host as it was: no directory of its own,
    every descriptor it took over closed once, no bridge task that goes on. -/
structure Restored (b : VmBuilder (VmEngine σ)) (env : Env) (w w' : World σ) : Prop where
  workdir : ∀ ctx host, b.engine.createCtx w.host = .ok ctx host →
    w'.host.fs.isDir (env.workdir ctx) → w.host.fs.isDir (env.workdir ctx)
  descriptors : ∃ fds, w'.opened = w.opened ++ fds ∧ w'.closed = w.closed ++ fds
  bridges : ∀ chan, w'.channel = some chan →
    ∀ t ∈ w'.bridges.drop w.bridges.length, ReturnsOnShutdown chan t

/-! ## How far a launch gets -/

/-- The host once the working directory of a context is made, if the calls before it and its
    creation all succeed. -/
def makeWorkdir (b : VmBuilder (VmEngine σ)) (env : Env) (vcpus : VcpuCount)
    (memory : MemoryMib) (ctx : CtxId) (host : Host σ) : Option (Host σ) :=
  match runAll b.engine (configurePlan b ctx vcpus memory) host with
  | .error _ _ => none
  | .ok _ host =>
    match host.fs.createDirAll (env.workdir ctx) with
    | (.error _, _) => none
    | (.ok (), fs) => some { host with fs }

/-- The context and the host once its working directory is made. -/
def workdirMade (b : VmBuilder (VmEngine σ)) (env : Env) (vcpus : VcpuCount)
    (memory : MemoryMib) (host : Host σ) : Option (CtxId × Host σ) :=
  match b.engine.createCtx host with
  | .error _ _ => none
  | .ok ctx host => (makeWorkdir b env vcpus memory ctx host).map (ctx, ·)

/-- The bridge tasks that a launch of the context `ctx` spawns. -/
def spawnedTasks (b : VmBuilder (VmEngine σ)) (env : Env) (spawner : BridgeSpawner)
    (ctx : CtxId) : List BridgeTask :=
  b.bridges.filterMap fun br => spawner (bridgeConfig env ctx br) (Watch.channel false).2

/-- What has to hold for a failing launch to leave the host as it was. -/
def LeavesNothing (b : VmBuilder (VmEngine σ)) (env : Env) (spawner : BridgeSpawner)
    (vcpus : VcpuCount) (memory : MemoryMib) (host : Host σ) : Prop :=
  match workdirMade b env vcpus memory host with
  | none => True
  | some (ctx, host') =>
    host.fs.isDir (env.workdir ctx) ∧
      ((∀ t ∈ spawnedTasks b env spawner ctx, t.phase = .returned) ∨
        (runAll b.engine (laterPlan b env ctx) host').error?.isSome)

/-- The production spawner spawns nothing only when there is no bridge. -/
theorem spawnedTasks_tokio {b : VmBuilder (VmEngine σ)} {env : Env} {ctx : CtxId} :
    (∀ t ∈ spawnedTasks b env tokioBridgeSpawner ctx, t.phase = .returned) ↔
      b.bridges = [] := by
  cases hbr : b.bridges with
  | nil => simp [spawnedTasks, hbr]
  | cons br rest => simp [spawnedTasks, hbr, tokioBridgeSpawner, BridgeTask.spawn]

/-! ## The ways a launch fails -/

/-- Only the host and the trace have changed. -/
structure Untouched (w w' : World σ) : Prop where
  opened : w'.opened = w.opened
  closed : w'.closed = w.closed
  channel : w'.channel = w.channel
  bridges : w'.bridges = w.bridges

namespace Untouched

theorem trans {w w' w'' : World σ} (h : Untouched w w') (h' : Untouched w' w'') :
    Untouched w w'' :=
  ⟨h'.opened.trans h.opened, h'.closed.trans h.closed, h'.channel.trans h.channel,
    h'.bridges.trans h.bridges⟩

/-- Recording a step that changed the host touches nothing else. -/
theorem record (w : World σ) (host : Host σ) (s : LaunchStep) (o : Option TateruError) :
    Untouched w (LaunchM.record { w with host } s o) := ⟨rfl, rfl, rfl, rfl⟩

end Untouched

private theorem spawnBridges_run (spawner : BridgeSpawner) (rx : Watch.Receiver)
    (configs : List BridgeConfig) (w : World σ) :
    ∃ t, configs.forM (LaunchM.spawnBridge spawner rx) w =
      .ok () { w with
        bridges := w.bridges ++ configs.filterMap (spawner · rx), trace := w.trace ++ t } := by
  induction configs generalizing w with
  | nil => exact ⟨[], by simp only [List.filterMap_nil, List.append_nil]; rfl⟩
  | cons config configs ih =>
    obtain ⟨t, ht⟩ := ih (LaunchM.record
      { w with bridges := w.bridges ++ (spawner config rx).toList } (.spawnBridge config) none)
    refine ⟨(.spawnBridge config, none) :: t, (EStateM.bind_ok rfl).trans (ht.trans ?_)⟩
    cases hspawn : spawner config rx <;> simp [LaunchM.record, hspawn]

/-- A launch that has the descriptor spawns its bridges, and then the VM thread if it can. -/
theorem start_run {b : VmBuilder (VmEngine σ)} {ctx : CtxId} {w : World σ} {fd : Int32}
    {host : Host σ} (hfd : b.engine.getShutdownEventfd ctx w.host = .ok fd host) (env : Env)
    (spawner : BridgeSpawner) (configs : List BridgeConfig) :
    ∃ t, b.start env spawner ctx configs w =
      let started := { w with
        host
        trace := w.trace ++ t
        opened := w.opened ++ [fd]
        channel := some (Watch.channel false).1
        bridges := w.bridges ++ configs.filterMap (spawner · (Watch.channel false).2) }
      match env.spawnError with
      | none => .ok ⟨true, ⟨fd⟩, some ⟨ctx⟩, env.workdir ctx⟩ started
      | some e => .error (.bridgeIo e) (LaunchM.dropLocals started ⟨fd⟩) := by
  -- With the descriptor there is nothing left that can fail but the last step
  obtain ⟨t, ht⟩ := spawnBridges_run spawner (Watch.channel false).2 configs
    { LaunchM.record { w with host } (.engine (.getShutdownEventfd ctx)) none with
      opened := w.opened ++ [fd], channel := some (Watch.channel false).1 }
  have hstart : b.start env spawner ctx configs w =
      (LaunchM.spawnThread env ⟨fd⟩ ctx >>= fun vmThread =>
        pure ⟨true, ⟨fd⟩, some vmThread, env.workdir ctx⟩) _ :=
    (EStateM.bind_ok (LaunchM.call_ok (c := .getShutdownEventfd ctx) hfd)).trans
      ((EStateM.bind_ok rfl).trans ((EStateM.bind_ok rfl).trans (EStateM.bind_ok ht)))
  rw [hstart]
  cases hspawn : env.spawnError with
  | none =>
    refine ⟨(.engine (.getShutdownEventfd ctx), none) :: (t ++ [(.spawnThread, none)]), ?_⟩
    apply (EStateM.bind_ok (by simp only [LaunchM.spawnThread, hspawn]; rfl)).trans
    simp [LaunchM.record, pure, EStateM.pure]
  | some e =>
    refine ⟨(.engine (.getShutdownEventfd ctx), none) ::
      (t ++ [(.spawnThread, some (.bridgeIo e))]), ?_⟩
    apply (EStateM.bind_error (by simp only [LaunchM.spawnThread, hspawn]; rfl)).trans
    simp [LaunchM.record]

private theorem runAll_sameDirs {E : VmEngine σ} (hdirs : KeepsDirs E)
    (cs : List EngineCall) : EStateM.Keeps SameHostDirs (runAll E cs) :=
  EStateM.Keeps.forM .refl .trans cs fun c =>
    EStateM.Keeps.bind .trans (hdirs c) fun _ => EStateM.Keeps.pure .refl _

/-- The calls of a launch do to its host what they do to a host, and touch nothing else. -/
private theorem runAll_eq (E : VmEngine σ) (cs : List EngineCall) (w : World σ) :
    (runAll E cs w.host =
      match callAll E cs w with
      | .ok u w' => .ok u w'.host
      | .error e w' => .error e w'.host) ∧ Untouched w (callAll E cs w).state := by
  obtain ⟨t, ht⟩ := callAll_run E cs w
  rw [ht]
  cases runAll E cs w.host <;> exact ⟨rfl, rfl, rfl, rfl, rfl⟩

/-- A part of a launch that begins with engine calls fails at one of them, or after them. -/
private theorem callAll_bind_error {α : Type} {E : VmEngine σ} (hdirs : KeepsDirs E)
    {cs : List EngineCall} {f : Unit → LaunchM σ α} {w w' : World σ} {e : TateruError}
    (h : (callAll E cs >>= f) w = .error e w') :
    (runAll E cs w.host = .error e w'.host ∧ Untouched w w' ∧ SameHostDirs w.host w'.host) ∨
    ∃ w₁, runAll E cs w.host = .ok () w₁.host ∧ Untouched w w₁ ∧ SameHostDirs w.host w₁.host ∧
      f () w₁ = .error e w' := by
  obtain ⟨hrun, hrest⟩ := runAll_eq E cs w
  have hdir := runAll_sameDirs hdirs cs w.host
  rcases EStateM.bind_eq_error_iff.mp h with h | ⟨_, w₁, h₁, h⟩
  · rw [h] at hrun hrest
    rw [hrun] at hdir
    exact Or.inl ⟨hrun, hrest, hdir⟩
  · rw [h₁] at hrun hrest
    rw [hrun] at hdir
    exact Or.inr ⟨w₁, hrun, hrest, hdir, h⟩

/-- What the calls after the working directory was made come to. -/
private theorem runAll_laterPlan (b : VmBuilder (VmEngine σ)) (env : Env) (ctx : CtxId) :
    runAll b.engine (laterPlan b env ctx) =
      runAll b.engine (bridgesPlan b env ctx) >>= fun _ =>
        runAll b.engine (optionsPlan b ctx) >>= fun _ =>
          b.engine.getShutdownEventfd ctx >>= fun _ => pure () := by
  simp [runAll, laterPlan, VmEngine.run]

/-- How a launch ends that fails once its working directory is made: at a later engine call,
    or at the spawn of the VM thread. -/
inductive FailsLater (b : VmBuilder (VmEngine σ)) (env : Env) (spawner : BridgeSpawner)
    (ctx : CtxId) (host : Host σ) (w w' : World σ) : Prop where
  | engine (hcall : (runAll b.engine (laterPlan b env ctx) host).error?.isSome)
      (hrest : Untouched w w')
  | spawn (hcalls : (runAll b.engine (laterPlan b env ctx) host).error? = none)
      (hspawn : env.spawnError.isSome) (fd : Int32)
      (hopened : w'.opened = w.opened ++ [fd]) (hclosed : w'.closed = w.closed ++ [fd])
      (hchannel : w'.channel = some (Watch.channel false).1.dropSender)
      (hbridges : w'.bridges = w.bridges ++ spawnedTasks b env spawner ctx)

theorem FailsLater.of_untouched {b : VmBuilder (VmEngine σ)} {env : Env}
    {spawner : BridgeSpawner} {ctx : CtxId} {host : Host σ} {w w₁ w' : World σ}
    (hrest : Untouched w w₁) (h : FailsLater b env spawner ctx host w₁ w') :
    FailsLater b env spawner ctx host w w' := by
  cases h with
  | engine hcall hrest' => exact .engine hcall (hrest.trans hrest')
  | spawn hcalls hspawn fd hopened hclosed hchannel hbridges =>
    rw [hrest.opened] at hopened
    rw [hrest.closed] at hclosed
    rw [hrest.bridges] at hbridges
    exact .spawn hcalls hspawn fd hopened hclosed hchannel hbridges

/-- The start of a VM fails because there is no descriptor, or because the VM thread cannot be
    spawned, and by then the bridge tasks are. -/
private theorem start_error {b : VmBuilder (VmEngine σ)} (hdirs : KeepsDirs b.engine)
    {env : Env} {spawner : BridgeSpawner} {ctx : CtxId} {configs : List BridgeConfig}
    {w w' : World σ} {e : TateruError} (h : b.start env spawner ctx configs w = .error e w') :
    SameHostDirs w.host w'.host ∧
    ((∃ host, b.engine.getShutdownEventfd ctx w.host = .error e host ∧ Untouched w w') ∨
      ∃ fd host, b.engine.getShutdownEventfd ctx w.host = .ok fd host ∧ env.spawnError.isSome ∧
        w'.opened = w.opened ++ [fd] ∧ w'.closed = w.closed ++ [fd] ∧
        w'.channel = some (Watch.channel false).1.dropSender ∧
        w'.bridges = w.bridges ++ configs.filterMap (spawner · (Watch.channel false).2)) := by
  have hfd := hdirs (.getShutdownEventfd ctx) w.host
  cases hget : b.engine.getShutdownEventfd ctx w.host with
  | error e' host =>
    rw [VmEngine.run, hget] at hfd
    rw [VmBuilder.start, EStateM.bind_error
      (LaunchM.call_error (c := .getShutdownEventfd ctx) hget)] at h
    obtain ⟨rfl, rfl⟩ := EStateM.Result.error.inj h
    exact ⟨hfd, Or.inl ⟨host, rfl, .record _ _ _ _⟩⟩
  | ok fd host =>
    rw [VmEngine.run, hget] at hfd
    obtain ⟨t, ht⟩ := start_run hget env spawner configs
    rw [ht] at h
    cases hspawn : env.spawnError with
    | none =>
      simp only [hspawn] at h
      cases h
    | some io =>
      simp only [hspawn] at h
      obtain ⟨rfl, rfl⟩ := EStateM.Result.error.inj h
      exact ⟨hfd, Or.inr ⟨fd, host, rfl, rfl, rfl, rfl, rfl, rfl⟩⟩

/-- A launch that has made its working directory fails at a later engine call, or at the spawn
    of the VM thread; the directory stays. -/
private theorem launchLater_error {b : VmBuilder (VmEngine σ)} (hdirs : KeepsDirs b.engine)
    {env : Env} {spawner : BridgeSpawner} {ctx : CtxId} {w w' : World σ} {e : TateruError}
    (h : (do
      callAll b.engine (bridgesPlan b env ctx)
      callAll b.engine (optionsPlan b ctx)
      b.start env spawner ctx (b.bridges.map (bridgeConfig env ctx))) w = .error e w') :
    FailsLater b env spawner ctx w.host w w' ∧ SameHostDirs w.host w'.host := by
  rcases callAll_bind_error hdirs h with ⟨hrun₁, hrest₁, hdir₁⟩ | ⟨w₁, hrun₁, hrest₁, hdir₁, h⟩
  · -- the registration of a bridge fails
    refine ⟨.engine ?_ hrest₁, hdir₁⟩
    rw [runAll_laterPlan, EStateM.bind_error hrun₁]
    rfl
  rcases callAll_bind_error hdirs h with ⟨hrun₂, hrest₂, hdir₂⟩ | ⟨w₂, hrun₂, hrest₂, hdir₂, h⟩
  · -- an option is refused
    refine ⟨.engine ?_ (hrest₁.trans hrest₂), hdir₁.trans _ _ _ hdir₂⟩
    rw [runAll_laterPlan, EStateM.bind_ok hrun₁, EStateM.bind_error hrun₂]
    rfl
  have huntouched := hrest₁.trans hrest₂
  have hdirs₂ := hdir₁.trans _ _ _ hdir₂
  have hlater : runAll b.engine (laterPlan b env ctx) w.host =
      (b.engine.getShutdownEventfd ctx >>= fun _ => pure ()) w₂.host := by
    rw [runAll_laterPlan, EStateM.bind_ok hrun₁, EStateM.bind_ok hrun₂]
  obtain ⟨hdir₃, ⟨host, hget, hrest₃⟩ | ⟨fd, host, hget, hspawn, hopened, hclosed, hchannel,
    hbridges⟩⟩ := start_error hdirs h
  · -- there is no descriptor
    refine ⟨.engine ?_ (huntouched.trans hrest₃), hdirs₂.trans _ _ _ hdir₃⟩
    rw [hlater, EStateM.bind_error hget]
    rfl
  · -- the VM thread cannot be spawned
    refine ⟨.spawn ?_ hspawn fd ?_ ?_ hchannel ?_, hdirs₂.trans _ _ _ hdir₃⟩
    · rw [hlater, EStateM.bind_ok hget]
      rfl
    · rw [hopened, huntouched.opened]
    · rw [hclosed, huntouched.closed]
    · rw [hbridges, huntouched.bridges, List.filterMap_map]
      rfl

/-- How the launch of a context fails: before its working directory is made, and then the
    directory is there only if it was before, or later. -/
private theorem launchCtx_error {b : VmBuilder (VmEngine σ)} (hdirs : KeepsDirs b.engine)
    {env : Env} {spawner : BridgeSpawner} {vcpus : VcpuCount} {memory : MemoryMib} {ctx : CtxId}
    {w w' : World σ} {e : TateruError}
    (h : b.launchCtx env spawner vcpus memory ctx w = .error e w') :
    (makeWorkdir b env vcpus memory ctx w.host = none ∧ Untouched w w' ∧
      (w'.host.fs.isDir (env.workdir ctx) ↔ w.host.fs.isDir (env.workdir ctx))) ∨
    ∃ host, makeWorkdir b env vcpus memory ctx w.host = some host ∧
      FailsLater b env spawner ctx host w w' ∧ w'.host.fs.isDir (env.workdir ctx) := by
  rw [launchCtx_eq_callAll] at h
  rcases callAll_bind_error hdirs h with ⟨hrun, hrest, hdir⟩ | ⟨w₁, hrun, hrest, hdir, h⟩
  · -- the configuration fails
    exact Or.inl ⟨by simp only [makeWorkdir, hrun], hrest, hdir.isDir_iff _⟩
  rcases hmk : w₁.host.fs.createDirAll (env.workdir ctx) with ⟨io | ⟨⟩, fs⟩
  · -- the directory cannot be made
    rw [EStateM.bind_error (by simp only [LaunchM.createDirAll, hmk]; rfl)] at h
    obtain ⟨-, rfl⟩ := EStateM.Result.error.inj h
    exact Or.inl ⟨by simp only [makeWorkdir, hrun, hmk], hrest.trans (.record _ _ _ _),
      (FileSys.createDirAll_error hmk).trans (hdir.isDir_iff _)⟩
  · rw [EStateM.bind_ok (by simp only [LaunchM.createDirAll, hmk]; rfl)] at h
    have hmade := FileSys.createDirAll_ok hmk (entry_workdir_ne_nil _ env ctx)
    obtain ⟨hfails, hsame⟩ := launchLater_error hdirs h
    exact Or.inr ⟨{ w₁.host with fs }, by simp only [makeWorkdir, hrun, hmk],
      hfails.of_untouched (hrest.trans (.record _ _ _ _)), (hsame.isDir_iff _).mpr hmade⟩

/-- How a failed launch ends: before its working directory is made, and then the directory is
    there only if it was before, or later. -/
theorem launchValidated_error {b : VmBuilder (VmEngine σ)} (hdirs : KeepsDirs b.engine)
    {env : Env} {spawner : BridgeSpawner} {vcpus : VcpuCount} {memory : MemoryMib}
    {w w' : World σ} {e : TateruError}
    (h : b.launchValidated env spawner vcpus memory w = .error e w') :
    (workdirMade b env vcpus memory w.host = none ∧ Untouched w w' ∧
      ∀ ctx host, b.engine.createCtx w.host = .ok ctx host →
        (w'.host.fs.isDir (env.workdir ctx) ↔ w.host.fs.isDir (env.workdir ctx))) ∨
    ∃ ctx host₀ host, b.engine.createCtx w.host = .ok ctx host₀ ∧
      workdirMade b env vcpus memory w.host = some (ctx, host) ∧
      FailsLater b env spawner ctx host w w' ∧ w'.host.fs.isDir (env.workdir ctx) := by
  have hdir := hdirs .createCtx w.host
  rw [VmEngine.run] at hdir
  rw [VmBuilder.launchValidated] at h
  unfold workdirMade
  cases hctx : b.engine.createCtx w.host with
  | error e' host₀ =>
    rw [EStateM.bind_error (LaunchM.call_error (c := .createCtx) hctx)] at h
    obtain ⟨-, rfl⟩ := EStateM.Result.error.inj h
    exact Or.inl ⟨rfl, .record _ _ _ _, fun _ _ hok => by cases hok⟩
  | ok ctx host₀ =>
    rw [hctx] at hdir
    rw [EStateM.bind_ok (LaunchM.call_ok (c := .createCtx) hctx)] at h
    rcases launchCtx_error hdirs h with ⟨hnone, hrest, hiff⟩ | ⟨host, hsome, hfails, hstays⟩
    · refine Or.inl ⟨?_, .trans (.record _ _ _ _) hrest, ?_⟩
      · exact congrArg (Option.map (ctx, ·)) hnone
      · intro ctx' host hok
        obtain ⟨rfl, -⟩ := EStateM.Result.ok.inj hok
        exact hiff.trans (hdir.isDir_iff _)
    · refine Or.inr ⟨ctx, host₀, host, rfl, ?_, ?_, hstays⟩
      · exact congrArg (Option.map (ctx, ·)) hsome
      · exact hfails.of_untouched (.record _ _ _ _)

/-! ## What a failed launch leaves behind -/

/-- Without a sender, and a value sent, only a bridge task that has returned already does. -/
private theorem returnsOnShutdown_iff {t : BridgeTask} :
    ReturnsOnShutdown (Watch.channel false).1.dropSender t ↔ t.phase = .returned := by
  constructor
  · intro h
    by_contra hphase
    -- The task can be woken, and the value it finds is `false`
    obtain ⟨as, t', hrun, hp⟩ := BridgeTask.exists_woken
      (rfl : (Watch.channel false).1.dropSender.closed = true) hphase
    have hreact : t'.step (Watch.channel false).1.dropSender .react =
        some { t' with phase := .accepting } := by
      simp [BridgeTask.step, hp, Watch.borrow, Watch.dropSender, Watch.channel]
    exact absurd (h as t' _ hrun hreact) (by simp)
  · intro hphase as t' t'' hrun hreact
    cases as with
    | nil =>
      obtain rfl := Run.nil_iff.mp hrun
      exact absurd hphase (BridgeTask.not_returned_of_step hreact)
    | cons a as =>
      obtain ⟨u, hu, -⟩ := Run.cons_iff.mp hrun
      exact absurd hphase (BridgeTask.not_returned_of_step hu)

/-- A launch that changed only the host is to be judged by its directory. -/
private theorem Restored.of_untouched {b : VmBuilder (VmEngine σ)} {env : Env} {w w' : World σ}
    (hrest : Untouched w w')
    (hworkdir : ∀ ctx host, b.engine.createCtx w.host = .ok ctx host →
      w'.host.fs.isDir (env.workdir ctx) → w.host.fs.isDir (env.workdir ctx)) :
    Restored b env w w' := by
  refine ⟨hworkdir, ⟨[], ?_, ?_⟩, ?_⟩
  · rw [hrest.opened, List.append_nil]
  · rw [hrest.closed, List.append_nil]
  · intro chan _ t ht
    rw [hrest.bridges, List.drop_length] at ht
    exact nomatch ht

/-- A launch that fails leaves the host as it was exactly when it fails before it has made its
    working directory, or when the directory was there before and the failure is not the spawn
    of the VM thread after that of a bridge task. -/
theorem failed_launch_restored_iff {b : VmBuilder (VmEngine σ)} (hdirs : KeepsDirs b.engine)
    {vcpus : VcpuCount} {memory : MemoryMib} (hvcpus : b.vcpus = some vcpus)
    (hmemory : b.memory = some memory) (hdisks : b.disks ≠ []) {env : Env}
    {spawner : BridgeSpawner} {w w' : World σ} {e : TateruError}
    (h : b.launchWithSpawner env spawner w = .error e w') :
    Restored b env w w' ↔ LeavesNothing b env spawner vcpus memory w.host := by
  rw [VmBuilder.launchWithSpawner_of_some hvcpus hmemory hdisks] at h
  rcases launchValidated_error hdirs h with
    ⟨hnone, hrest, hiff⟩ | ⟨ctx, host₀, host, hctx, hsome, hfails, hstays⟩
  · -- nothing was made
    simp only [LeavesNothing, hnone, iff_true]
    exact .of_untouched hrest fun ctx host hctx => (hiff ctx host hctx).mp
  · simp only [LeavesNothing, hsome]
    -- The directory is there after the launch, so it has to have been there before
    have hworkdir : (∀ ctx' host, b.engine.createCtx w.host = .ok ctx' host →
        w'.host.fs.isDir (env.workdir ctx') → w.host.fs.isDir (env.workdir ctx')) ↔
        w.host.fs.isDir (env.workdir ctx) := by
      constructor
      · exact fun hall => hall ctx host₀ hctx hstays
      · intro hbefore ctx' host' hctx' _
        rw [hctx] at hctx'
        obtain ⟨rfl, -⟩ := EStateM.Result.ok.inj hctx'
        exact hbefore
    cases hfails with
    | engine hcall hrest =>
      -- A later call failed: the directory stays, and nothing else
      constructor
      · exact fun hres => ⟨hworkdir.mp hres.workdir, Or.inr hcall⟩
      · exact fun ⟨hbefore, _⟩ => .of_untouched hrest (hworkdir.mpr hbefore)
    | spawn hcalls _ fd hopened hclosed hchannel hbridges =>
      -- The bridge tasks were spawned, and nobody will send them anything
      have htasks : (∀ chan, w'.channel = some chan →
          ∀ t ∈ w'.bridges.drop w.bridges.length, ReturnsOnShutdown chan t) ↔
          ∀ t ∈ spawnedTasks b env spawner ctx, t.phase = .returned := by
        simp [hchannel, hbridges, returnsOnShutdown_iff]
      rw [hcalls]
      constructor
      · exact fun hres => ⟨hworkdir.mp hres.workdir, Or.inl (htasks.mp hres.bridges)⟩
      · rintro ⟨hbefore, hreturned | hsome⟩
        · exact ⟨hworkdir.mpr hbefore, ⟨[fd], hopened, hclosed⟩, htasks.mpr hreturned⟩
        · exact nomatch hsome

/-- A builder with one disk, on the Virtualization.framework engine. -/
def vzBuilder : VmBuilder (VmEngine VzEngine) :=
  (((VmBuilder.new VzEngine.engine).setVcpus ⟨1⟩).memoryMib ⟨1024⟩).disk
    ⟨.ofString "/vm.qcow2", .qcow2, false⟩

/-- A host on which nothing was launched yet. -/
def vzWorld : World VzEngine :=
  .new ⟨.new, .ofDirs [[], [(PathBuf.ofString "tmp").bytes]]⟩

/-- What the launch of the builder on that host comes to. -/
def vzLaunch : EStateM.Result TateruError (World VzEngine) VmHandle :=
  vzBuilder.launch ⟨.ofString "/tmp", none⟩ vzWorld

/-- The engine has no eventfd to offer, and by then the working directory is made. -/
theorem failed_launch_leaves_workdir :
    vzLaunch.error? =
      some (.invalidConfig "vz: shutdown eventfd not available; use VM observer (M2)") ∧
    ¬ Restored vzBuilder ⟨.ofString "/tmp", none⟩ vzWorld vzLaunch.state := by
  refine ⟨by rfl, fun hres => ?_⟩
  have hdir := hres.workdir ⟨0⟩ _ rfl
  exact absurd (hdir (by decide +kernel)) (by decide)

/-- The theorem at that launch. -/
theorem failed_launch_restored_iff_vz :
    Restored vzBuilder ⟨.ofString "/tmp", none⟩ vzWorld vzLaunch.state ↔
      LeavesNothing vzBuilder ⟨.ofString "/tmp", none⟩ tokioBridgeSpawner ⟨1⟩ ⟨1024⟩
        vzWorld.host := by
  have hfail : vzLaunch = .error
      (.invalidConfig "vz: shutdown eventfd not available; use VM observer (M2)")
      vzLaunch.state := by rfl
  exact failed_launch_restored_iff vz_keepsDirs rfl rfl (by decide) hfail

end Tateru.Spec
