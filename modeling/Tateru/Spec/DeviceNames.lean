import Tateru.Spec.LaunchPlan
import Tateru.Spec.Marshalling
import Tateru.Spec.SocketPaths

/-!
# The names that a launch gives to devices

A launch names the sockets of its bridges after the context and the guest port, and libkrun's
disks after their place. Sockets and block ids are told apart by these names, and a bridge
is spawned with the socket that was registered for it.

## Key results

- `bridgeSocket_inj`, `bridgeSocket_ne_of_ctx`: which sockets are the same
- `registered_before_spawned`: what a bridge is spawned with
- `launch_keeps`: what each step of a launch keeps, the launch keeps
- `devices_routed`: the three together, with the block ids of libkrun
-/

namespace Tateru.Spec

open EStateM (Keeps)

/-! ## Sockets -/

/-- In one context, sockets are told apart by their guest ports. -/
theorem bridgeSocket_inj {env : Env} {ctx : CtxId} {g g' : GuestPort} :
    (env.workdir ctx).bridgeSocket g = (env.workdir ctx).bridgeSocket g' ↔ g = g' := by
  refine ⟨fun h => ?_, fun h => by rw [h]⟩
  -- However a path is resolved, the name of the socket comes last
  have hentry := congrArg (FileSys.ofDirs []).entry h
  rw [entry_bridgeSocket, entry_bridgeSocket, List.append_cancel_left_eq] at hentry
  exact socketName_inj (List.cons.inj hentry).1

/-- The sockets of different contexts are different. -/
theorem bridgeSocket_ne_of_ctx {env : Env} {ctx ctx' : CtxId} (hctx : ctx ≠ ctx')
    (g g' : GuestPort) :
    (env.workdir ctx).bridgeSocket g ≠ (env.workdir ctx').bridgeSocket g' := by
  intro h
  have hentry := congrArg (FileSys.ofDirs []).entry h
  rw [entry_bridgeSocket, entry_bridgeSocket, entry_workdir, entry_workdir] at hentry
  have hdir := (List.append_inj' hentry rfl).1
  rw [List.append_cancel_left_eq] at hdir
  exact hctx (dirName_inj (List.cons.inj hdir).1)

/-! ## What a bridge is spawned with -/

section

variable {σ E : Type}

/-- The steps of a launch before its first bridge is spawned. -/
def stepsBeforeSpawns (b : VmBuilder E) (env : Env) (vcpus : VcpuCount) (memory : MemoryMib)
    (ctx : CtxId) : List LaunchStep :=
  (configurePlan b ctx vcpus memory).map .engine ++
    (.createDirAll (env.workdir ctx) ::
      ((bridgesPlan b env ctx).map .engine ++
        ((optionsPlan b ctx).map .engine ++ [.engine (.getShutdownEventfd ctx)])))

theorem launchPlan_eq (b : VmBuilder E) (env : Env) (vcpus : VcpuCount) (memory : MemoryMib)
    (ctx : CtxId) :
    launchPlan b env vcpus memory ctx = stepsBeforeSpawns b env vcpus memory ctx ++
      (b.bridges.map (fun br => .spawnBridge (bridgeConfig env ctx br)) ++ [.spawnThread]) := by
  simp [launchPlan, stepsBeforeSpawns, startPlan]

theorem not_mem_stepsBeforeSpawns (b : VmBuilder E) (env : Env) (vcpus : VcpuCount)
    (memory : MemoryMib) (ctx : CtxId) (config : BridgeConfig) :
    .spawnBridge config ∉ stepsBeforeSpawns b env vcpus memory ctx := by
  simp [stepsBeforeSpawns]

/-- The registrations of vsock ports that a launch makes. -/
theorem addVsockPort_mem_launchPlan {b : VmBuilder E} {env : Env} {vcpus : VcpuCount}
    {memory : MemoryMib} {ctx : CtxId} {port : VsockPort}
    (h : .engine (.addVsockPort ctx port) ∈ launchPlan b env vcpus memory ctx) :
    port ∈ b.vsockPorts ∨ ∃ br ∈ b.bridges, bridgePort env ctx br = port := by
  simpa [launchPlan, configurePlan, bridgesPlan, optionsPlan, startPlan] using h

/-- What is planned before a bridge is spawned: everything before the spawns, among it the
    registration of its socket. -/
theorem spawnBridge_of_launchPlan {b : VmBuilder E} {env : Env} {vcpus : VcpuCount}
    {memory : MemoryMib} {ctx : CtxId} {before after : List LaunchStep} {config : BridgeConfig}
    (h : launchPlan b env vcpus memory ctx = before ++ .spawnBridge config :: after) :
    ∃ br ∈ b.bridges, config = bridgeConfig env ctx br ∧
      .engine (.addVsockPort ctx (bridgePort env ctx br)) ∈ before := by
  have hmem : LaunchStep.spawnBridge config ∈ launchPlan b env vcpus memory ctx := by simp [h]
  rw [launchPlan_eq] at h hmem
  -- It is one of the spawns at the end
  have hspawn : ∃ br ∈ b.bridges, bridgeConfig env ctx br = config := by
    have hend := (List.mem_append.mp hmem).resolve_left
      (not_mem_stepsBeforeSpawns b env vcpus memory ctx config)
    simpa using hend
  obtain ⟨br, hbr, rfl⟩ := hspawn
  refine ⟨br, hbr, rfl, ?_⟩
  have hregistered : LaunchStep.engine (.addVsockPort ctx (bridgePort env ctx br)) ∈
      stepsBeforeSpawns b env vcpus memory ctx := by
    have hplanned : EngineCall.addVsockPort ctx (bridgePort env ctx br) ∈ bridgesPlan b env ctx :=
      List.mem_map_of_mem hbr
    simp [stepsBeforeSpawns, hplanned]
  -- All of the steps before the spawns are before it
  rcases List.append_eq_append_iff.mp h with ⟨mid, hbefore, -⟩ | ⟨mid, hsteps, hrest⟩
  · rw [hbefore]
    exact List.mem_append_left _ hregistered
  · cases mid with
    | nil => rwa [hsteps, List.append_nil] at hregistered
    | cons s mid =>
      obtain ⟨rfl, -⟩ := List.cons.inj hrest
      have hnot := not_mem_stepsBeforeSpawns b env vcpus memory ctx (bridgeConfig env ctx br)
      rw [hsteps] at hnot
      exact absurd (by simp) hnot

end

section

variable {σ : Type}

/-- What a launch records: nothing if the builder is incomplete, and else the steps of its
    plan. -/
theorem launchWithSpawner_trace (b : VmBuilder (VmEngine σ)) (env : Env)
    (spawner : BridgeSpawner) (w : World σ) :
    (b.launchWithSpawner env spawner w).state.trace = w.trace ∨
    ∃ vcpus memory t, (b.launchWithSpawner env spawner w).state.trace = w.trace ++ t ∧
      StopsAtFirst (afterCreateCtx b.engine w.host (launchPlan b env vcpus memory)) t
        (b.launchWithSpawner env spawner w).error? := by
  rcases b.launchWithSpawner_cases env spawner with
    ⟨e, hrefused⟩ | ⟨-, vcpus, memory, -, -, hlaunch⟩
  · rw [hrefused]
    exact Or.inl rfl
  · rw [hlaunch]
    exact Or.inr ⟨vcpus, memory,
      stopsAtFirst_afterCreateCtx b.engine (launchCtx_traced b env spawner vcpus memory) w⟩

/-- A bridge of a launch is spawned with the host port of a request and a socket that has been
    registered before for the guest port of this request, and for no other guest port unless the
    builder itself names the socket. -/
theorem registered_before_spawned {b : VmBuilder (VmEngine σ)} {env : Env}
    {spawner : BridgeSpawner} {w : World σ} {t pre post : List (LaunchStep × Option TateruError)}
    {config : BridgeConfig} {o : Option TateruError}
    (ht : (b.launchWithSpawner env spawner w).state.trace = w.trace ++ t)
    (hsplit : t = pre ++ (.spawnBridge config, o) :: post) :
    ∃ ctx host, b.engine.createCtx w.host = .ok ctx host ∧ ∃ br ∈ b.bridges,
      config = bridgeConfig env ctx br ∧
      (.engine (.addVsockPort ctx ⟨br.guestPort, config.socketPath⟩), none) ∈ pre ∧
      ∀ g o', (.engine (.addVsockPort ctx ⟨g, config.socketPath⟩), o') ∈ t →
        g = br.guestPort ∨ ⟨g, config.socketPath⟩ ∈ b.vsockPorts := by
  rcases launchWithSpawner_trace b env spawner w with htrace | ⟨vcpus, memory, t', ht', hstop⟩
  -- Nothing was recorded
  · rw [htrace, hsplit] at ht
    simp at ht
  · obtain rfl : t' = t := List.append_cancel_left (ht'.symm.trans ht)
    obtain ⟨before, after, hplan, hpre⟩ := (hsplit ▸ hstop).split
    -- The first step is the creation of the context, which is no spawn
    cases before with
    | nil => exact nomatch (List.cons.inj hplan).1
    | cons first before =>
      have hrest := (List.cons.inj hplan).2
      cases hctx : b.engine.createCtx w.host with
      | error e host =>
        simp [hctx] at hrest
      | ok ctx host =>
        simp only [hctx] at hrest
        obtain ⟨br, hbr, rfl, hregistered⟩ := spawnBridge_of_launchPlan hrest
        refine ⟨ctx, host, rfl, br, hbr, rfl, ?_, fun g o' hg => ?_⟩
        · rw [hpre]
          exact List.mem_map_of_mem (List.mem_cons_of_mem _ hregistered)
        · have hmem := hstop.mem_plan hg
          simp only [afterCreateCtx, hctx, List.mem_cons, LaunchStep.engine.injEq, reduceCtorEq,
            false_or] at hmem
          rcases addVsockPort_mem_launchPlan hmem with hraw | ⟨br', hbr', hport⟩
          · exact Or.inr hraw
          · obtain ⟨rfl, hsocket⟩ := VsockPort.mk.inj hport
            exact Or.inl (bridgeSocket_inj.mp hsocket)

/-! ## What a launch keeps -/

/-- What every step of a launch keeps that is recorded, with its outcome, and does to the host what
    it performs there, the launch keeps. -/
theorem launch_keeps_steps {R : World σ → World σ → Prop} (hrefl : ∀ w, R w w)
    (htrans : ∀ w w' w'', R w w' → R w' w'' → R w w'') {b : VmBuilder (VmEngine σ)}
    (hcall : ∀ c, Keeps R (LaunchM.call b.engine c))
    (hsame : ∀ w w' : World σ, w'.host = w.host → w'.trace = w.trace → R w w')
    (hrecord : ∀ (w w' : World σ) s o, (∀ c, s ≠ .engine c) →
      w'.host = (perform b.engine w.host s).2 → w'.trace = w.trace ++ [(s, o)] → R w w')
    (env : Env) (spawner : BridgeSpawner) : Keeps R (b.launchWithSpawner env spawner) := by
  have hcalls : ∀ cs, Keeps R (callAll b.engine cs) := fun cs =>
    .forM hrefl htrans cs fun c => .bind htrans (hcall c) fun _ => .pure hrefl _
  have hdir : ∀ path, Keeps R (LaunchM.createDirAll path) := by
    intro path w
    unfold LaunchM.createDirAll
    rcases hdir : w.host.fs.createDirAll path with ⟨_ | _, fs⟩
    · exact hrecord _ _ (.createDirAll path) _ (by simp) (by simp only [perform, hdir]; rfl) rfl
    · exact hrecord _ _ (.createDirAll path) _ (by simp) (by simp only [perform, hdir]; rfl) rfl
  have hfd : ∀ fd, Keeps R (LaunchM.fromRawFd fd) := fun fd w => hsame _ _ rfl rfl
  have hchannel : Keeps R LaunchM.watchChannel := fun w => hsame _ _ rfl rfl
  have hspawn : ∀ rx config, Keeps R (LaunchM.spawnBridge spawner rx config) :=
    fun rx config w => hrecord _ _ (.spawnBridge config) _ (by simp) rfl rfl
  have hthread : ∀ shutdown ctx, Keeps R (LaunchM.spawnThread env shutdown ctx) := by
    intro shutdown ctx w
    unfold LaunchM.spawnThread
    cases env.spawnError with
    | none => exact hrecord _ _ .spawnThread _ (by simp) rfl rfl
    | some e => exact hrecord _ _ .spawnThread _ (by simp) rfl rfl
  rcases b.launchWithSpawner_cases env spawner with
    ⟨e, hrefused⟩ | ⟨-, vcpus, memory, -, -, hlaunch⟩
  · rw [hrefused]
    exact fun w => hrefl w
  · rw [hlaunch]
    refine .bind htrans (hcall _) fun ctx => ?_
    rw [launchCtx_eq_callAll]
    refine .bind htrans (hcalls _) fun _ => .bind htrans (hdir _) fun _ => ?_
    refine .bind htrans (hcalls _) fun _ => .bind htrans (hcalls _) fun _ => ?_
    refine .bind htrans (hcall _) fun fd => .bind htrans (hfd _) fun shutdown => ?_
    refine .bind htrans hchannel fun rx => ?_
    refine .bind htrans (.forM hrefl htrans _ (hspawn rx)) fun _ => ?_
    exact .bind htrans (hthread _ _) fun _ => .pure hrefl _

/-- What every engine call keeps, and every other step, the launch keeps. -/
theorem launch_keeps {R : World σ → World σ → Prop} (hrefl : ∀ w, R w w)
    (htrans : ∀ w w' w'', R w w' → R w' w'' → R w w'') {b : VmBuilder (VmEngine σ)}
    (hcall : ∀ c, Keeps R (LaunchM.call b.engine c))
    (hsame : ∀ w w' : World σ, w'.host.engine = w.host.engine → w'.trace = w.trace → R w w')
    (hrecord : ∀ (w w' : World σ) s o, (∀ c, s ≠ .engine c) →
      w'.host.engine = w.host.engine → w'.trace = w.trace ++ [(s, o)] → R w w')
    (env : Env) (spawner : BridgeSpawner) : Keeps R (b.launchWithSpawner env spawner) := by
  refine launch_keeps_steps hrefl htrans hcall ?_ ?_ env spawner
  · exact fun w w' hhost => hsame w w' (congrArg Host.engine hhost)
  · intro w w' s o hs hhost
    exact hrecord w w' s o hs ((congrArg Host.engine hhost).trans (perform_engine b.engine _ hs))

end

/-! ## The block ids of libkrun -/

section

variable {κ : Type} {K : Krun κ}

/-- The block id that a call of the C library adds. -/
def blockId? : KrunCall → Option CString
  | .addDisk2 _ blockId _ _ _ => some blockId
  | _ => none

/-- The place of the disk that an engine call adds. -/
def diskIndex? : EngineCall → Option Nat
  | .addDisk _ _ index => some index
  | _ => none

/-- The name of a disk. -/
def diskName (index : Nat) : List UInt8 :=
  utf8 ("disk" ++ toString index)

/-- Calls of the C library have been made that add disks of these names at most. -/
def AddsDisks (names : List (List UInt8)) (h h' : Host (Libkrun κ)) : Prop :=
  ∃ calls, h'.engine.calls = h.engine.calls ++ calls ∧
    ((calls.filterMap blockId?).map CString.bytes).Sublist names

/-- The name of a disk determines its place. -/
theorem diskName_inj {i j : Nat} (h : diskName i = diskName j) : i = j := by
  have hlist := congrArg String.toList (Str.bytes_inj h)
  rw [String.toList_append, String.toList_append, List.append_cancel_left_eq,
    String.toList_inj] at hlist
  exact Str.repr_inj hlist

namespace AddsDisks

theorem refl (names : List (List UInt8)) (h : Host (Libkrun κ)) : AddsDisks names h h :=
  ⟨[], (List.append_nil _).symm, List.nil_sublist _⟩

theorem trans {names names' : List (List UInt8)} {h h' h'' : Host (Libkrun κ)}
    (hd : AddsDisks names h h') (hd' : AddsDisks names' h' h'') :
    AddsDisks (names ++ names') h h'' := by
  obtain ⟨calls, hcalls, hnames⟩ := hd
  obtain ⟨calls', hcalls', hnames'⟩ := hd'
  refine ⟨calls ++ calls', by rw [hcalls', hcalls, List.append_assoc], ?_⟩
  rw [List.filterMap_append, List.map_append]
  exact hnames.append hnames'

/-- One call of the C library. -/
theorem of_calls {names : List (List UInt8)} {h h' : Host (Libkrun κ)} {c : KrunCall}
    (hcalls : h'.engine.calls = h.engine.calls ++ [c])
    (hc : ∀ blockId, blockId? c = some blockId → names = [blockId.bytes]) :
    AddsDisks names h h' := by
  refine ⟨[c], hcalls, ?_⟩
  cases hid : blockId? c with
  | none => simp [hid]
  | some blockId => simp [hid, hc blockId hid]

end AddsDisks

/-- The block id of a call names the disk that the engine call adds. -/
theorem blockId_of_krunCall {c : EngineCall} {k : KrunCall} (hk : krunCall c = .ok k) :
    ∀ blockId, blockId? k = some blockId →
      (diskIndex? c).toList.map diskName = [blockId.bytes] := by
  intro blockId hid
  cases k with
  | addDisk2 ctxId id path format readOnly =>
    obtain rfl := Option.some.inj hid
    obtain ⟨ctx, disk, index, rfl, hname⟩ := addDisk_of_krunCall hk
    rw [bytes_of_strToCstring hname]
    rfl
  | _ => cases hid

/-- An engine call adds the disk that it names at most. -/
theorem run_addsDisks (c : EngineCall) :
    Keeps (AddsDisks ((diskIndex? c).toList.map diskName)) ((LibkrunEngine.engine K).run c) := by
  intro h
  -- The unlink makes no call
  have hengine := unlinkFor_engine c h
  rcases libkrun_run_state K c h with hstate | ⟨k, h', hok, hk, hstate⟩
  · rw [hstate]
    exact ⟨[], by rw [hengine, List.append_nil], List.nil_sublist _⟩
  · rw [hok, EStateM.Result.state_ok] at hengine
    rw [hstate]
    apply AddsDisks.of_calls (c := k) _ (blockId_of_krunCall hk)
    rw [← hengine]
    rfl

/-- The place of the disk that a step of a launch adds. -/
def stepDisk? : LaunchStep → Option Nat
  | .engine c => diskIndex? c
  | _ => none

/-- The calls of the C library add disks under the names of the steps that are recorded. -/
def NamesDisks (w w' : World (Libkrun κ)) : Prop :=
  ∃ t, w'.trace = w.trace ++ t ∧
    AddsDisks (((t.map Prod.fst).filterMap stepDisk?).map diskName) w.host w'.host

theorem NamesDisks.refl (w : World (Libkrun κ)) : NamesDisks w w :=
  ⟨[], (List.append_nil _).symm, .refl _ _⟩

theorem NamesDisks.trans (w w' w'' : World (Libkrun κ)) (h : NamesDisks w w')
    (h' : NamesDisks w' w'') : NamesDisks w w'' := by
  obtain ⟨t, ht, hdisks⟩ := h
  obtain ⟨t', ht', hdisks'⟩ := h'
  refine ⟨t ++ t', by rw [ht', ht, List.append_assoc], ?_⟩
  rw [List.map_append, List.filterMap_append, List.map_append]
  exact hdisks.trans hdisks'

theorem launch_namesDisks {b : VmBuilder (VmEngine (Libkrun κ))}
    (hb : b.engine = LibkrunEngine.engine K) (env : Env) (spawner : BridgeSpawner) :
    Keeps NamesDisks (b.launchWithSpawner env spawner) := by
  refine launch_keeps .refl .trans (fun c w => ?_) ?_ ?_ env spawner
  · have hrun := run_addsDisks (K := K) c w.host
    have hnames : [LaunchStep.engine c].filterMap stepDisk? = (diskIndex? c).toList := by
      rw [List.filterMap_cons_toList, List.filterMap_nil, List.append_nil]
      rfl
    rw [← hb, ← hnames] at hrun
    rw [LaunchM.call_state]
    exact ⟨[(.engine c, _)], rfl, hrun⟩
  · intro w w' hengine htrace
    exact ⟨[], by rw [htrace, List.append_nil], [], by rw [hengine, List.append_nil],
      List.nil_sublist _⟩
  · intro w w' s o hs hengine htrace
    exact ⟨[(s, o)], htrace, [], by rw [hengine, List.append_nil], List.nil_sublist _⟩

/-- The disks of a plan are numbered. -/
theorem launchPlan_stepDisk? {E : Type} (b : VmBuilder E) (env : Env) (vcpus : VcpuCount)
    (memory : MemoryMib) (ctx : CtxId) :
    (launchPlan b env vcpus memory ctx).filterMap stepDisk? = List.range b.disks.length := by
  have hdisks : (b.disks.zipIdx.map fun p => EngineCall.addDisk ctx p.1 p.2).filterMap
      diskIndex? = List.range b.disks.length := by
    rw [List.filterMap_map, List.range_eq_range', ← List.zipIdx_map_snd 0 b.disks]
    exact congrFun List.filterMap_eq_map' _
  -- No other step adds a disk
  have hdevices : (b.virtiofsMounts.map (EngineCall.addVirtiofs ctx) ++
      b.vsockPorts.map (EngineCall.addVsockPort ctx)).filterMap diskIndex? = [] := by
    simp [List.filterMap_eq_nil_iff, diskIndex?]
  have hbridges : (bridgesPlan b env ctx).filterMap diskIndex? = [] := by
    simp [List.filterMap_eq_nil_iff, bridgesPlan, diskIndex?]
  have hoptions : (optionsPlan b ctx).filterMap diskIndex? = [] := by
    simp [List.filterMap_eq_nil_iff, optionsPlan, diskIndex?]
  have hstart : (startPlan b env ctx).filterMap stepDisk? = [] := by
    simp [List.filterMap_eq_nil_iff, startPlan, or_imp, forall_and, stepDisk?, diskIndex?]
  have hcalls : ∀ cs : List EngineCall,
      (cs.map LaunchStep.engine).filterMap stepDisk? = cs.filterMap diskIndex? :=
    fun cs => List.filterMap_map
  rw [launchPlan, List.filterMap_append, List.filterMap_cons_none rfl, List.filterMap_append,
    List.filterMap_append, hcalls, hcalls, hcalls, hbridges, hoptions, hstart, configurePlan,
    List.filterMap_cons_none rfl, List.filterMap_append, hdisks, hdevices]
  simp only [List.append_nil]

/-- The block ids of a launch are all different. -/
theorem blockIds_nodup {b : VmBuilder (VmEngine (Libkrun κ))}
    (hb : b.engine = LibkrunEngine.engine K) (env : Env) (spawner : BridgeSpawner)
    (w : World (Libkrun κ)) :
    ∃ calls, (b.launchWithSpawner env spawner w).state.host.engine.calls =
        w.host.engine.calls ++ calls ∧
      ((calls.filterMap blockId?).map CString.bytes).Nodup := by
  obtain ⟨t, ht, calls, hcalls, hnames⟩ := launch_namesDisks hb env spawner w
  refine ⟨calls, hcalls, hnames.nodup ?_⟩
  refine List.Nodup.map (fun i j => diskName_inj) ?_
  -- The steps taken are the first ones of the plan
  rcases launchWithSpawner_trace b env spawner w with htrace | ⟨vcpus, memory, t', ht', hstop⟩
  · have hnil : t = [] := by simpa [htrace] using ht
    rw [hnil]
    exact List.nodup_nil
  · obtain rfl : t' = t := List.append_cancel_left (ht'.symm.trans ht)
    apply (hstop.isPrefix.sublist.filterMap stepDisk?).nodup
    unfold afterCreateCtx
    cases b.engine.createCtx w.host with
    | error e host => exact List.nodup_nil
    | ok ctx host =>
      rw [List.filterMap_cons_toList, launchPlan_stepDisk?]
      exact List.nodup_range

end

/-- **The names of devices route unambiguously.** In a launch, every bridge is spawned with the host
    port of a request and a socket that was registered before, for the guest port of this
    request and no other; two requests have the same socket if and only if they name the same guest
    port; launches of different contexts share no socket; and libkrun is given a different block
    id for each disk of a launch. -/
theorem devices_routed {σ κ : Type} (K : Krun κ) (env : Env) (spawner : BridgeSpawner) :
    (∀ (b : VmBuilder (VmEngine σ)) (w : World σ) (t pre post) (config : BridgeConfig) (o),
      (b.launchWithSpawner env spawner w).state.trace = w.trace ++ t →
      t = pre ++ (.spawnBridge config, o) :: post →
      ∃ ctx host, b.engine.createCtx w.host = .ok ctx host ∧ ∃ br ∈ b.bridges,
        config = bridgeConfig env ctx br ∧
        (.engine (.addVsockPort ctx ⟨br.guestPort, config.socketPath⟩), none) ∈ pre ∧
        ∀ g o', (.engine (.addVsockPort ctx ⟨g, config.socketPath⟩), o') ∈ t →
          g = br.guestPort ∨ ⟨g, config.socketPath⟩ ∈ b.vsockPorts) ∧
    (∀ ctx (br br' : BridgeRequest),
      (bridgeConfig env ctx br).socketPath = (bridgeConfig env ctx br').socketPath ↔
        br.guestPort = br'.guestPort) ∧
    (∀ (env' : Env) (ctx ctx' : CtxId) (br br' : BridgeRequest), env'.tempDir = env.tempDir →
      ctx ≠ ctx' →
      (bridgeConfig env ctx br).socketPath ≠ (bridgeConfig env' ctx' br').socketPath) ∧
    ∀ (b : VmBuilder (VmEngine (Libkrun κ))) (w : World (Libkrun κ)),
      b.engine = LibkrunEngine.engine K →
      ∃ calls, (b.launchWithSpawner env spawner w).state.host.engine.calls =
          w.host.engine.calls ++ calls ∧
        ((calls.filterMap blockId?).map CString.bytes).Nodup := by
  refine ⟨fun b w t pre post config o ht hsplit => registered_before_spawned ht hsplit,
    fun ctx br br' => bridgeSocket_inj, fun env' ctx ctx' br br' htemp hctx => ?_,
    fun b w hb => blockIds_nodup hb env spawner w⟩
  have hworkdir : env'.workdir ctx' = env.workdir ctx' := congrArg (·.join ctx'.dirName) htemp
  simp only [bridgeConfig, hworkdir]
  exact bridgeSocket_ne_of_ctx hctx _ _

end Tateru.Spec
