import Tateru.Spec.LaunchSimulates
import Tateru.Spec.Leftovers

/-!
# Restarting after a crash

The registration of a socket unlinks its path first. So a launch on a host where an earlier process
was killed goes the way of a launch on a host where the working directory is absent, if libkrun
looks for nothing but a file at the path of the socket that it is given.

## Key results

- `libkrun_simulates`: an engine call on a stale host
- `watched_finds_nothing`: libkrun is never given the path of a file for a socket
- `restart_like_clean_start`: the launch on what was left
-/

namespace Tateru.Spec

open EStateM (Keeps Simulates)

/-! ## What libkrun sees -/

/-- The path of the socket that a call passes. -/
def socketPath? : KrunCall → Option PathBuf
  | .addVsockPort2 _ _ filepath _ => some ⟨filepath.bytes⟩
  | _ => none

/-- The file systems are alike, as far as the call looks: whether there is a file at the path of
    the socket that it passes. -/
structure SameView (c : KrunCall) (fs fs' : FileSys) : Prop where
  resolution : fs'.resolution = fs.resolution
  denied : fs'.denied = fs.denied
  socket : ∀ path ∈ socketPath? c, fs'.pathExists path = fs.pathExists path

/-- Of the file system, what libkrun answers only depends on whether there is a file at the path
    of a socket, and so does what it writes before it enters a VM. It has a state of its own, and
    does not change how paths are resolved, or what the operating system refuses. -/
structure SeesSockets {κ : Type} (K : Krun κ) : Prop where
  ret : ∀ {c lib fs fs'}, SameView c fs fs' → (K c ⟨lib, fs'⟩).1 = (K c ⟨lib, fs⟩).1
  lib : ∀ {c lib fs fs'}, SameView c fs fs' →
    (K c ⟨lib, fs'⟩).2.engine = (K c ⟨lib, fs⟩).2.engine
  node : ∀ {c lib fs fs'}, (∀ id, c ≠ .startEnter id) → SameView c fs fs' → ∀ e,
    (K c ⟨lib, fs'⟩).2.fs.node e = (K c ⟨lib, fs⟩).2.fs.node e ∨
      (K c ⟨lib, fs'⟩).2.fs.node e = fs'.node e ∧ (K c ⟨lib, fs⟩).2.fs.node e = fs.node e
  resolution : ∀ {c h}, (∀ id, c ≠ .startEnter id) → (K c h).2.fs.resolution = h.fs.resolution
  denied : ∀ {c h}, (∀ id, c ≠ .startEnter id) → (K c h).2.fs.denied = h.fs.denied

section

variable {κ : Type} {K : Krun κ}

/-- After an unlink there is no file at the path. -/
theorem pathExists_of_unlinkStale {p : PathBuf} {h h' : Host (Libkrun κ)}
    (hunlink : Ffi.unlinkStale p h = .ok () h') : h'.fs.pathExists p = false := by
  rcases unlinkStale_cases p h with ⟨-, hmissing, hok⟩ | ⟨-, hok⟩ | ⟨-, e, herror⟩
  · obtain ⟨-, rfl⟩ := EStateM.Result.ok.inj (hok.symm.trans hunlink)
    exact FileSys.pathExists_of_isMissing hmissing
  · obtain ⟨-, rfl⟩ := EStateM.Result.ok.inj (hok.symm.trans hunlink)
    exact FileSys.pathExists_set_none h.fs p
  · exact nomatch herror.symm.trans hunlink

/-- After the unlink of an engine call there is no file at the path of the socket that it passes. -/
theorem pathExists_of_unlinkFor {c : EngineCall} {k : KrunCall} {h h' : Host (Libkrun κ)}
    (hunlink : unlinkFor c h = .ok () h') (hk : krunCall c = .ok k) :
    ∀ path ∈ socketPath? k, h'.fs.pathExists path = false := by
  intro path hsocket
  cases k with
  | addVsockPort2 ctxId guestPort filepath listen =>
    obtain ⟨ctx, port, rfl, hpath⟩ := addVsockPort_of_krunCall hk
    obtain rfl : ⟨filepath.bytes⟩ = path := Option.some.inj hsocket
    rw [bytes_of_pathToCstring hpath]
    exact pathExists_of_unlinkStale hunlink
  | _ => cases hsocket

/-! ## The engine on a stale host -/

/-- The host after a crash, next to one on which the working directory of `ctx` is absent. -/
structure StaleHost (env : Env) (ctx : CtxId) (h h' : Host (Libkrun κ)) : Prop where
  engine : h'.engine = h.engine
  fs : Stale env ctx h.fs h'.fs

variable {env : Env} {ctx : CtxId}

/-- What neither calls libkrun nor unlinks does not look at the host. -/
theorem ofExcept_simulates {R : Host (Libkrun κ) → Host (Libkrun κ) → Prop} {α : Type}
    (x : Except TateruError α) :
    Simulates R R (ofExcept x : EngineM (Libkrun κ) α) (ofExcept x) := by
  intro h h' hrel
  cases x with
  | ok a => exact ⟨rfl, hrel⟩
  | error e => exact ⟨rfl, hrel⟩

/-- A call that sees the same has the same answer, and does the same to libkrun. -/
theorem krun_of_sameView (hK : SeesSockets K) {c : KrunCall} {h h' : Host (Libkrun κ)}
    (hengine : h'.engine = h.engine) (hview : SameView c h.fs h'.fs) :
    (Ffi.krun K c h').outcome = (Ffi.krun K c h).outcome ∧
      (Ffi.krun K c h').state.engine = (Ffi.krun K c h).state.engine := by
  obtain ⟨engine, fs⟩ := h
  obtain ⟨engine', fs'⟩ := h'
  obtain rfl : engine' = engine := hengine
  constructor
  · exact congrArg Except.ok (hK.ret hview)
  · exact congrArg (fun lib => (⟨lib, engine'.calls ++ [c]⟩ : Libkrun κ)) (hK.lib hview)

/-- Before the VM is entered, it does the same to the file system as well. -/
theorem krun_simulates (hK : SeesSockets K) {c : KrunCall} (henter : ∀ id, c ≠ .startEnter id) :
    Simulates (fun h h' => StaleHost env ctx h h' ∧ SameView c h.fs h'.fs) (StaleHost env ctx)
      (Ffi.krun K c) (Ffi.krun K c) := by
  intro h h' ⟨hstale, hview⟩
  obtain ⟨hout, hengine⟩ := krun_of_sameView hK hstale.engine hview
  refine ⟨hout, hengine, ?_⟩
  obtain ⟨engine, fs⟩ := h
  obtain ⟨engine', fs'⟩ := h'
  obtain rfl : engine' = engine := hstale.engine
  exact hstale.fs.change (hK.resolution henter) (hK.resolution henter) (hK.denied henter)
    (hK.denied henter) (hK.node henter hview)

theorem unlinkStale_simulates (ctx' : CtxId) (g : GuestPort) :
    Simulates (StaleHost (κ := κ) env ctx) (StaleHost env ctx)
      (Ffi.unlinkStale ((env.workdir ctx').bridgeSocket g))
      (Ffi.unlinkStale ((env.workdir ctx').bridgeSocket g)) := by
  intro h h' hstale
  obtain ⟨hfs, hresult⟩ := hstale.fs.removeFile ctx' g
  unfold Ffi.unlinkStale
  rcases hr : h.fs.removeFile ((env.workdir ctx').bridgeSocket g) with ⟨r, fs⟩
  rcases hr' : h'.fs.removeFile ((env.workdir ctx').bridgeSocket g) with ⟨r', fs'⟩
  rw [hr, hr'] at hfs hresult
  rcases hresult with hsame | ⟨hok, e, herror, hkind⟩
  · obtain rfl : r' = r := hsame
    cases r' with
    | ok u => exact ⟨rfl, hstale.engine, hfs⟩
    | error e =>
      dsimp only
      split
      · exact ⟨rfl, hstale.engine, hfs⟩
      · exact ⟨rfl, hstale.engine, hfs⟩
  -- Next to the file that was left there is none, which is no error
  · obtain rfl : r' = .ok () := hok
    obtain rfl : r = .error e := herror
    dsimp only
    rw [if_pos hkind]
    exact ⟨rfl, hstale.engine, hfs⟩

/-- The unlink of an engine call, if the socket that it registers is that of a working directory. -/
theorem unlinkFor_simulates {c : EngineCall}
    (hsocket : ∀ ctx' port, c = .addVsockPort ctx' port →
      ∃ ctx'' g, port.hostSocket = (env.workdir ctx'').bridgeSocket g) :
    Simulates (StaleHost (κ := κ) env ctx) (StaleHost env ctx) (unlinkFor c) (unlinkFor c) := by
  cases c with
  | addVsockPort ctx' port =>
    obtain ⟨ctx'', g, hpath⟩ := hsocket ctx' port rfl
    rw [unlinkFor, hpath]
    exact unlinkStale_simulates ctx'' g
  | _ => exact .pure ()

/-- Every engine call before the VM is entered goes the same way, if the socket that it registers
    is that of a working directory. -/
theorem libkrun_simulates (hK : SeesSockets K) {c : EngineCall}
    (henter : ∀ ctx, c ≠ .startEnter ctx)
    (hsocket : ∀ ctx' port, c = .addVsockPort ctx' port →
      ∃ ctx'' g, port.hostSocket = (env.workdir ctx'').bridgeSocket g) :
    Simulates (StaleHost env ctx) (StaleHost env ctx) ((LibkrunEngine.engine K).run c)
      ((LibkrunEngine.engine K).run c) := by
  rw [libkrun_run_eq]
  intro h h' hstale
  cases hr : unlinkFor c h with
  | error e u =>
    obtain ⟨u', hr', hstale'⟩ := (unlinkFor_simulates hsocket).exists_error hstale hr
    rw [EStateM.bind_error hr, EStateM.bind_error hr']
    exact ⟨rfl, hstale'⟩
  | ok v u =>
    obtain ⟨u', hr', hstale'⟩ := (unlinkFor_simulates hsocket).exists_ok hstale hr
    rw [EStateM.bind_ok hr, EStateM.bind_ok hr']
    cases hk : krunCall c with
    | error e => exact ⟨rfl, hstale'⟩
    | ok k =>
      have hother := ne_startEnter_of_krunCall hk henter
      have hview : SameView k u.fs u'.fs := by
        refine ⟨hstale'.fs.resolution, hstale'.fs.denied, ?_⟩
        -- Both unlinks have succeeded, so there is no file for either call
        intro path hpath
        rw [pathExists_of_unlinkFor hr hk path hpath, pathExists_of_unlinkFor hr' hk path hpath]
      have hcall : Simulates _ (StaleHost env ctx) (Ffi.krun K k) _ := krun_simulates hK hother
      exact (hcall.bind fun ret => ofExcept_simulates _) u u' ⟨hstale', hview⟩

/-- Entering the VM is the last call; what it does to the file system is left open. -/
theorem startEnter_simulates (hK : SeesSockets K) (ctx' : CtxId) :
    Simulates (StaleHost env ctx) (fun h h' => h'.engine = h.engine)
      ((LibkrunEngine.engine K).run (.startEnter ctx'))
      ((LibkrunEngine.engine K).run (.startEnter ctx')) := by
  have hkrun : Simulates (StaleHost env ctx) (fun h h' => h'.engine = h.engine)
      (Ffi.krun K (.startEnter ctx'.raw)) (Ffi.krun K (.startEnter ctx'.raw)) := by
    intro h h' hstale
    apply krun_of_sameView hK hstale.engine
    exact ⟨hstale.fs.resolution, hstale.fs.denied, by simp [socketPath?]⟩
  exact hkrun.bind fun ret h h' hsame => ⟨rfl, hsame⟩

/-! ## The launch on a stale host -/

section Launch

variable {b : VmBuilder (VmEngine (Libkrun κ))}

/-- The launch of a builder without raw vsock ports goes the same way. -/
theorem launchWithSpawner_simulates (hK : SeesSockets K)
    (hengine : b.engine = LibkrunEngine.engine K) (hraw : b.vsockPorts = [])
    (spawner : BridgeSpawner) :
    Simulates (Beside (StaleHost env ctx)) (Beside (StaleHost env ctx))
      (b.launchWithSpawner env spawner) (b.launchWithSpawner env spawner) := by
  apply launch_simulates
  · rw [hengine]
    exact libkrun_simulates hK (by simp) (by simp)
  · intro vcpus memory ctx' c hc
    rw [hengine]
    apply libkrun_simulates hK
    · rintro ctx'' rfl
      simp [launchPlan, configurePlan, bridgesPlan, optionsPlan, startPlan] at hc
    -- The ports of a plan are those of its bridges
    · rintro ctx'' port rfl
      obtain ⟨br, -, -, rfl⟩ : ∃ br ∈ b.bridges, ctx' = ctx'' ∧ bridgePort env ctx' br = port := by
        simpa [launchPlan, configurePlan, bridgesPlan, optionsPlan, startPlan, hraw] using hc
      exact ⟨ctx', br.guestPort, rfl⟩
  · intro ctx' h h' hstale
    obtain ⟨hresult, hfs⟩ := hstale.fs.createDirAll ctx'
    exact ⟨hresult, ⟨hstale.engine, hfs⟩⟩

/-- The calls that are made once the VM thread has entered the VM are the same as well. -/
theorem launchAndEnter_engine (hK : SeesSockets K) (hengine : b.engine = LibkrunEngine.engine K)
    (hraw : b.vsockPorts = []) (spawner : BridgeSpawner) {w w' : World (Libkrun κ)}
    (h : Beside (StaleHost env ctx) w w') :
    (b.launchAndEnter env spawner w').state.host.engine =
      (b.launchAndEnter env spawner w).state.host.engine := by
  have hlaunch : Simulates _ (Beside (StaleHost env ctx)) (b.launchWithSpawner env spawner) _ :=
    launchWithSpawner_simulates hK hengine hraw spawner
  unfold VmBuilder.launchAndEnter
  cases hr : b.launchWithSpawner env spawner w with
  | error e u =>
    obtain ⟨u', hr', hstale⟩ := hlaunch.exists_error h hr
    rw [EStateM.bind_error hr, EStateM.bind_error hr']
    exact hstale.host.engine
  | ok handle u =>
    obtain ⟨u', hr', hstale⟩ := hlaunch.exists_ok h hr
    rw [EStateM.bind_ok hr, EStateM.bind_ok hr']
    cases handle.vmThread with
    | none => exact hstale.host.engine
    | some t =>
      have henter : Simulates (Beside (StaleHost env ctx))
          (Beside fun h h' => h'.engine = h.engine)
          (LaunchM.call (LibkrunEngine.engine K) (.startEnter t.ctx)) _ :=
        call_simulates (startEnter_simulates hK t.ctx)
      rw [← hengine] at henter
      simpa [VmThread.run] using (henter u u' hstale).2.host

end Launch

/-! ## The sockets that libkrun is given -/

/-- libkrun, with a note for every socket that it is given: the path, and whether there was a file
    at the moment of the call. -/
def watched (K : Krun κ) : Krun (κ × List (PathBuf × Bool)) := fun c h =>
  let (ret, h') := K c ⟨h.engine.1, h.fs⟩
  (ret, ⟨(h'.engine, h.engine.2 ++
    (socketPath? c).toList.map fun path => (path, h.fs.pathExists path)), h'.fs⟩)

/-- Calls have been made, and a note for each socket among them says that there was no file. -/
def FindsNothing (engine engine' : Libkrun (κ × List (PathBuf × Bool))) : Prop :=
  ∃ calls, engine'.calls = engine.calls ++ calls ∧
    engine'.lib.2 = engine.lib.2 ++ (calls.filterMap socketPath?).map (·, false)

namespace FindsNothing

theorem refl (engine : Libkrun (κ × List (PathBuf × Bool))) : FindsNothing engine engine :=
  ⟨[], by simp, by simp⟩

theorem trans {engine engine' engine'' : Libkrun (κ × List (PathBuf × Bool))}
    (h : FindsNothing engine engine') (h' : FindsNothing engine' engine'') :
    FindsNothing engine engine'' := by
  obtain ⟨calls, hcalls, hnotes⟩ := h
  obtain ⟨calls', hcalls', hnotes'⟩ := h'
  refine ⟨calls ++ calls', ?_, ?_⟩
  · rw [hcalls', hcalls, List.append_assoc]
  · rw [hnotes', hnotes, List.filterMap_append, List.map_append, List.append_assoc]

/-- A call notes that there is no file at the path of its socket, if there is none. -/
theorem of_krun {c : KrunCall} {h : Host (Libkrun (κ × List (PathBuf × Bool)))}
    (hfree : ∀ path ∈ socketPath? c, h.fs.pathExists path = false) :
    FindsNothing h.engine (Ffi.krun (watched K) c h).state.engine := by
  refine ⟨[c], rfl, ?_⟩
  show h.engine.lib.2 ++ (socketPath? c).toList.map _ = _
  cases hsocket : socketPath? c with
  | none => simp [hsocket]
  | some path => simp [hsocket, hfree path hsocket]

/-- An engine call finds no file: its unlink comes first. -/
theorem run (c : EngineCall) :
    Keeps (fun h h' => FindsNothing h.engine h'.engine)
      ((LibkrunEngine.engine (watched K)).run c) := by
  intro h
  have hengine := unlinkFor_engine c h
  rcases libkrun_run_state (watched K) c h with hstate | ⟨k, h', hok, hk, hstate⟩
  · rw [hstate, hengine]
    exact .refl _
  · rw [hok, EStateM.Result.state_ok] at hengine
    rw [hstate, ← hengine]
    exact of_krun (pathExists_of_unlinkFor hok hk)

end FindsNothing

/-- In every launch, there is no file at the path of a socket when libkrun is given it. -/
theorem watched_finds_nothing {b : VmBuilder (VmEngine (Libkrun (κ × List (PathBuf × Bool))))}
    (hengine : b.engine = LibkrunEngine.engine (watched K)) (env : Env) (spawner : BridgeSpawner) :
    Keeps (fun w w' => FindsNothing w.host.engine w'.host.engine)
      (b.launchWithSpawner env spawner) := by
  refine launch_keeps (fun w => .refl _) (fun _ _ _ => .trans) ?call ?same ?record env spawner
  case call =>
    intro c w
    show FindsNothing w.host.engine (LaunchM.call b.engine c w).state.host.engine
    rw [LaunchM.call_state, hengine]
    exact FindsNothing.run c w.host
  -- Everything else leaves the engine alone
  case same =>
    intro w w' hsame _
    rw [hsame]
    exact .refl _
  case record =>
    intro w w' s o _ hsame _
    rw [hsame]
    exact .refl _

/-! ## The restart -/

/-- The world, but for the working directory of `ctx`, which is absent. -/
def cleanStart {σ : Type} (env : Env) (ctx : CtxId) (w : World σ) : World σ :=
  { w with host := { w.host with fs := withoutWorkdir env ctx w.host.fs } }

theorem beside_cleanStart {env : Env} {ctx : CtxId} {w : World (Libkrun κ)}
    (hleft : Leftover env ctx w.host.fs) :
    Beside (StaleHost env ctx) (cleanStart env ctx w) w where
  host := ⟨rfl, hleft.stale⟩
  rest := rfl

end

/-- Whatever the processes of a host do, and wherever they are killed, they leave nothing, or a
    directory with sockets in it, at a working directory. With that, every launch of a builder
    without raw vsock ports comes to the same outcome as on a clean start, after the same calls
    with the same arguments, also once its VM thread has entered the VM. And whenever libkrun is
    given the path of a socket, there is no file. -/
theorem restart_like_clean_start {κ : Type} {K : Krun κ} (hK : SeesSockets K) (env : Env)
    (ctx : CtxId) :
    (∀ (ε : Type) [DecidableEq ε] (σ : ε → Type) (E : ∀ e, VmEngine (σ e)) (unlinks : ε → Bool)
        (engines : ∀ e, σ e) (fs : FileSys) (as : List (FleetAction ε)) (s : Fleet σ),
      (∀ e, Unlinks (E e) (unlinks e)) → Leftover env ctx fs →
        Run (Fleet.step E env) (.new engines fs) as s → Leftover env ctx s.fs) ∧
    (∀ (b : VmBuilder (VmEngine (Libkrun κ))) (spawner : BridgeSpawner) (w : World (Libkrun κ)),
      b.engine = LibkrunEngine.engine K → b.vsockPorts = [] → Leftover env ctx w.host.fs →
        (b.launchWithSpawner env spawner w).outcome =
            (b.launchWithSpawner env spawner (cleanStart env ctx w)).outcome ∧
          (b.launchWithSpawner env spawner w).state.host.engine.calls =
            (b.launchWithSpawner env spawner (cleanStart env ctx w)).state.host.engine.calls ∧
          (b.launchAndEnter env spawner w).state.host.engine.calls =
            (b.launchAndEnter env spawner (cleanStart env ctx w)).state.host.engine.calls) ∧
    ∀ (b : VmBuilder (VmEngine (Libkrun (κ × List (PathBuf × Bool))))) (spawner : BridgeSpawner)
        (w : World (Libkrun (κ × List (PathBuf × Bool)))),
      b.engine = LibkrunEngine.engine (watched K) →
        FindsNothing w.host.engine (b.launchWithSpawner env spawner w).state.host.engine := by
  refine ⟨?left, ?launch, ?free⟩
  case left =>
    intro ε _ σ E unlinks engines fs as s hE hbefore hrun
    exact Leftover.run hE hrun hbefore
  case launch =>
    intro b spawner w hengine hraw hleft
    have hbeside := beside_cleanStart hleft
    obtain ⟨hout, hstate⟩ := launchWithSpawner_simulates hK hengine hraw spawner _ _ hbeside
    have hentered := launchAndEnter_engine hK hengine hraw spawner hbeside
    exact ⟨hout, congrArg Libkrun.calls hstate.host.engine, congrArg Libkrun.calls hentered⟩
  case free =>
    intro b spawner w hengine
    exact watched_finds_nothing hengine env spawner w

/-- A libkrun that hands out the context ids from 0, and does not make a socket where there is a
    file. -/
def refusingKrun : Krun UInt32
  | .createCtx, h => (h.engine.toInt32, { h with engine := h.engine + 1 })
  | .getShutdownEventfd _, h => (3, h)
  | .addVsockPort2 _ _ filepath _, h => (if h.fs.pathExists ⟨filepath.bytes⟩ then -17 else 0, h)
  | _, h => (0, h)

theorem refusingKrun_fs (c : KrunCall) (h : Host UInt32) : (refusingKrun c h).2.fs = h.fs := by
  cases c <;> rfl

theorem refusingKrun_seesSockets : SeesSockets refusingKrun where
  ret {c lib fs fs'} h := by
    cases c with
    | addVsockPort2 _ _ filepath _ =>
      simp only [refusingKrun, h.socket ⟨filepath.bytes⟩ rfl]
    | _ => rfl
  lib {c lib fs fs'} _ := by cases c <;> rfl
  node {c lib fs fs'} _ _ e := by
    rw [refusingKrun_fs, refusingKrun_fs]
    exact Or.inr ⟨rfl, rfl⟩
  resolution _ := by rw [refusingKrun_fs]
  denied _ := by rw [refusingKrun_fs]

/-- A process that is killed while its VM runs leaves the socket of the guest port 22. The next
    one asks for the guest port 22 twice, and its VM is launched as on a clean start. -/
theorem restart_like_clean_start_killed :
    let E : Unit → VmEngine (Libkrun UInt32) := fun _ => LibkrunEngine.engine refusingKrun
    let env : Env := ⟨.ofString "/tmp", none⟩
    let fs := FileSys.ofDirs [[(PathBuf.ofString "tmp").bytes]]
    let disk : DiskConfig := ⟨.ofString "/vm.raw", .raw, false⟩
    let killed : VmBuilder Unit :=
      { VmBuilder.new () with
        vcpus := some ⟨1⟩, memory := some ⟨1024⟩, disks := [disk], bridges := [⟨31122, ⟨22⟩⟩] }
    let as : List (FleetAction Unit) := .launch killed :: List.replicate 7 (.prepare 0) ++
      [.vm 0 .spawnBridge, .vm 0 (.spawnThread true), .serve 0 ⟨31122, ⟨22⟩⟩]
    let next : VmBuilder (VmEngine (Libkrun UInt32)) :=
      { VmBuilder.new (LibkrunEngine.engine refusingKrun) with
        vcpus := some ⟨1⟩, memory := some ⟨1024⟩, disks := [disk]
        bridges := [⟨31122, ⟨22⟩⟩, ⟨31180, ⟨80⟩⟩, ⟨31123, ⟨22⟩⟩] }
    ∃ s : Fleet fun _ : Unit => Libkrun UInt32,
      Run (Fleet.step E env) (.new (fun _ => ⟨0, []⟩) fs) as s ∧
      s.fs.pathExists ((env.workdir ⟨0⟩).bridgeSocket ⟨22⟩) = true ∧
      let w : World (Libkrun UInt32) := .new ⟨⟨0, []⟩, s.fs⟩
      let launch := next.launchWithSpawner env tokioBridgeSpawner
      (launch w).error? = none ∧
      (launch w).outcome = (launch (cleanStart env ⟨0⟩ w)).outcome ∧
      (launch w).state.host.engine.calls =
        (launch (cleanStart env ⟨0⟩ w)).state.host.engine.calls := by
  intro E env fs disk killed as next
  have hrun := Run.get (Fleet.step E env) (.new (fun _ => ⟨0, []⟩) fs) as (by decide +kernel)
  obtain ⟨hleft, hlaunch, -⟩ := restart_like_clean_start refusingKrun_seesSockets env ⟨0⟩
  have hE : ∀ e, Unlinks (E e) true :=
    fun e => libkrun_unlinks fun k h _ => refusingKrun_fs k h
  have hbefore : Leftover env ⟨0⟩ fs := by
    apply Leftover.of_absent
    intro e he
    have hne : e ∉ [[(PathBuf.ofString "tmp").bytes]] := by
      intro hmem
      obtain rfl := List.mem_singleton.mp hmem
      exact absurd he.length_le (by decide +kernel)
    exact if_neg hne
  refine ⟨_, hrun, by decide +kernel, by decide +kernel, ?_⟩
  have hafter := hleft Unit _ E (fun _ => true) _ fs as _ hE hbefore hrun
  obtain ⟨hout, hcalls, -⟩ := hlaunch next tokioBridgeSpawner (.new ⟨⟨0, []⟩, _⟩) rfl rfl hafter
  exact ⟨hout, hcalls⟩

end Tateru.Spec
