import Tateru.Spec.EngineFs
import Tateru.Spec.LaunchPlan
import Tateru.Spec.Lifecycle

/-!
# Many VMs on one host

Any number of VMs, launched on any number of engines, that share the file system of the host.
Every engine hands out its own context ids; an engine may be of another process. A launch
makes the calls of its builder one at a time, so that everything else may happen between
them, and then the VM goes on as a `VmSystem`.

## Key results

- `prepare_eq_launchCtx`: what the steps of a launch do to the host is what `launchCtx` does
- `FleetStep.of_step`: every step is one of the transitions of `FleetStep`
- `vmInv_run`: every launched VM of a fleet has taken the steps of a VM
-/

namespace Tateru.Spec

/-! ## The steps of a launch before its handle -/

section Prepare

variable {E σ : Type}

/-- The steps of a launch from the configuration of the VM to the shutdown eventfd. -/
def preparePlan (b : VmBuilder E) (env : Env) (vcpus : VcpuCount) (memory : MemoryMib)
    (ctx : CtxId) : List LaunchStep :=
  (configurePlan b ctx vcpus memory).map .engine ++
    (.createDirAll (env.workdir ctx) :: (laterPlan b env ctx).map .engine)

/-- Take steps of a launch up to the first one that fails, and say whether none did. -/
def performAll (E : VmEngine σ) (h : Host σ) : List LaunchStep → Bool × Host σ
  | [] => (true, h)
  | s :: steps =>
    match perform E h s with
    | (true, h') => performAll E h' steps
    | (false, h') => (false, h')

theorem performAll_cons (E : VmEngine σ) (h : Host σ) (s : LaunchStep) (steps : List LaunchStep) :
    performAll E h (s :: steps) =
      if (perform E h s).1 then performAll E (perform E h s).2 steps
      else (false, (perform E h s).2) := by
  rw [performAll]
  rcases perform E h s with ⟨_ | _, h'⟩ <;> rfl

theorem performAll_append (E : VmEngine σ) (h : Host σ) (p q : List LaunchStep) :
    performAll E h (p ++ q) =
      if (performAll E h p).1 then performAll E (performAll E h p).2 q
      else (false, (performAll E h p).2) := by
  induction p generalizing h with
  | nil => rfl
  | cons s p ih =>
    rw [List.cons_append, performAll_cons, performAll_cons, ih]
    split <;> rfl

/-- Engine calls are made as `runAll` makes them. -/
theorem performAll_engine (E : VmEngine σ) (h : Host σ) (cs : List EngineCall) :
    performAll E h (cs.map .engine) = ((runAll E cs h).error?.isNone, (runAll E cs h).state) := by
  induction cs generalizing h with
  | nil => rfl
  | cons c cs ih =>
    rw [List.map_cons, performAll_cons, runAll_cons]
    cases hr : E.run c h with
    | ok r h' =>
      rw [EStateM.bind_ok hr, ← ih]
      simp only [perform, hr, EStateM.Result.error?, EStateM.Result.state, Option.isNone_none,
        if_true]
    | error e h' =>
      rw [EStateM.bind_error hr]
      simp only [perform, hr, EStateM.Result.error?, EStateM.Result.state, Option.isNone_some,
        Bool.false_eq_true, if_false]

/-! ### What the launch of the code does -/

/-- The part `m` of a launch does to the host what the steps `p` do, and fails when they do. -/
private def Performs {α : Type} (E : VmEngine σ) (m : LaunchM σ α) (p : List LaunchStep) : Prop :=
  ∀ w, performAll E w.host p = ((m w).error?.isNone, (m w).state.host)

/-- What comes after `m` takes the steps after those of `m`. -/
private theorem Performs.bind_host {α β : Type} {E : VmEngine σ} {m : LaunchM σ α}
    {f : α → LaunchM σ β} {p q : List LaunchStep} (hm : Performs E m p)
    (hf : ∀ a w, ((f a) w).state.host = (performAll E w.host q).2) (w : World σ) :
    ((m >>= f) w).state.host = (performAll E w.host (p ++ q)).2 := by
  rw [performAll_append, hm w]
  cases hr : m w with
  | ok a w' =>
    rw [EStateM.bind_ok hr]
    exact hf a w'
  | error e w' =>
    -- The launch stops here, and so do the steps
    rw [EStateM.bind_error hr]
    rfl

private theorem callAll_performs (E : VmEngine σ) (cs : List EngineCall) :
    Performs E (callAll E cs) (cs.map .engine) := by
  intro w
  rw [performAll_engine]
  obtain ⟨t, ht⟩ := callAll_run E cs w
  rw [ht]
  cases runAll E cs w.host <;> rfl

private theorem createDirAll_performs (E : VmEngine σ) (path : PathBuf) :
    Performs E (LaunchM.createDirAll path) [.createDirAll path] := by
  intro w
  simp only [performAll, perform, LaunchM.createDirAll]
  rcases w.host.fs.createDirAll path with ⟨_ | _, fs⟩ <;> rfl

/-- The two worlds have the same host. -/
private def SameHost (w w' : World σ) : Prop :=
  w'.host = w.host

private theorem start_host (b : VmBuilder (VmEngine σ)) (env : Env) (spawner : BridgeSpawner)
    (ctx : CtxId) (configs : List BridgeConfig) (w : World σ) :
    (b.start env spawner ctx configs w).state.host =
      (performAll b.engine w.host [.engine (.getShutdownEventfd ctx)]).2 := by
  have hcall : Performs b.engine (LaunchM.call b.engine (.getShutdownEventfd ctx))
      [.engine (.getShutdownEventfd ctx)] := by
    intro w
    simp only [performAll, perform, LaunchM.call]
    cases b.engine.run (.getShutdownEventfd ctx) w.host <;> rfl
  have hrefl : ∀ w : World σ, SameHost w w := fun _ => rfl
  have htrans : ∀ u v w : World σ, SameHost u v → SameHost v w → SameHost u w :=
    fun _ _ _ h h' => Eq.trans h' h
  have hspawn : ∀ rx config, EStateM.Keeps SameHost
      (LaunchM.spawnBridge (σ := σ) spawner rx config) := fun _ _ _ => rfl
  have hthread : ∀ shutdown, EStateM.Keeps SameHost
      (LaunchM.spawnThread (σ := σ) env shutdown ctx) := by
    intro shutdown w
    unfold LaunchM.spawnThread
    split <;> rfl
  -- After the shutdown eventfd nothing touches the host
  refine hcall.bind_host (q := []) (fun fd w => ?_) w
  refine EStateM.Keeps.bind (R := SameHost) htrans ?_ (fun shutdown => ?_) w
  · exact fun w => hrefl w
  refine EStateM.Keeps.bind (R := SameHost) htrans ?_ fun rx => ?_
  · exact fun w => rfl
  refine .bind htrans (.forM hrefl htrans _ fun config => hspawn rx config) fun _ => ?_
  exact .bind htrans (hthread shutdown) fun _ => .pure hrefl _

/-- What the steps of a launch do to the host is what the launch of the context does. -/
theorem prepare_eq_launchCtx (b : VmBuilder (VmEngine σ)) (env : Env) (spawner : BridgeSpawner)
    (vcpus : VcpuCount) (memory : MemoryMib) (ctx : CtxId) (w : World σ) :
    (b.launchCtx env spawner vcpus memory ctx w).state.host =
      (performAll b.engine w.host (preparePlan b env vcpus memory ctx)).2 := by
  rw [launchCtx_eq_callAll, preparePlan, laterPlan, List.map_append, List.map_append]
  -- The parts of the launch in turn, each with the steps it stands for
  refine (callAll_performs _ _).bind_host (fun _ w => ?_) w
  refine (createDirAll_performs _ _).bind_host (p := [_]) (fun _ w => ?_) w
  refine (callAll_performs _ _).bind_host (fun _ w => ?_) w
  refine (callAll_performs _ _).bind_host (fun _ w => ?_) w
  exact start_host b env spawner ctx _ w

end Prepare

/-! ## A fleet -/

/-- How far a VM of the fleet has come: about to create its context, with steps of its launch
    left, launched, or not launched because a step failed. -/
inductive FleetPhase where
  | creating (vcpus : VcpuCount) (memory : MemoryMib)
  | preparing (ctx : CtxId) (todo : List LaunchStep)
  | up (ctx : CtxId) (system : VmSystem)
  | failed
deriving DecidableEq, Repr

/-- A VM of the fleet. The engine of its builder is the name of an engine of the fleet. -/
structure FleetVm (ε : Type) where
  builder : VmBuilder ε
  phase : FleetPhase

/-- The context of a VM, while it has one. -/
def FleetVm.ctx? {ε : Type} (vm : FleetVm ε) : Option CtxId :=
  match vm.phase with
  | .preparing ctx _ | .up ctx _ => some ctx
  | _ => none

/-- A host with engines, named by `ε`, and VMs. -/
structure Fleet {ε : Type} (σ : ε → Type) where
  engines : ∀ e, σ e
  fs : FileSys
  vms : List (FleetVm ε)

inductive FleetAction (ε : Type) where
  /-- the launch of a builder begins, and the builder is valid -/
  | launch (b : VmBuilder ε)
  /-- the launch of a VM takes its next step -/
  | prepare (i : Nat)
  /-- the engine of a VM makes the socket of a bridge -/
  | serve (i : Nat) (br : BridgeRequest)
  /-- a launched VM takes a step -/
  | vm (i : Nat) (a : VmAction)

/-- The VM that the action is for. -/
def FleetAction.actor {ε : Type} : FleetAction ε → Option Nat
  | .launch _ => none
  | .prepare i | .serve i _ | .vm i _ => some i

namespace Fleet

variable {ε : Type} [DecidableEq ε] {σ : ε → Type}

/-- A fleet without VMs. -/
def new (engines : ∀ e, σ e) (fs : FileSys) : Fleet σ :=
  ⟨engines, fs, []⟩

/-- The host as an engine sees it. -/
def host (s : Fleet σ) (e : ε) : Host (σ e) :=
  ⟨s.engines e, s.fs⟩

/-- The fleet after an engine has changed the host, with a VM in a new phase. -/
def advance (s : Fleet σ) (e : ε) (h : Host (σ e)) (i : Nat) (vm : FleetVm ε)
    (phase : FleetPhase) : Fleet σ where
  engines := Function.update s.engines e h.engine
  fs := h.fs
  vms := s.vms.set i { vm with phase }

/-- One step of a fleet. -/
def step (E : ∀ e, VmEngine (σ e)) (env : Env) (s : Fleet σ) : FleetAction ε → Option (Fleet σ)
  | .launch b =>
    -- What `validate` asks for
    match b.vcpus, b.memory, b.disks with
    | some vcpus, some memory, _ :: _ =>
      some { s with vms := s.vms ++ [⟨b, .creating vcpus memory⟩] }
    | _, _, _ => none
  | .prepare i =>
    match s.vms[i]? with
    | none => none
    | some vm =>
      let e := vm.builder.engine
      match vm.phase with
      | .creating vcpus memory =>
        match (E e).createCtx (s.host e) with
        | .ok ctx h =>
          some (s.advance e h i vm (.preparing ctx (preparePlan vm.builder env vcpus memory ctx)))
        | .error _ h => some (s.advance e h i vm .failed)
      | .preparing ctx (step :: todo) =>
        match perform (E e) (s.host e) step with
        | (true, h) => some (s.advance e h i vm (.preparing ctx todo))
        | (false, h) => some (s.advance e h i vm .failed)
      -- The launch has its eventfd; the VM goes on from the channel it makes next
      | .preparing ctx [] =>
        some (s.advance e (s.host e) i vm
          (.up ctx (.launch (vm.builder.bridges.map (bridgeConfig env ctx)))))
      | _ => none
  | .serve i br =>
    match s.vms[i]? with
    | some ⟨b, .up ctx sys⟩ =>
      -- Only the engine of a VM that was entered listens, in a directory that is there
      let socket := (env.workdir ctx).bridgeSocket br.guestPort
      if sys.thread = .entered ∧ br ∈ b.bridges ∧ s.fs.isDir (env.workdir ctx) ∧
          s.fs.node (s.fs.entry socket) = none then
        some { s with fs := s.fs.set (s.fs.entry socket) (some (.file true)) }
      else none
    | _ => none
  | .vm i a =>
    match s.vms[i]? with
    | some ⟨b, .up ctx sys⟩ =>
      (sys.step a).map fun sys' => { s with
        -- Of all steps of a VM only the cleanup touches the file system
        fs := if a = .cleanup then (s.fs.removeDirAll (env.workdir ctx)).2 else s.fs
        vms := s.vms.set i ⟨b, .up ctx sys'⟩ }
    | _ => none

end Fleet

/-! ## What one step of a fleet can do -/

section Steps

variable {ε : Type} [DecidableEq ε] {σ : ε → Type} {E : ∀ e, VmEngine (σ e)} {env : Env}
  {s s' : Fleet σ} {a : FleetAction ε}

/-- The transitions of a fleet. -/
inductive FleetStep (E : ∀ e, VmEngine (σ e)) (env : Env) (s : Fleet σ) :
    FleetAction ε → Fleet σ → Prop where
  | launch {b : VmBuilder ε} {vcpus : VcpuCount} {memory : MemoryMib} :
      FleetStep E env s (.launch b) { s with vms := s.vms ++ [⟨b, .creating vcpus memory⟩] }
  | create {i : Nat} {b : VmBuilder ε} {vcpus : VcpuCount} {memory : MemoryMib} {ctx : CtxId}
      {h : Host (σ b.engine)} (hvm : s.vms[i]? = some ⟨b, .creating vcpus memory⟩)
      (hcreate : (E b.engine).createCtx (s.host b.engine) = .ok ctx h) :
      FleetStep E env s (.prepare i)
        (s.advance b.engine h i ⟨b, .creating vcpus memory⟩
          (.preparing ctx (preparePlan b env vcpus memory ctx)))
  | createFails {i : Nat} {b : VmBuilder ε} {vcpus : VcpuCount} {memory : MemoryMib}
      {e : TateruError} {h : Host (σ b.engine)}
      (hvm : s.vms[i]? = some ⟨b, .creating vcpus memory⟩)
      (hcreate : (E b.engine).createCtx (s.host b.engine) = .error e h) :
      FleetStep E env s (.prepare i)
        (s.advance b.engine h i ⟨b, .creating vcpus memory⟩ .failed)
  | prepare {i : Nat} {b : VmBuilder ε} {ctx : CtxId} {step : LaunchStep}
      {todo : List LaunchStep} (hvm : s.vms[i]? = some ⟨b, .preparing ctx (step :: todo)⟩) :
      FleetStep E env s (.prepare i)
        (s.advance b.engine (perform (E b.engine) (s.host b.engine) step).2 i
          ⟨b, .preparing ctx (step :: todo)⟩
          (if (perform (E b.engine) (s.host b.engine) step).1 then .preparing ctx todo
            else .failed))
  | start {i : Nat} {b : VmBuilder ε} {ctx : CtxId}
      (hvm : s.vms[i]? = some ⟨b, .preparing ctx []⟩) :
      FleetStep E env s (.prepare i)
        (s.advance b.engine (s.host b.engine) i ⟨b, .preparing ctx []⟩
          (.up ctx (.launch (b.bridges.map (bridgeConfig env ctx)))))
  | serve {i : Nat} {b : VmBuilder ε} {ctx : CtxId} {sys : VmSystem} {br : BridgeRequest}
      (hvm : s.vms[i]? = some ⟨b, .up ctx sys⟩)
      (hfree : s.fs.node (s.fs.entry ((env.workdir ctx).bridgeSocket br.guestPort)) = none) :
      FleetStep E env s (.serve i br) { s with
        fs := s.fs.set (s.fs.entry ((env.workdir ctx).bridgeSocket br.guestPort))
          (some (.file true)) }
  | vm {i : Nat} {b : VmBuilder ε} {ctx : CtxId} {sys sys' : VmSystem} {a : VmAction}
      (hvm : s.vms[i]? = some ⟨b, .up ctx sys⟩) (hstep : sys.step a = some sys') :
      FleetStep E env s (.vm i a) { s with
        fs := if a = .cleanup then (s.fs.removeDirAll (env.workdir ctx)).2 else s.fs
        vms := s.vms.set i ⟨b, .up ctx sys'⟩ }

theorem FleetStep.of_step (h : Fleet.step E env s a = some s') : FleetStep E env s a s' := by
  cases a with
  | launch b =>
    simp only [Fleet.step] at h
    split at h
    · exact Option.some.inj h ▸ .launch
    · exact nomatch h
  | prepare i =>
    simp only [Fleet.step] at h
    split at h
    · exact nomatch h
    · rename_i vm hvm
      obtain ⟨b, phase⟩ := vm
      cases phase with
      | creating vcpus memory =>
        cases hcreate : (E b.engine).createCtx (s.host b.engine) with
        | ok ctx h' =>
          simp only [hcreate] at h
          exact Option.some.inj h ▸ .create hvm hcreate
        | error e h' =>
          simp only [hcreate] at h
          exact Option.some.inj h ▸ .createFails hvm hcreate
      | preparing ctx todo =>
        cases todo with
        | nil => exact Option.some.inj h ▸ .start hvm
        | cons step todo =>
          have hs : FleetStep E env s (.prepare i) _ := .prepare hvm
          -- One transition covers both outcomes of the step
          rcases hperform : perform (E b.engine) (s.host b.engine) step with ⟨_ | _, h'⟩
          · simp only [hperform, Bool.false_eq_true, if_false] at h hs
            exact Option.some.inj h ▸ hs
          · simp only [hperform, if_true] at h hs
            exact Option.some.inj h ▸ hs
      | up | failed => exact nomatch h
  | serve i br =>
    simp only [Fleet.step] at h
    split at h
    · rename_i hvm
      obtain ⟨⟨-, -, -, hfree⟩, h⟩ := Option.ite_none_right_eq_some.mp h
      exact Option.some.inj h ▸ .serve hvm hfree
    · exact nomatch h
  | vm i a =>
    simp only [Fleet.step] at h
    split at h
    · rename_i hvm
      obtain ⟨sys', hstep, rfl⟩ := Option.map_eq_some_iff.mp h
      exact .vm hvm hstep
    · exact nomatch h

/-! ## The VMs of a fleet -/

/-- What holds of every VM when its launch begins, and is kept by what can happen to it, holds of
    all VMs after a step. -/
theorem forall_vms_of_step {P : FleetVm ε → Prop}
    (hcreating : ∀ b vcpus memory, P ⟨b, .creating vcpus memory⟩) (hfailed : ∀ b, P ⟨b, .failed⟩)
    (hcreate : ∀ b vcpus memory ctx,
      P ⟨b, .preparing ctx (preparePlan b env vcpus memory ctx)⟩)
    (hprepare : ∀ b ctx step todo, P ⟨b, .preparing ctx (step :: todo)⟩ →
      P ⟨b, .preparing ctx todo⟩)
    (hstart : ∀ b ctx, P ⟨b, .up ctx (.launch (b.bridges.map (bridgeConfig env ctx)))⟩)
    (hvm : ∀ b ctx sys a sys', P ⟨b, .up ctx sys⟩ → sys.step a = some sys' →
      P ⟨b, .up ctx sys'⟩)
    (hinv : ∀ vm ∈ s.vms, P vm) (h : FleetStep E env s a s') : ∀ vm ∈ s'.vms, P vm := by
  -- All steps but a launch change one VM
  have hset : ∀ {i : Nat} {vm' : FleetVm ε}, P vm' → ∀ vm ∈ s.vms.set i vm', P vm := by
    intro i vm' hvm' vm hmem
    rcases List.mem_or_eq_of_mem_set hmem with hmem | rfl
    · exact hinv vm hmem
    · exact hvm'
  cases h with
  | launch =>
    intro vm hmem
    rcases List.mem_append.mp hmem with hmem | hmem
    · exact hinv vm hmem
    · rw [List.mem_singleton.mp hmem]
      exact hcreating _ _ _
  | create => exact hset (hcreate _ _ _ _)
  | createFails => exact hset (hfailed _)
  | prepare hi =>
    apply hset
    split
    · exact hprepare _ _ _ _ (hinv _ (List.mem_of_getElem? hi))
    · exact hfailed _
  | start => exact hset (hstart _ _)
  | serve => exact hinv
  | vm hi hstep => exact hset (hvm _ _ _ _ _ (hinv _ (List.mem_of_getElem? hi)) hstep)

/-- What the VMs of a fleet have in common: a launch only has engine calls left that do not
    enter the VM, and a launched VM has taken the steps of a VM. -/
def VmInv (env : Env) (vm : FleetVm ε) : Prop :=
  match vm.phase with
  | .preparing _ todo => ∀ c, .engine c ∈ todo → ∀ ctx, c ≠ .startEnter ctx
  | .up ctx sys =>
    ∃ as, Run VmSystem.step (.launch (vm.builder.bridges.map (bridgeConfig env ctx))) as sys
  | _ => True

/-- No step of a launch before its handle enters the VM. -/
private theorem preparePlan_no_enter {E : Type} {b : VmBuilder E} {vcpus : VcpuCount}
    {memory : MemoryMib} {ctx : CtxId} {c : EngineCall}
    (hc : .engine c ∈ preparePlan b env vcpus memory ctx) (ctx' : CtxId) :
    c ≠ .startEnter ctx' := by
  rintro rfl
  simp [preparePlan, configurePlan, laterPlan, bridgesPlan, optionsPlan] at hc

/-- A VM after a step is one from before, or a new one, or has moved on. -/
theorem VmInv.step (hinv : ∀ vm ∈ s.vms, VmInv env vm) (h : FleetStep E env s a s') :
    ∀ vm ∈ s'.vms, VmInv env vm := by
  refine forall_vms_of_step (fun _ _ _ => trivial) (fun _ => trivial) ?create ?prepare
    (fun _ _ => ⟨[], Run.nil_iff.mpr rfl⟩) ?vm hinv h
  case create => exact fun _ _ _ _ _ hc => preparePlan_no_enter hc
  case prepare => exact fun _ _ _ _ hbefore c hc => hbefore c (List.mem_cons_of_mem _ hc)
  case vm =>
    intro b ctx sys a sys' ⟨as, has⟩ hstep
    exact ⟨as ++ [a], Run.snoc_iff.mpr ⟨sys, has, hstep⟩⟩

/-- Every VM of a fleet has taken the steps of a VM. -/
theorem vmInv_run {engines : ∀ e, σ e} {fs : FileSys} {as : List (FleetAction ε)}
    (hrun : Run (Fleet.step E env) (.new engines fs) as s) : ∀ vm ∈ s.vms, VmInv env vm :=
  Run.invariant (I := fun s : Fleet σ => ∀ vm ∈ s.vms, VmInv env vm)
    (fun _ _ _ hinv h => VmInv.step hinv (.of_step h)) hrun fun _ h => nomatch h

end Steps

end Tateru.Spec
