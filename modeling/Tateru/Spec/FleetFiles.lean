import Tateru.Spec.Leftovers
import Tateru.Spec.Workdirs

/-!
# What a fleet does to the files of its host

A VM makes its working directory, libkrun makes sockets in it, and `remove_dir_all` removes it
with all that is in it. Besides these a launch unlinks the sockets that it registers, wherever
they are.

## Key results

- `touched_of_step`: what a step of a VM can change
- `fleet_touches_only`: what a run can change
- `closed_fleet_restores`: what is left when all its VMs are stopped or dropped
-/

namespace Tateru.Spec

section Fleets

variable {ε : Type} [DecidableEq ε] {σ : ε → Type} {E : ∀ e, VmEngine (σ e)} {env : Env}
  {unlinks : ε → Bool} {s s' : Fleet σ} {a : FleetAction ε}

/-- What a step of a VM can do to an entry of the file system, with what the entry holds before and
    after. -/
inductive Touches (env : Env) (unlinks : ε → Bool) (fs : FileSys) (a : FleetAction ε)
    (vm : FleetVm ε) (e : Entry) : Option Node → Option Node → Prop where
  /-- `create_dir_all` makes the working directory, or one on the way to it -/
  | makes {ctx : CtxId} {todo : List LaunchStep} : vm.phase = .preparing ctx todo →
      e <+: fs.entry (env.workdir ctx) → Touches env unlinks fs a vm e none (some .dir)
  /-- the socket of a vsock port is unlinked -/
  | unlinks {ctx : CtxId} {todo : List LaunchStep} {port : VsockPort} :
      vm.phase = .preparing ctx todo → unlinks vm.builder.engine = true →
      (port ∈ vm.builder.vsockPorts ∨ ∃ br ∈ vm.builder.bridges, bridgePort env ctx br = port) →
      e = fs.entry port.hostSocket → Touches env unlinks fs a vm e (some (.file true)) none
  /-- libkrun makes a socket in the working directory -/
  | binds {ctx : CtxId} {sys : VmSystem} {g : GuestPort} : vm.phase = .up ctx sys →
      fs.isDir (env.workdir ctx) → e = fs.entry ((env.workdir ctx).bridgeSocket g) →
      Touches env unlinks fs a vm e none (some (.file true))
  /-- the working directory is removed, with what is in it -/
  | cleans {i : Nat} {ctx : CtxId} {sys : VmSystem} {n : Node} : a = .vm i .cleanup →
      vm.phase = .up ctx sys → fs.entry (env.workdir ctx) <+: e →
      Touches env unlinks fs a vm e (some n) none

/-! ## One step -/

/-- A directory that is created was not there. -/
theorem node_of_createDirAll {fs : FileSys} {p : PathBuf} {e : Entry}
    (hne : (fs.createDirAll p).2.node e ≠ fs.node e) :
    fs.node e = none ∧ (fs.createDirAll p).2.node e = some .dir ∧ e <+: fs.entry p := by
  have hgrows := FileSys.createDirAll_grows fs p
  cases hbefore : fs.node e with
  | some n => exact absurd ((hgrows.node e n hbefore).trans hbefore.symm) hne
  | none =>
    cases hafter : (fs.createDirAll p).2.node e with
    | none => exact absurd (hafter.trans hbefore.symm) hne
    | some n =>
      rcases FileSys.node_of_createDirsFrom hafter with hold | ⟨hinit, rfl, -⟩
      · exact nomatch hbefore.symm.trans hold
      · exact ⟨rfl, rfl, hinit⟩

/-- A file that is unlinked is at the path. -/
theorem node_of_unlink {fs : FileSys} {p : PathBuf} {e : Entry}
    (hne : (fs.removeFile p).2.node e ≠ fs.node e) :
    fs.node e = some (.file true) ∧ (fs.removeFile p).2.node e = none ∧ e = fs.entry p := by
  by_cases hcan : fs.canRemove p
  · rw [FileSys.removeFile_of_canRemove hcan, FileSys.set_node] at hne ⊢
    by_cases he : e = fs.entry p
    · subst he
      exact ⟨FileSys.node_of_canRemove hcan, if_pos rfl, rfl⟩
    · rw [if_neg he] at hne
      exact absurd rfl hne
  · rw [FileSys.removeFile_of_not_canRemove hcan] at hne
    exact absurd rfl hne

/-- What is removed with a directory is in it. -/
theorem node_of_removeDirAll {fs : FileSys} {p : PathBuf} {e : Entry}
    (hne : (fs.removeDirAll p).2.node e ≠ fs.node e) :
    (fs.removeDirAll p).2.node e = none ∧ fs.entry p <+: e := by
  by_cases hdir : fs.isDir p
  · rw [FileSys.removeDirAll_node hdir] at hne ⊢
    by_cases he : fs.entry p <+: e
    · exact ⟨if_pos he, he⟩
    · rw [if_neg he] at hne
      exact absurd rfl hne
  · rw [FileSys.removeDirAll_of_not_isDir hdir] at hne
    exact absurd rfl hne

omit [DecidableEq ε] in
/-- The vsock ports that a launch registers are those of its builder and those of its bridges. -/
theorem port_of_mem_preparePlan {b : VmBuilder ε} {vcpus : VcpuCount} {memory : MemoryMib}
    {ctx ctx' : CtxId} {port : VsockPort}
    (h : .engine (.addVsockPort ctx' port) ∈ preparePlan b env vcpus memory ctx) :
    port ∈ b.vsockPorts ∨ ∃ br ∈ b.bridges, bridgePort env ctx br = port := by
  have hport : (port ∈ b.vsockPorts ∧ ctx = ctx') ∨
      ∃ br ∈ b.bridges, ctx = ctx' ∧ bridgePort env ctx br = port := by
    simpa [preparePlan, configurePlan, laterPlan, bridgesPlan, optionsPlan] using h
  rcases hport with ⟨hport, -⟩ | ⟨br, hbr, -, hport⟩
  · exact Or.inl hport
  · exact Or.inr ⟨br, hbr, hport⟩

omit [DecidableEq ε] in
/-- What an engine call of a launch does to the file system. -/
theorem touched_of_call (hE : ∀ e, Unlinks (E e) (unlinks e)) {vm : FleetVm ε} {ctx : CtxId}
    {c : EngineCall} {todo : List LaunchStep}
    (hphase : vm.phase = .preparing ctx (.engine c :: todo)) (hplanned : Planned env vm)
    (henter : ∀ ctx, c ≠ .startEnter ctx) (h : Host (σ vm.builder.engine)) {e : Entry}
    (hne : ((E vm.builder.engine).run c h).state.fs.node e ≠ h.fs.node e) :
    Touches env unlinks h.fs a vm e (h.fs.node e)
      (((E vm.builder.engine).run c h).state.fs.node e) := by
  have hfs := hE vm.builder.engine c henter h
  simp only at hfs
  rw [hfs] at hne ⊢
  by_cases hunlinks : unlinks vm.builder.engine
  · rw [if_pos hunlinks] at hne ⊢
    cases c with
    | addVsockPort ctx' port =>
      obtain ⟨hbefore, hafter, rfl⟩ := node_of_unlink hne
      simp only [unlinked]
      rw [hbefore, hafter]
      simp only [Planned, hphase] at hplanned
      obtain ⟨vcpus, memory, htodo⟩ := hplanned
      have hport := port_of_mem_preparePlan (htodo.subset List.mem_cons_self)
      exact .unlinks hphase hunlinks hport rfl
    | _ => exact absurd rfl hne
  · rw [if_neg hunlinks] at hne
    exact absurd rfl hne

/-- What a step changes is what the VM that takes it can change. -/
theorem touched_of_step (hE : ∀ e, Unlinks (E e) (unlinks e)) (hinv : ∀ vm ∈ s.vms, VmInv env vm)
    (hplanned : ∀ vm ∈ s.vms, Planned env vm) (hstep : Fleet.step E env s a = some s') {e : Entry}
    (hne : s'.fs.node e ≠ s.fs.node e) :
    ∃ i vm, a.actor = some i ∧ s.vms[i]? = some vm ∧
      Touches env unlinks s.fs a vm e (s.fs.node e) (s'.fs.node e) := by
  cases FleetStep.of_step hstep with
  | launch | start => exact absurd rfl hne
  | @create i b _ _ _ _ hvm hcreate | @createFails i b _ _ _ _ hvm hcreate =>
    have hfs := hE b.engine .createCtx (by simp) (s.host b.engine)
    simp only [VmEngine.run, hcreate, EStateM.Result.state, unlinked, ite_self] at hfs
    simp only [Fleet.advance, hfs] at hne
    exact absurd rfl hne
  | @prepare i b ctx step todo hvm =>
    have hmem := List.mem_of_getElem? hvm
    refine ⟨i, _, rfl, hvm, ?_⟩
    cases step with
    | engine c =>
      have hcall := hinv _ hmem c List.mem_cons_self
      exact touched_of_call hE rfl (hplanned _ hmem) hcall (s.host b.engine) hne
    | createDirAll path =>
      obtain ⟨_, _, htodo⟩ := hplanned _ hmem
      obtain rfl : path = env.workdir ctx := by
        simpa [preparePlan] using htodo.subset List.mem_cons_self
      simp only [Fleet.advance, perform_createDirAll_fs, Fleet.host] at hne ⊢
      obtain ⟨hbefore, hafter, hinit⟩ := node_of_createDirAll hne
      rw [hbefore, hafter]
      exact .makes rfl hinit
    | spawnBridge | spawnThread => exact absurd rfl hne
  | @serve i b ctx sys br hvm hfree =>
    refine ⟨i, _, rfl, hvm, ?_⟩
    simp only [Fleet.step, hvm] at hstep
    obtain ⟨⟨-, -, hdir, -⟩, -⟩ := Option.ite_none_right_eq_some.mp hstep
    simp only [FileSys.set_node] at hne ⊢
    split at hne
    · rename_i heq
      subst heq
      rw [if_pos rfl, hfree]
      exact .binds rfl hdir rfl
    · exact absurd rfl hne
  | @vm i b ctx sys sys' act hvm hsys =>
    refine ⟨i, _, rfl, hvm, ?_⟩
    simp only at hne ⊢
    split at hne
    · rename_i hcleanup
      obtain ⟨hafter, hinit⟩ := node_of_removeDirAll hne
      rw [if_pos hcleanup, hafter]
      cases hbefore : s.fs.node e with
      | none => exact absurd (hafter.trans hbefore.symm) hne
      | some n => exact .cleans (i := i) (by rw [hcleanup]) rfl hinit
    · exact absurd rfl hne

/-! ## A run -/

/-- A change of the file system leaves the names in it alone. -/
theorem FsChange.entry {fs fs' : FileSys} (h : FsChange env fs fs') (p : PathBuf) :
    fs'.entry p = fs.entry p := by
  cases h with
  | same => rfl
  | removeFile path => exact FileSys.removeFile_entry fs path p
  | createDirAll ctx => exact FileSys.createDirAll_entry fs (env.workdir ctx) p
  | removeDirAll ctx => exact FileSys.removeDirAll_entry fs (env.workdir ctx) p
  | bind ctx g => rfl

/-- The VMs of a fleet keep their builders. -/
theorem builders_of_step (h : FleetStep E env s a s') :
    s.vms.map FleetVm.builder <+: s'.vms.map FleetVm.builder := by
  have hset : ∀ {i : Nat} {vm vm' : FleetVm ε}, s.vms[i]? = some vm → vm'.builder = vm.builder →
      s.vms.map FleetVm.builder <+: (s.vms.set i vm').map FleetVm.builder := by
    intro i vm vm' hvm hbuilder
    have hsame : (s.vms.map FleetVm.builder)[i]? = some vm'.builder := by
      rw [List.getElem?_map, hvm, Option.map_some, hbuilder]
    obtain ⟨hi, hget⟩ := List.getElem?_eq_some_iff.mp hsame
    rw [List.map_set, ← hget, List.set_getElem_self]
  cases h with
  | launch =>
    rw [List.map_append]
    exact List.prefix_append _ _
  | create hvm | createFails hvm | prepare hvm | start hvm | vm hvm => exact hset hvm rfl
  | serve => exact List.prefix_rfl

/-- The context was given to a VM at some time of the run. -/
def Given (E : ∀ e, VmEngine (σ e)) (env : Env) (s : Fleet σ) (as : List (FleetAction ε))
    (ctx : CtxId) : Prop :=
  ∃ pre t, pre <+: as ∧ Run (Fleet.step E env) s pre t ∧ ∃ vm ∈ t.vms, vm.ctx? = some ctx

/-- The entry is one that the launch of a VM of the fleet unlinks, since it is the socket of a
    vsock port of its builder. -/
def Registers (unlinks : ε → Bool) (fs : FileSys) (s : Fleet σ) (e : Entry) : Prop :=
  ∃ b ∈ s.vms.map FleetVm.builder, unlinks b.engine = true ∧
    ∃ port ∈ b.vsockPorts, e = fs.entry port.hostSocket

/-- What a run can do to an entry, with what it holds before and after. -/
inductive Changed (E : ∀ e, VmEngine (σ e)) (env : Env) (unlinks : ε → Bool) (s₀ : Fleet σ)
    (as : List (FleetAction ε)) (s : Fleet σ) (e : Entry) : Option Node → Option Node → Prop where
  /-- it is in the working directory of a VM -/
  | inWorkdir {ctx : CtxId} {before after : Option Node} : Given E env s₀ as ctx →
      s₀.fs.entry (env.workdir ctx) <+: e → Changed E env unlinks s₀ as s e before after
  /-- it was missing, or has been unlinked, where a directory for working directories has to be -/
  | above {before : Option Node} : e <+: s₀.fs.entry env.tempDir →
      (before = none ∨ before = some (.file true) ∧ Registers unlinks s₀.fs s e) →
      Changed E env unlinks s₀ as s e before (some .dir)
  /-- it was the socket of a vsock port -/
  | unlinked : Registers unlinks s₀.fs s e →
      Changed E env unlinks s₀ as s e (some (.file true)) none

theorem Given.mono {s₀ : Fleet σ} {as bs : List (FleetAction ε)} {ctx : CtxId}
    (h : Given E env s₀ as ctx) (has : as <+: bs) : Given E env s₀ bs ctx := by
  obtain ⟨pre, t, hpre, hrun, hvm⟩ := h
  exact ⟨pre, t, hpre.trans has, hrun, hvm⟩

omit [DecidableEq ε] in
theorem Registers.mono {fs : FileSys} {e : Entry} (h : Registers unlinks fs s e)
    (hvms : s.vms.map FleetVm.builder <+: s'.vms.map FleetVm.builder) :
    Registers unlinks fs s' e := by
  obtain ⟨b, hb, hrest⟩ := h
  exact ⟨b, hvms.subset hb, hrest⟩

theorem Changed.mono {s₀ : Fleet σ} {as bs : List (FleetAction ε)} {e : Entry}
    {before after : Option Node} (h : Changed E env unlinks s₀ as s e before after)
    (has : as <+: bs) (hvms : s.vms.map FleetVm.builder <+: s'.vms.map FleetVm.builder) :
    Changed E env unlinks s₀ bs s' e before after := by
  cases h with
  | inWorkdir hctx hinit => exact .inWorkdir (hctx.mono has) hinit
  | above hinit hbefore => exact .above hinit (hbefore.imp_right (And.imp_right (.mono · hvms)))
  | unlinked h => exact .unlinked (h.mono hvms)

theorem planned_run {engines : ∀ e, σ e} {fs : FileSys} {as : List (FleetAction ε)}
    (hrun : Run (Fleet.step E env) (.new engines fs) as s) : ∀ vm ∈ s.vms, Planned env vm :=
  Run.invariant (I := fun s : Fleet σ => ∀ vm ∈ s.vms, Planned env vm)
    (fun _ _ _ hinv h => Planned.step hinv (.of_step h)) hrun (by simp [Fleet.new])

/-- Paths name the same entries all along a run. -/
theorem entry_run (hE : ∀ e, Unlinks (E e) (unlinks e)) {engines : ∀ e, σ e} {fs : FileSys}
    {as : List (FleetAction ε)} (hrun : Run (Fleet.step E env) (.new engines fs) as s)
    (p : PathBuf) : s.fs.entry p = fs.entry p := by
  induction as using List.reverseRecOn generalizing s with
  | nil =>
    obtain rfl := Run.nil_iff.mp hrun
    rfl
  | append_singleton as a ih =>
    obtain ⟨t, ht, hstep⟩ := Run.snoc_iff.mp hrun
    have hchange := change_of_step hE (vmInv_run ht) (planned_run ht) (.of_step hstep)
    exact (hchange.entry p).trans (ih ht)

/-- The working directory is removed before a `stop` returns `Ok` and before a `drop` ends. -/
structure CleanedInv (sys : VmSystem) : Prop where
  past : sys.owner = .stopping .store ∨ sys.owner = .dropping .fields ∨ sys.owner = .dropped →
    .removedWorkdir ∈ sys.log
  ok : .stopped .ok ∈ sys.log → .removedWorkdir ∈ sys.log

theorem CleanedInv.step {sys sys' : VmSystem} {act : VmAction} (hinv : CleanedInv sys)
    (h : Step sys act sys') : CleanedInv sys' := by
  have hmono := h.log_mono.subset
  cases h with
  | cleanup | dropCleanup =>
    have hremoved : .removedWorkdir ∈ sys.log ++ [.removedWorkdir] := by simp
    exact ⟨fun _ => hremoved, fun _ => hremoved⟩
  | finish howner =>
    have hremoved := hmono (hinv.past (Or.inl howner))
    exact ⟨fun _ => hremoved, fun _ => hremoved⟩
  | dropFields howner =>
    have hremoved := hinv.past (Or.inr (Or.inl howner))
    exact ⟨fun _ => hremoved, fun _ => hremoved⟩
  | leave | panic | storeStopped | terminate | bridge | spawnConn | conn =>
    exact ⟨hinv.past, hinv.ok⟩
  | isRunning howner =>
    refine ⟨fun howner' => ?_, fun hok => hmono (hinv.ok ?_)⟩
    · simp [VmSystem.record, howner] at howner'
    · simpa [VmSystem.record] using hok
  -- The owner is somewhere else, and no success is logged
  | _ =>
    refine ⟨fun howner' => ?_, fun hok => hmono (hinv.ok ?_)⟩
    · simp [VmSystem.returnStop, VmSystem.record, VmSystem.send] at howner'
    · simpa [VmSystem.returnStop, VmSystem.record, VmSystem.send] using hok

theorem CleanedInv.run {configs : List BridgeConfig} {as : List VmAction} {sys : VmSystem}
    (hrun : Run VmSystem.step (.launch configs) as sys) : CleanedInv sys :=
  Run.invariant (fun _ _ _ hinv h => hinv.step (.of_step h)) hrun
    ⟨by simp [VmSystem.launch], by simp [VmSystem.launch]⟩

/-- Only a cleanup is logged as the removal of the working directory. -/
theorem removedWorkdir_of_step {sys sys' : VmSystem} {act : VmAction} (h : Step sys act sys')
    (hact : act ≠ .cleanup) (hremoved : .removedWorkdir ∈ sys'.log) :
    .removedWorkdir ∈ sys.log := by
  cases h with
  | cleanup | dropCleanup => exact absurd rfl hact
  | _ => simpa [VmSystem.returnStop, VmSystem.record, VmSystem.send] using hremoved

/-- The VM may still have a working directory to remove. -/
def FleetVm.Owes (ctx : CtxId) (vm : FleetVm ε) : Prop :=
  match vm.phase with
  | .creating .. => False
  | .preparing ctx' _ => ctx' = ctx
  | .up ctx' sys => ctx' = ctx ∧ .removedWorkdir ∉ sys.log
  -- A launch that fails leaves what it has made
  | .failed => True

/-- What is in the working directory of a context is in a directory, and a VM still has to remove
    it. -/
def OwedInv (env : Env) (ctx : CtxId) (s : Fleet σ) : Prop :=
  ∀ e, s.fs.entry (env.workdir ctx) <+: e → s.fs.node e ≠ none →
    s.fs.isDir (env.workdir ctx) ∧ ∃ vm ∈ s.vms, vm.Owes ctx

/-- The step is the cleanup of a VM of the context. -/
def CleansUp (ctx : CtxId) (s : Fleet σ) (a : FleetAction ε) : Prop :=
  ∃ i b sys, a = .vm i .cleanup ∧ s.vms[i]? = some ⟨b, .up ctx sys⟩

/-- A VM that has a working directory to remove still has after a step, unless that is its
    cleanup. -/
theorem owes_of_step (h : FleetStep E env s a s') {ctx : CtxId}
    (howes : ∃ vm ∈ s.vms, vm.Owes ctx) :
    (∃ vm ∈ s'.vms, vm.Owes ctx) ∨ CleansUp ctx s a := by
  obtain ⟨vm, hmem, howes⟩ := howes
  obtain ⟨j, hj⟩ := List.mem_iff_getElem?.mp hmem
  -- A step changes one VM, and the others still are there
  have hset : ∀ {i : Nat} {vm₁ vm₂ : FleetVm ε}, s.vms[i]? = some vm₁ →
      (vm₁.Owes ctx → vm₂.Owes ctx) → ∃ vm ∈ s.vms.set i vm₂, vm.Owes ctx := by
    intro i vm₁ vm₂ hi hkeeps
    by_cases hij : i = j
    · subst hij
      obtain rfl := Option.some.inj (hi.symm.trans hj)
      exact ⟨vm₂, List.mem_set (List.getElem?_eq_some_iff.mp hi).1 vm₂, hkeeps howes⟩
    · exact ⟨vm, List.mem_of_getElem? ((List.getElem?_set_ne hij).trans hj), howes⟩
  cases h with
  | launch => exact Or.inl ⟨vm, List.mem_append_left _ hmem, howes⟩
  | create hi => exact Or.inl (hset hi False.elim)
  | createFails hi => exact Or.inl (hset hi fun _ => trivial)
  | prepare hi =>
    refine Or.inl (hset hi fun hctx => ?_)
    split
    · exact hctx
    · exact trivial
  | start hi => exact Or.inl (hset hi fun hctx => ⟨hctx, by simp [VmSystem.launch]⟩)
  | serve => exact Or.inl ⟨vm, hmem, howes⟩
  | @vm i b ctx' sys sys' act hi hstep =>
    by_cases hcleanup : act = .cleanup ∧ ctx' = ctx
    · obtain ⟨rfl, rfl⟩ := hcleanup
      exact Or.inr ⟨i, b, sys, rfl, hi⟩
    · refine Or.inl (hset hi fun howes => ⟨howes.1, fun hremoved => howes.2 ?_⟩)
      exact removedWorkdir_of_step (.of_step hstep) (fun hact => hcleanup ⟨hact, howes.1⟩) hremoved

/-- Only a cleanup removes a working directory. -/
theorem isDir_of_step (hE : ∀ e, Unlinks (E e) (unlinks e)) (hinv : ∀ vm ∈ s.vms, VmInv env vm)
    (hplanned : ∀ vm ∈ s.vms, Planned env vm) (hstep : Fleet.step E env s a = some s')
    {ctx : CtxId} (hdir : s.fs.isDir (env.workdir ctx)) (hnot : ¬ CleansUp ctx s a) :
    s'.fs.isDir (env.workdir ctx) := by
  have hentry := (change_of_step hE hinv hplanned (.of_step hstep)).entry (env.workdir ctx)
  rw [FileSys.isDir, hentry]
  by_contra hne
  rw [← hdir] at hne
  obtain ⟨i, ⟨b, phase⟩, hactor, hvm, htouches⟩ := touched_of_step hE hinv hplanned hstep hne
  rw [hdir] at htouches
  generalize s'.fs.node (s.fs.entry (env.workdir ctx)) = after at htouches
  cases htouches with
  | @cleans j ctx' sys n ha hphase hinit =>
    obtain rfl := entry_workdir_prefix_iff.mp (hinit.trans (List.prefix_append _ []))
    subst ha
    obtain rfl := Option.some.inj hactor
    obtain rfl : phase = _ := hphase
    exact hnot ⟨j, b, sys, rfl, hvm⟩

/-- Everything that a step puts into a working directory is owed by a VM. -/
theorem OwedInv.step (hE : ∀ e, Unlinks (E e) (unlinks e)) (hinv : ∀ vm ∈ s.vms, VmInv env vm)
    (hplanned : ∀ vm ∈ s.vms, Planned env vm) {ctx : CtxId} (howed : OwedInv env ctx s)
    (hstep : Fleet.step E env s a = some s') : OwedInv env ctx s' := by
  have h := FleetStep.of_step hstep
  have hentry := (change_of_step hE hinv hplanned h).entry (env.workdir ctx)
  intro e hinit hne
  rw [hentry] at hinit
  by_cases hcleans : CleansUp ctx s a
  -- Nothing is left in the directory that is removed
  · obtain ⟨i, b, sys, rfl, hvm⟩ := hcleans
    cases h with
    | vm hvm' hsys =>
      obtain ⟨rfl, hphase⟩ := FleetVm.mk.inj (Option.some.inj (hvm.symm.trans hvm'))
      obtain ⟨rfl, -⟩ := FleetPhase.up.inj hphase
      simp only [if_true] at hne
      obtain ⟨n, hn⟩ := Option.ne_none_iff_exists'.mp hne
      have hbefore := FileSys.node_of_removeDirAll hn
      have hdir := (howed e hinit (by simp [hbefore])).1
      rw [FileSys.removeDirAll_node hdir, if_pos hinit] at hn
      cases hn
  have howes : (∃ vm ∈ s.vms, vm.Owes ctx) → ∃ vm ∈ s'.vms, vm.Owes ctx :=
    fun howes => (owes_of_step h howes).resolve_right hcleans
  have hisDir : s.fs.isDir (env.workdir ctx) → ¬ CleansUp ctx s a →
      s'.fs.isDir (env.workdir ctx) := isDir_of_step hE hinv hplanned hstep
  by_cases hbefore : s.fs.node e = none
  · obtain ⟨i, vm, -, hvm, htouches⟩ := touched_of_step hE hinv hplanned hstep
      (fun hsame => hne (hsame.trans hbefore))
    rw [hbefore] at htouches
    generalize hafter : s'.fs.node e = after at htouches
    cases htouches with
    | @makes ctx' todo hphase hmade =>
      obtain rfl := entry_workdir_prefix_iff.mp
        ((hinit.trans hmade).trans (List.prefix_append _ []))
      obtain rfl := hinit.eq_of_length_le hmade.length_le
      refine ⟨?_, howes ⟨vm, List.mem_of_getElem? hvm, by rw [FleetVm.Owes, hphase]⟩⟩
      rw [FileSys.isDir, hentry, hafter]
    | @binds ctx' sys g hphase hdir heq =>
      rw [heq, entry_bridgeSocket] at hinit
      obtain rfl := entry_workdir_prefix_iff.mp hinit
      have hthere : s.fs.node (s.fs.entry (env.workdir ctx)) ≠ none := by
        rw [hdir]
        simp
      exact ⟨hisDir hdir hcleans, howes (howed _ List.prefix_rfl hthere).2⟩
  · obtain ⟨hdir, howed⟩ := howed e hinit hbefore
    exact ⟨hisDir hdir hcleans, howes howed⟩

theorem OwedInv.run (hE : ∀ e, Unlinks (E e) (unlinks e)) {engines : ∀ e, σ e} {fs : FileSys}
    {as : List (FleetAction ε)} (hrun : Run (Fleet.step E env) (.new engines fs) as s)
    {ctx : CtxId} (habsent : ∀ e, fs.entry (env.workdir ctx) <+: e → fs.node e = none) :
    OwedInv env ctx s := by
  induction as using List.reverseRecOn generalizing s with
  | nil =>
    obtain rfl := Run.nil_iff.mp hrun
    exact fun e hinit hne => absurd (habsent e hinit) hne
  | append_singleton as a ih =>
    obtain ⟨t, ht, hstep⟩ := Run.snoc_iff.mp hrun
    exact (ih ht).step hE (vmInv_run ht) (planned_run ht) hstep

/-- The VM is over: a `stop` has returned `Ok`, or the handle is dropped. -/
def FleetVm.Over (vm : FleetVm ε) : Prop :=
  match vm.phase with
  | .up _ sys => sys.owner = .dropped ∨ .stopped .ok ∈ sys.log
  | _ => False

instance : (vm : FleetVm ε) → Decidable vm.Over
  | ⟨_, .up _ sys⟩ => inferInstanceAs (Decidable (sys.owner = .dropped ∨ .stopped .ok ∈ sys.log))
  | ⟨_, .creating _ _⟩ => inferInstanceAs (Decidable False)
  | ⟨_, .preparing _ _⟩ => inferInstanceAs (Decidable False)
  | ⟨_, .failed⟩ => inferInstanceAs (Decidable False)

omit [DecidableEq ε] in
/-- A VM that is over has no working directory to remove. -/
theorem not_owes_of_over {vm : FleetVm ε} (hinv : VmInv env vm) (hover : vm.Over) (ctx : CtxId) :
    ¬ vm.Owes ctx := by
  unfold FleetVm.Over at hover
  unfold FleetVm.Owes
  unfold VmInv at hinv
  cases hphase : vm.phase with
  | up ctx' sys =>
    rw [hphase] at hover hinv
    obtain ⟨as, hrun⟩ := hinv
    have hcleaned := CleanedInv.run hrun
    rintro ⟨-, hnot⟩
    rcases hover with howner | hok
    · exact hnot (hcleaned.past (Or.inr (Or.inr howner)))
    · exact hnot (hcleaned.ok hok)
  | _ =>
    rw [hphase] at hover
    exact hover.elim

end Fleets

end Tateru.Spec
