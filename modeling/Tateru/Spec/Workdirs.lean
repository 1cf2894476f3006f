import Tateru.Spec.Fleet
import Tateru.Spec.SocketPaths

/-!
# Working directories of live VMs

A working directory is named by the context id of its VM, and context ids are only unique
within one engine. So a VM that is stopped or dropped removes the directory of every other
VM with its context id, and a VM that is launched unlinks the sockets of such VMs.

## Key results

- `unharmed_iff`: which removals harm a VM
- `live_vms_keep_workdirs_iff`: no step of a run harms another live VM exactly when every
  removal spares the live VMs
- `stop_removes_other_workdir`: two engines hand out the same id, and one VM is stopped
-/

namespace Tateru.Spec

/-! ## Removals -/

/-- What a step removes from the file system: a file, or the working directory of a context. -/
inductive Removal where
  | file (path : PathBuf)
  | workdir (ctx : CtxId)
deriving DecidableEq, Repr

/-- The file system after a removal. -/
def Removal.apply (env : Env) (fs : FileSys) : Removal → FileSys
  | .file path => (fs.removeFile path).2
  | .workdir ctx => (fs.removeDirAll (env.workdir ctx)).2

/-- The removal neither unlinks a socket of the bridges of the context `ctx` nor removes its
    working directory. -/
def Removal.Spares (env : Env) (fs : FileSys) (bridges : List BridgeRequest) (ctx : CtxId) :
    Removal → Prop
  | .file path => fs.canRemove path → ∀ br ∈ bridges,
      fs.entry path ≠ fs.entry ((env.workdir ctx).bridgeSocket br.guestPort)
  | .workdir ctx' => ctx' = ctx → ¬ fs.isDir (env.workdir ctx)

instance (env : Env) (fs : FileSys) (bridges : List BridgeRequest) (ctx : CtxId) :
    (r : Removal) → Decidable (r.Spares env fs bridges ctx)
  | .file path => inferInstanceAs (Decidable (fs.canRemove path → ∀ br ∈ bridges,
      fs.entry path ≠ fs.entry ((env.workdir ctx).bridgeSocket br.guestPort)))
  | .workdir ctx' => inferInstanceAs (Decidable (ctx' = ctx → ¬ fs.isDir (env.workdir ctx)))

/-- The working directory of a context and the sockets of its bridges that are in `fs` are in
    `fs'`. -/
structure Unharmed (env : Env) (bridges : List BridgeRequest) (ctx : CtxId) (fs fs' : FileSys) :
    Prop where
  workdir : fs.isDir (env.workdir ctx) → fs'.isDir (env.workdir ctx)
  sockets : ∀ br ∈ bridges, fs.isFile ((env.workdir ctx).bridgeSocket br.guestPort) →
    fs'.isFile ((env.workdir ctx).bridgeSocket br.guestPort)

variable {env : Env} {fs fs' fs'' : FileSys} {bridges : List BridgeRequest} {ctx ctx' : CtxId}

theorem Unharmed.trans (h : Unharmed env bridges ctx fs fs')
    (h' : Unharmed env bridges ctx fs' fs'') : Unharmed env bridges ctx fs fs'' :=
  ⟨fun hdir => h'.workdir (h.workdir hdir),
    fun br hbr hfile => h'.sockets br hbr (h.sockets br hbr hfile)⟩

/-- Nothing that only adds to the file system does harm. -/
theorem Unharmed.of_grows (h : FileSys.Grows fs fs') : Unharmed env bridges ctx fs fs' where
  workdir hdir := by
    rw [FileSys.isDir, h.entry]
    exact h.node _ _ hdir
  sockets br _ := by
    rintro ⟨removable, hfile⟩
    exact ⟨removable, by rw [h.entry]; exact h.node _ _ hfile⟩

/-- The directories of different contexts are not inside each other. -/
theorem workdir_not_prefix (env : Env) (fs : FileSys) (hne : ctx' ≠ ctx) (names : List Name) :
    ¬ fs.entry (env.workdir ctx') <+: fs.entry (env.workdir ctx) ++ names :=
  fun h => hne (entry_workdir_prefix_iff.mp h)

/-- A file that is unlinked harms a VM unless it is none of its sockets. -/
theorem unharmed_file_iff (path : PathBuf) :
    Unharmed env bridges ctx fs ((Removal.file path).apply env fs) ↔
      (Removal.file path).Spares env fs bridges ctx := by
  by_cases hcan : fs.canRemove path
  · simp only [Removal.apply, Removal.Spares, FileSys.removeFile_of_canRemove hcan]
    constructor
    · intro h _ br hbr heq
      -- The path is a socket of the VM, and it was a file: it is gone
      obtain ⟨removable, hfile⟩ :=
        h.sockets br hbr ⟨true, heq ▸ FileSys.node_of_canRemove hcan⟩
      rw [FileSys.set_entry, FileSys.set_node, if_pos heq.symm] at hfile
      cases hfile
    · intro hspares
      constructor
      · intro hdir
        rw [FileSys.isDir, FileSys.set_entry, FileSys.set_node, if_neg]
        · exact hdir
        -- What was unlinked is a file, so it is not the directory
        · intro heq
          rw [FileSys.isDir, heq, FileSys.node_of_canRemove hcan] at hdir
          cases hdir
      · rintro br hbr ⟨removable, hfile⟩
        refine ⟨removable, ?_⟩
        rw [FileSys.set_entry, FileSys.set_node, if_neg (hspares hcan br hbr).symm]
        exact hfile
  · simp only [Removal.apply, Removal.Spares, FileSys.removeFile_of_not_canRemove hcan]
    exact ⟨fun _ h => absurd h hcan, fun _ => .of_grows (.refl fs)⟩

/-- A directory that is removed harms a VM unless it is the one of another context. -/
theorem unharmed_workdir_iff (ctx' : CtxId) :
    Unharmed env bridges ctx fs ((Removal.workdir ctx').apply env fs) ↔
      (Removal.workdir ctx').Spares env fs bridges ctx := by
  by_cases hdir' : fs.isDir (env.workdir ctx')
  · have hnode := FileSys.removeDirAll_node hdir'
    simp only [Removal.apply, Removal.Spares]
    constructor
    · rintro h rfl _
      -- The directory of the VM itself was removed
      have hgone := h.workdir hdir'
      rw [FileSys.isDir, FileSys.removeDirAll_entry, hnode, if_pos List.prefix_rfl] at hgone
      cases hgone
    · intro hspares
      -- The directory of another context: nothing of this one is below it
      have hne : ctx' ≠ ctx := fun heq => hspares heq (heq ▸ hdir')
      constructor
      · intro hdir
        rw [FileSys.isDir, FileSys.removeDirAll_entry, hnode, if_neg]
        · exact hdir
        · have hnot := workdir_not_prefix env fs hne []
          rwa [List.append_nil] at hnot
      · rintro br hbr ⟨removable, hfile⟩
        refine ⟨removable, ?_⟩
        rw [FileSys.removeDirAll_entry, hnode, if_neg]
        · exact hfile
        · rw [entry_bridgeSocket]
          exact workdir_not_prefix env fs hne _
  · simp only [Removal.apply, Removal.Spares, FileSys.removeDirAll_of_not_isDir hdir']
    exact ⟨fun _ heq => heq ▸ hdir', fun _ => .of_grows (.refl fs)⟩

/-- A removal harms a VM unless it spares its directory and its sockets. -/
theorem unharmed_iff (r : Removal) :
    Unharmed env bridges ctx fs (r.apply env fs) ↔ r.Spares env fs bridges ctx := by
  cases r with
  | file path => exact unharmed_file_iff path
  | workdir ctx' => exact unharmed_workdir_iff ctx'

/-! ## Live VMs -/

/-- The owner still has the handle, and is not dropping it. -/
def holdsHandle : Owner → Bool
  | .idle | .stopping _ => true
  | _ => false

theorem isLaunched_of_holdsHandle {owner : Owner} (h : holdsHandle owner = true) :
    IsLaunched owner := by
  cases owner with
  | launching | failed => exact nomatch h
  | _ => exact trivial

/-- A handle that is given up, or whose flag is cleared, does not come back to life. -/
theorem over_of_step {s s' : VmSystem} {a : VmAction} (h : Step s a s')
    (hlaunched : IsLaunched s.owner) (hover : ¬ (holdsHandle s.owner ∧ s.running)) :
    ¬ (holdsHandle s'.owner ∧ s'.running) := by
  rintro ⟨hholds, hrunning⟩
  -- The flag is never set again
  have hset : s.running = true := by
    by_contra hcleared
    exact nomatch hrunning.symm.trans (h.running (Bool.not_eq_true _ ▸ hcleared))
  have hnot : holdsHandle s.owner ≠ true := fun hholds => hover ⟨hholds, hset⟩
  cases h with
  | spawnBridge howner | spawnThread howner | spawnThreadFails howner =>
    rw [howner] at hlaunched
    exact hlaunched.elim
  | stop howner | stopNotRunning howner | trigger howner | triggerFails howner | signal howner
  | take howner | takeNothing howner | join howner | joinPanicked howner | cleanup howner
  | finish howner =>
    rw [howner] at hnot
    exact hnot rfl
  | dropTrigger | dropSignal | dropCleanup | drop | dropStopped | dropFields => exact nomatch hholds
  | _ => exact hnot hholds

section Fleets

variable {ε : Type} {σ : ε → Type}

/-- The bridges and the context of a VM whose handle is alive and running. -/
def FleetVm.live (vm : FleetVm ε) : Option (List BridgeRequest × CtxId) :=
  match vm.phase with
  | .up ctx sys =>
    if holdsHandle sys.owner ∧ sys.running then some (vm.builder.bridges, ctx) else none
  | _ => none

/-- The same for a VM of a fleet. -/
def Fleet.live (s : Fleet σ) (j : Nat) : Option (List BridgeRequest × CtxId) :=
  s.vms[j]?.bind FleetVm.live

/-- What a step of a fleet removes: the registration of a vsock port with an engine that unlinks
    its socket, and the cleanup of `stop` and `drop`. -/
def removal (unlinks : ε → Bool) (s : Fleet σ) : FleetAction ε → Option Removal
  | .prepare i =>
    match s.vms[i]? with
    | some ⟨b, .preparing _ (.engine (.addVsockPort _ port) :: _)⟩ =>
      if unlinks b.engine then some (.file port.hostSocket) else none
    | _ => none
  | .vm i .cleanup =>
    match s.vms[i]? with
    | some ⟨_, .up ctx _⟩ => some (.workdir ctx)
    | _ => none
  | _ => none

/-- What the step removes for one VM spares every other live VM. -/
def SparesOthers (env : Env) (unlinks : ε → Bool) (s : Fleet σ) (a : FleetAction ε) : Prop :=
  ∀ j < s.vms.length, a.actor ≠ some j → ∀ vm ∈ s.live j, ∀ r ∈ removal unlinks s a,
    r.Spares env s.fs vm.1 vm.2

instance (unlinks : ε → Bool) (s : Fleet σ) (a : FleetAction ε) :
    Decidable (SparesOthers env unlinks s a) :=
  inferInstanceAs (Decidable (∀ j < s.vms.length, a.actor ≠ some j → ∀ vm ∈ s.live j,
    ∀ r ∈ removal unlinks s a, r.Spares env s.fs vm.1 vm.2))

/-- The step for one VM removes no directory and no socket of another live VM. -/
def HarmsNoOther (env : Env) (s : Fleet σ) (a : FleetAction ε) (s' : Fleet σ) : Prop :=
  ∀ j bridges ctx, a.actor ≠ some j → s.live j = some (bridges, ctx) →
    Unharmed env bridges ctx s.fs s'.fs

variable {unlinks : ε → Bool} {s s' : Fleet σ} {a : FleetAction ε}

theorem lt_length_of_live {j : Nat} {vm : List BridgeRequest × CtxId} (h : s.live j = some vm) :
    j < s.vms.length := by
  obtain ⟨_, hvm, -⟩ := Option.bind_eq_some_iff.mp h
  exact (List.getElem?_eq_some_iff.mp hvm).1

variable [DecidableEq ε] {E : ∀ e, VmEngine (σ e)}

/-- A step that removes nothing only adds to the file system; the others do their removal. -/
theorem fs_of_step (hE : ∀ e, Unlinks (E e) (unlinks e)) (hinv : ∀ vm ∈ s.vms, VmInv env vm)
    (h : FleetStep E env s a s') :
    match removal unlinks s a with
    | some r => s'.fs = r.apply env s.fs
    | none => FileSys.Grows s.fs s'.fs := by
  cases h with
  | launch => exact .refl _
  | @create i b _ _ ctx host hvm hcreate =>
    have hfs := hE b.engine .createCtx nofun (s.host b.engine)
    simp only [VmEngine.run, hcreate, EStateM.Result.state, unlinked, ite_self] at hfs
    simp only [removal, hvm, Fleet.advance, hfs]
    exact .refl _
  | @createFails i b _ _ _ host hvm hcreate =>
    have hfs := hE b.engine .createCtx nofun (s.host b.engine)
    simp only [VmEngine.run, hcreate, EStateM.Result.state, unlinked, ite_self] at hfs
    simp only [removal, hvm, Fleet.advance, hfs]
    exact .refl _
  | @prepare i b ctx step todo hvm =>
    cases step with
    | engine c =>
      -- The engine calls of a launch do not enter the VM
      have henter := hinv _ (List.mem_of_getElem? hvm) c List.mem_cons_self
      have hfs := hE b.engine c henter (s.host b.engine)
      simp only [Fleet.advance, perform, hfs]
      cases c with
      | addVsockPort ctx' port =>
        -- The one engine call that may remove something
        cases hunlinks : unlinks b.engine with
        | true => simp only [removal, hvm, hunlinks, if_true, unlinked, Removal.apply, Fleet.host]
        | false =>
          simp only [removal, hvm, hunlinks, Bool.false_eq_true, if_false]
          exact .refl _
      | _ =>
        simp only [removal, hvm, unlinked, ite_self]
        exact .refl _
    | createDirAll path =>
      simp only [removal, hvm, Fleet.advance, perform_createDirAll_fs]
      exact FileSys.createDirAll_grows s.fs path
    | spawnBridge | spawnThread =>
      simp only [removal, hvm]
      exact .refl _
  | start hvm =>
    simp only [removal, hvm]
    exact .refl _
  | serve hvm hfree => exact .set hfree _
  | @vm i b ctx sys sys' a hvm hstep =>
    by_cases ha : a = .cleanup
    · subst ha
      simp only [removal, hvm, if_true, Removal.apply]
    · have hnone : removal unlinks s (.vm i a) = none := by
        cases a <;> first | rfl | exact absurd rfl ha
      simp only [hnone, if_neg ha]
      exact .refl _

/-- A step harms no other live VM exactly when its removal spares them. -/
theorem harmsNoOther_iff (hE : ∀ e, Unlinks (E e) (unlinks e))
    (hinv : ∀ vm ∈ s.vms, VmInv env vm) (h : FleetStep E env s a s') :
    HarmsNoOther env s a s' ↔ SparesOthers env unlinks s a := by
  have hfs := fs_of_step hE hinv h
  cases hremoval : removal unlinks s a with
  | none =>
    simp only [hremoval] at hfs
    refine ⟨fun _ j _ _ vm _ r hr => ?_, fun _ j bridges ctx _ _ => .of_grows hfs⟩
    rw [hremoval] at hr
    exact nomatch hr
  | some r =>
    simp only [hremoval] at hfs
    constructor
    · rintro hharms j - hj ⟨bridges, ctx⟩ hvm r' hr'
      obtain rfl := Option.some.inj (hremoval.symm.trans hr')
      exact (unharmed_iff r).mp (hfs ▸ hharms j bridges ctx hj hvm)
    · intro hspares j bridges ctx hj hvm
      rw [hfs]
      exact (unharmed_iff r).mpr (hspares j (lt_length_of_live hvm) hj _ hvm r hremoval)

/-- A launched VM stays as it is, or takes the step that is for it. -/
theorem vm_of_step (h : FleetStep E env s a s') {j : Nat} {b : VmBuilder ε} {ctx : CtxId}
    {sys : VmSystem} (hvm : s.vms[j]? = some ⟨b, .up ctx sys⟩) :
    ∃ sys', s'.vms[j]? = some ⟨b, .up ctx sys'⟩ ∧
      (sys' = sys ∨ ∃ act, a = .vm j act ∧ sys.step act = some sys') := by
  have hlt := (List.getElem?_eq_some_iff.mp hvm).1
  have hset : ∀ {i : Nat} {vm vm' : FleetVm ε}, s.vms[i]? = some vm →
      (∀ ctx sys, vm.phase ≠ .up ctx sys) →
      ∃ sys', (s.vms.set i vm')[j]? = some ⟨b, .up ctx sys'⟩ ∧
        (sys' = sys ∨ ∃ act, a = .vm j act ∧ sys.step act = some sys') := by
    intro i vm vm' hi hphase
    -- A VM that is not launched yet is not this one
    have hne : i ≠ j := by
      rintro rfl
      exact hphase ctx sys (Option.some.inj (hi.symm.trans hvm) ▸ rfl)
    exact ⟨sys, (List.getElem?_set_ne hne).trans hvm, Or.inl rfl⟩
  cases h with
  | launch => exact ⟨sys, (List.getElem?_append_left hlt).trans hvm, Or.inl rfl⟩
  | create hi | createFails hi | prepare hi | start hi => exact hset hi fun _ _ h => nomatch h
  | serve => exact ⟨sys, hvm, Or.inl rfl⟩
  | @vm i _ _ _ sys' act hi hstep =>
    by_cases hij : i = j
    · subst hij
      obtain ⟨rfl, hphase⟩ := FleetVm.mk.inj (Option.some.inj (hi.symm.trans hvm))
      obtain ⟨rfl, rfl⟩ := FleetPhase.up.inj hphase
      exact ⟨sys', List.getElem?_set_self hlt, Or.inr ⟨act, rfl, hstep⟩⟩
    · exact ⟨sys, (List.getElem?_set_ne hij).trans hvm, Or.inl rfl⟩

omit [DecidableEq ε] in
/-- A step for a launched VM that is not its cleanup removes nothing. -/
theorem removal_own (unlinks : ε → Bool) {j : Nat} {b : VmBuilder ε} {ctx : CtxId} {sys : VmSystem}
    (hvm : s.vms[j]? = some ⟨b, .up ctx sys⟩) (hactor : a.actor = some j)
    (hcleanup : a ≠ .vm j .cleanup) : removal unlinks s a = none := by
  cases a with
  | launch => rfl
  | prepare i =>
    obtain rfl := Option.some.inj hactor
    simp only [removal, hvm]
  | serve => rfl
  | vm i act =>
    obtain rfl := Option.some.inj hactor
    cases act <;> first | rfl | exact absurd rfl hcleanup

/-- The VM has been launched, and if it is live it has not been harmed since `fs`. -/
def KeptWhileLive (env : Env) (fs : FileSys) (j : Nat) (bridges : List BridgeRequest) (ctx : CtxId)
    (s : Fleet σ) : Prop :=
  ∃ (b : VmBuilder ε) (sys : VmSystem),
    s.vms[j]? = some ⟨b, .up ctx sys⟩ ∧ b.bridges = bridges ∧ IsLaunched sys.owner ∧
    (holdsHandle sys.owner ∧ sys.running → Unharmed env bridges ctx fs s.fs)

namespace KeptWhileLive

variable {j : Nat} {bridges : List BridgeRequest} {ctx : CtxId} {fs : FileSys}

omit [DecidableEq ε] in
/-- A VM that is live has not been harmed yet. -/
theorem of_live (hlive : s.live j = some (bridges, ctx)) :
    KeptWhileLive env s.fs j bridges ctx s := by
  obtain ⟨⟨b, phase⟩, hvm, hphase⟩ := Option.bind_eq_some_iff.mp hlive
  cases phase with
  | up ctx' sys =>
    obtain ⟨⟨hholds, -⟩, heq⟩ := Option.ite_none_right_eq_some.mp hphase
    obtain ⟨rfl, rfl⟩ := Prod.mk.inj (Option.some.inj heq)
    exact ⟨b, sys, hvm, rfl, isLaunched_of_holdsHandle hholds, fun _ => .of_grows (.refl _)⟩
  | _ => exact nomatch hphase

omit [DecidableEq ε] in
theorem unharmed (hkept : KeptWhileLive env fs j bridges ctx s) (hlive : (s.live j).isSome) :
    Unharmed env bridges ctx fs s.fs := by
  obtain ⟨b, sys, hvm, -, -, hunharmed⟩ := hkept
  obtain ⟨vm, hvm'⟩ := Option.isSome_iff_exists.mp hlive
  simp only [Fleet.live, hvm, Option.bind_some, FleetVm.live] at hvm'
  exact hunharmed (Option.ite_none_right_eq_some.mp hvm').1

theorem step (hE : ∀ e, Unlinks (E e) (unlinks e)) (hinv : ∀ vm ∈ s.vms, VmInv env vm)
    (hkept : KeptWhileLive env fs j bridges ctx s) (hspares : SparesOthers env unlinks s a)
    (hcleanup : a ≠ .vm j .cleanup) (h : FleetStep E env s a s') :
    KeptWhileLive env fs j bridges ctx s' := by
  obtain ⟨b, sys, hvm, hbridges, hlaunched, hunharmed⟩ := hkept
  obtain ⟨sys', hvm', hsys⟩ := vm_of_step h hvm
  refine ⟨b, sys', hvm', hbridges, ?_, fun hlive' => ?_⟩
  · rcases hsys with rfl | ⟨_, -, hsys⟩
    · exact hlaunched
    · exact (Step.of_step hsys).launched hlaunched
  · have hlive : holdsHandle sys.owner ∧ sys.running := by
      rcases hsys with rfl | ⟨_, -, hsys⟩
      · exact hlive'
      -- A VM that is live after the step was live before it
      · by_contra hover
        exact over_of_step (Step.of_step hsys) hlaunched hover hlive'
    apply (hunharmed hlive).trans
    -- Its own steps remove nothing but in its cleanup; the others spare it
    by_cases hactor : a.actor = some j
    · have hfs := fs_of_step hE hinv h
      simp only [removal_own unlinks hvm hactor hcleanup] at hfs
      exact .of_grows hfs
    · apply (harmsNoOther_iff hE hinv h).mpr hspares j bridges ctx hactor
      simp only [Fleet.live, hvm, Option.bind_some, FleetVm.live, if_pos hlive, hbridges]

end KeptWhileLive

/-- As long as a VM is live and does not clean up itself, its directory and its sockets stay,
    in every run whose removals spare the live VMs. -/
theorem unharmed_of_run {t : Fleet σ} {as : List (FleetAction ε)}
    (hE : ∀ e, Unlinks (E e) (unlinks e)) (hinv : ∀ vm ∈ t.vms, VmInv env vm)
    (hrun : Run (Fleet.step E env) t as s)
    (hmeets : Run.Meets (Fleet.step E env) (SparesOthers env unlinks) t as) {j : Nat}
    (hown : .vm j .cleanup ∉ as) {bridges : List BridgeRequest} {ctx : CtxId}
    (hlive : t.live j = some (bridges, ctx)) (hlive' : (s.live j).isSome) :
    Unharmed env bridges ctx t.fs s.fs := by
  have hinvariant := Run.invariant_of_meets
    (G := fun s a => SparesOthers env unlinks s a ∧ a ≠ .vm j .cleanup)
    (I := fun u => (∀ vm ∈ u.vms, VmInv env vm) ∧ KeptWhileLive env t.fs j bridges ctx u)
    ?step hrun ?meets ⟨hinv, .of_live hlive⟩
  case step =>
    intro u act u' ⟨hinv, hkept⟩ ⟨hspares, hcleanup⟩ hstep
    have h := FleetStep.of_step hstep
    exact ⟨VmInv.step hinv h, hkept.step hE hinv hspares hcleanup h⟩
  case meets =>
    exact hmeets.and_mem fun act hact heq => hown (heq ▸ hact)
  exact hinvariant.2.unharmed hlive'

/-- In every run of a fleet, no step for one VM removes the working directory or a socket of
    another live VM exactly when every removal spares the live VMs; and then a live VM keeps
    its directory and its sockets for as long as it is live and does not clean up itself. -/
theorem live_vms_keep_workdirs_iff (hE : ∀ e, Unlinks (E e) (unlinks e)) {engines : ∀ e, σ e}
    {fs : FileSys} {as : List (FleetAction ε)}
    (hrun : Run (Fleet.step E env) (.new engines fs) as s) :
    (Run.Meets (Fleet.step E env) (fun t a => ∀ t', Fleet.step E env t a = some t' →
        HarmsNoOther env t a t') (.new engines fs) as ↔
      Run.Meets (Fleet.step E env) (SparesOthers env unlinks) (.new engines fs) as) ∧
    (Run.Meets (Fleet.step E env) (SparesOthers env unlinks) (.new engines fs) as →
      ∀ pre post t j bridges ctx, as = pre ++ post →
        Run (Fleet.step E env) (.new engines fs) pre t → t.live j = some (bridges, ctx) →
        (s.live j).isSome → .vm j .cleanup ∉ post → Unharmed env bridges ctx t.fs s.fs) := by
  constructor
  · constructor
    · intro hharms pre a post t hsplit hpre
      obtain ⟨t', ht', -⟩ := Run.cons_iff.mp (hrun.rest hsplit hpre)
      exact (harmsNoOther_iff hE (vmInv_run hpre) (.of_step ht')).mp
        (hharms pre a post t hsplit hpre t' ht')
    · intro hspares pre a post t hsplit hpre t' ht'
      exact (harmsNoOther_iff hE (vmInv_run hpre) (.of_step ht')).mpr
        (hspares pre a post t hsplit hpre)
  · intro hspares pre post t j bridges ctx hsplit hpre hlive hlive' hown
    refine unharmed_of_run hE (vmInv_run hpre) (hrun.rest hsplit hpre) ?_ hown hlive hlive'
    exact Run.Meets.suffix (hsplit ▸ hspares) hpre

end Fleets

/-! ## Two engines -/

/-- A libkrun that hands out the context ids from 0. -/
def countingKrun : Krun UInt32
  | .createCtx, h => (h.engine.toInt32, { h with engine := h.engine + 1 })
  | .getShutdownEventfd _, h => (3, h)
  | _, h => (0, h)

theorem countingKrun_unlinks : Unlinks (LibkrunEngine.engine countingKrun) true := by
  apply libkrun_unlinks
  intro k h _
  cases k <;> rfl

/-- Two VMs of one process: their ids differ, and the second is stopped. -/
theorem live_vms_keep_workdirs_iff_one_engine :
    let E : Bool → VmEngine (Libkrun UInt32) := fun _ => LibkrunEngine.engine countingKrun
    let env : Env := ⟨.ofString "/tmp", none⟩
    let fs := FileSys.ofDirs [[(PathBuf.ofString "tmp").bytes]]
    let builder : VmBuilder Bool :=
      { VmBuilder.new false with
        vcpus := some ⟨1⟩, memory := some ⟨1024⟩, bridges := [⟨31122, ⟨22⟩⟩]
        disks := [⟨.ofString "/vm.raw", .raw, false⟩] }
    let launch (i : Nat) : List (FleetAction Bool) :=
      .launch builder :: List.replicate 7 (.prepare i) ++
        [.vm i .spawnBridge, .vm i (.spawnThread true), .serve i ⟨31122, ⟨22⟩⟩]
    let later := (launch 1) ++ ([.stop, .trigger true, .signal, .take, .leave .returned,
      .storeStopped, .terminate, .join, .cleanup, .finish] : List VmAction).map (.vm 1)
    ∃ t s, Run (Fleet.step E env) (.new (fun _ => ⟨0, []⟩) fs) (launch 0) t ∧
      Run (Fleet.step E env) t later s ∧ t.fs.isDir (env.workdir ⟨0⟩) ∧
      Unharmed env [⟨31122, ⟨22⟩⟩] ⟨0⟩ t.fs s.fs := by
  intro E env fs builder launch later
  have hpre := Run.get (Fleet.step E env) (.new (fun _ => ⟨0, []⟩) fs) (launch 0)
    (by decide +kernel)
  have hrun := Run.get (Fleet.step E env) (.new (fun _ => ⟨0, []⟩) fs) (launch 0 ++ later)
    (by decide +kernel)
  refine ⟨_, _, hpre, hrun.rest rfl hpre, by decide +kernel, ?_⟩
  have hE : ∀ e, Unlinks (E e) ((fun _ => true) e) := fun _ => countingKrun_unlinks
  exact (live_vms_keep_workdirs_iff hE hrun).2 (by decide +kernel) (launch 0) later _ 0 _ _ rfl
    hpre (by decide +kernel) (by decide +kernel) (by simp [later, launch])

/-- Two processes, whose engines both hand out the id 0: when the second VM, which has no bridges,
    is stopped, the directory of the first and the socket in it are removed. -/
theorem stop_removes_other_workdir :
    let E : Bool → VmEngine (Libkrun UInt32) := fun _ => LibkrunEngine.engine countingKrun
    let env : Env := ⟨.ofString "/tmp", none⟩
    let fs := FileSys.ofDirs [[(PathBuf.ofString "tmp").bytes]]
    let builder (e : Bool) (bridges : List BridgeRequest) : VmBuilder Bool :=
      { VmBuilder.new e with
        vcpus := some ⟨1⟩, memory := some ⟨1024⟩, bridges
        disks := [⟨.ofString "/vm.raw", .raw, false⟩] }
    let first : List (FleetAction Bool) :=
      .launch (builder false [⟨31122, ⟨22⟩⟩]) :: List.replicate 7 (.prepare 0) ++
        [.vm 0 .spawnBridge, .vm 0 (.spawnThread true), .serve 0 ⟨31122, ⟨22⟩⟩]
    let second : List (FleetAction Bool) :=
      .launch (builder true []) :: List.replicate 6 (.prepare 1) ++ [.vm 1 (.spawnThread true)]
    let stop : List (FleetAction Bool) := ([.stop, .trigger true, .signal, .take,
      .leave .returned, .storeStopped, .terminate, .join] : List VmAction).map (.vm 1)
    let socket := (env.workdir ⟨0⟩).bridgeSocket ⟨22⟩
    ∃ s s', Run (Fleet.step E env) (.new (fun _ => ⟨0, []⟩) fs) (first ++ second ++ stop) s ∧
      Fleet.step E env s (.vm 1 .cleanup) = some s' ∧
      s.live 0 = some ([⟨31122, ⟨22⟩⟩], ⟨0⟩) ∧
      s.fs.isDir (env.workdir ⟨0⟩) ∧ ¬ s'.fs.isDir (env.workdir ⟨0⟩) ∧
      s.fs.pathExists socket = true ∧ s'.fs.pathExists socket = false := by
  intro E env fs builder first second stop socket
  have hrun := Run.get (Fleet.step E env) (.new (fun _ => ⟨0, []⟩) fs)
    (first ++ second ++ stop) (by decide +kernel)
  refine ⟨_, Option.get (Fleet.step E env _ (.vm 1 .cleanup)) ?_, hrun,
    (Option.some_get _).symm, ?_, ?_, ?_, ?_, ?_⟩ <;> decide +kernel

end Tateru.Spec
