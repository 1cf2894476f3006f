import Tateru.Spec.Fleet
import Tateru.Spec.SocketPaths

/-!
# What a killed process leaves

A process that is killed cleans nothing up: the working directories that it has made stay, with
the sockets that libkrun made in them. Next to a file system from which such a directory is
absent, the one it was left in is stale.

## Key results

- `Leftover.run`: what the processes on a host leave at a working directory, whatever their VMs do
  and wherever they are killed
- `Stale.createDirAll`: creating a working directory goes the same way on both file systems
- `Stale.removeFile`: the unlink of a socket removes what was left of it
-/

namespace Tateru.Spec

/-! ## Leftovers -/

/-- What a killed process can have left at the working directory of `ctx`: nothing, or the
    directory, which the operating system has let it make, with removable files at any of the
    names of sockets. -/
def Leftover (env : Env) (ctx : CtxId) (fs : FileSys) : Prop :=
  ∀ e n, fs.entry (env.workdir ctx) <+: e → fs.node e = some n →
    e = fs.entry (env.workdir ctx) ∧ n = .dir ∧ fs.denied e = none ∨
      ∃ g : GuestPort, e = fs.entry ((env.workdir ctx).bridgeSocket g) ∧ n = .file true

/-- What a fleet can do to the file system in one step. -/
inductive FsChange (env : Env) (fs : FileSys) : FileSys → Prop where
  | same : FsChange env fs fs
  | removeFile (path : PathBuf) : FsChange env fs (fs.removeFile path).2
  | createDirAll (ctx : CtxId) : FsChange env fs (fs.createDirAll (env.workdir ctx)).2
  | removeDirAll (ctx : CtxId) : FsChange env fs (fs.removeDirAll (env.workdir ctx)).2
  | bind (ctx : CtxId) (g : GuestPort) : FsChange env fs
      (fs.set (fs.entry ((env.workdir ctx).bridgeSocket g)) (some (.file true)))

namespace Leftover

variable {env : Env} {ctx : CtxId} {fs fs' : FileSys}

/-- Where there is no working directory, nothing was left. -/
theorem of_absent (h : ∀ e, fs.entry (env.workdir ctx) <+: e → fs.node e = none) :
    Leftover env ctx fs :=
  fun e _ he hn => nomatch (h e he).symm.trans hn

/-- What else is in the working directory after a change has to be of the same kind. -/
theorem of_node (hbefore : Leftover env ctx fs) (hentry : ∀ p, fs'.entry p = fs.entry p)
    (hdenied : fs'.denied = fs.denied)
    (hnode : ∀ e n, fs.entry (env.workdir ctx) <+: e → fs'.node e = some n →
      fs.node e = some n ∨ e = fs.entry (env.workdir ctx) ∧ n = .dir ∧ fs.denied e = none ∨
        ∃ g : GuestPort, e = fs.entry ((env.workdir ctx).bridgeSocket g) ∧ n = .file true) :
    Leftover env ctx fs' := by
  intro e n he hn
  rw [hentry] at he
  simp only [hentry, hdenied]
  rcases hnode e n he hn with hold | hnew
  · exact hbefore e n he hold
  · exact hnew

theorem change (hbefore : Leftover env ctx fs) (h : FsChange env fs fs') :
    Leftover env ctx fs' := by
  cases h with
  | same => exact hbefore
  | removeFile path =>
    refine hbefore.of_node (by simp) (by simp) fun e n _ hn => ?_
    exact Or.inl (FileSys.node_of_removeFile hn)
  | removeDirAll ctx' =>
    refine hbefore.of_node (by simp) (by simp) fun e n _ hn => ?_
    exact Or.inl (FileSys.node_of_removeDirAll hn)
  | createDirAll ctx' =>
    refine hbefore.of_node (by simp) (FileSys.createDirsFrom_denied _ _ _) fun e n he hn => ?_
    rcases FileSys.node_of_createDirsFrom hn with hold | ⟨hmade, hdir, hallowed⟩
    · exact Or.inl hold
    -- Of the directories on the way, only the working directory itself is in it
    · rw [List.nil_append] at hmade
      obtain rfl := entry_workdir_prefix_iff.mp ((he.trans hmade).trans (List.prefix_append _ []))
      have heq := he.eq_of_length_le hmade.length_le
      exact Or.inr (Or.inl ⟨heq.symm, hdir, hallowed⟩)
  | bind ctx' g =>
    refine hbefore.of_node (fun _ => rfl) rfl fun e n he hn => ?_
    rw [FileSys.set_node] at hn
    split at hn
    · rename_i heq
      subst heq
      rw [entry_bridgeSocket] at he
      obtain rfl := entry_workdir_prefix_iff.mp he
      exact Or.inr (Or.inr ⟨g, rfl, (Option.some.inj hn).symm⟩)
    · exact Or.inl hn

end Leftover

/-! ## What a fleet does to the file system -/

section Fleets

variable {ε : Type} [DecidableEq ε] {σ : ε → Type} {E : ∀ e, VmEngine (σ e)} {env : Env}
  {unlinks : ε → Bool} {s s' : Fleet σ} {a : FleetAction ε}

/-- A launch of the fleet has steps of its plan left. -/
def Planned (env : Env) (vm : FleetVm ε) : Prop :=
  match vm.phase with
  | .preparing ctx todo =>
    ∃ vcpus memory, todo <:+ preparePlan vm.builder env vcpus memory ctx
  | _ => True

theorem Planned.step (hinv : ∀ vm ∈ s.vms, Planned env vm) (h : FleetStep E env s a s') :
    ∀ vm ∈ s'.vms, Planned env vm := by
  refine forall_vms_of_step (fun _ _ _ => trivial) (fun _ => trivial) ?create ?prepare
    (fun _ _ => trivial) (fun _ _ _ _ _ _ _ => trivial) hinv h
  case create => exact fun _ vcpus memory _ => ⟨vcpus, memory, List.suffix_rfl⟩
  case prepare =>
    intro b ctx step todo ⟨vcpus, memory, htodo⟩
    exact ⟨vcpus, memory, (List.suffix_cons step todo).trans htodo⟩

omit [DecidableEq ε] in
/-- Before it enters a VM, an engine call changes the file system by an unlink at most. -/
theorem change_of_call {e : ε} {c : EngineCall} (hE : Unlinks (E e) (unlinks e))
    (henter : ∀ ctx, c ≠ .startEnter ctx) (h : Host (σ e)) :
    FsChange env h.fs ((E e).run c h).state.fs := by
  rw [hE c henter h]
  split
  · cases c with
    | addVsockPort _ port => exact .removeFile port.hostSocket
    | _ => exact .same
  · exact .same

theorem change_of_step (hE : ∀ e, Unlinks (E e) (unlinks e)) (hinv : ∀ vm ∈ s.vms, VmInv env vm)
    (hplanned : ∀ vm ∈ s.vms, Planned env vm) (h : FleetStep E env s a s') :
    FsChange env s.fs s'.fs := by
  cases h with
  | launch | start => exact .same
  | @create _ b _ _ _ _ _ hcreate | @createFails _ b _ _ _ _ _ hcreate =>
    have hchange : FsChange env s.fs ((E b.engine).run .createCtx (s.host b.engine)).state.fs :=
      change_of_call (hE b.engine) (by simp) (s.host b.engine)
    rwa [VmEngine.run, hcreate] at hchange
  | @prepare i b ctx step todo hvm =>
    have hmem := List.mem_of_getElem? hvm
    cases step with
    | engine c =>
      have henter := hinv _ hmem c List.mem_cons_self
      exact change_of_call (hE b.engine) henter (s.host b.engine)
    | createDirAll path =>
      obtain ⟨_, _, htodo⟩ := hplanned _ hmem
      -- The plan makes no other directory
      obtain rfl : path = env.workdir ctx := by
        simpa [preparePlan] using htodo.subset List.mem_cons_self
      simp only [Fleet.advance, perform_createDirAll_fs]
      exact .createDirAll ctx
    | spawnBridge | spawnThread => exact .same
  | serve => exact .bind _ _
  | vm =>
    dsimp only
    split
    · exact .removeDirAll _
    · exact .same

/-- Wherever the processes of a fleet are killed, they have left a directory with sockets in it
    at most, if that is all there was before. -/
theorem Leftover.run (hE : ∀ e, Unlinks (E e) (unlinks e)) {ctx : CtxId} {engines : ∀ e, σ e}
    {fs : FileSys} {as : List (FleetAction ε)}
    (hrun : Run (Fleet.step E env) (.new engines fs) as s) (hbefore : Leftover env ctx fs) :
    Leftover env ctx s.fs := by
  have hinv := Run.invariant
    (I := fun s : Fleet σ => (∀ vm ∈ s.vms, VmInv env vm) ∧ (∀ vm ∈ s.vms, Planned env vm) ∧
      Leftover env ctx s.fs) ?step hrun ?start
  case step =>
    intro t a t' ⟨hinv, hplanned, hleft⟩ hstep
    have h := FleetStep.of_step hstep
    exact ⟨VmInv.step hinv h, Planned.step hplanned h,
      hleft.change (change_of_step hE hinv hplanned h)⟩
  case start => exact ⟨by simp [Fleet.new], by simp [Fleet.new], hbefore⟩
  exact hinv.2.2

end Fleets

/-! ## Stale file systems -/

/-- The file system without the working directory of `ctx` and what is in it. -/
def withoutWorkdir (env : Env) (ctx : CtxId) (fs : FileSys) : FileSys :=
  { fs with node := fun e => if fs.entry (env.workdir ctx) <+: e then none else fs.node e }

/-- In `fs'` is what is in `fs`, and something more was left at the working directory of `ctx`. -/
structure Stale (env : Env) (ctx : CtxId) (fs fs' : FileSys) : Prop where
  resolution : fs'.resolution = fs.resolution
  denied : fs'.denied = fs.denied
  node : ∀ e, fs'.node e = fs.node e ∨ fs.node e = none ∧
    (e = fs.entry (env.workdir ctx) ∧ fs'.node e = some .dir ∧ fs.denied e = none ∨
      ∃ g : GuestPort, e = fs.entry ((env.workdir ctx).bridgeSocket g) ∧
        fs'.node e = some (.file true))

/-- Leftovers are stale next to the file system without them. -/
theorem Leftover.stale {env : Env} {ctx : CtxId} {fs : FileSys} (h : Leftover env ctx fs) :
    Stale env ctx (withoutWorkdir env ctx fs) fs where
  resolution := rfl
  denied := rfl
  node e := by
    show fs.node e = ite _ _ _ ∨ ite _ _ _ = none ∧ _
    split
    · rename_i hprefix
      cases hnode : fs.node e with
      | none => exact Or.inl rfl
      | some n =>
        rcases h e n hprefix hnode with ⟨he, rfl, hallowed⟩ | ⟨g, he, rfl⟩
        · exact Or.inr ⟨rfl, Or.inl ⟨he, rfl, hallowed⟩⟩
        · exact Or.inr ⟨rfl, Or.inr ⟨g, he, rfl⟩⟩
    · exact Or.inl rfl

namespace Stale

variable {env : Env} {ctx : CtxId} {fs fs' : FileSys}

/-- Paths name the same entries. -/
theorem entry (h : Stale env ctx fs fs') (p : PathBuf) : fs'.entry p = fs.entry p := by
  rw [FileSys.entry, h.resolution]
  rfl

/-- Entries that end up the same, or that both leave alone, keep to it. -/
theorem change (h : Stale env ctx fs fs') {t t' : FileSys} (hres : t.resolution = fs.resolution)
    (hres' : t'.resolution = fs'.resolution) (hdenied : t.denied = fs.denied)
    (hdenied' : t'.denied = fs'.denied)
    (hnode : ∀ e, t'.node e = t.node e ∨ t'.node e = fs'.node e ∧ t.node e = fs.node e) :
    Stale env ctx t t' where
  resolution := by rw [hres, hres', h.resolution]
  denied := by rw [hdenied, hdenied', h.denied]
  node e := by
    rcases hnode e with hsame | ⟨hkept', hkept⟩
    · exact Or.inl hsame
    · simp only [hkept, hkept', FileSys.entry, hres, hdenied]
      exact h.node e

/-- The same change of both keeps to it. -/
theorem set (h : Stale env ctx fs fs') (e : Entry) (n : Option Node) :
    Stale env ctx (fs.set e n) (fs'.set e n) := by
  refine h.change rfl rfl rfl rfl fun e' => ?_
  rw [FileSys.set_node, FileSys.set_node]
  split
  · exact Or.inl rfl
  · exact Or.inr ⟨rfl, rfl⟩

/-- A socket that was left is removed. -/
theorem unset (h : Stale env ctx fs fs') {e : Entry} (hnone : fs.node e = none) :
    Stale env ctx fs (fs'.set e none) := by
  refine h.change rfl rfl rfl rfl fun e' => ?_
  rw [FileSys.set_node]
  split
  · rename_i heq
    rw [heq]
    exact Or.inl hnone.symm
  · exact Or.inr ⟨rfl, rfl⟩

/-- A directory that was left is made. -/
theorem makeDir (h : Stale env ctx fs fs') {e : Entry} (hdir : fs'.node e = some .dir) :
    Stale env ctx (fs.set e (some .dir)) fs' := by
  refine h.change rfl rfl rfl rfl fun e' => ?_
  rw [FileSys.set_node]
  split
  · rename_i heq
    rw [heq]
    exact Or.inl hdir
  · exact Or.inr ⟨rfl, rfl⟩

/-- Directories that are not below the working directory are created the same way. -/
theorem createDirsFrom (h : Stale env ctx fs fs') {above : Entry} {names : List Name}
    (hlen : (above ++ names).length ≤ (fs.entry (env.workdir ctx)).length) :
    (fs'.createDirsFrom above names).1 = (fs.createDirsFrom above names).1 ∧
      Stale env ctx (fs.createDirsFrom above names).2 (fs'.createDirsFrom above names).2 := by
  induction names generalizing fs fs' above with
  | nil => exact ⟨rfl, h⟩
  | cons name rest ih =>
    rw [List.append_cons] at hlen
    rw [FileSys.createDirsFrom, FileSys.createDirsFrom, h.denied]
    rcases h.node (above ++ [name]) with heq | ⟨hnone, ⟨-, hdir, hallowed⟩ | ⟨g, hsocket, -⟩⟩
    · rw [heq]
      cases fs.node (above ++ [name]) with
      | some n =>
        cases n with
        | dir => exact ih h hlen
        | file => exact ⟨rfl, h⟩
      | none =>
        cases fs.denied (above ++ [name]) with
        | some err => exact ⟨rfl, h⟩
        | none => exact ih (h.set _ _) hlen
    -- The directory was left: where it is absent, it can be made
    · rw [hnone, hdir, hallowed]
      exact ih (h.makeDir hdir) hlen
    -- A socket is further down
    · rw [hsocket, List.length_append, length_entry_bridgeSocket, length_entry_workdir] at hlen
      omega

theorem createDirAll (h : Stale env ctx fs fs') (ctx' : CtxId) :
    (fs'.createDirAll (env.workdir ctx')).1 = (fs.createDirAll (env.workdir ctx')).1 ∧
      Stale env ctx (fs.createDirAll (env.workdir ctx')).2
        (fs'.createDirAll (env.workdir ctx')).2 := by
  rw [FileSys.createDirAll, FileSys.createDirAll, h.entry]
  apply h.createDirsFrom
  rw [List.nil_append, length_entry_workdir, length_entry_workdir]

/-- No file that was left is above a socket: there is none above on either side, or on both. -/
theorem fileAbove (h : Stale env ctx fs fs') (ctx' : CtxId) (g : GuestPort) :
    fs'.fileAbove (fs.entry ((env.workdir ctx').bridgeSocket g)) =
      fs.fileAbove (fs.entry ((env.workdir ctx').bridgeSocket g)) := by
  apply FileSys.fileAbove_congr
  intro above habove
  rw [entry_bridgeSocket, List.dropLast_concat] at habove
  rcases h.node above with heq | ⟨hnone, ⟨-, hdir, -⟩ | ⟨g', hsocket, -⟩⟩
  · rw [heq]
  · rw [hnone, hdir]
    rfl
  -- All sockets are equally far down
  · have hlen := habove.length_le
    rw [hsocket, length_entry_bridgeSocket, length_entry_workdir] at hlen
    omega

/-- The same is found at a socket, except where one was left. -/
theorem lookup (h : Stale env ctx fs fs') (ctx' : CtxId) (g : GuestPort) :
    fs'.lookup ((env.workdir ctx').bridgeSocket g) =
        fs.lookup ((env.workdir ctx').bridgeSocket g) ∨
      fs'.lookup ((env.workdir ctx').bridgeSocket g) = .ok (.file true) ∧
        fs.isMissing ((env.workdir ctx').bridgeSocket g) ∧
        fs.node (fs.entry ((env.workdir ctx').bridgeSocket g)) = none := by
  have hnames : ((env.workdir ctx').bridgeSocket g).namesDir = false :=
    PathBuf.namesDir_join (isPlain_socketName g)
  have hempty : ((env.workdir ctx').bridgeSocket g).bytes ≠ [] := by
    intro hempty
    rw [PathBuf.namesDir, hempty] at hnames
    exact absurd hnames (by decide)
  unfold FileSys.isMissing FileSys.lookup
  rw [h.resolution, h.entry, h.fileAbove, if_neg hempty, if_neg hempty]
  rcases h.node (fs.entry ((env.workdir ctx').bridgeSocket g)) with
    heq | ⟨hnone, ⟨hworkdir, -⟩ | ⟨-, -, hfile⟩⟩
  · rw [heq]
    exact Or.inl rfl
  -- A working directory is not where a socket is
  · have hlen := congrArg List.length hworkdir
    rw [length_entry_bridgeSocket, length_entry_workdir] at hlen
    omega
  · rw [hnone, hfile, hnames]
    cases fs.resolution.blocked ((env.workdir ctx').bridgeSocket g) with
    | some e => exact Or.inl rfl
    | none =>
      dsimp only
      split
      · exact Or.inl rfl
      · exact Or.inr ⟨rfl, ⟨_, rfl, rfl⟩, rfl⟩

/-- The unlink of a socket goes the same way, except where one was left and is removed. -/
theorem removeFile (h : Stale env ctx fs fs') (ctx' : CtxId) (g : GuestPort) :
    Stale env ctx (fs.removeFile ((env.workdir ctx').bridgeSocket g)).2
        (fs'.removeFile ((env.workdir ctx').bridgeSocket g)).2 ∧
      ((fs'.removeFile ((env.workdir ctx').bridgeSocket g)).1 =
          (fs.removeFile ((env.workdir ctx').bridgeSocket g)).1 ∨
        (fs'.removeFile ((env.workdir ctx').bridgeSocket g)).1 = .ok () ∧
          ∃ e, (fs.removeFile ((env.workdir ctx').bridgeSocket g)).1 = .error e ∧
            e.kind = .notFound) := by
  rw [FileSys.removeFile, FileSys.removeFile, h.entry]
  split
  · exact ⟨h, Or.inl rfl⟩
  · rcases h.lookup ctx' g with heq | ⟨hfile, ⟨e, herror, hkind⟩, hnone⟩
    · rw [heq]
      cases fs.lookup ((env.workdir ctx').bridgeSocket g) with
      | error e => exact ⟨h, Or.inl rfl⟩
      | ok n =>
        cases n with
        | dir => exact ⟨h, Or.inl rfl⟩
        | file removable =>
          cases removable with
          | true => exact ⟨h.set _ _, Or.inl rfl⟩
          | false => exact ⟨h, Or.inl rfl⟩
    · rw [hfile, herror]
      exact ⟨h.unset hnone, Or.inr ⟨rfl, e, rfl, hkind⟩⟩

end Stale

end Tateru.Spec
