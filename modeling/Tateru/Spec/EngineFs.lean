import Tateru.Native.Mock
import Tateru.Native.Vz
import Tateru.Spec.LibkrunCalls

/-!
# What the engines do to the file system

Of everything an engine does before it enters the VM, only the registration of a vsock port
with libkrun touches the file system: it unlinks the path of the socket first.

## Key results

- `mock_keepsFs`, `vz_keepsFs`: these engines never touch the file system
- `mock_unlinks`, `vz_unlinks`, `libkrun_unlinks`: which engines unlink sockets
- `mock_keepsDirs`, `vz_keepsDirs`, `libkrun_keepsDirs`: no engine creates or removes a
  directory
-/

namespace Tateru.Spec

open EStateM (Keeps)
open FileSys (SameDirs)

variable {σ : Type}

/-- The two hosts have the same file system. -/
def SameFs (h h' : Host σ) : Prop :=
  h'.fs = h.fs

theorem SameFs.trans (h h' h'' : Host σ) (hs : SameFs h h') (hs' : SameFs h' h'') :
    SameFs h h'' :=
  Eq.trans hs' hs

/-- The two hosts have the same directories. -/
def SameHostDirs (h h' : Host σ) : Prop :=
  SameDirs h.fs h'.fs

theorem SameHostDirs.refl (h : Host σ) : SameHostDirs h h :=
  SameDirs.refl h.fs

theorem SameHostDirs.trans (h h' h'' : Host σ) (hd : SameHostDirs h h')
    (hd' : SameHostDirs h' h'') : SameHostDirs h h'' :=
  SameDirs.trans hd hd'

theorem SameHostDirs.of_sameFs (h h' : Host σ) (hs : SameFs h h') : SameHostDirs h h' := by
  unfold SameHostDirs
  rw [show h'.fs = h.fs from hs]
  exact SameDirs.refl h.fs

/-- The calls of an engine neither create nor remove directories. -/
def KeepsDirs (E : VmEngine σ) : Prop :=
  ∀ c, Keeps SameHostDirs (E.run c)

/-- The file system after the unlink that the registration of a vsock port begins with. -/
def unlinked (fs : FileSys) : EngineCall → FileSys
  | .addVsockPort _ port => (fs.removeFile port.hostSocket).2
  | _ => fs

/-- Before it enters a VM, the engine only unlinks the sockets it registers, if it does that. -/
def Unlinks (E : VmEngine σ) (unlinks : Bool) : Prop :=
  ∀ c, (∀ ctx, c ≠ .startEnter ctx) →
    Keeps (fun h h' => h'.fs = if unlinks then unlinked h.fs c else h.fs) (E.run c)

/-! ## The mock and Virtualization.framework -/

/-- The mock never touches the file system. -/
theorem mock_keepsFs (c : EngineCall) : Keeps SameFs (MockEngine.engine.run c) := by
  have hrecord : ∀ call, Keeps SameFs (MockEngine.record call) := fun _ _ => rfl
  have hfail : ∀ flag function code, Keeps SameFs (MockEngine.failIf flag function code) := by
    intro flag function code h
    unfold MockEngine.failIf
    split <;> rfl
  have hfetch : Keeps SameFs MockEngine.fetchAdd := fun _ => rfl
  have hnested : Keeps SameFs MockEngine.nestedVirt := fun _ => rfl
  have hpipe : Keeps SameFs MockEngine.openPipe := by
    intro h
    unfold MockEngine.openPipe
    split <;> rfl
  cases c with
  | createCtx =>
    exact .bind .trans (hrecord _) fun _ => .bind .trans (hfail _ _ _) fun _ => hfetch
  | getShutdownEventfd ctx =>
    exact .bind .trans (hrecord _) fun _ => .bind .trans (hfail _ _ _) fun _ => hpipe
  | setVmConfig ctx vcpus memory =>
    exact .bind .trans (hrecord _) fun _ => hfail _ _ _
  | addDisk ctx disk index => exact .bind .trans (hrecord _) fun _ => hfail _ _ _
  | startEnter ctx => exact .bind .trans (hrecord _) fun _ => hfail _ _ _
  | checkNestedVirt => exact .bind .trans (hrecord _) fun _ => hnested
  | _ => exact hrecord _

/-- The Virtualization.framework engine never touches the file system. -/
theorem vz_keepsFs (c : EngineCall) : Keeps SameFs (VzEngine.engine.run c) := by
  have hwith : ∀ ctx (f : VzCtxState → Except TateruError Unit × VzCtxState),
      Keeps SameFs (VzEngine.withCtx ctx f) := by
    intro ctx f h
    unfold VzEngine.withCtx
    split
    · rfl
    · split
      · rfl
      · split <;> rfl
  cases c with
  | createCtx =>
    refine .bind .trans (fun h => rfl) fun id h => ?_
    unfold VzEngine.insertCtx
    split <;> rfl
  | setVmConfig | addDisk | addVirtiofs | addVsockPort | setConsoleOutput =>
    simp only [VmEngine.run, VzEngine.engine]
    exact hwith _ _
  | _ => exact fun h => rfl

theorem mock_unlinks : Unlinks MockEngine.engine false :=
  fun c _ => mock_keepsFs c

theorem vz_unlinks : Unlinks VzEngine.engine false :=
  fun c _ => vz_keepsFs c

theorem mock_keepsDirs : KeepsDirs MockEngine.engine :=
  fun c => (mock_keepsFs c).mono .of_sameFs

theorem vz_keepsDirs : KeepsDirs VzEngine.engine :=
  fun c => (vz_keepsFs c).mono .of_sameFs

/-! ## libkrun -/

section Libkrun

variable {κ : Type} {K : Krun κ}

theorem unlinkFor_fs (c : EngineCall) (h : Host (Libkrun κ)) :
    (unlinkFor c h).state.fs = unlinked h.fs c := by
  cases c with
  | addVsockPort ctx port =>
    rw [unlinkFor, unlinkStale_state]
    rfl
  | _ => rfl

/-- The libkrun engine unlinks the sockets it registers, and touches nothing else, if libkrun
    only touches the file system when it enters a VM. -/
theorem libkrun_unlinks (hK : ∀ k h, (∀ id, k ≠ .startEnter id) → (K k h).2.fs = h.fs) :
    Unlinks (LibkrunEngine.engine K) true := by
  intro c henter h
  show ((LibkrunEngine.engine K).run c h).state.fs = unlinked h.fs c
  have hunlink := unlinkFor_fs c h
  rcases libkrun_run_state K c h with hstate | ⟨k, h', hok, hk, hstate⟩
  · rw [hstate]
    exact hunlink
  -- The call after the unlink touches nothing
  · have hkrun : (Ffi.krun K k h').state.fs = h'.fs :=
      hK k ⟨_, h'.fs⟩ (ne_startEnter_of_krunCall hk henter)
    rw [hok, EStateM.Result.state_ok] at hunlink
    rw [hstate, hkrun, hunlink]

/-- The libkrun engine neither creates nor removes directories, if libkrun does not. -/
theorem libkrun_keepsDirs (hK : ∀ k h, SameHostDirs h (K k h).2) :
    KeepsDirs (LibkrunEngine.engine K) := by
  intro c h
  have hunlink : SameHostDirs h (unlinkFor c h).state := by
    unfold SameHostDirs
    rw [unlinkFor_fs]
    cases c with
    -- The unlink is of a file
    | addVsockPort ctx port => exact FileSys.removeFile_sameDirs _ _
    | _ => exact SameDirs.refl _
  rcases libkrun_run_state K c h with hstate | ⟨k, h', hok, hk, hstate⟩
  · rw [hstate]
    exact hunlink
  · rw [hok, EStateM.Result.state_ok] at hunlink
    rw [hstate]
    exact hunlink.trans _ _ _ (hK k ⟨_, h'.fs⟩)

end Libkrun

end Tateru.Spec
