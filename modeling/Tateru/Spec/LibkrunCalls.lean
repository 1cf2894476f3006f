import Tateru.ForStd.Except
import Tateru.Native.Ffi

/-!
# What an engine call does on libkrun

Every engine call comes down to one call of the C library. The strings among its arguments are
checked first, and the return code is turned into a result afterwards; only the registration of
a vsock port does something before that, the unlink of its socket.

## Key results

- `libkrun_run_eq`: an engine call, as the unlink, the checks, the call and the result
- `libkrun_run_state`: what an engine call can do to the host
-/

namespace Tateru.Spec

/-- The call of the C library that an engine call makes, if its strings can be passed. -/
def krunCall : EngineCall → Except TateruError KrunCall
  | .createCtx => .ok .createCtx
  | .setVmConfig ctx vcpus memory => .ok (.setVmConfig ctx.raw vcpus.raw memory.raw)
  | .addDisk ctx disk index => do
    let cBlockId ← Ffi.strToCstring ("disk" ++ toString index)
    let cPath ← Ffi.pathToCstring disk.path
    .ok (.addDisk2 ctx.raw cBlockId cPath disk.format.toFfi disk.readOnly)
  | .addVirtiofs ctx mount => do
    let cTag ← Ffi.strToCstring mount.mountTag
    let cPath ← Ffi.pathToCstring mount.hostPath
    .ok (.addVirtiofs ctx.raw cTag cPath)
  | .addVsockPort ctx port => do
    let cPath ← Ffi.pathToCstring port.hostSocket
    .ok (.addVsockPort2 ctx.raw port.guestPort.raw cPath true)
  | .setConsoleOutput ctx console => do
    let cPath ← Ffi.pathToCstring console.logPath
    .ok (.setConsoleOutput ctx.raw cPath)
  | .getShutdownEventfd ctx => .ok (.getShutdownEventfd ctx.raw)
  | .startEnter ctx => .ok (.startEnter ctx.raw)
  | .setLogLevel level => .ok (.setLogLevel level.raw)
  | .checkNestedVirt => .ok .checkNestedVirt
  | .setNestedVirt ctx enabled => .ok (.setNestedVirt ctx.raw enabled)
  | .setSmbiosOemStrings ctx strings => do
    let cStrings ← strings.mapM Ffi.strToCstring
    .ok (.setSmbiosOemStrings ctx.raw cStrings)

/-- Only the entry of a VM calls `krun_start_enter`. -/
theorem ne_startEnter_of_krunCall {c : EngineCall} {k : KrunCall} (hk : krunCall c = .ok k)
    (henter : ∀ ctx, c ≠ .startEnter ctx) : ∀ id, k ≠ .startEnter id := by
  rintro id rfl
  cases c with
  | startEnter ctx => exact henter ctx rfl
  | _ => simp [krunCall, Except.bind_eq_ok_iff] at hk

/-- Only the registration of a port passes a socket, that of the port. -/
theorem addVsockPort_of_krunCall {c : EngineCall} {ctxId guestPort : UInt32} {filepath : CString}
    {listen : Bool} (hk : krunCall c = .ok (.addVsockPort2 ctxId guestPort filepath listen)) :
    ∃ ctx port, c = .addVsockPort ctx port ∧
      Ffi.pathToCstring port.hostSocket = .ok filepath := by
  cases c with
  | addVsockPort ctx port =>
    obtain ⟨cPath, hpath, hcall⟩ := Except.bind_eq_ok_iff.mp hk
    cases hcall
    exact ⟨ctx, port, rfl, hpath⟩
  | _ => simp [krunCall, Except.bind_eq_ok_iff] at hk

/-- Only the call that adds a disk passes a block id, that of the place of the disk. -/
theorem addDisk_of_krunCall {c : EngineCall} {ctxId format : UInt32} {blockId diskPath : CString}
    {readOnly : Bool}
    (hk : krunCall c = .ok (.addDisk2 ctxId blockId diskPath format readOnly)) :
    ∃ ctx disk index, c = .addDisk ctx disk index ∧
      Ffi.strToCstring ("disk" ++ toString index) = .ok blockId := by
  cases c with
  | addDisk ctx disk index =>
    obtain ⟨cBlockId, hid, hrest⟩ := Except.bind_eq_ok_iff.mp hk
    obtain ⟨cPath, -, hcall⟩ := Except.bind_eq_ok_iff.mp hrest
    cases hcall
    exact ⟨ctx, disk, index, rfl, hid⟩
  | _ => simp [krunCall, Except.bind_eq_ok_iff] at hk

/-- What an engine call makes of the return code. -/
def krunResult : (c : EngineCall) → Int32 → Except TateruError c.Ret
  | .createCtx, ret => do
    let id ← Ffi.checkValue "krun_create_ctx" ret
    return ⟨id.toUInt32⟩
  | .getShutdownEventfd _, ret => Ffi.checkValue "krun_get_shutdown_eventfd" ret
  | .checkNestedVirt, ret => do
    let answer ← Ffi.checkValue "krun_check_nested_virt" ret
    return answer == 1
  | .startEnter _, ret => .error (.ffi "krun_start_enter" ret)
  | .setVmConfig .., ret => Ffi.check "krun_set_vm_config" ret
  | .addDisk .., ret => Ffi.check "krun_add_disk2" ret
  | .addVirtiofs .., ret => Ffi.check "krun_add_virtiofs" ret
  | .addVsockPort .., ret => Ffi.check "krun_add_vsock_port2" ret
  | .setConsoleOutput .., ret => Ffi.check "krun_set_console_output" ret
  | .setLogLevel _, ret => Ffi.check "krun_set_log_level" ret
  | .setNestedVirt .., ret => Ffi.check "krun_set_nested_virt" ret
  | .setSmbiosOemStrings .., ret => Ffi.check "krun_set_smbios_oem_strings" ret

section

variable {κ : Type}

/-! ## The unlink -/

/-- How the unlink goes. -/
theorem unlinkStale_cases (p : PathBuf) (h : Host (Libkrun κ)) :
    (0 ∉ p.bytes ∧ h.fs.isMissing p ∧ Ffi.unlinkStale p h = .ok () h) ∨
    (h.fs.canRemove p ∧
      Ffi.unlinkStale p h = .ok () { h with fs := h.fs.set (h.fs.entry p) none }) ∨
    ((0 ∈ p.bytes ∨ ¬ h.fs.isMissing p) ∧
      ∃ e, Ffi.unlinkStale p h = .error (.bridgeIo e) h) := by
  unfold Ffi.unlinkStale FileSys.removeFile FileSys.canRemove FileSys.isMissing
  by_cases hnul : p.bytes.contains 0 = true
  · rw [if_pos hnul]
    exact Or.inr (Or.inr ⟨Or.inl (by simpa using hnul), _, rfl⟩)
  · rw [if_neg hnul]
    have hnul' : p.bytes.contains 0 = false := Bool.not_eq_true _ ▸ hnul
    cases hfound : h.fs.lookup p with
    | error e =>
      dsimp only
      by_cases hkind : e.kind = .notFound
      · rw [if_pos hkind]
        exact Or.inl ⟨by simpa using hnul', ⟨e, rfl, hkind⟩, rfl⟩
      -- Every other kind is reported
      · rw [if_neg hkind]
        refine Or.inr (Or.inr ⟨Or.inr ?_, e, rfl⟩)
        rintro ⟨e', he', hkind'⟩
        exact hkind (Except.error.inj he' ▸ hkind')
    | ok n =>
      cases n with
      | dir => exact Or.inr (Or.inr ⟨Or.inr (by simp), _, rfl⟩)
      | file removable =>
        cases removable with
        | true => exact Or.inr (Or.inl ⟨⟨hnul', rfl⟩, rfl⟩)
        | false => exact Or.inr (Or.inr ⟨Or.inr (by simp), _, rfl⟩)

/-- Of the host, the unlink changes the file system only. -/
theorem unlinkStale_state (path : PathBuf) (h : Host (Libkrun κ)) :
    (Ffi.unlinkStale path h).state = { h with fs := (h.fs.removeFile path).2 } := by
  unfold Ffi.unlinkStale
  rcases h.fs.removeFile path with ⟨_ | u, fs⟩
  · dsimp only
    -- Whether the error is reported or passed over, nothing more happens
    split <;> rfl
  · rfl

/-- The unlink makes no call of the C library. -/
theorem unlinkStale_engine (path : PathBuf) (h : Host (Libkrun κ)) :
    (Ffi.unlinkStale path h).state.engine = h.engine := by
  rw [unlinkStale_state]

/-- What an engine call does first. -/
def unlinkFor : EngineCall → EngineM (Libkrun κ) Unit
  | .addVsockPort _ port => Ffi.unlinkStale port.hostSocket
  | _ => pure ()

theorem unlinkFor_engine (c : EngineCall) (h : Host (Libkrun κ)) :
    (unlinkFor c h).state.engine = h.engine := by
  cases c with
  | addVsockPort ctx port => exact unlinkStale_engine port.hostSocket h
  | _ => rfl

/-! ## The steps of an engine call -/

private theorem ofExcept_bind {σ α β : Type} (x : Except TateruError α)
    (f : α → Except TateruError β) :
    (ofExcept (x >>= f) : EngineM σ β) = ofExcept x >>= fun a => ofExcept (f a) := by
  cases x <;> rfl

/-- An engine call unlinks, checks its strings, calls libkrun and checks the return code. -/
theorem libkrun_run_eq (K : Krun κ) (c : EngineCall) :
    (LibkrunEngine.engine K).run c = (do
      unlinkFor c
      let k ← ofExcept (krunCall c)
      let ret ← Ffi.krun K k
      ofExcept (krunResult c ret)) := by
  cases c with
  | createCtx =>
    -- The id is wrapped after the wrapper has returned
    show (Ffi.createCtx K >>= fun id => pure (⟨id⟩ : CtxId)) = _
    simp only [Ffi.createCtx, krunResult, ofExcept_bind, bind_assoc]
    rfl
  | _ =>
    simp only [krunCall, krunResult, ofExcept_bind, bind_assoc]
    rfl

/-- An engine call changes the host by its unlink, and by one call of libkrun after it, if there is
    no error before. -/
theorem libkrun_run_state (K : Krun κ) (c : EngineCall) (h : Host (Libkrun κ)) :
    ((LibkrunEngine.engine K).run c h).state = (unlinkFor c h).state ∨
      ∃ k h', unlinkFor c h = .ok () h' ∧ krunCall c = .ok k ∧
        ((LibkrunEngine.engine K).run c h).state = (Ffi.krun K k h').state := by
  rw [libkrun_run_eq]
  cases hunlink : unlinkFor c h with
  | error e h' =>
    rw [EStateM.bind_error hunlink]
    exact Or.inl rfl
  | ok u h' =>
    rw [EStateM.bind_ok hunlink]
    cases hk : krunCall c with
    | error e => exact Or.inl rfl
    | ok k =>
      refine Or.inr ⟨k, h', rfl, rfl, ?_⟩
      have hcall : Ffi.krun K k h' = .ok _ _ := rfl
      have hgiven : (ofExcept (.ok k) : EngineM (Libkrun κ) KrunCall) h' = .ok k h' := rfl
      rw [EStateM.bind_ok hgiven, EStateM.bind_ok hcall]
      -- What is made of the return code is no matter of the host
      cases krunResult c _ with
      | ok r => rfl
      | error e => rfl

end

end Tateru.Spec
