import Tateru.ForStd.CStr
import Tateru.Spec.LibkrunCalls

/-!
# What reaches libkrun

The wrappers hand strings and paths to C as pointers to bytes that end in NUL, and a list of
strings as an array of pointers that ends in NULL. A string that C would cut short is refused
before any call is made; everything else is read back by C as it was given.

## Key results

- `read_args`: what C reads off the arguments of a call
- `marshalled`: the calls that take strings, on all arguments
- `rejected_without_effect_iff`: when the refusal of a socket path has no effect
-/

namespace Tateru.Spec

/-! ## What C reads -/

/-- An argument as a C function reads it. -/
inductive CValue where
  | u8 (v : UInt8)
  | u32 (v : UInt32)
  | bool (v : Bool)
  | str (bytes : List UInt8)
  | strs (strings : List (List UInt8))
deriving DecidableEq, Repr

/-- Read an argument. -/
def readArg : CArg → Option CValue
  | .u8 v => some (.u8 v)
  | .u32 v => some (.u32 v)
  | .bool v => some (.bool v)
  | .str ptr => (CStr.read ptr).map .str
  | .strs ptrs => (CStr.readArray ptrs).map .strs

@[simp] theorem readArg_u32 (v : UInt32) : readArg (.u32 v) = some (.u32 v) := rfl

@[simp] theorem readArg_bool (v : Bool) : readArg (.bool v) = some (.bool v) := rfl

/-- A C string is read as its bytes. -/
@[simp] theorem readArg_asPtr (s : CString) : readArg (.str s.asPtr) = some (.str s.bytes) := by
  have hnul : 0 ∉ s.bytes := by simpa using s.noNul
  rw [readArg, CString.asPtr, CStr.read_append hnul, Option.map_some]

/-- An array of C strings is read as their bytes. -/
@[simp] theorem readArg_array (ss : List CString) :
    readArg (.strs (ss.map (fun s => some s.asPtr) ++ [none])) =
      some (.strs (ss.map CString.bytes)) := by
  have hnul : ∀ s ∈ ss.map CString.bytes, 0 ∉ s := by
    intro s hs
    obtain ⟨c, -, rfl⟩ := List.mem_map.mp hs
    simpa using c.noNul
  have hread := CStr.readArray_append hnul []
  rw [List.map_map] at hread
  rw [readArg]
  exact congrArg (Option.map CValue.strs) hread

/-! ## Strings and paths that C cannot take -/

/-- The bytes of a string. -/
def utf8 (s : String) : List UInt8 :=
  s.toByteArray.data.toList

/-- C would cut the string short. -/
def IsCut (s : String) : Prop :=
  0 ∈ utf8 s

/-- The path is not UTF-8, or C would cut it short. -/
def IsBadPath (p : PathBuf) : Prop :=
  (∀ s, PathBuf.ofString s ≠ p) ∨ 0 ∈ p.bytes

/-- `CString::new` refuses strings with a NUL, and keeps the bytes of all others. -/
theorem new_cases (bytes : List UInt8) :
    (0 ∈ bytes ∧ CString.new bytes = none) ∨
    (0 ∉ bytes ∧ ∃ c, CString.new bytes = some c ∧ c.bytes = bytes) := by
  by_cases h : bytes.contains 0 = false
  · exact Or.inr ⟨by simpa using h, ⟨bytes, h⟩, dif_pos h, rfl⟩
  · exact Or.inl ⟨by simpa using h, dif_neg h⟩

theorem toStr_eq_some_iff {p : PathBuf} {s : String} :
    Ffi.toStr p = some s ↔ PathBuf.ofString s = p := by
  rw [Ffi.toStr, String.fromUTF8?]
  split
  · rename_i hvalid
    rw [Option.some_inj]
    constructor
    · rintro rfl
      rfl
    · rintro rfl
      rfl
  · rename_i hvalid
    constructor
    · intro h
      exact nomatch h
    -- The bytes of a string are UTF-8
    · rintro rfl
      exact absurd s.isValidUTF8 hvalid

/-- A path that is not UTF-8 is a bad one. -/
theorem isBadPath_of_toStr {p : PathBuf} (h : Ffi.toStr p = none) : IsBadPath p := by
  apply Or.inl
  intro s hs
  rw [toStr_eq_some_iff.mpr hs] at h
  exact nomatch h

theorem strToCstring_cases (s : String) :
    (IsCut s ∧ Ffi.strToCstring s = .error (.invalidConfig ("string contains NUL: " ++ s))) ∨
    (¬ IsCut s ∧ ∃ c, Ffi.strToCstring s = .ok c ∧ c.bytes = utf8 s) := by
  rcases new_cases (utf8 s) with ⟨hnul, hnew⟩ | ⟨hnul, c, hnew, hbytes⟩
  · exact Or.inl ⟨hnul, congrArg (Option.okOr · _) hnew⟩
  · exact Or.inr ⟨hnul, c, congrArg (Option.okOr · _) hnew, hbytes⟩

theorem pathToCstring_cases (p : PathBuf) :
    (IsBadPath p ∧ Ffi.pathToCstring p = .error (.invalidPath p)) ∨
    (¬ IsBadPath p ∧ ∃ c, Ffi.pathToCstring p = .ok c ∧ c.bytes = p.bytes) := by
  rw [Ffi.pathToCstring]
  cases hstr : Ffi.toStr p with
  | none => exact Or.inl ⟨isBadPath_of_toStr hstr, rfl⟩
  | some s =>
    obtain rfl := toStr_eq_some_iff.mp hstr
    rw [Option.okOr_some, Except.ok_bind]
    rcases new_cases (utf8 s) with ⟨hnul, hnew⟩ | ⟨hnul, c, hnew, hbytes⟩
    · exact Or.inl ⟨Or.inr hnul, congrArg (Option.okOr · _) hnew⟩
    · refine Or.inr ⟨?_, c, congrArg (Option.okOr · _) hnew, hbytes⟩
      rintro (hnot | hmem)
      · exact hnot s rfl
      · exact hnul hmem

/-- A string that is passed to C is passed with its bytes. -/
theorem bytes_of_strToCstring {s : String} {c : CString} (h : Ffi.strToCstring s = .ok c) :
    c.bytes = utf8 s := by
  rcases strToCstring_cases s with ⟨-, herror⟩ | ⟨-, c', hok, hbytes⟩
  · exact nomatch herror.symm.trans h
  · obtain rfl := Except.ok.inj (hok.symm.trans h)
    exact hbytes

/-- A path that is passed to C is passed with its bytes. -/
theorem bytes_of_pathToCstring {p : PathBuf} {c : CString} (h : Ffi.pathToCstring p = .ok c) :
    c.bytes = p.bytes := by
  rcases pathToCstring_cases p with ⟨-, herror⟩ | ⟨-, c', hok, hbytes⟩
  · exact nomatch herror.symm.trans h
  · obtain rfl := Except.ok.inj (hok.symm.trans h)
    exact hbytes

/-- The strings of a list become C strings with their bytes, up to the first that cannot. -/
theorem mapM_strToCstring_cases (ss : List String) :
    ((∃ s ∈ ss, IsCut s) ∧ ∃ e, ss.mapM Ffi.strToCstring = .error e) ∨
    (¬ (∃ s ∈ ss, IsCut s) ∧ ∃ cs, ss.mapM Ffi.strToCstring = .ok cs ∧
      cs.map CString.bytes = ss.map utf8) := by
  induction ss with
  | nil => exact Or.inr ⟨by simp, [], rfl, rfl⟩
  | cons s ss ih =>
    rw [List.mapM_cons]
    rcases strToCstring_cases s with ⟨hcut, herr⟩ | ⟨hcut, c, hc, hbytes⟩
    · exact Or.inl ⟨⟨s, List.mem_cons_self, hcut⟩, _, by rw [herr]; rfl⟩
    · rw [hc, Except.ok_bind]
      rcases ih with ⟨⟨t, ht, hcut'⟩, e, herr⟩ | ⟨hnone, cs, hcs, hbytes'⟩
      · exact Or.inl ⟨⟨t, List.mem_cons_of_mem _ ht, hcut'⟩, e, by rw [herr]; rfl⟩
      · refine Or.inr ⟨?_, c :: cs, by rw [hcs]; rfl, by rw [List.map_cons, List.map_cons, hbytes,
          hbytes']⟩
        rw [List.exists_mem_cons_iff, not_or]
        exact ⟨hcut, hnone⟩

/-! ## One call, or none -/

section

variable {κ : Type} {K : Krun κ} {h h' : Host (Libkrun κ)} {bad : Prop} {function : String}
  {values : List CValue}

/-- The result of a single call `c` of the C library from the host `h`: the call is recorded, and
    its return code decides between success and an error that carries the code. -/
def callResult (K : Krun κ) (h : Host (Libkrun κ)) (c : KrunCall) :
    EStateM.Result TateruError (Host (Libkrun κ)) Unit :=
  let (ret, lib) := K c ⟨h.engine.lib, h.fs⟩
  let host : Host (Libkrun κ) := ⟨⟨lib.engine, h.engine.calls ++ [c]⟩, lib.fs⟩
  if 0 ≤ ret then .ok () host else .error (.ffi c.function ret) host

/-- From the host `h`, the method `m` refuses bad arguments without a call, and otherwise makes
    one call, of `function`, from the host `h'`, whose arguments C reads as `values`. -/
structure Marshals (K : Krun κ) (m : EngineM (Libkrun κ) Unit) (h h' : Host (Libkrun κ))
    (bad : Prop) (function : String) (values : List CValue) : Prop where
  refuses : bad → ∃ e, m h = .error e h'
  calls : ¬ bad → ∃ c : KrunCall,
    c.function = function ∧ c.args.mapM readArg = some values ∧ m h = callResult K h' c

namespace Marshals

theorem of_iff {m : EngineM (Libkrun κ) Unit} {bad' : Prop} (hbad : bad ↔ bad')
    (hm : Marshals K m h h' bad function values) : Marshals K m h h' bad' function values :=
  ⟨fun hb => hm.refuses (hbad.mpr hb), fun hb => hm.calls fun hb' => hb (hbad.mp hb')⟩

/-- A call with a check of its return code. -/
theorem krun {c : KrunCall} (hread : c.args.mapM readArg = some values) :
    Marshals K (do
      let ret ← Ffi.krun K c
      ofExcept (Ffi.check c.function ret)) h h False c.function values := by
  refine ⟨False.elim, fun _ => ⟨c, rfl, hread, ?_⟩⟩
  rw [callResult]
  generalize hK : K c ⟨h.engine.lib, h.fs⟩ = answer
  obtain ⟨ret, lib⟩ := answer
  have hcall : Ffi.krun K c h = .ok ret ⟨⟨lib.engine, h.engine.calls ++ [c]⟩, lib.fs⟩ := by
    rw [Ffi.krun, hK]
  rw [EStateM.bind_ok hcall, Ffi.check]
  -- The code checks for a negative code
  by_cases hret : ret < 0
  · rw [if_pos hret]
    exact (if_neg (Int32.not_le.mpr hret)).symm
  · rw [if_neg hret]
    exact (if_pos (Int32.not_lt.mp hret)).symm

/-- A step before the checks that succeeds. -/
theorem after {α : Type} {m : EngineM (Libkrun κ) α} {f : α → EngineM (Libkrun κ) Unit} {a : α}
    (hm : m h = .ok a h') (hf : Marshals K (f a) h' h' bad function values) :
    Marshals K (m >>= f) h h' bad function values := by
  have hrun : (m >>= f) h = f a h' := EStateM.bind_ok hm
  refine ⟨fun hbad => ?_, fun hgood => ?_⟩
  · rw [hrun]
    exact hf.refuses hbad
  · rw [hrun]
    exact hf.calls hgood

/-- An argument that has to be checked first. -/
theorem check {α : Type} {x : Except TateruError α} {f : α → EngineM (Libkrun κ) Unit}
    {badArg : Prop}
    (hx : (badArg ∧ ∃ e, x = .error e) ∨ (¬ badArg ∧ ∃ a, x = .ok a ∧
      Marshals K (f a) h h bad function values)) :
    Marshals K (do f (← ofExcept x)) h h (badArg ∨ bad) function values := by
  rcases hx with ⟨hbad, e, rfl⟩ | ⟨hgood, a, rfl, hf⟩
  · exact ⟨fun _ => ⟨e, EStateM.bind_error rfl⟩, fun hnot => absurd (Or.inl hbad) hnot⟩
  · refine after rfl (hf.of_iff ?_)
    exact (or_iff_right hgood).symm

theorem checkString {s : String} {f : CString → EngineM (Libkrun κ) Unit}
    (hf : ∀ c, c.bytes = utf8 s → Marshals K (f c) h h bad function values) :
    Marshals K (do f (← ofExcept (Ffi.strToCstring s))) h h (IsCut s ∨ bad) function values :=
  check ((strToCstring_cases s).imp (And.imp_right fun herr => ⟨_, herr⟩)
    (And.imp_right fun ⟨c, hc, hbytes⟩ => ⟨c, hc, hf c hbytes⟩))

theorem checkPath {p : PathBuf} {f : CString → EngineM (Libkrun κ) Unit}
    (hf : ∀ c, c.bytes = p.bytes → Marshals K (f c) h h bad function values) :
    Marshals K (do f (← ofExcept (Ffi.pathToCstring p))) h h (IsBadPath p ∨ bad) function
      values :=
  check ((pathToCstring_cases p).imp (And.imp_right fun herr => ⟨_, herr⟩)
    (And.imp_right fun ⟨c, hc, hbytes⟩ => ⟨c, hc, hf c hbytes⟩))

theorem checkStrings {ss : List String} {f : List CString → EngineM (Libkrun κ) Unit}
    (hf : ∀ cs, cs.map CString.bytes = ss.map utf8 →
      Marshals K (f cs) h h bad function values) :
    Marshals K (do f (← ofExcept (ss.mapM Ffi.strToCstring))) h h ((∃ s ∈ ss, IsCut s) ∨ bad)
      function values :=
  check ((mapM_strToCstring_cases ss).imp_right
    (And.imp_right fun ⟨cs, hcs, hbytes⟩ => ⟨cs, hcs, hf cs hbytes⟩))

end Marshals

/-! ## The wrappers -/

theorem addDisk_marshals (ctxId : UInt32) (blockId : String) (diskPath : PathBuf)
    (format : UInt32) (readOnly : Bool) :
    Marshals K (Ffi.addDisk K ctxId blockId diskPath format readOnly) h h
      (IsCut blockId ∨ IsBadPath diskPath) "krun_add_disk2"
      [.u32 ctxId, .str (utf8 blockId), .str diskPath.bytes, .u32 format, .bool readOnly] := by
  unfold Ffi.addDisk
  refine .of_iff (by rw [or_false]) (.checkString fun cBlockId hid => .checkPath fun cPath hpath =>
    .krun (c := .addDisk2 ctxId cBlockId cPath format readOnly) ?_)
  simp [KrunCall.args, hid, hpath]

theorem addVirtiofs_marshals (ctxId : UInt32) (tag : String) (path : PathBuf) :
    Marshals K (Ffi.addVirtiofs K ctxId tag path) h h (IsCut tag ∨ IsBadPath path)
      "krun_add_virtiofs" [.u32 ctxId, .str (utf8 tag), .str path.bytes] := by
  unfold Ffi.addVirtiofs
  refine .of_iff (by rw [or_false]) (.checkString fun cTag htag => .checkPath fun cPath hpath =>
    .krun (c := .addVirtiofs ctxId cTag cPath) ?_)
  simp [KrunCall.args, htag, hpath]

theorem setConsoleOutput_marshals (ctxId : UInt32) (path : PathBuf) :
    Marshals K (Ffi.setConsoleOutput K ctxId path) h h (IsBadPath path)
      "krun_set_console_output" [.u32 ctxId, .str path.bytes] := by
  unfold Ffi.setConsoleOutput
  refine .of_iff (by rw [or_false]) (.checkPath fun cPath hpath =>
    .krun (c := .setConsoleOutput ctxId cPath) ?_)
  simp [KrunCall.args, hpath]

theorem setSmbiosOemStrings_marshals (ctxId : UInt32) (strings : List String) :
    Marshals K (Ffi.setSmbiosOemStrings K ctxId strings) h h (∃ s ∈ strings, IsCut s)
      "krun_set_smbios_oem_strings" [.u32 ctxId, .strs (strings.map utf8)] := by
  unfold Ffi.setSmbiosOemStrings
  refine .of_iff (by rw [or_false]) (.checkStrings fun cStrings hstrings =>
    .krun (c := .setSmbiosOemStrings ctxId cStrings) ?_)
  simp [KrunCall.args, hstrings]

/-- The registration of a socket, after an unlink that has not failed. -/
theorem addVsockPort_marshals {ctxId port : UInt32} {socketPath : PathBuf}
    (hunlink : Ffi.unlinkStale socketPath h = .ok () h') :
    Marshals K (Ffi.addVsockPort K ctxId port socketPath) h h' (IsBadPath socketPath)
      "krun_add_vsock_port2" [.u32 ctxId, .u32 port, .str socketPath.bytes, .bool true] := by
  unfold Ffi.addVsockPort
  refine .after hunlink (.of_iff (by rw [or_false]) (.checkPath fun cPath hpath =>
    .krun (c := .addVsockPort2 ctxId port cPath true) ?_))
  simp [KrunCall.args, hpath]

/-! ## The unlink -/

/-- A bad socket path is refused after the unlink, if that has not failed. -/
theorem addVsockPort_of_isBadPath {ctxId port : UInt32} {p : PathBuf} (hbad : IsBadPath p) :
    Ffi.addVsockPort K ctxId port p h = match Ffi.unlinkStale p h with
      | .ok () h' => .error (.invalidPath p) h'
      | .error e h' => .error e h' := by
  have hpath : Ffi.pathToCstring p = .error (.invalidPath p) := by
    rcases pathToCstring_cases p with ⟨-, herr⟩ | ⟨hgood, -⟩
    · exact herr
    · exact absurd hbad hgood
  unfold Ffi.addVsockPort
  cases hunlink : Ffi.unlinkStale p h with
  | ok u h' =>
    rw [EStateM.bind_ok hunlink]
    exact EStateM.bind_error (by rw [hpath]; rfl)
  | error e h' => exact EStateM.bind_error hunlink

/-- Without a call of the C library, a bad socket path is an error. -/
theorem addVsockPort_refuses {ctxId port : UInt32} {p : PathBuf} (hbad : IsBadPath p)
    (h : Host (Libkrun κ)) :
    ∃ e h', Ffi.addVsockPort K ctxId port p h = .error e h' ∧ h'.engine = h.engine := by
  have hengine := unlinkStale_engine p h
  rw [addVsockPort_of_isBadPath hbad]
  cases hunlink : Ffi.unlinkStale p h with
  | ok u h' =>
    rw [hunlink] at hengine
    exact ⟨_, h', rfl, hengine⟩
  | error e h' =>
    rw [hunlink] at hengine
    exact ⟨e, h', rfl, hengine⟩

end

/-! ## The engine -/

/-- The block id of a disk has no NUL in it. -/
theorem not_isCut_blockId (index : Nat) : ¬ IsCut ("disk" ++ toString index) := by
  have hplain : ∀ c ∈ ("disk" ++ toString index).toList, c.utf8Size = 1 ∧ c ≠ '\x00' := by
    intro c hc
    rw [String.toList_append, List.mem_append] at hc
    rcases hc with hc | hc
    · have hall : "disk".toList.all (fun c => c.utf8Size = 1 ∧ c ≠ '\x00') = true := by decide
      exact of_decide_eq_true (List.all_eq_true.mp hall c hc)
    · have hdigit := Str.isDigit_of_mem_repr hc
      refine ⟨Str.utf8Size_of_isDigit hdigit, ?_⟩
      rintro rfl
      exact absurd hdigit (by decide)
  intro hcut
  have hmem := Str.mem_of_mem_bytes (d := '\x00') (fun c hc => (hplain c hc).1) (by decide) hcut
  exact (hplain _ hmem).2 rfl

/-- **What reaches libkrun is what was given, or nothing.** On all arguments, each method of the
    libkrun engine that takes strings refuses them without a call if one has a NUL in it or a
    path is not UTF-8; otherwise it makes exactly one call, whose arguments C reads as the bytes
    of the strings, in their places, and it succeeds if the return code is not negative, and
    otherwise reports the code. The registration of a socket does so after its unlink, and
    refuses a bad path with or without it. -/
theorem marshalled {κ : Type} (K : Krun κ) (ctx : CtxId) (h : Host (Libkrun κ)) :
    (∀ disk index, Marshals K ((LibkrunEngine.engine K).addDisk ctx disk index) h h
      (IsBadPath disk.path) "krun_add_disk2"
      [.u32 ctx.raw, .str (utf8 ("disk" ++ toString index)), .str disk.path.bytes,
        .u32 disk.format.toFfi, .bool disk.readOnly]) ∧
    (∀ mount, Marshals K ((LibkrunEngine.engine K).addVirtiofs ctx mount) h h
      (IsCut mount.mountTag ∨ IsBadPath mount.hostPath) "krun_add_virtiofs"
      [.u32 ctx.raw, .str (utf8 mount.mountTag), .str mount.hostPath.bytes]) ∧
    (∀ port : VsockPort,
      (IsBadPath port.hostSocket → ∃ e h',
        (LibkrunEngine.engine K).addVsockPort ctx port h = .error e h' ∧ h'.engine = h.engine) ∧
      ∀ h', Ffi.unlinkStale port.hostSocket h = .ok () h' → h'.engine = h.engine ∧
        Marshals K ((LibkrunEngine.engine K).addVsockPort ctx port) h h'
          (IsBadPath port.hostSocket) "krun_add_vsock_port2"
          [.u32 ctx.raw, .u32 port.guestPort.raw, .str port.hostSocket.bytes, .bool true]) ∧
    (∀ console, Marshals K ((LibkrunEngine.engine K).setConsoleOutput ctx console) h h
      (IsBadPath console.logPath) "krun_set_console_output"
      [.u32 ctx.raw, .str console.logPath.bytes]) ∧
    (∀ strings, Marshals K ((LibkrunEngine.engine K).setSmbiosOemStrings ctx strings) h h
      (∃ s ∈ strings, IsCut s) "krun_set_smbios_oem_strings"
      [.u32 ctx.raw, .strs (strings.map utf8)]) := by
  refine ⟨?disk, ?virtiofs, ?vsock, ?console, ?smbios⟩
  case disk =>
    intro disk index
    refine .of_iff ?_ (addDisk_marshals _ _ _ _ _)
    exact or_iff_right (not_isCut_blockId index)
  case virtiofs => exact fun mount => addVirtiofs_marshals _ _ _
  case vsock =>
    intro port
    refine ⟨fun hbad => addVsockPort_refuses hbad h, fun h' hunlink => ⟨?_, ?_⟩⟩
    · have hengine := unlinkStale_engine port.hostSocket h
      rwa [hunlink] at hengine
    · exact addVsockPort_marshals hunlink
  case console => exact fun console => setConsoleOutput_marshals _ _
  case smbios => exact fun strings => setSmbiosOemStrings_marshals _ _

/-! ## Refusing a socket path -/

/-- **A bad socket path is refused without an effect only where there is nothing.** A path that
    is no C string is refused as invalid, without a call of the C library and with the file system
    as it was, if and only if it has no NUL in it and the operating system says `NotFound` of it: a
    file there is removed first, and any other failure of the removal is what is reported. -/
theorem rejected_without_effect_iff {κ : Type} (K : Krun κ) (ctxId port : UInt32) {p : PathBuf}
    (h : Host (Libkrun κ)) (hbad : IsBadPath p) :
    Ffi.addVsockPort K ctxId port p h = .error (.invalidPath p) h ↔
      0 ∉ p.bytes ∧ h.fs.isMissing p := by
  rw [addVsockPort_of_isBadPath hbad]
  rcases unlinkStale_cases p h with ⟨hnul, hmissing, hunlink⟩ | ⟨hremove, hunlink⟩ |
    ⟨hother, e, hunlink⟩
  · rw [hunlink]
    exact iff_of_true rfl ⟨hnul, hmissing⟩
  -- The file is gone when the path is refused
  · rw [hunlink]
    refine iff_of_false (fun heq => ?_) fun ⟨_, e, hmissing, _⟩ => ?_
    · have hfs := congrArg (fun r => r.state.fs.node (h.fs.entry p)) heq
      simp [FileSys.set_node, FileSys.node_of_canRemove hremove] at hfs
    · exact nomatch hmissing.symm.trans hremove.2
  · rw [hunlink]
    refine iff_of_false (fun heq => by simp at heq) fun hnone => ?_
    exact hother.elim hnone.1 fun hfound => hfound hnone.2

/-- With nothing at its place, the path `/t\xFF` is refused without an effect. -/
theorem rejected_without_effect_iff_absent :
    let h : Host (Libkrun Unit) := ⟨⟨(), []⟩, .ofDirs []⟩
    Ffi.addVsockPort (fun _ h => (0, h)) 0 22 ⟨[0x2F, 0x74, 0xFF]⟩ h =
      .error (.invalidPath ⟨[0x2F, 0x74, 0xFF]⟩) h := by
  intro h
  exact (rejected_without_effect_iff (fun _ h => (0, h)) 0 22 h
    (isBadPath_of_toStr (by decide +kernel))).mpr
    ⟨by decide, (FileSys.isMissing_iff rfl).mpr ⟨by decide, Or.inr rfl⟩⟩

/-- A file at the path `/t\xFF` is gone when the path is refused. The path `/t\x00`, and a path
    `/f/\xFF` below a file, are not refused as invalid. -/
theorem rejected_path_unlinked :
    let p : PathBuf := ⟨[0x2F, 0x74, 0xFF]⟩
    let q : PathBuf := ⟨[0x2F, 0x74, 0x00]⟩
    let r : PathBuf := ⟨[0x2F, 0x66, 0x2F, 0xFF]⟩
    let fs : FileSys := ((FileSys.ofDirs [[]]).set [[0x74, 0xFF]] (some (.file true))).set [[0x66]]
      (some (.file true))
    let h : Host (Libkrun Unit) := ⟨⟨(), []⟩, fs⟩
    let K : Krun Unit := fun _ h => (0, h)
    (IsBadPath p ∧ fs.node (fs.entry p) = some (.file true) ∧
      ∃ h', Ffi.addVsockPort K 0 22 p h = .error (.invalidPath p) h' ∧
        h'.fs.node (fs.entry p) = none) ∧
    (IsBadPath q ∧
      ∃ e, Ffi.addVsockPort K 0 22 q h = .error (.bridgeIo e) h) ∧
    IsBadPath r ∧
      Ffi.addVsockPort K 0 22 r h = .error (.bridgeIo ⟨.notADirectory, "Not a directory"⟩) h := by
  intro p q r fs h K
  have hp : IsBadPath p := isBadPath_of_toStr (by decide +kernel)
  have hq : IsBadPath q := Or.inr (by decide)
  have hr : IsBadPath r := isBadPath_of_toStr (by decide +kernel)
  refine ⟨⟨hp, by decide, ?_⟩, ⟨hq, ?_⟩, hr, ?_⟩
  · exact ⟨_, (addVsockPort_of_isBadPath hp).trans rfl, by decide⟩
  · exact ⟨_, (addVsockPort_of_isBadPath hq).trans rfl⟩
  · exact (addVsockPort_of_isBadPath hr).trans rfl

end Tateru.Spec
