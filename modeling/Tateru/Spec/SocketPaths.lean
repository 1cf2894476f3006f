import Tateru.Native.Launch

/-!
# The paths of working directories and sockets

The directory of a context and the socket of a guest port are told apart by the number in
their names, so different contexts have unrelated directories.

## Key results

- `entry_workdir`, `entry_bridgeSocket`: where the directories and sockets are
- `dirName_inj`, `socketName_inj`: the names determine the numbers
-/

namespace Tateru.Spec

/-- A longer ASCII name without a slash stands for itself in a path. -/
private theorem isPlain_ofString {s : String} (h : ∀ c ∈ s.toList, c.utf8Size = 1)
    (hsep : '/' ∉ s.toList) (hlen : 2 < s.toList.length) :
    Name.isPlain (PathBuf.ofString s).bytes = true := by
  have hbytes : (PathBuf.ofString s).bytes = s.toList.map fun c => c.val.toUInt8 :=
    Str.bytes_of_ascii h
  have hne : ∀ l : List UInt8, l.length ≤ 2 → (PathBuf.ofString s).bytes ≠ l := by
    rintro l hl rfl
    rw [hbytes, List.length_map] at hl
    omega
  have hmem : PathBuf.sep ∉ (PathBuf.ofString s).bytes :=
    fun hmem => hsep (Str.mem_of_mem_bytes h (by decide) hmem)
  simp only [Name.isPlain, Bool.and_eq_true, decide_eq_true_eq, Bool.not_eq_true',
    List.contains_eq_mem, decide_eq_false_iff_not]
  exact ⟨⟨⟨hne _ (by simp), hne _ (by simp)⟩, hne _ (by simp)⟩, hmem⟩

/-- The decimal digits of a number are ASCII, and none is a slash. -/
private theorem digit_of_mem_toString {n : UInt32} {c : Char} (h : c ∈ (toString n).toList) :
    c.utf8Size = 1 ∧ c ≠ '/' := by
  have hdigit : c.isDigit = true := Str.isDigit_of_mem_repr h
  refine ⟨Str.utf8Size_of_isDigit hdigit, ?_⟩
  rintro rfl
  exact absurd hdigit (by decide)

/-- A number between two ASCII strings without slashes makes a name. -/
private theorem isPlain_numbered (before after : String) (n : UInt32)
    (hascii : (before.toList ++ after.toList).all (fun c => c.utf8Size = 1 ∧ c ≠ '/') = true)
    (hlen : 2 < before.toList.length) :
    Name.isPlain (PathBuf.ofString (before ++ toString n ++ after)).bytes = true := by
  have hall : ∀ c ∈ (before ++ toString n ++ after).toList, c.utf8Size = 1 ∧ c ≠ '/' := by
    intro c hc
    simp only [String.toList_append, List.mem_append] at hc
    -- The characters before, in and after the number
    rcases hc with (hc | hc) | hc
    · exact of_decide_eq_true (List.all_eq_true.mp hascii c (List.mem_append_left _ hc))
    · exact digit_of_mem_toString hc
    · exact of_decide_eq_true (List.all_eq_true.mp hascii c (List.mem_append_right _ hc))
  refine isPlain_ofString (fun c hc => (hall c hc).1) (fun hc => (hall _ hc).2 rfl) ?_
  simp only [String.toList_append, List.length_append]
  omega

/-- Names are told apart by the number between their ends. -/
private theorem numbered_inj (before after : String) {n n' : UInt32}
    (h : PathBuf.ofString (before ++ toString n ++ after) =
      PathBuf.ofString (before ++ toString n' ++ after)) : n = n' := by
  have hlist := congrArg String.toList (Str.bytes_inj (congrArg PathBuf.bytes h))
  simp only [String.toList_append, List.append_cancel_right_eq,
    List.append_cancel_left_eq, String.toList_inj] at hlist
  exact UInt32.toNat_inj.mp (Str.repr_inj hlist)

/-! ## Names -/

theorem isPlain_dirName (ctx : CtxId) : Name.isPlain ctx.dirName.bytes = true := by
  have h := isPlain_numbered "tateru-" "" ctx.raw (by decide) (by decide)
  rwa [String.append_empty] at h

theorem isPlain_socketName (g : GuestPort) : Name.isPlain g.socketName.bytes = true :=
  isPlain_numbered "vsock-" ".sock" g.raw (by decide) (by decide)

/-- The name of a directory determines its context. -/
theorem dirName_inj {ctx ctx' : CtxId} (h : ctx.dirName.bytes = ctx'.dirName.bytes) :
    ctx = ctx' := by
  have hraw : ctx.raw = ctx'.raw := by
    apply numbered_inj "tateru-" ""
    rw [String.append_empty, String.append_empty]
    exact congrArg PathBuf.mk h
  cases ctx; cases ctx'
  exact congrArg CtxId.mk hraw

/-- The name of a socket determines its guest port. -/
theorem socketName_inj {g g' : GuestPort} (h : g.socketName.bytes = g'.socketName.bytes) :
    g = g' := by
  have hraw : g.raw = g'.raw := numbered_inj "vsock-" ".sock" (congrArg PathBuf.mk h)
  cases g; cases g'
  exact congrArg GuestPort.mk hraw

/-! ## Entries -/

/-- A working directory is in the directory for temporary files. -/
theorem entry_workdir (fs : FileSys) (env : Env) (ctx : CtxId) :
    fs.entry (env.workdir ctx) = fs.entry env.tempDir ++ [ctx.dirName.bytes] :=
  fs.resolution.entry_join _ _ (isPlain_dirName ctx)

/-- The socket of a bridge is in the working directory. -/
theorem entry_bridgeSocket (fs : FileSys) (workdir : PathBuf) (g : GuestPort) :
    fs.entry (workdir.bridgeSocket g) = fs.entry workdir ++ [g.socketName.bytes] :=
  fs.resolution.entry_join _ _ (isPlain_socketName g)

theorem length_entry_workdir (fs : FileSys) (env : Env) (ctx : CtxId) :
    (fs.entry (env.workdir ctx)).length = (fs.entry env.tempDir).length + 1 := by
  rw [entry_workdir, List.length_append, List.length_singleton]

/-- All sockets of working directories are equally far down. -/
theorem length_entry_bridgeSocket (fs : FileSys) (env : Env) (ctx : CtxId) (g : GuestPort) :
    (fs.entry ((env.workdir ctx).bridgeSocket g)).length =
      (fs.entry env.tempDir).length + 2 := by
  rw [entry_bridgeSocket, List.length_append, length_entry_workdir, List.length_singleton]

/-- Working directories of different contexts are not inside each other. -/
theorem entry_workdir_prefix_iff {fs : FileSys} {env : Env} {ctx ctx' : CtxId}
    {names : List Name} :
    fs.entry (env.workdir ctx) <+: fs.entry (env.workdir ctx') ++ names ↔ ctx = ctx' := by
  rw [entry_workdir, entry_workdir, List.append_assoc, List.prefix_append_right_inj,
    List.singleton_append, List.cons_prefix_cons]
  constructor
  · exact fun h => dirName_inj h.1
  · intro h
    rw [h]
    exact ⟨rfl, List.nil_prefix⟩

theorem entry_workdir_ne_nil (fs : FileSys) (env : Env) (ctx : CtxId) :
    fs.entry (env.workdir ctx) ≠ [] := by
  rw [entry_workdir]
  simp

end Tateru.Spec
