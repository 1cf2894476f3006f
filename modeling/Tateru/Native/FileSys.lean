import Tateru.Native.Error
import Mathlib.Data.List.Infix

/-!
# The file system

The calls of `std::fs` that the program makes: `create_dir_all`, `remove_file` and
`remove_dir_all`, on a map from directory entries to what is there.

Which entry a path names is up to the operating system, which may follow links and `..`; a
`Resolution` only promises that a plain name joined to a directory names that entry of the
directory. Every call reports an error in the way `std` documents. What the operating system
refuses is a part of the model: `blocked` for the paths that it does not follow to their end,
`denied` for the directories that it does not create.

## Key results

- `isMissing_iff`: when nothing is found at a path
- `removeFile_node`, `removeDirAll_node`: what the removals leave alone
- `createDirAll_ok`, `createDirAll_error`: what creating a directory leaves behind
-/

namespace Tateru

/-- A file name: one component of a path. -/
abbrev Name := List UInt8

/-- A place in the file system: the names that lead to it from the root. -/
abbrev Entry := List Name

/-- A name that stands for itself in a path. -/
def Name.isPlain (n : Name) : Bool :=
  n ≠ [] && n ≠ [0x2E] && n ≠ [0x2E, 0x2E] && !n.contains PathBuf.sep

/-- How the operating system resolves paths. It gives up on a path in `blocked`, whatever is at
    its entry: a name is too long, links go in a loop, a directory may not be searched, or one that
    is left by `..` is not there. -/
structure Resolution where
  entry : PathBuf → Entry
  blocked : PathBuf → Option IoError
  entry_join : ∀ dir name : PathBuf, Name.isPlain name.bytes = true →
    entry (dir.join name) = entry dir ++ [name.bytes]

namespace Resolution

/-- The parts of a path between its slashes. -/
def components : List UInt8 → List Name
  | [] => [[]]
  | b :: bs =>
    if b = PathBuf.sep then [] :: components bs
    else
      match components bs with
      | [] => [[b]]
      | name :: names => (b :: name) :: names

private theorem components_ne_nil (bs : List UInt8) : components bs ≠ [] := by
  cases bs with
  | nil => exact List.cons_ne_nil _ _
  | cons b bs =>
    unfold components
    split
    · exact List.cons_ne_nil _ _
    · split <;> exact List.cons_ne_nil _ _

private theorem components_append_sep (xs ys : List UInt8) :
    components (xs ++ PathBuf.sep :: ys) = components xs ++ components ys := by
  induction xs with
  | nil => simp [components]
  | cons x xs ih =>
    rw [List.cons_append, components, components]
    split
    · rw [ih, List.cons_append]
    · rw [ih]
      cases hxs : components xs with
      | nil => exact absurd hxs (components_ne_nil xs)
      | cons name names => rfl

private theorem components_of_not_mem {bs : List UInt8} (h : PathBuf.sep ∉ bs) :
    components bs = [bs] := by
  induction bs with
  | nil => rfl
  | cons b bs ih =>
    rw [List.mem_cons, not_or] at h
    rw [components, if_neg (Ne.symm h.1), ih h.2]

/-- A plain name that is joined to a directory is the last component. -/
private theorem components_join (dir : PathBuf) {name : PathBuf}
    (h : Name.isPlain name.bytes = true) :
    ∃ front, components (dir.join name).bytes = front ++ [name.bytes] ∧
      front.filter (· ≠ []) = (components dir.bytes).filter (· ≠ []) := by
  simp only [Name.isPlain, Bool.and_eq_true, Bool.not_eq_true', List.contains_eq_mem,
    decide_eq_false_iff_not] at h
  -- A plain name has no slash in it, so it is one component
  have hname : components name.bytes = [name.bytes] := components_of_not_mem h.2
  have hhead : name.bytes.head? ≠ some PathBuf.sep :=
    fun hhead => h.2 (List.mem_of_head? hhead)
  unfold PathBuf.join
  rw [if_neg hhead]
  split
  · rename_i hdir
    -- Joined to the empty path, or to one that already ends in a slash
    rcases hdir with hdir | hdir
    · exact ⟨[], by rw [hdir, List.nil_append, hname, List.nil_append], by simp [hdir, components]⟩
    · obtain ⟨d, hd⟩ := List.getLast?_eq_some_iff.mp hdir
      refine ⟨components d, ?_, ?_⟩
      · rw [hd, List.append_assoc, List.singleton_append, components_append_sep, hname]
      · rw [hd, components_append_sep]
        simp [components]
  · exact ⟨components dir.bytes, by rw [components_append_sep, hname], rfl⟩

/-- Go on to a component of a path. -/
def follow (e : Entry) (name : Name) : Entry :=
  if name = [0x2E] then e
  else if name = [0x2E, 0x2E] then e.dropLast
  else e ++ [name]

/-- The resolution that reads a path from left to right, where nothing is a link and a name has
    at most 255 bytes. -/
def lexical : Resolution where
  entry p := ((components p.bytes).filter (· ≠ [])).foldl follow []
  blocked p :=
    if (components p.bytes).any (255 < ·.length) then
      some ⟨.invalidFilename, "File name too long"⟩
    else none
  entry_join dir name h := by
    obtain ⟨front, hjoin, hfront⟩ := components_join dir h
    simp only [Name.isPlain, Bool.and_eq_true, decide_eq_true_eq] at h
    obtain ⟨⟨⟨hne, hdot⟩, hdots⟩, -⟩ := h
    rw [hjoin, List.filter_append, hfront, List.foldl_append]
    simp [hne, follow, hdot, hdots]

end Resolution

/-- A path that ends in a slash, in `.` or in `..`, which is no path to a file. -/
def PathBuf.namesDir (p : PathBuf) : Bool :=
  !(Resolution.components p.bytes).getLast?.any Name.isPlain

/-- The path to a plain name in a directory can be that of a file. -/
theorem PathBuf.namesDir_join {dir name : PathBuf} (h : Name.isPlain name.bytes = true) :
    (dir.join name).namesDir = false := by
  obtain ⟨front, hjoin, -⟩ := Resolution.components_join dir h
  rw [namesDir, hjoin, List.getLast?_concat, Option.any_some, h]
  rfl

/-- What an entry holds. -/
inductive Node where
  | dir
  | file (removable : Bool)
deriving DecidableEq, Repr

def Node.isFile : Node → Bool
  | .dir => false
  | .file _ => true

structure FileSys where
  resolution : Resolution
  node : Entry → Option Node
  denied : Entry → Option IoError

namespace FileSys

/-- The entry that a path names. -/
def entry (fs : FileSys) (p : PathBuf) : Entry :=
  fs.resolution.entry p

/-- Replace what an entry holds. -/
def set (fs : FileSys) (e : Entry) (n : Option Node) : FileSys :=
  { fs with node := fun e' => if e' = e then n else fs.node e' }

/-- The file system in which exactly the entries `dirs` are, all directories. -/
def ofDirs (dirs : List Entry) : FileSys where
  resolution := .lexical
  node e := if e ∈ dirs then some .dir else none
  denied _ := none

/-- There is a file above an entry, so that nothing is found at the entry. -/
def fileAbove (fs : FileSys) (e : Entry) : Bool :=
  e.dropLast.inits.any fun above => (fs.node above).any Node.isFile

/-- What the operating system finds at a path. -/
def lookup (fs : FileSys) (p : PathBuf) : Except IoError Node :=
  match fs.resolution.blocked p with
  | some e => .error e
  | none =>
    if fs.fileAbove (fs.entry p) then .error ⟨.notADirectory, "Not a directory"⟩
    else
      -- The empty path names nothing
      match if p.bytes = [] then none else fs.node (fs.entry p) with
      | none => .error ⟨.notFound, "No such file or directory"⟩
      | some .dir => .ok .dir
      | some (.file removable) =>
        if p.namesDir then .error ⟨.notADirectory, "Not a directory"⟩ else .ok (.file removable)

/-- `Path::exists`. -/
def pathExists (fs : FileSys) (p : PathBuf) : Bool :=
  !p.bytes.contains 0 && (fs.lookup p).isOk

/-- `std::fs::remove_file`. -/
def removeFile (fs : FileSys) (p : PathBuf) : Except IoError Unit × FileSys :=
  -- The operating system is not asked about a path with a NUL in it
  if p.bytes.contains 0 then
    (.error ⟨.invalidInput, "file name contained an unexpected NUL byte"⟩, fs)
  else
    match fs.lookup p with
    | .error e => (.error e, fs)
    -- `unlink` does not remove directories
    | .ok .dir => (.error ⟨.isADirectory, "Is a directory"⟩, fs)
    | .ok (.file false) => (.error ⟨.permissionDenied, "Permission denied"⟩, fs)
    | .ok (.file true) => (.ok (), fs.set (fs.entry p) none)

/-- `std::fs::create_dir_all`, for the directories `rest` below the directory `above`. -/
def createDirsFrom (fs : FileSys) (above : Entry) : List Name → Except IoError Unit × FileSys
  | [] => (.ok (), fs)
  | name :: rest =>
    let e := above ++ [name]
    match fs.node e with
    -- An existing directory is fine: only what is missing is made
    | some .dir => fs.createDirsFrom e rest
    -- A file at the place of the directory itself, or above it
    | some (.file _) =>
      (.error (if rest = [] then ⟨.alreadyExists, "File exists"⟩
        else ⟨.notADirectory, "Not a directory"⟩), fs)
    -- What was made above `e` stays if making `e` is refused
    | none =>
      match fs.denied e with
      | some err => (.error err, fs)
      | none => (fs.set e (some .dir)).createDirsFrom e rest

/-- `std::fs::create_dir_all`. All that the operating system refuses on the way is in `denied`. -/
def createDirAll (fs : FileSys) (p : PathBuf) : Except IoError Unit × FileSys :=
  fs.createDirsFrom [] (fs.entry p)

/-- `std::fs::remove_dir_all`, where the operating system is assumed to let go of everything in the
    directory. -/
def removeDirAll (fs : FileSys) (p : PathBuf) : Except IoError Unit × FileSys :=
  match fs.node (fs.entry p) with
  | some .dir =>
    (.ok (), { fs with node := fun e => if fs.entry p <+: e then none else fs.node e })
  | some (.file _) => (.error ⟨.notADirectory, "Not a directory"⟩, fs)
  | none => (.error ⟨.notFound, "No such file or directory"⟩, fs)

theorem set_node (fs : FileSys) (e e' : Entry) (n : Option Node) :
    (fs.set e n).node e' = if e' = e then n else fs.node e' := rfl

@[simp] theorem set_entry (fs : FileSys) (e : Entry) (n : Option Node) (p : PathBuf) :
    (fs.set e n).entry p = fs.entry p := rfl

/-! ## What is found at a path -/

/-- The operating system finds nothing at the path, and says `NotFound`. -/
def isMissing (fs : FileSys) (p : PathBuf) : Prop :=
  ∃ e, fs.lookup p = .error e ∧ e.kind = .notFound

/-- What is found at a path is at its entry. -/
theorem node_of_lookup {fs : FileSys} {p : PathBuf} {n : Node} (h : fs.lookup p = .ok n) :
    fs.node (fs.entry p) = some n := by
  unfold lookup at h
  split at h
  · cases h
  · split at h
    · cases h
    · split at h
      · cases h
      · rename_i hnode
        rw [(Option.ite_none_left_eq_some.mp hnode).2, Except.ok.inj h]
      · rename_i removable hnode
        split at h
        · cases h
        · rw [(Option.ite_none_left_eq_some.mp hnode).2, Except.ok.inj h]

/-- Nothing is found at a path that is empty, or whose entry is absent, if no file is above it and
    the operating system follows it to its end. -/
theorem isMissing_iff {fs : FileSys} {p : PathBuf} (hblocked : fs.resolution.blocked p = none) :
    fs.isMissing p ↔
      fs.fileAbove (fs.entry p) = false ∧ (p.bytes = [] ∨ fs.node (fs.entry p) = none) := by
  unfold isMissing lookup
  rw [hblocked]
  dsimp only
  cases habove : fs.fileAbove (fs.entry p) with
  | true => simp
  | false =>
    rw [if_neg Bool.false_ne_true]
    by_cases hempty : p.bytes = []
    · simp [hempty]
    · rw [if_neg hempty]
      cases hnode : fs.node (fs.entry p) with
      | none => simp
      | some n =>
        cases n with
        | dir => simp [hempty]
        | file removable =>
          -- A file is not what the path names, or it is found
          dsimp only
          split
          · simp [hempty]
          · simp [hempty]

theorem pathExists_of_isMissing {fs : FileSys} {p : PathBuf} (h : fs.isMissing p) :
    fs.pathExists p = false := by
  obtain ⟨e, he, -⟩ := h
  rw [pathExists, he]
  exact Bool.and_false _

/-- Nothing exists at an entry that has been emptied. -/
theorem pathExists_set_none (fs : FileSys) (p : PathBuf) :
    (fs.set (fs.entry p) none).pathExists p = false := by
  rw [pathExists]
  cases hfound : (fs.set (fs.entry p) none).lookup p with
  | error e => exact Bool.and_false _
  | ok n =>
    have hnode := node_of_lookup hfound
    rw [set_entry, set_node, if_pos rfl] at hnode
    cases hnode

/-- Where there are the same files above an entry, the same is found there. -/
theorem fileAbove_congr {fs fs' : FileSys} {e : Entry}
    (h : ∀ above, above <+: e.dropLast →
      (fs'.node above).any Node.isFile = (fs.node above).any Node.isFile) :
    fs'.fileAbove e = fs.fileAbove e := by
  rw [Bool.eq_iff_iff]
  simp only [fileAbove, List.any_eq_true, List.mem_inits]
  refine exists_congr fun above => and_congr_right fun habove => ?_
  rw [h above habove]

/-! ## What the calls leave alone -/

/-- A directory is at the path. -/
def isDir (fs : FileSys) (p : PathBuf) : Prop :=
  fs.node (fs.entry p) = some .dir

instance (fs : FileSys) (p : PathBuf) : Decidable (fs.isDir p) :=
  inferInstanceAs (Decidable (fs.node (fs.entry p) = some .dir))

/-- A file is at the path. -/
def isFile (fs : FileSys) (p : PathBuf) : Prop :=
  ∃ removable, fs.node (fs.entry p) = some (.file removable)

/-- `remove_file` removes what is at the path. -/
def canRemove (fs : FileSys) (p : PathBuf) : Prop :=
  p.bytes.contains 0 = false ∧ fs.lookup p = .ok (.file true)

instance (fs : FileSys) (p : PathBuf) : Decidable (fs.canRemove p) :=
  inferInstanceAs (Decidable (_ ∧ _))

theorem node_of_canRemove {fs : FileSys} {p : PathBuf} (h : fs.canRemove p) :
    fs.node (fs.entry p) = some (.file true) :=
  node_of_lookup h.2

theorem removeFile_of_canRemove {fs : FileSys} {p : PathBuf} (h : fs.canRemove p) :
    (fs.removeFile p).2 = fs.set (fs.entry p) none := by
  simp only [removeFile, h.1, Bool.false_eq_true, if_false, h.2]

theorem removeFile_of_not_canRemove {fs : FileSys} {p : PathBuf} (h : ¬ fs.canRemove p) :
    (fs.removeFile p).2 = fs := by
  unfold removeFile
  split
  · rfl
  · rename_i hnul
    split
    · rfl
    · rfl
    · rfl
    · rename_i hfile
      exact absurd ⟨Bool.not_eq_true _ ▸ hnul, hfile⟩ h

theorem removeDirAll_of_isDir {fs : FileSys} {p : PathBuf} (h : fs.isDir p) :
    (fs.removeDirAll p).2 =
      { fs with node := fun e => if fs.entry p <+: e then none else fs.node e } := by
  simp only [removeDirAll, show fs.node (fs.entry p) = some .dir from h]

theorem removeDirAll_node {fs : FileSys} {p : PathBuf} (h : fs.isDir p) (e : Entry) :
    (fs.removeDirAll p).2.node e = if fs.entry p <+: e then none else fs.node e := by
  rw [removeDirAll_of_isDir h]

theorem removeDirAll_of_not_isDir {fs : FileSys} {p : PathBuf} (h : ¬ fs.isDir p) :
    (fs.removeDirAll p).2 = fs := by
  unfold removeDirAll
  split
  · rename_i hdir
    exact absurd hdir h
  · rfl
  · rfl

@[simp] theorem removeFile_entry (fs : FileSys) (p q : PathBuf) :
    (fs.removeFile p).2.entry q = fs.entry q := by
  by_cases h : fs.canRemove p
  · rw [removeFile_of_canRemove h, set_entry]
  · rw [removeFile_of_not_canRemove h]

@[simp] theorem removeFile_denied (fs : FileSys) (p : PathBuf) :
    (fs.removeFile p).2.denied = fs.denied := by
  by_cases h : fs.canRemove p
  · rw [removeFile_of_canRemove h]
    rfl
  · rw [removeFile_of_not_canRemove h]

@[simp] theorem removeDirAll_entry (fs : FileSys) (p q : PathBuf) :
    (fs.removeDirAll p).2.entry q = fs.entry q := by
  by_cases h : fs.isDir p
  · rw [removeDirAll_of_isDir h]
    rfl
  · rw [removeDirAll_of_not_isDir h]

@[simp] theorem removeDirAll_denied (fs : FileSys) (p : PathBuf) :
    (fs.removeDirAll p).2.denied = fs.denied := by
  by_cases h : fs.isDir p
  · rw [removeDirAll_of_isDir h]
  · rw [removeDirAll_of_not_isDir h]

/-- What is there after a `remove_file` was there before. -/
theorem node_of_removeFile {fs : FileSys} {p : PathBuf} {e : Entry} {n : Node}
    (hn : (fs.removeFile p).2.node e = some n) : fs.node e = some n := by
  by_cases h : fs.canRemove p
  · rw [removeFile_of_canRemove h, set_node] at hn
    exact (Option.ite_none_left_eq_some.mp hn).2
  · rwa [removeFile_of_not_canRemove h] at hn

/-- What is there after a `remove_dir_all` was there before. -/
theorem node_of_removeDirAll {fs : FileSys} {p : PathBuf} {e : Entry} {n : Node}
    (hn : (fs.removeDirAll p).2.node e = some n) : fs.node e = some n := by
  by_cases h : fs.isDir p
  · rw [removeDirAll_node h] at hn
    exact (Option.ite_none_left_eq_some.mp hn).2
  · rwa [removeDirAll_of_not_isDir h] at hn

/-- `remove_file` only touches the entry its path names, and no directory. -/
theorem removeFile_node (fs : FileSys) (p : PathBuf) {e : Entry}
    (he : e ≠ fs.entry p ∨ fs.node e = some .dir) : (fs.removeFile p).2.node e = fs.node e := by
  by_cases h : fs.canRemove p
  · rw [removeFile_of_canRemove h, set_node, if_neg]
    -- What it removes is a file
    rintro rfl
    rcases he with hne | hdir
    · exact hne rfl
    · exact nomatch hdir.symm.trans (node_of_canRemove h)
  · rw [removeFile_of_not_canRemove h]

/-- Everything that is in `fs` is in `fs'`. -/
structure Grows (fs fs' : FileSys) : Prop where
  entry : ∀ p, fs'.entry p = fs.entry p
  node : ∀ e n, fs.node e = some n → fs'.node e = some n

theorem Grows.refl (fs : FileSys) : Grows fs fs :=
  ⟨fun _ => rfl, fun _ _ h => h⟩

/-- Filling an empty entry loses nothing. -/
theorem Grows.set {fs : FileSys} {e : Entry} (h : fs.node e = none) (n : Option Node) :
    Grows fs (fs.set e n) := by
  refine ⟨fun _ => rfl, fun e' n' hn => ?_⟩
  rw [set_node, if_neg]
  · exact hn
  · rintro rfl
    exact nomatch h.symm.trans hn

/-- The two file systems have the same directories. -/
structure SameDirs (fs fs' : FileSys) : Prop where
  entry : ∀ p, fs'.entry p = fs.entry p
  dir : ∀ e, fs'.node e = some .dir ↔ fs.node e = some .dir

namespace SameDirs

theorem refl (fs : FileSys) : SameDirs fs fs :=
  ⟨fun _ => rfl, fun _ => Iff.rfl⟩

theorem trans {fs fs' fs'' : FileSys} (h : SameDirs fs fs') (h' : SameDirs fs' fs'') :
    SameDirs fs fs'' :=
  ⟨fun p => (h'.entry p).trans (h.entry p), fun e => (h'.dir e).trans (h.dir e)⟩

theorem isDir_iff {fs fs' : FileSys} (h : SameDirs fs fs') (p : PathBuf) :
    fs'.isDir p ↔ fs.isDir p := by
  unfold isDir
  rw [h.entry p]
  exact h.dir _

end SameDirs

/-- `remove_file` removes no directory. -/
theorem removeFile_sameDirs (fs : FileSys) (p : PathBuf) :
    SameDirs fs (fs.removeFile p).2 := by
  refine ⟨removeFile_entry fs p, fun e => ?_⟩
  constructor
  · exact node_of_removeFile
  · intro h
    rwa [removeFile_node fs p (Or.inr h)]

/-! ## Creating directories -/

/-- Creating directories changes what entries hold, and nothing else. -/
theorem createDirsFrom_rest (fs : FileSys) (above : Entry) (names : List Name) :
    (fs.createDirsFrom above names).2 =
      { fs with node := (fs.createDirsFrom above names).2.node } := by
  induction names generalizing fs above with
  | nil => rfl
  | cons name rest ih =>
    simp only [createDirsFrom]
    split
    · exact ih fs _
    · rfl
    · split
      · rfl
      · exact ih (fs.set _ _) _

@[simp] theorem createDirsFrom_entry (fs : FileSys) (above : Entry) (names : List Name)
    (q : PathBuf) : (fs.createDirsFrom above names).2.entry q = fs.entry q := by
  rw [createDirsFrom_rest]
  rfl

@[simp] theorem createDirAll_entry (fs : FileSys) (p q : PathBuf) :
    (fs.createDirAll p).2.entry q = fs.entry q :=
  createDirsFrom_entry fs [] _ q

@[simp] theorem createDirsFrom_denied (fs : FileSys) (above : Entry) (names : List Name) :
    (fs.createDirsFrom above names).2.denied = fs.denied := by
  rw [createDirsFrom_rest]

/-- What is there after directories were created was there before, or is one that the operating
    system has not refused to create. -/
theorem node_of_createDirsFrom {fs : FileSys} {above : Entry} {names : List Name} {e : Entry}
    {n : Node} (h : (fs.createDirsFrom above names).2.node e = some n) :
    fs.node e = some n ∨ e <+: above ++ names ∧ n = .dir ∧ fs.denied e = none := by
  induction names generalizing fs above with
  | nil => exact Or.inl h
  | cons name rest ih =>
    simp only [createDirsFrom] at h
    rw [List.append_cons]
    split at h
    · exact ih h
    · exact Or.inl h
    · split at h
      · exact Or.inl h
      · rename_i hallowed
        rcases ih h with hnode | hmade
        · rw [set_node] at hnode
          split at hnode
          -- The directory that is created here
          · rename_i heq
            subst heq
            exact Or.inr ⟨List.prefix_append _ _, (Option.some.inj hnode).symm, hallowed⟩
          · exact Or.inl hnode
        · exact Or.inr hmade

/-- Creating directories keeps what is there. -/
theorem createDirsFrom_node (fs : FileSys) (above : Entry) (names : List Name) {e : Entry}
    {n : Node} (h : fs.node e = some n) :
    (fs.createDirsFrom above names).2.node e = some n := by
  induction names generalizing fs above with
  | nil => exact h
  | cons name rest ih =>
    simp only [createDirsFrom]
    split
    · exact ih fs _ h
    · exact h
    · rename_i hnone
      split
      · exact h
      · apply ih _ _
        rw [set_node, if_neg]
        · exact h
        · rintro rfl
          rw [hnone] at h
          exact nomatch h

theorem createDirAll_grows (fs : FileSys) (p : PathBuf) : Grows fs (fs.createDirAll p).2 :=
  ⟨createDirsFrom_entry fs [] _, fun _ _ h => createDirsFrom_node fs [] _ h⟩

/-- After success the last directory is there, unless it was the one to start from. -/
theorem createDirsFrom_ok {fs : FileSys} {above : Entry} {names : List Name}
    (h : (fs.createDirsFrom above names).1 = .ok ()) (hne : names ≠ []) :
    (fs.createDirsFrom above names).2.node (above ++ names) = some .dir := by
  induction names generalizing fs above with
  | nil => exact absurd rfl hne
  | cons name rest ih =>
    -- The directory `above ++ [name]` is there: the rest is made below it
    have hlast : ∀ fs' : FileSys, fs'.node (above ++ [name]) = some .dir →
        (fs'.createDirsFrom (above ++ [name]) rest).1 = .ok () →
        (fs'.createDirsFrom (above ++ [name]) rest).2.node (above ++ name :: rest)
          = some .dir := by
      intro fs' hdir hok
      cases rest with
      | nil => exact hdir
      | cons name' rest' =>
        have := ih hok (List.cons_ne_nil _ _)
        rwa [List.append_assoc] at this
    rw [createDirsFrom] at h ⊢
    cases hnode : fs.node (above ++ [name]) with
    | some n =>
      cases n with
      | dir =>
        simp only [hnode] at h ⊢
        exact hlast fs hnode h
      | file removable =>
        simp only [hnode] at h
        exact nomatch h
    | none =>
      cases hdenied : fs.denied (above ++ [name]) with
      | some err =>
        simp only [hnode, hdenied] at h
        exact nomatch h
      | none =>
        simp only [hnode, hdenied] at h ⊢
        exact hlast _ (by rw [set_node, if_pos rfl]) h

/-- After a failure the last directory is there only if it was before. -/
theorem createDirsFrom_error {fs : FileSys} {above : Entry} {names : List Name} {err : IoError}
    (h : (fs.createDirsFrom above names).1 = .error err) :
    (fs.createDirsFrom above names).2.node (above ++ names) = fs.node (above ++ names) := by
  induction names generalizing fs above with
  | nil => exact nomatch h
  | cons name rest ih =>
    rw [createDirsFrom] at h ⊢
    cases hnode : fs.node (above ++ [name]) with
    | some n =>
      cases n with
      | dir =>
        simp only [hnode] at h ⊢
        have := ih h
        rwa [List.append_assoc] at this
      -- A file in the way: the rest was not looked at
      | file removable => rfl
    | none =>
      cases hdenied : fs.denied (above ++ [name]) with
      | some err => rfl
      | none =>
        simp only [hnode, hdenied] at h ⊢
        -- A directory was made here, so the failure came from below it
        have hrest : rest ≠ [] := by
          rintro rfl
          exact nomatch h
        have := ih h
        rw [List.append_assoc, List.singleton_append, set_node, if_neg (by simpa using hrest)]
          at this
        exact this

/-- After success the directory is there. -/
theorem createDirAll_ok {fs fs' : FileSys} {p : PathBuf}
    (h : fs.createDirAll p = (.ok (), fs')) (hne : fs.entry p ≠ []) : fs'.isDir p := by
  have hdir := @createDirsFrom_ok fs [] (fs.entry p) (congrArg Prod.fst h) hne
  have hentry := createDirAll_entry fs p p
  rw [createDirAll] at h hentry
  rw [h] at hdir hentry
  rw [isDir, hentry]
  exact hdir

/-- After a failure the directory is there only if it was before. -/
theorem createDirAll_error {fs fs' : FileSys} {p : PathBuf} {err : IoError}
    (h : fs.createDirAll p = (.error err, fs')) : fs'.isDir p ↔ fs.isDir p := by
  have hsame := @createDirsFrom_error fs [] (fs.entry p) err (congrArg Prod.fst h)
  have hentry := createDirAll_entry fs p p
  rw [createDirAll] at h hentry
  rw [h] at hsame hentry
  rw [isDir, isDir, hentry]
  rw [List.nil_append] at hsame
  rw [hsame]

end FileSys

end Tateru
