import Tateru.Native.VzConfiguration
import Tateru.Spec.Marshalling

/-!
# What a configuration is made of

A context can be materialised when its vCPUs and memory are set and it has disks, each at a UTF-8
path and with an attachment; the configuration then has exactly these. Otherwise the error
is that of the first condition that does not hold.

## Key results

- `makeDiskAttachment_eq_ok_iff`, `makeDiskAttachment_eq_error_iff`: one disk
- `configuration_exact`: the whole state
-/

namespace Tateru.Spec

variable {A : Type} {V : Vz A}

/-! ## One disk -/

/-- `a` is the attachment that is made for a disk, of its path and its flag. -/
def HasAttachment (V : Vz A) (disk : DiskConfig) (a : A) : Prop :=
  ∃ path : String, PathBuf.ofString path = disk.path ∧ V.attach path disk.readOnly = .ok a

/-- What is wrong with a disk: its path is not UTF-8, or else its attachment is refused. -/
inductive DiskFault (V : Vz A) (disk : DiskConfig) : TateruError → Prop where
  | notUtf8 : (∀ path, PathBuf.ofString path ≠ disk.path) →
      DiskFault V disk (.invalidConfig ("vz: non-utf8 disk path: " ++ disk.path.display))
  | refused {path err : String} : PathBuf.ofString path = disk.path →
      V.attach path disk.readOnly = .error err →
      DiskFault V disk
        (.invalidConfig ("vz: disk attachment failed for " ++ path ++ ": " ++ err))

/-- A path that is a string is displayed as that string. -/
theorem display_ofString (s : String) : (PathBuf.ofString s).display = s := by
  rw [PathBuf.display, PathBuf.ofString, Str.lossy_bytes, String.ofList_toList]

theorem makeDiskAttachment_eq_ok_iff {disk : DiskConfig} {a : A} :
    V.makeDiskAttachment disk.path disk.readOnly = .ok a ↔ HasAttachment V disk a := by
  rw [Vz.makeDiskAttachment, Except.bind_eq_ok_iff]
  simp only [Option.okOr_eq_ok_iff, toStr_eq_some_iff, Except.mapError]
  constructor
  · rintro ⟨path, hpath, hattach⟩
    refine ⟨path, hpath, ?_⟩
    cases hresult : V.attach path disk.readOnly with
    | ok a' =>
      rw [hresult] at hattach
      exact congrArg Except.ok (Except.ok.inj hattach)
    | error err =>
      rw [hresult] at hattach
      exact nomatch hattach
  · rintro ⟨path, hpath, hattach⟩
    exact ⟨path, hpath, by rw [hattach]⟩

theorem makeDiskAttachment_eq_error_iff {disk : DiskConfig} {e : TateruError} :
    V.makeDiskAttachment disk.path disk.readOnly = .error e ↔ DiskFault V disk e := by
  rw [Vz.makeDiskAttachment, Except.bind_eq_error_iff]
  constructor
  · rintro (hstr | ⟨path, hstr, hattach⟩)
    · obtain rfl := Option.eq_of_okOr_eq_error hstr
      refine .notUtf8 fun path hpath => ?_
      rw [toStr_eq_some_iff.mpr hpath] at hstr
      exact nomatch hstr
    · have hpath := toStr_eq_some_iff.mp (Option.okOr_eq_ok_iff.mp hstr)
      cases hresult : V.attach path disk.readOnly with
      | ok a =>
        rw [hresult] at hattach
        exact nomatch hattach
      | error err =>
        rw [hresult, ← hpath, display_ofString] at hattach
        exact Except.error.inj hattach ▸ .refused hpath hresult
  · intro hfault
    cases hfault with
    | notUtf8 hnot =>
      apply Or.inl
      cases hstr : Ffi.toStr disk.path with
      | none => rfl
      | some path => exact absurd (toStr_eq_some_iff.mp hstr) (hnot path)
    | @refused path err hpath hattach =>
      refine Or.inr ⟨path, ?_, ?_⟩
      · rw [toStr_eq_some_iff.mpr hpath]
        rfl
      · rw [hattach, ← hpath, display_ofString]
        rfl

/-! ## The whole state -/

/-- What is wrong with a state: the first condition that does not hold. -/
inductive Fault (V : Vz A) (s : VzCtxState) : TateruError → Prop where
  | vcpus : s.vcpus = none → Fault V s (.invalidConfig "vz: vcpus not set")
  | memory : s.vcpus.isSome → s.memory = none →
      Fault V s (.invalidConfig "vz: memory not set")
  | noDisks : s.vcpus.isSome → s.memory.isSome → s.disks = [] →
      Fault V s (.invalidConfig "vz: at least one disk is required (boot media)")
  | disk {pre post : List DiskConfig} {disk : DiskConfig} {e : TateruError} :
      s.vcpus.isSome → s.memory.isSome → s.disks = pre ++ disk :: post →
      (∀ d ∈ pre, ∃ a, HasAttachment V d a) → DiskFault V disk e → Fault V s e

/-- The configuration has what the state collects: its vCPUs, its memory in bytes, and a device for
    each disk, in order. -/
structure Materialises (V : Vz A) (s : VzCtxState) (cfg : VzConfiguration A) : Prop where
  cpuCount : s.vcpus.map (·.raw.toNat) = some cfg.cpuCount
  memorySize : s.memory.map (·.raw.toNat * 2 ^ 20) = some cfg.memorySize.toNat
  storageDevices : List.Forall₂ (fun disk dev => HasAttachment V disk dev.attachment)
    s.disks cfg.storageDevices

/-- One round of the loop over the disks. -/
def attachDisk (V : Vz A) (disk : DiskConfig) : Except TateruError (VzBlockDevice A) := do
  let attachment ← V.makeDiskAttachment disk.path disk.readOnly
  return ⟨attachment⟩

theorem buildConfiguration_of_some {s : VzCtxState} {vcpus : VcpuCount} {memory : MemoryMib}
    (hvcpus : s.vcpus = some vcpus) (hmemory : s.memory = some memory) (hdisks : s.disks ≠ []) :
    V.buildConfiguration s = s.disks.mapM (attachDisk V) >>= fun devs =>
      .ok { V.newConfiguration with
        cpuCount := vcpus.raw.toNat
        memorySize := memory.raw.toUInt64 * 1024 * 1024
        bootLoader := some .efi
        storageDevices := devs } := by
  have hempty : s.disks.isEmpty = false := by simpa using hdisks
  simp only [Vz.buildConfiguration, hvcpus, hmemory, hempty]
  rfl

/-- The number of bytes fits in 64 bits for every memory size. -/
theorem toNat_memorySize (mib : UInt32) :
    (mib.toUInt64 * 1024 * 1024).toNat = mib.toNat * 2 ^ 20 := by
  have hlt := mib.toNat_lt
  have h1024 : (1024 : UInt64).toNat = 1024 := rfl
  rw [UInt64.toNat_mul, UInt64.toNat_mul, UInt32.toNat_toUInt64, h1024]
  omega

theorem attachDisk_eq_ok_iff {disk : DiskConfig} {dev : VzBlockDevice A} :
    attachDisk V disk = .ok dev ↔ HasAttachment V disk dev.attachment := by
  rw [attachDisk, Except.bind_eq_ok_iff]
  constructor
  · rintro ⟨a, ha, hdev⟩
    obtain rfl := Except.ok.inj hdev
    exact makeDiskAttachment_eq_ok_iff.mp ha
  · intro ha
    exact ⟨dev.attachment, makeDiskAttachment_eq_ok_iff.mpr ha, rfl⟩

theorem attachDisk_eq_error_iff {disk : DiskConfig} {e : TateruError} :
    attachDisk V disk = .error e ↔ DiskFault V disk e := by
  rw [attachDisk, Except.bind_eq_error_iff, makeDiskAttachment_eq_error_iff]
  apply or_iff_left
  rintro ⟨a, -, hpure⟩
  exact nomatch hpure

theorem attachDisks_eq_ok_iff {disks : List DiskConfig} {devs : List (VzBlockDevice A)} :
    disks.mapM (attachDisk V) = .ok devs ↔
      List.Forall₂ (fun disk dev => HasAttachment V disk dev.attachment) disks devs := by
  simp only [Except.mapM_eq_ok_iff, attachDisk_eq_ok_iff]

theorem attachDisks_eq_error_iff {disks : List DiskConfig} {e : TateruError} :
    disks.mapM (attachDisk V) = .error e ↔ ∃ pre disk post, disks = pre ++ disk :: post ∧
      (∀ d ∈ pre, ∃ a, HasAttachment V d a) ∧ DiskFault V disk e := by
  have hdevice : ∀ d : DiskConfig, (∃ dev : VzBlockDevice A, HasAttachment V d dev.attachment) ↔
      ∃ a, HasAttachment V d a :=
    fun d => ⟨fun ⟨dev, hdev⟩ => ⟨dev.attachment, hdev⟩, fun ⟨a, ha⟩ => ⟨⟨a⟩, ha⟩⟩
  simp only [Except.mapM_eq_error_iff, attachDisk_eq_ok_iff, attachDisk_eq_error_iff,
    hdevice]

/-- All disks of a list have an attachment when devices can be made for them. -/
theorem exists_devices_iff {disks : List DiskConfig} :
    (∃ devs : List (VzBlockDevice A),
      List.Forall₂ (fun disk dev => HasAttachment V disk dev.attachment) disks devs) ↔
      ∀ disk ∈ disks, ∃ a, HasAttachment V disk a := by
  induction disks with
  | nil => exact iff_of_true ⟨[], .nil⟩ (by simp)
  | cons disk disks ih =>
    rw [List.forall_mem_cons, ← ih]
    constructor
    · rintro ⟨devs, hdevs⟩
      obtain ⟨dev, devs, hdev, hrest, -⟩ := List.forall₂_cons_left_iff.mp hdevs
      exact ⟨⟨dev.attachment, hdev⟩, devs, hrest⟩
    · rintro ⟨⟨a, ha⟩, devs, hrest⟩
      exact ⟨⟨a⟩ :: devs, .cons ha hrest⟩

/-- What is wrong with a state is what is reported. -/
theorem buildConfiguration_of_fault {s : VzCtxState} {e : TateruError} (h : Fault V s e) :
    V.buildConfiguration s = .error e := by
  cases h with
  | vcpus hvcpus =>
    rw [Vz.buildConfiguration, hvcpus]
    rfl
  | memory hvcpus hmemory =>
    obtain ⟨vcpus, hvcpus⟩ := Option.isSome_iff_exists.mp hvcpus
    rw [Vz.buildConfiguration, hvcpus, hmemory]
    rfl
  | noDisks hvcpus hmemory hdisks =>
    obtain ⟨vcpus, hvcpus⟩ := Option.isSome_iff_exists.mp hvcpus
    obtain ⟨memory, hmemory⟩ := Option.isSome_iff_exists.mp hmemory
    simp only [Vz.buildConfiguration, hvcpus, hmemory, hdisks]
    rfl
  | @disk pre post disk _ hvcpus hmemory hdisks hpre hfault =>
    obtain ⟨vcpus, hvcpus⟩ := Option.isSome_iff_exists.mp hvcpus
    obtain ⟨memory, hmemory⟩ := Option.isSome_iff_exists.mp hmemory
    have hne : s.disks ≠ [] := by simp [hdisks]
    rw [buildConfiguration_of_some hvcpus hmemory hne,
      attachDisks_eq_error_iff.mpr ⟨pre, disk, post, hdisks, hpre, hfault⟩]
    rfl

/-- Either something is wrong with a state, or it is materialised. -/
theorem fault_or_materialises (V : Vz A) (s : VzCtxState) :
    (∃ e, Fault V s e) ∨ s.vcpus.isSome ∧ s.memory.isSome ∧ s.disks ≠ [] ∧
      (∀ disk ∈ s.disks, ∃ a, HasAttachment V disk a) ∧
      ∃ cfg, V.buildConfiguration s = .ok cfg ∧ Materialises V s cfg := by
  cases hvcpus : s.vcpus with
  | none => exact Or.inl ⟨_, .vcpus hvcpus⟩
  | some vcpus =>
    cases hmemory : s.memory with
    | none => exact Or.inl ⟨_, .memory (by simp [hvcpus]) hmemory⟩
    | some memory =>
      by_cases hdisks : s.disks = []
      · exact Or.inl ⟨_, .noDisks (by simp [hvcpus]) (by simp [hmemory]) hdisks⟩
      · have hbuild := buildConfiguration_of_some (V := V) hvcpus hmemory hdisks
        cases hdevs : s.disks.mapM (attachDisk V) with
        | error e =>
          obtain ⟨pre, disk, post, hsplit, hpre, hfault⟩ := attachDisks_eq_error_iff.mp hdevs
          exact Or.inl ⟨e, .disk (by simp [hvcpus]) (by simp [hmemory]) hsplit hpre hfault⟩
        | ok devs =>
          have hall := attachDisks_eq_ok_iff.mp hdevs
          rw [hdevs, Except.ok_bind] at hbuild
          refine Or.inr ⟨rfl, rfl, hdisks, exists_devices_iff.mp ⟨devs, hall⟩, _, hbuild, ?_⟩
          refine ⟨by rw [hvcpus]; rfl, ?_, hall⟩
          rw [hmemory, Option.map_some, toNat_memorySize]

/-- **A configuration is exactly what the context has collected.** It can be built if and only if
    the vCPUs and the memory are set, there is a disk, and every disk has a UTF-8 path and an
    attachment. It then has this number of CPUs, this memory in bytes, and one device for each
    disk, in the order of the disks. Otherwise the error is that of the first condition that
    does not hold. -/
theorem configuration_exact (V : Vz A) (s : VzCtxState) :
    ((∃ cfg, V.buildConfiguration s = .ok cfg) ↔
      s.vcpus.isSome ∧ s.memory.isSome ∧ s.disks ≠ [] ∧
      ∀ disk ∈ s.disks, ∃ a, HasAttachment V disk a) ∧
    (∀ cfg, V.buildConfiguration s = .ok cfg → Materialises V s cfg) ∧
    ∀ e, V.buildConfiguration s = .error e ↔ Fault V s e := by
  have houtcome := fault_or_materialises V s
  refine ⟨⟨?_, ?_⟩, ?_, fun e => ⟨?_, buildConfiguration_of_fault⟩⟩
  · rintro ⟨cfg, hcfg⟩
    rcases houtcome with ⟨e, hfault⟩ | ⟨hvcpus, hmemory, hdisks, hall, -⟩
    · exact nomatch hcfg.symm.trans (buildConfiguration_of_fault hfault)
    · exact ⟨hvcpus, hmemory, hdisks, hall⟩
  · rintro ⟨hvcpus, hmemory, hdisks, hall⟩
    obtain ⟨vcpus, hvcpus⟩ := Option.isSome_iff_exists.mp hvcpus
    obtain ⟨memory, hmemory⟩ := Option.isSome_iff_exists.mp hmemory
    obtain ⟨devs, hdevs⟩ := exists_devices_iff.mpr hall
    rw [buildConfiguration_of_some hvcpus hmemory hdisks, attachDisks_eq_ok_iff.mpr hdevs]
    exact ⟨_, rfl⟩
  · intro cfg hcfg
    rcases houtcome with ⟨e, hfault⟩ | ⟨-, -, -, -, cfg', hcfg', hmat⟩
    · exact nomatch hcfg.symm.trans (buildConfiguration_of_fault hfault)
    · obtain rfl := Except.ok.inj (hcfg.symm.trans hcfg')
      exact hmat
  · intro herror
    rcases houtcome with ⟨e', hfault⟩ | ⟨-, -, -, -, cfg', hcfg', -⟩
    · obtain rfl := Except.error.inj (herror.symm.trans (buildConfiguration_of_fault hfault))
      exact hfault
    · exact nomatch herror.symm.trans hcfg'

end Tateru.Spec
