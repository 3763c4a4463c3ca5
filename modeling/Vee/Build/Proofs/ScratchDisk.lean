import Vee.Build.Proofs.Sections

/-!
# The scratch disk of a Windows install

`startnet.cmd` formats the disk with the highest index. The template puts its scratch disk last
for that reason; `applyOverrides` then appends the disks of the user.
-/

namespace Vee

open List

def ScratchLast (disks : List DiskConfig) : Prop :=
  (∀ d ∈ disks, d.scratch → d.media ≠ "cdrom") ∧
    disks.Pairwise fun d later => d.scratch → later.media = "cdrom"
deriving Decidable

/-- The user gives no disk, or skips the install and boots a disk of their own. -/
def Opts.KeepsScratchLast (opts : Opts) : Prop :=
  (opts.noAutoInstall = true ∧ opts.bootDisk ≠ "") ∨
    (opts.disk = "" ∧ opts.dataDisks = [] ∧ opts.bootDisk = "")

section Lists

variable {base more disks : List DiskConfig}

theorem scratchLast_of_none (none : ∀ d ∈ disks, d.scratch = false) : ScratchLast disks := by
  constructor
  · intro d mem scratch
    rw [none d mem] at scratch
    cases scratch
  · refine pairwise_of_forall_mem_list fun d mem later _ scratch => ?_
    rw [none d mem] at scratch
    cases scratch

theorem scratchLast_append_iff (last : ScratchLast base) (scratch : ∃ d ∈ base, d.scratch)
    (plain : ∀ d ∈ more, d.scratch = false ∧ d.media = "disk") :
    ScratchLast (base ++ more) ↔ more = [] := by
  constructor
  · intro still
    obtain ⟨d, mem, isScratch⟩ := scratch
    rw [eq_nil_iff_forall_not_mem]
    intro later behind
    have cdrom := (pairwise_append.mp still.2).2.2 d mem later behind isScratch
    rw [(plain later behind).2] at cdrom
    exact absurd cdrom (by decide)
  · intro none
    rw [none, append_nil]
    exact last

/-- What `ScratchLast` reads of a disk. -/
def DiskConfig.role (d : DiskConfig) : Bool × String := (d.scratch, d.media)

theorem scratchLast_congr {disks' : List DiskConfig}
    (same : disks'.map DiskConfig.role = disks.map DiskConfig.role) :
    ScratchLast disks' ↔ ScratchLast disks := by
  have byRole : ∀ ds : List DiskConfig, ScratchLast ds ↔
      (∀ role ∈ ds.map DiskConfig.role, role.1 = true → role.2 ≠ "cdrom") ∧
        (ds.map DiskConfig.role).Pairwise fun role later => role.1 = true → later.2 = "cdrom" := by
    intro ds
    rw [forall_mem_map, pairwise_map]
    rfl
  rw [byRole, byRole, same]

theorem relocateFirst_role (path : String) (disks : List DiskConfig) :
    (relocateFirst path disks).map DiskConfig.role = disks.map DiskConfig.role := by
  induction disks with
  | nil => rfl
  | cons d rest ih =>
    unfold relocateFirst
    split
    · rfl
    · rw [map_cons, map_cons, ih]

theorem relocateBootDisk_scratchLast (opts : Opts) (cfg : VMConfig) :
    ScratchLast (relocateBootDisk opts cfg).disks ↔ ScratchLast cfg.disks := by
  unfold relocateBootDisk
  split
  · exact scratchLast_congr (relocateFirst_role _ _)
  · exact Iff.rfl

end Lists

theorem clampMacOSMinimums_disks (cfg : VMConfig) : (clampMacOSMinimums cfg).disks = cfg.disks := by
  unfold clampMacOSMinimums
  split <;> rfl

variable {cfg cfg' : VMConfig} {host : BuildHost} {opts : Opts}

theorem newWindowsConfig_disks {host : WindowsHost} {conf : ProviderConfig}
    {version : WindowsVersion} {name : String} {spicePort : Int} {helios : Option HeliosOptions}
    (made : newWindowsConfig host conf version name spicePort helios = .ok cfg) :
    (∃ isos disks vmDir install extras,
      cfg.disks = windowsDisks conf isos disks vmDir install extras) ∧ cfg.macOS = none := by
  obtain ⟨_, -, made⟩ := exists_of_bind_eq_ok made
  obtain ⟨install, -, made⟩ := exists_of_bind_eq_ok made
  split at made
  · cases made
    exact ⟨⟨_, _, _, _, _, rfl⟩, rfl⟩
  · cases made
    exact ⟨⟨_, _, _, _, _, rfl⟩, rfl⟩
  · cases made
    exact ⟨⟨_, _, _, _, _, rfl⟩, rfl⟩

variable {conf : ProviderConfig} {isos diskInterface vmDir install extras : String}

theorem windowsDisks_scratchLast :
    ScratchLast (windowsDisks conf isos diskInterface vmDir install extras) := by
  simp [ScratchLast, windowsDisks, windowsInstallISO, windowsOSDisk, windowsScratchDisk]

theorem windowsDisks_scratch :
    ∃ d ∈ windowsDisks conf isos diskInterface vmDir install extras, d.scratch = true :=
  ⟨windowsScratchDisk diskInterface vmDir, by simp [windowsDisks], rfl⟩

theorem userDisk_plain {raw : String} {d : DiskConfig} (made : userDisk host opts raw = .ok d) :
    d.scratch = false ∧ d.media = "disk" := by
  obtain ⟨_, -, made⟩ := exists_of_bind_eq_ok made
  cases made
  exact ⟨rfl, rfl⟩

theorem userDisks_eq_nil_iff (opts : Opts) :
    userDisks opts = [] ↔ opts.dataDisks = [] ∧ opts.bootDisk = "" := by
  unfold userDisks
  split
  · rename_i both
    simp [both.1]
  rename_i neither
  constructor
  · intro none
    refine ⟨none, ?_⟩
    by_contra boots
    exact neither ⟨boots, by simp [none]⟩
  · exact And.left

theorem attachDisks_disks (windows : opts.template = "windows")
    (done : attachDisks host opts cfg = .ok cfg') :
    ∃ added, cfg'.disks = cfg.disks ++ added ∧
      (∀ d ∈ added, d.scratch = false ∧ d.media = "disk") ∧
      (added = [] ↔ opts.dataDisks = [] ∧ opts.bootDisk = "") := by
  unfold attachDisks at done
  rw [if_neg (by rw [windows]; decide)] at done
  obtain ⟨added, mapped, done⟩ := exists_of_bind_eq_ok done
  cases done
  obtain ⟨size, each⟩ := of_mapM_eq_ok mapped
  refine ⟨added, rfl, ?_, ?_⟩
  · intro d mem
    obtain ⟨raw, -, made⟩ := each d mem
    exact userDisk_plain made
  · rw [← userDisks_eq_nil_iff, ← length_eq_zero_iff, size, length_eq_zero_iff]

theorem stripManaged_none (strips : opts.noAutoInstall = true ∧ opts.bootDisk ≠ "")
    (managed : ∀ d ∈ cfg.disks, d.scratch → d.passthrough = false ∧ d.format = "qcow2") :
    ∀ d ∈ (stripManaged opts cfg).disks, d.scratch = false := by
  intro d mem
  unfold stripManaged at mem
  rw [if_pos strips] at mem
  obtain ⟨mem, stays⟩ := mem_filter.mp mem
  by_contra scratch
  have scratch : d.scratch = true := by simpa using scratch
  obtain ⟨owned, qcow2⟩ := managed d mem scratch
  simp [owned, qcow2] at stays

theorem addDisk_disks (conf : ProviderConfig) (opts : Opts) (noMac : cfg.macOS = none) :
    (addDisk conf opts cfg).disks =
      cfg.disks ++ if opts.disk = "" then [] else [extraDisk conf opts] := by
  unfold addDisk
  by_cases none : opts.disk = ""
  · simp [none]
  · simp [none, noMac]

/-- The middle of `applyOverrides`, where the disks are. -/
theorem disks_scratchLast_iff (windows : opts.template = "windows") (noMac : cfg.macOS = none)
    (template : cfg.disks = windowsDisks conf isos diskInterface vmDir install extras)
    (done : attachDisks host opts (stripManaged opts (addDisk conf opts cfg)) = .ok cfg') :
    ScratchLast cfg'.disks ↔ opts.KeepsScratchLast := by
  obtain ⟨added, disks', plain, noneAdded⟩ := attachDisks_disks windows done
  have withExtra := addDisk_disks conf opts noMac
  rw [template] at withExtra
  by_cases strips : opts.noAutoInstall = true ∧ opts.bootDisk ≠ ""
  · have managed : ∀ d ∈ (addDisk conf opts cfg).disks,
        d.scratch → d.passthrough = false ∧ d.format = "qcow2" := by
      intro d mem scratch
      rw [withExtra] at mem
      rcases mem_append.mp mem with ours | extra
      · simp only [windowsDisks, mem_cons, not_mem_nil, or_false] at ours
        rcases ours with rfl | rfl | rfl | rfl
        · cases scratch
        · cases scratch
        · cases scratch
        · exact ⟨rfl, rfl⟩
      · split at extra
        · cases extra
        · rw [mem_singleton.mp extra] at scratch
          cases scratch
    refine iff_of_true ?_ (.inl strips)
    rw [disks']
    refine scratchLast_of_none fun d mem => ?_
    rcases mem_append.mp mem with old | new
    · exact stripManaged_none strips managed d old
    · exact (plain d new).1
  · have kept : (stripManaged opts (addDisk conf opts cfg)).disks =
        (addDisk conf opts cfg).disks := by
      unfold stripManaged
      rw [if_neg strips]
    rw [disks', kept, withExtra, append_assoc]
    rw [scratchLast_append_iff windowsDisks_scratchLast windowsDisks_scratch]
    · unfold Opts.KeepsScratchLast
      rw [or_iff_right strips, append_eq_nil_iff, noneAdded]
      by_cases none : opts.disk = "" <;> simp [none]
    · intro d mem
      rcases mem_append.mp mem with extra | new
      · split at extra
        · cases extra
        · rw [mem_singleton.mp extra]
          exact ⟨rfl, rfl⟩
      · exact plain d new

/-- The scratch disk stays the last disk exactly when the user gives no disk, or
skips the install and boots a disk of their own. -/
theorem windows_scratch_last_iff (whost : WindowsHost) (host : BuildHost) (conf : ProviderConfig)
    (opts : Opts) (windows : opts.template = "windows") {template cfg : VMConfig}
    (made : windowsFromTemplate whost conf opts = .ok template)
    (applied : applyOverrides host conf opts template = .ok cfg) :
    ScratchLast cfg.disks ↔ opts.KeepsScratchLast := by
  obtain ⟨⟨isos, disks, vmDir, install, extras, templateDisks⟩, noMac⟩ :=
    newWindowsConfig_disks made
  obtain ⟨cfg₁, env, applied⟩ := exists_of_bind_eq_ok applied
  obtain ⟨cfg₂, attached, applied⟩ := exists_of_bind_eq_ok applied
  obtain ⟨_, -, applied⟩ := exists_of_bind_eq_ok applied
  cases applied
  obtain ⟨_, _, _, _, _, shape⟩ := beforeDisks_shape host env
  have before : (overrideVirtiofs opts (overrideSPICE opts (overrideGPU host opts cfg₁))).disks =
      windowsDisks conf isos disks vmDir install extras := by
    rw [shape]
    exact templateDisks
  have beforeMac :
      (overrideVirtiofs opts (overrideSPICE opts (overrideGPU host opts cfg₁))).macOS = none := by
    rw [shape]
    exact noMac
  rw [clampMacOSMinimums_disks]
  exact (relocateBootDisk_scratchLast opts cfg₂).trans
    (disks_scratchLast_iff windows beforeMac before attached)

def readyWindowsHost : WindowsHost where
  arch := .amd64
  isDir _ := .ok false
  installMedia := .ok "/iso/win10.iso"

def deviceHost : BuildHost where
  stat _ := .ok .device
  probeImageFormat _ := .ok "raw"

def somePaths : ProviderConfig := { storagePath := "/vms", isoCachePath := "/iso" }

/-- Without disks of the user the scratch disk is the last one. -/
theorem windows_scratch_last_without_disks : ∃ template cfg,
      windowsFromTemplate readyWindowsHost somePaths { name := "win", template := "windows" } =
        .ok template ∧
      applyOverrides deviceHost somePaths { name := "win", template := "windows" } template =
        .ok cfg ∧
      ScratchLast cfg.disks := by
  refine ⟨_, _, rfl, rfl, ?_⟩
  exact (windows_scratch_last_iff readyWindowsHost deviceHost somePaths
    { name := "win", template := "windows" } rfl rfl rfl).mpr (.inr ⟨rfl, rfl, rfl⟩)

/-- A disk of the host that is passed through comes behind the scratch disk, and is the
one that Setup formats. -/
theorem windows_data_disk_behind_scratch :
    let opts : Opts :=
      { name := "win", template := "windows", dataDisks := ["/dev/disk/by-id/ata-data"] }
    ∃ template cfg, windowsFromTemplate readyWindowsHost somePaths opts = .ok template ∧
      applyOverrides deviceHost somePaths opts template = .ok cfg ∧ ¬ ScratchLast cfg.disks :=
  ⟨_, _, rfl, rfl, by decide⟩

end Vee
