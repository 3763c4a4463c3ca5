import Vee.QEMU.Disk
import Vee.VM.Proofs.DiskPath

/-!
# Where a managed disk lives

The manager resolves the entry of a disk with `managedBootDiskAbsPath`, the machine with
`Disk.AbsolutePath`. The two differ in the format that a generated name ends in, and in the
directory that a relative path starts from. Both take a path for one of a file by its last letters.
-/

namespace Vee.BootDisk

open List

open Delete (managedBootDiskAbsPath scratchDiskPath findManagedBootDisk)

instance : DecidablePred IsFile := fun path =>
  inferInstanceAs (Decidable (∃ suffix ∈ diskFileSuffixes, suffix.toList <:+ path.toList))

/-- An image of vee: no device, no image of the user, no cdrom. -/
structure Owned (d : DiskConfig) : Prop where
  passthrough : d.passthrough = false
  imageFile : d.imageFile = false
  media : d.media ≠ "cdrom"

def startPath (host : QEMU.Host) (d : DiskConfig) : String :=
  (QEMU.Disk.ofConfig d).absolutePath host

/-- Whatever directory the commands run in, they find the image where the machine has it. -/
structure Agree (site : Site) (host : QEMU.Host) (d : DiskConfig) : Prop where
  /-- Moving and growing. -/
  moved : ∀ cwd, locate cwd (site.diskPath host.machine d).toList =
    locate cwd (startPath host d).toList
  scratch : ∀ cwd, locate cwd (scratchDiskPath host.machine d).toList =
    locate cwd (startPath host d).toList

def Inside (cwd : Place) (host : QEMU.Host) (d : DiskConfig) (dir : String) : Prop :=
  ∃ more, more ≠ [] ∧ locate cwd (startPath host d).toList = locate cwd dir.toList ++ more

section Paths

variable {site : Site} {host : QEMU.Host} {d : DiskConfig}

variable (vmName size format : String)

theorem generatedName_start : (generatedName vmName size format).toList.head? = some 'd' := by
  simp [generatedName]

theorem generatedName_relative : (generatedName vmName size format).toList.head? ≠ some '/' := by
  rw [generatedName_start]
  decide

theorem generatedName_ne_nil : (generatedName vmName size format).toList ≠ [] := by
  intro none
  have start := generatedName_start vmName size format
  rw [none] at start
  cases start

theorem managedBootDiskAbsPath_of_directory {name : String} (directory : ¬ IsFile d.path) :
    managedBootDiskAbsPath name d =
      if d.path = "" then generatedName name d.size (if d.format = "" then "qcow2" else d.format)
      else joinPath
        [d.path, generatedName name d.size (if d.format = "" then "qcow2" else d.format)] := by
  have none := any_suffix_iff.not.mpr directory
  unfold managedBootDiskAbsPath
  rw [if_neg none]

theorem startPath_of_file (owned : Owned d) (file : IsFile d.path) : startPath host d = d.path := by
  have found := any_suffix_iff.mpr file
  simp only [startPath, QEMU.Disk.absolutePath, QEMU.Disk.ofConfig, owned.passthrough,
    owned.imageFile, Bool.false_eq_true, if_false]
  exact if_pos found

theorem startPath_of_directory (owned : Owned d) (directory : ¬ IsFile d.path) :
    startPath host d = joinPath [d.path, generatedName host.machine d.size d.format] := by
  have none := any_suffix_iff.not.mpr directory
  simp only [startPath, QEMU.Disk.absolutePath, QEMU.Disk.ofConfig, owned.passthrough,
    owned.imageFile, Bool.false_eq_true, if_false]
  exact if_neg none

theorem startPath_rooted_iff (owned : Owned d) :
    (startPath host d).toList.head? = some '/' ↔ isAbs d.path = true := by
  unfold isAbs
  rw [decide_eq_true_eq]
  by_cases file : IsFile d.path
  · rw [startPath_of_file owned file]
  · rw [startPath_of_directory owned file]
    unfold joinPath
    rw [String.toList_ofList]
    exact join_head_iff (generatedName_relative _ _ _) (generatedName_ne_nil _ _ _)

theorem path_ne_of_rooted (rooted : isAbs d.path = true) : d.path ≠ "" := by
  intro empty
  rw [empty] at rooted
  cases rooted

/-- With a format, or a file for its path, the two resolve an absolute entry alike. -/
theorem managedBootDiskAbsPath_eq_startPath (host : QEMU.Host) (owned : Owned d)
    (rooted : isAbs d.path = true)
    (named : IsFile d.path ∨ d.format ≠ "") :
    managedBootDiskAbsPath host.machine d = startPath host d := by
  by_cases file : IsFile d.path
  · rw [managedBootDiskAbsPath_of_file file, startPath_of_file owned file]
  · have format := named.resolve_left file
    rw [managedBootDiskAbsPath_of_directory file, startPath_of_directory owned file,
      if_neg (path_ne_of_rooted rooted), if_neg format]

theorem managedBootDiskAbsPath_elsewhere (owned : Owned d) (rooted : isAbs d.path = true)
    (directory : ¬ IsFile d.path) (format : d.format = "") (cwd : Place) :
    locate cwd (managedBootDiskAbsPath host.machine d).toList ≠
      locate cwd (startPath host d).toList := by
  have longer : (generatedName host.machine d.size "qcow2").toList =
      (generatedName host.machine d.size "").toList ++ "qcow2".toList := by
    simp [generatedName]
  rw [managedBootDiskAbsPath_of_directory directory, startPath_of_directory owned directory,
    if_neg (path_ne_of_rooted rooted), if_pos format, format]
  unfold joinPath
  simp only [map_cons, map_nil, String.toList_ofList]
  rw [locate_join_relative (generatedName_relative _ _ _),
    locate_join_relative (generatedName_relative _ _ _), longer]
  exact locate_append_ne (by decide) (by decide) (generatedName_ne_nil _ _ _) _

theorem agree_iff (owned : Owned d) :
    Agree site host d ↔ isAbs d.path = true ∧ (IsFile d.path ∨ d.format ≠ "") := by
  constructor
  · intro agree
    have const : ∀ cwd, locate cwd (startPath host d).toList =
        locate [] (site.diskPath host.machine d).toList := by
      intro cwd
      rw [← agree.moved]
      have rooted := diskPath_rooted site host.machine d
      exact locate_of_rooted (of_decide_eq_true rooted) _ _
    have rooted := (startPath_rooted_iff owned).mp (rooted_of_locate_const const)
    refine ⟨rooted, ?_⟩
    by_contra unnamed
    rw [not_or, not_not] at unnamed
    exact managedBootDiskAbsPath_elsewhere owned rooted unnamed.1 unnamed.2 [] (agree.scratch [])
  · rintro ⟨rooted, named⟩
    have same := managedBootDiskAbsPath_eq_startPath host owned rooted named
    have start : isAbs (managedBootDiskAbsPath host.machine d) = true := by
      rw [same]
      exact decide_eq_true ((startPath_rooted_iff owned).mpr rooted)
    constructor
    · intro cwd
      unfold Site.diskPath
      rw [if_pos start, same]
    · intro cwd
      unfold scratchDiskPath
      rw [same]

theorem inside_iff (owned : Owned d) (cwd : Place) : Inside cwd host d d.path ↔ ¬ IsFile d.path ∧
      LeadsBelow (locate cwd d.path.toList)
        (generatedName host.machine d.size d.format).toList := by
  by_cases file : IsFile d.path
  · unfold Inside
    rw [startPath_of_file owned file]
    refine iff_of_false ?_ fun both => both.1 file
    rintro ⟨more, given, same⟩
    exact given (append_right_eq_self.mp same.symm)
  · unfold Inside
    rw [startPath_of_directory owned file, and_iff_right file]
    unfold joinPath
    simp only [map_cons, map_nil, String.toList_ofList]
    rw [locate_join_relative (generatedName_relative _ _ _)]
    exact locate_below_iff (generatedName_relative _ _ _) _

end Paths

theorem of_managed {d : DiskConfig} (managed : d.managed = true) :
    Owned d ∧ d.format = "qcow2" := by
  simp only [DiskConfig.managed, Bool.not_eq_true', Bool.or_eq_false_iff, decide_eq_false_iff_not,
    not_not] at managed
  obtain ⟨⟨⟨device, image⟩, media⟩, format⟩ := managed
  refine ⟨⟨device, image, ?_⟩, format⟩
  rw [media]
  decide

theorem find_relocateFirst {path : String} {disks : List DiskConfig} {d : DiskConfig}
    (found : (relocateFirst path disks).find? (·.managed) = some d) : d.path = path := by
  induction disks with
  | nil => cases found
  | cons first rest ih =>
    unfold relocateFirst at found
    split at found
    · rename_i managed
      have still : ({ first with path := path } : DiskConfig).managed = true := managed
      rw [find?_cons_of_pos still] at found
      cases found
      rfl
    · rename_i other
      rw [find?_cons_of_neg other] at found
      exact ih found

/-- The components agree on a disk exactly when its path is absolute, and is one of a file or
comes with a format; a disk of `--boot-disk-path` is inside that directory exactly when the
directory does not end as a file of an image does, and the generated name leads below it. -/
theorem disk_paths_agree_iff (site : Site) (host : QEMU.Host) : (∀ d, Owned d →
      (Agree site host d ↔ isAbs d.path = true ∧ (IsFile d.path ∨ d.format ≠ ""))) ∧
    ∀ (opts : Opts) (cfg : VMConfig) (d : DiskConfig) (cwd : Place), opts.bootDiskPath ≠ "" →
      findManagedBootDisk (relocateBootDisk opts cfg) = some d →
      (Inside cwd host d opts.bootDiskPath ↔ ¬ IsFile opts.bootDiskPath ∧
        LeadsBelow (locate cwd opts.bootDiskPath.toList)
          (generatedName host.machine d.size "qcow2").toList) := by
  refine ⟨fun _ => agree_iff, fun opts cfg d cwd given found => ?_⟩
  obtain ⟨owned, format⟩ := of_managed (find?_some found)
  unfold relocateBootDisk at found
  rw [if_pos given] at found
  have path := find_relocateFirst found
  rw [← path, ← format]
  exact inside_iff owned cwd

def webMachine : QEMU.Host where
  linux := true
  machine := "web"
  abs := some

def vmsSite : Site where
  storagePath := "/vms"
  rooted := rfl
  qemuImg := { info := fun _ => .error "", grown := fun bytes _ => bytes }

def templateDisk : DiskConfig :=
  { path := "/vms/web/storage", size := "20G", format := "qcow2", media := "disk" }

theorem template_disk_agrees : Agree vmsSite webMachine templateDisk ∧
      Inside [] webMachine { templateDisk with path := "/data" } "/data" := by
  obtain ⟨agree, inside⟩ := disk_paths_agree_iff vmsSite webMachine
  constructor
  · exact (agree templateDisk ⟨rfl, rfl, by decide⟩).mpr ⟨by decide, .inr (by decide)⟩
  · refine (inside { bootDiskPath := "/data" } { name := "web", disks := [templateDisk] } _ []
      (by decide) (by rfl)).mpr ?_
    exact ⟨by decide, leadsBelow_of_plain (by decide) _⟩

/-- A disk without a path is looked for in the VM directory, and made in the directory that
the command runs in; a directory named `raw` is taken for the image itself. -/
theorem disk_paths_differ :
    let bare := { templateDisk with path := "" }
    let d := { templateDisk with path := "/data/raw" }
    let opts : Opts := { bootDiskPath := "/data/raw" }
    (Owned bare ∧ ¬ Agree vmsSite webMachine bare) ∧
    findManagedBootDisk (relocateBootDisk opts { name := "web", disks := [templateDisk] }) =
      some d ∧
      ¬ Inside [] webMachine d opts.bootDiskPath := by
  refine ⟨⟨⟨rfl, rfl, by decide⟩, fun agree => ?_⟩, by rfl, ?_⟩
  · have moved := agree.moved []
    revert moved
    decide
  · rintro ⟨more, given, same⟩
    have stays : startPath webMachine { templateDisk with path := "/data/raw" } = "/data/raw" := by
      decide
    exact given (append_right_eq_self.mp same.symm)

end Vee.BootDisk
