import Vee.VM.DiskCheck
import Vee.VM.Proofs.RelocatedDisk

/-!
# The images that the data check sees

`CheckDisksForData` looks at the path of an entry as it stands in the config, `Disk.Create` at the
path that `AbsolutePath` makes of it. An image with a generated name, in a directory that the
entry names, is never seen.
-/

namespace Vee.DiskCheck

open BootDisk (startPath)

structure Checked (cfg : VMConfig) (d : DiskConfig) : Prop where
  noISO : d.isInstallISO = false
  noDevice : d.passthrough = false
  /-- The image of the user is not one that they boot from. -/
  expected : ¬ (d.imageFile = true ∧ cfg.skipInstall = true)

instance (cfg : VMConfig) (d : DiskConfig) : Decidable (Checked cfg d) :=
  decidable_of_iff (d.isInstallISO = false ∧ d.passthrough = false ∧
    ¬ (d.imageFile = true ∧ cfg.skipInstall = true))
    ⟨fun ⟨a, b, c⟩ => ⟨a, b, c⟩, fun ⟨a, b, c⟩ => ⟨a, b, c⟩⟩

def warningFor (host : Host) (cfg : VMConfig) (d : DiskConfig) : Option DiskWarning :=
  (checkDisk host cfg d).toOption.join

/-- Every image that is there is warned about, and no disk that is still to be made. -/
structure MissesNone (host : Host) (cfg : VMConfig) : Prop where
  returned : checkDisksForData host cfg = .ok (cfg.disks.filterMap (warningFor host cfg))
  present : ∀ d ∈ cfg.disks, Checked cfg d →
    host.fileAt (startPath host.machine d) = some .image → (warningFor host cfg d).isSome
  fresh : ∀ d ∈ cfg.disks, Checked cfg d → d.imageFile = false →
    host.fileAt (startPath host.machine d) = none → warningFor host cfg d = none

/-- Where the path of an entry is not that of its image, the two tell the same. -/
structure PathTells (host : Host) (d : DiskConfig) : Prop where
  present : d.path ≠ startPath host.machine d →
    host.fileAt (startPath host.machine d) = some .image → host.fileAt d.path = some .image
  fresh : d.path ≠ startPath host.machine d → d.imageFile = false →
    host.fileAt (startPath host.machine d) = none → host.fileAt d.path ≠ some .image

section Warnings

variable {host : Host} {cfg : VMConfig} {d : DiskConfig}

theorem checkBlockDevice_ok (host : Host) (path : String) :
    ∃ warning, checkBlockDevice host path = .ok warning := by
  unfold checkBlockDevice
  split
  · exact ⟨_, rfl⟩
  · split
    · exact ⟨_, rfl⟩
    split
    · exact ⟨_, rfl⟩
    split <;> exact ⟨_, rfl⟩

theorem checkImageFile_ok (host : Host) (path : String) :
    checkImageFile host path = .ok (((host.imageInfo path).bind virtualSize).map fun size =>
      ⟨path, "existing image file (virtual size " ++ size ++ ")"⟩) := by
  unfold checkImageFile
  split
  · rename_i none
    rw [none]
    rfl
  · rename_i out given
    rw [given]
    rfl

theorem checkDisk_ok (host : Host) (cfg : VMConfig) (d : DiskConfig) :
    checkDisk host cfg d = .ok (warningFor host cfg d) := by
  have done : ∃ warning, checkDisk host cfg d = .ok warning := by
    unfold checkDisk
    split
    · exact ⟨_, rfl⟩
    split
    · exact ⟨_, rfl⟩
    split
    · exact checkBlockDevice_ok host d.path
    split
    · exact ⟨_, rfl⟩
    · exact ⟨_, checkImageFile_ok host d.path⟩
  obtain ⟨warning, done⟩ := done
  unfold warningFor
  rw [done]
  rfl

theorem checkDisks_ok (host : Host) (cfg : VMConfig) (disks : List DiskConfig) :
    checkDisks host cfg disks = .ok (disks.filterMap (warningFor host cfg)) := by
  induction disks with
  | nil => rfl
  | cons d rest ih =>
    unfold checkDisks
    rw [checkDisk_ok, ih]
    cases given : warningFor host cfg d with
    | none =>
      rw [List.filterMap_cons_none given]
      rfl
    | some warning =>
      rw [List.filterMap_cons_some given]
      rfl

/-- A disk is warned about exactly when its entry's path is that of an image. -/
theorem warningFor_isSome_iff (checked : Checked cfg d) :
    (warningFor host cfg d).isSome ↔ host.fileAt d.path = some .image := by
  have unskipped : ¬ ((d.passthrough || d.imageFile) && cfg.skipInstall) = true := by
    rw [checked.noDevice, Bool.false_or, Bool.and_eq_true]
    exact checked.expected
  unfold warningFor checkDisk
  rw [checked.noISO, if_neg Bool.false_ne_true, if_neg unskipped, checked.noDevice,
    if_neg Bool.false_ne_true]
  split
  · rename_i missing
    refine iff_of_false (fun warned => by cases warned) fun image => ?_
    unfold Host.stat at missing
    rw [image] at missing
    cases missing
  · rw [checkImageFile_ok, ← host.reports]
    change (Option.map _ ((host.imageInfo d.path).bind virtualSize)).isSome = true ↔ _
    rw [Option.isSome_map]

end Warnings

/-- The check misses no image and invents none exactly when the path of every checked entry
tells what is at the path of its image. -/
theorem data_check_iff (host : Host) (cfg : VMConfig) (qemu : cfg.backendName ≠ .vz) :
    MissesNone host cfg ↔ ∀ d ∈ cfg.disks, Checked cfg d → PathTells host d := by
  constructor
  · intro misses d member checked
    constructor
    · intro _ image
      exact (warningFor_isSome_iff checked).mp (misses.present d member checked image)
    · intro _ made none image
      have warned := (warningFor_isSome_iff checked).mpr image
      rw [misses.fresh d member checked made none] at warned
      cases warned
  · intro tells
    refine ⟨?_, ?_, ?_⟩
    · unfold checkDisksForData
      rw [if_neg qemu]
      exact checkDisks_ok host cfg cfg.disks
    · intro d member checked image
      rw [warningFor_isSome_iff checked]
      by_cases same : d.path = startPath host.machine d
      · rw [same]
        exact image
      · exact (tells d member checked).present same image
    · intro d member checked made none
      have unwarned : host.fileAt d.path ≠ some .image := by
        by_cases same : d.path = startPath host.machine d
        · rw [same, none]
          exact fun image => by cases image
        · exact (tells d member checked).fresh same made none
      rw [← Option.not_isSome_iff_eq_none, warningFor_isSome_iff checked]
      exact unwarned

def oneImageHost (dir image : String) : Host where
  machine := BootDisk.webMachine
  fileAt path := if path = image then some .image else if path = dir then some .other else none
  blocked _ := false
  firstSector _ := .error "no such device"
  imageInfo path :=
    if path = image then some "file format: qcow2\nvirtual size: 20 GiB (21474836480 bytes)"
    else none
  reports := by
    intro path
    split
    · exact iff_of_true (by decide) rfl
    · refine iff_of_false (fun reported => by cases reported) ?_
      split <;> exact fun image => by cases image

/-- An image under an explicit path is seen. -/
theorem explicit_image_seen :
    MissesNone (oneImageHost "/data" "/data/web.qcow2")
      (BootDisk.vmWithDisk "/data/web.qcow2") := by
  refine (data_check_iff _ (BootDisk.vmWithDisk "/data/web.qcow2") (by decide)).mpr ?_
  intro d member checked
  have same : d.path = startPath BootDisk.webMachine d := by
    rw [List.mem_singleton.mp member]
    decide
  exact ⟨fun differ => absurd same differ, fun differ => absurd same differ⟩

/-- The image of a template's disk, under its generated name, is not seen. -/
theorem generated_image_missed :
    ¬ MissesNone (oneImageHost "/vms/web/storage" "/vms/web/storage/disk-web-20G.qcow2")
      (BootDisk.vmWithDisk "/vms/web/storage") := by
  intro missesNone
  have warned := missesNone.present { BootDisk.templateDisk with path := "/vms/web/storage" }
    List.mem_cons_self (by decide) (by decide)
  revert warned
  decide

end Vee.DiskCheck
