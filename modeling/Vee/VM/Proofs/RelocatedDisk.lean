import Vee.VM.Proofs.DiskAgreement

/-!
# The boot disk that is removed with a VM

`Manager.Delete` removes the boot disk that stands outside the VM directory, if
`relocatedBootDisk` takes it for one that vee has made there. It goes by the beginning of the
file's name, which other files may have too, and by the first two letters of the path from the VM
directory, so an entry whose name begins with two dots passes for one outside.
-/

namespace Vee.BootDisk

open Delete (managedBootDiskAbsPath findManagedBootDisk relocatedBootDisk)

def ownName (name : String) : Text := ("disk-" ++ name ++ "-").toList

/-- The path leads through an entry of a directory whose name begins with two dots. -/
def ThroughDots (cwd : Place) (dir path : Text) : Prop :=
  ∃ entry more, locate cwd path = locate cwd dir ++ entry :: more ∧ up <+: entry

def TakenOutside (cwd : Place) (vmDir path : Text) : Prop :=
  vmDir.head? = some '/' → ¬ locate cwd vmDir <+: locate cwd path ∨ ThroughDots cwd vmDir path

/-- An image that vee has made for an entry, outside the VM directory. -/
structure MadeOutside (cwd : Place) (name : String) (vmDir : Text) (d : DiskConfig)
    (path : String) : Prop where
  outside : ¬ locate cwd vmDir <+: locate cwd path.toList
  named : basePath path.toList = (generatedName name d.size d.format).toList

structure Tells (cwd : Place) (name : String) (vmDir : Text) (d : DiskConfig) : Prop where
  dots : vmDir.head? = some '/' →
    ¬ ThroughDots cwd vmDir (managedBootDiskAbsPath name d).toList
  /-- Nothing is tested against a VM directory that is not absolute. -/
  relative : vmDir.head? ≠ some '/' →
    ¬ locate cwd vmDir <+: locate cwd (managedBootDiskAbsPath name d).toList
  file : IsFile d.path → basePath d.path.toList = (generatedName name d.size d.format).toList
  directory : ¬ IsFile d.path → '/' ∉ (generatedName name d.size d.format).toList

section Returned

variable {cwd : Place} {name : String} {vmDir : Text} {cfg : VMConfig} {d : DiskConfig}

theorem not_throughDots {path : Text} (outside : ¬ locate cwd vmDir <+: locate cwd path) :
    ¬ ThroughDots cwd vmDir path := by
  rintro ⟨entry, more, below, -⟩
  rw [below] at outside
  exact outside (List.prefix_append _ _)

/-- The test on the path from the VM directory, which fails to say anything if there is none. -/
theorem takenOutside_iff (cwd : Place) (vmDir : Text) {path : Text}
    (rooted : path.head? = some '/') :
    (∀ rel, relPath vmDir path = some rel → up <+: rel) ↔ TakenOutside cwd vmDir path := by
  unfold TakenOutside ThroughDots
  by_cases start : vmDir.head? = some '/'
  · obtain ⟨rel, given, dots⟩ := relPath_up_iff start rooted cwd
    rw [given, forall_prop_of_true start, ← dots]
    simp
  · have none : relPath vmDir path = none := by
      unfold relPath
      rw [if_neg start]
    simp [none, start]

theorem relocatedBootDisk_eq_some_iff (cwd : Place) (found : findManagedBootDisk cfg = some d)
    (path : String) :
    relocatedBootDisk name vmDir cfg = some path ↔ d.path ≠ "" ∧
      managedBootDiskAbsPath name d = path ∧ isAbs path = true ∧
      ownName name <+: basePath path.toList ∧ TakenOutside cwd vmDir path.toList := by
  unfold relocatedBootDisk ownName
  rw [found]
  simp only
  by_cases empty : d.path = ""
  · simp [empty]
  rw [if_neg empty, and_iff_right empty]
  generalize managedBootDiskAbsPath name d = resolved
  by_cases tests : resolved.toList.head? ≠ some '/' ∨
      ¬ ("disk-" ++ name ++ "-").toList.isPrefixOf (basePath resolved.toList) = true
  · rw [if_pos tests]
    refine iff_of_false (fun same => by cases same) ?_
    rintro ⟨rfl, rooted, starts, -⟩
    rcases tests with relative | other
    · exact relative (of_decide_eq_true rooted)
    · exact other (List.isPrefixOf_iff_prefix.mpr starts)
  · rw [if_neg tests]
    rw [not_or, not_not, not_not, List.isPrefixOf_iff_prefix] at tests
    have outside := takenOutside_iff cwd vmDir tests.1
    constructor
    · intro returned
      have taken : resolved = path ∧ ∀ rel, relPath vmDir resolved.toList = some rel →
          up <+: rel := by
        split at returned
        · rename_i rel given
          split at returned
          · rename_i dots
            cases returned
            refine ⟨rfl, fun rel' same => ?_⟩
            cases given.symm.trans same
            exact List.isPrefixOf_iff_prefix.mp dots
          · cases returned
        · rename_i none
          cases returned
          exact ⟨rfl, fun rel same => by cases none.symm.trans same⟩
      obtain ⟨rfl, dots⟩ := taken
      exact ⟨rfl, decide_eq_true tests.1, tests.2, outside.mp dots⟩
    · rintro ⟨rfl, -, -, taken⟩
      split
      · rename_i rel given
        exact if_pos (List.isPrefixOf_iff_prefix.mpr (outside.mpr taken rel given))
      · rfl

theorem generatedName_plain {size format : String}
    (whole : '/' ∉ (generatedName name size format).toList) :
    PlainName (generatedName name size format).toList := by
  have start := generatedName_start name size format
  refine ⟨generatedName_ne_nil _ _ _, whole, ?_, ?_⟩ <;>
  · intro dots
    rw [dots] at start
    exact absurd start (by decide)

/-- A resolved entry has the generated name if its path is that of a file with this name, or
the name is one of an entry of a directory. -/
theorem resolved_named_iff (format : d.format ≠ "") (given : d.path ≠ "") :
    basePath (managedBootDiskAbsPath name d).toList = (generatedName name d.size d.format).toList ↔
      (IsFile d.path → basePath d.path.toList = (generatedName name d.size d.format).toList) ∧
      (¬ IsFile d.path → '/' ∉ (generatedName name d.size d.format).toList) := by
  by_cases file : IsFile d.path
  · rw [managedBootDiskAbsPath_of_file file, forall_prop_of_true file]
    exact ⟨fun named => ⟨named, fun directory => absurd file directory⟩, And.left⟩
  have resolved : (managedBootDiskAbsPath name d).toList =
      joinElements [d.path.toList, (generatedName name d.size d.format).toList] := by
    rw [managedBootDiskAbsPath_of_directory file, if_neg given, if_neg format]
    simp [joinPath]
  rw [resolved, forall_prop_of_true file]
  constructor
  · intro named
    refine ⟨fun isFile => absurd isFile file, ?_⟩
    rw [← named]
    refine slash_not_mem_basePath fun slash => ?_
    have start := generatedName_start name d.size d.format
    rw [← named, slash] at start
    exact absurd start (by decide)
  · rintro ⟨-, whole⟩
    exact basePath_join (generatedName_plain whole) _

theorem path_ne_of_file (file : IsFile d.path) : d.path ≠ "" := by
  obtain ⟨suffix, mem, ends⟩ := file
  intro empty
  have long := (suffix_whole mem).2
  rw [empty] at ends
  rw [List.suffix_nil.mp ends] at long
  cases long

theorem spared_iff (cwd : Place) (found : findManagedBootDisk cfg = some d) (file : IsFile d.path) :
    relocatedBootDisk name vmDir cfg = none ↔ isAbs d.path = false ∨
      ¬ ownName name <+: basePath d.path.toList ∨ ¬ TakenOutside cwd vmDir d.path.toList := by
  rw [Option.eq_none_iff_forall_ne_some]
  constructor
  · intro spared
    by_contra taken
    rw [not_or, not_or, not_not, not_not, Bool.not_eq_false] at taken
    obtain ⟨rooted, starts, outside⟩ := taken
    refine spared d.path ((relocatedBootDisk_eq_some_iff cwd found _).mpr ?_)
    exact ⟨path_ne_of_file file, managedBootDiskAbsPath_of_file file, rooted, starts, outside⟩
  · intro apart path returned
    obtain ⟨-, resolved, rooted, starts, outside⟩ :=
      (relocatedBootDisk_eq_some_iff cwd found path).mp returned
    rw [managedBootDiskAbsPath_of_file file] at resolved
    subst resolved
    rcases apart with relative | other | inside
    · rw [rooted] at relative
      cases relative
    · exact other starts
    · exact inside outside

theorem madeOutside_iff {path : String} (found : findManagedBootDisk cfg = some d)
    (returned : relocatedBootDisk name vmDir cfg = some path) :
    MadeOutside cwd name vmDir d path ↔ Tells cwd name vmDir d := by
  obtain ⟨given, resolved, -, -, taken⟩ :=
    (relocatedBootDisk_eq_some_iff cwd found path).mp returned
  obtain ⟨-, qcow2⟩ := of_managed (List.find?_some found)
  have format : d.format ≠ "" := by
    rw [qcow2]
    decide
  subst resolved
  constructor
  · rintro ⟨outside, named⟩
    obtain ⟨file, directory⟩ := (resolved_named_iff format given).mp named
    refine ⟨fun _ => ?_, fun _ => outside, file, directory⟩
    exact not_throughDots outside
  · rintro ⟨dots, relative, file, directory⟩
    refine ⟨?_, (resolved_named_iff format given).mpr ⟨file, directory⟩⟩
    by_cases rooted : vmDir.head? = some '/'
    · exact (taken rooted).resolve_right (dots rooted)
    · exact relative rooted

end Returned

/-- A file that the user names as a boot disk is spared exactly when its path is relative, its
name does not begin as those of the VM's images do, or it is in the VM directory, under no
entry that begins with two dots. What is returned is an image that vee has made outside the VM
directory exactly when the path of the entry tells. -/
theorem relocated_boot_disk_iff (cwd : Place) (name : String) (vmDir : Text)
    (cfg : VMConfig) (d : DiskConfig) (found : findManagedBootDisk cfg = some d) :
    (IsFile d.path → (relocatedBootDisk name vmDir cfg = none ↔ isAbs d.path = false ∨
      ¬ ownName name <+: basePath d.path.toList ∨ ¬ TakenOutside cwd vmDir d.path.toList)) ∧
    ∀ path, relocatedBootDisk name vmDir cfg = some path →
      (MadeOutside cwd name vmDir d path ↔ Tells cwd name vmDir d) :=
  ⟨spared_iff cwd found, fun _ => madeOutside_iff found⟩

def vmWithDisk (path : String) : VMConfig :=
  { name := "web", disks := [{ templateDisk with path := path }] }

/-- An image with a name of its own is spared; a disk in a directory of the user is removed. -/
theorem boot_disk_told_apart :
    relocatedBootDisk "web" "/vms/web".toList (vmWithDisk "/data/mine.qcow2") = none ∧
    ∃ path, relocatedBootDisk "web" "/vms/web".toList (vmWithDisk "/data") = some path ∧
      MadeOutside [] "web" "/vms/web".toList { templateDisk with path := "/data" } path := by
  constructor
  · refine ((relocated_boot_disk_iff [] "web" "/vms/web".toList (vmWithDisk "/data/mine.qcow2") _
      (by rfl)).1 (by decide)).mpr ?_
    exact .inr (.inl (by decide))
  · have returned : relocatedBootDisk "web" "/vms/web".toList (vmWithDisk "/data") =
        some "/data/disk-web-20G.qcow2" := by
      decide
    refine ⟨_, returned, ?_⟩
    refine ((relocated_boot_disk_iff [] "web" "/vms/web".toList (vmWithDisk "/data") _
      (by rfl)).2 _ returned).mpr ⟨fun _ => not_throughDots (by decide), ?_, ?_, ?_⟩
    · exact fun relative => absurd rfl relative
    · decide
    · decide

/-- An image of the user whose name begins as those of the VM's images do is removed with the
VM, and so is one in the VM directory, under an entry that begins with two dots. -/
theorem users_image_removed :
    (IsFile "/data/disk-web-mine.qcow2" ∧ relocatedBootDisk "web" "/vms/web".toList
      (vmWithDisk "/data/disk-web-mine.qcow2") = some "/data/disk-web-mine.qcow2") ∧
    ∃ path, relocatedBootDisk "web" "/vms/web".toList (vmWithDisk "/vms/web/..disks") = some path ∧
      ∀ d, ¬ MadeOutside [] "web" "/vms/web".toList d path := by
  refine ⟨⟨by decide, by decide⟩, "/vms/web/..disks/disk-web-20G.qcow2", by decide,
    fun d made => ?_⟩
  have outside := made.outside
  revert outside
  decide

end Vee.BootDisk
