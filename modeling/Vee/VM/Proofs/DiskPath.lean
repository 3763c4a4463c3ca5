import Vee.VM.BootDisk

/-!
# The paths of boot disks

A managed disk is a file with one of the extensions that `managedBootDiskAbsPath` takes for an
explicit path, so an entry that is given the path of such a file resolves to that file.
-/

namespace Vee.BootDisk

open Delete (managedBootDiskAbsPath)

/-- The path is one of a file, to `managedBootDiskAbsPath`. -/
def IsFile (path : String) : Prop :=
  ∃ suffix ∈ diskFileSuffixes, suffix.toList <:+ path.toList

theorem suffix_whole {suffix : String} (mem : suffix ∈ diskFileSuffixes) :
    '/' ∉ suffix.toList ∧ 2 < suffix.toList.length := by
  revert suffix
  decide

variable {path name : String} {d : DiskConfig}

theorem any_suffix_iff :
    (diskFileSuffixes.any fun suffix => suffix.toList.isSuffixOf path.toList) = true ↔
      IsFile path := by
  rw [List.any_eq_true]
  exact exists_congr fun suffix => and_congr_right fun _ => List.isSuffixOf_iff_suffix

theorem managedBootDiskAbsPath_of_file (file : IsFile d.path) :
    managedBootDiskAbsPath name d = d.path := by
  exact if_pos (any_suffix_iff.mpr file)

theorem IsFile.join (file : IsFile path) (dir : String) : IsFile (joinPath [dir, path]) := by
  obtain ⟨suffix, mem, ends⟩ := file
  obtain ⟨whole, long⟩ := suffix_whole mem
  exact ⟨suffix, mem, extension_joinPath ends whole long dir⟩

/-- `filepath.Base` yields the name of an entry. -/
theorem IsFile.base (file : IsFile path) : IsFile (String.ofList (basePath path.toList)) := by
  obtain ⟨suffix, mem, ends⟩ := file
  obtain ⟨whole, long⟩ := suffix_whole mem
  obtain ⟨last, single, lastEnds, shape⟩ := exists_last ends whole
  have plain := plain_of_suffix single lastEnds long
  refine ⟨suffix, mem, ?_⟩
  rw [basePath_last plain shape]
  simpa using lastEnds

/-- A disk image has an extension by its format, if its path has none. -/
theorem managedBootDiskAbsPath_isFile
    (format : d.format = "qcow2" ∨ d.format = "raw" ∨ d.format = "") :
    IsFile (managedBootDiskAbsPath name d) := by
  by_cases file : IsFile d.path
  · rw [managedBootDiskAbsPath_of_file file]
    exact file
  have none := any_suffix_iff.not.mpr file
  have named : (if d.format = "" then "qcow2" else d.format) ∈ diskFileSuffixes := by
    rcases format with qcow2 | raw | empty
    · rw [qcow2]; decide
    · rw [raw]; decide
    · rw [if_pos empty]; decide
  have generated : ∀ front : String, IsFile (front ++ "." ++
      (if d.format = "" then "qcow2" else d.format)) := by
    intro front
    refine ⟨_, named, ?_⟩
    rw [String.toList_append]
    exact List.suffix_append _ _
  unfold managedBootDiskAbsPath
  rw [if_neg none]
  simp only
  split
  · exact generated _
  · exact (generated _).join d.path

variable (site : Site)

theorem vmDir_rooted (name : String) : isAbs (site.vmDir name) = true := by
  simp [isAbs, Site.vmDir, joinPath, join_rooted site.rooted]

theorem diskPath_rooted (name : String) (d : DiskConfig) : isAbs (site.diskPath name d) = true := by
  unfold Site.diskPath
  simp only
  split
  · assumption
  · have rooted := vmDir_rooted site name
    simp only [isAbs, decide_eq_true_eq] at rooted
    simp [isAbs, joinPath, join_rooted rooted]

theorem diskPath_isFile (format : d.format = "qcow2" ∨ d.format = "raw" ∨ d.format = "") :
    IsFile (site.diskPath name d) := by
  unfold Site.diskPath
  simp only
  split
  · exact managedBootDiskAbsPath_isFile format
  · exact (managedBootDiskAbsPath_isFile format).join _

/-- An entry whose path is the absolute path of a file resolves to that file. -/
theorem diskPath_of_file (file : IsFile d.path) (rooted : isAbs d.path = true) :
    site.diskPath name d = d.path := by
  simp [Site.diskPath, managedBootDiskAbsPath_of_file file, rooted]

theorem absPath_rooted (path : String) : isAbs (site.absPath path) = true := by
  unfold Site.absPath
  split
  · rename_i rooted
    simp only [isAbs, decide_eq_true_eq] at rooted ⊢
    simpa using cleanPath_rooted rooted
  · have rooted : ('/' :: ['/'].intercalate site.cwd).head? = some '/' := rfl
    simp [isAbs, joinPath, join_rooted rooted]

theorem movedPath_file (name targetDir : String) (managed : d.managed = true) :
    IsFile (site.movedPath name targetDir d) ∧ isAbs (site.movedPath name targetDir d) = true := by
  have format : d.format = "qcow2" := by
    simp only [DiskConfig.managed, Bool.not_eq_true', Bool.or_eq_false_iff] at managed
    simpa using managed.2
  constructor
  · exact (diskPath_isFile site (.inl format)).base.join _
  · have rooted := absPath_rooted site targetDir
    simp only [isAbs, decide_eq_true_eq] at rooted
    simp [isAbs, Site.movedPath, joinPath, join_rooted rooted]

/-- Changing the first entry that meets a test, to one that still meets it. -/
theorem find_updateFirst (test : DiskConfig → Bool) (change : DiskConfig → DiskConfig)
    (kept : ∀ d, test d = true → test (change d) = true) (disks : List DiskConfig) :
    (updateFirst test change disks).find? test = (disks.find? test).map change := by
  induction disks with
  | nil => rfl
  | cons d rest ih =>
    by_cases meets : test d = true
    · simp [updateFirst, meets, kept d meets]
    · simp [updateFirst, meets, ih]

end Vee.BootDisk
