import Vee.VM.Delete

/-!
# What a delete touches

`Delete` joins a name to the storage root and clears the directory that it comes to. For the
name of an entry that is the VM's own directory. But the empty name, or one with a `/`, leads
elsewhere, and what is there is removed without an error.
-/

namespace Vee.Delete

open List

variable {host : Host} {t : FileTree} {dir : Text} {p : Place} {node : Node}
  {entries : List DirEntry} {hasBackups : Bool} {progress : Progress} {names : List String}

/-! ## The loop over the entries -/

theorem Host.removeAll_keeps {path : Text} (outside : ¬ host.place path <+: p) :
    (host.removeAll path t).tree.Has p node ↔ t.Has p node :=
  FileTree.removeAll_keeps outside node

theorem Host.remove_keeps {path : Text} (other : p ≠ host.place path) :
    (host.remove path t).tree.Has p node ↔ t.Has p node :=
  FileTree.remove_keeps other node

theorem deleteEntries_shrinks
    (left : (deleteEntries host dir entries hasBackups t).tree.Has p node) : t.Has p node := by
  induction entries generalizing hasBackups t with
  | nil =>
    cases hasBackups with
    | true => exact left
    | false => exact FileTree.remove_shrinks left
  | cons e rest ih =>
    unfold deleteEntries at left
    split at left
    · exact ih left
    · simp only at left
      split at left
      · exact FileTree.removeAll_shrinks left
      · exact FileTree.removeAll_shrinks (ih left)

/-- The loop leaves a place that is not below an entry it removes. -/
theorem deleteEntries_keeps (other : p ≠ host.place dir)
    (apart : ∀ e ∈ entries, ¬ (e.name = "backups".toList ∧ e.isDir) →
      ¬ host.place (joinElements [dir, e.name]) <+: p) :
    (deleteEntries host dir entries hasBackups t).tree.Has p node ↔ t.Has p node := by
  induction entries generalizing hasBackups t with
  | nil =>
    unfold deleteEntries
    split
    · rfl
    · exact Host.remove_keeps other
  | cons e rest ih =>
    have later : ∀ e ∈ rest, ¬ (e.name = "backups".toList ∧ e.isDir) →
        ¬ host.place (joinElements [dir, e.name]) <+: p := fun e mem =>
      apart e (mem_cons_of_mem _ mem)
    unfold deleteEntries
    split
    · exact ih later
    rename_i doomed
    have kept : (host.removeAll (joinElements [dir, e.name]) t).tree.Has p node ↔ t.Has p node :=
      Host.removeAll_keeps (apart e mem_cons_self doomed)
    simp only
    split
    · exact kept
    · exact (ih later).trans kept

/-- Without an error, nothing is left of the entries that are removed, nor of the directory if
there are no backups. -/
theorem deleteEntries_clears (done : (deleteEntries host dir entries hasBackups t).err = none) :
    (∀ e ∈ entries, ¬ (e.name = "backups".toList ∧ e.isDir) → ∀ p node,
      host.place (joinElements [dir, e.name]) <+: p →
        ¬ (deleteEntries host dir entries hasBackups t).tree.Has p node) ∧
      (hasBackups ∨ (∃ e ∈ entries, e.name = "backups".toList ∧ e.isDir) ∨
        ∀ node,
          ¬ (deleteEntries host dir entries hasBackups t).tree.Has (host.place dir) node) := by
  induction entries generalizing hasBackups t with
  | nil =>
    refine ⟨forall_mem_nil _, ?_⟩
    cases hasBackups with
    | true => exact .inl rfl
    | false => exact .inr (.inr (FileTree.remove_removes (Option.map_eq_none_iff.mp done)))
  | cons e rest ih =>
    unfold deleteEntries at done ⊢
    rw [forall_mem_cons]
    split at done
    · rename_i isBackups
      simp only [isBackups, and_self, if_true]
      exact ⟨⟨fun doomed => absurd trivial doomed, (ih done).1⟩,
        .inr (.inl ⟨e, mem_cons_self, isBackups⟩)⟩
    rename_i doomed
    simp only at done
    split at done
    · simp [done] at *
    rename_i fine
    obtain ⟨gone, left⟩ := ih done
    simp only [doomed, if_false, fine]
    refine ⟨⟨fun _ p node below still => ?_, gone⟩, left.imp_right (.imp_left ?_)⟩
    · have fine :
          (t.removeAll host.refuses (host.place (joinElements [dir, e.name]))).err = none := by
        simpa [Host.removeAll] using fine
      exact FileTree.removeAll_removes fine below node (deleteEntries_shrinks still)
    · exact fun ⟨e, later, isBackups⟩ => ⟨e, mem_cons_of_mem _ later, isBackups⟩

theorem Host.of_readDir_eq_entries {found : List DirEntry}
    (listed : host.readDir dir t = .entries found) : found = t.entries (host.place dir) := by
  unfold Host.readDir FileTree.readDir at listed
  grind

theorem Host.place_entry {e : DirEntry} (mem : e ∈ t.entries (host.place dir)) :
    host.place (joinElements [dir, e.name]) = host.place dir ++ [e.name] :=
  locate_join (FileTree.mem_entries.mp mem).plain host.cwd dir

theorem deleteVMDir_keeps_outside (outside : ¬ host.place dir <+: p) :
    (deleteVMDir host dir t).tree.Has p node ↔ t.Has p node := by
  unfold deleteVMDir
  split
  · rfl
  · rfl
  · rename_i found listed
    obtain rfl := Host.of_readDir_eq_entries listed
    refine deleteEntries_keeps (fun same => outside (same ▸ prefix_refl _)) ?_
    intro e mem _ below
    rw [Host.place_entry mem] at below
    exact outside ((prefix_append _ _).trans below)

/-- Nothing in `backups` changes. -/
theorem deleteVMDir_keeps_backups (backups : t.Has (host.place dir ++ ["backups".toList]) .dir)
    (inside : host.place dir ++ ["backups".toList] <+: p) :
    (deleteVMDir host dir t).tree.Has p node ↔ t.Has p node := by
  unfold deleteVMDir
  split
  · rfl
  · rfl
  · rename_i found listed
    obtain rfl := Host.of_readDir_eq_entries listed
    refine deleteEntries_keeps ?_ ?_
    · rintro rfl
      have shorter := inside.length_le
      simp only [length_append, length_singleton] at shorter
      omega
    · intro e mem doomed below
      rw [Host.place_entry mem] at below
      obtain name : e.name = "backups".toList := child_unique below inside
      have stands := FileTree.mem_entries.mp mem
      rw [name] at stands
      have kind := stands.same backups
      cases isDir : e.isDir with
      | true => exact doomed ⟨name, isDir⟩
      | false => simp [isDir] at kind

theorem deleteVMDir_shrinks (left : (deleteVMDir host dir t).tree.Has p node) : t.Has p node := by
  unfold deleteVMDir at left
  split at left
  · exact left
  · exact left
  · exact deleteEntries_shrinks left

structure KeepsBackups (host : Host) (dir : Text) (t : FileTree) (out : FileTree.Removal) :
    Prop where
  /-- Without an error, the directory is gone, if it had no backups, or has nothing but them. -/
  cleared : out.err = none →
    ¬ t.Has (host.place dir ++ ["backups".toList]) .dir ∧
        (∀ node, ¬ out.tree.Has (host.place dir) node) ∨
      t.Has (host.place dir ++ ["backups".toList]) .dir ∧
        ∀ p node, host.place dir <+: p → p ≠ host.place dir → (out.tree.Has p node ↔
          host.place dir ++ ["backups".toList] <+: p ∧ t.Has p node)
  kept : t.Has (host.place dir ++ ["backups".toList]) .dir →
    ∀ p node, host.place dir ++ ["backups".toList] <+: p → (out.tree.Has p node ↔ t.Has p node)

theorem Host.of_readDir_eq_missing (named : dir ≠ []) (missing : host.readDir dir t = .missing) :
    host.place dir ≠ [] ∧ ∀ node, ¬ t.Has (host.place dir) node := by
  unfold Host.readDir FileTree.readDir at missing
  rw [if_neg named] at missing
  split at missing
  · split at missing <;> cases missing
  rename_i noDir
  split at missing
  · cases missing
  · rename_i noFile
    refine ⟨fun top => noDir (.inl top), fun node stands => ?_⟩
    cases node with
    | dir => exact noDir (.inr stands)
    | file => exact noFile (any_eq_true.mpr ⟨_, stands, by simp⟩)

/-- `deleteVMDir` without an error. -/
theorem deleteVMDir_cases (done : (deleteVMDir host dir t).err = none) :
    host.readDir dir t = .missing ∧ (deleteVMDir host dir t).tree = t ∨
      deleteVMDir host dir t = deleteEntries host dir (t.entries (host.place dir)) false t := by
  unfold deleteVMDir at done ⊢
  split at done
  · rename_i missing
    simp [missing]
  · cases done
  · rename_i found listed
    obtain rfl := Host.of_readDir_eq_entries listed
    simp [listed]

theorem exists_entry {place : Place} (stands : t.Has p node) (below : place <+: p)
    (other : p ≠ place) : ∃ e ∈ t.entries place, place ++ [e.name] <+: p := by
  obtain ⟨rest, rfl⟩ := below
  cases rest with
  | nil => simp at other
  | cons name rest =>
    rw [append_cons] at stands ⊢
    rcases stands.below (by simp) with rfl | dir
    · rw [append_nil] at stands ⊢
      exact ⟨⟨name, node = .dir⟩, FileTree.mem_entries.mpr (by cases node <;> exact stands),
        prefix_refl _⟩
    · exact ⟨⟨name, true⟩, FileTree.mem_entries.mpr dir, prefix_append _ _⟩

/-- Clearing a directory keeps its backups, and leaves nothing else if it does not fail. -/
theorem clearing_keeps_only_backups (host : Host) (dir : Text) (t : FileTree)
    (named : dir ≠ []) : KeepsBackups host dir t (deleteVMDir host dir t) := by
  refine ⟨fun done => ?_, fun backups p node inside => deleteVMDir_keeps_backups backups inside⟩
  by_cases backups : t.Has (host.place dir ++ ["backups".toList]) .dir
  · refine .inr ⟨backups, fun p node below other => ⟨fun left => ?_, ?_⟩⟩
    · have stands := deleteVMDir_shrinks left
      refine ⟨?_, stands⟩
      obtain ⟨e, mem, inside⟩ := exists_entry stands below other
      by_contra outside
      rcases deleteVMDir_cases done with ⟨missing, -⟩ | loop
      · obtain ⟨top, gone⟩ := Host.of_readDir_eq_missing named missing
        exact gone .dir (backups.parent.resolve_left top)
      · rw [loop] at done left
        rw [← Host.place_entry mem] at inside
        refine (deleteEntries_clears done).1 e mem (fun same => outside ?_) p node inside left
        rwa [Host.place_entry mem, same.1] at inside
    · exact fun ⟨inside, stands⟩ => (deleteVMDir_keeps_backups backups inside).mpr stands
  · refine .inl ⟨backups, ?_⟩
    rcases deleteVMDir_cases done with ⟨missing, same⟩ | loop
    · rw [same]
      exact (Host.of_readDir_eq_missing named missing).2
    · rw [loop] at done ⊢
      rcases (deleteEntries_clears done).2 with impossible | ⟨⟨name, isDir⟩, mem, rfl, rfl⟩ | gone
      · cases impossible
      · exact absurd (FileTree.mem_entries.mp mem) backups
      · exact gone

/-! ## One call -/

variable {name : String} {w : World}

def BootDisk (host : Host) (name : String) (w : World) (p : Place) : Prop :=
  ∃ cfg d, w.configs name = .ok cfg ∧ findManagedBootDisk cfg = some d ∧
    p = host.place (managedBootDiskAbsPath name d).toList

theorem bootDisk_of_relocated {cfg : VMConfig} {path : String} (config : w.configs name = .ok cfg)
    (relocated : relocatedBootDisk name (host.vmDir name) cfg = some path) :
    BootDisk host name w (host.place path.toList) := by
  unfold relocatedBootDisk at relocated
  split at relocated
  · cases relocated
  · rename_i d found
    have path_eq : path = managedBootDiskAbsPath name d := by grind
    exact ⟨cfg, d, config, found, by rw [path_eq]⟩

theorem bootDisk_of_doomed {path : String} (doomed : doomedDisk host name w = some path) :
    BootDisk host name w (host.place path.toList) := by
  unfold doomedDisk at doomed
  split at doomed
  · rename_i cfg config
    exact bootDisk_of_relocated config doomed
  · cases doomed

@[simp] theorem dbDeleteVM_tree : (dbDeleteVM host name w).tree = w.tree := by
  unfold dbDeleteVM
  split <;> rfl

@[simp] theorem removeTunnels_tree : (removeTunnels host name w).tree = w.tree := by
  unfold removeTunnels
  split
  · rfl
  · split
    · rfl
    · split <;> rfl

/-- The files when `deleteVMDir` begins. -/
def clearedTree (host : Host) (name : String) (w : World) : FileTree :=
  (removeDisk host (doomedDisk host name w) (dbDeleteVM host name w)).tree

theorem clearedTree_keeps (notDisk : ¬ BootDisk host name w p) :
    (clearedTree host name w).Has p node ↔ w.tree.Has p node := by
  unfold clearedTree removeDisk
  split
  · rename_i path doomed
    have other : p ≠ host.place path.toList := by
      rintro rfl
      exact notDisk (bootDisk_of_doomed doomed)
    rw [Host.remove_keeps other, dbDeleteVM_tree]
  · rw [dbDeleteVM_tree]

theorem clearedTree_shrinks (left : (clearedTree host name w).Has p node) : w.tree.Has p node := by
  unfold clearedTree removeDisk at left
  split at left
  · exact dbDeleteVM_tree ▸ FileTree.remove_shrinks left
  · exact dbDeleteVM_tree ▸ left

/-- A call for a VM that does not run clears the directory that the name leads to. -/
theorem delete_of_stopped
    (stopped : ¬ w.stateIs name fun state => state.running && host.isAlive state.pid) :
    (delete host name w).1 = (deleteVMDir host (host.vmDir name) (clearedTree host name w)).err ∧
      (delete host name w).2.tree =
        (deleteVMDir host (host.vmDir name) (clearedTree host name w)).tree := by
  unfold delete
  rw [if_neg stopped]
  simp only [removeTunnels_tree, clearedTree, and_self]

theorem delete_tree (host : Host) (name : String) (w : World) :
    (delete host name w).2.tree = w.tree ∨
      (delete host name w).2.tree =
        (deleteVMDir host (host.vmDir name) (clearedTree host name w)).tree := by
  by_cases running : w.stateIs name fun state => state.running && host.isAlive state.pid
  · simp [delete, running]
  · exact .inr (delete_of_stopped running).2

/-- A call leaves what is neither in the directory nor the boot disk. -/
theorem delete_keeps_outside (notDisk : ¬ BootDisk host name w p)
    (outside : ¬ host.place (host.vmDir name) <+: p) :
    (delete host name w).2.tree.Has p node ↔ w.tree.Has p node := by
  rcases delete_tree host name w with same | cleared
  · rw [same]
  · rw [cleared, deleteVMDir_keeps_outside outside, clearedTree_keeps notDisk]

/-- A call leaves what is in the directory's `backups`, unless it is the boot disk. -/
theorem delete_keeps_backups (notDisk : ¬ BootDisk host name w p)
    (backups : w.tree.Has (host.place (host.vmDir name) ++ ["backups".toList]) .dir)
    (inside : host.place (host.vmDir name) ++ ["backups".toList] <+: p) :
    (delete host name w).2.tree.Has p node ↔ w.tree.Has p node := by
  rcases delete_tree host name w with same | cleared
  · rw [same]
  rw [cleared]
  constructor
  · exact fun left => clearedTree_shrinks (deleteVMDir_shrinks left)
  · intro stands
    have kept : (clearedTree host name w).Has p node := (clearedTree_keeps notDisk).mpr stands
    obtain ⟨rest, rfl⟩ := inside
    -- the node is still there, and with it the directory above it
    have still : (clearedTree host name w).Has
        (host.place (host.vmDir name) ++ ["backups".toList]) .dir := by
      rcases kept.below (by simp) with rfl | dir
      · rw [append_nil] at stands kept
        exact stands.same backups ▸ kept
      · exact dir
    exact (deleteVMDir_keeps_backups still (prefix_append _ _)).mpr kept

theorem Host.place_vmDir (plain : PlainName name.toList) :
    host.place (host.vmDir name) = host.root ++ [name.toList] :=
  locate_join plain host.cwd host.storagePath.toList

def DeleteCall.Changes (call : DeleteCall) (p : Place) : Prop :=
  ∃ node, ¬ (call.after.tree.Has p node ↔ call.before.tree.Has p node)

structure DeleteCall.TouchesOnly (host : Host) (call : DeleteCall) : Prop where
  /-- Without an error, what is removed is in the VM's directory, a direct child of the
  storage root, or is its boot disk. -/
  inside : call.err = none → ∀ p, call.Changes p →
    PlainName call.name.toList ∧ host.root ++ [call.name.toList] <+: p ∨
      BootDisk host call.name call.before p
  /-- The directory of another VM stays as it is. -/
  others : ∀ vm : String, PlainName vm.toList → vm ≠ call.name →
    ∀ p, host.root ++ [vm.toList] <+: p → call.Changes p → BootDisk host call.name call.before p
  /-- The backups of every VM stay as they are. -/
  backups : ∀ vm : String, PlainName vm.toList →
    call.before.tree.Has (host.root ++ [vm.toList, "backups".toList]) .dir →
    ∀ p, host.root ++ [vm.toList, "backups".toList] <+: p → call.Changes p →
      BootDisk host call.name call.before p

/-- The call that `Delete` makes of a name. -/
def callOf (host : Host) (name : String) (w : World) : DeleteCall :=
  ⟨name, w, (delete host name w).2, (delete host name w).1⟩

theorem touchesOnly_of_plain (plain : PlainName name.toList) (w : World) :
    (callOf host name w).TouchesOnly host := by
  have own : ∀ {p}, (callOf host name w).Changes p →
      host.root ++ [name.toList] <+: p ∨ BootDisk host name w p := by
    rintro p ⟨node, changed⟩
    by_contra apart
    simp only [not_or] at apart
    refine changed (delete_keeps_outside apart.2 ?_)
    rw [Host.place_vmDir plain]
    exact apart.1
  refine ⟨fun _ p changes => (own changes).imp_left fun below => ⟨plain, below⟩, ?_, ?_⟩
  · intro vm _ other p below changes
    rcases own changes with ownDir | disk
    · exact absurd (String.toList_inj.mp (child_unique below ownDir)) other
    · exact disk
  · intro vm _ backups p below changes
    by_contra notDisk
    rcases own changes with ownDir | disk
    · have above : host.root ++ [vm.toList] <+: host.root ++ [vm.toList, "backups".toList] := by
        simp
      obtain rfl := String.toList_inj.mp (child_unique (above.trans below) ownDir)
      obtain ⟨node, changed⟩ := changes
      refine changed (delete_keeps_backups notDisk ?_ ?_)
      · simpa [Host.place_vmDir plain, callOf] using backups
      · simpa [Host.place_vmDir plain] using below
    · exact notDisk disk

/-! ## A whole request -/

theorem deleteNamed_of_running (running : progress.world.stateIs name (·.running)) :
    (deleteNamed host progress name).world = progress.world ∧
      (deleteNamed host progress name).calls = progress.calls := by
  simp [deleteNamed, running]

theorem deleteNamed_of_stopped (stopped : ¬ progress.world.stateIs name (·.running)) :
    (deleteNamed host progress name).calls =
      progress.calls ++ [callOf host name progress.world] := by
  unfold deleteNamed
  rw [if_neg stopped]
  simp only
  split <;> rfl

theorem deleteNamed_calls (host : Host) (progress : Progress) (name : String) :
    (deleteNamed host progress name).calls = progress.calls ∨
      (deleteNamed host progress name).calls =
        progress.calls ++ [callOf host name progress.world] := by
  by_cases running : progress.world.stateIs name (·.running)
  · exact .inl (deleteNamed_of_running running).2
  · exact .inr (deleteNamed_of_stopped running)

theorem of_mem_calls {call : DeleteCall}
    (mem : call ∈ (names.foldl (deleteNamed host) progress).calls) :
    call ∈ progress.calls ∨ ∃ name ∈ names, ∃ w, call = callOf host name w := by
  induction names generalizing progress with
  | nil => exact .inl mem
  | cons name names ih =>
    rcases ih mem with earlier | ⟨later, inNames, w, rfl⟩
    · rcases deleteNamed_calls host progress name with same | more
      · exact .inl (same ▸ earlier)
      · rw [more, mem_append, mem_singleton] at earlier
        rcases earlier with before | rfl
        · exact .inl before
        · exact .inr ⟨name, mem_cons_self, progress.world, rfl⟩
    · exact .inr ⟨later, mem_cons_of_mem _ inNames, w, rfl⟩

theorem calls_grow (names : List String) {call : DeleteCall}
    (mem : call ∈ progress.calls) : call ∈ (names.foldl (deleteNamed host) progress).calls := by
  induction names generalizing progress with
  | nil => exact mem
  | cons name names ih =>
    refine ih ?_
    rcases deleteNamed_calls host progress name with same | more
    · exact same ▸ mem
    · rw [more]
      exact mem_append_left _ mem

theorem world_of_all_running (running : ∀ name ∈ names, progress.world.stateIs name (·.running)) :
    (names.foldl (deleteNamed host) progress).world = progress.world := by
  induction names generalizing progress with
  | nil => rfl
  | cons name names ih =>
    have same : (deleteNamed host progress name).world = progress.world :=
      (deleteNamed_of_running (running name mem_cons_self)).1
    rw [foldl_cons, ih, same]
    rw [same]
    exact fun later mem => running later (mem_cons_of_mem _ mem)

/-- The only VM of a request that does not run is deleted, from the files as they were. -/
theorem mem_calls_of_only_stopped (mem : name ∈ names) (stopped : ¬ w.stateIs name (·.running))
    (running : ∀ other, other ≠ name → w.stateIs other (·.running)) :
    callOf host name w ∈ (names.foldl (deleteNamed host) { world := w }).calls := by
  obtain ⟨before, behind, rfl, first⟩ := eq_append_cons_of_mem mem
  rw [foldl_append, foldl_cons]
  refine calls_grow behind ?_
  have same : (before.foldl (deleteNamed host) { world := w }).world = w :=
    world_of_all_running fun other earlier => running other (by rintro rfl; exact first earlier)
  rw [deleteNamed_of_stopped (by rw [same]; exact stopped), same]
  simp

/-! ## Names that lead elsewhere -/

theorem deleteEntries_fine (free : ∀ p, host.refuses p = none)
    (backups : hasBackups ∨ ∃ e ∈ entries, e.name = "backups".toList ∧ e.isDir) :
    (deleteEntries host dir entries hasBackups t).err = none := by
  induction entries generalizing hasBackups t with
  | nil =>
    simp only [not_mem_nil, false_and, exists_false, or_false] at backups
    simp [deleteEntries, backups]
  | cons e rest ih =>
    unfold deleteEntries
    split
    · exact ih (.inl rfl)
    · rename_i doomed
      have fine : (host.removeAll (joinElements [dir, e.name]) t).err = none :=
        congrArg (Option.map _) (FileTree.stuck_eq_none free _)
      simp only [fine, Option.isSome_none, Bool.false_eq_true, if_false]
      refine ih ?_
      simpa only [exists_mem_cons_iff, doomed, false_or] using backups

theorem deleteVMDir_clears (free : ∀ p, host.refuses p = none)
    (readable : ∀ p, host.unreadable p = none) (named : dir ≠ [])
    (backups : t.Has (host.place dir ++ ["backups".toList]) .dir) {name : Text}
    (other : name ≠ "backups".toList) (stands : t.Has (host.place dir ++ [name]) .file) :
    (deleteVMDir host dir t).err = none ∧
      ¬ (deleteVMDir host dir t).tree.Has (host.place dir ++ [name]) .file := by
  have listed : host.readDir dir t = .entries (t.entries (host.place dir)) := by
    simp [Host.readDir, named, FileTree.readDir, backups.parent, readable]
  have mem : (⟨name, false⟩ : DirEntry) ∈ t.entries (host.place dir) :=
    FileTree.mem_entries.mpr stands
  have hasBackups : (⟨"backups".toList, true⟩ : DirEntry) ∈ t.entries (host.place dir) :=
    FileTree.mem_entries.mpr backups
  unfold deleteVMDir
  simp only [listed]
  have fine : (deleteEntries host dir (t.entries (host.place dir)) false t).err = none :=
    deleteEntries_fine free (.inr ⟨_, hasBackups, rfl, rfl⟩)
  refine ⟨fine, (deleteEntries_clears fine).1 _ mem (fun same => other same.1) _ _ ?_⟩
  rw [Host.place_entry mem]

/-- The directories on the way to a place, the place among them. -/
def directories (place : Place) : List Place := place.inits.filter (· ≠ [])

theorem mem_directories {place p : Place} : p ∈ directories place ↔ p ≠ [] ∧ p <+: place := by
  simp [directories, and_comm]

theorem inits_nodup (place : Place) : place.inits.Nodup := by
  induction place with
  | nil => exact nodup_singleton _
  | cons name place ih =>
    rw [inits_cons, nodup_cons]
    exact ⟨by simp, ih.map fun _ _ => (cons.inj · |>.2)⟩

def stocked (place : Place) (plain : ∀ name ∈ place, PlainName name) : FileTree where
  nodes := (place ++ ["backups".toList], .dir) :: (place ++ ["disk.qcow2".toList], .file) ::
    (directories place).map (·, .dir)
  unique := by
    have lower : ∀ name : Text, place ++ [name] ∉ directories place := by
      intro name member
      have short := (mem_directories.mp member).2.length_le
      simp only [List.length_append, List.length_singleton] at short
      omega
    have apart : "backups".toList ≠ "disk.qcow2".toList := by decide
    have same : ((directories place).map (·, Node.dir)).map Prod.fst = directories place := by
      simp [Function.comp_def]
    simp only [List.map_cons, same, List.nodup_cons, List.mem_cons, List.append_cancel_left_eq,
      List.cons.injEq, and_true, not_or]
    exact ⟨⟨apart, lower _⟩, lower _, (inits_nodup place).filter _⟩
  plain := by
    have below : ∀ last : Text, PlainName last → ∀ name ∈ place ++ [last], PlainName name := by
      intro last lastPlain name member
      rcases List.mem_append.mp member with above | here
      · exact plain name above
      · exact List.mem_singleton.mp here ▸ lastPlain
    intro e member
    simp only [List.mem_cons, List.mem_map] at member
    rcases member with rfl | rfl | ⟨p, known, rfl⟩
    · exact below _ (by decide)
    · exact below _ (by decide)
    · exact fun name inP => plain name ((mem_directories.mp known).2.subset inP)
  parents := by
    have listed : ∀ p : Place, p <+: place → p = [] ∨
        (p, Node.dir) ∈ (place ++ ["backups".toList], Node.dir) ::
          (place ++ ["disk.qcow2".toList], Node.file) :: (directories place).map (·, Node.dir) := by
      intro p above
      by_cases top : p = []
      · exact .inl top
      · simp [mem_directories, top, above]
    intro e member
    simp only [List.mem_cons, List.mem_map] at member
    rcases member with rfl | rfl | ⟨p, known, rfl⟩
    · exact ⟨by simp, listed _ (by simp)⟩
    · exact ⟨by simp, listed _ (by simp)⟩
    · obtain ⟨named, above⟩ := mem_directories.mp known
      exact ⟨named, listed _ ((List.dropLast_prefix p).trans above)⟩

def plainHost : Host where
  cwd := []
  storagePath := "/vms"
  isAlive _ := true

def namedPlace (name : String) : Place := plainHost.place (plainHost.vmDir name)

/-- All VMs but one run, and there is something to lose where the name of that one leads. -/
def stockedWorld (name : String) : World where
  tree := stocked (namedPlace name) (plain_of_mem_locate (by simp [plainHost]))
  states other := .ok { running := other ≠ name }
  configs other := .error ("VM " ++ goQuote other ++ " not found")

theorem callOf_stocked (name : String) : (callOf plainHost name (stockedWorld name)).err = none ∧
      (callOf plainHost name (stockedWorld name)).Changes
        (namedPlace name ++ ["disk.qcow2".toList]) := by
  have stopped : ¬ (stockedWorld name).stateIs name
      fun state => state.running && plainHost.isAlive state.pid := by
    simp [World.stateIs, stockedWorld]
  have same : clearedTree plainHost name (stockedWorld name) = (stockedWorld name).tree := by
    simp [clearedTree, removeDisk, doomedDisk, stockedWorld]
  have stands : (stockedWorld name).tree.Has (namedPlace name ++ ["disk.qcow2".toList]) .file := by
    simp [stockedWorld, stocked, FileTree.Has]
  have backups : (stockedWorld name).tree.Has (namedPlace name ++ ["backups".toList]) .dir := by
    simp [stockedWorld, stocked, FileTree.Has]
  have named : plainHost.vmDir name ≠ [] := joinElements_ne_nil mem_cons_self (by decide)
  obtain ⟨fine, gone⟩ := deleteVMDir_clears (fun _ => rfl) (fun _ => rfl) named backups
    (by decide) stands
  obtain ⟨err, tree⟩ := delete_of_stopped stopped
  refine ⟨err.trans fine, .file, ?_⟩
  show ¬ ((delete plainHost name (stockedWorld name)).2.tree.Has _ _ ↔ _)
  rw [tree]
  exact fun kept => gone (kept.mpr stands)

/-- Deleting touches only the VMs that are named, whatever they are and wherever they stand,
exactly if each name is that of an entry of a directory. -/
theorem vmDelete_touches_only_named_iff (input : VMDeleteIn) :
    (∀ (host : Host) (w : World), ∀ call ∈ (deleteAll host input w).calls, call.TouchesOnly host) ↔
      ∀ name ∈ input.requested, PlainName name.toList := by
  constructor
  · intro touchesOnly name member
    by_contra odd
    have made : callOf plainHost name (stockedWorld name) ∈
        (deleteAll plainHost input (stockedWorld name)).calls := by
      refine mem_calls_of_only_stopped member ?_ ?_
      · simp [World.stateIs, stockedWorld]
      · intro other differs
        simp [World.stateIs, stockedWorld, differs]
    obtain ⟨fine, changes⟩ := callOf_stocked name
    rcases (touchesOnly plainHost _ _ made).inside fine _ changes with ⟨plain, _⟩ | disk
    · exact odd plain
    · obtain ⟨cfg, _, config, _⟩ := disk
      cases config
  · intro plain host w call member
    rcases of_mem_calls member with none | ⟨name, named, before, rfl⟩
    · cases none
    · exact touchesOnly_of_plain (plain name named) before

/-- A storage root with one VM, stopped, with its disk and a backup. -/
def oneVM : World where
  tree :=
    { nodes :=
        [(["vms".toList], .dir), (["vms".toList, "web".toList], .dir),
          (["vms".toList, "web".toList, "disk-web-20G.qcow2".toList], .file),
          (["vms".toList, "web".toList, "backups".toList], .dir),
          (["vms".toList, "web".toList, "backups".toList, "2026-07-01".toList], .dir)]
      unique := by decide
      plain := by decide
      parents := by decide }
  states _ := .ok {}
  configs other :=
    if other = "web" then .ok { name := "web" }
    else .error ("VM " ++ goQuote other ++ " not found")

/-- The directory of a VM is cleared but for the backup. -/
theorem one_vm_keeps_backup : (deleteVMDir plainHost "/vms/web".toList oneVM.tree).err = none ∧
    KeepsBackups plainHost "/vms/web".toList oneVM.tree
      (deleteVMDir plainHost "/vms/web".toList oneVM.tree) :=
  ⟨by decide, clearing_keeps_only_backups _ _ _ (by decide)⟩

/-- An empty text among the names is reported as deleted and takes all VMs with it. -/
theorem empty_name_clears_storage :
    ¬ ∀ call ∈ (deleteAll plainHost { names := [""] } oneVM).calls, call.TouchesOnly plainHost := by
  intro touchesOnly
  have made : callOf plainHost "" oneVM ∈ (deleteAll plainHost { names := [""] } oneVM).calls :=
    mem_singleton.mpr rfl
  have changes : (callOf plainHost "" oneVM).Changes
      ["vms".toList, "web".toList, "backups".toList, "2026-07-01".toList] :=
    ⟨.dir, by decide⟩
  obtain ⟨cfg, _, config, _⟩ :=
    (touchesOnly _ made).others "web" (by decide) (by decide) _ (by decide) changes
  cases config

example : (deleteAll plainHost { names := [""] } oneVM).deleted = [""] := by decide

end Vee.Delete
