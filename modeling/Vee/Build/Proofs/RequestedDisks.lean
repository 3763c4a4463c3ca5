import Mathlib.Data.List.Nodup
import Vee.Build.Proofs.ScratchDisk

/-!
# The disks the user asks for

An entry of `--data-disk` or `--boot-disk` is a path, or a path with a serial after a colon. The
code always splits at the last colon, compares the boot disk before it is split, and strips the
disk of `--disk` with those of the template; with `PlainRequests` none of this shows.
-/

namespace Vee

open List

open Templates (DataDisk parseDataDisk)

/-- What the user means by an entry: the entry itself where it names a device or an
image, and otherwise a path with a serial. -/
def meant (host : BuildHost) (raw : String) : DataDisk :=
  match host.stat raw with
  | .ok .device => ⟨raw, ""⟩
  | .ok .regular => ⟨raw, ""⟩
  | _ => parseDataDisk raw

/-- The entries of `--data-disk` and `--boot-disk`. -/
def requests (opts : Opts) : List String :=
  opts.dataDisks ++ if opts.bootDisk ≠ "" then [opts.bootDisk] else []

/-- The user asks for a disk beside those of the template. A macOS guest of vz takes the
size for its restore disk instead. -/
def asksExtra (opts : Opts) (cfg : VMConfig) : Prop :=
  opts.disk ≠ "" ∧ ((overrideMachine opts cfg).backendName ≠ .vz ∨ cfg.macOS = none)
deriving Decidable

/-- Every disk the user asks for is there once, under a serial they gave, and the boot
disk alone is the first to boot. -/
structure Attached (host : BuildHost) (conf : ProviderConfig) (opts : Opts) (cfg : VMConfig)
    (disks : List DiskConfig) : Prop where
  /-- The extra disk, which `--boot-disk-path` may have moved. -/
  extra : asksExtra opts cfg → extraDisk conf opts ∈ disks ∨
    (opts.bootDiskPath ≠ "" ∧ { extraDisk conf opts with path := opts.bootDiskPath } ∈ disks)
  once : ∀ raw ∈ requests opts, (disks.map (·.path)).count (meant host raw).path = 1
  serial : ∀ raw ∈ requests opts, ∀ d ∈ disks, d.path = (meant host raw).path →
    ∃ raw' ∈ requests opts, meant host raw' = ⟨d.path, d.serial⟩
  boot : opts.bootDisk ≠ "" → disks.countP (·.bootIndex = 1) = 1 ∧
    ∀ d ∈ disks, d.bootIndex = 1 → d.path = (meant host opts.bootDisk).path

/-- The disks that stand before those of the entries are attached. -/
def standing (conf : ProviderConfig) (opts : Opts) (cfg : VMConfig) : List DiskConfig :=
  (relocateBootDisk opts (stripManaged opts (addDisk conf opts (overrideMachine opts cfg)))).disks

/-- The paths of disks that do not come from an entry: those of the template, of the extra disk
and of `--boot-disk-path`. -/
def otherPaths (conf : ProviderConfig) (opts : Opts) (cfg : VMConfig) : List String :=
  cfg.disks.map (·.path) ++ (if asksExtra opts cfg then [(extraDisk conf opts).path] else []) ++
    if opts.bootDiskPath ≠ "" then [opts.bootDiskPath] else []

/-- The entries are plain: each is meant as it is split, and no two disks share a path. -/
structure PlainRequests (host : BuildHost) (conf : ProviderConfig) (opts : Opts)
    (cfg : VMConfig) : Prop where
  /-- An extra disk is not asked for where the disks of the template are stripped. -/
  extra : asksExtra opts cfg → ¬ (opts.noAutoInstall = true ∧ opts.bootDisk ≠ "")
  /-- `os.Stat` finds no device and no image under an entry with a serial. -/
  splits : ∀ raw ∈ requests opts, meant host raw = parseDataDisk raw
  distinct : (opts.dataDisks.map fun raw => (parseDataDisk raw).path).Nodup
  /-- The boot disk has no serial. -/
  boot : opts.bootDisk ≠ "" → (parseDataDisk opts.bootDisk).path = opts.bootDisk
  apart : ∀ raw ∈ requests opts, (parseDataDisk raw).path ∉ otherPaths conf opts cfg
  /-- No disk of the template is the first to boot. -/
  unindexed : ∀ d ∈ cfg.disks, d.bootIndex ≠ 1

section Disks

variable {host : BuildHost} {conf : ProviderConfig} {opts : Opts} {cfg out : VMConfig}

variable {path raw : String} {disks added : List DiskConfig} {d : DiskConfig} {cfg' : VMConfig}

theorem mem_relocateFirst (path : String) (mem : d ∈ disks) :
    d ∈ relocateFirst path disks ∨ { d with path := path } ∈ relocateFirst path disks := by
  induction disks with
  | nil => cases mem
  | cons first rest ih =>
    unfold relocateFirst
    rcases mem_cons.mp mem with rfl | later
    · split
      · exact .inr mem_cons_self
      · exact .inl mem_cons_self
    · split
      · exact .inl (mem_cons_of_mem _ later)
      · exact (ih later).imp (mem_cons_of_mem _) (mem_cons_of_mem _)

def DiskConfig.asked (d : DiskConfig) : DataDisk := ⟨d.path, d.serial⟩

/-- A device or an image of the user, the first to boot if it is the boot disk. -/
structure DiskConfig.Users (opts : Opts) (d : DiskConfig) : Prop where
  first : d.bootIndex = 1 ↔ opts.bootDisk ≠ "" ∧ d.path = opts.bootDisk
  foreign : d.passthrough = true ∨ d.imageFile = true

theorem of_mem_relocateFirst (mem : d ∈ relocateFirst path disks) :
    ∃ d' ∈ disks, d.bootIndex = d'.bootIndex ∧ (d.path = d'.path ∨ d.path = path) := by
  induction disks with
  | nil => cases mem
  | cons first rest ih =>
    unfold relocateFirst at mem
    split at mem
    · rcases mem_cons.mp mem with rfl | later
      · exact ⟨first, mem_cons_self, rfl, .inr rfl⟩
      · exact ⟨d, mem_cons_of_mem _ later, rfl, .inl rfl⟩
    · rcases mem_cons.mp mem with rfl | later
      · exact ⟨d, mem_cons_self, rfl, .inl rfl⟩
      · obtain ⟨d', listed, same⟩ := ih later
        exact ⟨d', mem_cons_of_mem _ listed, same⟩

theorem of_mem_stripManaged
    (mem : d ∈ (stripManaged opts (addDisk conf opts (overrideMachine opts cfg))).disks) :
    d ∈ cfg.disks ∨ (asksExtra opts cfg ∧ d = extraDisk conf opts) := by
  have listed : d ∈ (addDisk conf opts (overrideMachine opts cfg)).disks := by
    unfold stripManaged at mem
    split at mem
    · exact (mem_filter.mp mem).1
    · exact mem
  unfold addDisk at listed
  split at listed
  · rename_i asks
    exact (mem_append.mp listed).imp_right fun new => ⟨asks, mem_singleton.mp new⟩
  · exact .inl listed

/-- What stands is at one of the other paths, and not the first to boot. -/
theorem PlainRequests.of_mem_standing (plain : PlainRequests host conf opts cfg)
    (mem : d ∈ standing conf opts cfg) : d.bootIndex ≠ 1 ∧ d.path ∈ otherPaths conf opts cfg := by
  have here : ∀ d ∈ (stripManaged opts (addDisk conf opts (overrideMachine opts cfg))).disks,
      d.bootIndex ≠ 1 ∧ d.path ∈ otherPaths conf opts cfg := by
    intro d mem
    unfold otherPaths
    rcases of_mem_stripManaged mem with listed | ⟨asks, rfl⟩
    · exact ⟨plain.unindexed d listed,
        mem_append_left _ (mem_append_left _ (mem_map_of_mem listed))⟩
    · refine ⟨by simp [extraDisk], mem_append_left _ (mem_append_right _ ?_)⟩
      rw [if_pos asks]
      exact mem_singleton_self _
  unfold standing relocateBootDisk at mem
  split at mem
  · rename_i moves
    obtain ⟨d', listed, index, same | moved⟩ := of_mem_relocateFirst mem
    · rw [index, same]
      exact here d' listed
    · refine ⟨index ▸ (here d' listed).1, mem_append_right _ ?_⟩
      rw [if_pos moves, moved]
      exact mem_singleton_self _
  · exact here d mem

theorem extra_mem_standing (asks : asksExtra opts cfg)
    (keeps : ¬ (opts.noAutoInstall = true ∧ opts.bootDisk ≠ "")) :
    extraDisk conf opts ∈ standing conf opts cfg ∨ (opts.bootDiskPath ≠ "" ∧
      { extraDisk conf opts with path := opts.bootDiskPath } ∈ standing conf opts cfg) := by
  have added : extraDisk conf opts ∈
      (stripManaged opts (addDisk conf opts (overrideMachine opts cfg))).disks := by
    have stated : opts.disk ≠ "" ∧ ((overrideMachine opts cfg).backendName ≠ .vz ∨
        (overrideMachine opts cfg).macOS = none) := asks
    unfold stripManaged
    rw [if_neg keeps, addDisk, if_pos stated]
    exact mem_append_right _ mem_cons_self
  unfold standing relocateBootDisk
  split
  · rename_i moves
    rcases mem_relocateFirst opts.bootDiskPath added with stays | moved
    · exact .inl stays
    · exact .inr ⟨moves, moved⟩
  · exact .inl added

section Counts

variable {added : List DiskConfig}

/-- The disks of the user that are the first to boot are those at the path of the boot
disk. -/
theorem added_first_count (boots : opts.bootDisk ≠ "") (users : ∀ d ∈ added, d.Users opts) :
    added.countP (·.bootIndex = 1) = (added.map (·.path)).count opts.bootDisk := by
  rw [count, countP_map]
  refine countP_congr fun d mem => ?_
  simp [(users d mem).first, boots]

section

variable (read : added.map DiskConfig.asked = (userDisks opts).map parseDataDisk)

include read

theorem added_paths :
    added.map (·.path) = (userDisks opts).map fun r => (parseDataDisk r).path := by
  have paths := congrArg (map DataDisk.path) read
  rw [map_map, map_map] at paths
  exact paths

theorem disks_count (path : String) : ((standing conf opts cfg ++ added).map (·.path)).count path =
      ((userDisks opts).map fun r => (parseDataDisk r).path).count path +
        ((standing conf opts cfg).map (·.path)).count path := by
  rw [map_append, count_append, added_paths read, Nat.add_comm]

theorem exists_read (mem : d ∈ added) : ∃ r ∈ userDisks opts, parseDataDisk r = d.asked := by
  have listed : d.asked ∈ (userDisks opts).map parseDataDisk := by
    rw [← read]
    exact mem_map_of_mem mem
  exact mem_map.mp listed

end

end Counts

section Plain

theorem mem_requests_of_userDisks (listed : raw ∈ userDisks opts) : raw ∈ requests opts := by
  unfold userDisks at listed
  unfold requests
  split at listed
  · rename_i boots
    rw [if_pos boots.1]
    exact listed
  · exact mem_append_left _ listed

variable (plain : PlainRequests host conf opts cfg)

include plain

/-- The path of every entry is read from one of them. -/
theorem PlainRequests.path_mem (asked : raw ∈ requests opts) :
    (parseDataDisk raw).path ∈ (userDisks opts).map fun r => (parseDataDisk r).path := by
  unfold requests at asked
  unfold userDisks
  split
  · rename_i boots
    rw [if_pos boots.1] at asked
    exact mem_map_of_mem asked
  · rename_i listed
    rcases mem_append.mp asked with data | boot
    · exact mem_map_of_mem data
    · split at boot
      · rename_i boots
        rw [mem_singleton.mp boot, plain.boot boots]
        have found : opts.dataDisks.any (fun raw => (parseDataDisk raw).path = opts.bootDisk) := by
          by_contra none
          exact listed ⟨boots, none⟩
        obtain ⟨r, mem, same⟩ := any_eq_true.mp found
        exact mem_map.mpr ⟨r, mem, of_decide_eq_true same⟩
      · cases boot

theorem PlainRequests.paths_nodup :
    ((userDisks opts).map fun r => (parseDataDisk r).path).Nodup := by
  unfold userDisks
  split
  · rename_i boots
    rw [map_append, nodup_append]
    refine ⟨plain.distinct, nodup_singleton _, ?_⟩
    rintro path mem _ boot rfl
    obtain ⟨r, listed, same⟩ := mem_map.mp mem
    rw [map_singleton, mem_singleton, plain.boot boots.1] at boot
    exact boots.2 (any_eq_true.mpr ⟨r, listed, decide_eq_true (same.trans boot)⟩)
  · exact plain.distinct

variable {added : List DiskConfig}
  (read : added.map DiskConfig.asked = (userDisks opts).map parseDataDisk)

include read

/-- Each path that is asked for is there once. -/
theorem PlainRequests.count_path (asked : raw ∈ requests opts) :
    ((standing conf opts cfg ++ added).map (·.path)).count (parseDataDisk raw).path = 1 := by
  have none : ((standing conf opts cfg).map (·.path)).count (parseDataDisk raw).path = 0 := by
    rw [count_eq_zero]
    intro mem
    obtain ⟨d, stands, same⟩ := mem_map.mp mem
    exact plain.apart raw asked (same ▸ (plain.of_mem_standing stands).2)
  rw [disks_count read, none, count_eq_one_of_mem plain.paths_nodup (plain.path_mem asked)]

theorem PlainRequests.attached (users : ∀ d ∈ added, d.Users opts) :
    Attached host conf opts cfg (standing conf opts cfg ++ added) := by
  refine ⟨?_, ?_, ?_, ?_⟩
  · intro asks
    rcases extra_mem_standing asks (plain.extra asks) with here | ⟨moves, moved⟩
    · exact .inl (mem_append_left _ here)
    · exact .inr ⟨moves, mem_append_left _ moved⟩
  · intro raw asked
    rw [plain.splits raw asked]
    exact plain.count_path read asked
  · intro raw asked d mem same
    rcases mem_append.mp mem with stands | new
    · rw [plain.splits raw asked] at same
      exact absurd (same ▸ (plain.of_mem_standing stands).2) (plain.apart raw asked)
    · obtain ⟨r, listed, made⟩ := exists_read read new
      have asked' := mem_requests_of_userDisks listed
      exact ⟨r, asked', (plain.splits r asked').trans made⟩
  · intro boots
    have asked : opts.bootDisk ∈ requests opts := by
      unfold requests
      rw [if_pos boots]
      exact mem_append_right _ mem_cons_self
    have meantBoot : (meant host opts.bootDisk).path = opts.bootDisk := by
      rw [plain.splits _ asked, plain.boot boots]
    constructor
    · have none : (standing conf opts cfg).countP (·.bootIndex = 1) = 0 := by
        rw [countP_eq_zero]
        intro d stands
        simp [(plain.of_mem_standing stands).1]
      have mem := plain.path_mem asked
      rw [plain.boot boots] at mem
      rw [countP_append, none, added_first_count boots users, added_paths read,
        count_eq_one_of_mem plain.paths_nodup mem]
    · intro d mem first
      rcases mem_append.mp mem with stands | new
      · exact absurd first (plain.of_mem_standing stands).1
      · rw [meantBoot, ((users d new).first.mp first).2]

end Plain

end Disks

end Vee
