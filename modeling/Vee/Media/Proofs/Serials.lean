import Mathlib.Data.List.TakeWhile
import Vee.Build.Overrides
import Vee.Media.Source
import Vee.Misc.Results
import Vee.Templates.TrueNAS

/-!
# Serials of passed-through drives

When the drives that are passed through to a guest keep their identities there.
-/

namespace Vee.Media

open QEMU Templates List

/-- The name of a whole disk under `/dev/disk/by-id`. -/
structure DiskName where
  text : Text
  named : text ≠ []
  plain : '/' ∉ text
  /-- It does not end like that of a partition. -/
  whole : ∀ disk number, number ≠ [] → number.all Char.isDigit →
    text ≠ disk ++ "-part".toList ++ number

namespace DiskName

def path (n : DiskName) : String := String.ofList ("/dev/disk/by-id/".toList ++ n.text)

theorem toList_path (n : DiskName) : n.path.toList = "/dev/disk/by-id/".toList ++ n.text :=
  String.toList_ofList

theorem colon_mem_path {n : DiskName} : ':' ∈ n.path.toList ↔ ':' ∈ n.text := by
  rw [toList_path, mem_append]
  constructor
  · intro mem
    exact mem.resolve_left (by decide)
  · exact .inr

theorem path_ne_empty (n : DiskName) : n.path ≠ "" := by
  intro empty
  have none := n.toList_path
  rw [empty] at none
  exact absurd none (cons_ne_nil _ _).symm

/-- A name without `-part` is that of a whole disk. -/
def ofText (text : Text) (named : text ≠ []) (plain : '/' ∉ text)
    (noPart : containsText text "-part".toList = false) : DiskName where
  text
  named
  plain
  whole disk number _ _ same := by
    have contains := containsText_middle disk "-part".toList number
    rw [← same, noPart] at contains
    cases contains

/-- The bytes of a name that can make a serial: behind the bus and ahead of the last
`-part`. -/
def bare (n : DiskName) : Text := cutPart (stripBus (bytesOf n.text))

/-- The names differ in one of the first 20 of these bytes. -/
def DifferEarly (n m : DiskName) : Prop := ∃ i < 20, n.bare[i]? ≠ m.bare[i]?

end DiskName

/-- The disks are the given drives, in order, with serials of at most 20 bytes that tell
them apart. -/
structure KeepIdentity (names : List DiskName) (disks : List DiskConfig) : Prop where
  paths : disks.map (·.path) = names.map DiskName.path
  short : ∀ d ∈ disks, d.serial.toList.length ≤ 20
  distinct : (disks.map (·.serial)).Nodup

structure BlockMedia where
  name : DiskName
  guestPath : String
  rooted : guestPath.toList.head? = some '/'
  fsType : String := ""
  readOnly : Bool := false

def BlockMedia.source (m : BlockMedia) : Source where
  kind := .block
  guestPath := m.guestPath
  readOnly := m.readOnly
  block := some { devPath := m.name.path, fsType := m.fsType }

/-! ## Serials -/

theorem take_eq_take_iff {α : Type} {k : Nat} {xs ys : List α} :
    xs.take k = ys.take k ↔ ∀ i < k, xs[i]? = ys[i]? := by
  constructor
  · intro same i bound
    have at' := congrArg (·[i]?) same
    simpa [getElem?_take, bound] using at'
  · intro same
    apply ext_getElem?
    intro i
    by_cases bound : i < k
    · simpa [getElem?_take, bound] using same i bound
    · simp only [getElem?_take, bound, if_false]

namespace DiskName

variable (n : DiskName)

theorem basePath_path : basePath n.path.toList = n.text := by
  have plain : ∀ c ∈ n.text.reverse, c ≠ '/' := fun c mem =>
    ne_of_mem_of_not_mem (mem_reverse.mp mem) n.plain
  have start : n.text.reverse ≠ [] := by simpa using n.named
  unfold basePath path
  simp only [String.toList_ofList, reverse_append]
  rw [if_neg (by simp)]
  have kept : (n.text.reverse ++ "/dev/disk/by-id/".toList.reverse).dropWhile (· = '/') =
      n.text.reverse ++ "/dev/disk/by-id/".toList.reverse := by
    cases turned : n.text.reverse with
    | nil => exact absurd turned start
    | cons c rest =>
      have head : c ≠ '/' := plain c (by simp [turned])
      simp [head]
  have scanned : (n.text.reverse ++ "/dev/disk/by-id/".toList.reverse).takeWhile (· ≠ '/') =
      n.text.reverse := by
    rw [takeWhile_append_of_pos (by simpa using plain)]
    simp
  rw [kept, scanned]
  split
  · rename_i none
    exact absurd none start
  · simp

theorem serial_path : serialFromPath n.path = String.ofList (n.bare.take 20) := by
  unfold serialFromPath bare
  rw [basePath_path]

/-- Two drives have different serials exactly if their names differ early enough. -/
theorem serial_ne_iff {n m : DiskName} :
    serialFromPath n.path ≠ serialFromPath m.path ↔ n.DifferEarly m := by
  rw [serial_path, serial_path, ne_eq, String.ofList_inj, take_eq_take_iff]
  simp [DifferEarly]

theorem serial_length : (serialFromPath n.path).toList.length ≤ 20 := by
  rw [serial_path, String.toList_ofList]
  exact length_take_le 20 _

end DiskName

theorem keepIdentity_iff {names : List DiskName} {disks : List DiskConfig}
    (paths : disks.map (·.path) = names.map DiskName.path)
    (serials : disks.map (·.serial) = names.map fun n => serialFromPath n.path) :
    KeepIdentity names disks ↔ names.Pairwise DiskName.DifferEarly := by
  have short : ∀ d ∈ disks, d.serial.toList.length ≤ 20 := by
    intro d mem
    have listed : d.serial ∈ disks.map (·.serial) := mem_map_of_mem mem
    rw [serials] at listed
    obtain ⟨n, -, same⟩ := mem_map.mp listed
    rw [← same]
    exact n.serial_length
  have distinct : (disks.map (·.serial)).Nodup ↔ names.Pairwise DiskName.DifferEarly := by
    rw [serials, List.Nodup, pairwise_map]
    simp only [DiskName.serial_ne_iff]
  constructor
  · intro keep
    exact distinct.mp keep.distinct
  · intro differ
    exact ⟨paths, short, distinct.mpr differ⟩

/-! ## The template -/

theorem cutLast_eq_none {c : Char} {text : Text} (absent : c ∉ text) : cutLast c text = none := by
  simp [cutLast, cutFirst, absent]

theorem cutLast_isSome {c : Char} {text : Text} (present : c ∈ text) :
    ∃ before behind, cutLast c text = some (before, behind) := by
  simp [cutLast, cutFirst, present]

theorem parseDataDisk_plain {s : String} (plain : ':' ∉ s.toList) :
    Templates.parseDataDisk s = { path := s } := by
  simp [Templates.parseDataDisk, cutLast_eq_none plain]

/-- A colon in the name of a drive is taken for the one ahead of a serial. -/
theorem parseDataDisk_colon {n : DiskName} (colon : ':' ∈ n.text) :
    (Templates.parseDataDisk n.path).path ≠ n.path := by
  obtain ⟨before, behind, cut⟩ := cutLast_isSome (DiskName.colon_mem_path.mpr colon)
  have whole := cutLast_eq_some cut
  have rooted : before ≠ [] := by
    rintro rfl
    rw [DiskName.toList_path] at whole
    exact absurd (cons.inj whole).1 (by decide)
  unfold Templates.parseDataDisk
  simp only [cut, rooted, ne_eq, not_false_eq_true, if_true]
  intro same
  have lengths := congrArg (fun path => path.toList.length) same
  rw [whole] at lengths
  simp at lengths

theorem truenasDataDisk_plain {n : DiskName} (plain : ':' ∉ n.text) :
    (truenasDataDisk n.path).path = n.path ∧
      (truenasDataDisk n.path).serial = serialFromPath n.path := by
  have plain' : ':' ∉ n.path.toList := fun mem => plain (DiskName.colon_mem_path.mp mem)
  simp [truenasDataDisk, parseDataDisk_plain plain', truenasSerialFromPath]

theorem truenas_passthrough {host : TruenasHost} {conf : ProviderConfig}
    {name version bridge : String} {dataDisks : List String} {emulate : Bool} {cfg : VMConfig}
    (made : newTruenasConfig host conf name version bridge dataDisks emulate = .ok cfg) :
    cfg.disks.filter (·.passthrough) = dataDisks.map truenasDataDisk := by
  obtain ⟨_, -, made⟩ := exists_of_bind_eq_ok made
  obtain ⟨isoPath, -, made⟩ := exists_of_bind_eq_ok made
  cases made
  have data : ∀ raw, (truenasDataDisk raw).passthrough = true := fun _ => rfl
  simp [truenasSystemDisks, filter_map, Function.comp_def, data]

theorem truenas_keepIdentity_iff (names : List DiskName) :
    KeepIdentity names ((names.map DiskName.path).map truenasDataDisk) ↔
      (∀ n ∈ names, ':' ∉ n.text) ∧ names.Pairwise DiskName.DifferEarly := by
  by_cases plain : ∀ n ∈ names, ':' ∉ n.text
  · rw [keepIdentity_iff]
    · exact ⟨fun differ => ⟨plain, differ⟩, And.right⟩
    · rw [map_map, map_map]
      apply map_congr_left
      intro n mem
      exact (truenasDataDisk_plain (plain n mem)).1
    · rw [map_map, map_map]
      apply map_congr_left
      intro n mem
      exact (truenasDataDisk_plain (plain n mem)).2
  · constructor
    · intro keep
      obtain ⟨n, mem, colon⟩ : ∃ n ∈ names, ':' ∈ n.text := by simpa using plain
      have paths := keep.paths
      rw [map_map, map_map] at paths
      exact absurd (map_inj_left.mp paths n mem) (parseDataDisk_colon colon)
    · rintro ⟨plain', -⟩
      exact absurd plain' plain

/-! ## Block media -/

theorem BlockMedia.plan_source (m : BlockMedia) (secrets : String → Option String) :
    ∃ patch, m.source.plan .ubuntu secrets = .ok (patch, []) ∧
      patch.disks =
        [BlockSource.disk { devPath := m.name.path, fsType := m.fsType } m.readOnly] := by
  have named : m.guestPath ≠ "" := by
    intro empty
    have rooted := m.rooted
    simp [empty] at rooted
  have planned : ∃ patch, planBlock m.source = .ok (patch, []) ∧ patch.disks =
      [BlockSource.disk { devPath := m.name.path, fsType := m.fsType } m.readOnly] := by
    simp [planBlock, BlockMedia.source, m.name.path_ne_empty]
  simpa [Source.plan, Source.planKind, BlockMedia.source, named, rooted] using planned

def BlockMedia.disk (m : BlockMedia) : DiskConfig :=
  BlockSource.disk { devPath := m.name.path, fsType := m.fsType } m.readOnly

variable (media : List BlockMedia) (secrets : String → Option String)

theorem gather_blocks (k : Nat) (p : Patch) :
    ∃ patch, ((media.map BlockMedia.source).zipIdx k).foldlM (gatherPatch secrets) (p, []) =
        .ok (patch, []) ∧
      patch.disks = p.disks ++ media.map BlockMedia.disk := by
  induction media generalizing k p with
  | nil => exact ⟨p, rfl, by simp⟩
  | cons m media ih =>
    obtain ⟨patch, planned, disks⟩ := m.plan_source secrets
    obtain ⟨rest, gathered, same⟩ := ih (k + 1) (p.merge patch)
    refine ⟨rest, ?_, ?_⟩
    · simp only [map_cons, zipIdx_cons, foldlM_cons, gatherPatch, planned]
      exact gathered
    · rw [same]
      simp [Patch.merge, disks, BlockMedia.disk]

theorem planLibraries_blocks {media : List BlockMedia} {secrets : String → Option String}
    {patch : Patch} (planned : planLibraries (media.map BlockMedia.source) secrets = .ok patch) :
    patch.disks = media.map BlockMedia.disk := by
  obtain ⟨gathered, loop, disks⟩ := gather_blocks media secrets 0 {}
  unfold planLibraries at planned
  rw [loop] at planned
  cases planned
  simpa using disks

theorem blocks_keepIdentity_iff : KeepIdentity (media.map (·.name)) (media.map BlockMedia.disk) ↔
      (media.map (·.name)).Pairwise DiskName.DifferEarly := by
  apply keepIdentity_iff
  · rw [map_map, map_map]
    rfl
  · rw [map_map, map_map]
    rfl

/-- Passed-through drives keep their identities exactly if their names differ in one of the
first 20 bytes behind the bus and ahead of the last `-part`, and, for data disks, none
has a colon in it. -/
theorem passedThrough_keepIdentity_iff (names : List DiskName) (media : List BlockMedia) :
    (∀ (host : TruenasHost) (conf : ProviderConfig) (name version bridge : String) (emulate : Bool)
      (cfg : VMConfig),
      newTruenasConfig host conf name version bridge (names.map DiskName.path) emulate = .ok cfg →
        (KeepIdentity names (cfg.disks.filter (·.passthrough)) ↔
          (∀ n ∈ names, ':' ∉ n.text) ∧ names.Pairwise DiskName.DifferEarly)) ∧
    ∀ (secrets : String → Option String) (patch : Patch),
      planLibraries (media.map BlockMedia.source) secrets = .ok patch →
        (KeepIdentity (media.map (·.name)) patch.disks ↔
          (media.map (·.name)).Pairwise DiskName.DifferEarly) := by
  constructor
  · intro host conf name version bridge emulate cfg made
    rw [truenas_passthrough made]
    exact truenas_keepIdentity_iff names
  · intro secrets patch planned
    rw [planLibraries_blocks planned]
    exact blocks_keepIdentity_iff media

def hostWithInstaller : TruenasHost := ⟨"x86_64", fun _ => .ok "/iso/truenas.iso"⟩

theorem newTruenasConfig_ok (conf : ProviderConfig) (dataDisks : List String) :
    ∃ cfg, newTruenasConfig hostWithInstaller conf "nas" "" "" dataDisks false = .ok cfg :=
  ⟨_, rfl⟩

theorem planLibraries_ok :
    ∃ patch, planLibraries (media.map BlockMedia.source) secrets = .ok patch := by
  obtain ⟨patch, loop, -⟩ := gather_blocks media secrets 0 {}
  refine ⟨patch, ?_⟩
  unfold planLibraries
  rw [loop]
  rfl

def exosDisk : DiskName :=
  .ofText "ata-ST22000NM000C-3WC103_ZXA0S3H6".toList (by decide) (by decide) (by decide)

def redDisk : DiskName :=
  .ofText "ata-WDC_WD40EFRX-68N32N0_WD-WCC7K0000001".toList (by decide) (by decide) (by decide)

def otherRedDisk : DiskName :=
  .ofText "ata-WDC_WD40EFRX-68N32N0_WD-WCC7K0000002".toList (by decide) (by decide) (by decide)

/-- Drives of two models keep their identities. -/
theorem two_models_keepIdentity :
    ∃ cfg, newTruenasConfig hostWithInstaller
      { storagePath := "/vms", isoCachePath := "/iso" } "nas" ""
        "" ([exosDisk, redDisk].map DiskName.path) false = .ok cfg ∧
      KeepIdentity [exosDisk, redDisk] (cfg.disks.filter (·.passthrough)) := by
  obtain ⟨cfg, made⟩ := newTruenasConfig_ok { storagePath := "/vms", isoCachePath := "/iso" }
    ([exosDisk, redDisk].map DiskName.path)
  have differ : exosDisk.DifferEarly redDisk := ⟨0, by decide, by decide⟩
  refine ⟨cfg, made, ((passedThrough_keepIdentity_iff _ []).1 _ _ _ _ _ _ cfg made).mpr ⟨?_, ?_⟩⟩
  · decide +kernel
  · simpa using differ

theorem redDisks_same : ¬ redDisk.DifferEarly otherRedDisk := by
  rw [← DiskName.serial_ne_iff, not_not]
  decide +kernel

/-- Two drives of one model have one serial, as data disks and as block media. -/
theorem one_model_one_serial : redDisk.path ≠ otherRedDisk.path ∧
    (∃ cfg, newTruenasConfig hostWithInstaller
      { storagePath := "/vms", isoCachePath := "/iso" } "nas" ""
        "" ([redDisk, otherRedDisk].map DiskName.path) false = .ok cfg ∧
      ¬ KeepIdentity [redDisk, otherRedDisk] (cfg.disks.filter (·.passthrough))) ∧
    ∃ patch, planLibraries [BlockMedia.source ⟨redDisk, "/mnt/a", rfl, "ext4", false⟩,
        BlockMedia.source ⟨otherRedDisk, "/mnt/b", rfl, "ext4", false⟩]
          (fun _ => none) = .ok patch ∧
      ¬ KeepIdentity [redDisk, otherRedDisk] patch.disks := by
  refine ⟨by decide, ?_, ?_⟩
  · obtain ⟨cfg, made⟩ := newTruenasConfig_ok { storagePath := "/vms", isoCachePath := "/iso" }
      ([redDisk, otherRedDisk].map DiskName.path)
    refine ⟨cfg, made, ?_⟩
    rw [truenas_passthrough made, truenas_keepIdentity_iff]
    simp [redDisks_same]
  · let media : List BlockMedia :=
      [⟨redDisk, "/mnt/a", rfl, "ext4", false⟩, ⟨otherRedDisk, "/mnt/b", rfl, "ext4", false⟩]
    obtain ⟨patch, planned⟩ := planLibraries_ok media fun _ => none
    refine ⟨patch, planned, ?_⟩
    rw [planLibraries_blocks planned]
    intro keep
    have differ := (blocks_keepIdentity_iff media).mp keep
    exact redDisks_same (rel_of_pairwise_cons differ mem_cons_self)

end Vee.Media
