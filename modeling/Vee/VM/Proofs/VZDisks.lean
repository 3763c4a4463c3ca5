import Vee.VM.VZDisks

/-!
# The disks of a vz Linux guest are substituted

The raw image of a disk is found by its name alone: a file that has the name is taken for the
image that an earlier run made, whoever made it, and neither another entry with the same name nor
the mark of an adopted image is looked at.
-/

namespace Vee.VZDisks

/-- The entry belongs to the user: vee adopts it as it is. -/
def adopted (d : DiskConfig) : Bool := d.imageFile || d.passthrough

def writable (d : DiskConfig) : Bool := d.media ≠ "cdrom" && !d.readonly

structure Faithful (site : Site) (name : String) (old new : List DiskConfig)
    (before after : World) : Prop where
  /-- Two writable disks are two images. -/
  apart : ∀ (i j : Nat) d e, new[i]? = some d → new[j]? = some e → i ≠ j → writable d → writable e →
    site.place d.path ≠ site.place e.path
  /-- The file of an adopted disk is still what the entry denotes. -/
  kept : ∀ (i : Nat) d d', old[i]? = some d → new[i]? = some d' → adopted d → ∀ bytes,
    before.files (site.place d.path) = some (.file bytes none) →
      after.files (site.place d'.path) = some (.file bytes none)
  /-- Another disk is a new file, or one that was made for this entry. -/
  own : ∀ (i : Nat) d d', old[i]? = some d → new[i]? = some d' → d.media ≠ "cdrom" → ¬ adopted d →
    ∀ bytes madeFor, before.files (site.place d'.path) = some (.file bytes madeFor) →
      madeFor = some (name, i)

def Site.rawPlace (site : Site) (d : DiskConfig) : Place := site.place (vzRawDiskPath d.path)

structure Unambiguous (site : Site) (name : String) (disks : List DiskConfig) (w : World) :
    Prop where
  apart : ∀ (i j : Nat) d e, disks[i]? = some d → disks[j]? = some e → i ≠ j →
    writable d → writable e → site.rawPlace d ≠ site.rawPlace e
  kept : ∀ d ∈ disks, d.media ≠ "cdrom" → adopted d → ∀ bytes,
    w.files (site.place d.path) = some (.file bytes none) →
      w.files (site.rawPlace d) = some (.file bytes none)
  own : ∀ (i : Nat) d, disks[i]? = some d → d.media ≠ "cdrom" → ¬ adopted d → ∀ bytes madeFor,
    w.files (site.rawPlace d) = some (.file bytes madeFor) → madeFor = some (name, i)

def repointed (d : DiskConfig) : DiskConfig :=
  if d.media = "cdrom" then d else vzRepointDisk d (vzRawDiskPath d.path)

/-- All that was there is still there, and each new file was made for an entry. -/
structure Grew (before w : World) : Prop where
  kept : ∀ q entry, before.files q = some entry → w.files q = some entry
  made : ∀ q bytes, w.files q = some (.file bytes none) → before.files q = some (.file bytes none)

section Steps

variable {site : Site} {before w w' : World} {ans : Answer}

theorem Grew.refl (w : World) : Grew w w := ⟨fun _ _ => id, fun _ _ => id⟩

variable {owner : Owner} {target : String} {d : DiskConfig}

theorem Grew.put {place : Place} {bytes : List UInt8} (grew : Grew before w)
    (free : before.files place = none) :
    Grew before (w.put place (some (.file bytes (some owner)))) := by
  constructor
  · intro q entry there
    have other : q ≠ place := by
      rintro rfl
      rw [free] at there
      cases there
    simpa [World.put, other] using grew.kept q entry there
  · intro q bytes' there
    by_cases same : q = place
    · simp [World.put, same] at there
    · exact grew.made q bytes' (by simpa [World.put, same] using there)

theorem Grew.mkdirs (grew : Grew before w) (place : Place) : Grew before (w.mkdirs place) := by
  constructor
  · intro q entry there
    simp [World.mkdirs, grew.kept q entry there]
  · intro q bytes there
    by_cases made : w.files q = none ∧ q <+: place
    · simp [World.mkdirs, made] at there
    · exact grew.made q bytes (by simpa [World.mkdirs, made] using there)

theorem vzHost_exec {op : Op} {res : op.Res}
    (ran : (vzHost site).exec 0 op ans w = some (res, w')) :
    op.exec site ans w = some (res, w') := ran

def Vacant (before : World) (place : Place) : Except String Unit → World → Prop
  | .ok _ => Grew before
  | .error _ => fun w => before.files place = none ∧ Grew before w

theorem stat_step {path : String} {res : Except String Unit} (grew : Grew before w)
    (ran : (vzHost site).exec 0 (.stat path) ans w = some (res, w')) :
    Vacant before (site.place path) res w' := by
  have ran := vzHost_exec ran
  simp only [Op.exec] at ran
  split at ran <;> cases ran
  · exact grew
  · rename_i nothing
    refine ⟨Option.eq_none_iff_forall_ne_some.mpr fun entry there => nothing ?_, grew⟩
    rw [grew.kept _ entry there]
    rfl

theorem makeDir_meets (path : String) :
    Meets (vzHost site) (Grew before) (makeDir path) (Returns fun _ => Grew before) := by
  refine .call (fun _ => Grew before) ?_ fun res => ?_
  · intro w ans res w' grew ran
    have ran := vzHost_exec ran
    simp only [Op.exec] at ran
    split at ran
    · cases ran
      exact grew
    · split at ran <;> cases ran
      exact grew.mkdirs _
  · cases res with
    | ok _ => exact .done fun _ => id
    | error _ => exact .done fun _ _ => trivial

theorem vzQemuImgPath_meets :
    Meets (vzHost site) (Grew before) vzQemuImgPath (Returns fun _ => Grew before) := by
  refine .call (fun _ => Grew before) ?_ fun res => ?_
  · intro w ans res w' grew ran
    cases vzHost_exec ran
    exact grew
  · cases res with
    | ok _ => exact .done fun _ => id
    | error _ => exact .done fun _ _ => trivial

structure Made (before : World) (owner : Owner) (place : Place) (w : World) : Prop
    extends Grew before w where
  image : ∃ bytes, w.files place = some (.file bytes (some owner))

theorem runQemuImg_meets {pre : World → Prop} {command : Command} {context : String}
    (owner : Owner) (free : before.files (site.place target) = none)
    (grew : ∀ w, pre w → Grew before w)
    (marks : ∀ w image, pre w → command.image site w (site.place target) = some image →
      ∃ bytes, image = .file bytes (some owner)) :
    Meets (vzHost site) pre (runQemuImg command context target)
      (Returns fun _ => Made before owner (site.place target)) := by
  refine .call (Returns fun _ => Made before owner (site.place target)) ?_ fun res => ?_
  · intro w ans res w' holds ran
    have ran := vzHost_exec ran
    cases res with
    | error text => trivial
    | ok u =>
      simp only [Op.exec] at ran
      split at ran
      · obtain ⟨text, -, impossible⟩ := Option.map_eq_some_iff.mp ran
        cases impossible
      split at ran
      · obtain ⟨text, -, impossible⟩ := Option.map_eq_some_iff.mp ran
        cases impossible
      · rename_i image written
        obtain ⟨bytes, rfl⟩ := marks w image holds written
        split at ran <;> cases ran
        exact ⟨(grew w holds).put free, bytes, by simp [World.put]⟩
  · cases res with
    | ok u => exact .done fun _ => id
    | error text =>
      exact .call (fun _ _ => True) (fun _ _ _ _ _ _ => trivial) fun _ => .done fun w _ => trivial

theorem makeRaw_meets (free : before.files (site.place target) = none) :
    Meets (vzHost site) (Grew before) (makeRaw owner d target)
      (Returns fun _ => Made before owner (site.place target)) := by
  unfold makeRaw
  split
  · refine .seq (runQemuImg_meets owner free (fun _ => id) ?_) fun u => ?_
    · intro w image _ converted
      simp only [Command.image] at converted
      split at converted <;> cases converted
      exact ⟨_, rfl⟩
    · unfold resizeConverted
      split
      · refine runQemuImg_meets owner free (fun w made => made.toGrew) ?_
        intro w image made resized
        obtain ⟨bytes, there⟩ := made.image
        simp only [Command.image, there] at resized
        cases resized
        exact ⟨_, rfl⟩
      · exact .done fun _ => id
  · refine runQemuImg_meets owner free (fun _ => id) ?_
    intro w image _ created
    cases created
    exact ⟨_, rfl⟩

def Placed (before : World) (entry d : DiskConfig) (w : World) : Prop :=
  d = entry ∧ Grew before w

theorem makeDisk_meets (free : before.files (site.place target) = none) :
    Meets (vzHost site) (Grew before) (makeDisk owner d target)
      (Returns (Placed before (vzRepointDisk d target))) := by
  refine .seq (makeDir_meets _) fun _ => ?_
  refine .seq vzQemuImgPath_meets fun _ => ?_
  refine .seq (makeRaw_meets free) fun _ => ?_
  exact .done fun w made => ⟨rfl, made.toGrew⟩

theorem materializeVZDisk_meets (owner : Owner) (d : DiskConfig) :
    Meets (vzHost site) (Grew before) (materializeVZDisk owner d)
      (Returns (Placed before (vzRepointDisk d (vzRawDiskPath d.path)))) := by
  refine .call (Vacant before (site.place (vzRawDiskPath d.path)))
    (fun _ _ _ _ => stat_step) fun present => ?_
  cases present with
  | ok _ => exact .done fun w grew => ⟨rfl, grew⟩
  | error text => exact .given makeDisk_meets

theorem materializeEntry_meets (name : String) (entry : DiskConfig × Nat) :
    Meets (vzHost site) (Grew before) (materializeEntry name entry)
      (Returns (Placed before (repointed entry.1))) := by
  unfold materializeEntry repointed
  split
  · exact .done fun w grew => ⟨rfl, grew⟩
  · split
    · exact materializeVZDisk_meets _ _
    · exact .done fun w _ => trivial

end Steps

/-- Every disk is repointed, and no file that was there is touched. -/
theorem materializeVZLinuxDisks_spec {site : Site} {name : String} {disks new : List DiskConfig}
    {before after : World}
    (ran : Ran (vzHost site) (materializeVZLinuxDisks name disks) before (.ok new) after) :
    new = disks.map repointed ∧ Grew before after := by
  have meets := Meets.forEach (M := vzHost site) (f := materializeEntry name)
    (fun front out w => out = front.map (repointed ·.1) ∧ Grew before w) (fun _ => True)
    disks.zipIdx ?_
  · obtain ⟨same, grew⟩ := meets ⟨rfl, Grew.refl before⟩ ran
    refine ⟨same.trans ?_, grew⟩
    conv_rhs => rw [← List.zipIdx_map_fst 0 disks, List.map_map]
    rfl
  · intro front entry rest out _
    refine .given fun same => (materializeEntry_meets name entry).weaken (fun _ => id) ?_
    intro result w placed
    cases result with
    | error text => trivial
    | ok d =>
      obtain ⟨rfl, grew⟩ := placed
      exact ⟨by simp [same], grew⟩

theorem writable_repointed (d : DiskConfig) : writable (repointed d) = writable d := by
  unfold repointed
  split <;> rfl

theorem repointed_place (site : Site) {d : DiskConfig} (disk : d.media ≠ "cdrom") :
    site.place (repointed d).path = site.rawPlace d := by
  rw [repointed, if_neg disk]
  rfl

theorem writable_disk {d : DiskConfig} (writes : writable d = true) : d.media ≠ "cdrom" := by
  simp only [writable, Bool.and_eq_true, decide_eq_true_eq] at writes
  exact writes.1

/-- When the disks of a guest have been materialised, each of them is the right one exactly if
the names of the raw images did no harm. -/
theorem materialize_keeps_disks_iff (site : Site) (name : String) {disks new : List DiskConfig}
    {before after : World}
    (ran : Ran (vzHost site) (materializeVZLinuxDisks name disks) before (.ok new) after) :
    Faithful site name disks new before after ↔ Unambiguous site name disks before := by
  obtain ⟨rfl, grew⟩ := materializeVZLinuxDisks_spec ran
  have entry : ∀ (i : Nat) d, disks[i]? = some d →
      (disks.map repointed)[i]? = some (repointed d) := by
    intro i d there
    rw [List.getElem?_map, there]
    rfl
  have origin : ∀ (i : Nat) d d', disks[i]? = some d → (disks.map repointed)[i]? = some d' →
      d' = repointed d := by
    intro i d d' there repoint
    rw [entry i d there] at repoint
    exact (Option.some.inj repoint).symm
  constructor
  · intro faithful
    refine ⟨?_, ?_, ?_⟩
    · intro i j d e first second other writesFirst writesSecond
      have places := faithful.apart i j _ _ (entry i d first) (entry j e second) other
        (by rwa [writable_repointed]) (by rwa [writable_repointed])
      rwa [repointed_place site (writable_disk writesFirst),
        repointed_place site (writable_disk writesSecond)] at places
    · intro d member disk adopts bytes there
      obtain ⟨i, found⟩ := List.mem_iff_getElem?.mp member
      have kept := faithful.kept i d _ found (entry i d found) adopts bytes there
      rw [repointed_place site disk] at kept
      exact grew.made _ bytes kept
    · intro i d found disk managed bytes madeFor there
      refine faithful.own i d _ found (entry i d found) disk managed bytes madeFor ?_
      rwa [repointed_place site disk]
  · intro clear
    refine ⟨?_, ?_, ?_⟩
    · intro i j d' e' first second other writesFirst writesSecond
      rw [List.getElem?_map, Option.map_eq_some_iff] at first second
      obtain ⟨d, first, rfl⟩ := first
      obtain ⟨e, second, rfl⟩ := second
      rw [writable_repointed] at writesFirst writesSecond
      rw [repointed_place site (writable_disk writesFirst),
        repointed_place site (writable_disk writesSecond)]
      exact clear.apart i j d e first second other writesFirst writesSecond
    · intro i d d' found repoint adopts bytes there
      obtain rfl := origin i d d' found repoint
      by_cases disk : d.media = "cdrom"
      · rw [repointed, if_pos disk]
        exact grew.kept _ _ there
      · rw [repointed_place site disk]
        exact grew.kept _ _ (clear.kept d (List.mem_of_getElem? found) disk adopts bytes there)
    · intro i d d' found repoint disk managed bytes madeFor there
      obtain rfl := origin i d d' found repoint
      rw [repointed_place site disk] at there
      exact clear.own i d found disk managed bytes madeFor there

/-- A host with an image format that only has bytes. -/
def mac : Site where
  qemuImg := { converted := id, resized := fun bytes _ => bytes ++ [0], blank := fun _ => [0] }

/-- Two images of a user, and the cloud image of a template. -/
def macWorld : World where
  files := fun p =>
    if p = mac.place "/Users/me/ubuntu.qcow2" then some (.file [1, 2] none)
    else if p = mac.place "/Users/me/ubuntu.raw" then some (.file [3] none)
    else if p = mac.place "/cache/cloud.img" then some (.file [4] none)
    else none

def cloudDisk : DiskConfig :=
  { path := "/vms/work/disk-os.qcow2", size := "20G", format := "qcow2", media := "disk",
    backingFile := "/cache/cloud.img" }

def rawDisk : DiskConfig :=
  { path := "/Users/me/ubuntu.raw", format := "raw", media := "disk", imageFile := true }

/-- An adopted image, as `vee create --boot-disk` makes an entry of it. -/
def adoptedDisk : DiskConfig :=
  { path := "/Users/me/ubuntu.qcow2", format := "qcow2", media := "disk", imageFile := true }

/-- A guest with a boot disk of its own and a raw image of the user gets both. -/
theorem cloud_disks_are_kept :
    ∃ new after, Ran (vzHost mac) (materializeVZLinuxDisks "work" [cloudDisk, rawDisk]) macWorld
      (.ok new) after ∧ Faithful mac "work" [cloudDisk, rawDisk] new macWorld after := by
  obtain ⟨new, after, ran, -⟩ := Ran.exists_ok_of_play (M := vzHost mac)
    (List.replicate 6 {}) (materializeVZLinuxDisks "work" [cloudDisk, rawDisk]) macWorld
    (fun _ _ => True) (by decide)
  have entries : ∀ (i : Nat) d, [cloudDisk, rawDisk][i]? = some d →
      i = 0 ∧ d = cloudDisk ∨ i = 1 ∧ d = rawDisk := by
    rintro (_ | _ | i) d ⟨⟩
    · exact .inl ⟨rfl, rfl⟩
    · exact .inr ⟨rfl, rfl⟩
  have clear : mac.rawPlace cloudDisk ≠ mac.rawPlace rawDisk ∧
      macWorld.files (mac.rawPlace cloudDisk) = none := by decide
  refine ⟨new, after, ran, (materialize_keeps_disks_iff mac "work" ran).mpr ⟨?_, ?_, ?_⟩⟩
  · intro i j d e first second other _ _
    rcases entries i d first with ⟨rfl, rfl⟩ | ⟨rfl, rfl⟩ <;>
      rcases entries j e second with ⟨rfl, rfl⟩ | ⟨rfl, rfl⟩
    · exact absurd rfl other
    · exact clear.1
    · exact clear.1.symm
    · exact absurd rfl other
  · intro d member _ adopts bytes there
    rcases List.mem_pair.mp member with rfl | rfl
    · cases adopts
    · exact there
  · intro i d found _ managed bytes madeFor there
    rcases entries i d found with ⟨rfl, rfl⟩ | ⟨rfl, rfl⟩
    · rw [clear.2] at there
      cases there
    · exact absurd rfl managed

/-- A user's image next to a raw file of another image: the guest gets the other one. -/
theorem adopted_disk_is_substituted :
    ∃ new after, Ran (vzHost mac) (materializeVZLinuxDisks "work" [adoptedDisk]) macWorld
      (.ok new) after ∧ ¬ Faithful mac "work" [adoptedDisk] new macWorld after := by
  obtain ⟨new, after, ran, d, first, substituted⟩ := Ran.exists_ok_of_play (M := vzHost mac)
    [{}] (materializeVZLinuxDisks "work" [adoptedDisk]) macWorld
    (fun new w => ∃ d ∈ new[0]?, w.files (mac.place d.path) = some (.file [3] none))
    (by decide)
  refine ⟨new, after, ran, fun faithful => ?_⟩
  have kept := faithful.kept 0 adoptedDisk d rfl first rfl [1, 2] (by decide)
  rw [substituted] at kept
  cases kept

end Vee.VZDisks
