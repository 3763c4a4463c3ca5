import Vee.Media.Source
import Vee.Misc.Results

/-!
# Read-only media

Which specs make the host itself keep the guest from writing.
-/

namespace Vee.Media

open List

def ReadOnlyOption (option : String) : Prop :=
  option ∈ ["readonly=true", "readonly=on", "readonly=yes", "readonly"]

/-- The patch leaves no write access: every share is served read-only, and every drive is
attached read-only, at whatever place and on whatever host. -/
def Patch.ReadOnly (patch : Patch) : Prop :=
  (∀ m ∈ patch.virtiofsMounts, m.readonly = true) ∧
  ∀ d ∈ patch.disks, ∀ (diskIndex : Nat) (host : QEMU.Host),
    ∃ arg ∈ QEMU.Disk.args host { QEMU.Disk.ofConfig d with diskIndex },
      arg.flag = "-drive" ∧ ∃ option ∈ arg.options, ReadOnlyOption option

def Source.ReadOnlyEnforced (s : Source) : Prop :=
  ∀ distro secrets patch prompts, s.plan distro secrets = .ok (patch, prompts) → patch.ReadOnly

/-! ## What a spec is parsed to -/

theorem parseSpec_ok {spec : String} {src : Source} (accepted : parseSpec spec = .ok src) :
    ∃ head tail guestPath suffix, spec.toList = head ++ '@' :: tail ∧
      guestPath.head? = some '/' ∧ parseHead spec guestPath suffix head = .ok src := by
  unfold parseSpec at accepted
  split at accepted
  · cases accepted
  rename_i head tail cut
  split at accepted
  · cases accepted
  · split at accepted
    rename_i guestPath suffix _
    split at accepted
    · cases accepted
    · rename_i rooted
      exact ⟨head, tail, guestPath, suffix, cutLast_eq_some cut, by simpa using rooted, accepted⟩

theorem guestPath_rooted {path : Text} (rooted : path.head? = some '/') :
    String.ofList path ≠ "" ∧ (String.ofList path).toList.head? = some '/' := by
  refine ⟨?_, by simpa using rooted⟩
  intro empty
  have none : path = [] := by simpa using congrArg String.toList empty
  simp [none] at rooted

variable {s : Source}

theorem plan_eq (rooted : s.guestPath ≠ "" ∧ s.guestPath.toList.head? = some '/')
    (distro : Distro) (secrets : String → Option String) :
    s.plan distro secrets = s.planKind distro secrets := by
  simp [Source.plan, rooted.1, rooted.2]

/-! ## What the patches grant -/

variable {patch : Patch}

theorem readOnly_of_nothing (mounts : patch.virtiofsMounts = [])
    (disks : patch.disks = []) : patch.ReadOnly := by
  simp [Patch.ReadOnly, mounts, disks]

variable {prompts : List PendingPrompt}

theorem planNFS_grants_nothing {distro : Distro}
    (planned : planNFS s distro = .ok (patch, prompts)) :
    patch.virtiofsMounts = [] ∧ patch.disks = [] := by
  unfold planNFS at planned
  split at planned
  · cases planned
  · split at planned
    · cases planned
    · cases planned
      exact ⟨rfl, rfl⟩

theorem planSMB_grants_nothing {distro : Distro} {secrets : String → Option String}
        (planned : planSMB s distro secrets = .ok (patch, prompts)) :
    patch.virtiofsMounts = [] ∧ patch.disks = [] := by
  unfold planSMB at planned
  split at planned
  · cases planned
  · split at planned
    · cases planned
    · cases planned
      exact ⟨rfl, rfl⟩

theorem planUSB_grants_nothing (planned : planUSB s = .ok (patch, prompts)) :
    patch.virtiofsMounts = [] ∧ patch.disks = [] := by
  unfold planUSB at planned
  split at planned
  · cases planned
  · split at planned
    · cases planned
    · cases planned
      exact ⟨rfl, rfl⟩

theorem enforced_of_kind (kind : s.kind = .nfs ∨ s.kind = .smb ∨ s.kind = .usb) :
    s.ReadOnlyEnforced := by
  intro distro secrets patch prompts planned
  unfold Source.plan at planned
  split at planned
  · cases planned
  split at planned
  · cases planned
  have nothing : patch.virtiofsMounts = [] ∧ patch.disks = [] := by
    unfold Source.planKind at planned
    rcases kind with kind | kind | kind
    · rw [kind] at planned
      exact planNFS_grants_nothing planned
    · rw [kind] at planned
      exact planSMB_grants_nothing planned
    · rw [kind] at planned
      exact planUSB_grants_nothing planned
  exact readOnly_of_nothing nothing.1 nothing.2

theorem hostDir_writable (kind : s.kind = .hostDir) (dir : s.hostDir ≠ "")
    (rooted : s.guestPath ≠ "" ∧ s.guestPath.toList.head? = some '/') : ¬ s.ReadOnlyEnforced := by
  intro enforced
  have planned := plan_eq rooted .ubuntu (fun _ => none)
  simp only [Source.planKind, kind, planHostDir, dir, if_false] at planned
  have readOnly := (enforced _ _ _ _ planned).1
  simp at readOnly

theorem ReadOnlyOption.head {option : String} (readOnly : ReadOnlyOption option) :
    option.toList.head? = some 'r' := by
  simp only [ReadOnlyOption, mem_cons, not_mem_nil, or_false] at readOnly
  rcases readOnly with rfl | rfl | rfl | rfl <;> decide

/-- A passed-through device is attached writable, whatever its config asks for. -/
theorem passthrough_writable (d : DiskConfig) (interface : d.interface = "virtio")
    (media : d.media = "disk") (passthrough : d.passthrough = true) (diskIndex : Nat)
    (host : QEMU.Host) :
    ¬ ∃ arg ∈ QEMU.Disk.args host { QEMU.Disk.ofConfig d with diskIndex },
      arg.flag = "-drive" ∧ ∃ option ∈ arg.options, ReadOnlyOption option := by
  rintro ⟨arg, mem, drive, option, listed, readOnly⟩
  have head := readOnly.head
  simp only [QEMU.Disk.args, QEMU.Disk.fixOptions, QEMU.Disk.ofConfig, media, interface,
    QEMU.DiskMedia.ofString, QEMU.DiskInterface.ofString, if_true, QEMU.Disk.fixedArgs,
    passthrough, reduceCtorEq, if_false, Bool.true_or, mem_cons, not_mem_nil,
    or_false] at mem
  -- The arguments are an iothread, the drive and the device.
  rcases mem with rfl | rfl | rfl
  · simp at drive
  · simp only [mem_cons, not_mem_nil, or_false] at listed
    rcases listed with rfl | rfl | rfl | rfl | rfl | rfl | rfl <;> simp at head
  · simp at drive

theorem block_writable {block : BlockSource} (kind : s.kind = .block)
    (given : s.block = some block) (dev : block.devPath ≠ "")
    (rooted : s.guestPath ≠ "" ∧ s.guestPath.toList.head? = some '/') : ¬ s.ReadOnlyEnforced := by
  intro enforced
  have planned := plan_eq rooted .ubuntu (fun _ => none)
  simp only [Source.planKind, kind, planBlock, given, dev, if_false] at planned
  have readOnly := (enforced _ _ _ _ planned).2 _ mem_cons_self 0 ⟨true, "", some⟩
  exact passthrough_writable _ rfl rfl rfl 0 _ readOnly

/-! ## All specs -/

section

variable {spec : String} {guestPath suffix head : Text} {src : Source}

theorem parseHostDir_ok {hostDir : Text}
    (accepted : parseHostDir spec guestPath suffix hostDir = .ok src) :
    src.kind = .hostDir ∧ src.hostDir ≠ "" ∧ src.guestPath = String.ofList guestPath := by
  unfold parseHostDir at accepted
  split at accepted
  · cases accepted
  · rename_i given
    cases accepted
    refine ⟨rfl, ?_, rfl⟩
    intro empty
    exact given (by simpa using congrArg String.toList empty)

theorem parseBlock_ok {devPath : Text}
    (accepted : parseBlock spec guestPath suffix devPath = .ok src) :
    src.kind = .block ∧ (∃ block, src.block = some block ∧ block.devPath ≠ "") ∧
      src.guestPath = String.ofList guestPath := by
  unfold parseBlock at accepted
  split at accepted
  · cases accepted
  · rename_i given
    cases accepted
    refine ⟨rfl, ⟨_, rfl, ?_⟩, rfl⟩
    intro empty
    exact given (by simpa using congrArg String.toList empty)

theorem parseNFS_ok {rest : Text} (accepted : parseNFS spec guestPath suffix rest = .ok src) :
    src.kind = .nfs := by
  unfold parseNFS at accepted
  split at accepted
  · cases accepted
  · split at accepted
    · cases accepted
    · cases accepted
      rfl

theorem parseSMB_ok {rest : Text} (accepted : parseSMB spec guestPath suffix rest = .ok src) :
    src.kind = .smb := by
  unfold parseSMB at accepted
  split at accepted
  split at accepted
  · cases accepted
  · split at accepted
    · cases accepted
    · cases accepted
      rfl

theorem parseUSB_ok {body : Text} (accepted : parseUSB spec guestPath suffix body = .ok src) :
    src.kind = .usb := by
  obtain ⟨usb, -, made⟩ := exists_of_bind_eq_ok accepted
  cases made
  rfl

theorem parseHead_ok (accepted : parseHead spec guestPath suffix head = .ok src) :
    ("hostdir:".toList <+: head ∧ src.kind = .hostDir ∧ src.hostDir ≠ "" ∧
      src.guestPath = String.ofList guestPath) ∨
    ("block:".toList <+: head ∧ src.kind = .block ∧
      (∃ block, src.block = some block ∧ block.devPath ≠ "") ∧
      src.guestPath = String.ofList guestPath) ∨
    (¬ "hostdir:".toList <+: head ∧ ¬ "block:".toList <+: head ∧
      (src.kind = .nfs ∨ src.kind = .smb ∨ src.kind = .usb)) := by
  unfold parseHead at accepted
  split at accepted
  · rename_i hostDir start
    exact .inl ⟨⟨hostDir, isPrefixOf?_eq_some_iff_append_eq.mp start⟩, parseHostDir_ok accepted⟩
  split at accepted
  · rename_i rest start
    obtain rfl := isPrefixOf?_eq_some_iff_append_eq.mp start
    exact .inr (.inr ⟨by simp, by simp, .inl (parseNFS_ok accepted)⟩)
  split at accepted
  · rename_i rest start
    obtain rfl := isPrefixOf?_eq_some_iff_append_eq.mp start
    exact .inr (.inr ⟨by simp, by simp, .inr (.inl (parseSMB_ok accepted))⟩)
  split at accepted
  · rename_i devPath start
    exact .inr (.inl
      ⟨⟨devPath, isPrefixOf?_eq_some_iff_append_eq.mp start⟩, parseBlock_ok accepted⟩)
  split at accepted
  · rename_i body start
    obtain rfl := isPrefixOf?_eq_some_iff_append_eq.mp start
    exact .inr (.inr ⟨by simp, by simp, .inr (.inr (parseUSB_ok accepted))⟩)
  · cases accepted

/-- For an accepted spec, with the suffix for read-only media or without it, the host keeps
the guest from writing exactly if the spec is neither about a host directory nor about
a block device. -/
theorem readOnly_enforced_iff (accepted : parseSpec spec = .ok src) : src.ReadOnlyEnforced ↔
      ¬ "hostdir:".toList <+: spec.toList ∧ ¬ "block:".toList <+: spec.toList := by
  obtain ⟨head, tail, guestPath, suffix, whole, rooted, parsed⟩ := parseSpec_ok accepted
  have rooted := guestPath_rooted rooted
  rw [whole, prefix_append_cons_iff (by decide), prefix_append_cons_iff (by decide)]
  rcases parseHead_ok parsed with ⟨start, kind, dir, path⟩ |
    ⟨start, kind, ⟨block, given, dev⟩, path⟩ |
    ⟨notDir, notBlock, kind⟩
  · have writable := hostDir_writable kind dir (by rwa [path])
    constructor
    · intro enforced
      exact absurd enforced writable
    · rintro ⟨notDir, -⟩
      exact absurd start notDir
  · have writable := block_writable kind given dev (by rwa [path])
    constructor
    · intro enforced
      exact absurd enforced writable
    · rintro ⟨-, notBlock⟩
      exact absurd start notBlock
  · constructor
    · exact fun _ => ⟨notDir, notBlock⟩
    · exact fun _ => enforced_of_kind kind

end

/-- A read-only NFS share. -/
theorem nfs_readOnly_enforced :
    ∃ src, parseSpec "nfs://truenas.lan/mnt/Movies@/media/movies:ro" = .ok src ∧
      src.ReadOnlyEnforced := by
  have accepted : parseSpec "nfs://truenas.lan/mnt/Movies@/media/movies:ro" = .ok
      { kind := .nfs, guestPath := "/media/movies", readOnly := true
        nfs := some { server := "truenas.lan", exportPath := "/mnt/Movies" } } := by decide
  exact ⟨_, accepted, (readOnly_enforced_iff accepted).mpr (by decide)⟩

/-- A host directory and a block device that are to be read-only are writable all the same. -/
theorem readOnly_media_writable :
    (∃ src, parseSpec "hostdir:/srv/movies@/media/movies:ro" = .ok src ∧ ¬ src.ReadOnlyEnforced) ∧
      ∃ src, parseSpec "block:/dev/disk/by-id/ata-DISK@/mnt/disk:ro" = .ok src ∧
        ¬ src.ReadOnlyEnforced := by
  have dir : parseSpec "hostdir:/srv/movies@/media/movies:ro" = .ok
      { kind := .hostDir, guestPath := "/media/movies", readOnly := true
        hostDir := "/srv/movies" } := by decide
  have device : parseSpec "block:/dev/disk/by-id/ata-DISK@/mnt/disk:ro" = .ok
      { kind := .block, guestPath := "/mnt/disk"
        block := some { devPath := "/dev/disk/by-id/ata-DISK" } } := by decide
  exact ⟨⟨_, dir, hostDir_writable rfl (by decide) (by decide)⟩,
    ⟨_, device, block_writable rfl rfl (by decide) (by decide)⟩⟩

end Vee.Media
