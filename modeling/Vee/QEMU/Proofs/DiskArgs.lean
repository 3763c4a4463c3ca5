import Mathlib.Data.List.Nodup
import Vee.Misc.OptionText
import Vee.QEMU.Disk

/-!
# Disks on the command line

`Args` joins the options of a disk with commas and escapes nothing. The ports of the AHCI
controller are numbered like the disks, and there are six. A serial reaches the device only where
the branch for passed-through and adopted disks is taken.
-/

namespace Vee.QEMU

open List

/-- The values of a key in the arguments with this flag, as QEMU reads them. -/
def readOptions (flag key : String) (args : List Arg) : List String :=
  args.flatMap fun arg =>
    if arg.flag = flag then valuesOf key (optionsOf (",".intercalate arg.options)) else []

def ahciPort (n : Nat) : String := "ahci0." ++ toString n

def onAHCI (bus : String) : Bool := "ahci0.".toList.isPrefixOf bus.toList

/-- What the disks of a machine should come to on the command line. -/
structure Survives (host : Host) (disks : List Disk) : Prop where
  file : ∀ disk i, (disk, i) ∈ disks.zipIdx →
    readOptions "-drive" "file" ({ disk with diskIndex := i }.args host) =
      [disk.fixOptions.absolutePath host]
  serial : ∀ disk i, (disk, i) ∈ disks.zipIdx → disk.serial ≠ "" →
    readOptions "-device" "serial" ({ disk with diskIndex := i }.args host) = [disk.serial]
  ids : (readOptions "-drive" "id" (diskArgs host disks)).Nodup
  drive : ∀ id ∈ readOptions "-device" "drive" (diskArgs host disks),
    id ∈ readOptions "-drive" "id" (diskArgs host disks)
  iothread : ∀ id ∈ readOptions "-device" "iothread" (diskArgs host disks),
    id ∈ readOptions "-object" "id" (diskArgs host disks)
  bus : ∀ bus ∈ readOptions "-device" "bus" (diskArgs host disks),
    ∃ controller ∈ readOptions "-device" "id" (diskArgs host disks),
      ∃ port, bus = controller ++ "." ++ port
  ports : ∃ ports : List Nat,
    (readOptions "-device" "bus" (diskArgs host disks)).filter onAHCI = ports.map ahciPort ∧
      ports.Nodup ∧ ∀ port ∈ ports, port < 6

namespace Disk

def ShowsSerial (q : Disk) : Prop :=
  q.interface ≠ .ahci ∧ q.interface ≠ .nvme ∧ q.interface ≠ .usb ∧
    (q.passthrough || q.imageFile) = true
deriving Decidable

/-- The serial, if there is one, is the device's: an NVMe device has the id of its drive. -/
def KeepsSerial (q : Disk) (i : Nat) : Prop :=
  q.serial ≠ "" → q.interface = .nvme ∧ q.serial = "disk" ++ toString i ∨
    q.ShowsSerial ∧ ',' ∉ q.serial.toList
deriving Decidable

/-- The names of format, cache mode, medium and interface have no comma. -/
structure Plain (q : Disk) : Prop where
  format : ',' ∉ q.format.toList
  cache : ',' ∉ q.cache.toList
  media : ',' ∉ q.media.text.toList
  interface : ',' ∉ q.interface.text.toList

instance (q : Disk) : Decidable q.Plain :=
  decidable_of_iff (',' ∉ q.format.toList ∧ ',' ∉ q.cache.toList ∧ ',' ∉ q.media.text.toList ∧
      ',' ∉ q.interface.text.toList)
    ⟨fun ⟨format, cache, media, interface⟩ => ⟨format, cache, media, interface⟩,
      fun ⟨format, cache, media, interface⟩ => ⟨format, cache, media, interface⟩⟩

end Disk

/-- No path has a comma, every serial is kept, and the disks on the AHCI controller are among the
first six. -/
structure Fits (host : Host) (disks : List Disk) : Prop where
  path : ∀ disk ∈ disks, ',' ∉ (disk.fixOptions.absolutePath host).toList
  serial : ∀ disk i, (disk, i) ∈ disks.zipIdx → disk.KeepsSerial i
  ahci : ∀ disk i, (disk, i) ∈ disks.zipIdx → disk.interface = .ahci → i < 6

/-! ## Options before they are joined -/

def meantOptions (flag key : String) (args : List Arg) : List String :=
  args.flatMap fun arg => if arg.flag = flag then valuesOf key arg.options else []

structure Arg.Clear (arg : Arg) : Prop where
  some : arg.options ≠ []
  bare : ∀ option ∈ arg.options, Bare option

theorem readOptions_same (flag key : String) (options : List String) (args : List Arg) :
    readOptions flag key (⟨flag, options⟩ :: args) =
      valuesOf key (optionsOf (",".intercalate options)) ++ readOptions flag key args := by
  unfold readOptions
  rw [flatMap_cons, if_pos rfl]

theorem readOptions_other {flag other : String} (different : other ≠ flag) (key : String)
    (options : List String) (args : List Arg) :
    readOptions flag key (⟨other, options⟩ :: args) = readOptions flag key args := by
  unfold readOptions
  rw [flatMap_cons, if_neg different, nil_append]

theorem readOptions_nil (flag key : String) : readOptions flag key [] = [] := rfl

theorem readOptions_eq {args : List Arg} (clear : ∀ arg ∈ args, arg.Clear) (flag key : String) :
    readOptions flag key args = meantOptions flag key args := by
  refine flatMap_congr fun arg mem => ?_
  rw [optionsOf_intercalate (clear arg mem).some (clear arg mem).bare]

theorem Arg.clear_cons {flag first : String} {options : List String} :
    Arg.Clear ⟨flag, first :: options⟩ ↔ Bare first ∧ ∀ option ∈ options, Bare option :=
  ⟨fun clear => forall_mem_cons.mp clear.bare,
    fun bare => ⟨cons_ne_nil _ _, forall_mem_cons.mpr bare⟩⟩

theorem forall_mem_ite {α : Type} {given : Prop} [Decidable given] {xs ys : List α} {p : α → Prop} :
    (∀ x ∈ if given then xs else ys, p x) ↔
      (given → ∀ x ∈ xs, p x) ∧ (¬ given → ∀ x ∈ ys, p x) := by
  split <;> simp [*]

instance (option : String) : Decidable (Bare option) :=
  decidable_of_iff (',' ∉ option.toList ∧ option ≠ "")
    ⟨fun both => ⟨both.1, both.2⟩, fun bare => ⟨bare.plain, bare.nonempty⟩⟩

theorem bare_append {start : String} (bare : Bare start) (value : String) :
    Bare (start ++ value) ↔ ',' ∉ value.toList := by
  constructor
  · rintro ⟨plain, -⟩ mem
    exact plain (by simp [mem])
  · intro plain
    refine ⟨by simp [bare.plain, plain], fun empty => bare.nonempty ?_⟩
    simpa using (String.append_eq_empty_iff.mp empty).1

theorem plain_toString (n : Nat) : ',' ∉ (toString n).toList := by
  intro mem
  have listed : ',' ∈ Nat.toDigits 10 n := by simpa using mem
  have digit := Nat.isDigit_of_mem_toDigits (by decide) (by decide) listed
  exact absurd digit (by decide)

namespace Disk

variable (host : Host) (q : Disk)

theorem plain_id : ',' ∉ q.id.toList := by
  simpa [Disk.id] using plain_toString q.diskIndex

theorem plain_iothread : ',' ∉ ("iothread-" ++ q.id).toList := by
  simpa using q.plain_id

theorem ahciBus_eq (port : String) : "bus=ahci0." ++ port = "bus=" ++ ("ahci0." ++ port) := by
  rfl

theorem usbBus_eq :
    "bus=" ++ usbDiskControllerID ++ ".0" = "bus=" ++ (usbDiskControllerID ++ ".0") :=
  String.append_assoc

/-- The options that refer to each other, before they are joined. -/
structure Meant (args : List Arg) : Prop where
  file : meantOptions "-drive" "file" args = [q.absolutePath host]
  id : meantOptions "-drive" "id" args = [q.id]
  drive : ∀ id ∈ meantOptions "-device" "drive" args, id = q.id
  iothread : ∀ id ∈ meantOptions "-device" "iothread" args, id ∈ meantOptions "-object" "id" args
  bus : meantOptions "-device" "bus" args =
    if q.interface = .ahci then [ahciPort q.diskIndex]
    else if q.interface = .usb then [usbDiskControllerID ++ ".0"] else []
  serial : meantOptions "-device" "serial" args =
    if q.interface = .nvme then [q.id]
    else if q.interface = .ahci then [] else if q.interface = .usb then []
    else if q.passthrough || q.imageFile then if q.serial = "" then [] else [q.serial] else []

theorem fixedArgs_meant : q.Meant host (q.fixedArgs host) := by
  unfold fixedArgs
  split
  case' h_4 =>
    simp only [imp_false] at *
    split
  all_goals
    constructor <;> simp (disch := decide) [*, meantOptions, valueOf_append, valueOf_eq_none,
      ahciBus_eq, usbBus_eq, bootOption, ahciPort]

theorem plain_readonly : ',' ∉ (toString q.readonly).toList := by
  cases q.readonly <;> decide

theorem plain_formatOrRaw (plain : q.Plain) :
    ',' ∉ (if q.imageFile && q.format ≠ "" then q.format else "raw").toList := by
  split
  · exact plain.format
  · decide

theorem clear_fixedArgs (plain : q.Plain) (path : ',' ∉ (q.absolutePath host).toList)
    (serial : q.ShowsSerial → ',' ∉ q.serial.toList) : ∀ arg ∈ q.fixedArgs host, arg.Clear := by
  have number := plain_toString
  have id := q.plain_id
  have thread := q.plain_iothread
  have port : ',' ∉ ("ahci0." ++ toString q.diskIndex).toList := by simpa using number q.diskIndex
  have index : 0 < q.index → ',' ∉ (toString q.index).toList := by
    intro positive
    obtain ⟨n, same⟩ := Int.eq_ofNat_of_zero_le (Int.le_of_lt positive)
    rw [same]
    exact number n
  have aio (preferred : String) (plain : ',' ∉ preferred.toList) :
      ',' ∉ ( diskAIO host preferred).toList := by
    unfold diskAIO
    split
    · exact plain
    · decide
  have flag := q.plain_readonly
  have cacheOrNone : ',' ∉ (if q.cache = "" then "none" else q.cache).toList := by
    split
    · decide
    · exact plain.cache
  have formatOrRaw := q.plain_formatOrRaw plain
  obtain ⟨format, cache, media, interface⟩ := plain
  unfold fixedArgs
  split
  case' h_4 => split
  all_goals simp +decide (disch := decide) only [bootOption, cons_append, nil_append,
    forall_mem_cons, forall_mem_append, forall_mem_ite, Arg.clear_cons,
    bare_append, ahciBus_eq, usbBus_eq, path, format, cache, media, interface, id, thread, port,
    number, aio, flag, cacheOrNone, formatOrRaw, not_false_eq_true, implies_true, and_true,
    true_and, not_mem_nil, false_implies]
  case h_4.isTrue ahci nvme usb own => exact fun _ => serial ⟨ahci, nvme, usb, own⟩
  case h_4.isFalse => exact index

theorem exists_drive (plain : q.Plain) : ∃ next rest, Bare next ∧
    readOptions "-drive" "file" (q.fixedArgs host) = valuesOf "file" (optionsOf (",".intercalate
        (("file=" ++ q.absolutePath host) :: next :: rest))) := by
  unfold fixedArgs
  split
  case' h_4 => split
  all_goals simp (disch := decide) only [readOptions_same, readOptions_other, readOptions_nil,
    append_nil, cons_append]
  case h_1 | h_2 | h_3 => exact ⟨_, _, by decide, rfl⟩
  case h_4.isTrue => exact ⟨_, _, (bare_append (by decide) _).mpr (q.plain_formatOrRaw plain), rfl⟩
  case h_4.isFalse => exact ⟨_, _, (bare_append (by decide) _).mpr q.plain_readonly, rfl⟩

theorem plain_of_read_file (plain : q.Plain)
    (read : readOptions "-drive" "file" (q.fixedArgs host) = [q.absolutePath host]) :
    ',' ∉ (q.absolutePath host).toList := by
  obtain ⟨next, rest, following, drive⟩ := exists_drive host q plain
  rw [drive] at read
  have none : ∀ option ∈ ([] : List String), Bare option := forall_mem_nil _
  have keyed : IsKey "file=" := by decide
  exact plain_of_valuesOf keyed (by decide) (by decide) none rfl following read

theorem exists_device (shows : q.ShowsSerial) (given : q.serial ≠ "") : ∃ next rest, Bare next ∧
    readOptions "-device" "serial" (q.fixedArgs host) =
      valuesOf "serial" (optionsOf (",".intercalate
        (["virtio-blk-pci", "drive=" ++ q.id] ++ ("serial=" ++ q.serial) :: next :: rest))) := by
  obtain ⟨ahci, nvme, usb, own⟩ := shows
  unfold fixedArgs
  split
  case h_1 => exact absurd ‹_› ahci
  case h_2 => exact absurd ‹_› nvme
  case h_3 => exact absurd ‹_› usb
  case h_4 =>
    rw [if_pos own, if_pos given]
    simp (disch := decide) only [readOptions_same, readOptions_other, readOptions_nil,
      append_nil, append_assoc, singleton_append]
    unfold bootOption
    split
    · exact ⟨_, _, (bare_append (by decide) _).mpr (plain_toString _), rfl⟩
    · exact ⟨_, _, (bare_append (by decide) _).mpr q.plain_iothread, rfl⟩

theorem plain_of_read_serial (shows : q.ShowsSerial)
    (read : readOptions "-device" "serial" (q.fixedArgs host) = [q.serial]) :
    ',' ∉ q.serial.toList := by
  by_cases given : q.serial = ""
  · simp [given]
  obtain ⟨next, rest, following, device⟩ := exists_device host q shows given
  rw [device] at read
  have before : ∀ option ∈ ["virtio-blk-pci", "drive=" ++ q.id], Bare option := by
    simp +decide (disch := decide) [bare_append, plain_id]
  have none : valuesOf "serial" ["virtio-blk-pci", "drive=" ++ q.id] = [] := by
    simp (disch := decide) [valueOf_append, valueOf_eq_none]
  have keyed : IsKey "serial=" := by decide
  exact plain_of_valuesOf keyed (by decide) (by decide) before none following read

/-! ### The disk at its place -/

/-- `FixOptions` changes three fields. -/
theorem fixOptions_keeps {α : Sort _} (field : Disk → α)
    (kept : ∀ q readonly format cache, field { q with readonly, format, cache } = field q) :
    field q.fixOptions = field q := by
  unfold fixOptions
  split
  · exact kept q true "" "none"
  · rfl

/-- The disk whose arguments stand on the command line. -/
def placed (i : Nat) : Disk := { q with diskIndex := i }.fixOptions

variable (i : Nat)

theorem placed_interface : (q.placed i).interface = q.interface :=
  fixOptions_keeps { q with diskIndex := i } Disk.interface fun _ _ _ _ => rfl

theorem placed_serial : (q.placed i).serial = q.serial :=
  fixOptions_keeps { q with diskIndex := i } Disk.serial fun _ _ _ _ => rfl

theorem placed_showsSerial : (q.placed i).ShowsSerial = q.ShowsSerial :=
  fixOptions_keeps { q with diskIndex := i } Disk.ShowsSerial fun _ _ _ _ => rfl

theorem placed_diskIndex : (q.placed i).diskIndex = i :=
  fixOptions_keeps { q with diskIndex := i } Disk.diskIndex fun _ _ _ _ => rfl

theorem placed_absolutePath : (q.placed i).absolutePath host = q.fixOptions.absolutePath host := by
  unfold placed fixOptions
  split <;> rfl

theorem placed_plain (plain : q.Plain) : (q.placed i).Plain := by
  unfold placed fixOptions
  split
  · have empty : ',' ∉ "".toList := by decide
    have none : ',' ∉ "none".toList := by decide
    exact ⟨empty, none, plain.media, plain.interface⟩
  · exact ⟨plain.format, plain.cache, plain.media, plain.interface⟩

end Disk

/-! ## All disks -/

section

variable {host : Host} {disks : List Disk}

variable {disk : Disk} {i : Nat}

theorem exists_place (mem : disk ∈ disks) : ∃ i, (disk, i) ∈ disks.zipIdx := by
  rw [← zipIdx_map_fst 0 disks] at mem
  obtain ⟨⟨_, i⟩, listed, rfl⟩ := mem_map.mp mem
  exact ⟨i, listed⟩

theorem mem_of_place (listed : (disk, i) ∈ disks.zipIdx) : disk ∈ disks := by
  rw [← zipIdx_map_fst 0 disks]
  exact mem_map_of_mem listed

def controllers (disks : List Disk) : List Arg :=
  (if disks.any (·.interface = .ahci) then [⟨"-device", ["ahci", "id=ahci0"]⟩] else []) ++
    if disks.any (·.interface = .usb) then
      [⟨"-device", ["qemu-xhci", "id=" ++ usbDiskControllerID]⟩] else []

def AllClear (host : Host) (disks : List Disk) : Prop :=
  ∀ disk i, (disk, i) ∈ disks.zipIdx → ∀ arg ∈ (disk.placed i).fixedArgs host, arg.Clear

theorem controllers_clear : ∀ arg ∈ controllers disks, arg.Clear := by
  unfold controllers
  simp +decide only [forall_mem_append, forall_mem_ite, forall_mem_cons, Arg.clear_cons,
    implies_true, and_true, not_mem_nil, false_implies]

theorem meantOptions_controllers {flag key : String}
    (other : flag ≠ "-device" ∨ key = "drive" ∨ key = "iothread" ∨ key = "bus") :
    meantOptions flag key (controllers disks) = [] := by
  unfold controllers
  rcases other with other | rfl | rfl | rfl
  case inl => split <;> split <;> simp [meantOptions, Ne.symm other]
  all_goals split <;> split <;>
    simp (disch := decide) [meantOptions, valueOf_eq_none]

theorem mem_controllers_ahci (mem : disk ∈ disks) (ahci : disk.interface = .ahci) :
    "ahci0" ∈ meantOptions "-device" "id" (controllers disks) := by
  have any : disks.any (·.interface = .ahci) = true :=
    any_eq_true.mpr ⟨disk, mem, by simp [ahci]⟩
  have value : valueOf "id" "id=ahci0" = some "ahci0" := by decide
  unfold controllers
  rw [if_pos any]
  simp [meantOptions, value]

theorem mem_controllers_usb (mem : disk ∈ disks) (usb : disk.interface = .usb) :
    usbDiskControllerID ∈ meantOptions "-device" "id" (controllers disks) := by
  have any : disks.any (·.interface = .usb) = true := any_eq_true.mpr ⟨disk, mem, by simp [usb]⟩
  unfold controllers
  rw [if_pos any]
  simp (disch := decide) [meantOptions, valueOf_append]

theorem places_nodup (disks : List Disk) : (disks.zipIdx.map Prod.snd).Nodup := by
  rw [zipIdx_map_snd]
  exact nodup_range'

theorem diskId_injective : Function.Injective fun i : Nat => "disk" ++ toString i := by
  intro i j same
  exact toString_injective (by simpa using same)

theorem ahciPort_injective : Function.Injective ahciPort := by
  intro i j same
  exact toString_injective (by simpa [ahciPort] using same)

section

variable (clear : AllClear host disks)

include clear

theorem readOptions_diskArgs (flag key : String) : readOptions flag key (diskArgs host disks) =
      meantOptions flag key (controllers disks) ++ disks.zipIdx.flatMap fun (disk, i) =>
          meantOptions flag key ((disk.placed i).fixedArgs host) := by
  have all : ∀ arg ∈ diskArgs host disks, arg.Clear := by
    refine forall_mem_append.mpr ⟨controllers_clear, fun arg mem => ?_⟩
    obtain ⟨⟨disk, i⟩, listed, mem⟩ := mem_flatMap.mp mem
    exact clear disk i listed arg mem
  rw [readOptions_eq all]
  unfold meantOptions
  rw [diskArgs, flatMap_append, flatMap_assoc]
  rfl

theorem ids_eq : readOptions "-drive" "id" (diskArgs host disks) =
    disks.zipIdx.map fun entry => "disk" ++ toString entry.2 := by
  rw [readOptions_diskArgs clear, meantOptions_controllers (.inl (by decide)), nil_append]
  simp only [(Disk.fixedArgs_meant host _).id, Disk.id, Disk.placed_diskIndex]
  exact flatMap_pure_eq_map _ _

theorem buses_eq : readOptions "-device" "bus" (diskArgs host disks) =
    disks.zipIdx.flatMap fun (disk, i) =>
      if disk.interface = .ahci then [ahciPort i]
      else if disk.interface = .usb then [usbDiskControllerID ++ ".0"] else [] := by
  rw [readOptions_diskArgs clear, meantOptions_controllers (.inr (.inr (.inr rfl))), nil_append]
  simp only [(Disk.fixedArgs_meant host _).bus, Disk.placed_interface, Disk.placed_diskIndex]

theorem ports_eq : (readOptions "-device" "bus" (diskArgs host disks)).filter onAHCI =
      ((disks.zipIdx.filter (·.1.interface = .ahci)).map Prod.snd).map ahciPort := by
  have port (i : Nat) : onAHCI (ahciPort i) = true := by simp [onAHCI, ahciPort]
  have usb : onAHCI (usbDiskControllerID ++ ".0") = false := by decide
  rw [buses_eq clear]
  induction disks.zipIdx with
  | nil => rfl
  | cons entry entries ih =>
    rw [flatMap_cons, filter_append, ih, filter_cons]
    obtain ⟨disk, i⟩ := entry
    by_cases ahci : disk.interface = .ahci
    · simp [ahci, port]
    · by_cases other : disk.interface = .usb
      · simp [other, usb]
      · simp [ahci, other]

/-- The references hold whenever the arguments are read back. -/
theorem survives_of_clear (serial : ∀ disk i, (disk, i) ∈ disks.zipIdx → disk.KeepsSerial i)
    (ahci : ∀ disk i, (disk, i) ∈ disks.zipIdx → disk.interface = .ahci → i < 6) :
    Survives host disks where
  file disk i listed := by
    have read := readOptions_eq (clear disk i listed) "-drive" "file"
    rw [(Disk.fixedArgs_meant host _).file, Disk.placed_absolutePath] at read
    exact read
  serial disk i listed given := by
    have read := readOptions_eq (clear disk i listed) "-device" "serial"
    refine read.trans ?_
    rw [(Disk.fixedArgs_meant host _).serial, Disk.placed_interface, Disk.placed_serial]
    rcases serial disk i listed given with ⟨nvme, same⟩ | ⟨shows, -⟩
    · rw [if_pos nvme, same, Disk.id, Disk.placed_diskIndex]
    · have own := (disk.placed_showsSerial i).mpr shows
      rw [if_neg shows.2.1, if_neg shows.1, if_neg shows.2.2.1, if_pos own.2.2.2, if_neg given]
  ids := by
    rw [ids_eq clear]
    have places := (places_nodup disks).map diskId_injective
    rwa [map_map] at places
  drive id mem := by
    rw [readOptions_diskArgs clear, meantOptions_controllers (.inr (.inl rfl)), nil_append] at mem
    obtain ⟨⟨disk, i⟩, listed, meant⟩ := mem_flatMap.mp mem
    rw [(Disk.fixedArgs_meant host _).drive id meant, ids_eq clear, Disk.id, Disk.placed_diskIndex]
    exact mem_map.mpr ⟨(disk, i), listed, rfl⟩
  iothread id mem := by
    rw [readOptions_diskArgs clear, meantOptions_controllers (.inr (.inr (.inl rfl))),
      nil_append] at mem
    obtain ⟨⟨disk, i⟩, listed, meant⟩ := mem_flatMap.mp mem
    rw [readOptions_diskArgs clear]
    have object := (Disk.fixedArgs_meant host _).iothread id meant
    exact mem_append_right _ (mem_flatMap.mpr ⟨(disk, i), listed, object⟩)
  bus bus mem := by
    rw [buses_eq clear] at mem
    rw [readOptions_diskArgs clear]
    obtain ⟨⟨disk, i⟩, listed, named⟩ := mem_flatMap.mp mem
    have listed := mem_of_place listed
    dsimp only at named
    split at named
    · obtain rfl := mem_singleton.mp named
      refine ⟨"ahci0", mem_append_left _ (mem_controllers_ahci listed ‹_›), toString i, ?_⟩
      rfl
    · split at named
      · obtain rfl := mem_singleton.mp named
        refine ⟨_, mem_append_left _ (mem_controllers_usb listed ‹_›), "0", ?_⟩
        rfl
      · cases named
  ports := by
    refine ⟨_, ports_eq clear, ?_, ?_⟩
    · exact (places_nodup disks).sublist (filter_sublist.map _)
    · intro i mem
      obtain ⟨⟨disk, _⟩, listed, rfl⟩ := mem_map.mp mem
      obtain ⟨listed, isAHCI⟩ := mem_filter.mp listed
      exact ahci disk _ listed (of_decide_eq_true isAHCI)

end

theorem clear_of_plain (plain : ∀ disk ∈ disks, disk.Plain)
    (path : ∀ disk ∈ disks, ',' ∉ (disk.fixOptions.absolutePath host).toList)
    (listed : (disk, i) ∈ disks.zipIdx) (serial : disk.ShowsSerial → ',' ∉ disk.serial.toList) :
    ∀ arg ∈ (disk.placed i).fixedArgs host, arg.Clear := by
  have mem := mem_of_place listed
  refine Disk.clear_fixedArgs host _ (disk.placed_plain i (plain disk mem)) ?_ ?_
  · rw [Disk.placed_absolutePath]
    exact path disk mem
  · rw [Disk.placed_showsSerial, Disk.placed_serial]
    exact serial

theorem Survives.path (survives : Survives host disks) (plain : ∀ disk ∈ disks, disk.Plain) :
    ∀ disk ∈ disks, ',' ∉ (disk.fixOptions.absolutePath host).toList := by
  intro disk mem
  obtain ⟨i, listed⟩ := exists_place mem
  have read : readOptions "-drive" "file" ((disk.placed i).fixedArgs host) = _ :=
    survives.file disk i listed
  rw [← Disk.placed_absolutePath host disk i] at read ⊢
  exact Disk.plain_of_read_file host _ (disk.placed_plain i (plain disk mem)) read

theorem Survives.keepsSerial (survives : Survives host disks) (plain : ∀ disk ∈ disks, disk.Plain)
    (listed : (disk, i) ∈ disks.zipIdx) : disk.KeepsSerial i := by
  intro given
  have read : readOptions "-device" "serial" ((disk.placed i).fixedArgs host) = [disk.serial] :=
    survives.serial disk i listed given
  by_cases shows : disk.ShowsSerial
  · rw [← disk.placed_serial i] at read ⊢
    exact .inr
      ⟨shows, Disk.plain_of_read_serial host _ ((disk.placed_showsSerial i).mpr shows) read⟩
  -- the serial is not on the command line
  have clear := clear_of_plain plain (survives.path plain) listed (absurd · shows)
  rw [← disk.placed_showsSerial i] at shows
  rw [readOptions_eq clear, (Disk.fixedArgs_meant host _).serial] at read
  split at read
  case isTrue nvme =>
    rw [Disk.placed_interface] at nvme
    rw [Disk.id, Disk.placed_diskIndex] at read
    exact .inl ⟨nvme, (cons.inj read).1.symm⟩
  case isFalse nvme =>
    split at read
    case isTrue => cases read
    split at read
    case isTrue => cases read
    split at read
    case isTrue own => exact absurd ⟨‹_›, nvme, ‹_›, own⟩ shows
    case isFalse => cases read

theorem allClear (plain : ∀ disk ∈ disks, disk.Plain)
    (path : ∀ disk ∈ disks, ',' ∉ (disk.fixOptions.absolutePath host).toList)
    (serial : ∀ disk i, (disk, i) ∈ disks.zipIdx → disk.KeepsSerial i) : AllClear host disks := by
  intro disk i listed
  refine clear_of_plain plain path listed fun shows => ?_
  by_cases given : disk.serial = ""
  · simp [given]
  · rcases serial disk i listed given with ⟨nvme, -⟩ | ⟨-, plain⟩
    · exact absurd nvme shows.2.1
    · exact plain

theorem Survives.ahci (survives : Survives host disks) (clear : AllClear host disks)
    (listed : (disk, i) ∈ disks.zipIdx) (ahci : disk.interface = .ahci) : i < 6 := by
  obtain ⟨ports, named, -, small⟩ := survives.ports
  rw [ports_eq clear] at named
  have same := map_injective_iff.mpr ahciPort_injective named
  refine small i (same ▸ mem_map_of_mem (f := Prod.snd) (a := (disk, i)) ?_)
  exact mem_filter.mpr ⟨listed, decide_eq_true ahci⟩

end

/-- The disks reach QEMU as they are meant exactly if no path has a comma, every serial is kept, and
the disks on the AHCI controller are among the first six. -/
theorem disk_args_survive_iff (host : Host) (disks : List Disk)
    (plain : ∀ disk ∈ disks, disk.Plain) : Survives host disks ↔ Fits host disks := by
  constructor
  · intro survives
    have path := survives.path plain
    have serial (disk : Disk) (i : Nat) (listed : (disk, i) ∈ disks.zipIdx) : disk.KeepsSerial i :=
      survives.keepsSerial plain listed
    exact ⟨path, serial, fun disk i => survives.ahci (allClear plain path serial)⟩
  · rintro ⟨path, serial, ahci⟩
    exact survives_of_clear (allClear plain path serial) serial ahci

/-- A disk image, a drive that is passed through, and an installer image. -/
def plainDisks : List Disk :=
  [{ path := "/vms/vm/root.qcow2", format := "qcow2" },
    { path := "/dev/disk/by-id/ata-data", passthrough := true, serial := "data-1" },
    { path := "/iso/setup.iso", media := .cdrom, interface := .ahci }]

def linuxDisks : Host := { linux := true, machine := "vm", abs := some }

/-- Such disks reach QEMU as they are meant. -/
theorem plain_disks_survive :
    (∀ disk ∈ plainDisks, disk.Plain) ∧ Survives linuxDisks plainDisks := by
  have plain : ∀ disk ∈ plainDisks, disk.Plain := by decide
  have serial : ∀ entry ∈ plainDisks.zipIdx, entry.1.KeepsSerial entry.2 := by decide
  have ahci : ∀ entry ∈ plainDisks.zipIdx, entry.1.interface = .ahci → entry.2 < 6 := by decide
  refine ⟨plain, (disk_args_survive_iff linuxDisks plainDisks plain).mpr ?_⟩
  exact ⟨by decide, fun disk i => serial (disk, i), fun disk i => ahci (disk, i)⟩

/-- A comma in a path ends the option `file`. -/
theorem comma_in_path_cuts_file :
    ¬ Survives linuxDisks [{ path := "/vms/a,b/root.qcow2", format := "qcow2" }] := by
  intro survives
  have file := survives.file _ 0 mem_cons_self
  revert file
  decide +kernel

end Vee.QEMU
