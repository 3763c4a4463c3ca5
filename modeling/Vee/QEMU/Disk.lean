import Vee.Misc.GoText
import Vee.VM.Config

/-!
# Disks of a QEMU machine

`Disk` of `internal/qemu/disk.go`, its arguments, and the serials that the templates and
the media planner give to passed-through drives.
-/

namespace Vee.QEMU

/-- `DiskMedia`; the field is a free text in the file. -/
inductive DiskMedia where
  | disk
  | cdrom
  | other (name : String)
  deriving DecidableEq, Repr

namespace DiskMedia

def text : DiskMedia → String
  | .disk => "disk"
  | .cdrom => "cdrom"
  | .other name => name

def ofString (name : String) : DiskMedia :=
  if name = "disk" then .disk else if name = "cdrom" then .cdrom else .other name

end DiskMedia

/-- `DiskInterface`, with those that `Args` treats alike under `other`. -/
inductive DiskInterface where
  | virtio
  | ahci
  | nvme
  | usb
  | other (name : String)
  deriving DecidableEq, Repr

namespace DiskInterface

def text : DiskInterface → String
  | .virtio => "virtio"
  | .ahci => "ahci"
  | .nvme => "nvme"
  | .usb => "usb"
  | .other name => name

def ofString (name : String) : DiskInterface :=
  if name = "virtio" then .virtio
  else if name = "ahci" then .ahci
  else if name = "nvme" then .nvme
  else if name = "usb" then .usb
  else .other name

end DiskInterface

def usbDiskControllerID : String := "usbdisk0"

/-- What a disk asks its surroundings. -/
structure Host where
  linux : Bool
  /-- The name of the machine. -/
  machine : String
  /-- `filepath.Abs`. -/
  abs : String → Option String

def diskAIO (host : Host) (linuxPreferred : String) : String :=
  if host.linux then linuxPreferred else "threads"

structure Disk where
  path : String
  index : Int := -1
  diskIndex : Nat := 0
  format : String := ""
  readonly : Bool := false
  media : DiskMedia := .disk
  interface : DiskInterface := .virtio
  cache : String := "none"
  size : String := ""
  serial : String := ""
  passthrough : Bool := false
  imageFile : Bool := false
  bootIndex : Nat := 0

/-- One option of the command line, with its comma-separated value. -/
structure Arg where
  flag : String
  options : List String

/-- The two words of the command line. -/
def Arg.words (arg : Arg) : List String := [arg.flag, String.intercalate "," arg.options]

namespace Disk

/-- The disk that the manager makes of a config's disk. -/
def ofConfig (d : DiskConfig) : Disk where
  path := d.path
  size := d.size
  format := d.format
  interface := .ofString d.interface
  media := .ofString d.media
  cache := d.cache
  readonly := d.readonly
  serial := d.serial
  passthrough := d.passthrough
  imageFile := d.imageFile
  bootIndex := d.bootIndex

variable (host : Host) (q : Disk)

/-- `Name` of a disk. -/
def name : String := generatedName host.machine q.size q.format

/-- `AbsolutePath` of a disk. -/
def absolutePath : String :=
  if q.passthrough then q.path
  else if q.imageFile then (host.abs q.path).getD q.path
  else if diskFileSuffixes.any fun ending => ending.toList.isSuffixOf q.path.toList then q.path
  else joinPath [q.path, q.name host]

def fixOptions : Disk :=
  if q.media = .cdrom then { q with readonly := true, format := "", cache := "none" } else q

def id : String := "disk" ++ toString q.diskIndex

/-- The `bootindex` of the device, if there is one. -/
def bootOption : List String :=
  if 0 < q.bootIndex then ["bootindex=" ++ toString q.bootIndex] else []

/-- `Args`, with the options fixed. -/
def fixedArgs : List Arg :=
  let file := "file=" ++ q.absolutePath host
  match q.interface with
  | .ahci =>
    [⟨"-drive", [file, "if=none", "id=" ++ q.id, "format=" ++ q.format, "cache=" ++ q.cache,
        "aio=" ++ diskAIO host "native", "discard=unmap"]⟩,
      ⟨"-device", ["ide-hd", "drive=" ++ q.id, "bus=ahci0." ++ toString q.diskIndex] ++
        q.bootOption⟩]
  | .nvme =>
    [⟨"-drive", [file, "if=none", "id=" ++ q.id, "format=" ++ q.format] ++
        if q.cache ≠ "" then ["cache=" ++ q.cache] else []⟩,
      ⟨"-device", ["nvme", "drive=" ++ q.id, "serial=" ++ q.id] ++ q.bootOption⟩]
  | .usb =>
    [⟨"-drive", [file, "if=none", "id=" ++ q.id, "media=" ++ q.media.text,
        "readonly=" ++ toString q.readonly] ++
        if q.media = .disk ∧ q.format ≠ "" then ["format=" ++ q.format] else []⟩,
      ⟨"-device", ["usb-storage", "drive=" ++ q.id, "bus=" ++ usbDiskControllerID ++ ".0"] ++
        q.bootOption⟩]
  | interface =>
    if q.passthrough || q.imageFile then
      let format := if q.imageFile && q.format ≠ "" then q.format else "raw"
      let iothreadID := "iothread-" ++ q.id
      [⟨"-object", ["iothread", "id=" ++ iothreadID]⟩,
        ⟨"-drive", [file, "format=" ++ format, "if=none", "id=" ++ q.id, "cache=none",
          "aio=" ++ diskAIO host "native", "discard=unmap"]⟩,
        ⟨"-device", ["virtio-blk-pci", "drive=" ++ q.id] ++
          (if q.serial ≠ "" then ["serial=" ++ q.serial] else []) ++ q.bootOption ++
          ["iothread=" ++ iothreadID]⟩]
    else
      [⟨"-drive", [file, "readonly=" ++ toString q.readonly, "media=" ++ q.media.text,
          "if=" ++ interface.text, "id=" ++ q.id] ++
        (if 0 < q.index then ["index=" ++ toString q.index] else []) ++
        if q.media = .disk then
          ["format=" ++ q.format] ++
            if interface = .virtio then
              ["cache=" ++ (if q.cache = "" then "none" else q.cache),
                "aio=" ++ diskAIO host "io_uring", "discard=unmap"]
            else if q.cache ≠ "" then ["cache=" ++ q.cache] else []
        else if q.cache ≠ "" then ["cache=" ++ q.cache] else []⟩]

def args : List Arg := q.fixOptions.fixedArgs host

end Disk

/-- The disks in `BaseMachine.Args`, behind the controllers that they need. -/
def diskArgs (host : Host) (disks : List Disk) : List Arg :=
  (if disks.any (·.interface = .ahci) then [⟨"-device", ["ahci", "id=ahci0"]⟩] else []) ++
    (if disks.any (·.interface = .usb) then
      [⟨"-device", ["qemu-xhci", "id=" ++ usbDiskControllerID]⟩] else []) ++
    disks.zipIdx.flatMap fun (disk, i) => { disk with diskIndex := i }.args host

/-! ## Serials -/

/-- The bus names that a serial leaves out. -/
def busPrefixes : List Text :=
  ["ata-".toList, "scsi-".toList, "nvme-".toList, "wwn-".toList, "usb-".toList]

/-- A name without the bus names, each of which is taken off once, in this order. -/
def stripBus (name : Text) : Text :=
  busPrefixes.foldl (fun name bus => trimStart bus name) name

/-- A name up to the last `-part`, unless it begins with it. -/
def cutPart (name : Text) : Text :=
  match beforeLast "-part".toList name with
  | some before => if before ≠ [] then before else name
  | none => name

/-- The serial of a drive, from its path under `/dev/disk/by-id`. It is cut by bytes, which
may go through a character; it is given byte by byte. -/
def serialFromPath (devPath : String) : String :=
  String.ofList ((cutPart (stripBus (bytesOf (basePath devPath.toList)))).take 20)

end Vee.QEMU
