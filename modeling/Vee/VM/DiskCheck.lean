import Vee.QEMU.Disk

/-!
# The check for existing data

`CheckDisksForData` of `internal/vm/diskcheck.go`, which `Manager.Create` asks before it makes
the disks of a VM. It only reads: the first sector of a device that is passed through, and what
qemu-img says about an image.
-/

namespace Vee.DiskCheck

structure DiskWarning where
  path : String
  reason : String

/-- The size that an output of `qemu-img info` reports. -/
def virtualSize (out : String) : Option String :=
  (out.toList.splitOn '\n').findSome? fun line =>
    ("virtual size:".toList.isPrefixOf? line).map fun val => String.ofList (trimSpace val)

/-- What stands under a path: an image that qemu-img can read, or anything else. -/
inductive FileEntry where
  | image
  | other
  deriving DecidableEq, Repr

/-- `os.Stat`, as far as `os.IsNotExist` tells. -/
inductive Stat where
  | present
  | notExist
  | failed
  deriving DecidableEq, Repr

/-- The host. qemu-img reports the size of the images that are there, and of nothing else. -/
structure Host where
  machine : QEMU.Host
  fileAt : String → Option FileEntry
  /-- Looking for a path fails for another reason than that nothing is there. -/
  blocked : String → Bool
  /-- What the first read of a device yields. -/
  firstSector : String → Except String (List UInt8)
  /-- The output of `qemu-img info`, if it succeeds. -/
  imageInfo : String → Option String
  reports : ∀ path, ((imageInfo path).bind virtualSize).isSome ↔ fileAt path = some .image

variable (host : Host) (path : String) (cfg : VMConfig)

def Host.stat : Stat :=
  if (host.fileAt path).isSome then .present else if host.blocked path then .failed else .notExist

def checkBlockDevice : Except String (Option DiskWarning) :=
  match host.firstSector path with
  | .error text => .ok (some ⟨path, "could not open device to inspect: " ++ text⟩)
  | .ok buf =>
    if buf.length < 512 then .ok none
    else if buf.getD 510 0 = 0x55 ∧ buf.getD 511 0 = 0xAA then
      .ok (some ⟨path, if buf.getD (446 + 4) 0 = 0xEE then "GPT partition table detected"
        else "MBR partition table detected"⟩)
    else if buf.take 8 = [0x45, 0x46, 0x49, 0x20, 0x50, 0x41, 0x52, 0x54] then
      .ok (some ⟨path, "GPT header detected at sector 0"⟩)
    else .ok none

def checkImageFile : Except String (Option DiskWarning) :=
  match host.imageInfo path with
  | none => .ok none
  | some out =>
    .ok ((virtualSize out).map fun size =>
      ⟨path, "existing image file (virtual size " ++ size ++ ")"⟩)

/-- The body of the loop of `CheckDisksForData`. -/
def checkDisk (d : DiskConfig) : Except String (Option DiskWarning) :=
  if d.isInstallISO then .ok none
  else if (d.passthrough || d.imageFile) && cfg.skipInstall then .ok none
  else if d.passthrough then checkBlockDevice host d.path
  else if host.stat d.path = .notExist then .ok none
  else checkImageFile host d.path

/-- The loop. -/
def checkDisks : List DiskConfig → Except String (List DiskWarning)
  | [] => .ok []
  | d :: rest => do
    let warning ← checkDisk host cfg d
    let warnings ← checkDisks rest
    return warning.toList ++ warnings

/-- What an install would overwrite. -/
def checkDisksForData : Except String (List DiskWarning) :=
  if cfg.backendName = .vz then .ok [] else checkDisks host cfg cfg.disks

end Vee.DiskCheck
