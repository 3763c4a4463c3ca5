import Vee.Misc.GoText

/-!
# Block devices that are not in use

`ListUnmounted`, `mountedKernelNames` and `parentDisk` of
`internal/blockdev/blockdev.go`, and the names that the kernel gives to disks and
their partitions.
-/

namespace Vee.Blockdev

structure Device where
  name : Text
  byIDPath : String := ""
  model : String := ""
  sizeBytes : Nat := 0
  serial : String := ""
  deriving DecidableEq, Repr

def allDigits (text : Text) : Bool := !text.isEmpty && text.all Char.isDigit

/-- The second half of `parentDisk`: the name without its trailing digits, if it has
any. -/
def stripDigits (name : Text) : Text :=
  let stem := (name.reverse.dropWhile Char.isDigit).reverse
  if stem.length < name.length then stem else []

def parentDisk (name : Text) : Text :=
  let tail := name.reverse.takeWhile (· ≠ 'p')
  match name.reverse.drop tail.length with
  | _ :: c :: before =>
    if allDigits tail.reverse then (c :: before).reverse else stripDigits name
  | _ => stripDigits name

/-- The device field of a line of `/proc/mounts`. -/
def deviceField (line : Text) : Option Text :=
  match goFields line with
  | dev :: _ :: _ => some dev
  | _ => none

/-- The names that one device field marks as used. -/
def marks (dev : Text) : List Text :=
  if "/dev/".toList.isPrefixOf dev then
    let kernel := basePath dev
    if parentDisk kernel ≠ [] then [kernel, parentDisk kernel] else [kernel]
  else []

/-- `mountedKernelNames`, for the content of `/proc/mounts`. -/
def mountedKernelNames (mounts : Text) : Except String (List Text) := do
  let lines ← scanLines mounts
  return (lines.filterMap deviceField).flatMap marks

/-- `ListUnmounted`, given what `ListAll` and the open of `/proc/mounts` come to. -/
def listUnmounted (all : Except String (List Device)) (mounts : Except String Text) :
    Except String (List Device) := do
  let devices ← all
  let mounted ← mountedKernelNames (← mounts)
  return devices.filter fun d => !mounted.contains d.name

structure Letters where
  chars : Text
  nonempty : chars ≠ []
  letters : ∀ c ∈ chars, c.isAlpha

structure Digits where
  chars : Text
  nonempty : chars ≠ []
  digits : ∀ c ∈ chars, c.isDigit

/-- The whole disks. -/
inductive Disk where
  | sd (letters : Letters)
  | vd (letters : Letters)
  | nvme (x y : Digits)
  | mmcblk (x : Digits)

namespace Disk

/-- The kernel name of a disk. -/
def name : Disk → Text
  | .sd letters => ['s', 'd'] ++ letters.chars
  | .vd letters => ['v', 'd'] ++ letters.chars
  | .nvme x y => ['n', 'v', 'm', 'e'] ++ x.chars ++ ['n'] ++ y.chars
  | .mmcblk x => ['m', 'm', 'c', 'b', 'l', 'k'] ++ x.chars

/-- The kernel name of partition `n` of a disk. -/
def partition (disk : Disk) (n : Digits) : Text :=
  match disk with
  | .sd _ | .vd _ => disk.name ++ n.chars
  | .nvme _ _ | .mmcblk _ => disk.name ++ ['p'] ++ n.chars

def path (name : Text) : Text := "/dev/".toList ++ name

end Disk

end Vee.Blockdev
