import Vee.Misc.Sequential
import Vee.VM.Delete
import Vee.VM.Host

/-!
# Boot disks

`Manager.MoveBootDisk` with `moveFile` and `copyFile` (`internal/vm/manager.go`), and
`Manager.ResizeBootDisk` (`internal/vm/resize.go`), call by call. There are no symbolic links.
What qemu-img makes of an image is a parameter. A write that is not on the disk yet can still be
lost when the file is closed; `Close` then reports an error.
-/

namespace Vee.BootDisk

open Prog (orThrow attempt)
open Delete (managedBootDiskAbsPath)

/-- What stands at a place. -/
inductive Entry where
  | file (bytes : List UInt8)
  | dir
  deriving DecidableEq, Repr

/-- What qemu-img says about an image, and what it makes of it when it grows it. -/
structure QemuImg where
  info : List UInt8 → Except String (String × Nat)
  grown : List UInt8 → Nat → List UInt8

/-- What the calls run on. `provider.Config` anchors the storage path. -/
structure Site where
  cwd : Place := []
  storagePath : String
  rooted : storagePath.toList.head? = some '/'
  qemuImg : QemuImg

/-- The stored config and state of the VM, and the files. -/
structure World where
  config : VMConfig
  state : VMState := {}
  files : Place → Option Entry

/-- An error of `os.Rename`, and whether it is `EXDEV`. -/
structure LinkError where
  crossDevice : Bool
  text : String

/-- The calls. An `undo` takes back an earlier rename. -/
inductive Op where
  | loadState
  | processAlive (pid : Nat)
  | loadConfig
  | saveConfig (cfg : VMConfig)
  | stat (path : String)
  | abs (path : String)
  | mkdirAll (path : String)
  | rename (undo : Bool) (src dst : String)
  | openFile (path : String)
  | create (path : String)
  /-- `io.Copy`. -/
  | copy (src dst : String)
  | close (src dst : String)
  | remove (path : String)
  | lookQemuImg
  | imageInfo (path : String)
  | resizeImage (format path : String) (bytes : Nat)

@[reducible] def Op.Res : Op → Type
  | .loadState => Except String VMState
  | .processAlive _ => Bool
  | .loadConfig => Except String VMConfig
  | .abs _ | .lookQemuImg => Except String String
  | .rename _ _ _ => Except LinkError Unit
  | .imageInfo _ => Except String (String × Nat)
  | _ => Except String Unit

abbrev Disk (α : Type) := Prog Op Op.Res α

abbrev call (op : Op) : Disk op.Res := Prog.ask op

/-- `filepath.IsAbs`. -/
def isAbs (path : String) : Bool := path.toList.head? = some '/'

namespace Site

variable (site : Site)

def place (path : String) : Place := locate site.cwd path.toList

def vmDir (name : String) : String := joinPath [site.storagePath, name]

/-- Where a disk entry of the VM is: an empty or relative path is one in the VM directory. -/
def diskPath (name : String) (d : DiskConfig) : String :=
  let path := managedBootDiskAbsPath name d
  if isAbs path then path else joinPath [site.vmDir name, path]

/-- `filepath.Abs`. -/
def absPath (path : String) : String :=
  if isAbs path then String.ofList (cleanPath path.toList)
  else joinPath [String.ofList ('/' :: ['/'].intercalate site.cwd), path]

/-- Where a move to a directory puts a disk. -/
def movedPath (name targetDir : String) (d : DiskConfig) : String :=
  joinPath [site.absPath targetDir, String.ofList (basePath (site.diskPath name d).toList)]

end Site

/-- Change the first entry that meets a test. -/
def updateFirst (test : DiskConfig → Bool) (change : DiskConfig → DiskConfig) :
    List DiskConfig → List DiskConfig
  | [] => []
  | d :: rest => if test d then change d :: rest else d :: updateFirst test change rest

/-! ### Calls whose failure ends an operation -/

def loadState : Disk VMState := do orThrow "" (← call .loadState)

def loadConfig : Disk VMConfig := do orThrow "" (← call .loadConfig)

/-- The check that the disk is there. -/
def statDisk (src : String) : Disk Unit := do
  orThrow ("boot disk not found at " ++ src ++ ": ") (← call (.stat src))

def absDir (targetDir : String) : Disk String := do
  orThrow "resolve target dir: " (← call (.abs targetDir))

def makeDir (absTarget : String) : Disk Unit := do
  orThrow ("create target dir " ++ absTarget ++ ": ") (← call (.mkdirAll absTarget))

/-- `vzQemuImgPath`. -/
def lookQemuImg : Disk String := do orThrow "" (← call .lookQemuImg)

def imageVirtualSize (path : String) : Disk (String × Nat) := do
  orThrow "" (← call (.imageInfo path))

def growImage (format path : String) (bytes : Nat) : Disk Unit := do
  orThrow "qemu-img resize: " (← call (.resizeImage format path bytes))

/-! ### Moving -/

variable (src dst : String) (w : World) (place : Place)

/-- `copyFile`. Both files are closed when it returns, and that error is dropped. -/
def copyFile : Disk Unit := do
  orThrow "" (← call (.openFile src))
  orThrow "" (← call (.create dst))
  let copied ← call (.copy src dst)
  let _ ← call (.close src dst)
  orThrow "" copied

/-- The way of `moveFile` across file systems: copy, then remove the source. -/
def moveAcross : Disk Unit := do
  match ← attempt (copyFile src dst) with
  | .error text =>
    let _ ← call (.remove dst)
    throw text
  | .ok _ =>
    orThrow ("copied to " ++ dst ++ " but could not remove original " ++ src ++ ": ")
      (← call (.remove src))

/-- A rename, or a copy across file systems. -/
def moveFile : Disk Unit := do
  match ← call (.rename false src dst) with
  | .ok _ => return ()
  | .error failed => if !failed.crossDevice then throw failed.text else moveAcross src dst

/-- The check of both operations that the VM does not run. -/
def requireStopped (name : String) : Disk Unit := do
  let state ← loadState
  if state.running && state.pid ≠ 0 then do
    if ← call (.processAlive state.pid) then
      throw ("VM " ++ goQuote name ++ " is running; stop it first")
    else return ()
  else return ()

/-- The error of a move that could neither be recorded nor taken back. -/
def leftAt (err dst : String) : String :=
  "save config after move failed (" ++ err ++ "); disk left at " ++ dst ++ " — restore manually"

section Moving

variable (site : Site) (name targetDir : String) (cfg : VMConfig)

/-- A config whose boot disk has an explicit path. -/
def relocated (path : String) : VMConfig :=
  { cfg with disks := updateFirst (·.managed) ({ · with path := path }) cfg.disks }

/-- Move the disk back when its new path could not be recorded. -/
def moveBack (err src dst : String) : Disk (String × String) := do
  match ← attempt (moveFile dst src) with
  | .error _ => throw (leftAt err dst)
  | .ok _ => throw ("save config: " ++ err)

/-- The end of `MoveBootDisk`: record the new path of the disk. -/
def recordMove (src dst : String) : Disk (String × String) := do
  match ← call (.saveConfig (relocated cfg dst)) with
  | .ok _ => return (src, dst)
  | .error err => moveBack err src dst

def moveImage (src dst : String) : Disk Unit := do
  orThrow "move boot disk: " (← attempt (moveFile src dst))

/-- `MoveBootDisk` once it has checked both paths. -/
def moveInto (src absTarget dst : String) : Disk (String × String) := do
  makeDir absTarget
  moveImage src dst
  recordMove cfg src dst

/-- `MoveBootDisk` with both paths. -/
def moveTo (src absTarget dst : String) : Disk (String × String) :=
  if dst = src then throw ("boot disk is already at " ++ dst)
  else do
    match ← call (.stat dst) with
    | .ok _ => throw ("a file already exists at target path " ++ dst)
    | .error _ => moveInto cfg src absTarget dst

/-- `MoveBootDisk` with the disk that it has found. -/
def moveDisk (d : DiskConfig) : Disk (String × String) := do
  let src := site.diskPath name d
  statDisk src
  let absTarget ← absDir targetDir
  moveTo cfg src absTarget (joinPath [absTarget, String.ofList (basePath src.toList)])

/-- `MoveBootDisk` once the config is loaded. -/
def moveWith : Disk (String × String) :=
  match cfg.disks.find? (·.managed) with
  | none =>
    throw ("VM " ++ goQuote name ++ " has no managed boot disk to move " ++
      "(raw-device --boot-disk VMs cannot be relocated)")
  | some d => moveDisk site name targetDir cfg d

/-- `Manager.MoveBootDisk`: the old and the new path. -/
def moveBootDisk : Disk (String × String) := do
  requireStopped name
  let cfg ← loadConfig
  moveWith site name targetDir cfg

end Moving

/-! ### Resizing -/

/-- The test of `findResizableBootDisk`. -/
def resizable (d : DiskConfig) : Bool :=
  !(d.passthrough || d.imageFile || d.media ≠ "disk" || d.readonly) &&
    (d.format = "qcow2" || d.format = "raw" || d.format = "")

/-- A size in the largest unit that divides it. -/
def humanDiskSize (b : Int) : String :=
  if b ≥ 2 ^ 40 ∧ b % 2 ^ 40 = 0 then toString (b / 2 ^ 40) ++ "T"
  else if b ≥ 2 ^ 30 ∧ b % 2 ^ 30 = 0 then toString (b / 2 ^ 30) ++ "G"
  else if b ≥ 2 ^ 20 ∧ b % 2 ^ 20 = 0 then toString (b / 2 ^ 20) ++ "M"
  else if b ≥ 2 ^ 10 ∧ b % 2 ^ 10 = 0 then toString (b / 2 ^ 10) ++ "K"
  else toString b

/-- Addition of `int64`. -/
def addInt64 (a b : Int) : Int := (a + b + 2 ^ 63) % 2 ^ 64 - 2 ^ 63

section Resizing

variable (site : Site) (name spec : String) (cfg : VMConfig) (d : DiskConfig)

/-- `VMConfig.WindowsGuest`. -/
def windowsGuest : Bool :=
  "windows".toList <:+: toLowerText cfg.template.toList

def guestGrowHint : String :=
  if windowsGuest cfg then
    "Inside Windows, extend C: over the new space (Disk Management → Extend Volume, or):\n" ++
    "  powershell \"Resize-Partition -DriveLetter C -Size " ++
    "(Get-PartitionSupportedSize -DriveLetter C).SizeMax\"\n" ++
    "If Windows placed a recovery partition between C: and the free space, delete it\n" ++
    "first: diskpart → select disk 0 → list partition → select partition <n> →\n" ++
    "delete partition override."
  else if cfg.macOS.isSome then
    "Inside macOS, grow the APFS container into the new space:\n" ++
    "  diskutil apfs resizeContainer disk0s2 0"
  else if cfg.cloudInit.isSome then
    "cloud-init grows the root filesystem into the new space automatically on the next boot."
  else
    "Grow the partition and filesystem inside the guest to claim the new space " ++
    "(e.g. growpart + resize2fs)."

structure ResizeResult where
  path : String
  oldSize : String
  newSize : String
  guestHint : String

/-- The size that a spec asks for, if the disk can grow to it. -/
def targetSize (spec : String) (current : Nat) : Except String Nat :=
  match parseDiskSize spec with
  | .error text => .error text
  | .ok (relative, bytes) =>
    let target := if relative then addInt64 current bytes else bytes
    if target = current then .error ("boot disk is already " ++ humanDiskSize current)
    else if target < current then
      .error ("boot disk is " ++ humanDiskSize current ++ "; shrinking to " ++
        humanDiskSize target ++
        " is not supported — it would truncate the guest filesystem")
    else .ok target.toNat

/-- Bring the file of a resized disk under the name that its new size gives it; the path of the
file, and the path that the config is to pin. -/
def renameResized (src dst : String) : Disk (String × Option String) :=
  if dst ≠ src then do
    match ← call (.stat dst) with
    | .ok _ => return (src, some src)
    | .error _ =>
      match ← call (.rename false src dst) with
      | .ok _ => return (dst, none)
      | .error _ => return (src, some src)
  else pure (src, none)

def resized (target : Nat) (pinned : Option String) (d : DiskConfig) : DiskConfig :=
  { d with size := humanDiskSize target, path := pinned.getD d.path }

/-- The error of a resize that could not be recorded. -/
def notSaved (err : String) (target : Nat) : String :=
  "save config: " ++ err ++ " (the image itself was already grown to " ++
    humanDiskSize target ++ ")"

/-- Give the file its old name back when the new size could not be recorded. -/
def renameBack (err src dst finalPath : String) (target : Nat) : Disk ResizeResult :=
  if finalPath ≠ src then do
    let _ ← call (.rename true dst src)
    throw (notSaved err target)
  else throw (notSaved err target)

/-- Store the config of a resized disk. -/
def saveResized (src dst finalPath : String) (current target : Nat) : Disk ResizeResult := do
  match ← call (.saveConfig cfg) with
  | .ok _ =>
    return ⟨finalPath, humanDiskSize current, humanDiskSize target, guestGrowHint cfg⟩
  | .error err => renameBack err src dst finalPath target

/-- The end of `ResizeBootDisk`, once the image has grown. -/
def recordResize (name : String) (cfg : VMConfig) (d : DiskConfig)
    (current target : Nat) : Disk ResizeResult := do
  let src := site.diskPath name d
  let dst := site.diskPath name (resized target none d)
  let named ← renameResized src dst
  let cfg := { cfg with disks := updateFirst resizable (resized target named.2) cfg.disks }
  saveResized cfg src dst named.1 current target

/-- `ResizeBootDisk` with the format and the size that the image has. -/
def resizeFrom (info : String × Nat) : Disk ResizeResult :=
  match targetSize spec info.2 with
  | .error text => throw text
  | .ok target => do
    growImage info.1 (site.diskPath name d) target
    recordResize site name cfg d info.2 target

/-- `ResizeBootDisk` with the disk that it has found. -/
def resizeDisk : Disk ResizeResult := do
  let src := site.diskPath name d
  statDisk src
  let _ ← lookQemuImg
  let info ← imageVirtualSize src
  resizeFrom site name spec cfg d info

/-- `ResizeBootDisk` once the config is loaded. -/
def resizeWith : Disk ResizeResult :=
  match cfg.disks.find? resizable with
  | none =>
    throw ("VM " ++ goQuote name ++ " has no managed boot disk image to resize " ++
      "(raw-device --boot-disk VMs are partitioned by their owner)")
  | some d => resizeDisk site name spec cfg d

/-- `Manager.ResizeBootDisk`. -/
def resizeBootDisk : Disk ResizeResult := do
  requireStopped name
  let cfg ← loadConfig
  resizeWith site name spec cfg

end Resizing

/-! ### The host -/

namespace World

/-- Put an entry at a place, or leave nothing there. -/
def put (entry : Option Entry) : World :=
  { w with files := fun q => if q = place then entry else w.files q }

/-- The bytes of the file at a place. -/
def bytes : Option (List UInt8) :=
  match w.files place with
  | some (.file bytes) => some bytes
  | _ => none

/-- A rename from one place to another, where a file can be. -/
def moved (src dst : Place) : Option World :=
  match w.bytes src with
  | none => none
  | some bytes =>
    if src = dst then some w
    else if w.files dst = some .dir then none
    else some ((w.put src none).put dst (some (.file bytes)))

/-- The directories on the way to a place, made where nothing stands. -/
def mkdirs : World :=
  { w with files := fun q => if w.files q = none ∧ q <+: place then some .dir else w.files q }

/-- A file that has lost all but its first bytes. -/
def truncated (kept : Nat) : World :=
  match w.bytes place with
  | none => w
  | some bytes => w.put place (some (.file (bytes.take kept)))

end World

/-- What a call does. The host chooses whether it fails and, where that matters, how many bytes
have reached the disk by then. -/
def Op.exec (site : Site) : (op : Op) → Answer → World → Option (op.Res × World)
  | .loadState, ans, w => some (ans.orFail w.state, w)
  | .processAlive _, ans, w => some (ans.flag, w)
  | .loadConfig, ans, w => some (ans.orFail w.config, w)
  | .saveConfig cfg, ans, w =>
    match ans.error with
    | some text => some (.error text, w)
    | none => some (.ok (), { w with config := cfg })
  | .stat path, ans, w =>
    match ans.error with
    | some text => some (.error text, w)
    | none =>
      if (w.files (site.place path)).isSome then some (.ok (), w)
      else some (.error "no such file or directory", w)
  | .abs path, ans, w =>
    if isAbs path then some (.ok (site.absPath path), w)
    else some (ans.orFail (site.absPath path), w)
  | .mkdirAll path, ans, w =>
    match ans.error with
    | some text => some (.error text, w)
    | none => some (.ok (), w.mkdirs (site.place path))
  | .rename _ src dst, ans, w =>
    match ans.error with
    -- a rename to the same place never crosses file systems
    | some text => some (.error ⟨ans.flag && site.place src ≠ site.place dst, text⟩, w)
    | none => (w.moved (site.place src) (site.place dst)).map fun w' => (.ok (), w')
  | .openFile path, ans, w =>
    match ans.error with
    | some text => some (.error text, w)
    | none => (w.bytes (site.place path)).map fun _ => (.ok (), w)
  | .create path, ans, w =>
    match ans.error with
    | some text => some (.error text, w)
    | none =>
      if w.files (site.place path) = some .dir then none
      else some (.ok (), w.put (site.place path) (some (.file [])))
  | .copy src dst, ans, w =>
    match w.bytes (site.place src) with
    | none => none
    | some bytes =>
      match ans.error with
      | some text => some (.error text, w.put (site.place dst) (some (.file (bytes.take ans.num))))
      | none => some (.ok (), w.put (site.place dst) (some (.file bytes)))
  | .close _ dst, ans, w =>
    match ans.error with
    | some text => some (.error text, w.truncated (site.place dst) ans.num)
    | none => some (.ok (), w)
  | .remove path, ans, w =>
    match ans.error with
    | some text => some (.error text, w)
    | none => (w.bytes (site.place path)).map fun _ => (.ok (), w.put (site.place path) none)
  | .lookQemuImg, ans, w => some (ans.orFail ans.text, w)
  | .imageInfo path, ans, w =>
    match ans.error with
    | some text => some (.error text, w)
    | none =>
      -- a size that does not fit an int64 does not parse
      match (w.bytes (site.place path)).map site.qemuImg.info with
      | some (.ok (format, size)) => if size < 2 ^ 63 then some (.ok (format, size), w) else none
      | _ => none
  | .resizeImage _ path size, ans, w =>
    match w.bytes (site.place path) with
    | none => none
    | some bytes =>
      let grown := w.put (site.place path) (some (.file (site.qemuImg.grown bytes size)))
      match ans.error with
      -- it may fail before or after it has changed the image
      | some text => some (.error text, if ans.flag then grown else w)
      | none => some (.ok (), grown)

def diskHost (site : Site) : Machine Op Op.Res World where
  Ans := Answer
  exec _ op ans w := op.exec site ans w

end Vee.BootDisk
