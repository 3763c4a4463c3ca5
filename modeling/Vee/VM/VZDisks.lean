import Vee.Misc.GoPath
import Vee.Misc.Sequential
import Vee.VM.Host

/-!
# The disks of a vz Linux guest

`materializeVZLinuxDisks` with `materializeVZDisk`, `vzRepointDisk` and `vzRawDiskPath`
(`internal/vm/backend_vz.go`), call by call. Each file that it makes is marked with the VM and the
disk entry that it was made for; the code keeps no such mark.
-/

namespace Vee.VZDisks

open Prog (orThrow)

/-- The VM and the number of a disk entry. -/
abbrev Owner := String × Nat

/-- What stands at a place. -/
inductive Entry where
  | file (bytes : List UInt8) (madeFor : Option Owner)
  | dir
  deriving DecidableEq, Repr

/-- The images that qemu-img makes. -/
structure QemuImg where
  converted : List UInt8 → List UInt8
  resized : List UInt8 → String → List UInt8
  blank : String → List UInt8

/-- What the calls run on. -/
structure Site where
  cwd : Place := []
  qemuImg : QemuImg

variable (owner : Owner) (d : DiskConfig) (target : String) (site : Site) (path : String)

def Site.place : Place := locate site.cwd path.toList

/-- The commands of qemu-img; the ones that make a file say for which entry. -/
inductive Command where
  | convert (owner : Owner) (backing : String)
  | resize (size : String)
  | create (owner : Owner) (size : String)

inductive Op where
  | stat (path : String)
  | mkdirAll (path : String)
  | lookQemuImg
  | qemuImg (command : Command) (target : String)
  | remove (path : String)

@[reducible] def Op.Res : Op → Type
  | .lookQemuImg => Except String String
  | _ => Except String Unit

abbrev Vz (α : Type) := Prog Op Op.Res α

abbrev call (op : Op) : Vz op.Res := Prog.ask op

/-- The suffixes that `vzRawDiskPath` replaces. -/
def rawSuffixes : List String := [".qcow2", ".qcow", ".img", ".vmdk", ".vdi", ".vhd"]

def vzRawDiskPath : String :=
  match rawSuffixes.find? fun suffix => suffix.toList.isSuffixOf path.toList with
  | some suffix => String.ofList (path.toList.take (path.length - suffix.length)) ++ ".raw"
  | none => if ".raw".toList.isSuffixOf path.toList then path else joinPath [path, "disk-os.raw"]

def vzRepointDisk : DiskConfig :=
  { d with path := target, format := "raw", backingFile := "", cache := "" }

def makeDir : Vz Unit := do orThrow "" (← call (.mkdirAll path))

def vzQemuImgPath : Vz String := do orThrow "" (← call .lookQemuImg)

/-- Run qemu-img on the target; if it fails, the target is removed. -/
def runQemuImg (command : Command) (context target : String) : Vz Unit := do
  match ← call (.qemuImg command target) with
  | .ok _ => return ()
  | .error text =>
    let _ ← call (.remove target)
    throw (context ++ text)

/-- The size of an image that has been converted. -/
def resizeConverted : Vz Unit :=
  if d.size ≠ "" then
    runQemuImg (.resize d.size) ("resize " ++ target ++ " to " ++ d.size ++ ": ") target
  else pure ()

/-- The part of `materializeVZDisk` that makes the image. -/
def makeRaw : Vz Unit :=
  if d.backingFile ≠ "" then do
    runQemuImg (.convert owner d.backingFile) ("convert " ++ d.backingFile ++ " to raw: ") target
    resizeConverted d target
  else runQemuImg (.create owner d.size) ("create raw disk " ++ target ++ ": ") target

/-- `materializeVZDisk` where there is no image yet. -/
def makeDisk : Vz DiskConfig := do
  makeDir (String.ofList (dirPath target.toList))
  let _ ← vzQemuImgPath
  makeRaw owner d target
  pure (vzRepointDisk d target)

def materializeVZDisk : Vz DiskConfig := do
  let target := vzRawDiskPath d.path
  match ← call (.stat target) with
  | .ok _ => return vzRepointDisk d target
  | .error _ => makeDisk owner d target

/-- One round of `materializeVZLinuxDisks`. -/
def materializeEntry (name : String) (entry : DiskConfig × Nat) : Vz DiskConfig :=
  if entry.1.media = "cdrom" then pure entry.1
  else if entry.1.format = "" ∨ entry.1.format = "raw" ∨ entry.1.format = "qcow2" then
    materializeVZDisk (name, entry.2) entry.1
  else throw ("the vz backend cannot use disk " ++ entry.1.path ++ " (format " ++
    goQuote entry.1.format ++ ")")

/-- `materializeVZLinuxDisks`: the disks of the config afterwards. -/
def materializeVZLinuxDisks (name : String) (disks : List DiskConfig) : Vz (List DiskConfig) :=
  Prog.forEach (materializeEntry name) disks.zipIdx

/-! ### The host -/

structure World where
  files : Place → Option Entry

namespace World

/-- Put an entry at a place, or leave nothing there. -/
def put (w : World) (place : Place) (entry : Option Entry) : World where
  files := fun q => if q = place then entry else w.files q

/-- The directories on the way to a place, made where nothing stands. -/
def mkdirs (w : World) (place : Place) : World where
  files := fun q => if w.files q = none ∧ q <+: place then some .dir else w.files q

/-- A file is in the way of a directory. -/
def blocked (w : World) (place : Place) : Bool :=
  place.inits.any fun q => w.files q ≠ none ∧ w.files q ≠ some .dir

end World

/-- The file that qemu-img writes, if what it needs is there. -/
def Command.image (w : World) (target : Place) : Command → Option Entry
  | .convert owner backing =>
    match w.files (site.place backing) with
    | some (.file bytes _) => some (.file (site.qemuImg.converted bytes) owner)
    | _ => none
  | .resize size =>
    match w.files target with
    | some (.file bytes owner) => some (.file (site.qemuImg.resized bytes size) owner)
    | _ => none
  | .create owner size => some (.file (site.qemuImg.blank size) owner)

/-- What a call does. A `stat` fails exactly if nothing is there; the host chooses whether another
call fails, and whether a failing qemu-img has left a file. -/
def Op.exec : (op : Op) → Answer → World → Option (op.Res × World)
  | .stat path, _, w =>
    if (w.files (site.place path)).isSome then some (.ok (), w)
    else some (.error "no such file or directory", w)
  | .mkdirAll path, ans, w =>
    match ans.error with
    | some text => some (.error text, w)
    | none =>
      if w.blocked (site.place path) then none else some (.ok (), w.mkdirs (site.place path))
  | .lookQemuImg, ans, w => some (ans.orFail ans.text, w)
  | .qemuImg command target, ans, w =>
    if w.files (site.place target) = some .dir then ans.error.map fun text => (.error text, w)
    else
      match command.image site w (site.place target) with
      | none => ans.error.map fun text => (.error text, w)
      | some image =>
        let written := w.put (site.place target) image
        match ans.error with
        | some text => some (.error text, if ans.flag then written else w)
        | none => some (.ok (), written)
  | .remove path, ans, w =>
    match ans.error with
    | some text => some (.error text, w)
    | none => some (.ok (), w.put (site.place path) none)

def vzHost : Machine Op Op.Res World where
  Ans := Answer
  exec _ op ans w := op.exec site ans w

end Vee.VZDisks
