import Vee.Images.Download
import Vee.Misc.Newest
import Vee.Misc.Sequential

/-!
# Downloads that compare every file with its checksum

`Download` of `ArchImage`, `FedoraCloudImage`, `BazziteImage`, `OmarchyImage` and
`AlpineImage` (`internal/images`), and sequences of them.
-/

namespace Vee.Images

open Prog (attempt forEach orThrow)

/-- `len` of a text. -/
def byteLength (text : Text) : Nat := (text.map Char.utf8Size).sum

/-- The checksum in the first line that has the name in it, as in `sha256sums.txt`. -/
def digestBefore (name body : Text) : Text :=
  match (body.splitOn '\n').find? (containsText · name) with
  | some line => (goFields line).headD []
  | none => []

/-- The same, or the only field of a text that is a bare hash. -/
def digestOrBareHash (name body : Text) : Text :=
  if digestBefore name body = [] then
    match goFields body with
    | [field] => if byteLength field = 64 then field else []
    | _ => []
  else
    digestBefore name body

/-- What the four `Download`s differ in. -/
structure Mirror where
  basePath : Text
  name : Text
  checksumURL : Text
  isoURL : Text
  /-- How an error about the status of a response begins; without it no status is looked
  at. -/
  distro : Option String
  /-- The checksum that is read from a document; empty if there is none. -/
  targetChecksum : Text → Text

namespace Mirror

variable (m : Mirror)

def absolutePath : Text := joinElements [m.basePath, m.name]

def checkStatus (what : String) (url : Text) (resp : Response) : Except String Unit :=
  match m.distro with
  | none => .ok ()
  | some distro =>
    if resp.status ≠ 200 then
      .error (distro ++ ": fetch " ++ what ++ " " ++ String.ofList url ++ ": HTTP " ++
        toString resp.status)
    else .ok ()

/-- The rest of `Download` once the checksum is known and the file is not there. -/
def fetchISO (targetChecksum : Text) : Fetch Unit := do
  let resp ← orThrow "" (← ask (.get m.isoURL))
  orThrow "" (m.checkStatus "ISO" m.isoURL resp)
  saveVerified m.basePath m.absolutePath targetChecksum resp

def download : Fetch Unit := do
  let resp ← orThrow "" (← ask (.get m.checksumURL))
  orThrow "" (m.checkStatus "checksum" m.checksumURL resp)
  let body ← orThrow "" resp.readAll
  if m.targetChecksum body = [] then
    throw ("checksum not found for " ++ String.ofList m.name)
  else if ← ask (.stat m.absolutePath) then
    recheck m.absolutePath (m.targetChecksum body) (m.fetchISO (m.targetChecksum body))
  else
    m.fetchISO (m.targetChecksum body)

end Mirror

structure ArchImage where
  basePath : Text
  version : Text
  deriving DecidableEq, Repr

namespace ArchImage

variable (a : ArchImage)

def name : Text := "archlinux-".toList ++ a.version ++ "-x86_64.iso".toList

def mirror : Mirror where
  basePath := a.basePath
  name := a.name
  checksumURL := "https://geo.mirror.pkgbuild.com/iso/".toList ++ a.version ++
    "/sha256sums.txt".toList
  isoURL := "https://geo.mirror.pkgbuild.com/iso/".toList ++ a.version ++ "/archlinux-".toList ++
    a.version ++ "-x86_64.iso".toList
  distro := none
  targetChecksum := digestBefore a.name

def download : Fetch Unit := a.mirror.download

end ArchImage

/-- The architectures that `GuestArchForHostArch` gives. -/
inductive GuestArch where
  | aarch64
  | x86
  deriving DecidableEq, Repr

def GuestArch.text : GuestArch → Text
  | .aarch64 => "aarch64".toList
  | .x86 => "x86_64".toList

structure FedoraCloudImage where
  basePath : Text
  version : Text
  arch : GuestArch
  deriving DecidableEq, Repr

def fedoraCompose : List (Text × Text) :=
  [("42".toList, "1.1".toList), ("41".toList, "1.4".toList)]

namespace FedoraCloudImage

variable (f : FedoraCloudImage)

def compose : Text := (fedoraCompose.lookup f.version).getD []

def name : Text :=
  "Fedora-Cloud-Base-Generic-".toList ++ f.version ++ "-".toList ++ f.compose ++ ".".toList ++
    f.arch.text ++ ".qcow2".toList

/-- The directory of the release. -/
def imagesURL : Text :=
  "https://download.fedoraproject.org/pub/fedora/linux/releases/".toList ++ f.version ++
    "/Cloud/".toList ++ f.arch.text ++ "/images/".toList

/-- `SHA256 (name) = digest`. -/
def targetChecksum (body : Text) : Text :=
  match (body.splitOn '\n').find? fun line =>
      containsText line f.name && "SHA256".toList.isPrefixOf (trimSpace line) with
  | some line =>
    match line.splitOn '=' with
    | [_, digest] => trimSpace digest
    | _ => []
  | none => []

def mirror : Mirror where
  basePath := f.basePath
  name := f.name
  checksumURL := f.imagesURL ++ "Fedora-Cloud-".toList ++ f.version ++ "-".toList ++ f.compose ++
    "-".toList ++ f.arch.text ++ "-CHECKSUM".toList
  isoURL := f.imagesURL ++ f.name
  distro := none
  targetChecksum := f.targetChecksum

def download : Fetch Unit :=
  if (fedoraCompose.lookup f.version).isNone then
    throw ("unsupported Fedora version " ++ goQuote (String.ofList f.version) ++
      " (known: [42 41])")
  else
    f.mirror.download

end FedoraCloudImage

structure BazziteImage where
  basePath : Text
  version : Text
  deriving DecidableEq, Repr

namespace BazziteImage

variable (b : BazziteImage)

def name : Text := "bazzite-".toList ++ b.version ++ "-amd64.iso".toList

def mirror : Mirror where
  basePath := b.basePath
  name := b.name
  checksumURL := "https://download.bazzite.gg/bazzite-".toList ++ b.version ++
    "-amd64.iso-CHECKSUM".toList
  isoURL := "https://download.bazzite.gg/bazzite-".toList ++ b.version ++ "-amd64.iso".toList
  distro := some "bazzite"
  targetChecksum := digestOrBareHash b.name

def download : Fetch Unit := b.mirror.download

end BazziteImage

structure OmarchyImage where
  basePath : Text
  version : Text
  deriving DecidableEq, Repr

namespace OmarchyImage

variable (o : OmarchyImage)

def name : Text := "omarchy-".toList ++ o.version ++ ".iso".toList

def mirror : Mirror where
  basePath := o.basePath
  name := o.name
  checksumURL := "https://iso.omarchy.org/omarchy-".toList ++ o.version ++ ".iso.sha256".toList
  isoURL := "https://iso.omarchy.org/omarchy-".toList ++ o.version ++ ".iso".toList
  distro := some "omarchy"
  targetChecksum := digestOrBareHash o.name

def download : Fetch Unit := o.mirror.download

end OmarchyImage

structure AlpineImage where
  basePath : Text
  version : Text
  deriving DecidableEq, Repr

/-- The images of this module. -/
inductive MirrorImage where
  | arch (a : ArchImage)
  | fedora (f : FedoraCloudImage)
  | bazzite (b : BazziteImage)
  | omarchy (o : OmarchyImage)
  | alpine (a : AlpineImage)

/-- The calls of these downloads: those of the others, and two of Alpine's. `enter` and
`leave` only mark where a call of `Download` begins and how it ends. -/
inductive MirrorCall where
  | host (op : Call)
  | sha512sum (path : Text)
  | rename (source target : Text)
  | enter (image : MirrorImage)
  | leave (image : MirrorImage) (returned : Bool)

abbrev MirrorCall.Res : MirrorCall → Type
  | .host op => op.Res
  | .sha512sum _ => Except String Text
  | .rename _ _ => Except String Unit
  | .enter _ | .leave _ _ => Unit

abbrev MirrorFetch (α : Type) := Prog MirrorCall MirrorCall.Res α

abbrev require (op : MirrorCall) : MirrorFetch op.Res := Prog.ask op

/-- A program that makes no other calls than those of the other downloads. -/
def onHost {α : Type} (p : Fetch α) : MirrorFetch α := p.subst fun op => require (.host op)

/-- What stands behind the first occurrence of a text. -/
def behindFirst (part : Text) : Text → Option Text
  | [] => part.isPrefixOf? []
  | c :: text =>
    match part.isPrefixOf? (c :: text) with
    | some rest => some rest
    | none => behindFirst part text

namespace AlpineImage

variable (a : AlpineImage)

def name : Text :=
  "nocloud_alpine-".toList ++ a.version ++ "-x86_64-bios-cloudinit-r0.qcow2".toList

def absolutePath : Text := joinElements [a.basePath, a.name]

def indexURL : Text :=
  "https://dl-cdn.alpinelinux.org/alpine/v".toList ++ a.version ++ "/releases/cloud/".toList

/-- The file that a line of the directory listing is for, if it is one of the images. -/
def candidate (line : Text) : Option Text :=
  if containsText line "nocloud_alpine-".toList &&
      containsText line "x86_64-bios-cloudinit-r".toList &&
      !containsText line "-metal-".toList && containsText line ".qcow2\"".toList &&
      !containsText line ".sha512".toList && !containsText line ".asc".toList then
    (behindFirst "href=\"".toList line).bind fun rest => (cutFirst '"' rest).map Prod.fst
  else none

/-- The images of a directory listing. -/
def entries (body : Text) : List Text := (body.splitOn '\n').filterMap candidate

/-- The newest image of a directory listing; empty if there is none. -/
def newestImage (body : Text) : Text := greatest [] (entries body)

def checksumURL (target : Text) : Text := a.indexURL ++ target ++ ".sha512".toList

/-- The checksum of a sidecar. -/
def targetChecksum (url body : Text) : Except String Text :=
  match goFields body with
  | [] => .error ("alpine: empty checksum file at " ++ String.ofList url)
  | field :: _ =>
    if byteLength (toLowerText field) ≠ 128 then
      .error ("alpine: unexpected checksum content at " ++ String.ofList url ++ " (got " ++
        goQuote (String.ofList (toLowerText field)) ++ ")")
    else .ok (toLowerText field)

/-- The end of `Download`: the body goes to a file of its own, which gets the stable name
once it has been compared with the checksum. -/
def install (destPath targetChecksum : Text) (resp : Response) : MirrorFetch Unit := do
  orThrow "" (← require (.host (.mkdirAll a.basePath)))
  orThrow "" (← require (.host (.create destPath)))
  onHost (createImage destPath resp.broken resp.chunks)
  let sum ← orThrow "" (← require (.sha512sum destPath))
  if sum ≠ targetChecksum then
    throw ("alpine checksum mismatch: expected " ++ String.ofList targetChecksum ++ ", got " ++
      String.ofList sum)
  else
    orThrow "" (← require (.rename destPath a.absolutePath))

/-- `Download` once the name of the newest image is known. -/
def fetchImage (target : Text) : MirrorFetch Unit := do
  let resp ← orThrow "" (← require (.host (.get (a.checksumURL target))))
  if resp.status ≠ 200 then
    throw ("alpine: fetch checksum " ++ String.ofList (a.checksumURL target) ++ ": HTTP " ++
      toString resp.status)
  else
    let checksumBody ← orThrow "" resp.readAll
    let targetChecksum ← orThrow "" (targetChecksum (a.checksumURL target) checksumBody)
    let resp ← orThrow "" (← require (.host (.get (a.indexURL ++ target))))
    a.install (joinElements [a.basePath, target]) targetChecksum resp

def download : MirrorFetch Unit := do
  if ← require (.host (.stat a.absolutePath)) then
    pure ()
  else
    let resp ← orThrow "" (← require (.host (.get a.indexURL)))
    let body ← orThrow "" resp.readAll
    if newestImage body = [] then
      throw ("alpine: no cloud image found in " ++ String.ofList a.indexURL)
    else
      a.fetchImage (newestImage body)

end AlpineImage

namespace MirrorImage

def absolutePath : MirrorImage → Text
  | .arch a => a.mirror.absolutePath
  | .fedora f => f.mirror.absolutePath
  | .bazzite b => b.mirror.absolutePath
  | .omarchy o => o.mirror.absolutePath
  | .alpine a => a.absolutePath

def download : MirrorImage → MirrorFetch Unit
  | .arch a => onHost a.download
  | .fedora f => onHost f.download
  | .bazzite b => onHost b.download
  | .omarchy o => onHost o.download
  | .alpine a => a.download

end MirrorImage

def MirrorCall.exec (sha256 sha512 : Text → Text) :
    (op : MirrorCall) → Answer → Cache → op.Res × Cache
  | .host op, ans, w => op.exec sha256 ans w
  | .sha512sum path, ans, w =>
    match ans.error, w.files path with
    | some text, _ => (.error text, w)
    | none, some content => (.ok (sha512 content), w)
    | none, none => (.error "no such file or directory", w)
  | .rename source target, ans, w =>
    match ans.error, w.files source with
    | some text, _ => (.error text, w)
    | none, some content =>
      (.ok (), { w with
        files := Function.update (Function.update w.files source none) target (some content) })
    | none, none => (.error "no such file or directory", w)
  | .enter _, _, w => ((), w)
  | .leave _ _, _, w => ((), w)

def mirrorHost (sha256 sha512 : Text → Text) :
    Machine MirrorCall MirrorCall.Res Cache where
  Ans := Answer
  exec _ op ans w := some (op.exec sha256 sha512 ans w)

/-- A call of `Download`, which may be killed before one of its calls to the host. -/
structure MirrorAttempt where
  image : MirrorImage
  killed : Option Nat := none

/-- What an attempt does before it ends or is killed. -/
def MirrorAttempt.prog (a : MirrorAttempt) : MirrorFetch Unit :=
  match a.killed with
  | some n => a.image.download.cut n
  | none => a.image.download

def MirrorAttempt.run (a : MirrorAttempt) : MirrorFetch Unit := do
  require (.enter a.image)
  let result ← attempt a.prog
  require (.leave a.image result.isOk)

def mirrorDownloads (attempts : List MirrorAttempt) : MirrorFetch Unit := do
  let _ ← forEach MirrorAttempt.run attempts

end Vee.Images
