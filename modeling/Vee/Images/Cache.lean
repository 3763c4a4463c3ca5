import Mathlib.Logic.Function.Basic
import Vee.Misc.GoText
import Vee.Misc.Program

/-!
# The images and the host that they are downloaded to

The images whose downloads `internal/images` checks against a published checksum, and the
calls that a download makes: to the file system, to the servers and to its own image value,
whose `resolvedName` outlives the call of `Download`. The digest is a parameter.
-/

namespace Vee.Images

inductive UbuntuImageType where
  | desktop
  | server
  deriving DecidableEq, Repr

def UbuntuImageType.text : UbuntuImageType → Text
  | .desktop => "desktop".toList
  | .server => "live-server".toList

/-- `UbuntuImage`, without the name that is resolved at download time. -/
structure UbuntuImage where
  basePath : Text
  imageType : UbuntuImageType
  version : Text
  arch : Text
  deriving DecidableEq, Repr

namespace UbuntuImage

variable (u : UbuntuImage)

def nameSuffix : Text :=
  "-".toList ++ u.imageType.text ++ "-".toList ++ u.arch ++ ".iso".toList

def name (resolvedName : Text) : Text :=
  if resolvedName ≠ [] then resolvedName
  else "ubuntu-".toList ++ u.version ++ u.nameSuffix

def absolutePath (resolvedName : Text) : Text :=
  joinElements [u.basePath, u.name resolvedName]

def checksumURL : Text :=
  "https://releases.ubuntu.com/".toList ++ u.version ++ "/SHA256SUMS".toList

def isoURL (resolvedName : Text) : Text :=
  "https://releases.ubuntu.com/".toList ++ u.version ++ "/".toList ++ resolvedName

end UbuntuImage

structure UbuntuCloudImage where
  basePath : Text
  version : Text
  arch : Text
  deriving DecidableEq, Repr

namespace UbuntuCloudImage

variable (u : UbuntuCloudImage)

def name : Text :=
  "ubuntu-".toList ++ u.version ++ "-server-cloudimg-".toList ++ u.arch ++ ".img".toList

def absolutePath : Text := joinElements [u.basePath, u.name]

def checksumURL : Text :=
  "https://cloud-images.ubuntu.com/releases/".toList ++ u.version ++ "/release/SHA256SUMS".toList

def imgURL : Text :=
  "https://cloud-images.ubuntu.com/releases/".toList ++ u.version ++ "/release/".toList ++ u.name

end UbuntuCloudImage

structure TrueNASImage where
  basePath : Text
  version : Text
  deriving DecidableEq, Repr

def truenasCodenames : List (Text × Text) :=
  [("24.04".toList, "Dragonfish".toList), ("24.10".toList, "ElectricEel".toList),
    ("25.04".toList, "Fangtooth".toList), ("25.10".toList, "Goldeye".toList)]

namespace TrueNASImage

variable (t : TrueNASImage)

def name : Text := "TrueNAS-SCALE-".toList ++ t.version ++ ".iso".toList

def absolutePath : Text := joinElements [t.basePath, t.name]

def codename : Except String Text :=
  match t.version.splitOn '.' with
  | major :: minor :: _ =>
    let train := major ++ ".".toList ++ minor
    match truenasCodenames.lookup train with
    | some cn => .ok cn
    | none =>
      .error ("truenas: unknown release train " ++ goQuote (String.ofList train) ++
        " (add it to truenasCodenames)")
  | _ =>
    .error ("truenas: cannot derive train from version " ++ goQuote (String.ofList t.version))

def isoURL (cn : Text) : Text :=
  "https://download.sys.truenas.net/TrueNAS-SCALE-".toList ++ cn ++ "/".toList ++ t.version ++
    "/".toList ++ t.name

def checksumURL (cn : Text) : Text := t.isoURL cn ++ ".sha256".toList

end TrueNASImage

/-- The images whose content is checked. -/
inductive Image where
  | ubuntu (u : UbuntuImage)
  | ubuntuCloud (u : UbuntuCloudImage)
  | trueNAS (t : TrueNASImage)

def Image.absolutePath (resolvedName : Text) : Image → Text
  | .ubuntu u => u.absolutePath resolvedName
  | .ubuntuCloud u => u.absolutePath
  | .trueNAS t => t.absolutePath

/-- A response: its status, what arrives of its body, and the error that ends the body
early. -/
structure Response where
  status : Nat := 200
  statusText : String := "200 OK"
  chunks : List Text := []
  broken : Option String := none
  deriving Repr

/-- `io.ReadAll`. -/
def Response.readAll (resp : Response) : Except String Text :=
  match resp.broken with
  | some text => .error text
  | none => .ok resp.chunks.flatten

/-- The calls of a download. `enter` and `leave` only mark where a call of `Download`
begins and how it ends. -/
inductive Call where
  | stat (path : Text)
  | get (url : Text)
  | mkdirAll (path : Text)
  | create (path : Text)
  | write (path chunk : Text)
  | sha256sum (path : Text)
  | remove (path : Text)
  | resolvedName (object : Nat)
  | resolve (object : Nat) (name : Text)
  | enter (image : Image)
  | leave (object : Nat) (image : Image) (returned : Bool)

abbrev Call.Res : Call → Type
  -- whether the error is nil
  | .stat _ => Bool
  | .get _ => Except String Response
  | .mkdirAll _ | .create _ | .write _ _ | .remove _ => Except String Unit
  | .sha256sum _ => Except String Text
  | .resolvedName _ => Text
  | .resolve _ _ | .enter _ | .leave _ _ _ => Unit

abbrev Fetch (α : Type) := Prog Call Call.Res α

abbrev ask (op : Call) : Fetch op.Res := Prog.ask op

/-- The files, and the `resolvedName` of each image value. -/
structure Cache where
  files : Text → Option Text := fun _ => none
  resolved : Nat → Text := fun _ => []

/-- The host's own choices in a call: an error, a response, and how much of a failing
write gets through. -/
structure Answer where
  error : Option String := none
  response : Response := {}
  written : Nat := 0

def Call.exec (sha256 : Text → Text) : (op : Call) → Answer → Cache → op.Res × Cache
  | .stat path, ans, w => (ans.error.isNone && (w.files path).isSome, w)
  | .get _, ans, w =>
    match ans.error with
    | some text => (.error text, w)
    | none => (.ok ans.response, w)
  | .mkdirAll _, ans, w =>
    match ans.error with
    | some text => (.error text, w)
    | none => (.ok (), w)
  | .create path, ans, w =>
    match ans.error with
    | some text => (.error text, w)
    | none => (.ok (), { w with files := Function.update w.files path (some []) })
  | .write path chunk, ans, w =>
    let content := (w.files path).getD []
    match ans.error with
    | some text =>
      (.error text,
        { w with files := Function.update w.files path (some (content ++ chunk.take ans.written)) })
    | none => (.ok (), { w with files := Function.update w.files path (some (content ++ chunk)) })
  | .sha256sum path, ans, w =>
    match ans.error, w.files path with
    | some text, _ => (.error text, w)
    | none, some content => (.ok (sha256 content), w)
    | none, none => (.error "no such file or directory", w)
  | .remove path, ans, w =>
    match ans.error with
    | some text => (.error text, w)
    | none => (.ok (), { w with files := Function.update w.files path none })
  | .resolvedName object, _, w => (w.resolved object, w)
  | .resolve object name, _, w =>
    ((), { w with resolved := Function.update w.resolved object name })
  | .enter _, _, w => ((), w)
  | .leave _ _ _, _, w => ((), w)

def cacheHost (sha256 : Text → Text) : Machine Call Call.Res Cache where
  Ans := Answer
  exec _ op ans w := some (op.exec sha256 ans w)

end Vee.Images
