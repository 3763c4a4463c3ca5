import Vee.Firstboot.Devices
import Vee.Firstboot.Payload
import Vee.Misc.GoError
import Vee.Misc.Program

/-!
# Patching the disk of a macOS guest

`Patch` and `EnsureScreenSharingGrants` of `internal/vzfirstboot/patch_darwin.go` with all that
they call, one host call at a time. Each command of the host may fail, and one that is run under a
cancelled context does. A command that fails has done nothing, except that a write may have
created its file, and that the script of `fixOwnership` may have come to some of the files and may
leave the volume mounted. A deferred call stands where the function returns.
-/

namespace Vee.Firstboot

/-- The errors that callers compare with. -/
inductive Sentinel where
  | guestDiskBusy
  | noTCCDB
  | unknownTCCSchema
  deriving DecidableEq, Repr

def Sentinel.text : Sentinel → String
  | .guestDiskBusy => "guest disk is still attached to the host"
  | .noTCCDB => "guest has no TCC database yet"
  | .unknownTCCSchema => "guest TCC database has no access table"

abbrev Err := GoError Sentinel

def errorText (err : Err) : String := err.message Sentinel.text

/-- The context that a command runs under: the caller's, or `context.WithoutCancel` of it. -/
inductive Context where
  | caller
  | withoutCancel
  deriving DecidableEq, Repr

/-- The part of the source that makes a call, where it is made in several places. -/
inductive Part where
  | attachImage
  | writePayload
  /-- `Patch` itself. -/
  | patch
  /-- The removals in `Patch` after a write has failed. -/
  | undo
  /-- The deferred calls of `Patch`. -/
  | deferred
  | rollbackPayload
  | ensureGrants
  | releaseGuestDisk
  deriving DecidableEq, Repr

/-- The statements on the privacy database. -/
inductive Statement where
  | probe
  | insert (service : String)
  | delete (service : String)
  | count (service : String)

inductive DiskOp where
  /-- `GeneratePassword`. -/
  | password
  | attach (diskPath : String)
  /-- The wait between two attempts to attach. -/
  | backoff
  /-- `diskutil apfs list`, to find the volumes of this container. -/
  | apfsList (container : Text)
  | detach (part : Part) (ctx : Context) (dev : Text)
  | mkdirTemp (dir pattern : String)
  | rmdir (mnt : String)
  | mount (ctx : Context) (dev : Text) (mnt : String)
  | umount (part : Part) (ctx : Context) (mnt : String)
  | mkdirAll (mnt path : String)
  | write (mnt : String) (file : PayloadFile)
  | chmod (mnt path : String)
  | remove (part : Part) (mnt path : String)
  | statTCC (mnt : String)
  | openTCC (part : Part) (mnt : String)
  | statement (ctx : Context) (sql : Statement)
  | closeTCC (mnt : String)
  /-- The script that mounts the volume with ownership, sets owner and mode of each file in turn
  and unmounts it when it exits. -/
  | sudo (dev : Text) (mnt : String) (files : List PayloadFile)

/-- Why a file was not removed. -/
inductive RemoveError where
  | notExist
  | other (text : String)

/-- An error of a command, and what it has printed. -/
structure CommandError where
  err : String
  out : Text

def DiskOp.Res : DiskOp → Type
  | .password | .mkdirTemp _ _ => Except String String
  | .attach _ | .apfsList _ => Except CommandError Text
  | .mount _ _ _ | .umount _ _ _ => Except CommandError Unit
  | .backoff | .detach _ _ _ | .mkdirAll _ _ | .write _ _ | .statTCC _ | .openTCC _ _ |
      .sudo _ _ _ => Except String Unit
  | .remove _ _ _ => Except RemoveError Unit
  | .statement _ _ => Except String Nat
  | .rmdir _ | .chmod _ _ | .closeTCC _ => Unit

abbrev DiskProg := Prog DiskOp DiskOp.Res

/-! ### The calls by name -/

open Prog (ask)

def password : DiskProg (Except String String) := ask DiskOp.password

def attach (diskPath : String) : DiskProg (Except CommandError Text) :=
  ask (DiskOp.attach diskPath)

def backoff : DiskProg (Except String Unit) := ask DiskOp.backoff

def apfsList (container : Text) : DiskProg (Except CommandError Text) :=
  ask (DiskOp.apfsList container)

variable (part : Part) (ctx : Context) (attached : AttachedDisk) (mnt : String)
  (files : List PayloadFile) (opts : Options)

def detach (dev : Text) : DiskProg (Except String Unit) :=
  ask (DiskOp.detach part ctx dev)

def mkdirTemp (dir pattern : String) : DiskProg (Except String String) :=
  ask (DiskOp.mkdirTemp dir pattern)

def rmdir : DiskProg Unit := ask (DiskOp.rmdir mnt)

def mount (dev : Text) (mnt : String) : DiskProg (Except CommandError Unit) :=
  ask (DiskOp.mount ctx dev mnt)

def umount : DiskProg (Except CommandError Unit) :=
  ask (DiskOp.umount part ctx mnt)

def mkdirAll (mnt path : String) : DiskProg (Except String Unit) := ask (DiskOp.mkdirAll mnt path)

def write (file : PayloadFile) : DiskProg (Except String Unit) :=
  ask (DiskOp.write mnt file)

def chmod (mnt path : String) : DiskProg Unit := ask (DiskOp.chmod mnt path)

def remove (mnt path : String) : DiskProg (Except RemoveError Unit) :=
  ask (DiskOp.remove part mnt path)

def statTCC : DiskProg (Except String Unit) := ask (DiskOp.statTCC mnt)

def sqlOpen : DiskProg (Except String Unit) :=
  ask (DiskOp.openTCC part mnt)

def statement (sql : Statement) : DiskProg (Except String Nat) :=
  ask (DiskOp.statement ctx sql)

def closeTCC : DiskProg Unit := ask (DiskOp.closeTCC mnt)

def sudoScript (dev : Text) (mnt : String) (files : List PayloadFile) :
    DiskProg (Except String Unit) := ask (DiskOp.sudo dev mnt files)

/-! ### Attaching -/

/-- What the functions take from libraries: the decoder of plists and the template of the
script. -/
structure Site where
  parsePlist : Text → Except String Plist
  renderFirstBootScript : Options → String → Except String String

def detail (stderr : Text) : String :=
  if trimSpace stderr = [] then "" else ": " ++ String.ofList (trimSpace stderr)

def detachImage : DiskProg (Except Err Unit) :=
  if attached.node = [] then pure (.error (.text "no device node to detach"))
  else do
    let answer ← detach part ctx attached.node
    pure (answer.mapError .text)

def detachScrapedFrom (attachOutput : Text) : DiskProg (Except Err Unit) :=
  if scrapeDevice attachOutput = [] then
    pure (.error (.text "no device node found in hdiutil output"))
  else do
    let answer ← detach .attachImage .caller (scrapeDevice attachOutput)
    pure (answer.mapError .text)

section Attaching

variable (site : Site)

/-- The data volume in the output of `diskutil apfs list`. -/
def dataVolumeIn (containerDev out : Text) : Except Err Text :=
  match site.parsePlist out with
  | .error text => .error (.wrap "parse diskutil apfs list output: " (.text text) "")
  | .ok root => (dataVolumeForContainer root containerDev).mapError .text

theorem dataVolumeIn_eq {containerDev out : Text} {result : Except Err Text}
    (found : dataVolumeIn site containerDev out = result) :
    (∃ dev, result = .ok dev ∧ dev ≠ []) ∨
      ∃ err, result = .error err ∧ err.is .guestDiskBusy = false := by
  subst found
  unfold dataVolumeIn
  split
  · exact .inr ⟨_, rfl, rfl⟩
  · rename_i root _
    cases volume : dataVolumeForContainer root containerDev with
    | error text => exact .inr ⟨_, rfl, rfl⟩
    | ok dev => exact .inl ⟨dev, rfl, dataVolumeForContainer_ne_nil volume⟩

def resolveDataVolume (containerDev : Text) : DiskProg (Except Err Text) :=
  if containerDev = [] then
    pure (.error (.text
      "no APFS container in the guest disk image — is the guest actually installed?"))
  else do
    match ← apfsList containerDev with
    | .error failure =>
      pure (.error (.wrap "diskutil apfs list: " (.text failure.err) (detail failure.out)))
    | .ok out => pure (dataVolumeIn site containerDev out)

/-- The release of an image whose data volume is not found. -/
def giveUp (attachOutput : Text) (got : AttachedDisk) : DiskProg Unit := do
  match ← detachImage .attachImage .caller got with
  | .ok _ => pure ()
  | .error _ => do
    let _ ← detachScrapedFrom attachOutput
    pure ()

/-- How one attempt to attach ends. -/
inductive Attempt where
  | retry (err : Err)
  | stop (result : Except Err AttachedDisk)

/-- The data volume of an image that has been attached. -/
def resolveAttached (attachOutput : Text) (got : AttachedDisk) : DiskProg Attempt :=
  if got.data ≠ [] then pure (.stop (.ok got))
  else do
    match ← resolveDataVolume site got.container with
    | .error err => do
      giveUp attachOutput got
      pure (.stop (.error err))
    | .ok data => pure (.stop (.ok { got with data := data }))

/-- What follows an `hdiutil attach` that has succeeded. -/
def readAttached (attachOutput : Text) : DiskProg Attempt :=
  match site.parsePlist attachOutput with
  | .error text => do
    let _ ← detachScrapedFrom attachOutput
    pure (.stop (.error (.wrap "parse hdiutil attach output: " (.text text) "")))
  | .ok root => resolveAttached site attachOutput (devicesFromAttach root)

def attachError (diskPath : String) (failure : CommandError) : Err :=
  .wrap ("hdiutil attach " ++ diskPath ++ ": ") (.text failure.err) (detail failure.out)

def attachOnce (diskPath : String) : DiskProg Attempt := do
  match ← attach diskPath with
  | .error failure =>
    if containsText failure.out "Resource temporarily unavailable".toList then
      pure (.retry (attachError diskPath failure))
    else pure (.stop (.error (attachError diskPath failure)))
  | .ok out => readAttached site out

/-- The loop of `attachImage`, with the attempts that are left after the next one. -/
def attachLoop (diskPath : String) : Nat → DiskProg (Except Err AttachedDisk)
  | 0 => do
    match ← attachOnce site diskPath with
    | .retry err => pure (.error err)
    | .stop result => pure result
  | left + 1 => do
    match ← attachOnce site diskPath with
    | .retry _ => do
      match ← backoff with
      | .error text => pure (.error (.text text))
      | .ok _ => attachLoop diskPath left
    | .stop result => pure result

def attachRetries : Nat := 3

def attachImage (diskPath : String) : DiskProg (Except Err AttachedDisk) :=
  attachLoop site diskPath (attachRetries - 1)

end Attaching

def mountData : DiskProg (Except Err Unit) := do
  match ← mount ctx attached.data mnt with
  | .ok _ => pure (.ok ())
  | .error failure =>
    pure (.error (.wrap ("mount guest data volume /dev/" ++ String.ofList attached.data ++ ": ")
      (.text failure.err) ("\n" ++ String.ofList failure.out)))

/-! ### The privacy database -/

def screenSharingClient : String := "com.apple.screensharing.agent"

def screenSharingServices : List String :=
  ["kTCCServiceScreenCapture", "kTCCServicePostEvent", "kTCCServiceAccessibility"]

def openTCC : DiskProg (Except Err Unit) := do
  match ← statTCC mnt with
  | .error text => pure (.error (.wrap "" (.sentinel .noTCCDB) (": " ++ text)))
  | .ok _ => do
    match ← sqlOpen part mnt with
    | .error text => pure (.error (.wrap "open guest TCC database: " (.text text) ""))
    | .ok _ => do
      match ← statement ctx .probe with
      | .error text => do
        closeTCC mnt
        pure (.error (.wrap "" (.sentinel .unknownTCCSchema) (": " ++ text)))
      | .ok _ => pure (.ok ())

/-- The loop of `grantScreenSharing` and of `revokeScreenSharing`: one statement for each
service. -/
def forServices (sql : String → Statement) (before behind : String) :
    List String → DiskProg (Except Err Unit)
  | [] => pure (.ok ())
  | service :: rest => do
    match ← statement ctx (sql service) with
    | .error text => pure (.error (.wrap (before ++ service ++ behind) (.text text) ""))
    | .ok _ => forServices sql before behind rest

/-- Open the database, run the statements, and close it. -/
def withTCC (sql : String → Statement) (before behind : String) : DiskProg (Except Err Unit) := do
  match ← openTCC part ctx mnt with
  | .error err => pure (.error err)
  | .ok _ => do
    let result ← forServices ctx sql before behind screenSharingServices
    closeTCC mnt
    pure result

def grantScreenSharing : DiskProg (Except Err Unit) :=
  withTCC part ctx mnt .insert "grant " (" to " ++ screenSharingClient ++ ": ")

def revokeScreenSharing : DiskProg (Except Err Unit) :=
  withTCC part ctx mnt .delete "revoke " (" from " ++ screenSharingClient ++ ": ")

def applyPrivacyGrants : DiskProg (Except Err Unit) :=
  if opts.enableScreenSharing then grantScreenSharing .patch .caller mnt else pure (.ok ())

def dropPrivacyGrants : DiskProg (Except Err Unit) :=
  if opts.enableScreenSharing then revokeScreenSharing .rollbackPayload .withoutCancel mnt
  else pure (.ok ())

/-- The loop of `screenSharingGranted`. -/
def countGrants : List String → DiskProg (Except Err Bool)
  | [] => pure (.ok true)
  | service :: rest => do
    match ← statement .caller (.count service) with
    | .error text => pure (.error (.wrap ("read " ++ service ++ " grant: ") (.text text) ""))
    | .ok 0 => pure (.ok false)
    | .ok _ => countGrants rest

def screenSharingGranted : DiskProg (Except Err Bool) := do
  match ← openTCC .ensureGrants .caller mnt with
  | .error err => pure (.error err)
  | .ok _ => do
    let result ← countGrants screenSharingServices
    closeTCC mnt
    pure result

def grantMissingScreenSharing : DiskProg (Except Err Bool) := do
  match ← screenSharingGranted mnt with
  | .error err => pure (.error err)
  | .ok true => pure (.ok false)
  | .ok false => do
    match ← grantScreenSharing .ensureGrants .caller mnt with
    | .error err => pure (.error err)
    | .ok _ => pure (.ok true)

/-! ### The payload -/

/-- One file of `writePayload`. -/
def writeFile (f : PayloadFile) : DiskProg (Except Err Unit) := do
  if f.dir then
    match ← mkdirAll mnt f.path with
    | .error text => pure (.error (.wrap ("create " ++ f.path ++ " in guest: ") (.text text) ""))
    | .ok _ => pure (.ok ())
  else
    let parent := String.ofList (dirPath f.path.toList)
    match ← mkdirAll mnt parent with
    | .error text => pure (.error (.wrap ("create " ++ parent ++ " in guest: ") (.text text) ""))
    | .ok _ => do
      let _ ← remove .writePayload mnt f.path
      match ← write mnt f with
      | .error text => pure (.error (.wrap ("write " ++ f.path ++ " in guest: ") (.text text) ""))
      | .ok _ => pure (.ok ())

def writePayload : List PayloadFile → DiskProg (Except Err Unit)
  | [] => pure (.ok ())
  | f :: rest => do
    match ← writeFile mnt f with
    | .error err => pure (.error err)
    | .ok _ => writePayload rest

/-- The removals of `Patch` after a write has failed; errors are ignored. -/
def undoPayload : List PayloadFile → DiskProg Unit
  | [] => pure ()
  | f :: rest =>
    if f.keep then undoPayload rest
    else do
      chmod mnt f.path
      let _ ← remove .undo mnt f.path
      undoPayload rest

/-- The removals of `rollbackPayload`, with the errors. -/
def removePayload : List PayloadFile → DiskProg (List Err)
  | [] => pure []
  | f :: rest =>
    if f.keep then removePayload rest
    else do
      chmod mnt f.path
      let answer ← remove .rollbackPayload mnt f.path
      let errs ← removePayload rest
      match answer with
      | .error (.other text) => pure (.text text :: errs)
      | _ => pure errs

/-- What `rollbackPayload` keeps of the error of `dropPrivacyGrants`. -/
def dropErrors : Except Err Unit → List Err
  | .error err => if err.is .noTCCDB || err.is .unknownTCCSchema then [] else [err]
  | .ok _ => []

/-- The errors that have been collected, joined. -/
def joined (errs : List Err) : Except Err Unit :=
  match GoError.joinAll errs with
  | none => .ok ()
  | some err => .error err

theorem joined_eq_ok {errs : List Err} (ok : joined errs = .ok ()) : errs = [] := by
  unfold joined at ok
  split at ok
  · rename_i none
    exact GoError.joinAll_eq_none.mp none
  · cases ok

def rollbackPayload : DiskProg (Except Err Unit) := do
  match ← mountData .withoutCancel attached mnt with
  | .error err => pure (.error err)
  | .ok _ => do
    let dropped ← dropPrivacyGrants mnt opts
    let errs ← removePayload mnt files
    let _ ← umount .rollbackPayload .withoutCancel mnt
    pure (joined (dropErrors dropped ++ errs))

def fixOwnership : DiskProg (Except Err Unit) := do
  match ← mkdirTemp "" "vee-owners-" with
  | .error text => pure (.error (.text text))
  | .ok mnt => do
    let answer ← sudoScript attached.data mnt files
    rmdir mnt
    match answer with
    | .ok _ => pure (.ok ())
    | .error text =>
      pure (.error (.wrap "set guest file ownership: " (.text text)
        (" — launchd only loads root-owned daemons, so this step needs sudo; re-run " ++
          "\x60vee create\x60, or pass --skip-first-boot and provision the guest at its display")))

/-! ### Patch -/

/-- The part of `Patch` that ends with the unmount of the volume. -/
def unmountData : DiskProg (Except Err Unit) := do
  match ← umount .patch .caller mnt with
  | .ok _ => pure (.ok ())
  | .error failure =>
    pure (.error (.wrap "unmount guest data volume: " (.text failure.err)
      ("\n" ++ String.ofList failure.out)))

/-- The part of `Patch` with the grants: a database that is missing or not known is only
reported. -/
def grantAndUnmount : DiskProg (Except Err Unit) := do
  match ← applyPrivacyGrants mnt opts with
  | .ok _ => unmountData mnt
  | .error err =>
    if err.is .noTCCDB || err.is .unknownTCCSchema then unmountData mnt else pure (.error err)

/-- The part of `Patch` on the mounted volume. -/
def patchMounted : DiskProg (Except Err Unit) := do
  match ← writePayload mnt files with
  | .error err => do
    undoPayload mnt files
    pure (.error err)
  | .ok _ => grantAndUnmount mnt opts

/-- The error of a patch that could not be rolled back. -/
def rollbackError (err rollbackErr : Err) : Err :=
  .wrap "" err (" (and rolling the guest changes back failed: " ++ errorText rollbackErr ++
    " — the guest may boot to a login window with no usable account; delete and recreate it)")

/-- The part of `Patch` behind the unmount. -/
def fixAndDetach : DiskProg (Except Err Unit) := do
  match ← fixOwnership attached files with
  | .error err => do
    match ← rollbackPayload attached mnt files opts with
    | .error rollbackErr => pure (.error (rollbackError err rollbackErr))
    | .ok _ => pure (.error err)
  | .ok _ => do
    match ← detachImage .patch .caller attached with
    | .error err => pure (.error (.wrap "" (.sentinel .guestDiskBusy) (": " ++ errorText err)))
    | .ok _ => pure (.ok ())

/-- `Patch` from the mount on, with the deferred unmount. -/
def patchVolume : DiskProg (Except Err Unit) := do
  match ← mountData .caller attached mnt with
  | .error err => pure (.error err)
  | .ok _ => do
    match ← patchMounted mnt files opts with
    | .error err => do
      let _ ← umount .deferred .withoutCancel mnt
      pure (.error err)
    | .ok _ => fixAndDetach attached mnt files opts

/-- `Patch` with a directory to mount on, which is removed in the end. -/
def patchOn (diskPath : String) (attached : AttachedDisk) (files : List PayloadFile)
    (opts : Options) : DiskProg (Except Err Unit) := do
  match ← mkdirTemp (String.ofList (dirPath diskPath.toList)) "mnt-" with
  | .error text => pure (.error (.text text))
  | .ok mnt => do
    let result ← patchVolume attached mnt files opts
    rmdir mnt
    pure result

/-- `Patch` with the image attached, which is released if it has not been. -/
def patchAttached (diskPath : String) (attached : AttachedDisk) (files : List PayloadFile)
    (opts : Options) : DiskProg (Except Err Unit) := do
  match ← patchOn diskPath attached files opts with
  | .ok _ => pure (.ok ())
  | .error err => do
    let _ ← detachImage .deferred .withoutCancel attached
    pure (.error err)

/-- The password of the account. -/
def choosePassword : DiskProg (Except Err String) := do
  if opts.password = "" then
    let answer ← password
    pure (answer.mapError .text)
  else pure (.ok opts.password)

section Main

variable (site : Site) (diskPath : String)

/-- `Patch` with the script. -/
def patchWith (opts : Options) (script : String) : DiskProg (Except Err Unit) := do
  match ← attachImage site diskPath with
  | .error err => pure (.error err)
  | .ok attached =>
    patchAttached diskPath attached (payloadFiles script (renderSudoers opts.user)) opts

/-- `Patch` with the password. -/
def patchUsing (opts : Options) (password : String) : DiskProg (Except Err String) :=
  match site.renderFirstBootScript opts password with
  | .error text => pure (.error (.text text))
  | .ok script => do
    match ← patchWith site diskPath opts script with
    | .error err => pure (.error err)
    | .ok _ => pure (.ok password)

/-- `Patch`; the result is the password. -/
def patch (opts : Options) : DiskProg (Except Err String) :=
  match opts.validate with
  | .error text => pure (.error (.text text))
  | .ok _ => do
    match ← choosePassword opts with
    | .error err => pure (.error err)
    | .ok password => patchUsing site diskPath opts password

/-- The unmount of `releaseGuestDisk`. -/
def releaseVolume : DiskProg (List Err) := do
  if mnt = "" then pure []
  else
    match ← umount .releaseGuestDisk .withoutCancel mnt with
    | .ok _ => do
      rmdir mnt
      pure []
    | .error failure =>
      pure [.wrap "" (.sentinel .guestDiskBusy)
        (": unmount " ++ mnt ++ ": " ++ failure.err ++ detail failure.out)]

def releaseGuestDisk : DiskProg (Except Err Unit) := do
  let errs ← releaseVolume mnt
  match ← detachImage .releaseGuestDisk .withoutCancel attached with
  | .error err =>
    pure (joined (errs ++ [.wrap "" (.sentinel .guestDiskBusy) (": " ++ errorText err)]))
  | .ok _ => pure (joined errs)

/-- `errors.Join` of an error and the result of a release. -/
def joinRelease (err : Err) : Except Err Unit → Err
  | .error busy => .join err busy
  | .ok _ => err

/-- `EnsureScreenSharingGrants` on the mounted volume. -/
def grantAndRelease : DiskProg (Except Err Bool) := do
  let granted ← grantMissingScreenSharing mnt
  match ← releaseGuestDisk attached mnt with
  | .error busy =>
    match granted with
    | .error err => pure (.error (.join err busy))
    | .ok _ => pure (.error busy)
  | .ok _ => pure granted

/-- `EnsureScreenSharingGrants` with the image attached. -/
def grantAttached (attached : AttachedDisk) : DiskProg (Except Err Bool) := do
  match ← mkdirTemp (String.ofList (dirPath diskPath.toList)) "tcc-" with
  | .error text => do
    let released ← releaseGuestDisk attached ""
    pure (.error (joinRelease (.text text) released))
  | .ok mnt => do
    match ← mountData .caller attached mnt with
    | .error err => do
      rmdir mnt
      let released ← releaseGuestDisk attached ""
      pure (.error (joinRelease err released))
    | .ok _ => grantAndRelease attached mnt

def ensureScreenSharingGrants : DiskProg (Except Err Bool) := do
  match ← attachImage site diskPath with
  | .error err => pure (.error err)
  | .ok attached => grantAttached diskPath attached

end Main

/-! ### The host -/

/-- Who owns a file of the guest. -/
inductive Owner where
  | root
  | other
  deriving DecidableEq, Repr

/-- A file on the data volume of the guest. -/
structure GuestFile where
  owner : Owner
  /-- This run has written it. -/
  written : Bool

/-- The image and its data volume, and whether the caller's context is cancelled. -/
structure DiskWorld where
  files : String → Option GuestFile := fun _ => none
  /-- The device nodes of the image while it is attached. -/
  image : Option (List Text) := none
  mounts : List String := []
  cancelled : Bool := false

/-- The host's choices at a call: that the context is cancelled before it, that it fails, and
what it comes to. -/
structure Answer where
  cancel : Bool := false
  fail : Option String := none
  out : Text := []
  name : String := ""
  nodes : List Text := []
  count : Nat := 0
  partly : Bool := false

namespace DiskWorld

def failure (w : DiskWorld) (ctx : Context) (ans : Answer) : Option String :=
  if ctx = .caller ∧ w.cancelled then some (ans.fail.getD "context canceled") else ans.fail

/-- A call that succeeds or fails as the host likes. -/
def report (failed : Option String) : Except String Unit :=
  match failed with
  | some text => .error text
  | none => .ok ()

def put (w : DiskWorld) (path : String) (file : Option GuestFile) : DiskWorld :=
  { w with files := fun other => if other = path then file else w.files other }

/-- The file gets its owner; where there is none, nothing happens. -/
def own (w : DiskWorld) (path : String) : DiskWorld :=
  w.put path ((w.files path).map fun file => { file with owner := .root })

/-- The files that a script has come to. -/
def ownAll (w : DiskWorld) (files : List PayloadFile) : DiskWorld :=
  files.foldl (fun w f => w.own f.path) w

/-- A write on the volume that is mounted there. -/
def written (w : DiskWorld) (mnt path : String) : DiskWorld :=
  if mnt ∈ w.mounts then w.put path (some ⟨.other, true⟩) else w

/-- The file that a path on this mount point names. -/
def fileAt (w : DiskWorld) (mnt path : String) : Option GuestFile :=
  if mnt ∈ w.mounts then w.files path else none

/-- What a call does, when the context is cancelled or not as the world says. -/
def step (op : DiskOp) (ans : Answer) (w : DiskWorld) : op.Res × DiskWorld :=
  match op with
  | .password | .mkdirTemp _ _ =>
    match ans.fail with
    | some text => (.error text, w)
    | none => (.ok ans.name, w)
  | .attach _ =>
    match w.failure .caller ans with
    | some text => (.error ⟨text, ans.out⟩, w)
    | none => (.ok ans.out, { w with image := some ans.nodes })
  | .backoff => (report (if w.cancelled then ans.fail else none), w)
  | .apfsList _ =>
    match w.failure .caller ans with
    | some text => (.error ⟨text, ans.out⟩, w)
    | none => (.ok ans.out, w)
  | .detach _ ctx dev =>
    match w.failure ctx ans with
    | some text => (.error text, w)
    | none =>
      if (w.image.getD []).contains dev then (.ok (), { w with image := none, mounts := [] })
      else (.error "not a device of the image", w)
  | .mount ctx _ mnt =>
    match w.failure ctx ans with
    | some text => (.error ⟨text, ans.out⟩, w)
    | none => (.ok (), { w with mounts := mnt :: w.mounts })
  | .umount _ ctx mnt =>
    match w.failure ctx ans with
    | some text => (.error ⟨text, ans.out⟩, w)
    | none => (.ok (), { w with mounts := w.mounts.filter (· ≠ mnt) })
  | .mkdirAll _ _ | .statTCC _ | .openTCC _ _ => (report ans.fail, w)
  | .write mnt f =>
    match ans.fail with
    | some text => (.error text, if ans.partly then w.written mnt f.path else w)
    | none => (.ok (), w.written mnt f.path)
  | .remove _ mnt path =>
    match ans.fail, w.fileAt mnt path with
    | some text, _ => (.error (.other text), w)
    | none, none => (.error .notExist, w)
    | none, some _ => (.ok (), w.put path none)
  | .statement ctx _ =>
    match w.failure ctx ans with
    | some text => (.error text, w)
    | none => (.ok ans.count, w)
  | .sudo _ mnt files =>
    let w' := if ans.partly then { w with mounts := mnt :: w.mounts } else w
    match w.failure .caller ans with
    | some text => (.error text, w'.ownAll (files.take ans.count))
    | none => (.ok (), w'.ownAll files)
  | .rmdir _ | .chmod _ _ | .closeTCC _ => ((), w)

def exec (op : DiskOp) (ans : Answer) (w : DiskWorld) : op.Res × DiskWorld :=
  step op ans { w with cancelled := w.cancelled || ans.cancel }

end DiskWorld

def diskHost : Machine DiskOp DiskOp.Res DiskWorld where
  Ans := Answer
  exec _ op ans w := some (w.exec op ans)

end Vee.Firstboot
