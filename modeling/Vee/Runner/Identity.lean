import Vee.Misc.Program
import Vee.Runner.Creds

/-!
# The identity of the host and the snapshots of its runners

`LoadOrCreateIdentity` and `writeSecret` of `internal/runnercreds/age.go`, and `Snapshot` and
`Restore` of `internal/runnercreds/store.go`, call by call, so that processes can get in between.
A temporary file is created exclusively under a random name, so nobody else has it open; its
content is given by the rename that installs it.
-/

namespace Vee.Runner

/-- `age.X25519Identity`. -/
structure Identity where
  secret : Nat
  deriving DecidableEq, Repr

/-- `age.X25519Recipient`. -/
structure Recipient where
  identity : Identity
  deriving DecidableEq, Repr

/-- `Recipient` of an identity. -/
def Identity.recipient (id : Identity) : Recipient := ⟨id⟩

/-- An archive that has been encrypted to a recipient. -/
structure Sealed where
  recipient : Recipient
  archive : List UInt8
  deriving DecidableEq, Repr

/-- What is in a file under `~/.vee`. -/
inductive Secret where
  | identity (id : Identity)
  | snapshot (enc : Sealed)
  deriving DecidableEq, Repr

/-- `age.Decrypt`, and what is assumed about it. -/
structure Age where
  decrypt : Identity → Secret → Except String (List UInt8)
  opens : ∀ id archive, decrypt id (.snapshot ⟨id.recipient, archive⟩) = .ok archive

/-- The home directory, the age library, and how the archive of a guest is read. -/
structure Site where
  home : String
  age : Age
  decodeBase64 : Text → Except String (List UInt8)
  readTar : List UInt8 → Archive

namespace Site

variable (site : Site)

/-- `~/.vee/age/identity.txt`. -/
def identityFile : String := joinPath [joinPath [site.home, ".vee", "age"], "identity.txt"]

/-- `~/.vee/runner-creds/<name>.age`. -/
def snapshotFile (name : String) : String :=
  joinPath [joinPath [site.home, ".vee", "runner-creds"], name ++ ".age"]

end Site

/-- Why a file could not be read. -/
inductive ReadError where
  | notExist
  | other (text : String)

inductive CredOp where
  /-- A call that changes no file but directories and the process's own temporary file. -/
  | prepare (what : String)
  | readFile (path : String)
  | generate
  /-- A command on the guest. -/
  | output (remoteCmd : String)
  /-- Put the temporary file with this content in the place of another file. -/
  | rename (path : String) (content : Secret)
  /-- Remove the temporary file; errors are ignored. -/
  | remove

def CredOp.Res : CredOp → Type
  | .prepare _ | .rename _ _ => Except String Unit
  | .readFile _ => Except ReadError Secret
  | .generate => Except String Identity
  | .output _ => Except String Text
  | .remove => Unit

/-- A process that works with the credentials of a runner. -/
abbrev CredProg := Prog CredOp CredOp.Res

open Prog (ask orThrow)

def prepareCall (what : String) : CredProg (Except String Unit) := ask (CredOp.prepare what)

def readFile (path : String) : CredProg (Except ReadError Secret) := ask (CredOp.readFile path)

def generate : CredProg (Except String Identity) := ask CredOp.generate

def output (remoteCmd : String) : CredProg (Except String Text) :=
  ask (CredOp.output remoteCmd)

def rename (path : String) (content : Secret) : CredProg (Except String Unit) :=
  ask (CredOp.rename path content)

def removeTemp : CredProg Unit := ask CredOp.remove

/-- A call that may fail, with the context of its error. -/
def prepare (what : String) : CredProg Unit := do
  let answer ← prepareCall what
  orThrow what answer

/-- A call on the temporary file, which is removed if the call fails. -/
def prepareTemp (what : String) : CredProg Unit := do
  match ← prepareCall what with
  | .ok _ => pure ()
  | .error text => do
    removeTemp
    throw (what ++ text)

def writeSecret : CredProg Unit := do
  prepare "temp nonce: "
  prepare "create secret temp: "
  prepareTemp "write secret temp: "
  prepareTemp "close secret temp: "

/-- The rename of a temporary file, which is removed if the rename fails. -/
def install (what path : String) (content : Secret) : CredProg Unit := do
  match ← rename path content with
  | .ok _ => pure ()
  | .error text => do
    removeTemp
    throw (what ++ text)

section Processes

variable (site : Site) (id : Identity) (name : String)

def ageDir : CredProg String := do
  prepare "home dir: "
  prepare "create age dir: "
  pure (joinPath [site.home, ".vee", "age"])

def identityPath : CredProg String := do
  let dir ← ageDir site
  pure (joinPath [dir, "identity.txt"])

/-- `age.GenerateX25519Identity`. -/
def generateIdentity : CredProg Identity := do
  let answer ← generate
  orThrow "generate age identity: " answer

/-- The first use: generate and persist a fresh identity. -/
def createIdentity (path : String) : CredProg Identity := do
  let id ← generateIdentity
  writeSecret
  install "install age identity: " path (.identity id)
  pure id

/-- Only a missing file leads to a new identity. -/
def loadOrCreateIdentity : CredProg Identity := do
  let path ← identityPath site
  match ← readFile path with
  | .ok (.identity id) => pure id
  | .ok (.snapshot _) => throw ("parse age identity " ++ path ++ ": malformed secret key")
  | .error .notExist => createIdentity path
  | .error (.other text) => throw ("read age identity " ++ path ++ ": " ++ text)

def snapshotsDir : CredProg String := do
  prepare "home dir: "
  prepare "create snapshots dir: "
  pure (joinPath [site.home, ".vee", "runner-creds"])

def snapshotPath : CredProg String := do
  let dir ← snapshotsDir site
  pure (joinPath [dir, name ++ ".age"])

/-- The command that probes whether the runner has registered. -/
def probe : String := "test -f /opt/actions-runner/.credentials"

/-- The command that sends the credential files. -/
def tarCmd : String :=
  "cd /opt/actions-runner && files=''; for f in " ++ " ".intercalate credFiles ++
    "; do [ -f \"$f\" ] && files=\"$files $f\"; done; sudo tar -cf - $files | base64 -w0"

/-- The probe; its own error is not passed on. -/
def probeRunner : CredProg Unit := do
  match ← output probe with
  | .ok _ => pure ()
  | .error _ => throw "runner not yet registered (no .credentials): file does not exist"

/-- The archive that the guest sends. -/
def pullArchive : CredProg (List UInt8) := do
  let answer ← output tarCmd
  let out ← orThrow "tar runner creds: " answer
  let archive ← orThrow "decode cred archive: " (site.decodeBase64 out)
  if archive = [] then throw "empty cred archive from guest" else pure archive

/-- `age.Encrypt` to the recipient of an identity. -/
def encryptArchive (archive : List UInt8) : CredProg Sealed := do
  prepare "age encrypt init: "
  prepare "age encrypt write: "
  prepare "age encrypt close: "
  pure ⟨id.recipient, archive⟩

def snapshot : CredProg Unit := do
  probeRunner
  let archive ← pullArchive site
  let enc ← encryptArchive id archive
  let dst ← snapshotPath site name
  writeSecret
  install "install cred snapshot: " dst (.snapshot enc)

/-- `Restore`. -/
def restoreCreds : CredProg (List RestoredFile) := do
  let path ← snapshotPath site name
  match ← readFile path with
  | .error .notExist => throw ("no runner snapshot at " ++ path ++ ": file does not exist")
  | .error (.other text) => throw ("read snapshot: " ++ text)
  | .ok enc => do
    let archive ← orThrow ("age decrypt " ++ path ++ " (wrong identity?): ")
      (site.age.decrypt id enc)
    prepare "read decrypted archive: "
    .done (restore path (site.readTar archive))

/-- What takes a snapshot of a runner. -/
def takeSnapshot : CredProg Unit := do
  let id ← loadOrCreateIdentity site
  snapshot site id name

/-- What brings a runner back. -/
def bringBack : CredProg (List RestoredFile) := do
  let id ← loadOrCreateIdentity site
  restoreCreds site id name

end Processes

/-- The files under `~/.vee` that are not temporary. -/
structure CredWorld where
  files : String → Option Secret := fun _ => none

/-- The host's choices: that a call succeeds, and with what, or why it fails. -/
inductive CredAns where
  | done
  | key (id : Identity)
  | text (out : Text)
  | fail (text : String)

namespace CredWorld

def read (w : CredWorld) (path : String) : Except ReadError Secret :=
  match w.files path with
  | some content => .ok content
  | none => .error .notExist

def put (w : CredWorld) (path : String) (content : Secret) : CredWorld :=
  ⟨fun other => if other = path then some content else w.files other⟩

def exec (op : CredOp) (ans : CredAns) (w : CredWorld) : Option (op.Res × CredWorld) :=
  match op, ans with
  | .prepare _, .done => some (.ok (), w)
  | .prepare _, .fail text => some (.error text, w)
  | .readFile path, .done => some (w.read path, w)
  | .readFile _, .fail text => some (.error (.other text), w)
  | .generate, .key id => some (.ok id, w)
  | .generate, .fail text => some (.error text, w)
  | .output _, .text out => some (.ok out, w)
  | .output _, .fail text => some (.error text, w)
  | .rename path content, .done => some (.ok (), w.put path content)
  | .rename _ _, .fail text => some (.error text, w)
  | .remove, .done => some ((), w)
  | _, _ => none

end CredWorld

/-- The host; nothing else writes to the files. -/
def credMachine : Machine CredOp CredOp.Res CredWorld where
  Ans := CredAns
  exec _ := CredWorld.exec

/-- Processes that take snapshots of these runners, on a host without an identity. -/
def credStart (site : Site) (names : List String) : Config CredOp CredOp.Res Unit CredWorld :=
  ⟨names.map (takeSnapshot site), {}⟩

end Vee.Runner
