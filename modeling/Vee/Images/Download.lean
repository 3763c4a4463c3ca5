import Vee.Images.Cache

/-!
# Downloads

`Download` of `UbuntuImage`, `UbuntuCloudImage` (`internal/images/ubuntu.go`) and
`TrueNASImage` (`internal/images/truenas.go`), and sequences of them.
-/

namespace Vee.Images

open Prog (attempt forEach orThrow)

/-- `CreateImage`: what arrives of a body is written as it comes in. -/
def createImage (path : Text) (broken : Option String) : List Text → Fetch Unit
  | [] =>
    match broken with
    | some text => throw text
    | none => pure ()
  | chunk :: chunks => do
    orThrow "" (← ask (.write path chunk))
    createImage path broken chunks

/-- The last part of each `Download`: the body goes to the file, and the file is
compared with the published checksum. -/
def saveVerified (basePath path targetChecksum : Text) (resp : Response) : Fetch Unit := do
  orThrow "" (← ask (.mkdirAll basePath))
  orThrow "" (← ask (.create path))
  createImage path resp.broken resp.chunks
  let sha256 ← orThrow "" (← ask (.sha256sum path))
  if sha256 ≠ targetChecksum then
    throw ("checksum mismatch: expected " ++ String.ofList targetChecksum ++ ", got " ++
      String.ofList sha256)
  else
    pure ()

/-- The check of a file that exists: it is kept if its digest is the published one, and
removed and fetched again otherwise. -/
def recheck (path targetChecksum : Text) (fetch : Fetch Unit) : Fetch Unit := do
  let sha256 ← orThrow "" (← ask (.sha256sum path))
  if sha256 = targetChecksum then
    pure ()
  else
    orThrow "" (← ask (.remove path))
    fetch

/-- `strings.TrimPrefix(name, "*")`. -/
def trimStar : Text → Text
  | '*' :: name => name
  | name => name

namespace UbuntuImage

variable (u : UbuntuImage)

/-- One line of `SHA256SUMS`, for the newest name so far and its checksum. -/
def considerLine (found : Text × Text) (line : Text) : Text × Text :=
  match goFields line with
  | [digest, file] =>
    let fname := trimStar file
    if !("ubuntu-".toList ++ u.version).isPrefixOf fname ||
      !u.nameSuffix.isSuffixOf fname then found
    else if found.1 < fname then (fname, digest)
    else found
  | _ => found

/-- The newest ISO of `SHA256SUMS` and its checksum. The search starts at the name that
the image value already has. -/
def newestISO (sums resolvedName : Text) : Text × Text :=
  (sums.splitOn '\n').foldl u.considerLine (resolvedName, [])

def download (object : Nat) : Fetch Unit := do
  let resolvedName ← ask (.resolvedName object)
  if ← ask (.stat (u.absolutePath resolvedName)) then
    pure ()
  else
    let resp ← orThrow "" (← ask (.get u.checksumURL))
    if resp.status ≠ 200 then
      throw ("ubuntu: fetch checksums " ++ String.ofList u.checksumURL ++ ": HTTP " ++
        toString resp.status)
    else
      let sums ← orThrow "" resp.readAll
      let newest := u.newestISO sums resolvedName
      ask (.resolve object newest.1)
      if newest.1 = [] ∨ newest.2 = [] then
        throw ("no " ++ String.ofList u.imageType.text ++ " ISO found for ubuntu " ++
          String.ofList u.version ++ " in " ++ String.ofList u.checksumURL)
      else if ← ask (.stat (u.absolutePath newest.1)) then
        pure ()
      else
        let resp ← orThrow "" (← ask (.get (u.isoURL newest.1)))
        if resp.status ≠ 200 then
          throw ("ubuntu: fetch ISO " ++ String.ofList (u.isoURL newest.1) ++ ": HTTP " ++
            toString resp.status)
        else
          saveVerified u.basePath (u.absolutePath newest.1) newest.2 resp

end UbuntuImage

namespace UbuntuCloudImage

variable (u : UbuntuCloudImage)

/-- The first line of `SHA256SUMS` in which the image's name occurs. -/
def sumsLine (sums : Text) : Option Text :=
  (sums.splitOn '\n').find? (containsText · u.name)

/-- The checksum that is read from `SHA256SUMS`; empty if there is none. -/
def targetChecksum (sums : Text) : Text :=
  match u.sumsLine sums with
  | some line => (goFields line).headD []
  | none => []

/-- The rest of `Download` once the checksum is known and the file is not there. -/
def fetchImage (targetChecksum : Text) : Fetch Unit := do
  -- the status of this response is not looked at
  let resp ← orThrow "" (← ask (.get u.imgURL))
  saveVerified u.basePath u.absolutePath targetChecksum resp

def download : Fetch Unit := do
  if ← ask (.stat u.absolutePath) then
    pure ()
  else
    let resp ← orThrow "" (← ask (.get u.checksumURL))
    let sums ← orThrow "" resp.readAll
    if u.targetChecksum sums = [] then
      throw ("checksum not found for " ++ String.ofList u.name)
    else if ← ask (.stat u.absolutePath) then
      recheck u.absolutePath (u.targetChecksum sums) (u.fetchImage (u.targetChecksum sums))
    else
      u.fetchImage (u.targetChecksum sums)

end UbuntuCloudImage

namespace TrueNASImage

variable (t : TrueNASImage)

def fetchRemoteChecksum : Fetch Text := do
  let cn ← orThrow "" t.codename
  let resp ← orThrow "" (← ask (.get (t.checksumURL cn)))
  if resp.status ≠ 200 then
    throw ("fetching checksum: unexpected status " ++ resp.statusText ++ " from " ++
      String.ofList (t.checksumURL cn))
  else
    let b ← orThrow "" resp.readAll
    match goFields b with
    | [] => throw ("checksum not found for " ++ String.ofList t.name)
    | digest :: _ => pure digest

/-- The rest of `Download` once the file is not there. -/
def fetchImage : Fetch Unit := do
  let targetChecksum ← t.fetchRemoteChecksum
  let cn ← orThrow "" t.codename
  let resp ← orThrow "" (← ask (.get (t.isoURL cn)))
  if resp.status ≠ 200 then
    throw ("downloading ISO: unexpected status " ++ resp.statusText)
  else
    saveVerified t.basePath t.absolutePath targetChecksum resp

def download : Fetch Unit := do
  if ← ask (.stat t.absolutePath) then
    match ← attempt t.fetchRemoteChecksum with
    -- the checksum is unavailable: the file is trusted
    | .error _ => pure ()
    | .ok targetChecksum => recheck t.absolutePath targetChecksum t.fetchImage
  else
    t.fetchImage

end TrueNASImage

/-- `Download` of the image value number `object`. -/
def Image.download (object : Nat) : Image → Fetch Unit
  | .ubuntu u => u.download object
  | .ubuntuCloud u => u.download
  | .trueNAS t => t.download

/-- A call of `Download`, which may be killed before one of its calls to the host. -/
structure Attempt where
  object : Nat
  image : Image
  killed : Option Nat := none

/-- What an attempt does before it ends or is killed. -/
def Attempt.prog (a : Attempt) : Fetch Unit :=
  match a.killed with
  | some n => (a.image.download a.object).cut n
  | none => a.image.download a.object

def Attempt.run (a : Attempt) : Fetch Unit := do
  ask (.enter a.image)
  let result ← attempt a.prog
  ask (.leave a.object a.image result.isOk)

def downloads (attempts : List Attempt) : Fetch Unit := do
  let _ ← forEach Attempt.run attempts

end Vee.Images
