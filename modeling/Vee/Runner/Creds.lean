import Vee.Misc.Base64
import Vee.Misc.GoText

/-!
# Restoring the credentials of a runner

`Restore` of `internal/runnercreds/store.go` from the decrypted archive on, given by its entries,
and the commands that `internal/templates/runner.go` makes of its result; they run as root in the
recreated VM.
-/

namespace Vee.Runner

def credFiles : List String := [".credentials", ".credentials_rsaparams", ".runner"]

/-- An entry of the archive, with the content or the error of reading it. -/
structure TarEntry where
  name : Text
  regular : Bool
  mode : Int
  content : Except String (List UInt8)

/-- The archive, and the error behind its last entry if there is one. -/
structure Archive where
  entries : List TarEntry
  failure : Option String := none

structure RestoredFile where
  relPath : Text
  content : List UInt8
  mode : Int

/-- The loop of `Restore`: the regular entries under their cleaned names. -/
def restoredFiles : List TarEntry → Except String (List RestoredFile)
  | [] => .ok []
  | entry :: rest =>
    if !entry.regular then restoredFiles rest
    else
      match entry.content with
      | .error text => .error ("read tar file " ++ String.ofList entry.name ++ ": " ++ text)
      | .ok content =>
        (restoredFiles rest).map (⟨cleanPath entry.name, content, entry.mode⟩ :: ·)

/-- `Restore` with the archive that it has decrypted from `path`. -/
def restore (path : String) (archive : Archive) : Except String (List RestoredFile) :=
  match restoredFiles archive.entries with
  | .error text => .error text
  | .ok files =>
    match archive.failure with
    | some text => .error ("read tar entry: " ++ text)
    | none =>
      if files = [] then .error ("snapshot " ++ path ++ " decrypted to no files") else .ok files

/-- The command that writes one file. -/
def restoreCommand (file : RestoredFile) : Text :=
  "printf %s ".toList ++ (goQuote (String.ofList (Base64.encode file.content))).toList ++
    " | base64 -d > /opt/actions-runner/".toList ++ file.relPath

/-- The part of the first-boot commands that restores a runner. -/
def restoreCommands (files : List RestoredFile) : List Text :=
  files.map restoreCommand ++
    ["chown -R runner:runner /opt/actions-runner".toList,
      "chmod 600 /opt/actions-runner/.credentials /opt/actions-runner/.runner".toList]

end Vee.Runner
