import Vee.Misc.GoText
import Vee.Misc.Newest

/-!
# Cached restore images

The search for the newest restore image in the cache (`internal/images/macos.go`), which is
used when the latest one cannot be looked up.
-/

namespace Vee.Images

/-- The name of a file in a directory. -/
abbrev FileName := { name : Text // '/' ∉ name }

/-- The names that the pattern `UniversalMac_*_Restore.ipsw` matches. -/
def isRestoreImage (name : FileName) : Bool :=
  match "UniversalMac_".toList.isPrefixOf? name.1 with
  | some rest => "_Restore.ipsw".toList.isSuffixOf rest
  | none => false

/-- `filepath.Glob` with this pattern in a directory of these files. -/
def globRestoreImages (dir : Text) (names : List FileName) : List Text :=
  (names.filter isRestoreImage).map fun name => joinElements [dir, name.1]

/-- `newestCached`; empty if there is none. -/
def newestCached (dir : Text) (names : List FileName) : Text :=
  greatest [] ((globRestoreImages dir names).map basePath)

def macOSVersionFromFilename (base : Text) : Text :=
  match base.splitOn '_' with
  | first :: version :: _ =>
    if "UniversalMac".toList.isPrefixOf first then version else withoutExtension
  | _ => withoutExtension
where
  withoutExtension : Text :=
    if ".ipsw".toList.isSuffixOf base then base.take (base.length - ".ipsw".length) else base

end Vee.Images
