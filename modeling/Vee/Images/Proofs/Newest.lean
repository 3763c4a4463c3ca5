import Vee.Images.MacOS
import Vee.Images.Mirrors
import Vee.Images.Proofs.Verified
import Vee.Misc.GoPath
import Vee.Misc.Versions

/-!
# The newest image

Three searches take the last name in the order of texts for the newest one. That is not the order
of versions: `3.21.10` stands before `3.21.9`, and for macOS, whose versions end with an underscore,
`14.6` stands behind `14.6.1`.
-/

namespace Vee.Images

open List

/-- The version that stands between a beginning and a hyphen. -/
def versionBehind (start name : Text) : Option (List Nat) :=
  (start.isPrefixOf? name).bind fun rest => dottedVersion (rest.takeWhile (· ≠ '-'))

namespace UbuntuImage

variable (u : UbuntuImage)

end UbuntuImage

/-- One of the three searches and what it searches in. -/
inductive Search where
  | ubuntu (u : UbuntuImage) (resolvedName sums : Text)
  | alpine (a : AlpineImage) (body : Text)
  | macOS (dir : Text) (names : List FileName)

namespace Search

/-- The name that the search starts from. An Ubuntu image keeps the name that was resolved
before. -/
def start : Search → Text
  | .ubuntu _ resolvedName _ => resolvedName
  | .alpine _ _ | .macOS _ _ => []

def selected : Search → Option Text
  | .ubuntu u resolvedName sums =>
    let newest := u.newestISO sums resolvedName
    if newest.1 = [] ∨ newest.2 = [] then none else some newest.1
  | .alpine _ body =>
    if AlpineImage.newestImage body = [] then none else some (AlpineImage.newestImage body)
  | .macOS dir names => if newestCached dir names = [] then none else some (newestCached dir names)

def version : Search → Text → Option (List Nat)
  | .ubuntu _ _ _ => versionBehind "ubuntu-".toList
  | .alpine _ _ => versionBehind "nocloud_alpine-".toList
  | .macOS _ _ => fun name => dottedVersion (macOSVersionFromFilename name)

variable (s : Search)

/-- What stands in front of a version. -/
def nameStart : Search → Text
  | .ubuntu _ _ _ => "ubuntu-".toList
  | .alpine _ _ => "nocloud_alpine-".toList
  | .macOS _ _ => "UniversalMac_".toList

/-- What ends a version. A hyphen is less than a dot, an underscore is not. -/
def versionEnd : Search → Char
  | .ubuntu _ _ _ | .alpine _ _ => '-'
  | .macOS _ _ => '_'

/-- The texts of the numbers of the version in a name. -/
def numbers (name : Text) : List Text :=
  ((name.drop s.nameStart.length).takeWhile (· ≠ s.versionEnd)).splitOn '.'

end Search

namespace Newest

variable {u : UbuntuImage} {found entry : Text × Text} {line : Text}

variable (a : AlpineImage) (target path : Text)

section Widths

variable {s : Search} {name other : Text} {v w : List Nat}

end Widths

end Newest

end Vee.Images
