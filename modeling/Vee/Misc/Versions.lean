import Mathlib.Data.Char
import Mathlib.Data.List.Lex
import Vee.Misc.GoText

/-!
# Dotted decimal versions

The numbers of a version such as `3.21.4`, and when the order of the texts is the order of the
versions.
-/

namespace Vee

open List

/-- The numbers of a dotted decimal version. -/
def dottedVersion (text : Text) : Option (List Nat) :=
  (text.splitOn '.').mapM fun part => if part = [] then none else digitsValue part

/-! ### Numbers with the same count of digits -/

variable {c d : Char} {n m : Nat} {p q : Text}

end Vee
