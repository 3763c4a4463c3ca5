import Vee.Misc.GoText

/-!
# CPU pinning

`ParseCPUPinning` of `internal/vm/cpupinning.go`.
-/

namespace Vee.CPUPinning

/-- The error for a part that is not a CPU. -/
def invalidIndex (part : Text) : String :=
  "invalid CPU index " ++ goQuote (String.ofList part) ++ ": must be a non-negative integer"

/-- The loop of `ParseCPUPinning`, with the keys of `seen`. -/
def parseParts : List Text → List Int → List Int → Except String (List Int)
  | [], _, out => .ok out
  | part :: rest, seen, out =>
    let part := trimSpace part
    if part = [] then parseParts rest seen out
    else
      match parseInt64 part with
      | none => .error (invalidIndex part)
      | some n =>
        if n < 0 then .error (invalidIndex part)
        else if n ∈ seen then parseParts rest seen out
        else parseParts rest (n :: seen) (out ++ [n])

def parseCPUPinning (s : Text) : Except String (List Int) :=
  let s := trimSpace s
  if s = [] then .ok [] else parseParts (s.splitOn ',') [] []

end Vee.CPUPinning
