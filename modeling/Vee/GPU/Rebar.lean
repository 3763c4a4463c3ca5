import Vee.QEMU.VFIO

/-!
# Resizable BARs

`parseMemoryBytes` of `internal/gpu/preflight.go` and the sizes of `internal/gpu/rebar.go`.
-/

namespace Vee.GPU

/-- The units that `parseMemoryBytes` knows. -/
def memoryUnit : Char → Option Nat
  | 'G' | 'g' => some (1024 * 1024 * 1024)
  | 'M' | 'm' => some (1024 * 1024)
  | 'K' | 'k' => some 1024
  | _ => none

/-- `parseMemoryBytes`; the product wraps as a `uint64`. -/
def parseMemoryBytes (s : String) : Except String Nat :=
  let trimmed := trimSpace s.toList
  match trimmed.getLast? with
  | none => .error "empty memory string"
  | some suffix =>
    match memoryUnit suffix with
    | some unit => (parseUint trimmed.dropLast).map fun n => n * unit % 2 ^ 64
    | none => parseUint trimmed

/-- `bits.TrailingZeros64`. -/
def trailingZeros64 (b : Nat) : Nat := ((List.range 64).find? b.testBit).getD 64

/-- A size as the exponent of its MiB. -/
def parseRebarSize (s : String) : Except String Int :=
  match parseMemoryBytes s with
  | .error text => .error ("invalid size " ++ goQuote s ++ ": " ++ text)
  | .ok b =>
    let mib := 2 ^ 20
    if b < mib ∨ b % mib ≠ 0 then .error ("size " ++ goQuote s ++ " must be a multiple of 1M")
    else if b &&& (b - 1) ≠ 0 then .error ("size " ++ goQuote s ++ " must be a power of two")
    else .ok (trailingZeros64 b - 20)

end Vee.GPU
