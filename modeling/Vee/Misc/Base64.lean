import Mathlib.Data.List.GetD

/-!
# Base64

The standard encoding with padding.
-/

namespace Vee.Base64

/-- The digits, by their value. -/
def alphabet : List Char :=
  "ABCDEFGHIJKLMNOPQRSTUVWXYZabcdefghijklmnopqrstuvwxyz0123456789+/".toList

def digit (value : Nat) : Char := alphabet.getD value 'A'

def encode : List UInt8 → List Char
  | [] => []
  | [a] => [digit (a.toNat / 4), digit (a.toNat % 4 * 16), '=', '=']
  | [a, b] =>
    [digit (a.toNat / 4), digit (a.toNat % 4 * 16 + b.toNat / 16), digit (b.toNat % 16 * 4), '=']
  | a :: b :: c :: rest =>
    digit (a.toNat / 4) :: digit (a.toNat % 4 * 16 + b.toNat / 16) ::
      digit (b.toNat % 16 * 4 + c.toNat / 64) :: digit (c.toNat % 64) :: encode rest

theorem digit_mem (value : Nat) : digit value ∈ alphabet := by
  unfold digit
  by_cases small : value < alphabet.length
  · rw [List.getD_eq_getElem _ _ small]
    exact List.getElem_mem small
  · rw [List.getD_eq_default _ _ (by omega)]
    decide

theorem encode_forall (holds : Char → Bool) (digits : alphabet.all holds = true)
    (padding : holds '=' = true) (bytes : List UInt8) : ∀ c ∈ encode bytes, holds c = true := by
  have each : ∀ value, holds (digit value) = true :=
    fun value => List.all_eq_true.mp digits _ (digit_mem value)
  fun_induction encode bytes with
  | case1 => simp
  | case2 a => simp [each, padding]
  | case3 a b => simp [each, padding]
  | case4 a b c rest ih => simpa [each] using ih

end Vee.Base64
