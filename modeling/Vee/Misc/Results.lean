import Mathlib.Data.List.Basic
import Mathlib.Data.List.Forall2

/-!
# Successful results

What a success of a chain of fallible steps says about each of them.
-/

namespace Vee

open List

variable {ε α β : Type}

theorem exists_of_bind_eq_ok {first : Except ε α} {rest : α → Except ε β} {value : β}
    (done : (first >>= rest) = .ok value) : ∃ a, first = .ok a ∧ rest a = .ok value := by
  cases first with
  | error e => cases done
  | ok a => exact ⟨a, rfl, done⟩

/-- A test of the error of a result. -/
def failsWith (test : ε → Bool) : Except ε α → Bool
  | .ok _ => false
  | .error e => test e

theorem failsWith_iff {test : ε → Bool} {result : Except ε α} :
    failsWith test result = true ↔ ∃ e, result = .error e ∧ test e = true := by
  cases result with
  | ok value => simp [failsWith]
  | error e => simp [failsWith]

variable {f : α → Except ε β} {xs : List α} {ys : List β}

theorem exists_of_mem_forall₂ {R : α → β → Prop} (related : Forall₂ R xs ys) {y : β}
    (mem : y ∈ ys) : ∃ x ∈ xs, R x y := by
  induction related with
  | nil => cases mem
  | cons head _ ih =>
    rcases mem_cons.mp mem with rfl | later
    · exact ⟨_, mem_cons_self, head⟩
    · obtain ⟨x, listed, holds⟩ := ih later
      exact ⟨x, mem_cons_of_mem _ listed, holds⟩

section

variable (done : xs.mapM f = .ok ys)

include done

theorem forall₂_of_mapM_eq_ok : Forall₂ (fun x y => f x = .ok y) xs ys := by
  induction xs generalizing ys with
  | nil =>
    cases done
    exact .nil
  | cons x xs ih =>
    rw [mapM_cons] at done
    obtain ⟨y, first, done⟩ := exists_of_bind_eq_ok done
    obtain ⟨ys', rest, done⟩ := exists_of_bind_eq_ok done
    cases done
    exact .cons first (ih rest)

/-- The results of a successful `mapM` come from the entries, one from each. -/
theorem of_mapM_eq_ok : ys.length = xs.length ∧ ∀ y ∈ ys, ∃ x ∈ xs, f x = .ok y :=
  ⟨(forall₂_of_mapM_eq_ok done).length_eq.symm,
    fun _ => exists_of_mem_forall₂ (forall₂_of_mapM_eq_ok done)⟩

end

end Vee
