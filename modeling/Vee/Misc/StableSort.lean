import Mathlib.Data.List.Sort

/-!
# Stable sorting

Insertion sort keeps the order of equal elements, so sorting commutes with picking out a
part of a list.
-/

namespace Vee

open List

variable {α : Type} {r : α → α → Prop} [DecidableRel r]

theorem filter_orderedInsert_of_false {p : α → Bool} {a : α} (dropped : p a = false)
    (l : List α) : (l.orderedInsert r a).filter p = l.filter p := by
  induction l with
  | nil => simp [dropped]
  | cons b l ih =>
    by_cases before : r a b
    · simp [before, dropped]
    · simp [before, filter_cons, ih]

theorem orderedInsert_of_all {a : α} {l : List α} (behind : ∀ b ∈ l, r a b) :
    l.orderedInsert r a = a :: l := by
  cases l with
  | nil => rfl
  | cons b l => exact orderedInsert_cons_of_le r l (behind b mem_cons_self)

theorem filter_orderedInsert_of_true [IsTrans α r] {p : α → Bool} {a : α} (kept : p a = true)
    {l : List α} (sorted : l.Pairwise r) :
    (l.orderedInsert r a).filter p = (l.filter p).orderedInsert r a := by
  induction l with
  | nil => simp [kept]
  | cons b l ih =>
    obtain ⟨first, rest⟩ := pairwise_cons.mp sorted
    by_cases before : r a b
    · -- what is kept of the list also stands behind `a`
      have behind : ∀ c ∈ (b :: l).filter p, r a c := by
        intro c mem
        rcases mem_cons.mp (mem_of_mem_filter mem) with rfl | later
        · exact before
        · exact IsTrans.trans a b c before (first c later)
      rw [orderedInsert_of_all behind, orderedInsert_cons_of_le r l before, filter_cons_of_pos kept]
    · by_cases keptHead : p b
      · simp [before, keptHead, ih rest]
      · simp [before, keptHead, ih rest]

theorem filter_insertionSort [Std.Total r] [IsTrans α r] (p : α → Bool) (l : List α) :
    (l.insertionSort r).filter p = (l.filter p).insertionSort r := by
  induction l with
  | nil => rfl
  | cons a l ih =>
    rw [insertionSort_cons]
    cases kept : p a with
    | true =>
      rw [filter_orderedInsert_of_true kept (pairwise_insertionSort r l), ih,
        filter_cons_of_pos kept, insertionSort_cons]
    | false =>
      rw [filter_orderedInsert_of_false kept, ih, filter_cons_of_neg (by simp [kept])]

theorem insertionSort_insertionSort [Std.Total r] [IsTrans α r] (l : List α) :
    (l.insertionSort r).insertionSort r = l.insertionSort r :=
  (pairwise_insertionSort r l).insertionSort_eq

end Vee
