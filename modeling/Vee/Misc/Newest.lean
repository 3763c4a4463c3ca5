import Mathlib.Order.RelClasses

/-!
# The greatest element that a loop finds

A loop that keeps the element with the greatest key it has met, starting from a given one.
-/

namespace Vee

variable {α β : Type} [LT α] [DecidableLT α]

/-- The element with the greatest key among a first one and those of a list; the earliest one if
there are several. -/
def greatestBy (key : β → α) (first : β) (xs : List β) : β :=
  xs.foldl (fun newest x => if key newest < key x then x else newest) first

/-- The greatest element of a list and a first element. -/
def greatest (first : α) (xs : List α) : α := greatestBy id first xs

variable (key : β → α) (first : β) (xs : List β)

theorem greatestBy_cons (x : β) (xs : List β) : greatestBy key first (x :: xs) =
      greatestBy key (if key first < key x then x else first) xs := rfl

theorem greatestBy_mem : greatestBy key first xs = first ∨ greatestBy key first xs ∈ xs := by
  induction xs generalizing first with
  | nil => exact .inl rfl
  | cons x xs ih =>
    rw [greatestBy_cons]
    split
    · rcases ih x with same | mem
      · rw [same]
        exact .inr List.mem_cons_self
      · exact .inr (List.mem_cons_of_mem x mem)
    · exact (ih first).imp_right (List.mem_cons_of_mem x)

theorem greatest_mem (first : α) (xs : List α) :
    greatest first xs = first ∨ greatest first xs ∈ xs := greatestBy_mem id first xs

section Order

variable [IsStrictTotalOrder α (· < ·)]

end Order

end Vee
