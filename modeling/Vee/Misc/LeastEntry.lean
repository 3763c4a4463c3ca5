import Mathlib.Data.List.AList
import Mathlib.Data.List.Induction
import Mathlib.Order.Lattice

/-!
# Tables of least entries

A table that takes in elements one after the other, each under its label, and keeps for
each label the element with the least key.
-/

namespace Vee

open List

variable {α L K : Type} [LinearOrder K] (label : α → Option L) (key : α → K)

/-- The element has the label, and the least key among all that have it. -/
structure Least (xs : List α) (l : L) (a : α) : Prop where
  member : a ∈ xs
  labelled : label a = some l
  least : ∀ b ∈ xs, label b = some l → key a ≤ key b

/-- No two elements have the same key. -/
def KeysDistinct (xs : List α) : Prop := ∀ a ∈ xs, ∀ b ∈ xs, key a = key b → a = b

/-- What stands under a label: nothing only if no element has it. -/
def TableOf (xs : List α) (l : L) : Option α → Prop
  | none => ∀ b ∈ xs, label b ≠ some l
  | some a => Least label key xs l a

variable [DecidableEq L] in
/-- Take one element into the table. -/
def keepLeast (table : AList fun _ : L => α) (a : α) : AList fun _ : L => α :=
  match label a with
  | none => table
  | some l =>
    match table.lookup l with
    | some b => if key b < key a then table else table.insert l a
    | none => table.insert l a

variable {label key} {xs ys : List α} {l : L} {a : α}

theorem least_congr (same : ∀ x, x ∈ xs ↔ x ∈ ys) :
    Least label key xs l a ↔ Least label key ys l a := by
  constructor
  · intro least
    exact ⟨(same a).mp least.member, least.labelled, fun b mem => least.least b ((same b).mpr mem)⟩
  · intro least
    exact ⟨(same a).mpr least.member, least.labelled, fun b mem => least.least b ((same b).mp mem)⟩

theorem Least.unique {b : α} (distinct : KeysDistinct key xs) (first : Least label key xs l a)
    (second : Least label key xs l b) : a = b := by
  have same : key a = key b := le_antisymm (first.least b second.member second.labelled)
      (second.least a first.member first.labelled)
  exact distinct a first.member b second.member same

theorem least_filter_iff {kept : α → Bool} (beaten : ∀ a ∈ xs, kept a = false → label a = some l →
      ∃ b ∈ xs, kept b = true ∧ label b = some l ∧ key b < key a) :
    Least label key (xs.filter kept) l a ↔ Least label key xs l a := by
  constructor
  · intro least
    obtain ⟨mem, isKept⟩ := mem_filter.mp least.member
    refine ⟨mem, least.labelled, ?_⟩
    intro b inList labelled
    cases keptB : kept b with
    | true => exact least.least b (mem_filter.mpr ⟨inList, keptB⟩) labelled
    | false =>
      obtain ⟨b', inList', kept', labelled', smaller⟩ := beaten b inList keptB labelled
      have le := least.least b' (mem_filter.mpr ⟨inList', kept'⟩) labelled'
      exact le.trans smaller.le
  · intro least
    refine ⟨mem_filter.mpr ⟨least.member, ?_⟩, least.labelled, ?_⟩
    · by_contra notKept
      obtain ⟨b, inList, -, labelled, smaller⟩ :=
        beaten a least.member (Bool.not_eq_true _ ▸ notKept) least.labelled
      exact absurd (least.least b inList labelled) (not_le.mpr smaller)
    · intro b inFilter labelled
      exact least.least b (mem_of_mem_filter inFilter) labelled

theorem TableOf.skip {x : α} {entry : Option α} (other : label x ≠ some l)
    (before : TableOf label key xs l entry) : TableOf label key (xs ++ [x]) l entry := by
  have old : ∀ b ∈ xs ++ [x], label b = some l → b ∈ xs := by
    intro b mem labelled
    rcases mem_append.mp mem with earlier | last
    · exact earlier
    · rw [mem_singleton.mp last] at labelled
      exact absurd labelled other
  cases entry with
  | none =>
    intro b mem labelled
    exact before b (old b mem labelled) labelled
  | some a =>
    refine ⟨mem_append_left _ before.member, before.labelled, ?_⟩
    intro b mem labelled
    exact before.least b (old b mem labelled) labelled

variable [DecidableEq L]

/-- One more element, which takes its label over if no smaller key stands there. -/
theorem TableOf.take {x : α} {table : AList fun _ : L => α} (has : label x = some l)
    (before : TableOf label key xs l (table.lookup l)) :
    TableOf label key (xs ++ [x]) l ((keepLeast label key table x).lookup l) := by
  have last : x ∈ xs ++ [x] := mem_append_right _ mem_cons_self
  unfold keepLeast
  simp only [has]
  cases found : table.lookup l with
  | none =>
    rw [found] at before
    simp only [AList.lookup_insert]
    refine ⟨last, has, ?_⟩
    intro b mem labelled
    rcases mem_append.mp mem with earlier | same
    · exact absurd labelled (before b earlier)
    · rw [mem_singleton.mp same]
  | some a =>
    rw [found] at before
    simp only
    split
    · rename_i smaller
      rw [found]
      refine ⟨mem_append_left _ before.member, before.labelled, ?_⟩
      intro b mem labelled
      rcases mem_append.mp mem with earlier | same
      · exact before.least b earlier labelled
      · rw [mem_singleton.mp same]
        exact smaller.le
    · rename_i notSmaller
      rw [AList.lookup_insert]
      refine ⟨last, has, ?_⟩
      intro b mem labelled
      rcases mem_append.mp mem with earlier | same
      · exact (not_lt.mp notSmaller).trans (before.least b earlier labelled)
      · rw [mem_singleton.mp same]

theorem keepLeast_lookup_ne {x : α} {table : AList fun _ : L => α} (other : label x ≠ some l) :
    (keepLeast label key table x).lookup l = table.lookup l := by
  unfold keepLeast
  split
  · rfl
  rename_i l' has
  have differ : l ≠ l' := fun same => other (same ▸ has)
  split
  · split
    · rfl
    · exact AList.lookup_insert_ne differ
  · exact AList.lookup_insert_ne differ

theorem tableOf_foldl (label : α → Option L) (key : α → K) (xs : List α) (l : L) :
    TableOf label key xs l ((xs.foldl (keepLeast label key) ∅).lookup l) := by
  induction xs using reverseRecOn with
  | nil =>
    intro b mem
    cases mem
  | append_singleton xs x ih =>
    rw [foldl_append, foldl_cons, foldl_nil]
    by_cases has : label x = some l
    · exact TableOf.take has ih
    · rw [keepLeast_lookup_ne has]
      exact ih.skip has

theorem lookup_foldl_keepLeast (distinct : KeysDistinct key xs) :
    (xs.foldl (keepLeast label key) ∅).lookup l = some a ↔ Least label key xs l a := by
  have entry := tableOf_foldl label key xs l
  constructor
  · intro found
    rw [found] at entry
    exact entry
  · intro least
    cases found : (xs.foldl (keepLeast label key) ∅).lookup l with
    | none =>
      rw [found] at entry
      exact absurd least.labelled (entry a least.member)
    | some b =>
      rw [found] at entry
      rw [entry.unique distinct least]

end Vee
