import Mathlib.Data.Char
import Mathlib.Data.List.Lex
import Mathlib.Data.List.Sort
import Vee.Misc.GoPath

/-!
# Trees of files

Directories and files at their places, with what `os.ReadDir`, `os.Remove` and
`os.RemoveAll` do to them. Every node but those at the top stands in a directory, and no
operation leaves one without; each operation says which places it leaves as they are.
-/

namespace Vee

open List

/-- What stands at a place. -/
inductive Node where
  | file
  | dir
  deriving DecidableEq, Repr

/-- The nodes below the root. -/
structure FileTree where
  nodes : List (Place × Node)
  unique : (nodes.map Prod.fst).Nodup
  plain : ∀ e ∈ nodes, ∀ name ∈ e.1, PlainName name
  /-- A node stands in the root or in a directory. -/
  parents : ∀ e ∈ nodes, e.1 ≠ [] ∧ (e.1.dropLast = [] ∨ (e.1.dropLast, Node.dir) ∈ nodes)

/-- An entry of a directory. -/
structure DirEntry where
  name : Text
  isDir : Bool

namespace FileTree

/-- There is such a node at a place. -/
def Has (t : FileTree) (place : Place) (node : Node) : Prop := (place, node) ∈ t.nodes
deriving Decidable

/-- The entries of a directory, sorted by name. -/
def entries (t : FileTree) (place : Place) : List DirEntry :=
  let found := t.nodes.filterMap fun e =>
    match e.1.getLast? with
    | some name => if e.1.dropLast = place then some ⟨name, e.2 = .dir⟩ else none
    | none => none
  found.insertionSort fun a b => a.name ≤ b.name

/-- The part of a tree that a test keeps, if it keeps the directory of each node. -/
def keep (t : FileTree) (test : Place → Bool)
    (closed : ∀ e ∈ t.nodes, test e.1 → e.1.dropLast = [] ∨ test e.1.dropLast) : FileTree where
  nodes := t.nodes.filter fun e => test e.1
  unique := t.unique.sublist (List.filter_sublist.map Prod.fst)
  plain e member := t.plain e (List.mem_of_mem_filter member)
  parents e member := by
    obtain ⟨known, kept⟩ := List.mem_filter.mp member
    obtain ⟨below, parent⟩ := t.parents e known
    refine ⟨below, ?_⟩
    rcases closed e known kept with top | keptParent
    · exact .inl top
    · exact parent.imp_right fun dir => List.mem_filter.mpr ⟨dir, keptParent⟩

variable {t : FileTree} {place : Place} {node : Node}

@[simp] theorem keep_has {test : Place → Bool}
    {closed : ∀ e ∈ t.nodes, test e.1 → e.1.dropLast = [] ∨ test e.1.dropLast}
    : (t.keep test closed).Has place node ↔ t.Has place node ∧ test place = true :=
  mem_filter

/-- Why a node at or below a place cannot be removed. -/
def stuck (t : FileTree) (refuses : Place → Option String) (place : Place) : Option String :=
  t.nodes.findSome? fun e => if place.isPrefixOf e.1 then refuses e.1 else none

variable {refuses : Place → Option String}

theorem stuck_mono {upper lower : Place}
    (above : upper <+: lower) (found : (t.stuck refuses lower).isSome) :
    (t.stuck refuses upper).isSome := by
  simp only [stuck, findSome?_isSome_iff] at found ⊢
  obtain ⟨e, mem, refused⟩ := found
  refine ⟨e, mem, ?_⟩
  split at refused
  · rename_i below
    have belowUpper : upper.isPrefixOf e.1 :=
      isPrefixOf_iff_prefix.mpr (above.trans ( isPrefixOf_iff_prefix.mp below))
    simpa [belowUpper] using refused
  · cases refused

theorem stuck_eq_none (free : ∀ place, refuses place = none) (place : Place) :
    t.stuck refuses place = none := by
  simp [stuck, free]

/-- The outcome of a removal: the reason why it failed, and what is left. -/
structure Removal where
  err : Option String
  tree : FileTree

/-- `os.RemoveAll`: what can be removed is removed, and a directory stays if something in it
does. -/
def removeAll (t : FileTree) (refuses : Place → Option String) (place : Place) : Removal where
  err := t.stuck refuses place
  tree := t.keep (fun q => !place.isPrefixOf q || (t.stuck refuses q).isSome) (by
    intro e _ kept
    right
    have above : e.1.dropLast <+: e.1 := List.dropLast_prefix e.1
    simp only [Bool.or_eq_true, Bool.not_eq_true'] at kept ⊢
    rcases kept with outside | held
    · left
      by_contra inside
      have below := (List.isPrefixOf_iff_prefix.mp (Bool.not_eq_false _ ▸ inside)).trans above
      rw [List.isPrefixOf_iff_prefix.mpr below] at outside
      cases outside
    · exact .inr (stuck_mono above held))

/-- `os.Remove`: a file, or a directory without entries. -/
def remove (t : FileTree) (refuses : Place → Option String) (place : Place) : Removal :=
  if t.Has place .file ∨ t.Has place .dir then
    if filled : ∃ e ∈ t.nodes, e.1.dropLast = place then ⟨some "directory not empty", t⟩
    else
      match refuses place with
      | some reason => ⟨some reason, t⟩
      | none => ⟨none, t.keep (· ≠ place) (by
          intro e member _
          right
          simp only [ne_eq, decide_eq_true_eq]
          exact fun inside => filled ⟨e, member, inside⟩)⟩
  else ⟨some "no such file or directory", t⟩

/-- The answer of `os.ReadDir`. -/
inductive Listing where
  | missing
  | failed (reason : String)
  | entries (found : List DirEntry)

/-- `os.ReadDir`. -/
def readDir (t : FileTree) (unreadable : Place → Option String) (place : Place) : Listing :=
  if place = [] ∨ t.Has place .dir then
    match unreadable place with
    | some reason => .failed reason
    | none => .entries (t.entries place)
  else if t.nodes.any fun e => e.2 = .file && e.1.isPrefixOf place then .failed "not a directory"
  else .missing

/-! ## What stands where -/

theorem Has.same {a b : Node} (first : t.Has place a) (second : t.Has place b) : a = b := by
  have pairs := inj_on_of_nodup_map t.unique first second rfl
  exact (Prod.mk.inj pairs).2

variable {name : Text}

theorem Has.parent (stands : t.Has (place ++ [name]) node) : place = [] ∨ t.Has place .dir := by
  simpa [Has] using (t.parents _ stands).2

theorem Has.plain (stands : t.Has (place ++ [name]) node) : PlainName name :=
  t.plain _ stands name (by simp)

theorem Has.below {upper rest : Place} (stands : t.Has (upper ++ rest) node)
    (named : upper ≠ []) : rest = [] ∨ t.Has upper .dir := by
  induction rest using reverseRecOn generalizing node with
  | nil => exact .inl rfl
  | append_singleton rest last ih =>
    rw [← append_assoc] at stands
    rcases stands.parent with top | dir
    · simp [named] at top
    · rcases ih dir with rfl | above
      · exact .inr (by simpa using dir)
      · exact .inr above

theorem mem_entries {e : DirEntry} :
    e ∈ t.entries place ↔ t.Has (place ++ [e.name]) (if e.isDir then .dir else .file) := by
  simp only [entries, mem_insertionSort, mem_filterMap, Has]
  constructor
  · rintro ⟨⟨q, node⟩, mem, made⟩
    split at made
    · rename_i name last
      split at made
      · rename_i inside
        obtain rfl := Option.some.inj made
        have whole : place ++ [name] = q := by
          rw [← inside]
          exact dropLast_append_getLast? name last
        simp only [whole]
        cases node <;> simpa using mem
      · cases made
    · cases made
  · intro mem
    refine ⟨_, mem, ?_⟩
    obtain ⟨name, isDir⟩ := e
    cases isDir <;> simp

/-! ## What a removal leaves -/

theorem removeAll_keeps {p : Place} (outside : ¬ place <+: p) (node : Node) :
    (t.removeAll refuses place).tree.Has p node ↔ t.Has p node := by
  have apart : place.isPrefixOf p = false := by
    rw [Bool.eq_false_iff]
    exact fun inside => outside ( isPrefixOf_iff_prefix.mp inside)
  simp [removeAll, apart]

theorem removeAll_shrinks {p : Place}
    (left : (t.removeAll refuses place).tree.Has p node) : t.Has p node :=
  (keep_has.mp left).1

theorem removeAll_removes {p : Place}
    (done : (t.removeAll refuses place).err = none) (inside : place <+: p) (node : Node) :
    ¬ (t.removeAll refuses place).tree.Has p node := by
  intro left
  obtain ⟨_, kept⟩ := keep_has.mp left
  have below : place.isPrefixOf p = true := isPrefixOf_iff_prefix.mpr inside
  simp only [below, Bool.not_true, Bool.false_or] at kept
  have held := stuck_mono inside kept
  rw [show t.stuck refuses place = none from done] at held
  cases held

theorem remove_keeps {p : Place}
    (other : p ≠ place) (node : Node) :
    (t.remove refuses place).tree.Has p node ↔ t.Has p node := by
  unfold remove
  split
  · split
    · rfl
    · split
      · rfl
      · simp [other]
  · rfl

theorem remove_removes (done : (t.remove refuses place).err = none) (node : Node) :
    ¬ (t.remove refuses place).tree.Has place node := by
  unfold remove at done ⊢
  split at done
  · split at done
    · cases done
    · split at done
      · cases done
      · simp [*]
  · cases done

theorem remove_shrinks {p : Place}
    (left : (t.remove refuses place).tree.Has p node) : t.Has p node := by
  unfold remove at left
  split at left
  · split at left
    · exact left
    · split at left
      · exact left
      · exact (keep_has.mp left).1
  · exact left

end FileTree
end Vee
