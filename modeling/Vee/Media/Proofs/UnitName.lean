import Mathlib.Data.List.Basic
import Vee.Media.Source

/-!
# Names of mount units

systemd loads a mount unit only under the name that `systemd-escape --path` gives to its mount
point. `unitName` replaces slashes and blanks only.
-/

namespace Vee.Media

open List

/-- A path with one slash where there are several. -/
def squeeze : Text → Text
  | '/' :: '/' :: rest => squeeze ('/' :: rest)
  | c :: rest => c :: squeeze rest
  | [] => []

def unitChar (c : Char) : Bool := c.isAlphanum || c = ':' || c = '_' || c = '.'

def escapeChar (c : Char) : Text :=
  (String.utf8EncodeChar c).flatMap fun b =>
    ['\\', 'x', (b.toNat / 16).digitChar, (b.toNat % 16).digitChar]

def escapeUnitChar (c : Char) : Text :=
  if c = '/' then ['-'] else if unitChar c then [c] else escapeChar c

/-- `systemd-escape --path`. -/
def systemdEscape (path : String) : String :=
  match squeeze (trimChar '/' path.toList) with
  | [] => "-"
  | '.' :: rest => String.ofList (escapeChar '.' ++ rest.flatMap escapeUnitChar)
  | name => String.ofList (name.flatMap escapeUnitChar)

/-- A path in which there are only slashes and blanks to replace. -/
structure PlainName (name : Text) : Prop where
  single : squeeze name = name
  visible : name.head? ≠ some '.'
  plain : ∀ c ∈ name, c = '/' ∨ c = ' ' ∨ unitChar c

/-- The replacement of `unitName`. -/
def replaceUnitChar (c : Char) : Text :=
  if c = '/' then ['-'] else if c = ' ' then "\\x20".toList else [c]

variable (name : Text)

theorem squeeze_sublist : (squeeze name).Sublist name := by
  fun_induction squeeze name with
  | case1 rest ih => exact ih.trans (sublist_cons_self _ _)
  | case2 c rest _ ih => exact ih.cons_cons c
  | case3 => exact List.Sublist.refl _

theorem head_squeeze : (squeeze name).head? = name.head? := by
  fun_induction squeeze name with
  | case1 rest ih => exact ih
  | case2 c rest _ ih => rfl
  | case3 => rfl

theorem count_squeeze : ((squeeze name).flatMap escapeUnitChar).count 'x' =
      (name.flatMap escapeUnitChar).count 'x' := by
  fun_induction squeeze name with
  | case1 rest ih => simpa [escapeUnitChar] using ih
  | case2 c rest _ ih => simp [ih]
  | case3 => rfl

theorem mem_escapeChar (c : Char) : 'x' ∈ escapeChar c := by
  have bytes : String.utf8EncodeChar c ≠ [] := by
    rw [← length_pos_iff, String.length_utf8EncodeChar]
    exact c.utf8Size_pos
  obtain ⟨b, rest, first⟩ := exists_cons_of_ne_nil bytes
  simp [escapeChar, first]

theorem count_replace (c : Char) : (replaceUnitChar c).count 'x' ≤ (escapeUnitChar c).count 'x' ∧
      ((replaceUnitChar c).count 'x' = (escapeUnitChar c).count 'x' →
        c = '/' ∨ c = ' ' ∨ unitChar c) := by
  by_cases slash : c = '/'
  · simp [replaceUnitChar, escapeUnitChar, slash]
  by_cases blank : c = ' '
  · subst blank
    decide
  by_cases plain : unitChar c
  · simp [replaceUnitChar, escapeUnitChar, slash, blank, plain]
  have other : c ≠ 'x' := by
    rintro rfl
    exact plain (by decide)
  have escaped := count_pos_iff.mpr (mem_escapeChar c)
  simp only [replaceUnitChar, escapeUnitChar, slash, blank, plain, if_false, Bool.false_eq_true,
    count_singleton, beq_iff_eq, other]
  omega

theorem count_replaced :
    (name.flatMap replaceUnitChar).count 'x' ≤ (name.flatMap escapeUnitChar).count 'x' ∧
      ((name.flatMap replaceUnitChar).count 'x' = (name.flatMap escapeUnitChar).count 'x' →
        ∀ c ∈ name, c = '/' ∨ c = ' ' ∨ unitChar c) := by
  induction name with
  | nil => simp
  | cons c rest ih =>
    simp only [flatMap_cons, count_append, forall_mem_cons]
    have first := count_replace c
    exact ⟨by omega, fun same => ⟨first.2 (by omega), ih.2 (by omega)⟩⟩

theorem replace_eq_escape {c : Char} (plain : c = '/' ∨ c = ' ' ∨ unitChar c) :
    replaceUnitChar c = escapeUnitChar c := by
  rcases plain with rfl | rfl | plain
  · decide
  · decide
  · have blank : c ≠ ' ' := by
      rintro rfl
      exact absurd plain (by decide)
    simp [replaceUnitChar, escapeUnitChar, blank, plain]

theorem length_squeeze : ((squeeze name).flatMap escapeUnitChar).length + name.length =
      (name.flatMap escapeUnitChar).length + (squeeze name).length := by
  fun_induction squeeze name with
  | case1 rest ih =>
    simp [escapeUnitChar] at ih ⊢
    omega
  | case2 c rest _ ih =>
    simp only [flatMap_cons, length_append, length_cons]
    omega
  | case3 => rfl

theorem replaced_eq_escaped_iff {name : Text} (visible : name.head? ≠ some '.') :
    name.flatMap replaceUnitChar = (squeeze name).flatMap escapeUnitChar ↔ PlainName name := by
  constructor
  · intro same
    have plain := (count_replaced name).2 (by rw [same, count_squeeze])
    have unescaped : name.flatMap replaceUnitChar = name.flatMap escapeUnitChar :=
      flatMap_congr fun c mem => replace_eq_escape (plain c mem)
    have lengths := length_squeeze name
    rw [← same, ← unescaped] at lengths
    exact ⟨(squeeze_sublist name).eq_of_length (by omega), visible, plain⟩
  · intro named
    rw [named.single]
    exact flatMap_congr fun c mem => replace_eq_escape (named.plain c mem)

/-- A mount unit has the name that systemd requires exactly if its mount point needs nothing but
its slashes and blanks replaced. -/
theorem unitName_eq_systemdEscape_iff (path : String) :
    unitName path = systemdEscape path ↔ PlainName (trimChar '/' path.toList) := by
  unfold unitName flattenPath systemdEscape
  generalize trimChar '/' path.toList = name
  cases name with
  | nil => exact ⟨fun _ => ⟨rfl, by simp, by simp⟩, fun _ => rfl⟩
  | cons c rest =>
    change String.ofList ((c :: rest).flatMap replaceUnitChar) = _ ↔ _
    by_cases dot : c = '.'
    · subst dot
      have differ : ∀ behind, ('.' :: rest).flatMap replaceUnitChar ≠ escapeChar '.' ++ behind := by
        intro behind same
        cases (cons.inj same).1
      have squeezed : squeeze ('.' :: rest) = '.' :: squeeze rest := by simp [squeeze]
      simp only [squeezed, String.ofList_inj]
      exact ⟨fun same => absurd same (differ _), fun named => absurd rfl named.visible⟩
    · have visible : (c :: rest).head? ≠ some '.' := by simpa using dot
      rw [← replaced_eq_escaped_iff visible]
      have first := head_squeeze (c :: rest)
      split
      · rename_i none
        rw [none] at first
        cases first
      · rename_i leading
        rw [leading] at first
        exact absurd first.symm visible
      · exact String.ofList_inj

/-- A hyphen stays as it is, where systemd has an escape. -/
theorem hyphen_not_escaped : unitName "/media/my-movies" ≠ systemdEscape "/media/my-movies" := by
  decide

end Vee.Media
