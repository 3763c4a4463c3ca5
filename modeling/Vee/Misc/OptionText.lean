import Vee.Misc.GoText

/-!
# Options in one word

Programs such as QEMU take several options in one word of the command line. A comma ends an
option, two commas are one comma of the option, and the first `=` of an option stands between its
key and its value.
-/

namespace Vee

open List

/-- The options of a word. -/
def splitOptions : Text → List Text
  | [] => [[]]
  | ',' :: ',' :: rest => (splitOptions rest).modifyHead (',' :: ·)
  | ',' :: rest => [] :: splitOptions rest
  | c :: rest => (splitOptions rest).modifyHead (c :: ·)

/-- The options of a word, as texts. -/
def optionsOf (word : String) : List String := (splitOptions word.toList).map String.ofList

/-- The value of an option, if it has this key. -/
def valueOf (key option : String) : Option String :=
  match cutFirst '=' option.toList with
  | some (before, behind) => if before = key.toList then some (String.ofList behind) else none
  | none => none

/-- The values that a key has among options. -/
def valuesOf (key : String) (options : List String) : List String :=
  options.flatMap fun option => (valueOf key option).toList

/-! ## Splitting -/

section

variable {c : Char} {option rest : Text}

theorem splitOptions_cons (plain : c ≠ ',') :
    splitOptions (c :: rest) = (splitOptions rest).modifyHead (c :: ·) := by
  rw [splitOptions]
  · exact fun _ comma _ => plain comma
  · exact plain

theorem splitOptions_comma (plain : rest.head? ≠ some ',') :
    splitOptions (',' :: rest) = [] :: splitOptions rest := by
  rw [splitOptions]
  rintro more rfl
  exact plain rfl

theorem splitOptions_double :
    splitOptions (',' :: ',' :: rest) = (splitOptions rest).modifyHead (',' :: ·) := rfl

theorem exists_splitOptions (text : Text) :
    ∃ first others, splitOptions text = first :: others := by
  fun_induction splitOptions text with
  | case1 => exact ⟨_, _, rfl⟩
  | case3 rest _ _ => exact ⟨_, _, rfl⟩
  | case2 rest ih | case4 c rest _ _ ih =>
    obtain ⟨first, others, words⟩ := ih
    exact ⟨_ :: first, others, by rw [words]; rfl⟩

theorem splitOptions_append (plain : ',' ∉ option) (rest : Text) :
    splitOptions (option ++ rest) = (splitOptions rest).modifyHead (option ++ ·) := by
  obtain ⟨first, others, words⟩ := exists_splitOptions rest
  induction option with
  | nil =>
    rw [nil_append, words]
    rfl
  | cons c option ih =>
    obtain ⟨other, plain⟩ := not_or.mp (mt mem_cons.mpr plain)
    rw [cons_append, splitOptions_cons (Ne.symm other), ih plain, words]
    rfl

theorem splitOptions_plain (plain : ',' ∉ option) : splitOptions option = [option] := by
  have joined := splitOptions_append plain []
  rw [append_nil] at joined
  exact joined.trans (congrArg ([·]) (append_nil option))

theorem splitOptions_append_comma (plain : ',' ∉ option) (next : rest.head? ≠ some ',') :
    splitOptions (option ++ ',' :: rest) = option :: splitOptions rest := by
  rw [splitOptions_append plain, splitOptions_comma next]
  simp

theorem splitOptions_of_cons (plain : c ≠ ',') {n : Nat} {others : List Text}
    (words : splitOptions (c :: rest) = (List.replicate n ',' ++ c :: option) :: others) :
    n = 0 ∧ splitOptions rest = option :: others := by
  obtain ⟨first, _, tail⟩ := exists_splitOptions rest
  rw [splitOptions_cons plain, tail] at words
  obtain ⟨same, rfl⟩ := cons.inj words
  cases n with
  | zero => exact ⟨rfl, tail.trans (congrArg (· :: _) (cons.inj same).2)⟩
  | succ n => exact absurd (cons.inj same).1 plain

theorem replicate_append_cons {α : Type} (n : Nat) (a : α) (l : List α) :
    List.replicate n a ++ a :: l = List.replicate (n + 1) a ++ l := by
  rw [append_cons, ← replicate_succ']

/-- An option in front of another one is only read back if it has no comma. Each comma that is read
takes two of the word, so the word would have to go on with the commas that are missing; `n` is
how many are missing. -/
theorem plain_of_splitOptions (next : c ≠ ',') {others : List Text} :
    ∀ (option : Text) (n : Nat),
      splitOptions (option ++ ',' :: c :: rest) = (List.replicate n ',' ++ option) :: others →
      n = 0 ∧ ',' ∉ option
  | [], n, words => by
    rw [nil_append, splitOptions_comma (by simpa using next)] at words
    have none := (cons.inj words).1
    simpa using none
  | [d], n, words => by
    by_cases comma : d = ','
    · obtain ⟨first, _, tail⟩ := exists_splitOptions rest
      rw [comma, singleton_append, splitOptions_double, splitOptions_cons next, tail] at words
      have same : ',' :: c :: first = replicate n ',' ++ [','] := (cons.inj words).1
      have mem : c ∈ replicate n ',' ++ [','] := by simp [← same]
      simp [next] at mem
    · exact ⟨(splitOptions_of_cons comma words).1, by simpa using Ne.symm comma⟩
  | d :: e :: option, n, words => by
    by_cases comma : d = ','
    · subst comma
      by_cases comma : e = ','
      · subst comma
        obtain ⟨first, _, tail⟩ := exists_splitOptions (option ++ ',' :: c :: rest)
        rw [cons_append, cons_append, splitOptions_double, tail, replicate_append_cons,
          replicate_append_cons, replicate_succ, cons_append] at words
        have longer := (cons.inj (cons.inj words).1).2
        rw [longer] at tail
        exact absurd (plain_of_splitOptions next option (n + 1) tail).1 (Nat.succ_ne_zero n)
      · -- a lone comma ends the option
        rw [cons_append, cons_append, splitOptions_comma (by simpa using comma)] at words
        have none := (cons.inj words).1
        simp at none
    · obtain ⟨rfl, tail⟩ := splitOptions_of_cons comma words
      have plain := (plain_of_splitOptions next (e :: option) 0 tail).2
      exact ⟨rfl, fun mem => (mem_cons.mp mem).elim (fun same => comma same.symm) plain⟩

end

/-! ## Joined options -/

variable {option start key : String} {front rest : List String}

theorem optionsOf_append_comma (plain : ',' ∉ option.toList) {rest : String}
    (next : rest.toList.head? ≠ some ',') :
    optionsOf (option ++ "," ++ rest) = option :: optionsOf rest := by
  unfold optionsOf
  have joined : (option ++ "," ++ rest).toList = option.toList ++ ',' :: rest.toList := by simp
  rw [joined, splitOptions_append_comma plain next]
  simp

/-- An option that can stand behind a comma. -/
structure Bare (option : String) : Prop where
  plain : ',' ∉ option.toList
  nonempty : option ≠ ""

theorem Bare.exists_head (bare : Bare option) (text : String) :
    ∃ c rest, c ≠ ',' ∧ (option ++ text).toList = c :: rest := by
  have filled : option.toList ≠ [] := by simpa using bare.nonempty
  obtain ⟨c, rest, chars⟩ := exists_cons_of_ne_nil filled
  refine ⟨c, rest ++ text.toList, ?_, by rw [String.toList_append, chars, cons_append]⟩
  rintro rfl
  exact bare.plain (chars ▸ mem_cons_self)

theorem Bare.head_ne (bare : Bare option) (text : String) :
    (option ++ text).toList.head? ≠ some ',' := by
  obtain ⟨c, rest, other, chars⟩ := bare.exists_head text
  rw [chars]
  exact fun same => other (Option.some.inj same)

theorem intercalate_cons (option : String) (options : List String) :
    ",".intercalate (option :: options) = option ++ ",".intercalate ("" :: options) := by
  rw [← String.intercalate_cons_append, String.append_empty]

/-- Options without commas in front of others are read back. -/
theorem optionsOf_intercalate_append (bare : ∀ option ∈ front, Bare option)
    (next : (",".intercalate (option :: rest)).toList.head? ≠ some ',') :
    optionsOf (",".intercalate (front ++ option :: rest)) =
      front ++ optionsOf (",".intercalate (option :: rest)) := by
  induction front with
  | nil => rfl
  | cons first front ih =>
    obtain ⟨now, later⟩ := forall_mem_cons.mp bare
    have following : (",".intercalate (front ++ option :: rest)).toList.head? ≠ some ',' := by
      cases front with
      | nil => exact next
      | cons second front =>
        rw [cons_append, intercalate_cons]
        exact (later second mem_cons_self).head_ne _
    rw [cons_append, String.intercalate_cons_of_ne_nil (by simp),
      optionsOf_append_comma now.plain following, ih later]
    rfl

theorem optionsOf_intercalate {options : List String} (some : options ≠ [])
    (bare : ∀ option ∈ options, Bare option) : optionsOf (",".intercalate options) = options := by
  have split := dropLast_concat_getLast some
  have last := bare _ (getLast_mem some)
  have front : ∀ option ∈ options.dropLast, Bare option :=
    fun option mem => bare option (dropLast_subset _ mem)
  rw [← split, optionsOf_intercalate_append front (intercalate_cons _ [] ▸ last.head_ne _)]
  simp [optionsOf, splitOptions_plain last.plain]

/-! ## Keys -/

section

variable (key : String)

@[simp]
theorem valuesOf_nil : valuesOf key [] = [] := rfl

@[simp]
theorem valuesOf_cons (option : String) (options : List String) :
    valuesOf key (option :: options) = (valueOf key option).toList ++ valuesOf key options := rfl

@[simp]
theorem valuesOf_append (options others : List String) :
    valuesOf key (options ++ others) = valuesOf key options ++ valuesOf key others :=
  flatMap_append

@[simp]
theorem valuesOf_ite (given : Prop) [Decidable given] (options others : List String) :
    valuesOf key (if given then options else others) =
      if given then valuesOf key options else valuesOf key others :=
  apply_ite _ _ _ _

end

/-- A key with its `=`. -/
def IsKey (start : String) : Prop :=
  start.toList.getLast? = some '=' ∧ '=' ∉ start.toList.dropLast
deriving Decidable

theorem cutFirst_append {c : Char} {before : Text} (plain : c ∉ before) (behind : Text) :
    cutFirst c (before ++ c :: behind) = some (before, behind) := by
  have others : ∀ d ∈ before, decide (d ≠ c) = true :=
    fun d mem => decide_eq_true fun same => plain (same ▸ mem)
  unfold cutFirst
  rw [if_pos (by simp), takeWhile_append_of_pos others, dropWhile_append_of_pos others]
  simp

theorem valueOf_append (keyed : IsKey start) (key value : String) :
    valueOf key (start ++ value) = if start = key ++ "=" then some value else none := by
  obtain ⟨last, plain⟩ := keyed
  obtain ⟨name, text⟩ := getLast?_eq_some_iff.mp last
  rw [text, dropLast_concat] at plain
  have same : name = key.toList ↔ start = key ++ "=" := by
    rw [← String.toList_inj, text]
    simp
  have cut : cutFirst '=' (start ++ value).toList = some (name, value.toList) := by
    rw [String.toList_append, text, append_assoc]
    exact cutFirst_append plain _
  unfold valueOf
  rw [cut]
  simp [same]

theorem valueOf_eq_none (other : ¬ (key ++ "=").toList <+: option.toList) :
    valueOf key option = none := by
  unfold valueOf
  split
  · rename_i before behind cut
    refine if_neg fun same => other ?_
    rw [cutFirst_eq_some cut, same]
    simp
  · rfl

/-- The value of a key that is read back has no comma, if another option stands behind it. -/
theorem plain_of_valuesOf (keyed : IsKey start) (bare : Bare start) (same : start = key ++ "=")
    (before : ∀ option ∈ front, Bare option) (others : valuesOf key front = [])
    {value next : String} (following : Bare next)
    (read : valuesOf key (optionsOf (",".intercalate (front ++ (start ++ value) :: next :: rest))) =
      [value]) : ',' ∉ value.toList := by
  obtain ⟨c, tail, other, behind⟩ := following.exists_head (",".intercalate ("" :: rest))
  have word : (",".intercalate ((start ++ value) :: next :: rest)).toList =
      start.toList ++ (value.toList ++ ',' :: c :: tail) := by
    rw [String.intercalate_cons_cons, String.toList_append, intercalate_cons next, behind]
    simp
  have head : (",".intercalate ((start ++ value) :: next :: rest)).toList.head? ≠ some ',' := by
    rw [String.intercalate_cons_append]
    exact bare.head_ne _
  obtain ⟨first, others', words⟩ := exists_splitOptions (value.toList ++ ',' :: c :: tail)
  have split : optionsOf (",".intercalate ((start ++ value) :: next :: rest)) =
      (start ++ String.ofList first) :: others'.map String.ofList := by
    unfold optionsOf
    rw [word, splitOptions_append bare.plain, words]
    simp [String.ofList_append]
  rw [optionsOf_intercalate_append before head, valuesOf_append, others, split, valuesOf_cons,
    valueOf_append keyed, if_pos same] at read
  have text : String.ofList first = value := (cons.inj read).1
  have chars : first = value.toList := by simp [← text]
  exact (plain_of_splitOptions other value.toList 0 (words.trans (by rw [chars]; rfl))).2

end Vee
