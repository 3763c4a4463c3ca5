import Mathlib.Data.List.Infix
import Mathlib.Data.List.TakeWhile
import Vee.Misc.GoText

/-!
# Where a path leads

The place that a path names, as the names on the way to it from the root, and how `Clean`
and `Join` act on it: cleaning a path does not change its place, and joining a directory
with a relative path leads where the path leads from the directory. There are no symbolic
links, so a `..` goes back over the name before it.
-/

namespace Vee

open List

/-- The names on the way to a file from the root. -/
abbrev Place := List Text

/-- The name of an entry of a directory. -/
def PlainName (name : Text) : Prop :=
  name ≠ [] ∧ '/' ∉ name ∧ name ≠ ['.'] ∧ name ≠ ['.', '.']
deriving Decidable

/-- One element of a path, from the place `back`, its last name first. -/
def walkStep (back : Place) (element : Text) : Place :=
  if element = [] ∨ element = ['.'] then back
  else if element = ['.', '.'] then back.tail
  else element :: back

/-- Where the elements of a path lead from the place `back`, last name first. -/
def walk (back : Place) (elements : List Text) : Place := elements.foldl walkStep back

/-- The place that a path names to a process in the directory `cwd`. -/
def locate (cwd : Place) (path : Text) : Place :=
  (walk (if path.head? = some '/' then [] else cwd.reverse) (path.splitOn '/')).reverse

variable {place back : Place} {text element first dir rel ext last : Text}
  {names rest : List Text}

theorem child_unique {p : Place} {a b : Text} (first : place ++ [a] <+: p)
    (second : place ++ [b] <+: p) : a = b := by
  have same := prefix_of_prefix_length_le first second (by simp)
  simpa using same.eq_of_length (by simp)

@[simp] theorem walk_nil (back : Place) : walk back [] = back := rfl

@[simp] theorem walk_cons (back : Place) (element : Text) (elements : List Text) :
    walk back (element :: elements) = walk (walkStep back element) elements := rfl

@[simp] theorem walk_append (back : Place) (first second : List Text) :
    walk back (first ++ second) = walk (walk back first) second := foldl_append

@[simp] theorem walkStep_empty (back : Place) : walkStep back [] = back := by simp [walkStep]

@[simp] theorem walkStep_up (back : Place) : walkStep back ['.', '.'] = back.tail := by
  simp [walkStep]

variable {name : Text}

theorem PlainName.splitOn (plain : PlainName name) :
    name.splitOn '/' = [name] := splitOn_eq_singleton plain.2.1

theorem PlainName.relative (plain : PlainName name) : name.head? ≠ some '/' :=
  fun first => plain.2.1 (mem_of_mem_head? first)

theorem walkStep_plain (plain : PlainName name) (back : Place) :
    walkStep back name = name :: back := by
  obtain ⟨named, _, here, up⟩ := plain
  simp [walkStep, named, here, up]

theorem not_mem_of_mem_splitOn {text : Text} (mem : element ∈ text.splitOn '/') :
    '/' ∉ element := by
  by_cases slash : '/' ∈ text
  · obtain ⟨first, rest, rfl, whole⟩ := eq_append_cons_of_mem slash
    rw [splitOn_append_cons_self_of_not_mem whole] at mem
    rcases mem_cons.mp mem with rfl | later
    · exact whole
    · exact not_mem_of_mem_splitOn later
  · rw [splitOn_eq_singleton slash, mem_singleton] at mem
    rwa [mem]
termination_by text.length
decreasing_by grind

/-! ## Cleaning -/

theorem cleanElements_concat (rooted : Bool) (elements : List Text) (element : Text) :
    cleanElements rooted (elements ++ [element]) =
      cleanStep rooted (cleanElements rooted elements) element := foldl_concat ..

variable {elements : List Text}

/-- What is left of a path after `Clean`: its own names, and steps up. -/
theorem of_mem_cleanElements {rooted : Bool} (mem : element ∈ cleanElements rooted elements) :
    element ≠ [] ∧ element ≠ ['.'] ∧ (element ∈ elements ∨ element = ['.', '.']) := by
  induction elements using reverseRecOn generalizing element with
  | nil => cases mem
  | append_singleton elements last ih =>
    have earlier : element ∈ cleanElements rooted elements →
        element ≠ [] ∧ element ≠ ['.'] ∧ (element ∈ elements ++ [last] ∨ element = ['.', '.']) := by
      intro kept
      obtain ⟨named, here, known⟩ := ih kept
      exact ⟨named, here, known.imp_left (mem_append_left [last])⟩
    rw [cleanElements_concat] at mem
    unfold cleanStep at mem
    split at mem
    · exact earlier mem
    rename_i proper
    split at mem
    · -- a step up is kept, or takes the name before it away
      cases kept : cleanElements rooted elements with
      | nil =>
        rw [kept] at mem
        cases rooted
        · simp_all
        · simp at mem
      | cons first rest =>
        rw [kept] at mem earlier
        simp only at mem
        split at mem
        · rcases mem_cons.mp mem with rfl | later
          · simp
          · exact earlier later
        · exact earlier (mem_cons_of_mem first mem)
    · rcases mem_cons.mp mem with rfl | later
      · simp only [not_or] at proper
        simp [proper]
      · exact earlier later

/-- Cleaning the elements of a path does not change where they lead. -/
theorem walk_cleanElements (rooted : Bool) (top : rooted = true → back = [])
    (elements : List Text) :
    walk back (cleanElements rooted elements).reverse = walk back elements := by
  induction elements using reverseRecOn with
  | nil => rfl
  | append_singleton elements last ih =>
    rw [cleanElements_concat, walk_append, ← ih]
    unfold cleanStep
    split
    · rename_i skipped
      simp [walkStep, skipped]
    split
    · rename_i up
      subst up
      cases kept : cleanElements rooted elements with
      | nil =>
        cases rooted with
        | false => simp
        | true => simp [top rfl]
      | cons first rest =>
        obtain ⟨named, here, _⟩ :=
          of_mem_cleanElements (kept ▸ mem_cons_self : first ∈ cleanElements rooted elements)
        simp only
        split
        · simp
        · rename_i down
          simp [walkStep, named, here, down]
    · simp

theorem walk_intercalate (back : Place) (whole : ∀ name ∈ names, '/' ∉ name) :
    walk back ((['/'].intercalate names).splitOn '/') = walk back names := by
  by_cases none : names = []
  · simp [none, intercalate]
  · rw [splitOn_intercalate '/' whole none]

theorem intercalate_head (named : first ≠ []) :
    (['/'].intercalate (first :: rest)).head? = first.head? := by
  cases first with
  | nil => exact absurd rfl named
  | cons c first => cases rest <;> simp [intercalate]

theorem cleanPath_ne_nil (path : Text) : cleanPath path ≠ [] := by
  unfold cleanPath
  simp only
  split
  · simp
  · split
    · simp
    · assumption

theorem joinElements_ne_nil (mem : element ∈ elements) (named : element ≠ []) :
    joinElements elements ≠ [] := by
  unfold joinElements
  split
  · rename_i none
    have kept : element ∈ elements.filter (· ≠ []) := by simp [mem, named]
    rw [none] at kept
    cases kept
  · exact cleanPath_ne_nil _

theorem join_cons (present : dir ≠ []) (named : rel ≠ []) :
    joinElements [dir, rel] = cleanPath (dir ++ '/' :: rel) := by
  simp [joinElements, present, named, intercalate]

theorem join_nil_left (named : rel ≠ []) : joinElements [[], rel] = cleanPath rel := by
  simp [joinElements, named, intercalate]

theorem join_nil_right (present : dir ≠ []) : joinElements [dir, []] = cleanPath dir := by
  simp [joinElements, present, intercalate]

/-- `Clean` keeps the place of a path. -/
theorem locate_cleanPath (cwd : Place) (path : Text) :
    locate cwd (cleanPath path) = locate cwd path := by
  have whole : ∀ rooted, ∀ name ∈ (cleanElements rooted (path.splitOn '/')).reverse,
      '/' ∉ name := by
    intro rooted name mem
    obtain ⟨_, _, known | up⟩ := of_mem_cleanElements (mem_reverse.mp mem)
    · exact not_mem_of_mem_splitOn known
    · simp [up]
  by_cases rooted : path.head? = some '/'
  · have clean : cleanPath path =
        [] ++ '/' :: ['/'].intercalate (cleanElements true (path.splitOn '/')).reverse := by
      simp [cleanPath, rooted]
    rw [clean]
    unfold locate
    rw [splitOn_append_cons_self, walk_append, walk_intercalate _ (whole true)]
    simp [rooted, walk_cleanElements]
  · have kept : walk cwd.reverse (cleanElements false (path.splitOn '/')).reverse =
        walk cwd.reverse (path.splitOn '/') := walk_cleanElements false (by simp) _
    cases names : (cleanElements false (path.splitOn '/')).reverse with
    | nil =>
      have clean : cleanPath path = ['.'] := by simp [cleanPath, rooted, names, intercalate]
      rw [names] at kept
      have here : (['.'] : Text).splitOn '/' = [['.']] := by decide
      simp [clean, locate, rooted, ← kept, here, walkStep]
    | cons first rest =>
      have mem : first ∈ (cleanElements false (path.splitOn '/')).reverse := by simp [names]
      have named : first ≠ [] := (of_mem_cleanElements (mem_reverse.mp mem)).1
      have start : (['/'].intercalate (first :: rest)).head? ≠ some '/' := by
        rw [intercalate_head named]
        exact fun slash => whole false first mem (mem_of_mem_head? slash)
      have clean : cleanPath path = ['/'].intercalate (first :: rest) := by
        have present : ['/'].intercalate (first :: rest) ≠ [] := by
          intro empty
          have head : (['/'].intercalate (first :: rest)).head? = first.head? :=
            intercalate_head named
          rw [empty] at head
          exact named (head?_eq_none_iff.mp head.symm)
        simp [cleanPath, rooted, names, present]
      unfold locate
      rw [clean, if_neg start, if_neg rooted, walk_intercalate _ (names ▸ whole false), ← names,
        kept]

/-- `Join` with a relative path leads where the path leads from the directory. -/
theorem locate_join_relative (relative : rel.head? ≠ some '/') (cwd : Place) (dir : Text) :
    locate cwd (joinElements [dir, rel]) = locate (locate cwd dir) rel := by
  by_cases named : rel = [] <;> by_cases empty : dir = []
  · simp [named, empty, joinElements, locate]
  · rw [named, join_nil_right empty, locate_cleanPath]
    simp [locate]
  · rw [empty, join_nil_left named, locate_cleanPath]
    simp [locate, relative]
  · rw [join_cons empty named, locate_cleanPath]
    unfold locate
    rw [head?_append_of_ne_nil _ empty, splitOn_append_cons_self, walk_append,
      if_neg relative, reverse_reverse]

variable {path : Text}

theorem locate_concat_slash (named : path ≠ []) (cwd : Place) :
    locate cwd (path ++ ['/']) = locate cwd path := by
  unfold locate
  rw [head?_append_of_ne_nil _ named, splitOn_append_cons_self, walk_append]
  simp

/-- The plain name of an entry leads from a directory to the entry. -/
theorem locate_join (plain : PlainName name) (cwd : Place) (dir : Text) :
    locate cwd (joinElements [dir, name]) = locate cwd dir ++ [name] := by
  rw [locate_join_relative plain.relative]
  generalize locate cwd dir = place
  simp [locate, plain.relative, plain.splitOn, walkStep_plain plain]

theorem plain_of_mem_walk (whole : ∀ element ∈ elements, '/' ∉ element)
    (plain : ∀ name ∈ back, PlainName name) : ∀ name ∈ walk back elements, PlainName name := by
  induction elements generalizing back with
  | nil => exact plain
  | cons element elements ih =>
    refine ih (fun e later => whole e (mem_cons_of_mem _ later)) ?_
    unfold walkStep
    split
    · exact plain
    rename_i proper
    split
    · exact fun name kept => plain name (mem_of_mem_tail kept)
    · rename_i down
      simp only [not_or] at proper
      intro name kept
      rcases mem_cons.mp kept with rfl | earlier
      · exact ⟨proper.1, whole _ mem_cons_self, proper.2, down⟩
      · exact plain name earlier

theorem plain_of_mem_locate {cwd : Place} (plain : ∀ name ∈ cwd, PlainName name) :
    ∀ name ∈ locate cwd path, PlainName name := by
  intro name mem
  refine plain_of_mem_walk (fun element => not_mem_of_mem_splitOn) ?_ name (mem_reverse.mp mem)
  split
  · simp
  · exact fun name known => plain name (mem_reverse.mp known)

/-! ## Steps up -/

/-- The element that goes back over the name before it. -/
abbrev up : Text := ['.', '.']

/-- All steps up that are left of a relative path stand in front of its names. -/
theorem cleanElements_eq_append (elements : List Text) :
    ∃ names count, cleanElements false elements = names ++ List.replicate count up ∧
      up ∉ names := by
  induction elements using reverseRecOn with
  | nil => exact ⟨[], 0, rfl, by simp⟩
  | append_singleton elements last ih =>
    obtain ⟨names, count, kept, proper⟩ := ih
    rw [cleanElements_concat, kept]
    unfold cleanStep
    split
    · exact ⟨names, count, rfl, proper⟩
    split
    · cases names with
      | nil =>
        cases count with
        | zero => exact ⟨[], 1, rfl, by simp⟩
        | succ count => exact ⟨[], count + 2, by simp [replicate_succ], by simp⟩
      | cons name names =>
        obtain ⟨other, proper⟩ := not_or.mp (mem_cons.not.mp proper)
        refine ⟨names, count, ?_, proper⟩
        simp only [cons_append]
        rw [if_neg (Ne.symm other)]
    · rename_i down
      refine ⟨last :: names, count, rfl, ?_⟩
      simpa [Ne.symm down] using proper

/-- How many names a relative path goes back over, beyond its own. -/
def stepsUp (path : Text) : Nat := (cleanElements false (path.splitOn '/')).count up

/-- The names of a relative path behind its steps up. -/
def namesOf (path : Text) : List Text :=
  ((cleanElements false (path.splitOn '/')).filter (· ≠ up)).reverse

theorem cleanElements_steps (path : Text) : (cleanElements false (path.splitOn '/')).reverse =
      List.replicate (stepsUp path) up ++ namesOf path := by
  obtain ⟨names, count, kept, proper⟩ := cleanElements_eq_append (path.splitOn '/')
  have others : names.filter (· ≠ up) = names := filter_eq_self.mpr fun name mem => by
      simpa using fun same : name = up => proper (same ▸ mem)
  have ups : (replicate count up).filter (· ≠ up) = [] := by
    simp
  unfold stepsUp namesOf
  rw [kept, count_append, count_eq_zero_of_not_mem proper, count_replicate_self,
    filter_append, others, ups]
  simp

theorem walk_up (back : Place) (count : Nat) :
    walk back (List.replicate count up) = back.drop count := by
  induction count generalizing back with
  | zero => rfl
  | succ count ih => simp [replicate_succ, ih]

theorem walk_names (back : Place) (plain : ∀ name ∈ names, name ≠ [] ∧ name ≠ ['.'] ∧ name ≠ up) :
    walk back names = names.reverse ++ back := by
  induction names generalizing back with
  | nil => rfl
  | cons name names ih =>
    obtain ⟨named, here, other⟩ := plain name mem_cons_self
    rw [walk_cons, ih _ fun n mem => plain n (mem_cons_of_mem _ mem)]
    simp [walkStep, named, here, other]

/-- A relative path leads from a place some steps up, and then down along its names. -/
theorem locate_relative (relative : path.head? ≠ some '/') (place : Place) :
    locate place path = place.take (place.length - stepsUp path) ++ namesOf path := by
  have plain : ∀ name ∈ namesOf path, name ≠ [] ∧ name ≠ ['.'] ∧ name ≠ up := by
    intro name mem
    obtain ⟨kept, other⟩ := mem_filter.mp (mem_reverse.mp mem)
    obtain ⟨named, here, -⟩ := of_mem_cleanElements kept
    exact ⟨named, here, by simpa using other⟩
  unfold locate
  rw [if_neg relative, ← walk_cleanElements false (by simp), cleanElements_steps,
    walk_append, walk_up, walk_names _ plain]
  simp [drop_reverse]

/-- A relative path leads below a place: it comes down again over what it goes back over, and
then further. -/
def LeadsBelow (place : Place) (path : Text) : Prop :=
  ∃ more, more ≠ [] ∧ namesOf path = place.drop (place.length - stepsUp path) ++ more

theorem locate_below_iff (relative : path.head? ≠ some '/') (place : Place) :
    (∃ more, more ≠ [] ∧ locate place path = place ++ more) ↔ LeadsBelow place path := by
  rw [locate_relative relative]
  unfold LeadsBelow
  generalize place.length - stepsUp path = kept
  refine exists_congr fun more => and_congr_right fun _ => ?_
  have parts : place ++ more = place.take kept ++ (place.drop kept ++ more) := by
    rw [← append_assoc, take_append_drop]
  rw [parts, append_cancel_left_eq]

theorem leadsBelow_of_plain (plain : PlainName name) (place : Place) : LeadsBelow place name := by
  rw [← locate_below_iff plain.relative]
  refine ⟨[name], cons_ne_nil _ _, ?_⟩
  simp [locate, plain.relative, plain.splitOn, walkStep_plain plain]

/-! ## The last element -/

/-- A path ends in this element. -/
def EndsIn (last path : Text) : Prop := path = last ∨ ∃ dir, path = dir ++ '/' :: last

/-- A path that ends in some text without a slash has a last element that ends in it. -/
theorem exists_last (ends : ext <:+ path) (whole : '/' ∉ ext) :
    ∃ last, '/' ∉ last ∧ ext <:+ last ∧ EndsIn last path := by
  by_cases slash : '/' ∈ path
  · obtain ⟨tail, dir, split, none⟩ := eq_append_cons_of_mem (mem_reverse.mpr slash)
    have shape : path = dir.reverse ++ '/' :: tail.reverse := by
      simpa using congrArg reverse split
    refine ⟨tail.reverse, by simpa using none, ?_, .inr ⟨dir.reverse, shape⟩⟩
    have last : '/' :: tail.reverse <:+ path := ⟨dir.reverse, shape.symm⟩
    by_cases short : ext.length ≤ tail.length
    · refine suffix_of_suffix_length_le ends ((suffix_cons '/' _).trans last) ?_
      simpa using short
    · have longer : '/' :: tail.reverse <:+ ext := by
        refine suffix_of_suffix_length_le last ends ?_
        simp only [length_cons, length_reverse]
        omega
      exact absurd (longer.subset mem_cons_self) whole
  · exact ⟨path, slash, ends, .inl rfl⟩

/-- A last element that ends in a text of three characters names an entry. -/
theorem plain_of_suffix (whole : '/' ∉ last) (ends : ext <:+ last) (long : 2 < ext.length) :
    PlainName last := by
  have length := ends.length_le
  refine ⟨?_, whole, ?_, ?_⟩ <;> rintro rfl <;>
    simp only [length_nil, length_cons] at length <;> omega

theorem last_intercalate (names : List Text) (last : Text) :
    EndsIn last (['/'].intercalate (names ++ [last])) := by
  induction names with
  | nil => exact .inl (by simp [intercalate])
  | cons name names ih =>
    rw [cons_append, intercalate_cons_of_ne_nil (by simp)]
    right
    rcases ih with single | ⟨dir, longer⟩
    · exact ⟨name, by rw [single]; simp⟩
    · exact ⟨name ++ '/' :: dir, by rw [longer]; simp⟩

/-- `Clean` keeps the last element of a path, if it is a plain name. -/
theorem last_cleanPath {init : List Text} (plain : PlainName last)
    (split : path.splitOn '/' = init ++ [last]) :
    EndsIn last (cleanPath path) := by
  have kept : ∀ rooted, (cleanElements rooted (path.splitOn '/')).reverse =
      (cleanElements rooted init).reverse ++ [last] := by
    intro rooted
    rw [split, cleanElements_concat]
    simp [cleanStep, plain.1, plain.2.2.1, plain.2.2.2]
  unfold cleanPath
  simp only [kept]
  split
  · rcases last_intercalate (cleanElements _ init).reverse last with single | ⟨dir, longer⟩
    · exact .inr ⟨[], by rw [single]; rfl⟩
    · exact .inr ⟨'/' :: dir, by rw [longer]; rfl⟩
  split
  · rename_i empty
    rcases last_intercalate (cleanElements _ init).reverse last with single | ⟨dir, longer⟩
    · exact absurd (single.symm.trans empty) plain.1
    · rw [longer] at empty
      simp at empty
  · exact last_intercalate _ _

/-- `Join` keeps the last element. -/
theorem last_join (plain : PlainName last) (shape : EndsIn last name) :
    EndsIn last (joinElements [dir, name]) := by
  have split : ∃ init, name.splitOn '/' = init ++ [last] := by
    rcases shape with rfl | ⟨front, rfl⟩
    · exact ⟨[], plain.splitOn⟩
    · exact ⟨front.splitOn '/', by rw [splitOn_append_cons_self, plain.splitOn]⟩
  have named : name ≠ [] := by
    rcases shape with rfl | ⟨front, rfl⟩
    · exact plain.1
    · simp
  obtain ⟨init, split⟩ := split
  by_cases empty : dir = []
  · rw [empty, join_nil_left named]
    exact last_cleanPath plain split
  · have whole : (dir ++ '/' :: name).splitOn '/' = (dir.splitOn '/' ++ init) ++ [last] := by
      rw [splitOn_append_cons_self, split, append_assoc]
    rw [join_cons empty named]
    exact last_cleanPath plain whole

theorem suffix_join (plain : PlainName last) (shape : EndsIn last name) :
    last <:+ joinElements [dir, name] := by
  rcases last_join plain shape with whole | ⟨front, longer⟩
  · rw [whole]
  · rw [longer]
    exact (suffix_cons _ _).trans (suffix_append _ _)

/-- `Join` keeps an extension of its last argument. -/
theorem extension_join (ends : ext <:+ name) (whole : '/' ∉ ext) (long : 2 < ext.length)
    (dir : Text) : ext <:+ joinElements [dir, name] := by
  obtain ⟨last, single, lastEnds, shape⟩ := exists_last ends whole
  exact lastEnds.trans (suffix_join (plain_of_suffix single lastEnds long) shape)

theorem extension_joinPath {name : String} (ends : ext <:+ name.toList) (whole : '/' ∉ ext)
    (long : 2 < ext.length) (dir : String) : ext <:+ (joinPath [dir, name]).toList := by
  simpa [joinPath] using extension_join ends whole long dir.toList

theorem cleanPath_rooted (rooted : path.head? = some '/') : (cleanPath path).head? = some '/' := by
  simp [cleanPath, rooted]

theorem join_rooted (rooted : dir.head? = some '/') :
    (joinElements [dir, name]).head? = some '/' := by
  have present : dir ≠ [] := by
    rintro rfl
    cases rooted
  by_cases empty : name = []
  · rw [empty, join_nil_right present]
    exact cleanPath_rooted rooted
  · rw [join_cons present empty]
    exact cleanPath_rooted (by rw [head?_append, rooted]; rfl)

/-- `filepath.Base` of a path whose last element is a plain name. -/
theorem basePath_last (plain : PlainName last) (shape : EndsIn last path) :
    basePath path = last := by
  have back : ∃ rest, path.reverse = last.reverse ++ rest ∧ rest.head? ∈ [none, some '/'] := by
    rcases shape with rfl | ⟨dir, rfl⟩
    · exact ⟨[], by simp, by simp⟩
    · exact ⟨'/' :: dir.reverse, by simp, by simp⟩
  obtain ⟨rest, back, start⟩ := back
  have whole : ∀ c ∈ last.reverse, c ≠ '/' := by
    rintro c mem rfl
    exact plain.2.1 (mem_reverse.mp mem)
  have stays : path.reverse.dropWhile (· = '/') = path.reverse := by
    rw [back]
    cases letters : last.reverse with
    | nil => exact absurd (reverse_eq_nil_iff.mp letters) plain.1
    | cons c letters' =>
      have first : c ≠ '/' := whole c (by simp [letters])
      simp [first]
  have taken : path.reverse.takeWhile (· ≠ '/') = last.reverse := by
    rw [back, takeWhile_append_of_pos (by simpa using whole)]
    cases rest with
    | nil => simp
    | cons c rest =>
      have slash : c = '/' := by simpa using start
      simp [slash]
  have present : path ≠ [] := by
    rintro rfl
    exact plain.1 (reverse_eq_nil_iff.mp taken.symm)
  unfold basePath
  rw [if_neg present, stays, taken]
  cases letters : last.reverse with
  | nil => exact absurd (reverse_eq_nil_iff.mp letters) plain.1
  | cons c letters' =>
    change (c :: letters').reverse = last
    rw [← letters, reverse_reverse]

theorem basePath_join (plain : PlainName name) (dir : Text) :
    basePath (joinElements [dir, name]) = name :=
  basePath_last plain (last_join plain (.inl rfl))

/-- `filepath.Base` yields one element. -/
theorem slash_not_mem_basePath (other : basePath path ≠ ['/']) : '/' ∉ basePath path := by
  unfold basePath at other ⊢
  split
  · decide
  rename_i given
  rw [if_neg given] at other
  split
  · rename_i none
    rw [none] at other
    exact absurd rfl other
  · intro mem
    have taken := mem_takeWhile_imp (mem_reverse.mp mem)
    simp at taken

/-! ## From every directory -/

theorem locate_of_rooted (rooted : path.head? = some '/') (cwd cwd' : Place) :
    locate cwd path = locate cwd' path := by
  simp [locate, rooted]

/-- Only a path from the root leads to one place from every directory. -/
theorem rooted_of_locate_const (const : ∀ cwd, locate cwd path = place) :
    path.head? = some '/' := by
  by_contra relative
  have long : ∀ extra, (locate (replicate (stepsUp path + extra) []) path).length =
      extra + (namesOf path).length := by
    intro extra
    rw [locate_relative relative]
    simp
  have first := long 0
  have second := long 1
  rw [const] at first second
  omega

theorem cleanPath_head_iff : (cleanPath path).head? = some '/' ↔ path.head? = some '/' := by
  constructor
  · intro rooted
    have const : ∀ cwd, locate cwd path = locate [] (cleanPath path) := by
      intro cwd
      rw [← locate_cleanPath]
      exact locate_of_rooted rooted _ _
    exact rooted_of_locate_const const
  · exact cleanPath_rooted

/-- A joined path starts at the root if its directory does. -/
theorem join_head_iff (relative : rel.head? ≠ some '/') (named : rel ≠ []) :
    (joinElements [dir, rel]).head? = some '/' ↔ dir.head? = some '/' := by
  cases dir with
  | nil =>
    rw [join_nil_left named, cleanPath_head_iff]
    exact iff_of_false relative (by simp)
  | cons c dir =>
    rw [join_cons (cons_ne_nil c dir) named, cleanPath_head_iff]
    rfl

theorem locate_append_ne (whole : '/' ∉ ext) (long : 2 < ext.length) (named : path ≠ [])
    (cwd : Place) : locate cwd (path ++ ext) ≠ locate cwd path := by
  obtain ⟨last, single, -, shape⟩ := exists_last path.nil_suffix (not_mem_nil)
  have extended : '/' ∉ last ++ ext := by
    rw [mem_append]
    exact not_or.mpr ⟨single, whole⟩
  have plain := plain_of_suffix extended (suffix_append last ext) long
  have elements : ∃ init, path.splitOn '/' = init ++ [last] ∧
      (path ++ ext).splitOn '/' = init ++ [last ++ ext] := by
    rcases shape with rfl | ⟨dir, rfl⟩
    · exact ⟨[], splitOn_eq_singleton single, splitOn_eq_singleton extended⟩
    · refine ⟨dir.splitOn '/', ?_, ?_⟩
      · rw [splitOn_append_cons_self, splitOn_eq_singleton single]
      · rw [append_assoc, cons_append, splitOn_append_cons_self, splitOn_eq_singleton extended]
  obtain ⟨init, shorter, longer⟩ := elements
  unfold locate
  rw [head?_append_of_ne_nil _ named, shorter, longer, walk_append, walk_append]
  generalize walk _ init = back
  rw [Ne, reverse_inj, walk_cons, walk_cons, walk_nil, walk_nil, walkStep_plain plain]
  -- the shorter element adds itself, or nothing, or goes back
  intro same
  have size := congrArg length same
  unfold walkStep at same size
  split at same
  · rename_i skipped
    simp [skipped] at size
  rename_i proper
  split at same
  · rename_i goesUp
    simp [goesUp] at size
    omega
  · obtain ⟨equal, -⟩ := cons.inj same
    have none := append_right_eq_self.mp equal
    rw [none] at long
    cases long

/-! ## Relative to a directory -/

theorem up_not_mem_cleanElements (elements : List Text) :
    up ∉ cleanElements true elements := by
  induction elements using reverseRecOn with
  | nil => exact not_mem_nil
  | append_singleton elements last ih =>
    rw [cleanElements_concat]
    unfold cleanStep
    split
    · exact ih
    split
    · cases kept : cleanElements true elements with
      | nil => exact not_mem_nil
      | cons first rest =>
        rw [kept, mem_cons, not_or] at ih
        simp only
        rw [if_neg (Ne.symm ih.1)]
        exact ih.2
    · rename_i down
      rw [mem_cons, not_or]
      exact ⟨Ne.symm down, ih⟩

/-- The elements that `Clean` leaves of a path from the root are its place. -/
theorem cleanElements_place (rooted : path.head? = some '/') (cwd : Place) :
    (cleanElements true (path.splitOn '/')).reverse = locate cwd path := by
  have plain : ∀ name ∈ (cleanElements true (path.splitOn '/')).reverse,
      name ≠ [] ∧ name ≠ ['.'] ∧ name ≠ up := by
    intro name mem
    have kept := mem_reverse.mp mem
    obtain ⟨named, here, -⟩ := of_mem_cleanElements kept
    exact ⟨named, here, fun isUp => up_not_mem_cleanElements _ (isUp ▸ kept)⟩
  unfold locate
  rw [if_pos rooted, ← walk_cleanElements true (fun _ => rfl), walk_names _ plain]
  simp

theorem dropCommon_spec (first second : List Text) :
    ∃ common, first = common ++ (dropCommon first second).1 ∧
      second = common ++ (dropCommon first second).2 ∧
      ((dropCommon first second).1 = [] ↔ first <+: second) := by
  induction first, second using dropCommon.induct with
  | case1 as b bs ih =>
    obtain ⟨common, left, right, ended⟩ := ih
    unfold dropCommon
    rw [if_pos rfl, prefix_cons_inj]
    exact ⟨b :: common, by rw [cons_append, ← left], by rw [cons_append, ← right], ended⟩
  | case2 a as b bs differ =>
    unfold dropCommon
    rw [if_neg differ]
    refine ⟨[], rfl, rfl, iff_of_false (cons_ne_nil _ _) ?_⟩
    intro starts
    exact differ (cons_prefix_cons.mp starts).1
  | case3 as bs ended =>
    refine ⟨[], ?_⟩
    cases as with
    | nil => simp [dropCommon]
    | cons a as =>
      cases bs with
      | nil => simp [dropCommon]
      | cons b bs => exact absurd rfl (ended a as b bs rfl)

/-- A text without a slash that begins a path begins its first element. -/
theorem prefix_intercalate_iff (whole : '/' ∉ text) :
    text <+: ['/'].intercalate (first :: rest) ↔ text <+: first := by
  cases rest with
  | nil => simp [intercalate]
  | cons next rest =>
    have shape : ['/'].intercalate (first :: next :: rest) =
        first ++ '/' :: ['/'].intercalate (next :: rest) := by
      simp [intercalate]
    rw [shape, prefix_append_cons_iff whole]

/-- The test with `filepath.Rel` for a path outside a directory: it is taken for one outside
also if the entry of the directory that it leads through begins with two dots. -/
theorem relPath_up_iff {base target : Text} (rootedBase : base.head? = some '/')
    (rooted : target.head? = some '/') (cwd : Place) :
    ∃ rel, relPath base target = some rel ∧
      (up <+: rel ↔ ¬ locate cwd base <+: locate cwd target ∨
        ∃ name more, locate cwd target = locate cwd base ++ name :: more ∧ up <+: name) := by
  obtain ⟨common, left, right, ended⟩ := dropCommon_spec (locate cwd base) (locate cwd target)
  unfold relPath
  rw [if_pos rootedBase]
  simp only [cleanElements_place rootedBase cwd, cleanElements_place rooted cwd]
  generalize dropCommon (locate cwd base) (locate cwd target) = rest at left right ended
  obtain ⟨above, below⟩ := rest
  cases above with
  | cons name names =>
    refine ⟨_, rfl, iff_of_true ?_ (.inl (ended.not.mp (cons_ne_nil _ _)))⟩
    exact (prefix_intercalate_iff (by decide)).mpr (prefix_refl up)
  | nil =>
    have inside := ended.mp rfl
    rw [append_nil] at left
    rw [← left] at right
    cases below with
    | nil =>
      refine ⟨_, rfl, iff_of_false (by decide) ?_⟩
      rintro (outside | ⟨name, more, same, -⟩)
      · exact outside inside
      · rw [right, append_cancel_left_eq] at same
        cases same
    | cons name more =>
      refine ⟨_, rfl, (prefix_intercalate_iff (by decide)).trans ⟨fun dots => ?_, ?_⟩⟩
      · exact .inr ⟨name, more, right, dots⟩
      · rintro (outside | ⟨name', more', same, dots⟩)
        · exact absurd inside outside
        · rw [right, append_cancel_left_eq] at same
          cases same
          exact dots

end Vee
