import Mathlib.Data.List.Basic
import Vee.Misc.GoText

/-!
# Command lines on Windows

A program gets one text and splits it into its arguments by the rules of the C runtime. Before
that, `cmd.exe` scans the text for its operators, and only looks at the quotes.
-/

namespace Vee.WindowsArgs

open List

/-- What stands outside quotes, for a scan that every quote toggles. -/
def outside : Bool → Text → Text
  | _, [] => []
  | quoted, c :: rest =>
    if c = '"' then outside (!quoted) rest
    else if quoted then outside quoted rest
    else c :: outside quoted rest

def blank (c : Char) : Bool := c = ' ' || c = '\t'

/-- What stands behind the program name, which ends at a blank outside quotes. -/
def behindProgram : Bool → Text → Text
  | _, [] => []
  | quoted, c :: rest =>
    if c = '"' then behindProgram (!quoted) rest
    else if blank c && !quoted then c :: rest
    else behindProgram quoted rest

/-- The arguments behind the program name. The reader has seen `word` of an argument and
`slashes` backslashes behind it, which are halved in front of a quote. -/
def arguments (word : Option Text) (quoted : Bool) (slashes : Nat) :
    Text → List Text
  | [] => (word.map (· ++ replicate slashes '\\')).toList
  | c :: rest =>
    if c = '\\' then arguments (some (word.getD [])) quoted (slashes + 1) rest
    else if c = '"' then
      let before := word.getD [] ++ replicate (slashes / 2) '\\'
      if slashes % 2 = 1 then arguments (some (before ++ [c])) quoted 0 rest
      else
        match quoted, rest with
        -- a doubled quote
        | true, '"' :: rest => arguments (some (before ++ ['"'])) true 0 rest
        | _, rest => arguments (some before) (!quoted) 0 rest
    else if blank c && !quoted then
      (word.map (· ++ replicate slashes '\\')).toList ++ arguments none false 0 rest
    else arguments (some (word.getD [] ++ replicate slashes '\\' ++ [c])) quoted 0 rest

/-- `argv` without the program name. -/
def argvTail (line : Text) : List Text :=
  arguments none false 0 (behindProgram false line)

variable {word text rest : Text} {quoted : Bool} {slashes : Nat}

theorem arguments_cons (word : Option Text) (c : Char) :
    arguments word quoted slashes (c :: rest) =
      if c = '\\' then arguments (some (word.getD [])) quoted (slashes + 1) rest
      else if c = '"' then
        let before := word.getD [] ++ replicate (slashes / 2) '\\'
        if slashes % 2 = 1 then arguments (some (before ++ [c])) quoted 0 rest
        else if quoted ∧ rest.head? = some '"' then
          arguments (some (before ++ ['"'])) true 0 rest.tail
        else arguments (some before) (!quoted) 0 rest
      else if blank c && !quoted then
        (word.map (· ++ replicate slashes '\\')).toList ++ arguments none false 0 rest
      else arguments (some (word.getD [] ++ replicate slashes '\\' ++ [c])) quoted 0 rest := by
  rw [arguments]
  cases quoted with
  | false => simp
  | true => cases rest with
    | nil => simp
    | cons d rest => by_cases quote : d = '"' <;> simp [quote]

theorem arguments_slashes (n : Nat) :
    arguments (some word) quoted slashes (replicate n '\\' ++ rest) =
      arguments (some word) quoted (slashes + n) rest := by
  induction n generalizing slashes with
  | zero => rfl
  | succ n ih =>
    rw [replicate_succ, cons_append, arguments_cons, if_pos rfl, Option.getD_some, ih]
    congr 1
    omega

/-- An argument ends here. -/
def AtEnd (rest : Text) : Prop := ∀ c ∈ rest.head?, c = ' '

theorem arguments_end (ends : AtEnd rest) : arguments (some word) false slashes rest =
      (word ++ replicate slashes '\\') :: arguments none false 0 rest := by
  cases rest with
  | nil => rfl
  | cons c rest =>
    obtain rfl := ends c rfl
    simp [arguments_cons, blank]

/-- Twice as many backslashes in front of a quote stand for so many. -/
theorem arguments_doubled :
    arguments (some word) true slashes (replicate slashes '\\' ++ '"' :: '"' :: rest) =
      arguments (some (word ++ replicate slashes '\\' ++ ['"'])) true 0 rest := by
  have half : (slashes + slashes) / 2 = slashes := by omega
  have even : (slashes + slashes) % 2 ≠ 1 := by omega
  rw [arguments_slashes]
  simp [arguments_cons, half, even]

theorem arguments_close (ends : AtEnd rest) :
    arguments (some word) true slashes (replicate slashes '\\' ++ '"' :: rest) =
      (word ++ replicate slashes '\\') :: arguments none false 0 rest := by
  have half : (slashes + slashes) / 2 = slashes := by omega
  have even : (slashes + slashes) % 2 ≠ 1 := by omega
  have single : rest.head? ≠ some '"' := fun quote => absurd (ends _ quote) (by decide)
  rw [arguments_slashes]
  simp [arguments_cons, half, even, single, arguments_end ends]

/-- The character means nothing. -/
def Plain (c : Char) : Prop := c ≠ '"' ∧ blank c = false

theorem arguments_plain (all : ∀ c ∈ text, Plain c) (ends : AtEnd rest) :
    arguments (some word) false slashes (text ++ rest) =
      (word ++ replicate slashes '\\' ++ text) :: arguments none false 0 rest := by
  induction text generalizing word slashes with
  | nil => simpa using arguments_end ends
  | cons c text ih =>
    have here := all c mem_cons_self
    have later := fun d mem => all d (mem_cons_of_mem c mem)
    rw [cons_append, arguments_cons]
    by_cases slash : c = '\\'
    · rw [if_pos slash, Option.getD_some, ih later, replicate_succ', slash]
      simp
    · rw [if_neg slash, if_neg here.1, if_neg (by simp [here.2]), ih later]
      simp

theorem arguments_begin {c : Char} (here : Plain c) :
    arguments none quoted 0 (c :: rest) = arguments (some []) quoted 0 (c :: rest) := by
  simp [arguments_cons, here.1, here.2]

theorem outside_plain (all : ∀ c ∈ text, Plain c) :
    outside false (text ++ rest) = text ++ outside false rest := by
  induction text with
  | nil => rfl
  | cons c text ih =>
    have here := all c mem_cons_self
    simp [outside, here.1, ih fun d mem => all d (mem_cons_of_mem c mem)]

theorem behindProgram_plain (all : ∀ c ∈ text, Plain c) :
    behindProgram false (text ++ rest) = behindProgram false rest := by
  induction text with
  | nil => rfl
  | cons c text ih =>
    have here := all c mem_cons_self
    simp [behindProgram, here.1, here.2, ih fun d mem => all d (mem_cons_of_mem c mem)]

theorem behindProgram_end (ends : AtEnd rest) : behindProgram false rest = rest := by
  cases rest with
  | nil => rfl
  | cons c rest =>
    obtain rfl := ends c rfl
    simp [behindProgram, blank]

end Vee.WindowsArgs
