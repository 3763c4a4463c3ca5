import Vee.Cmd.SSHArgs
import Vee.Misc.Shell
import Vee.Misc.WindowsArgs

/-!
# The remote command reaches the guest

The text that `buildSSHArgs` makes of a remote command is read back as the same words: by a POSIX
shell, and by the C runtime, while `cmd.exe` sees no operator in it.
-/

namespace Vee.Cmd

open List

variable {others : String} {c : Char} {s word : Text}

theorem bare_ne {special : Char} (isBare : bare others c = true)
    (other : bare others special = false) : c ≠ special := by
  rintro rfl
  simp [other] at isBare

/-- The words behind the first one, each with its blank. -/
def spaced (quote : Text → Text) (args : List Text) : Text :=
  args.flatMap fun arg => ' ' :: quote arg

theorem remoteText_cons (windowsGuest : Bool) (name : Text) (args : List Text) :
    remoteText windowsGuest (name :: args) =
      (if windowsGuest then cmdQuote else shellQuote) name ++
        spaced (if windowsGuest then cmdQuote else shellQuote) args := by
  induction args generalizing name with
  | nil => simp [remoteText, spaced]
  | cons next args ih =>
    have later := ih next
    simp only [remoteText, spaced, map_cons, flatMap_cons, intercalate_cons_cons] at later ⊢
    simp [later]

/-! ### A POSIX shell -/

section Posix

open Shell

theorem step_bare {seen : Option Text} (isBare : bare "@%_-+=:,./" c = true) :
    step (.plain seen) c = some ([], .plain (some (seen.getD [] ++ [c]))) := by
  have ne : ∀ special, bare "@%_-+=:,./" special = false → c ≠ special :=
    fun _ => bare_ne isBare
  have operator : operator c = none := by
    unfold Shell.operator
    split <;> first | rfl | exact absurd rfl (ne _ (by decide))
  simp [step, expands, operator, ne '\\' (by decide), ne '\'' (by decide), ne '"' (by decide),
    ne '$' (by decide), ne '\x60' (by decide), ne ' ' (by decide), ne '\t' (by decide),
    ne '#' (by decide)]

theorem active_bare (isBare : bare "@%_-+=:,./" c = true) : active c = false := by
  have ne : ∀ special, bare "@%_-+=:,./" special = false → c ≠ special :=
    fun _ => bare_ne isBare
  simp [active, ne '*' (by decide), ne '?' (by decide), ne '[' (by decide), ne '~' (by decide)]

theorem bare_leads (all : ∀ c ∈ s, bare "@%_-+=:,./" c = true) :
    Leads (.plain (some word)) s (.plain (some (word ++ s))) := by
  induction s generalizing word with
  | nil => simpa using Leads.refl
  | cons c s ih =>
    have here := all c mem_cons_self
    refine .cons (step_bare here) (by simp [active_bare here]) ?_
    simpa using @ih (word ++ [c]) fun d mem => all d (mem_cons_of_mem c mem)

theorem single_leads : Leads (.single word)
    (s.flatMap (fun c => if c = '\'' then "'\\''".toList else [c]) ++ ['\''])
    (.plain (some (word ++ s))) := by
  induction s generalizing word with
  | nil => simpa using Leads.cons (c := '\'') rfl rfl .refl
  | cons c s ih =>
    have later := @ih (word ++ [c])
    rw [append_assoc, singleton_append] at later
    by_cases quote : c = '\''
    · subst quote
      exact .cons rfl rfl (.cons rfl rfl (.cons rfl rfl (.cons rfl rfl later)))
    · rw [flatMap_cons, if_neg quote]
      exact .cons (by simp [step, quote]) rfl later

theorem shellQuote_leads (s : Text) :
    Leads (.plain none) (shellQuote s) (.plain (some s)) := by
  unfold shellQuote
  split
  · rename_i empty
    subst empty
    exact .cons rfl rfl (.cons rfl rfl .refl)
  split
  · rename_i some' all
    obtain ⟨c, s, rfl⟩ := exists_cons_of_ne_nil some'
    simp only [all_cons, Bool.and_eq_true, all_eq_true] at all
    exact .cons (step_bare all.1) (by simp [active_bare all.1]) (bare_leads all.2)
  · exact .cons rfl rfl single_leads

theorem lex_spaced (args : List Text) (word : Text) :
    Shell.lex (.plain (some word)) (spaced shellQuote args) = some ((word :: args).map .word) ∧
      inert (.plain (some word)) (spaced shellQuote args) = true := by
  induction args generalizing word with
  | nil => exact ⟨rfl, rfl⟩
  | cons next args ih =>
    have blank : step (.plain (some word)) ' ' = some ([.word word], .plain none) := rfl
    obtain ⟨read, kept⟩ := shellQuote_leads next (spaced shellQuote args)
    obtain ⟨later, still⟩ := ih next
    rw [later] at read
    rw [still] at kept
    change Shell.lex _ (' ' :: (shellQuote next ++ spaced shellQuote args)) = _ ∧
      inert _ (' ' :: (shellQuote next ++ spaced shellQuote args)) = _
    simp [Shell.lex, inert, blank, active, read, kept]

end Posix

/-- The text for a POSIX guest is one simple command with exactly the words that were given, if
the first one is no assignment and not reserved. -/
theorem remote_argv_survives (user host : Text) (port : Int)
    (identity knownHosts name : Text) (args extra : List Text) (plain : '=' ∉ name)
    (free : name ∉ Shell.reservedWords) :
    ∃ text, buildSSHArgs user host port identity knownHosts (name :: args) extra false =
        buildSSHArgs user host port identity knownHosts [] extra false ++ [text] ∧
      Shell.simpleCommand text = some (name :: args) := by
  refine ⟨remoteText false (name :: args), ?_, ?_⟩
  · unfold buildSSHArgs
    rw [if_pos (cons_ne_nil name args), if_neg (not_not.mpr rfl), append_nil]
  · obtain ⟨read, kept⟩ := shellQuote_leads name (spaced shellQuote args)
    obtain ⟨later, still⟩ := lex_spaced args name
    rw [remoteText_cons]
    exact Shell.simpleCommand_eq (read.trans later) (kept.trans still) plain free

/-- `printf` with an empty word, a quote, a line end and an expansion. -/
theorem hostile_words_survive :
    ∃ text, buildSSHArgs [] "10.0.2.15".toList 2222 [] [] ("printf".toList ::
          [[], "it's".toList, "a\n$HOME".toList]) [] false =
        buildSSHArgs [] "10.0.2.15".toList 2222 [] [] [] [] false ++ [text] ∧
      Shell.simpleCommand text =
        some ("printf".toList :: [[], "it's".toList, "a\n$HOME".toList]) :=
  remote_argv_survives [] "10.0.2.15".toList 2222 [] [] _ _ [] (by decide) (by decide)

/-! ### A Windows guest -/

section Windows

open WindowsArgs

variable {rest : Text} {slashes : Nat}

theorem plain_bare (isBare : bare "@%_-+=:,./\\" c = true) : WindowsArgs.Plain c := by
  have ne : ∀ special, bare "@%_-+=:,./\\" special = false → c ≠ special :=
    fun _ => bare_ne isBare
  exact ⟨ne _ (by decide), by simp [blank, ne ' ' (by decide), ne '\t' (by decide)]⟩

/-- The runtime undoes what the loop does: what it has seen behind the word are the backslashes
that the loop has counted. -/
theorem arguments_quoteLoop (ends : AtEnd rest) :
    arguments (some word) true slashes (quoteLoop slashes s ++ rest) =
      (word ++ replicate slashes '\\' ++ s) :: arguments none false 0 rest := by
  induction s generalizing word slashes with
  | nil => simpa [quoteLoop] using arguments_close ends
  | cons c s ih =>
    rw [quoteLoop]
    split
    · rename_i slash
      rw [cons_append, arguments, if_pos slash, Option.getD_some, ih, replicate_succ', slash]
      simp
    rename_i notSlash
    split
    · rename_i quote
      rw [quote, append_assoc, cons_append, cons_append, arguments_doubled, ih]
      simp
    · rename_i notQuote
      rw [cons_append, arguments, if_neg notSlash, if_neg notQuote, if_neg (by simp), ih]
      simp

theorem cmdQuote_cases (s : Text) :
    s ≠ [] ∧ (∀ c ∈ s, bare "@%_-+=:,./\\" c = true) ∧ cmdQuote s = s ∨
      cmdQuote s = '"' :: quoteLoop 0 s := by
  unfold cmdQuote
  split
  · rename_i empty
    subst empty
    exact .inr rfl
  split
  · rename_i some' all
    exact .inl ⟨some', all_eq_true.mp all, rfl⟩
  · exact .inr rfl

theorem arguments_cmdQuote (s : Text) (ends : AtEnd rest) :
    arguments none false 0 (cmdQuote s ++ rest) = s :: arguments none false 0 rest := by
  obtain ⟨some', all, same⟩ | quoted := cmdQuote_cases s
  · obtain ⟨c, s, rfl⟩ := exists_cons_of_ne_nil some'
    rw [same, cons_append, arguments_begin (plain_bare (all c mem_cons_self)), ← cons_append,
      arguments_plain (fun d mem => plain_bare (all d mem)) ends]
    rfl
  · rw [quoted]
    exact @arguments_quoteLoop s [] rest 0 ends

variable (s rest) in
/-- A scan that only looks at quotes: those of the loop toggle it twice, but for the last one. -/
theorem quoteLoop_toggles {β : Type} (scan : Bool → Text → β) (slashes : Nat)
    (toggle : ∀ quoted rest, scan quoted ('"' :: rest) = scan (!quoted) rest)
    (skip : ∀ c rest, c ≠ '"' → scan true (c :: rest) = scan true rest) :
    scan true (quoteLoop slashes s ++ rest) = scan false rest := by
  have skipped : ∀ n rest, scan true (replicate n '\\' ++ rest) = scan true rest := by
    intro n rest
    induction n with
    | zero => rfl
    | succ n ih => exact (skip _ _ (by decide)).trans ih
  induction s generalizing slashes with
  | nil => simp [quoteLoop, skipped, toggle]
  | cons c s ih =>
    rw [quoteLoop]
    split
    · rename_i slash
      rw [cons_append, skip _ _ (by simp [slash]), ih]
    split
    · rename_i quote
      simp [quote, skipped, toggle, ih]
    · rename_i other
      rw [cons_append, skip _ _ other, ih]

/-- The operators of `cmd.exe`. -/
def cmdOperators : Text := "&|<>^()".toList

theorem outside_cmdQuote (shown : c ∈ outside false (cmdQuote s ++ rest)) :
    c ∉ cmdOperators ∨ c ∈ outside false rest := by
  obtain ⟨-, all, same⟩ | quoted := cmdQuote_cases s
  · rw [same, outside_plain fun c mem => plain_bare (all c mem), mem_append] at shown
    have others : ∀ c ∈ cmdOperators, bare "@%_-+=:,./\\" c = false := by simp [cmdOperators, bare]
    exact shown.imp_left fun mem operator => bare_ne (all c mem) (others c operator) rfl
  · have toggled := quoteLoop_toggles s rest outside 0 (by simp [outside])
      (by simp +contextual [outside])
    rw [quoted] at shown
    exact .inr (toggled ▸ shown)

theorem behindProgram_cmdQuote (s : Text) (ends : AtEnd rest) :
    behindProgram false (cmdQuote s ++ rest) = rest := by
  obtain ⟨-, all, same⟩ | quoted := cmdQuote_cases s
  · rw [same, behindProgram_plain fun c mem => plain_bare (all c mem), behindProgram_end ends]
  · have toggled := quoteLoop_toggles s rest behindProgram 0 (by simp [behindProgram])
      (by simp +contextual [behindProgram])
    rw [quoted]
    exact toggled.trans (behindProgram_end ends)

theorem ends_spaced (args : List Text) : AtEnd (spaced cmdQuote args) := by
  cases args with
  | nil => exact nofun
  | cons next args =>
    rintro c ⟨⟩
    rfl

theorem arguments_spaced (args : List Text) :
    arguments none false 0 (spaced cmdQuote args) = args := by
  induction args with
  | nil => rfl
  | cons next args ih =>
    have skipped : arguments none false 0 (' ' :: (cmdQuote next ++ spaced cmdQuote args)) =
        arguments none false 0 (cmdQuote next ++ spaced cmdQuote args) := by
      simp [arguments, blank]
    exact skipped.trans ((arguments_cmdQuote next (ends_spaced args)).trans (by rw [ih]))

theorem outside_spaced (args : List Text) :
    ∀ c ∈ outside false (spaced cmdQuote args), c ∉ cmdOperators := by
  induction args with
  | nil => exact nofun
  | cons next args ih =>
    intro c shown
    rcases mem_cons.mp shown with rfl | shown
    · decide
    · exact (outside_cmdQuote shown).elim id (ih c)

end Windows

/-- The text for a Windows guest gives a program exactly the arguments that were given behind its
name, and `cmd.exe` no operator. -/
theorem windows_argv_survives (argv : List Text) :
    WindowsArgs.argvTail (remoteText true argv) = argv.tail ∧
      ∀ c ∈ WindowsArgs.outside false (remoteText true argv), c ∉ cmdOperators := by
  cases argv with
  | nil => exact ⟨rfl, nofun⟩
  | cons name args =>
    rw [remoteText_cons]
    constructor
    · exact (congrArg _ (behindProgram_cmdQuote name (ends_spaced args))).trans
        (arguments_spaced args)
    · exact fun c shown => (outside_cmdQuote shown).elim id (outside_spaced args c)

end Vee.Cmd
