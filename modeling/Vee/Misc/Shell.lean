import Mathlib.Algebra.GroupWithZero.Nat
import Mathlib.Data.List.Basic
import Vee.Misc.GoText

/-!
# Shell commands

How a POSIX shell reads a text: the words with their quotes, the operators, and the simple
commands, redirections of the output, pipelines and lists that they form. A text that uses
anything else, or that is no command at all, is not read.
-/

namespace Vee.Shell

open List Option

/-- What a text consists of. -/
inductive Token where
  | word (text : Text)
  | pipe
  | out
  | semicolon
  | newline
  | other (c : Char)
  deriving DecidableEq, Repr

/-- What the reader has seen of a word, if it is in one. -/
inductive Reading where
  | plain (word : Option Text)
  /-- Behind a backslash. -/
  | escaped (word : Option Text)
  | single (word : Text)
  | double (word : Text)
  /-- Behind a backslash in double quotes. -/
  | doubleEscaped (word : Text)
  | comment
  deriving DecidableEq, Repr

/-- The characters that are operators. A longer operator is read as several of them, which form
nothing that is read here. -/
def operator : Char → Option Token
  | '|' => some .pipe
  | '>' => some .out
  | ';' => some .semicolon
  | '\n' => some .newline
  | '&' => some (.other '&')
  | '<' => some (.other '<')
  | '(' => some (.other '(')
  | ')' => some (.other ')')
  | _ => none

/-- An expansion begins. -/
def expands (c : Char) : Bool := c = '$' || c = '\x60'

/-- The word that ends. -/
def ended (word : Option Text) : List Token := (word.map Token.word).toList

/-- Reading one character: the tokens that end with it, and what comes then. -/
def step : Reading → Char → Option (List Token × Reading)
  | .plain word, c =>
    if c = '\\' then some ([], .escaped word)
    else if c = '\'' then some ([], .single (word.getD []))
    else if c = '"' then some ([], .double (word.getD []))
    else if expands c then none
    else if c = ' ' ∨ c = '\t' then some (ended word, .plain none)
    else if c = '#' ∧ word = none then some ([], .comment)
    else
      match operator c with
      | some token => some (ended word ++ [token], .plain none)
      | none => some ([], .plain (some (word.getD [] ++ [c])))
  | .escaped word, c =>
    -- a line that is continued
    if c = '\n' then some ([], .plain word)
    else some ([], .plain (some (word.getD [] ++ [c])))
  | .single word, c =>
    if c = '\'' then some ([], .plain (some word)) else some ([], .single (word ++ [c]))
  | .double word, c =>
    if c = '"' then some ([], .plain (some word))
    else if c = '\\' then some ([], .doubleEscaped word)
    else if expands c then none
    else some ([], .double (word ++ [c]))
  | .doubleEscaped word, c =>
    if c = '\n' then some ([], .double word)
    else if expands c ∨ c = '"' ∨ c = '\\' then some ([], .double (word ++ [c]))
    else some ([], .double (word ++ ['\\', c]))
  | .comment, c =>
    if c = '\n' then some ([.newline], .plain none) else some ([], .comment)

/-- The end of the text; a quote must have been closed. -/
def finish : Reading → Option (List Token)
  | .plain word => some (ended word)
  | .comment => some []
  | _ => none

/-- The tokens of a text. -/
def lex : Reading → Text → Option (List Token)
  | reading, [] => finish reading
  | reading, c :: rest =>
    match step reading c with
    | none => none
    | some (tokens, next) => (lex next rest).map (tokens ++ ·)

/-- A simple command: its words, and the files that its output goes to. -/
structure Command where
  words : List Text := []
  writes : List Text := []
  deriving DecidableEq, Repr

/-- A list of pipelines. -/
abbrev Script := List (List Command)

/-- What the parser has seen: whole pipelines, the commands of the next one, and the words of the
next command. -/
structure Progress where
  script : Script := []
  commands : List Command := []
  current : Command := {}

namespace Progress

/-- No command has begun. -/
def idle (p : Progress) : Bool := p.current = {}

def addWord (p : Progress) (word : Text) : Progress :=
  { p with current := { p.current with words := p.current.words ++ [word] } }

def addWrite (p : Progress) (path : Text) : Progress :=
  { p with current := { p.current with writes := p.current.writes ++ [path] } }

/-- A command ends, and its output goes on to the next one. -/
def endCommand (p : Progress) : Progress :=
  { p with commands := p.commands ++ [p.current], current := {} }

def endPipeline (p : Progress) : Progress where
  script := p.script ++ [p.commands ++ [p.current]]

end Progress

/-- The commands that some tokens form. -/
def parseTokens : Progress → List Token → Option Script
  | p, [] =>
    if !p.idle then some p.endPipeline.script
    else if p.commands = [] then some p.script else none
  | p, .word word :: rest => parseTokens (p.addWord word) rest
  | p, .out :: .word path :: rest => parseTokens (p.addWrite path) rest
  | p, .pipe :: rest => if p.idle then none else parseTokens p.endCommand rest
  | p, .semicolon :: rest => if p.idle then none else parseTokens p.endPipeline rest
  -- an empty line, or one behind a pipe
  | p, .newline :: rest => if p.idle then parseTokens p rest else parseTokens p.endPipeline rest
  | _, .out :: _ => none
  | _, .other _ :: _ => none

variable (p : Progress) (text : Text) (reading : Reading)

/-- The commands of a text. -/
def parse : Option Script :=
  (lex (.plain none) text).bind (parseTokens {})

/-! ### Words -/

/-- What the reader has done behind a part of the text. -/
def scan : Reading → Text → Option (List Token × Reading)
  | reading, [] => some ([], reading)
  | reading, c :: rest =>
    match step reading c with
    | none => none
    | some (tokens, next) => (scan next rest).map fun out => (tokens ++ out.1, out.2)

variable {tokens : List Token}

theorem lex_append {reading next : Reading} {text : Text}
    (scanned : scan reading text = some (tokens, next)) (rest : Text) :
    lex reading (text ++ rest) = (lex next rest).map (tokens ++ ·) := by
  induction text generalizing reading tokens with
  | nil =>
    cases scanned
    simp
  | cons c text ih =>
    simp only [scan] at scanned
    simp only [cons_append, lex]
    cases stepped : step reading c with
    | none =>
      rw [stepped] at scanned
      cases scanned
    | some out =>
      rw [stepped] at scanned
      obtain ⟨later, again, same⟩ := map_eq_some_iff.mp scanned
      cases same
      simp only
      rw [ih again, Option.map_map]
      congr 1
      funext more
      simp

/-- The reader is in a word. -/
def Reading.InWord : Reading → Prop
  | .plain (some _) | .escaped (some _) | .single _ | .double _ | .doubleEscaped _ => True
  | _ => False

/-- Some text stands in front of the word that is being read. -/
def Reading.behind : Reading → Reading
  | .plain word => .plain (word.map (text ++ ·))
  | .escaped word => .escaped (word.map (text ++ ·))
  | .single word => .single (text ++ word)
  | .double word => .double (text ++ word)
  | .doubleEscaped word => .doubleEscaped (text ++ word)
  | .comment => .comment

/-- Some text stands in front of the first word. -/
def lengthen : List Token → List Token
  | .word word :: rest => .word (text ++ word) :: rest
  | tokens => tokens

/-- What a step does with text in front of the word: the word goes on, or it ends. -/
theorem step_behind {reading : Reading} (inside : reading.InWord) (c : Char) (text : Text) :
    (step reading c = none ∧ step (reading.behind text) c = none) ∨
    (∃ next, step reading c = some ([], next) ∧
      step (reading.behind text) c = some ([], next.behind text) ∧ next.InWord) ∨
    ∃ word rest next, step reading c = some (.word word :: rest, next) ∧
      step (reading.behind text) c = some (.word (text ++ word) :: rest, next) := by
  match reading, inside with
  | .plain (some word), _ =>
    simp only [Reading.behind, map_some, step, reduceCtorEq, and_false, if_false, getD_some]
    split
    · exact .inr (.inl ⟨_, rfl, rfl, trivial⟩)
    split
    · exact .inr (.inl ⟨_, rfl, rfl, trivial⟩)
    split
    · exact .inr (.inl ⟨_, rfl, rfl, trivial⟩)
    split
    · exact .inl ⟨rfl, rfl⟩
    split
    · exact .inr (.inr ⟨word, [], _, rfl, rfl⟩)
    cases operator c with
    | some token => exact .inr (.inr ⟨word, [token], _, rfl, rfl⟩)
    | none =>
      refine .inr (.inl ⟨_, rfl, ?_, trivial⟩)
      simp
  | .escaped (some word), _ =>
    simp only [Reading.behind, map_some, step, getD_some]
    split
    · exact .inr (.inl ⟨_, rfl, rfl, trivial⟩)
    · refine .inr (.inl ⟨_, rfl, ?_, trivial⟩)
      simp
  | .single word, _ =>
    simp only [Reading.behind, step]
    split
    · exact .inr (.inl ⟨_, rfl, rfl, trivial⟩)
    · refine .inr (.inl ⟨_, rfl, ?_, trivial⟩)
      simp
  | .double word, _ =>
    simp only [Reading.behind, step]
    split
    · exact .inr (.inl ⟨_, rfl, rfl, trivial⟩)
    split
    · exact .inr (.inl ⟨_, rfl, rfl, trivial⟩)
    split
    · exact .inl ⟨rfl, rfl⟩
    · refine .inr (.inl ⟨_, rfl, ?_, trivial⟩)
      simp
  | .doubleEscaped word, _ =>
    simp only [Reading.behind, step]
    split
    · exact .inr (.inl ⟨_, rfl, rfl, trivial⟩)
    split <;>
      · refine .inr (.inl ⟨_, rfl, ?_, trivial⟩)
        simp

theorem lex_behind (inside : reading.InWord) (input : Text) :
    lex (reading.behind text) input = (lex reading input).map (lengthen text) := by
  induction input generalizing reading with
  | nil =>
    match reading, inside with
    | .plain (some word), _ => rfl
    | .escaped (some word), _ | .single word, _ | .double word, _ | .doubleEscaped word, _ => rfl
  | cons c rest ih =>
    simp only [lex]
    rcases step_behind inside c text with ⟨alone, together⟩ | ⟨next, alone, together, still⟩ |
      ⟨word, tokens, next, alone, together⟩
    · rw [alone, together]
      rfl
    · rw [alone, together]
      simp only [nil_append, Option.map_id_fun', id_eq]
      exact ih next still
    · rw [alone, together]
      simp only [Option.map_map]
      rfl

theorem lex_word (inside : reading.InWord) {input : Text}
    (read : lex reading input = some tokens) :
    ∃ word rest, tokens = .word word :: rest := by
  induction input generalizing reading tokens with
  | nil =>
    match reading, inside with
    | .plain (some word), _ =>
      cases read
      exact ⟨word, [], rfl⟩
  | cons c rest ih =>
    simp only [lex] at read
    rcases step_behind inside c [] with ⟨alone, -⟩ | ⟨next, alone, -, still⟩ |
      ⟨word, ended, next, alone, -⟩
    · rw [alone] at read
      cases read
    · rw [alone] at read
      simp only [nil_append, Option.map_id_fun', id_eq] at read
      exact ih next still read
    · rw [alone] at read
      obtain ⟨more, -, rfl⟩ := Option.map_eq_some_iff.mp read
      exact ⟨word, ended ++ more, rfl⟩

/-- A character stands for itself in double quotes. -/
def ordinary (c : Char) : Bool := c ≠ '"' && c ≠ '\\' && !expands c

theorem lex_quoted {text : Text} (plain : ∀ c ∈ text, ordinary c = true)
    (word rest : Text) :
    lex (.double word) (text ++ '"' :: rest) = lex (.plain (some (word ++ text))) rest := by
  induction text generalizing word with
  | nil => simp [lex, step]
  | cons c text ih =>
    have itself := plain c (by simp)
    simp only [ordinary, Bool.and_eq_true, decide_eq_true_eq, Bool.not_eq_true'] at itself
    have next : step (.double word) c = some ([], .double (word ++ [c])) := by
      simp [step, itself]
    simp only [cons_append, lex, next, nil_append, Option.map_id_fun', id_eq]
    rw [ih (fun d mem => plain d (by simp [mem]))]
    simp

/-! ### The end of a command -/

/-- Nothing more is to be done: line ends, and before them perhaps a semicolon. -/
def trailing : List Token → Bool
  | .semicolon :: rest => rest.all (· = .newline)
  | rest => rest.all (· = .newline)

/-- How many words and files there are. -/
def Command.size (c : Command) : Nat := c.words.length + c.writes.length

def Script.size (script : Script) : Nat :=
  (script.map fun pipeline => (pipeline.map Command.size).sum).sum

def Progress.size : Nat :=
  Script.size p.script + (p.commands.map Command.size).sum + p.current.size

theorem Progress.size_addWord (word : Text) : (p.addWord word).size = p.size + 1 := by
  simp only [size, addWord, Command.size, length_append, length_singleton]
  omega

theorem Progress.size_addWrite (path : Text) : (p.addWrite path).size = p.size + 1 := by
  simp only [size, addWrite, Command.size, length_append, length_singleton]
  omega

theorem Progress.size_endCommand : p.endCommand.size = p.size := by
  simp [size, endCommand, Command.size]
  omega

theorem Progress.size_endPipeline : p.endPipeline.size = p.size := by
  simp [size, endPipeline, Script.size, Command.size]
  omega

def Token.isWord : Token → Bool
  | .word _ => true
  | _ => false

variable {p : Progress}

theorem Progress.idle_iff : p.idle = true ↔ p.current = {} := by simp [idle]

variable {script : Script}

/-- Every word is part of a command, or the name of a file. -/
theorem parseTokens_size (parsed : parseTokens p tokens = some script) :
    script.size = p.size + tokens.countP Token.isWord := by
  fun_induction parseTokens p tokens with
  | case1 p busy =>
    cases parsed
    have whole := p.size_endPipeline
    simpa [Progress.size, Progress.endPipeline, Command.size] using whole
  | case2 p idle none =>
    cases parsed
    have empty : p.current = {} := Progress.idle_iff.mp (by simpa using idle)
    simp [Progress.size, none, empty, Command.size]
  | case4 p word rest ih =>
    rw [ih parsed, Progress.size_addWord, countP_cons_of_pos rfl]
    omega
  | case5 p path rest ih =>
    rw [ih parsed, Progress.size_addWrite, countP_cons_of_neg (by simp [Token.isWord]),
      countP_cons_of_pos rfl]
    omega
  | case7 p rest busy ih =>
    rw [ih parsed, Progress.size_endCommand, countP_cons_of_neg (by simp [Token.isWord])]
  | case9 p rest busy ih | case11 p rest busy ih =>
    rw [ih parsed, Progress.size_endPipeline, countP_cons_of_neg (by simp [Token.isWord])]
  | case10 p rest idle ih =>
    rw [ih parsed, countP_cons_of_neg (by simp [Token.isWord])]
  | case3 | case6 | case8 | case12 | case13 => cases parsed

theorem parseTokens_out (wordless : (Token.out :: tokens).countP Token.isWord = 0) :
    parseTokens p (.out :: tokens) = none := by
  cases tokens with
  | nil => rfl
  | cons token rest =>
    cases token with
    | word path => simp [Token.isWord] at wordless
    | _ => rfl

/-- Between commands, tokens that are no words can only be line ends. -/
theorem parseTokens_idle_iff (idle : p.idle = true) (wordless : tokens.countP Token.isWord = 0) :
    parseTokens p tokens = some script ↔
      tokens.all (· = .newline) = true ∧ p.commands = [] ∧ script = p.script := by
  induction tokens with
  | nil => by_cases none : p.commands = [] <;> simp [parseTokens, idle, none, eq_comm]
  | cons token rest ih =>
    cases token with
    | word word => simp [Token.isWord] at wordless
    | newline => simpa [parseTokens, idle] using ih (by simpa [Token.isWord] using wordless)
    | pipe | semicolon => simp [parseTokens, idle]
    | other c => simp [parseTokens]
    | out => simp [parseTokens_out wordless]

theorem parseTokens_wordless (busy : p.idle = false) (wordless : tokens.countP Token.isWord = 0) :
    parseTokens p tokens = some script ↔
      trailing tokens = true ∧ script = p.endPipeline.script := by
  cases tokens with
  | nil => simp [parseTokens, busy, trailing, eq_comm]
  | cons token rest =>
    cases token with
    | word word => simp [Token.isWord] at wordless
    | semicolon | newline =>
      have idle : p.endPipeline.idle = true ∧ p.endPipeline.commands = [] := ⟨rfl, rfl⟩
      have fewer : rest.countP Token.isWord = 0 := by simpa [Token.isWord] using wordless
      simp [parseTokens, busy, trailing, parseTokens_idle_iff idle.1 fewer, idle.2]
    | pipe =>
      have idle : p.endCommand.idle = true ∧ p.endCommand.commands ≠ [] := 
        ⟨rfl, by simp [Progress.endCommand]⟩
      have fewer : rest.countP Token.isWord = 0 := by simpa [Token.isWord] using wordless
      simp [parseTokens, busy, trailing, parseTokens_idle_iff idle.1 fewer, idle.2]
    | other c => simp [parseTokens, trailing]
    | out => simp [parseTokens_out wordless, trailing]

theorem parseTokens_trailing (busy : p.idle = false) (ends : trailing tokens = true) :
    parseTokens p tokens = some p.endPipeline.script := by
  have lineEnds : ∀ rest : List Token, rest.all (· = .newline) = true →
      rest.countP Token.isWord = 0 := by
    simp +contextual [countP_eq_zero, Token.isWord]
  refine (parseTokens_wordless busy ?_).mpr ⟨ends, rfl⟩
  unfold trailing at ends
  split at ends
  · simpa [Token.isWord] using lineEnds _ ends
  · exact lineEnds _ ends

/-- A script with no more words than are there already: the tokens only end it. -/
theorem parseTokens_ends_iff (busy : p.idle = false) (size : script.size = p.size) :
    parseTokens p tokens = some script ↔
      trailing tokens = true ∧ script = p.endPipeline.script := by
  constructor
  · intro parsed
    have counted := parseTokens_size parsed
    exact (parseTokens_wordless busy (by omega)).mp parsed
  · rintro ⟨ends, rfl⟩
    exact parseTokens_trailing busy ends

/-- A text is read as the rest of a word, and the command ends with it. -/
def Completes (text word : Text) : Prop :=
  ∃ rest, lex (.plain (some [])) text = some (.word word :: rest) ∧ trailing rest = true

/-! ### A command that stands for itself -/

/-- A path name or a tilde may be expanded. -/
def active (c : Char) : Bool := c = '*' || c = '?' || c = '[' || c = '~'

def Reading.unquoted : Reading → Bool
  | .plain _ => true
  | _ => false

/-- No such character is read outside quotes. -/
def inert : Reading → Text → Bool
  | _, [] => true
  | reading, c :: rest =>
    match step reading c with
    | none => false
    | some (_, next) => !(reading.unquoted && active c) && inert next rest

def reservedWords : List Text :=
  ["!", "\x7b", "\x7d", "case", "do", "done", "elif", "else", "esac", "fi", "for", "if", "in",
    "then", "until", "while"].map String.toList

/-- The fields of a text that is one simple command: it has no redirection, its first word is no
assignment and not reserved, and nothing in it is expanded. -/
def simpleCommand : Option (List Text) :=
  match parse text with
  | some [[⟨name :: args, []⟩]] =>
    if name.contains '=' || reservedWords.contains name || !inert (.plain none) text then none
    else some (name :: args)
  | _ => none

/-- Some text only leads the reader from one reading to another. -/
def Leads (text : Text) (next : Reading) : Prop :=
  ∀ rest, lex reading (text ++ rest) = lex next rest ∧
    inert reading (text ++ rest) = inert next rest

namespace Leads

variable {reading next last : Reading} {c : Char} {text : Text}

theorem refl : Leads reading [] reading := fun _ => ⟨rfl, rfl⟩

theorem cons (stepped : step reading c = some ([], next))
    (quiet : (reading.unquoted && active c) = false) (later : Leads next text last) :
    Leads reading (c :: text) last := by
  intro rest
  obtain ⟨read, kept⟩ := later rest
  simp [lex, inert, stepped, quiet, read, kept]

end Leads

theorem parseTokens_words (words : List Text) (p : Progress) :
    parseTokens p (words.map .word) = parseTokens
      { p with current := { p.current with words := p.current.words ++ words } } [] := by
  induction words generalizing p with
  | nil => simp
  | cons word words ih => simp [parseTokens, ih, Progress.addWord]

/-- Words alone are one simple command. -/
theorem parse_words {text name : Text} {args : List Text}
    (read : lex (.plain none) text = some ((name :: args).map .word)) :
    parse text = some [[⟨name :: args, []⟩]] := by
  rw [parse, read, bind_some, parseTokens_words]
  rfl

theorem simpleCommand_eq {text name : Text} {args : List Text}
    (read : lex (.plain none) text = some ((name :: args).map .word))
    (kept : inert (.plain none) text = true) (plain : '=' ∉ name) (free : name ∉ reservedWords) :
    simpleCommand text = some (name :: args) := by
  simp [simpleCommand, parse_words read, plain, free, kept]

end Vee.Shell
