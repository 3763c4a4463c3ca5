import Mathlib.Algebra.Ring.Int.Defs
import Mathlib.Algebra.Ring.Nat

/-!
# Go's text functions

The parts of `fmt`, `strings`, `strconv`, `bufio` and `path/filepath` that the
modelled functions use, on lists of characters.
-/

namespace Vee

/-- A Go string, as its characters. -/
abbrev Text := List Char

/-- One character of a `%q` text; characters that Go escapes numerically are left
as they are. -/
def quoteChar : Char → Text
  | '"' => ['\\', '"']
  | '\\' => ['\\', '\\']
  | '\n' => ['\\', 'n']
  | '\t' => ['\\', 't']
  | '\r' => ['\\', 'r']
  | '\x07' => ['\\', 'a']
  | '\x08' => ['\\', 'b']
  | '\x0c' => ['\\', 'f']
  | '\x0b' => ['\\', 'v']
  | c => [c]

/-- The verb `%q`. -/
def goQuote (text : String) : String :=
  "\"" ++ String.ofList (text.toList.flatMap quoteChar) ++ "\""

/-- A text in which nothing is escaped stands between its quotes as it is. -/
theorem goQuote_kept {text : Text} (kept : ∀ c ∈ text, quoteChar c = [c]) :
    (goQuote (String.ofList text)).toList = '"' :: (text ++ ['"']) := by
  have same : text.flatMap quoteChar = text := by
    induction text with
    | nil => rfl
    | cons c text ih =>
      obtain ⟨first, later⟩ := List.forall_mem_cons.mp kept
      rw [List.flatMap_cons, first, ih later, List.singleton_append]
  simp [goQuote, same]

variable (path : Text) (c : Char) (text : Text)

def digitValue : Nat := c.toNat - '0'.toNat

/-- The number that some digits denote; `none` if one is not a digit. -/
def digitsValue : Option Nat :=
  if text.all Char.isDigit then some (text.foldl (fun n c => 10 * n + digitValue c) 0) else none

/-- `strconv.ParseUint(text, 10, 64)`. -/
def parseUint64 : Option Nat :=
  if text = [] then none
  else (digitsValue text).filter (· < 2 ^ 64)

/-- The error of a function of `strconv` on a text with these digits. Digits that overflow are
noticed before what stands behind them. -/
def numError (func : String) (text digits : Text) : String :=
  let overflows := (digitsValue (digits.takeWhile Char.isDigit)).any (2 ^ 64 ≤ ·)
  "strconv." ++ func ++ ": parsing " ++ goQuote (String.ofList text) ++
    if (digits ≠ [] ∧ digits.all Char.isDigit) ∨ overflows then ": value out of range"
    else ": invalid syntax"

/-- `strconv.ParseUint(text, 10, 64)` with its error. -/
def parseUint : Except String Nat :=
  match parseUint64 text with
  | some n => .ok n
  | none => .error (numError "ParseUint" text text)

/-- `strconv.ParseInt(text, 10, 64)`. -/
def parseInt64 : Text → Option Int
  | '-' :: digits =>
    (parseUint64 digits).bind fun n => if n ≤ 2 ^ 63 then some (-(n : Int)) else none
  | '+' :: digits | digits =>
    (parseUint64 digits).bind fun n => if n < 2 ^ 63 then some (n : Int) else none

/-- What `Clean` does with one more element. -/
def cleanStep (rooted : Bool) (kept : List Text) (element : Text) : List Text :=
  if element = [] ∨ element = ['.'] then kept
  else if element = ['.', '.'] then
    match kept with
    | [] => if rooted then [] else [['.', '.']]
    | last :: rest => if last = ['.', '.'] then ['.', '.'] :: kept else rest
  else element :: kept

/-- The elements of a path after `Clean`, last one first. -/
def cleanElements (rooted : Bool) : List Text → List Text := List.foldl (cleanStep rooted) []

/-- `filepath.Clean`. -/
def cleanPath : Text :=
  let rooted := path.head? = some '/'
  let body := ['/'].intercalate (cleanElements rooted (path.splitOn '/')).reverse
  if rooted then '/' :: body else if body = [] then ['.'] else body

/-- `filepath.Join`, on lists of characters. -/
def joinElements (elements : List Text) : Text :=
  match elements.filter (· ≠ []) with
  | [] => []
  | named => cleanPath (['/'].intercalate named)

/-- `filepath.Join`. -/
def joinPath (elements : List String) : String :=
  String.ofList (joinElements (elements.map String.toList))

/-- What two lists have behind their common beginning. -/
def dropCommon : List Text → List Text → List Text × List Text
  | a :: as, b :: bs => if a = b then dropCommon as bs else (a :: as, b :: bs)
  | as, bs => (as, bs)

/-- `filepath.Rel` to an absolute path. -/
def relPath (base target : Text) : Option Text :=
  let elements := fun path : Text => (cleanElements true (path.splitOn '/')).reverse
  if base.head? = some '/' then
    let rest := dropCommon (elements base) (elements target)
    match rest.1.map (fun _ => ['.', '.']) ++ rest.2 with
    | [] => some ['.']
    | steps => some (['/'].intercalate steps)
  else none

/-- `filepath.Ext`: from the last dot of the last element on. -/
def pathExt (path : String) : String :=
  let tail := path.toList.reverse.takeWhile fun c => c ≠ '.' ∧ c ≠ '/'
  match path.toList.reverse.drop tail.length with
  | '.' :: _ => String.ofList ('.' :: tail.reverse)
  | _ => ""

/-- `filepath.Base`. -/
def basePath : Text :=
  if path = [] then ['.']
  else
    match (path.reverse.dropWhile (· = '/')).takeWhile (· ≠ '/') with
    | [] => ['/']
    | base => base.reverse

/-- `filepath.Dir`. -/
def dirPath : Text :=
  cleanPath (path.reverse.dropWhile (· ≠ '/')).reverse

/-- What stands before and behind the first occurrence of a character, as `strings.Cut`
gives it. -/
def cutFirst : Option (Text × Text) :=
  if c ∈ text then some (text.takeWhile (· ≠ c), (text.dropWhile (· ≠ c)).tail) else none

/-- What stands before and behind the last occurrence of a character. -/
def cutLast : Option (Text × Text) :=
  (cutFirst c text.reverse).map fun cut => (cut.2.reverse, cut.1.reverse)

/-- What stands before the last occurrence of a text. -/
def beforeLast : Text → Option Text
  | [] => if text = [] then some [] else none
  | c :: rest =>
    match beforeLast rest with
    | some before => some (c :: before)
    | none => if text.isPrefixOf (c :: rest) then some [] else none

/-- `strings.TrimPrefix`. -/
def trimStart (start text : Text) : Text := (start.isPrefixOf? text).getD text

/-- The bytes of a text, one character each. -/
def bytesOf : Text :=
  text.flatMap fun c => (String.utf8EncodeChar c).map fun b => Char.ofNat b.toNat

/-- `unicode.IsSpace`. -/
def isGoSpace : Bool :=
  c ∈ [' ', '\t', '\n', '\x0b', '\x0c', '\r', '\u0085', '\u00a0', '\u1680', '\u2028', '\u2029',
    '\u202f', '\u205f', '\u3000'] || ('\u2000' ≤ c && c ≤ '\u200a')

/-- `fmt.Sscanf` with `%d`: blanks, a sign, and as many digits as there are. A newline is not a
blank. -/
def scanInt (text : Text) : Option Int :=
  match text.dropWhile fun c => isGoSpace c && c ≠ '\n' with
  | '-' :: rest => parseInt64 ('-' :: rest.takeWhile Char.isDigit)
  | '+' :: rest => parseInt64 (rest.takeWhile Char.isDigit)
  | rest => parseInt64 (rest.takeWhile Char.isDigit)

/-- `strings.TrimSpace`. -/
def trimSpace : Text :=
  ((text.dropWhile isGoSpace).reverse.dropWhile isGoSpace).reverse

/-- `strings.Fields`. -/
def goFields : List Text :=
  (text.splitOnP isGoSpace).filter (· ≠ [])

/-- `unicode.ToLower`, for the characters that it makes ASCII letters of; the Kelvin sign
and the dotted capital I are among them. The others stay as they are. -/
def toLowerChar : Char :=
  if c = '\u212a' then 'k' else if c = '\u0130' then 'i' else c.toLower

/-- `strings.ToLower`. -/
def toLowerText : Text := text.map toLowerChar

theorem drop_takeWhile {α : Type} (test : α → Bool) (text : List α) :
    text.drop (text.takeWhile test).length = text.dropWhile test :=
  (congrArg (List.drop _) List.takeWhile_append_dropWhile.symm).trans List.drop_left

/-- `strings.Trim` with a cutset of one character. -/
def trimChar : Text :=
  ((text.dropWhile (· = c)).reverse.dropWhile (· = c)).reverse

/-- The host of `net.SplitHostPort`, if the text is a host and a port. -/
def splitHostPort (hostport : Text) : Option Text :=
  let port := (hostport.reverse.takeWhile (· ≠ ':')).reverse
  match hostport.reverse.drop port.length with
  | [] => none
  | _ :: before =>
    match hostport with
    | '[' :: tail =>
      let host := tail.takeWhile (· ≠ ']')
      match tail.drop host.length with
      | [] => none
      | _ :: after =>
        -- the colon right behind the bracket is the last one
        if after = ':' :: port ∧ '[' ∉ tail ∧ ']' ∉ after then some host else none
    | _ =>
      let host := before.reverse
      if ':' ∈ host ∨ '[' ∈ hostport ∨ ']' ∈ hostport then none else some host

/-- `strings.Contains`. -/
def containsText : Text → Text → Bool
  | [], part => part.isEmpty
  | c :: rest, part => part.isPrefixOf (c :: rest) || containsText rest part

/-- The lines of a text; nothing follows a newline at its end. -/
def textLines : List Text :=
  let pieces := text.splitOn '\n'
  if pieces.getLast? = some [] then pieces.dropLast else pieces

/-- `bufio.MaxScanTokenSize`. -/
def maxScanTokenSize : Nat := 64 * 1024

/-- A line that does not fit into a scanner's buffer. -/
def tooLong (line : Text) : Bool := maxScanTokenSize ≤ (line.map Char.utf8Size).sum

/-- One carriage return at the end of a line is dropped. -/
def dropCR (line : Text) : Text :=
  if line.getLast? = some '\r' then line.dropLast else line

/-- What a `bufio.Scanner` yields: all lines, or the error of a line that is too long. -/
def scanLines : Except String (List Text) :=
  if (textLines text).any tooLong then .error "bufio.Scanner: token too long"
  else .ok ((textLines text).map dropCR)

/-! ## Cutting -/

variable {text before behind : Text} {c : Char} {n : Nat}

/-- A start without the separator is a start of what stands before it. -/
theorem prefix_append_cons_iff {start : Text} (plain : c ∉ start) :
    start <+: before ++ c :: behind ↔ start <+: before := by
  refine ⟨fun whole => ?_, fun part => part.trans (List.prefix_append before _)⟩
  rcases List.prefix_or_prefix_of_prefix whole (List.prefix_append before _) with part | ⟨rest, rfl⟩
  · exact part
  · cases rest with
    | nil => simp
    | cons d rest =>
      have same : d = c := (List.cons_prefix_cons.mp (by simpa using whole)).1
      simp [same] at plain

theorem containsText_middle (before part behind : Text) :
    containsText (before ++ part ++ behind) part := by
  induction before with
  | nil =>
    cases part with
    | nil => cases behind <;> simp [containsText]
    | cons c part => simp [containsText]
  | cons c before ih =>
    simp only [List.cons_append, containsText, Bool.or_eq_true]
    exact .inr ih

theorem cutFirst_eq_some (cut : cutFirst c text = some (before, behind)) :
    text = before ++ c :: behind := by
  unfold cutFirst at cut
  split at cut
  · rename_i mem
    obtain ⟨rfl, rfl⟩ := cut
    induction text with
    | nil => cases mem
    | cons d text ih =>
      by_cases same : d = c
      · simp [same]
      · have later : c ∈ text := by simpa [Ne.symm same] using mem
        simpa [same] using ih later
  · cases cut

theorem cutLast_eq_some (cut : cutLast c text = some (before, behind)) :
    text = before ++ c :: behind := by
  obtain ⟨⟨rest, first⟩, found, same⟩ := Option.map_eq_some_iff.mp cut
  obtain ⟨rfl, rfl⟩ := Prod.mk.inj same
  rw [← List.reverse_reverse text, cutFirst_eq_some found]
  simp

/-! ## Digits -/

theorem digitsValue_toDigits : digitsValue (Nat.toDigits 10 n) = some n := by
  have digits : (Nat.toDigits 10 n).all Char.isDigit = true :=
    List.all_eq_true.mpr fun c mem => Nat.isDigit_of_mem_toDigits (by decide) (by decide) mem
  unfold digitsValue
  rw [if_pos digits]
  exact congrArg some (Nat.ofDigitChars_toDigits (by decide) (by decide))

theorem parseUint64_toDigits (small : n < 2 ^ 64) : parseUint64 (Nat.toDigits 10 n) = some n := by
  unfold parseUint64
  rw [if_neg Nat.toDigits_ne_nil, digitsValue_toDigits]
  simpa using small

theorem toDigits_injective : Function.Injective (Nat.toDigits 10) := by
  intro n m same
  have value := congrArg (Nat.ofDigitChars 10 · 0) same
  simpa [Nat.ofDigitChars_toDigits] using value

theorem toString_injective : Function.Injective (toString : Nat → String) := by
  intro n m same
  refine toDigits_injective ?_
  simpa using congrArg String.toList same

theorem isDigit_of_digitsValue (value : digitsValue text = some n) :
    ∀ c ∈ text, c.isDigit = true := by
  unfold digitsValue at value
  split at value
  · exact List.all_eq_true.mp (by assumption)
  · cases value

/-- Digits are read as the number that they denote, if it fits. -/
theorem parseInt64_digits (value : digitsValue text = some n) :
    parseInt64 text = if text ≠ [] ∧ n < 2 ^ 63 then some (n : Int) else none := by
  have digit := isDigit_of_digitsValue value
  -- the first character is a digit, so it is no sign
  unfold parseInt64
  split
  · exact absurd (digit '-' List.mem_cons_self) (by decide)
  · exact absurd (digit '+' List.mem_cons_self) (by decide)
  · unfold parseUint64
    by_cases named : text = []
    · simp [named]
    rw [if_neg named, value, Option.filter_some]
    by_cases fits : n < 2 ^ 64
    · rw [if_pos (by simpa using fits)]
      simp [named]
    · have large : ¬ n < 2 ^ 63 := by omega
      rw [if_neg (by simpa using fits), if_neg fun both => large both.2]
      rfl

theorem trimSpace_eq_self (plain : ∀ c ∈ text, isGoSpace c = false) : trimSpace text = text := by
  have kept : ∀ other : Text, (∀ c ∈ other, isGoSpace c = false) →
      other.dropWhile isGoSpace = other := by
    intro other plain
    cases other with
    | nil => rfl
    | cons c rest => simp [plain c (by simp)]
  unfold trimSpace
  rw [kept text plain, kept text.reverse (by simpa using plain), List.reverse_reverse]

theorem isGoSpace_of_isDigit (digit : c.isDigit = true) : isGoSpace c = false := by
  have high : c.toNat ≤ 57 := by
    simp only [Char.isDigit, Bool.and_eq_true, decide_eq_true_eq] at digit
    exact digit.2
  have listed : [' ', '\t', '\n', '\x0b', '\x0c', '\r', '\u0085', '\u00a0', '\u1680', '\u2028',
      '\u2029', '\u202f', '\u205f', '\u3000'].all (fun space => !space.isDigit) = true := by
    decide
  have below : ¬ '\u2000' ≤ c := by
    intro le
    have : 0x2000 ≤ c.toNat := le
    omega
  simp only [isGoSpace, below, decide_false, Bool.false_and, Bool.or_false, decide_eq_false_iff_not]
  intro mem
  have other := List.all_eq_true.mp listed c mem
  rw [digit] at other
  cases other

theorem trimSpace_toDigits {suffix : Text} (plain : ∀ c ∈ suffix, isGoSpace c = false) :
    trimSpace (Nat.toDigits 10 n ++ suffix) = Nat.toDigits 10 n ++ suffix := by
  refine trimSpace_eq_self (List.forall_mem_append.mpr ⟨fun c mem => ?_, plain⟩)
  exact isGoSpace_of_isDigit (Nat.isDigit_of_mem_toDigits (by decide) (by decide) mem)

end Vee
