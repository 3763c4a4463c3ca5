import Mathlib.Data.List.Infix
import Vee.Misc.GoText

/-!
# The boot phases

`internal/boot/phasewatcher.go`: the watcher that follows the serial log of a starting VM. The
time of an event is left out. An event that is offered when the context has ended may be lost.
-/

namespace Vee.Boot

inductive Phase where
  | unknown
  | biosPost
  | bootloader
  | kernelBoot
  | init
  | cloudInit
  | install
  | ready
  | failed
  deriving DecidableEq, Repr

def Phase.rank : Phase → Nat
  | .biosPost => 1
  | .bootloader => 2
  | .kernelBoot => 3
  | .init => 4
  | .cloudInit => 5
  | .install => 6
  | .ready => 7
  | _ => 0

structure Event where
  phase : Phase
  detail : String := ""
  panicLine : String := ""
  deriving DecidableEq, Repr

/-- The parts of the regular expressions. What follows a repeated class never begins with a
character of it, so that only the longest repetition counts. -/
inductive Piece where
  | text (text : String)
  /-- `\d+` -/
  | digits
  /-- `\s*` -/
  | spaces
  /-- `.*` -/
  | any
  /-- `(\S+)` -/
  | word

/-- The class `\s`. -/
def isSpace (c : Char) : Bool := c ∈ ['\t', '\n', '\x0c', '\r', ' ']

/-- A match at the beginning of a text, with what the group captures. -/
def matchHere : List Piece → Text → Option Text
  | [], _ => some []
  | .text text :: rest, line => (text.toList.isPrefixOf? line).bind (matchHere rest)
  | .digits :: rest, line =>
    if line.head?.any Char.isDigit then matchHere rest (line.dropWhile Char.isDigit) else none
  | .spaces :: rest, line => matchHere rest (line.dropWhile isSpace)
  | .any :: rest, line => (line.takeWhile (· ≠ '\n')).tails.findSome? (matchHere rest)
  | .word :: rest, line =>
    let word := line.takeWhile (!isSpace ·)
    if word = [] then none else (matchHere rest (line.drop word.length)).map fun _ => word

structure Pattern where
  re : List Piece
  phase : Phase
  fail : Bool := false
  detailGroup : Nat := 0
  /-- The expression begins with `^`. -/
  anchored : Bool := false

/-- `FindStringSubmatch`: what the group of the first match captures. -/
def Pattern.find (p : Pattern) (line : Text) : Option Text :=
  if p.anchored then matchHere p.re line else line.tails.findSome? (matchHere p.re)

def installStageLabels : List (String × String) :=
  [("clock-sync", "waiting for clock sync"), ("clock-sync-done", "clock synced"),
   ("network-wait", "waiting for network"), ("network-ready", "network ready"),
   ("partition", "partitioning disk"), ("reflector", "selecting mirrors"),
   ("reflector-done", "mirrors selected"), ("reflector-failed", "mirrors: using fallback"),
   ("pacstrap", "installing base system (this takes a while)"),
   ("pacstrap-done", "base system installed"), ("fstab", "generating fstab"),
   ("locale", "configuring locale"), ("users", "creating users"),
   ("services", "enabling services"), ("grub", "installing bootloader"),
   ("cleanup", "finalising install"), ("done", "install complete")]

/-- The texts of the patterns for a failure. -/
def failures : List String :=
  ["Kernel panic", "end Kernel panic", "Oops:", "BUG:", "No bootable device",
   "==> vee-install: FAILED"]

/-- The pattern of a plain text. -/
def marks (text : String) (phase : Phase) : Pattern := { re := [.text text], phase := phase }

def patterns : List Pattern :=
  failures.map (fun text => { marks text .failed with fail := true }) ++
  [{ re := [.text "==> vee-install: stage=", .word], phase := .install, detailGroup := 1 },
   { re := [.text "cloud-init", .any, .text "finished"], phase := .ready },
   { re := [.text "cloud-init[", .digits, .text "]:"], phase := .cloudInit },
   marks "Cloud-init v." .cloudInit,
   marks "Reached target" .init, marks "systemd[1]:" .init, marks "Welcome to " .init,
   marks "Linux version " .kernelBoot,
   { re := [.text "[", .spaces, .text "0.", .digits, .text "] "], phase := .kernelBoot,
     anchored := true },
   marks "Command line:" .kernelBoot,
   marks "GRUB version" .bootloader, { marks "Booting " .bootloader with anchored := true },
   marks "Loading initial ramdisk" .bootloader, marks "systemd-boot" .bootloader,
   marks "BdsDxe:" .biosPost, marks "UEFI Interactive Shell" .biosPost, marks "SeaBIOS" .biosPost]

/-- `classify`: the phase, whether it is a failure, the line and the detail. -/
def classify (line : Text) : Phase × Bool × String × String :=
  match patterns.findSome? fun p => (p.find line).map (p, ·) with
  | none => (.unknown, false, "", "")
  | some (p, token) =>
    let token := String.ofList token
    let detail := if p.detailGroup > 0 then (installStageLabels.lookup token).getD token else ""
    (p.phase, p.fail, String.ofList line, detail)

/-- What `Run` has come to: the latest phase, the events it has offered, and what it returned. -/
structure Progress where
  last : Phase := .unknown
  events : List Event := []
  returned : Option (Except String Unit) := none

/-- The failure that ends the run. -/
def Progress.abort (p : Progress) (panicLine : String) : Progress :=
  { p with
    events := p.events ++ [{ phase := .failed, panicLine := panicLine }]
    returned := some (.ok ()) }

def Progress.enter (p : Progress) (phase : Phase) (detail : String) : Progress :=
  { p with last := phase, events := p.events ++ [{ phase := phase, detail := detail }] }

/-- What `Run` does with a full line, and whether it then looks at the error of the read. -/
def Progress.take (p : Progress) (full : Text) : Progress × Bool :=
  let (phase, fail, panicLine, detail) := classify full
  if phase = .unknown then (p, false)
  else if fail then (p.abort panicLine, false)
  else if phase = .install then (p.enter phase detail, false)
  else if phase.rank ≤ p.last.rank then (p, false)
  else if phase = .ready then ({ p.enter phase detail with returned := some (.ok ()) }, false)
  else (p.enter phase detail, true)

/-- A call of `ReadString`. The text of `io.EOF` stands for the end of the file. -/
structure Read where
  line : Text
  err : Option String := none

structure Watch extends Progress where
  opened : Bool := false
  leftover : Text := []

/-- The part of the inner loop that makes use of a line. -/
def Watch.readLine (w : Watch) (line : Text) : Watch × Bool :=
  if line = [] then (w, true)
  else
    let (p, looks) := w.toProgress.take (w.leftover ++ line)
    ({ w with toProgress := p, leftover := [] }, looks)

/-- The inner loop, on the results of its reads. -/
def Watch.readLoop (w : Watch) : List Read → Watch
  | [] => w
  | r :: reads =>
    if r.line ≠ [] ∧ r.err = some "EOF" then { w with leftover := w.leftover ++ r.line }
    else
      let (w, looks) := w.readLine r.line
      if w.returned.isSome then w
      else match looks, r.err with
        | true, some err => if err = "EOF" then w else { w with returned := some (.error err) }
        | _, _ => w.readLoop reads

/-- What a round of `Run` meets: an ended context, whether the log can be opened, the reads, and
whether the idle timeout is over. -/
structure Round where
  cancelled : Option String := none
  opens : Bool := true
  reads : List Read := []
  idle : Bool := false

/-- `openIfReady`, and the reads from a log that is open. -/
def Watch.poll (w : Watch) (r : Round) : Watch :=
  let w := { w with opened := w.opened || r.opens }
  if w.opened then w.readLoop r.reads else w

/-- A round of `Run`. An idle timeout that is not zero is given by its text. -/
def Watch.round (idleTimeout : Option String) (w : Watch) (r : Round) : Watch :=
  if w.returned.isSome then w
  else match r.cancelled with
    | some err => { w with returned := some (.error err) }
    | none =>
      let w := w.poll r
      match w.returned, idleTimeout with
      | none, some timeout =>
        if r.idle ∧ w.last ≠ .ready ∧ w.last ≠ .failed then
          { w with toProgress := w.abort ("boot timeout: no serial activity for " ++ timeout) }
        else w
      | _, _ => w

/-- `Run`. -/
def run (idleTimeout : Option String) (rounds : List Round) : Watch :=
  rounds.foldl (Watch.round idleTimeout) {}

end Vee.Boot
