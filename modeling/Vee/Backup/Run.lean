import Mathlib.Data.Char
import Mathlib.Data.List.Lex
import Mathlib.Data.List.Sort
import Vee.Misc.GoText
import Vee.Misc.Sequential
import Vee.VM.Host

/-!
# Backups

`Runner.Execute` of `internal/backup/runner.go` with `RunRsyncCmd`, call by call, and the
directories that `EnumerateHome` (`internal/backup/ssh.go`) makes of what the guest prints.
-/

namespace Vee.Backup

open Prog (orThrow attempt)

/-- `DirEntry`; the children are filled in by the picker. -/
structure DirEntry where
  path : Text
  name : Text
  depth : Nat

def pathToEntry (p : Text) : DirEntry where
  path := p
  name := (p.reverse.takeWhile (· ≠ '/')).reverse
  depth := p.count '/'

/-- `EnumerateHome`, on the output of the guest. -/
def enumerateHome (out : Text) : List DirEntry :=
  let lines := ((trimSpace out).splitOn '\n').map trimSpace
  ((lines.filter (· ≠ [])).map pathToEntry).insertionSort fun a b => a.path ≤ b.path

/-- `SSHConn`, without the password of the first connection. -/
structure SSHConn where
  user : String := ""
  host : String
  port : Int
  identity : String := ""

inductive Status where
  | running
  | done
  | failed
  deriving DecidableEq, Repr

/-- The calls. A run of rsync says which guest path it is for. -/
inductive Op where
  | setStatus (runID : Int) (status : Status) (errText : String)
  | mkdirAll (path : Text)
  | lookRsync
  | rsync (guestPath : Text) (command : List Text)

@[reducible] def Op.Res : Op → Type
  | .lookRsync => Except String String
  | _ => Except String Unit

abbrev Job (α : Type) := Prog Op Op.Res α

abbrev call (op : Op) : Job op.Res := Prog.ask op

variable (conn : SSHConn) (runID : Int)

/-- The transport of rsync. -/
def sshCommand : String :=
  "ssh -o StrictHostKeyChecking=no -o BatchMode=yes" ++
    (if conn.port ≠ 22 then " -p " ++ toString conn.port else "") ++
    (if conn.identity ≠ "" then " -i " ++ conn.identity else "")

/-- `strings.TrimRight(path, "/")`. -/
def trimSlashes (path : Text) : Text := (path.reverse.dropWhile (· = '/')).reverse

/-- The arguments of `RunRsyncCmd`. -/
def rsyncArgs (guestPath localDest : Text) : List Text :=
  let src := if conn.user ≠ "" then conn.user ++ "@" ++ conn.host else conn.host
  ["-az".toList, "--info=progress2".toList, "--human-readable".toList, "-e".toList,
    (sshCommand conn).toList, src.toList ++ ':' :: trimSlashes guestPath ++ ['/'],
    localDest ++ ['/']]

/-- The path of a guest directory below the destination. -/
def relative (guestPath : Text) : Text := guestPath.dropWhile (· = '/')

/-- Where a guest directory is mirrored to. -/
def localDest (dest guestPath : Text) : Text := joinElements [dest, relative guestPath]

def makeDir (path : Text) : Job Unit := do
  orThrow ("mkdir " ++ String.ofList path ++ ": ") (← call (.mkdirAll path))

def runRsyncCmd (guestPath localDest : Text) : Job (List Text) := do
  let rsync ← orThrow "rsync not found: " (← call .lookRsync)
  pure (rsync.toList :: rsyncArgs conn guestPath localDest)

/-- `cmd.Run`. -/
def run (guestPath : Text) (command : List Text) : Job Unit := do
  orThrow ("rsync " ++ String.ofList guestPath ++ ": ") (← call (.rsync guestPath command))

/-- One round of the loop of `Execute`. -/
def mirror (dest guestPath : Text) : Job Unit := do
  makeDir (localDest dest guestPath)
  let command ← runRsyncCmd conn guestPath (localDest dest guestPath)
  run guestPath command

/-- The end of `Execute`. -/
def finish : Except String (List Unit) → Job Unit
  | .error text => do
    let _ ← call (.setStatus runID .failed text)
    throw text
  | .ok _ => do orThrow "" (← call (.setStatus runID .done ""))

def markRunning : Job Unit := do
  orThrow "mark running: " (← call (.setStatus runID .running ""))

/-- `Runner.Execute`. -/
def execute (dest : Text) (dirs : List Text) : Job Unit := do
  markRunning runID
  let result ← attempt (Prog.forEach (mirror conn dest) dirs)
  finish runID result

/-! ### The host -/

/-- The local directories that have been created, and those that rsync was given, each with the
guest path it was for. -/
structure Log where
  created : List Text := []
  handed : List (Text × Text) := []

/-- What a call does. Each may fail; the empty path is no directory. -/
def Op.exec : (op : Op) → Answer → Log → Option (op.Res × Log)
  | .setStatus _ _ _, ans, log => some (ans.orFail (), log)
  | .lookRsync, ans, log => some (ans.orFail ans.text, log)
  | .mkdirAll path, ans, log =>
    match ans.error with
    | some text => some (.error text, log)
    | none =>
      if path = [] then none else some (.ok (), { log with created := log.created ++ [path] })
  | .rsync guestPath command, ans, log =>
    -- it has been given the directory, also if it fails
    some (ans.orFail (), { log with handed := log.handed ++ [(guestPath, command.getLastD [])] })

def backupHost : Machine Op Op.Res Log where
  Ans := Answer
  exec _ op ans log := op.exec ans log

end Vee.Backup
