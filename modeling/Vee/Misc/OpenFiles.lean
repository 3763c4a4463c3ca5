import Vee.Misc.Program

/-!
# Files, directory entries and open files

A file is its bytes, a path is an entry for a file, and a program that has opened a file goes on
with the file, whatever becomes of the entry. `os.WriteFile` and `os.ReadFile` work in any number
of pieces; here every byte is one call.
-/

namespace Vee.OpenFiles

open Prog (orThrow attempt)

variable {Path Byte : Type}

/-- The files of a directory: what each entry points to, and the bytes of every file. -/
structure Files (Path Byte : Type) where
  entry : Path → Option Nat
  data : Nat → List Byte
  /-- Files are numbered in the order in which they are made. -/
  next : Nat

/-- The calls. `block` never returns. -/
inductive Op (Path Byte : Type) where
  | mkdirAll
  /-- Open for writing, with `O_CREATE` and `O_TRUNC`. -/
  | create (path : Path)
  | write (file offset : Nat) (byte : Byte)
  | close (file : Nat)
  | rename (old new : Path)
  | openRead (path : Path)
  | read (file offset : Nat)
  | block

/-- The type of the answer. An `openRead` that finds no entry answers with none, and so does a
`read` at the end of the file. -/
@[reducible] def Op.Res : Op Path Byte → Type
  | .mkdirAll => Except String Unit
  | .create _ => Except String Nat
  | .write _ _ _ => Except String Unit
  | .close _ => Except String Unit
  | .rename _ _ => Except String Unit
  | .openRead _ => Except String (Option Nat)
  | .read _ _ => Except String (Option Byte)
  | .block => Unit

abbrev FileProg (Path Byte α : Type) := Prog (Op Path Byte) Op.Res α

abbrev askFile (op : Op Path Byte) : FileProg Path Byte op.Res := Prog.ask op

/-- The `Write` of `os.WriteFile`. -/
def writeBytes (file : Nat) : Nat → List Byte → FileProg Path Byte Unit
  | _, [] => return ()
  | offset, byte :: rest => do
    orThrow "" (← askFile (.write file offset byte))
    writeBytes file (offset + 1) rest

/-- `os.WriteFile`. -/
def writeFile (path : Path) (data : List Byte) : FileProg Path Byte Unit := do
  let file ← orThrow "" (← askFile (.create path))
  match ← attempt (writeBytes file 0 data) with
  | .error text => do
    let _ ← askFile (.close file)
    throw text
  | .ok _ => orThrow "" (← askFile (.close file))

/-- The loop of `os.ReadFile`, with what it has read so far. -/
def readBytes (file : Nat) : Nat → List Byte → FileProg Path Byte (List Byte)
  | 0, got => do
    askFile .block
    return got
  | rounds + 1, got => do
    match ← orThrow "" (← askFile (.read file got.length)) with
    | none => return got
    | some byte => readBytes file rounds (got ++ [byte])

/-- `os.ReadFile`, or none if there is no such file. -/
def readFile (path : Path) (rounds : Nat) : FileProg Path Byte (Option (List Byte)) := do
  match ← orThrow "" (← askFile (.openRead path)) with
  | none => return none
  | some file => do
    let result ← attempt (readBytes file rounds [])
    let _ ← askFile (.close file)
    return some (← orThrow "" result)

/-- One byte is written. What was never written reads as zero. -/
def overwrite [Inhabited Byte] (data : List Byte) (offset : Nat) (byte : Byte) : List Byte :=
  data.take offset ++ List.replicate (offset - data.length) default ++
    byte :: data.drop (offset + 1)

theorem overwrite_length [Inhabited Byte] (data : List Byte) (byte : Byte) :
    overwrite data data.length byte = data ++ [byte] := by
  simp [overwrite]

namespace Files

variable (w : Files Path Byte)

/-- The bytes under a path. -/
def content (path : Path) : Option (List Byte) := (w.entry path).map w.data

/-- A file has other bytes. -/
def set (file : Nat) (bytes : List Byte) : Files Path Byte :=
  { w with data := fun other => if other = file then bytes else w.data other }

/-- A path has another entry. -/
def link [DecidableEq Path] (path : Path) (file : Option Nat) : Files Path Byte :=
  { w with entry := fun other => if other = path then file else w.entry other }

variable {w}

@[simp] theorem set_data (file : Nat) (bytes : List Byte) : (w.set file bytes).data file = bytes :=
  if_pos rfl

theorem set_other {file other : Nat} (bytes : List Byte) (differs : other ≠ file) :
    (w.set file bytes).data other = w.data other := if_neg differs

@[simp] theorem link_entry [DecidableEq Path] (path : Path) (file : Option Nat) :
    (w.link path file).entry path = file := if_pos rfl

theorem link_other [DecidableEq Path] {path other : Path} (file : Option Nat)
    (differs : other ≠ path) : (w.link path file).entry other = w.entry other := if_neg differs

end Files

/-- What a call does, and with an error, nothing. -/
def Op.exec [DecidableEq Path] [Inhabited Byte] :
    (op : Op Path Byte) → Option String → Files Path Byte → Option (op.Res × Files Path Byte)
  | .mkdirAll, none, w => some (.ok (), w)
  | .create path, none, w =>
    match w.entry path with
    | some file => some (.ok file, w.set file [])
    | none =>
      some (.ok w.next, { (w.set w.next []).link path (some w.next) with next := w.next + 1 })
  | .write file offset byte, none, w =>
    some (.ok (), w.set file (overwrite (w.data file) offset byte))
  | .close _, none, w => some (.ok (), w)
  | .rename old new, none, w =>
    match w.entry old with
    | some file => some (.ok (), (w.link new (some file)).link old none)
    | none => some (.error "no such file or directory", w)
  | .openRead path, none, w => some (.ok (w.entry path), w)
  | .read file offset, none, w => some (.ok (w.data file)[offset]?, w)
  | .block, _, _ => none
  | .mkdirAll, some text, w => some (.error text, w)
  | .create _, some text, w => some (.error text, w)
  | .write _ _ _, some text, w => some (.error text, w)
  | .close _, some text, w => some (.error text, w)
  | .rename _ _, some text, w => some (.error text, w)
  | .openRead _, some text, w => some (.error text, w)
  | .read _ _, some text, w => some (.error text, w)

def fileHost (Path Byte : Type) [DecidableEq Path] [Inhabited Byte] :
    Machine (Op Path Byte) Op.Res (Files Path Byte) where
  Ans := Option String
  exec _ op ans w := op.exec ans w

end Vee.OpenFiles
