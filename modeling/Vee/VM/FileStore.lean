import Vee.Misc.OpenFiles

/-!
# The file store

`internal/vm/store.go`: the config and the state of a VM as two files, written through
`atomicWrite`. What a marshaller yields is a parameter: the bytes, or its error.
-/

namespace Vee.FileStore

open OpenFiles
open Prog (orThrow)

/-- `vm.yaml` and `state.json`. -/
inductive StoreFile where
  | config
  | state
  deriving DecidableEq, Repr

/-- A path in the directory of the VM: a file, or the same with `.tmp` behind it. -/
structure StorePath where
  file : StoreFile
  tmp : Bool := false
  deriving DecidableEq, Repr

/-- The contents of a file. -/
abbrev Bytes := List UInt8

abbrev Store (α : Type) := FileProg StorePath UInt8 α

/-- Write beside the file, then rename. -/
def atomicWrite (file : StoreFile) (marshalled : Except String Bytes) : Store Unit := do
  let data ← orThrow "" marshalled
  writeFile ⟨file, true⟩ data
  orThrow "" (← askFile (.rename ⟨file, true⟩ ⟨file, false⟩))

def saveConfig (marshalled : Except String Bytes) : Store Unit := do
  orThrow "" (← askFile .mkdirAll)
  atomicWrite .config marshalled

def saveStateForVM (marshalled : Except String Bytes) : Store Unit := atomicWrite .state marshalled

/-- `LoadConfig`, up to the bytes that it decodes. -/
def loadConfig (rounds : Nat) : Store (Option Bytes) := do
  match ← readFile ⟨.config, false⟩ rounds with
  | some data => return some data
  | none => throw "no such file or directory"

/-- `LoadState`, up to the bytes that it decodes. Without a file it is the empty record. -/
def loadState (rounds : Nat) : Store (Option Bytes) := readFile ⟨.state, false⟩ rounds

/-- A call of the store. -/
inductive StoreCall where
  | saveConfig (marshalled : Except String Bytes)
  | saveState (marshalled : Except String Bytes)
  | loadConfig (rounds : Nat)
  | loadState (rounds : Nat)

namespace StoreCall

/-- Its program, with the bytes that a load has read as the result. -/
def prog : StoreCall → Store (Option Bytes)
  | .saveConfig marshalled => do
    FileStore.saveConfig marshalled
    return none
  | .saveState marshalled => do
    saveStateForVM marshalled
    return none
  | .loadConfig rounds => FileStore.loadConfig rounds
  | .loadState rounds => FileStore.loadState rounds

/-- The file that it saves, and the bytes. -/
def saves : StoreCall → Option (StoreFile × Bytes)
  | .saveConfig (.ok data) => some (.config, data)
  | .saveState (.ok data) => some (.state, data)
  | _ => none

/-- The file that it loads. -/
def loads : StoreCall → Option StoreFile
  | .loadConfig _ => some .config
  | .loadState _ => some .state
  | _ => none

end StoreCall

/-- What the programs have done with the files so far. -/
structure History where
  /-- Who is between the opening of a temporary file and the end of its `atomicWrite`. -/
  writer : StorePath → Option Nat := fun _ => none
  /-- Which program has put which bytes under which path. -/
  installed : List (Nat × StorePath × Bytes) := []

namespace History

/-- A program has given up or ended its `atomicWrite`. -/
def finish (h : History) (i : Nat) : History :=
  { h with writer := fun path => if h.writer path = some i then none else h.writer path }

def log (i : Nat) (op : Op StorePath UInt8) (answer : op.Res) (w : Files StorePath UInt8)
    (h : History) : History :=
  match op, answer with
  | .create path, .ok _ =>
    { h with writer := fun other => if other = path then some i else h.writer other }
  | .write _ _ _, .error _ => h.finish i
  | .close _, .error _ => h.finish i
  | .rename _ _, .error _ => h.finish i
  | .rename old new, .ok _ =>
    { h.finish i with installed := h.installed ++ [(i, new, (w.content old).getD [])] }
  | _, _ => h

end History

/-- The files of a VM, and their history. -/
abbrev World := Files StorePath UInt8 × History

def storeFiles : Machine (Op StorePath UInt8) Op.Res World :=
  (fileHost StorePath UInt8).withHistory History.log fun _ _ h => h

/-- Calls on the store of one VM, all at once. -/
def concurrently (calls : List StoreCall) (w : Files StorePath UInt8) :
    Config (Op StorePath UInt8) Op.Res (Option Bytes) World :=
  ⟨calls.map (·.prog), (w, {})⟩

/-- No two entries point to one file. -/
structure WellFormed (w : Files StorePath UInt8) : Prop where
  known : ∀ path file, w.entry path = some file → file < w.next
  distinct : ∀ path path' file, w.entry path = some file → w.entry path' = some file → path = path'

/-- What the store promises: a load of a file that exists reads what one save has marshalled, or
what was there at first, and a save that returns nil has put its own bytes in place. -/
structure Atomic (w₀ : Files StorePath UInt8) (calls : List StoreCall)
    (c : Config (Op StorePath UInt8) Op.Res (Option Bytes) World) : Prop where
  loads : ∀ (i : Nat) (call : StoreCall) (file : StoreFile) (bytes : Bytes), calls[i]? = some call →
    call.loads = some file → c.pool[i]? = some (.done (.ok (some bytes))) →
    w₀.content ⟨file, false⟩ = some bytes ∨ ∃ save ∈ calls, save.saves = some (file, bytes)
  saves : ∀ (i : Nat) (call : StoreCall) (file : StoreFile) (bytes : Bytes), calls[i]? = some call →
    call.saves = some (file, bytes) → c.pool[i]? = some (.done (.ok none)) →
    (i, ⟨file, false⟩, bytes) ∈ c.world.2.installed

end Vee.FileStore
