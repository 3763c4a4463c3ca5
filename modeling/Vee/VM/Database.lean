import Vee.Misc.Sequential
import Vee.VM.Daemon
import Vee.VM.Delete

/-!
# The store as a database

The tables `vms` and `vm_states` of `internal/db/db.go` and the statements of `internal/vm/db.go`,
with what `internal/vm/manager.go` makes of them. A statement is one call. Foreign keys are on: a
state has a row only beside the row of its VM, and goes with it. `carryOut` says which statements
the calls of an operation on one VM are.
-/

namespace Vee.Database

open Prog (orThrow forEach)

/-- A row of `vms`. `config` is what its JSON decodes to, if it does. -/
structure VMRow where
  name : String
  template : String
  config : Option VMConfig
  createdAt : Nat

/-- The tables. A row of `vm_states` is what its JSON decodes to, if it does. -/
structure Tables where
  vms : List VMRow
  states : String → Option (Option VMState)

namespace Tables

variable (t : Tables) (name : String)

/-- There is a row in `vms`. -/
def HasRow : Prop := ∃ row ∈ t.vms, row.name = name
deriving Decidable

/-- `INSERT ... ON CONFLICT(name) DO UPDATE` of `dbSaveConfig`. -/
def upsertConfig (cfg : VMConfig) (createdAt : Nat) : Tables :=
  if t.HasRow cfg.name then
    { t with vms := t.vms.map fun row =>
        if row.name = cfg.name then { row with template := cfg.template, config := some cfg }
        else row }
  else { t with vms := t.vms ++ [⟨cfg.name, cfg.template, some cfg, createdAt⟩] }

/-- `INSERT OR IGNORE` of `dbEnsureVM`. The config of the stub is the JSON of an empty object. -/
def insertStub (name template : String) (now : Nat) : Tables :=
  if t.HasRow name then t else { t with vms := t.vms ++ [⟨name, template, some {}, now⟩] }

/-- `DELETE FROM vms`, with the cascade. -/
def deleteVM : Tables where
  vms := t.vms.filter (·.name ≠ name)
  states := Function.update t.states name none

/-- `INSERT ... ON CONFLICT(vm_name) DO UPDATE` of `dbSaveState`. -/
def upsertState (state : VMState) : Tables :=
  { t with states := Function.update t.states name (some (some state)) }

/-- The configs of all VMs, by the time of their creation; what does not decode is left out. -/
def configs : List VMConfig :=
  (t.vms.mergeSort fun a b => a.createdAt ≤ b.createdAt).filterMap (·.config)

end Tables

/-- The statements, the other things that `Delete` does, and the calls that do not go to the
store. -/
inductive StoreOp where
  | selectConfig (name : String)
  | selectConfigs
  | selectState (name : String)
  | upsertConfig (cfg : VMConfig)
  | upsertState (name : String) (state : VMState)
  | insertStub (name template : String)
  | deleteVM (name : String)
  | removeFile (path : String)
  | removeTunnels (name : String)
  | deleteVMDir (dir : Text)
  | host (op : Call)

@[reducible] def StoreOp.Res : StoreOp → Type
  | .selectConfig _ => Except String VMConfig
  | .selectConfigs => Except String (List VMConfig)
  | .selectState _ => Except String VMState
  | .upsertConfig _ => Except String Unit
  | .upsertState _ _ => Except String Unit
  | .insertStub _ _ => Except String Unit
  | .deleteVM _ => Except String Unit
  | .removeFile _ => Except String Unit
  | .removeTunnels _ => Except String Unit
  | .deleteVMDir _ => Except String Unit
  | .host op => op.Res

/-- The database, and the rest of the host. Of the latter the stored config and record are not
used here. -/
structure Site where
  tables : Tables
  host : World

/-- The answer and the effect of a statement that changes the tables. -/
def Site.change (w : Site) (ans : Answer) (after : Tables) : Except String Unit × Site :=
  match ans.error with
  | some text => (.error text, w)
  | none => (.ok (), { w with tables := after })

def StoreOp.exec : (op : StoreOp) → Answer → Site → Option (op.Res × Site)
  | .selectConfig name, ans, w =>
    match ans.error, w.tables.vms.find? (·.name = name) with
    | some text, _ => some (.error text, w)
    | none, none => some (.error ("VM " ++ goQuote name ++ " not found"), w)
    | none, some row =>
      match row.config with
      | some cfg => some (.ok cfg, w)
      | none => some (.error ("unmarshal config: " ++ ans.text), w)
  | .selectConfigs, ans, w => some (ans.orFail w.tables.configs, w)
  | .selectState name, ans, w =>
    match ans.error, w.tables.states name with
    | some text, _ => some (.error text, w)
    | none, none => some (.ok {}, w)
    | none, some (some state) => some (.ok state, w)
    | none, some none => some (.error ("unmarshal state: " ++ ans.text), w)
  | .upsertConfig cfg, ans, w => some (w.change ans (w.tables.upsertConfig cfg ans.num))
  | .upsertState name state, ans, w =>
    if w.tables.HasRow name then some (w.change ans (w.tables.upsertState name state))
    else some (.error (ans.error.getD "FOREIGN KEY constraint failed"), w)
  | .insertStub name template, ans, w =>
    some (w.change ans (w.tables.insertStub name template ans.num))
  | .deleteVM name, ans, w => some (w.change ans (w.tables.deleteVM name))
  | .removeFile _, ans, w => some (ans.orFail (), w)
  | .removeTunnels _, ans, w => some (ans.orFail (), w)
  | .deleteVMDir _, ans, w => some (ans.orFail (), w)
  | .host op, ans, w => (op.exec ans w.host).map fun out => (out.1, { w with host := out.2 })

def storeHost : Machine StoreOp StoreOp.Res Site where
  Ans := Answer
  Event := HostEvent
  exec _ op ans w := op.exec ans w
  env event w := (event.occur w.host).map fun host => { w with host := host }

abbrev Rows (α : Type) := Prog StoreOp StoreOp.Res α

abbrev askRow (op : StoreOp) : Rows op.Res := Prog.ask op

/-- The calls of an operation on one VM, on the database: `loadConfig`, `saveConfig`,
`loadState`, `saveState` and `listAllConfigs` of the manager. -/
def carryOut (name : String) : (op : Call) → Rows op.Res
  | .loadConfig => askRow (.selectConfig name)
  | .saveConfig cfg => askRow (.upsertConfig cfg)
  | .loadState => askRow (.selectState name)
  | .saveState state => do
    let _ ← askRow (.insertStub name "")
    askRow (.upsertState name state)
  | .listAllConfigs => askRow .selectConfigs
  | op => askRow (.host op)

/-- An operation on the VM of a name. -/
def ofVM {α : Type} (name : String) (p : VM α) : Rows α := p.subst (carryOut name)

/-- `Manager.List`, over all VMs. -/
def list : Rows (List (VMConfig × VMState)) := do
  let configs ← orThrow "" (← askRow .selectConfigs)
  forEach (fun cfg => ofVM cfg.name (listEntry cfg)) configs

/-- The record could be loaded and says Running, and its process is alive. -/
def runsNow (name : String) : Except String VMState → Rows Bool
  | .ok state => ofVM name (recordedAlive state)
  | .error _ => pure false

/-- Remove the boot disk that was placed outside of the VM directory. A failure is only logged. -/
def removeRelocated : Option String → Rows Unit
  | some path => do let _ ← askRow (.removeFile path)
  | none => pure ()

/-- `Manager.Delete`, for VMs under a storage path. -/
def delete (storagePath name : String) : Rows Unit := do
  let dir := joinElements [storagePath.toList, name.toList]
  if ← runsNow name (← askRow (.selectState name)) then
    throw ("VM " ++ goQuote name ++ " is running; stop it first")
  else
    let relocated := (← askRow (.selectConfig name)).toOption.bind
      (Vee.Delete.relocatedBootDisk name dir)
    let _ ← askRow (.deleteVM name)
    removeRelocated relocated
    let _ ← askRow (.removeTunnels name)
    orThrow "" (← askRow (.deleteVMDir dir))

end Vee.Database
