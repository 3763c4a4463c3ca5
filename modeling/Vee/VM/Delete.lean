import Vee.Build.Overrides
import Vee.Misc.FileTree
import Vee.Tunnel.Reconcile

/-!
# Deleting VMs

`Manager.Delete` and `deleteVMDir` of `internal/vm/manager.go`, and the tool `vm_delete` of
`internal/mcpserver/server.go`, which calls it for every name of a request. The files stand in a
tree of files without symbolic links.
-/

namespace Vee.Delete

open Tunnel (TunnelSpec registryRemoveVM)

/-- What the calls run on. -/
structure Host where
  cwd : Place
  storagePath : String
  isAlive : Nat → Bool
  /-- Why the system refuses to remove the node at a place. -/
  refuses : Place → Option String := fun _ => none
  /-- Why the system refuses to list the directory at a place. -/
  unreadable : Place → Option String := fun _ => none
  /-- The rows of a VM can be deleted. -/
  dropsRows : String → Bool := fun _ => true
  /-- The tunnel registry can be saved. -/
  savesTunnels : String → Bool := fun _ => true

/-- The files, the rows of the database and the tunnel registry. -/
structure World where
  tree : FileTree
  states : String → Except String VMState
  configs : String → Except String VMConfig
  tunnels : Except String (List TunnelSpec) := .ok []

namespace Host

variable (host : Host) (path : Text) (t : FileTree)

def vmDir (name : String) : Text :=
  joinElements [host.storagePath.toList, name.toList]

def place : Place := locate host.cwd path

def root : Place := host.place host.storagePath.toList

/-- The error of a system call on a path. -/
def pathError (call : String) (path : Text) (reason : String) : String :=
  call ++ " " ++ String.ofList path ++ ": " ++ reason

/-- `os.Remove`. -/
def remove : FileTree.Removal :=
  let out := t.remove host.refuses (host.place path)
  { out with err := out.err.map (pathError "remove" path) }

/-- `os.RemoveAll`. -/
def removeAll : FileTree.Removal :=
  let out := t.removeAll host.refuses (host.place path)
  { out with err := out.err.map (pathError "unlinkat" path) }

/-- `os.ReadDir`; the empty path names nothing. -/
def readDir : FileTree.Listing :=
  if path = [] then .missing else t.readDir host.unreadable (host.place path)

end Host

variable (host : Host) (name : String) (w : World)

/-- The loop of `deleteVMDir`, and what follows it. -/
def deleteEntries (dir : Text) : List DirEntry → Bool → FileTree → FileTree.Removal
  | [], hasBackups, t => if hasBackups then ⟨none, t⟩ else host.remove dir t
  | e :: rest, hasBackups, t =>
    if e.name = "backups".toList ∧ e.isDir then deleteEntries dir rest true t
    else
      let out := host.removeAll (joinElements [dir, e.name]) t
      if out.err.isSome then out else deleteEntries dir rest hasBackups out.tree

/-- The directory of a VM, with backups left in place. -/
def deleteVMDir (dir : Text) (t : FileTree) : FileTree.Removal :=
  match host.readDir dir t with
  | .missing => ⟨none, t⟩
  | .failed reason => ⟨some (Host.pathError "open" dir reason), t⟩
  | .entries found => deleteEntries host dir found false t

/-- The file of a managed disk: the path of the entry, or a generated name in it. -/
def managedBootDiskAbsPath (vmName : String) (d : DiskConfig) : String :=
  if diskFileSuffixes.any fun suffix => suffix.toList.isSuffixOf d.path.toList then d.path
  else
    let name := generatedName vmName d.size (if d.format = "" then "qcow2" else d.format)
    if d.path = "" then name else joinPath [d.path, name]

/-- `scratchDiskPath`, which `deleteScratchDisk` removes as it is. -/
def scratchDiskPath (vmName : String) (d : DiskConfig) : String := managedBootDiskAbsPath vmName d

/-- The boot disk that vee has created. -/
def findManagedBootDisk (cfg : VMConfig) : Option DiskConfig := cfg.disks.find? (·.managed)

/-- The boot disk, if it lies outside the VM's directory and has a name of vee. -/
def relocatedBootDisk (vmDir : Text) (cfg : VMConfig) : Option String :=
  match findManagedBootDisk cfg with
  | none => none
  | some d =>
    if d.path = "" then none
    else
      let path := managedBootDiskAbsPath name d
      let ownName := ("disk-" ++ name ++ "-").toList
      if path.toList.head? ≠ some '/' ∨ ¬ ownName.isPrefixOf (basePath path.toList) then none
      else
        match relPath vmDir path.toList with
        | some rel => if "..".toList.isPrefixOf rel then some path else none
        | none => some path

/-- `dbDeleteVM`: the row of a VM, and with it that of its state. -/
def dbDeleteVM : World :=
  if host.dropsRows name then
    { w with
      configs := Function.update w.configs name (.error ("VM " ++ goQuote name ++ " not found"))
      states := Function.update w.states name (.ok {}) }
  else w

/-- `RemoveVM`, whose error is only logged. -/
def removeTunnels : World :=
  match w.tunnels with
  | .error _ => w
  | .ok specs =>
    match registryRemoveVM name specs with
    | none => w
    | some left => if host.savesTunnels name then { w with tunnels := .ok left } else w

/-- The boot disk that is deleted with a VM. -/
def doomedDisk : Option String :=
  match w.configs name with
  | .ok cfg => relocatedBootDisk name (host.vmDir name) cfg
  | .error _ => none

/-- Remove the relocated boot disk; an error is only logged. -/
def removeDisk (disk : Option String) (w : World) : World :=
  match disk with
  | some path => { w with tree := (host.remove path.toList w.tree).tree }
  | none => w

/-- The state of a VM can be loaded and meets a test. -/
def World.stateIs (name : String) (test : VMState → Bool) : Bool :=
  match w.states name with
  | .ok state => test state
  | .error _ => false

/-- `Manager.Delete`: the error and the world that it leaves. -/
def delete : Option String × World :=
  if w.stateIs name fun state => state.running && host.isAlive state.pid then
    (some ("VM " ++ goQuote name ++ " is running; stop it first"), w)
  else
    let w :=
      removeTunnels host name (removeDisk host (doomedDisk host name w) (dbDeleteVM host name w))
    let out := deleteVMDir host (host.vmDir name) w.tree
    (out.err, { w with tree := out.tree })

structure VMDeleteIn where
  name : String := ""
  names : List String := []

/-- The names of a request, each once. -/
def VMDeleteIn.requested (input : VMDeleteIn) : List String :=
  input.names.foldl (fun names n => if n ∈ names then names else names ++ [n])
    (if input.name ≠ "" then [input.name] else [])

/-- One call of `Delete`. -/
structure DeleteCall where
  name : String
  before : World
  after : World
  err : Option String

/-- How far `vm_delete` has come: the calls it has made, and what it will report. -/
structure Progress where
  world : World
  calls : List DeleteCall := []
  deleted : List String := []
  errs : List String := []

/-- One round of the loop. -/
def deleteNamed (progress : Progress) (name : String) : Progress :=
  if progress.world.stateIs name (·.running) then
    let err := "VM " ++ goQuote name ++ " is running; stop it with vm_stop before deleting"
    { progress with errs := progress.errs ++ [err] }
  else
    let out := delete host name progress.world
    let progress : Progress :=
      { progress with
        world := out.2
        calls := progress.calls ++ [⟨name, progress.world, out.2, out.1⟩] }
    match out.1 with
    | some err => { progress with errs := progress.errs ++ ["delete " ++ name ++ ": " ++ err] }
    | none => { progress with deleted := progress.deleted ++ [name] }

structure VMDeleteOut where
  deleted : List String
  status : String

/-- The loop of `vm_delete`. -/
def deleteAll (input : VMDeleteIn) (w : World) : Progress :=
  input.requested.foldl (deleteNamed host) { world := w }

def vmDelete (input : VMDeleteIn) (w : World) : Except String VMDeleteOut :=
  let done := deleteAll host input w
  if input.requested = [] then
    .error "provide the VM to delete via name, or several via names"
  else if done.errs ≠ [] then
    let told :=
      if done.deleted ≠ [] then ["deleted successfully: " ++ String.intercalate ", " done.deleted]
      else []
    .error (String.intercalate "\n" (done.errs ++ told))
  else .ok ⟨done.deleted, "deleted"⟩

end Vee.Delete
