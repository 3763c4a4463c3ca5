import Vee.Misc.Sequential
import Vee.VM.Manager

/-!
# The virtiofsd helpers of a start

`Manager.Start` with the inside of `buildBackendMachine` (`internal/vm/backend.go`) and
`buildMachine` (`internal/vm/manager.go`): `start` is the program of `VM/Manager`, with that
one call carried out step by step. What the build does before it comes to the shares is one
call, and so is the assembly of the machine at its end.
-/

namespace Vee

open Prog (orThrow attempt)

/-- What a build asks `internal/platform` besides. Only Linux hosts run virtiofsd, and the GL
retry is for macOS. -/
structure HelperHost extends Platform where
  supportsVirtiofsd : Bool
  supportsSwTPM : Bool
  linuxOnly : supportsVirtiofsd → isMacOS = false

/-- The calls of a start, with those of a build. -/
inductive BuildOp where
  | vm (op : Call)
  /-- `buildMachine` up to the shares. -/
  | prepareMachine (cfg : VMConfig)
  | ensureVirtiofsd
  /-- `Virtiofsd.StartDetached`, and the wait for its socket. -/
  | startVirtiofsd (mount : VirtiofsMount)
  | startSwtpm (vmName : String)
  /-- `machine.BuildMachine` on the collected options. -/
  | assembleMachine (cfg : VMConfig)
  | buildVZMachine (cfg : VMConfig) (recovery : Bool)

@[reducible] def BuildOp.Res : BuildOp → Type
  | .vm op => op.Res
  | .prepareMachine _ | .buildVZMachine _ _ => Except String VMConfig
  | .ensureVirtiofsd => Except String String
  | .startVirtiofsd _ => Except String Nat
  | .startSwtpm _ | .assembleMachine _ => Except String Unit

abbrev Build (α : Type) := Prog BuildOp BuildOp.Res α

abbrev request (op : BuildOp) : Build op.Res := Prog.ask op

variable (host : HelperHost) (cfg : VMConfig)

/-- The shares that a build serves: none where there is no virtiofsd. -/
def HelperHost.mounts : List VirtiofsMount :=
  if host.supportsVirtiofsd then cfg.virtiofsMounts else []

/-- Have the virtiofsd binary ready, if there is a share; a failure is only logged. -/
def ensureVirtiofsd (mounts : List VirtiofsMount) : Build Unit :=
  if mounts ≠ [] then do
    let _ ← request .ensureVirtiofsd
  else pure ()

/-- The loop over the shares. A helper that does not start is only logged. -/
def startVirtiofsds : List VirtiofsMount → List Nat → Build (List Nat)
  | [], virtiofsdPIDs => pure virtiofsdPIDs
  | mount :: rest, virtiofsdPIDs => do
    match ← request (.startVirtiofsd mount) with
    | .error _ => startVirtiofsds rest virtiofsdPIDs
    | .ok pid => startVirtiofsds rest (virtiofsdPIDs ++ [pid])

/-- The software TPM, for a VM that has one. -/
def startTPM : Build Unit :=
  if cfg.tpm.any (·.enabled) ∧ host.supportsSwTPM then do
    orThrow "swtpm: " (← request (.startSwtpm cfg.name))
  else pure ()

/-- The end of `buildMachine`. The stored record only decides the boot order. -/
def finishMachine : Build Unit := do
  let _ ← request (.vm .loadState)
  orThrow "" (← request (.assembleMachine cfg))

/-- `buildMachine`, with the fields it assigns in the config. -/
def buildMachine : Build (VMConfig × List Nat) := do
  let cfg ← orThrow "" (← request (.prepareMachine cfg))
  ensureVirtiofsd (host.mounts cfg)
  let virtiofsdPIDs ← startVirtiofsds (host.mounts cfg) []
  startTPM host cfg
  finishMachine cfg
  return (cfg, virtiofsdPIDs)

/-- The text of a backend that is neither of the two. -/
def unknownBackend : String :=
  "unknown backend " ++ goQuote cfg.backend ++ " (valid: \"qemu\", \"vz\")"

/-- `buildVZMachine`, which starts no helper. -/
def buildVZMachine (recovery : Bool) : Build (VMConfig × List Nat) := do
  let cfg ← orThrow "" (← request (.buildVZMachine cfg recovery))
  return (cfg, [])

/-- `Manager.buildBackendMachine`. -/
def buildMachineFor (recovery : Bool) : Build (VMConfig × List Nat) :=
  match cfg.backendName with
  | .qemu => buildMachine host cfg
  | .vz => buildVZMachine cfg recovery
  | .unknown _ => throw (unknownBackend cfg)

/-- How a call of the manager is carried out. -/
def carryOut : (op : Call) → Build op.Res
  | .buildBackendMachine cfg recovery => attempt (buildMachineFor host cfg recovery)
  | op => request (.vm op)

/-- `Manager.Start` with its builds. -/
def startWithBuilds (name : String) (foreground recovery : Bool) (rounds : Nat) : Build Unit :=
  (start host.toPlatform name foreground recovery rounds).subst (carryOut host)

/-- The helpers of one start. -/
structure Helpers where
  spawned : List Nat := []
  /-- Those that have exited by themselves. -/
  exited : List Nat := []
  /-- Those that the start has sent a signal to. -/
  terminated : List Nat := []
  /-- A record has been saved since the last helper was spawned. -/
  saved : Bool := false
  /-- A step has failed between the first helper and the save of a record after it. -/
  interrupted : Bool := false

namespace Helpers

/-- A step that the start depends on has failed. -/
def fail (h : Helpers) : Helpers :=
  { h with interrupted := h.interrupted || (h.spawned ≠ [] && !h.saved) }

def signal (h : Helpers) (pid : Nat) : Helpers :=
  if pid ∈ h.spawned then { h with terminated := h.terminated ++ [pid] } else h

/-- A helper that a call has started. -/
def start (h : Helpers) (pid : Nat) : Helpers :=
  { h with spawned := h.spawned ++ [pid], saved := false }

/-- A step that the start depends on, with its answer. -/
def after {α : Type} (h : Helpers) : Except String α → Helpers
  | .ok _ => h
  | .error _ => h.fail

/-- What a call of the manager and its answer mean for the helpers. -/
def noteCall (h : Helpers) : (op : Call) → op.Res → Helpers
  | .saveConfig _, answer => h.after answer
  | .spawn _, answer => h.after answer
  | .saveState _, .ok _ => { h with saved := true }
  | .saveState _, .error _ => h.fail
  | .perform (.terminateHelper pid), .ok _ => h.signal pid
  | .perform (.killHelper pid), .ok _ => h.signal pid
  | _, _ => h

/-- What a call and its answer mean for the helpers. -/
def note (h : Helpers) : (op : BuildOp) → op.Res → Helpers
  | .vm op, answer => h.noteCall op answer
  | .startVirtiofsd _, .ok pid => h.start pid
  | .startSwtpm _, answer => h.after answer
  | .assembleMachine _, answer => h.after answer
  | _, _ => h

end Helpers

/-- What a call does to the files and processes of the VM. A helper gets an id not used
before. -/
def BuildOp.exec : (op : BuildOp) → Answer → World → Option (op.Res × World)
  | .vm op, ans, w => op.exec ans w
  | .prepareMachine cfg, ans, w => some (ans.orFail (cfg.built ans), w)
  | .ensureVirtiofsd, ans, w => some (ans.orFail ans.text, w)
  | .startVirtiofsd _, ans, w =>
    match ans.error with
    | some text => some (.error text, w)
    | none =>
      let pid := w.nextPid + ans.num
      some (.ok pid, { w with nextPid := pid + 1 })
  | .startSwtpm _, ans, w => some (ans.orFail (), w)
  | .assembleMachine _, ans, w => some (ans.orFail (), w)
  | .buildVZMachine cfg _, ans, w => some (ans.orFail (cfg.built ans), w)

/-- The host's choices in a call: the hypervisors that are gone before it, its answer, and the
helpers that exit by themselves before the next one. -/
structure BuildAnswer extends Answer where
  gone : List Nat := []
  exits : List Nat := []

/-- The host, with the helpers of the start that runs on it. -/
def buildMachines : Machine BuildOp BuildOp.Res (World × Helpers) where
  Ans := BuildAnswer
  exec _ op ans w := (op.exec ans.toAnswer (w.1.lose ans.gone)).map fun out =>
    (out.1, out.2, { w.2.note op out.1 with exited := w.2.exited ++ ans.exits })

/-- No helper is lost: it has exited or been terminated, or a stop will find it in the record. -/
def Helpers.Kept (h : Helpers) (state : VMState) : Prop :=
  ∀ pid ∈ h.spawned, pid ∈ h.exited ∨ pid ∈ h.terminated ∨ pid ∈ state.virtiofsdPIDs
deriving Decidable

end Vee
