import Vee.VM.Manager

/-!
# The daemon: autostart passes and shutdown watchers

`startAutoStartVMs` of `internal/vm/daemon.go`, the watchers of `internal/vm/qmp_registry.go`,
and `watchVZShutdown` of `internal/vm/backend_vz.go`. A watcher that answers a guest reset starts
the power-cycle in a goroutine and returns, so the power-cycle is the rest of the watcher here.
-/

namespace Vee

open Prog (orThrow attempt forEach)

def listAutoStart : VM (List VMConfig) := do
  let configs ← orThrow "" (← ask .listAllConfigs)
  return configs.filter (·.autoStart)

variable (host : Platform) (name : String)

/-- The `Start` of an autostart pass; its error is kept for the result. -/
def daemonStart (cfg : VMConfig) : VM (Option String) := do
  match ← attempt (start host cfg.name false false 0) with
  | .ok _ => return none
  | .error text => return some text

/-- The record says Running, and its process is alive. -/
def recordedAlive (state : VMState) : VM Bool :=
  if state.running then isAlive state.pid else pure false

/-- One round of `startAutoStartVMs`. -/
def autoStartVM (cfg : VMConfig) : VM (Option String) := do
  match ← ask .loadState with
  | .error _ => daemonStart host cfg
  | .ok state =>
    if ← recordedAlive state then return none
    else if !shouldDaemonStart state then return none
    else daemonStart host cfg

/-- `startAutoStartVMs`: the last error is its result. -/
def startAutoStartVMs : VM Unit := do
  let cfgs ← listAutoStart
  let errors ← forEach (autoStartVM host) cfgs
  match (errors.filterMap id).getLast? with
  | some text => throw text
  | none => return ()

/-- One round of `adoptRunningVMs`. -/
def adoptVM (state : VMState) : VM Unit :=
  if !state.running then pure ()
  else if state.backendName = .vz then
    if state.controlSocket = "" then pure ()
    else do if ← isAlive state.pid then ask (.watch (.vz state.controlSocket))
  else if state.qmpSocket = "" then pure ()
  else do
    if ← isAlive state.pid then
      if ← query .ownerRegistered then return ()
      else ask (.watch (.qmp state.qmpSocket))
    else return ()

/-- A watcher for each VM that runs without one. -/
def adoptRunningVMs : VM Unit := do
  match ← attempt list with
  | .error _ => return ()
  | .ok entries => do let _ ← forEach (fun e => adoptVM e.2) entries

/-- One poll tick of `RunDaemon`: the autostart pass, the adoption, and the inhibitor's
count of running VMs. Left out is the rest of the tick, with `reconcileSSHProxies`, which
also saves this VM's record, with the port of a proxy that it starts or stops. -/
def tick : VM Unit := do
  let _ ← attempt (startAutoStartVMs host)
  adoptRunningVMs
  let _ ← attempt list

/-- The guest has powered itself off. -/
def recordGuestShutdown : VM Unit := do
  match ← ask .loadState with
  | .error _ => return ()
  | .ok state => do let _ ← ask (.saveState state.guestShutdown)

def shouldPowerCycleOnGuestReset : VM Bool := do
  match ← ask .loadState with
  | .error _ => return false
  | .ok state => return state.running && state.installState ≠ .pending

/-- Whether an event is a guest reset that vee answers with a power-cycle. -/
def resetAnswered (reset : Bool) : VM Bool :=
  if reset then shouldPowerCycleOnGuestReset else pure false

/-- A reset by the guest becomes a stop and a start. -/
def powerCycleAfterGuestReset : VM Unit := do
  match ← attempt (forceStopWithReason name .reboot) with
  | .error _ => return ()
  | .ok _ => do let _ ← attempt (start host name false false 0)

/-- `handleShutdownEvent`. The watcher ends in every case. -/
def handleShutdownEvent (guest : Bool) (reason : String) : VM Unit :=
  if !guest then pure ()
  else do
    if ← resetAnswered (reason = "guest-reset") then powerCycleAfterGuestReset host name
    else recordGuestShutdown

/-- The loop of `watchVMConnection`, with `handleResetEvent`. -/
def watchEvents : Nat → VM Unit
  | 0 => ask .block
  | rounds + 1 => do
    match ← ask .selectEvent with
    | .closed => return ()
    | .event (.shutdown guest reason) => handleShutdownEvent host name guest reason
    | .event (.reset guest) =>
      if ← resetAnswered guest then powerCycleAfterGuestReset host name
      else watchEvents rounds
    | .event .other => watchEvents rounds

def watchVMConnection (name qmpSocket : String) (rounds : Nat) : VM Unit :=
  if qmpSocket = "" then pure ()
  else do
    match ← ask (.perform (.dialQMP qmpSocket)) with
    | .error _ => return ()
    | .ok _ => watchEvents host name rounds

def watchVZShutdown : VM Unit := do
  match ← ask .waitShutdown with
  | .error _ =>
    match ← ask .loadResult with
    | .error _ => return ()
    | .ok res => if res.cleanPoweroff then recordGuestShutdown else return ()
  | .ok .guest => recordGuestShutdown
  | .ok .host => return ()
  | .ok .error => return ()

end Vee
