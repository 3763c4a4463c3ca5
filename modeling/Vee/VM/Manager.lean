import Vee.Misc.GoText
import Vee.VM.Host

/-!
# The VM manager

`Manager.Start`, `stopWithReason`, `forceStopWithReason`, `cleanupStaleVM` and
`List` of `internal/vm/manager.go`, call by call, for one VM. Log lines are left
out. Loops that the source bounds by nothing take a number of rounds and then
`block`; every finite run is a run for some number of rounds.
-/

namespace Vee

open Prog (orThrow attempt forEach)

/-- What `internal/platform` knows about the host. -/
structure Platform where
  isMacOS : Bool
  supportsBridgeNetworking : Bool

def linuxHost : Platform := ⟨false, true⟩

def isAlive (pid : Nat) : VM Bool :=
  if pid = 0 then pure false else ask (.processAlive pid)

def loadConfig : VM VMConfig := do orThrow "" (← ask .loadConfig)

def loadState : VM VMState := do orThrow "" (← ask .loadState)

def saveConfig (context : String) (cfg : VMConfig) : VM Unit := do
  orThrow context (← ask (.saveConfig cfg))

def saveState (context : String) (state : VMState) : VM Unit := do
  orThrow context (← ask (.saveState state))

def query (q : Query) : VM Bool := ask (.query q)

/-- An action whose failure is only logged. -/
def perform (action : Action) : VM Unit := do
  let _ ← ask (.perform action)

/-- An action whose failure ends the operation. -/
def performFor (context : String) (action : Action) : VM String := do
  orThrow context (← ask (.perform action))

variable (host : Platform) (name : String) (cfg : VMConfig) (state : VMState)

/-- `UnregisterHostname`, when the VM has one. -/
def unregisterHostname : VM Unit :=
  if cfg.hostname ≠ "" then perform (.unregisterHostname cfg.hostname) else pure ()

/-- The result file `cleanupStaleVM` consults: only for a vz VM with no recorded
reason. -/
def staleResult : VM (Option VZResult) :=
  if state.lastShutdownReason = .unset ∧ state.backendName = .vz then do
    return (← ask .loadResult).toOption
  else pure none

/-- `cleanupStaleVM`. A failing save is ignored. -/
def cleanupStaleVM : VM Unit := do
  let result ← staleResult state
  let _ ← ask (.saveState (state.stale result))

/-- The running check of `Start`, with its stale path; the record that `Start`
goes on with. After a stale cleanup that is an empty one. -/
def checkNotRunning : VM VMState :=
  if state.running then do
    if ← isAlive state.pid then
      throw ("VM " ++ goQuote name ++ " is already running (PID " ++ toString state.pid ++ ")")
    else
      unregisterHostname cfg
      cleanupStaleVM state
      return {}
  else pure state

/-- Delete the backing files of the scratch disks. -/
def deleteScratchDisks : VM Unit := do
  let _ ← forEach (fun d => perform (.deleteScratchDisk cfg.name d))
    (cfg.disks.filter (·.isScratch))

/-- The `SkipInstall` block of `Start`. -/
def skipInstall : VM (VMConfig × VMState) :=
  if cfg.skipInstall ∧ state.installState = .unset then do
    deleteScratchDisks cfg
    let cfg := { cfg with disks := cfg.installedDisks, installDevices := [] }
    saveConfig "save config (skip install): " cfg
    let now ← ask .now
    let state := { state with installState := .ready, installedAt := some now }
    saveState "save state (skip install): " state
    return (cfg, state)
  else pure (cfg, state)

/-- Strip what only the installer needs and persist the config if that changed it. -/
def stripInstaller : VM VMConfig := do
  deleteScratchDisks cfg
  let stripped := { cfg with disks := cfg.installedDisks, installDevices := [] }
  if cfg.disks.any (fun d => d.isScratch || d.isInstallISO) || !cfg.installDevices.isEmpty then
    saveConfig "save config after stripping install ISOs: " stripped
    return stripped
  else return stripped

/-- The switch on the install state in `Start`. -/
def installPass : VM (VMConfig × VMState) :=
  match state.installState with
  | .unset =>
    if cfg.hasInstallISO then do
      let state := { state with installState := .pending }
      saveState "save install state: " state
      return (cfg, state)
    else pure (cfg, state)
  | .pending => pure (cfg, state)
  | .ready => do return (← stripInstaller cfg, state)

/-- A service entry after the SPICE port has moved. -/
def ServiceEntry.withSPICEPort (port : Nat) (service : ServiceEntry) : ServiceEntry :=
  if service.protocol = .spice then { service with port := port } else service

/-- Move the SPICE port away from one that is taken. -/
def reallocSPICE : VM VMConfig :=
  match cfg.spice with
  | none => pure cfg
  | some spice =>
    if cfg.backendName = .qemu ∧ spice.port > 0 then do
      if ← query (.isPortInUse spice.port) then
        let port ← orThrow "alloc SPICE port: " (← ask .freeTCPPort)
        let cfg := { cfg with
          spice := some { spice with port := port }
          services := cfg.services.map (·.withSPICEPort port) }
        saveConfig "save config after SPICE port realloc: " cfg
        return cfg
      else return cfg
    else pure cfg

/-- `buildBackendMachine`, with the fields it assigns in the config. -/
def buildBackendMachine (context : String) (cfg : VMConfig) (recovery : Bool) :
    VM (VMConfig × List Nat) := do
  orThrow context (← ask (.buildBackendMachine cfg recovery))

/-- `vzMachine.grantScreenSharing`; the disk-busy text carries its advice. -/
def grantScreenSharing : VM VMConfig :=
  match cfg.macOS with
  | none => pure cfg
  | some mac =>
    if mac.screenSharingGrantPending then do
      match ← ask .ensureScreenSharingGrants with
      | .diskBusy text => throw text
      | .noTCCDB => return cfg
      | .failed => return cfg
      | .unknownTCCSchema =>
        record { mac with screenSharingUnsupported := true, screenSharingGrantPending := false }
      | .granted => record { mac with screenSharingGrantPending := false }
      | .nothing => record { mac with screenSharingGrantPending := false }
    else pure cfg
where
  /-- Save the outcome; a failing save is only logged. -/
  record (mac : MacOSConfig) : VM VMConfig := do
    let cfg := { cfg with macOS := some mac }
    let _ ← ask (.saveConfig cfg)
    return cfg

/-- What `StartDetached` does before it launches: the grant, on the vz backend. -/
def beforeSpawn : VM VMConfig :=
  if cfg.backendName = .vz then grantScreenSharing cfg else pure cfg

/-- `StartDetached` of either backend. -/
def startDetached : VM (VMConfig × StartResult) := do
  let cfg ← beforeSpawn cfg
  let result ← orThrow "" (← ask (.spawn cfg))
  return (cfg, result)

/-- The rest of `retryStartWithoutGL`, once the process is gone. -/
def restartWithoutGL (recovery : Bool) (result : StartResult) : VM StartResult := do
  if ← query .glCrashInQEMULog then
    let retryCfg := { cfg with gpu := { cfg.gpu with disableGL := true } }
    let (retryCfg, _) ← buildBackendMachine "rebuild without GL: " retryCfg recovery
    let (_, result) ← startDetached retryCfg
    return result
  else return result

/-- `retryStartWithoutGL`: the process that the VM ends up with. -/
def retryStartWithoutGL (recovery : Bool) (result : StartResult) : VM StartResult :=
  if !host.isMacOS || cfg.gpu.mode ≠ .virtio || cfg.headless || cfg.spice.isSome ||
      cfg.gpu.disableGL then
    pure result
  else do
    if ← isAlive result.pid then return result
    else restartWithoutGL cfg recovery result

def effectiveBridge : Bool :=
  cfg.nic.mode = "bridge" && host.supportsBridgeNetworking

/-- The record of a new run, as both ends of `Start` fill it in
(`assignControlSockets` included). -/
def runningState (result : StartResult) (startedAt : Nat) (virtiofsdPIDs : List Nat) : VMState where
  pid := result.pid
  backend := cfg.backendName.text
  virtiofsdPIDs := virtiofsdPIDs
  startedAt := some startedAt
  running := true
  desiredState := .running
  installState := state.installState
  installedAt := state.installedAt
  controlSocket := if cfg.backendName = .vz then result.controlSocket else ""
  qmpSocket := if cfg.backendName = .vz then "" else result.controlSocket
  qgaSocket := if cfg.backendName = .vz then "" else result.guestAgentSocket
  spicePort := (cfg.spice.map (·.port)).getD 0
  sshPort := if cfg.sshPort > 0 && !effectiveBridge host cfg then cfg.sshPort else 0

/-- The blocking loop of a foreground `Start`. The private copy of the record is
written back at the end, and a failing save is ignored. -/
def waitForeground (fgState : VMState) : Nat → VM Unit
  | 0 => ask .block
  | rounds + 1 => do
    let cancelled : Bool ← ask .selectForeground
    if cancelled then
      let _ ← ask (.saveState { fgState with running := false })
      throw "context canceled"
    else if ← isAlive fgState.pid then
      waitForeground fgState rounds
    else
      let _ ← ask (.saveState { fgState with running := false })
      return ()

/-- The foreground branch of `Start` from its first save on. -/
def runForeground (fgState : VMState) (rounds : Nat) : VM Unit := do
  saveState "save state: " fgState
  waitForeground fgState rounds

def ensureTrueNASAPIKey (ip : String) : VM (String × String) :=
  if cfg.trueNASAPIKey ≠ "" then pure (cfg.trueNASAPIKey, cfg.trueNASUser)
  else do
    let _ ← performFor "waiting for TrueNAS API: " (.truenasWaitAPI ip)
    let username ← performFor "read username: " (.prompt "TrueNAS admin username: ")
    let username := username.trimAscii.toString
    let password ← performFor "read password: " (.prompt "TrueNAS admin password: ")
    let key ← performFor "create TrueNAS API key: " (.truenasCreateAPIKey username password)
    saveConfig "save vm.yaml: " { cfg with trueNASAPIKey := key, trueNASUser := username }
    return (key, username)

/-- The TrueNAS key injection at the end of `Start`. -/
def injectTrueNASKey (ip : String) : VM Unit := do
  match ← ask (.perform .veeSSHPublicKey) with
  | .error _ => return ()
  | .ok pubKey =>
    if !(← query .hasPrompt) && cfg.trueNASAPIKey = "" then return ()
    else
      match ← attempt (ensureTrueNASAPIKey cfg ip) with
      | .error _ => return ()
      | .ok (apiKey, adminUser) => perform (.injectVeeSSHKey ip apiKey adminUser pubKey)

/-- `RegisterHostname`, where `/etc/hosts` can be written. -/
def registerHostname (ip : String) : VM Unit :=
  if cfg.hostname ≠ "" then do
    if ← query .canWriteHosts then perform (.registerHostname cfg.hostname ip)
  else pure ()

/-- The best-effort end of a detached `Start`: the hostname, and the SSH key of a
TrueNAS guest. -/
def registerGuest : VM Unit :=
  if cfg.hostname ≠ "" ∨ cfg.template = "truenas" then do
    match ← ask (.perform .waitIP) with
    | .error _ => return ()
    | .ok ip =>
      registerHostname cfg ip
      if cfg.template = "truenas" then injectTrueNASKey cfg ip
  else pure ()

/-- Leave a shutdown watcher behind. -/
def watchGuest : VM Unit :=
  if cfg.backendName = .qemu ∧ state.qmpSocket ≠ "" then ask (.watch (.qmp state.qmpSocket))
  else if cfg.backendName = .vz ∧ state.controlSocket ≠ "" then
    ask (.watch (.vz state.controlSocket))
  else pure ()

/-- The end of a detached `Start`, from the save of the new record on. -/
def runDetached (newState : VMState) : VM Unit := do
  saveState "" newState
  watchGuest cfg newState
  registerGuest cfg

/-- `RecoveryPlan(cfg)` is not `RecoveryUnsupported`. -/
def recoverySupported : Bool :=
  cfg.backendName = .vz && (cfg.macOS.isSome || cfg.kernel ≠ "")

/-- The middle of `Start`: from the record it goes on with to a running process
and the record of it. -/
def launch (foreground recovery : Bool) : VM (VMConfig × VMState) := do
  let cfg ← reallocSPICE cfg
  let (cfg, virtiofsdPIDs) ← buildBackendMachine "" cfg recovery
  saveConfig "save config: " cfg
  let (cfg, result) ← startDetached cfg
  let result ← retryStartWithoutGL host cfg recovery result
  let now ← ask .now
  return (cfg, runningState host cfg state result now (if foreground then [] else virtiofsdPIDs))

/-- `Manager.Start` once the config is loaded. -/
def startWith (foreground recovery : Bool) (rounds : Nat) (cfg : VMConfig) : VM Unit := do
  let state ← loadState
  let state ← checkNotRunning name cfg state
  let (cfg, state) ← skipInstall cfg state
  let (cfg, state) ← installPass cfg state
  let (cfg, newState) ← launch host cfg state foreground (recovery && recoverySupported cfg)
  if foreground then runForeground newState rounds else runDetached cfg newState

/-- `Manager.Start`. -/
def start (foreground recovery : Bool) (rounds : Nat) : VM Unit := do
  let cfg ← loadConfig
  startWith host name foreground recovery rounds cfg

/-- The wait of `stopWithReason`: 30 seconds in steps of half a second. -/
def waitExit (pid : Nat) : Nat → VM Unit
  | 0 => pure ()
  | polls + 1 => do
    if ← query .beforeDeadline then
      if ← isAlive pid then waitExit pid polls
      else return ()
    else return ()

/-- The SIGKILL of a process that is still alive. -/
def killIfAlive (pid : Nat) : VM Unit := do
  if ← isAlive pid then ask (.kill pid)

/-- Signal the virtiofsd helpers that are still alive. -/
def signalHelpers (signal : Nat → Action) (pids : List Nat) : VM Unit := do
  let _ ← forEach (fun pid => do if ← query (.helperAlive pid) then perform (signal pid))
    (pids.filter (· > 0))

/-- `UnregisterHostname` of the stored config, if it can be read. -/
def unregisterStoredHostname : VM Unit := do
  match ← ask .loadConfig with
  | .ok cfg => unregisterHostname cfg
  | .error _ => return ()

/-- What both stops do once the process is gone: unregister the hostname and save
what is kept of the record. -/
def finishStop (reason : ShutdownReason) : VM Unit := do
  unregisterStoredHostname
  saveState "" (state.stopped reason)

/-- The text of a stop that finds nothing to stop. -/
def notRunning : String := "VM " ++ goQuote name ++ " is not running"

def stopWithReason (reason : ShutdownReason) : VM Unit := do
  let state ← loadState
  if !state.running || state.pid = 0 then throw (notRunning name)
  else
    perform (.gracefulShutdown state)
    waitExit state.pid 60
    killIfAlive state.pid
    signalHelpers .terminateHelper state.virtiofsdPIDs
    finishStop state reason

/-- Kill without asking the guest. -/
def forceStopWithReason (reason : ShutdownReason) : VM Unit := do
  let state ← loadState
  if !state.running || state.pid = 0 then throw (notRunning name)
  else
    killIfAlive state.pid
    signalHelpers .killHelper state.virtiofsdPIDs
    finishStop state reason

/-- One round of `List`: the record it reports, after the stale cleanup. -/
def listEntry : VM (VMConfig × VMState) := do
  let state := (← ask .loadState).toOption.getD {}
  if state.running then
    if ← isAlive state.pid then return (cfg, state)
    else
      cleanupStaleVM state
      return (cfg, { state with running := false })
  else return (cfg, state)

/-- `Manager.List`. -/
def list : VM (List (VMConfig × VMState)) := do
  let configs ← orThrow "" (← ask .listAllConfigs)
  forEach listEntry configs

end Vee
