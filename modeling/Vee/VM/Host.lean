import Vee.Misc.Program
import Vee.VM.State

/-!
# The host of the VM manager

What one VM's operations share and how they reach it: the config and state store (`db.go`,
`store.go`), the process table, the vz result file, and the QMP owner connection of the VM's
watcher (`qmp_owner.go`). Every load, save, liveness check, signal and spawn is one call.

Three things are simplified. SIGKILL takes effect at once. Process ids are not reused.
Helpers that are not hypervisors (virtiofsd) are not in the process table.
-/

namespace Vee

/-- `backend.StartResult`. The lease baseline is the expiry of the guest's DHCP lease just before a
vz helper was launched. -/
structure StartResult where
  pid : Nat
  controlSocket : String
  guestAgentSocket : String
  leaseBaseline : Nat := 0

/-- A QMP event, with the part of its data that the watchers read. -/
inductive QMPEvent where
  | shutdown (guest : Bool) (reason : String)
  | reset (guest : Bool)
  | other

/-- `vzhelper.Reason*`: why a vz guest stopped. -/
inductive VZReason where
  | guest
  | host
  | error
  deriving DecidableEq, Repr

/-- What `EnsureScreenSharingGrants` can come to. -/
inductive GrantOutcome where
  | granted
  | nothing
  | diskBusy (text : String)
  | noTCCDB
  | unknownTCCSchema
  | failed
  deriving DecidableEq, Repr

/-- What a `select` of the QMP watcher wakes up for. -/
inductive Wakeup where
  | closed
  | event (ev : QMPEvent)

/-- Yes-or-no questions about the rest of the host. -/
inductive Query where
  | isPortInUse (port : Int)
  | glCrashInQEMULog
  | beforeDeadline
  | helperAlive (pid : Nat)
  | canWriteHosts
  | hasPrompt
  | ownerRegistered
  deriving DecidableEq, Repr

/-- Things done to the rest of the host that can fail or yield a text. -/
inductive Action where
  | gracefulShutdown (state : VMState)
  | terminateHelper (pid : Nat)
  | killHelper (pid : Nat)
  | unregisterHostname (hostname : String)
  | registerHostname (hostname ip : String)
  | deleteScratchDisk (vmName : String) (disk : DiskConfig)
  | waitIP
  | veeSSHPublicKey
  | truenasWaitAPI (ip : String)
  | prompt (text : String)
  | truenasCreateAPIKey (username password : String)
  | injectVeeSSHKey (ip apiKey adminUser pubKey : String)
  | dialQMP (socket : String)

/-- The goroutines that `Start` leaves behind. -/
inductive Watcher where
  | qmp (socket : String)
  | vz (socket : String)
  deriving DecidableEq, Repr

/-- The operations on a VM that a run can be made of. -/
inductive Operation where
  | start (foreground recovery : Bool)
  | stop
  | forceStop
  | guestPoweroff
  | list
  | tick
  deriving DecidableEq, Repr

/-- The calls of the manager. `block` never returns. `mark` does nothing; it shows
where, in a sequence of operations, one begins (`some`) and is over (`none`). -/
inductive Call where
  | loadConfig
  | saveConfig (cfg : VMConfig)
  | listAllConfigs
  | loadState
  | saveState (state : VMState)
  | processAlive (pid : Nat)
  | kill (pid : Nat)
  | buildBackendMachine (cfg : VMConfig) (recovery : Bool)
  | spawn (cfg : VMConfig)
  | loadResult
  | waitShutdown
  | selectEvent
  | selectForeground
  | query (q : Query)
  | perform (a : Action)
  | ensureScreenSharingGrants
  | freeTCPPort
  | now
  | watch (watcher : Watcher)
  | mark (op : Option Operation)
  | block

@[reducible] def Call.Res : Call → Type
  | .loadConfig => Except String VMConfig
  | .saveConfig _ => Except String Unit
  | .listAllConfigs => Except String (List VMConfig)
  | .loadState => Except String VMState
  | .saveState _ => Except String Unit
  | .processAlive _ => Bool
  | .kill _ => Unit
  | .buildBackendMachine _ _ => Except String (VMConfig × List Nat)
  | .spawn _ => Except String StartResult
  | .loadResult => Except String VZResult
  | .waitShutdown => Except String VZReason
  | .selectEvent => Wakeup
  -- whether the context was cancelled; otherwise the ticker fired
  | .selectForeground => Bool
  | .query _ => Bool
  | .perform _ => Except String String
  | .ensureScreenSharingGrants => GrantOutcome
  | .freeTCPPort => Except String Nat
  | .now => Nat
  | .watch _ => Unit
  | .mark _ => Unit
  | .block => Unit

/-- The operation that a call begins. -/
def Call.begins : Call → Option Operation
  | .mark op => op
  | _ => none

/-- The process that a call probes. -/
def Call.probes : Call → Option Nat
  | .processAlive pid => some pid
  | _ => none

/-- The record that a call saves. -/
def Call.saves : Call → Option VMState
  | .saveState state => some state
  | _ => none

def Call.loads : Call → Bool
  | .loadState => true
  | _ => false

/-- The call is the `select` of a foreground `Start`. -/
def Call.selects : Call → Bool
  | .selectForeground => true
  | _ => false

abbrev VM (α : Type) := Prog Call Call.Res α

/-- Programs that share a world. -/
abbrev Pool (W : Type) := Config Call Call.Res Unit W

abbrev ask (op : Call) : VM op.Res := Prog.ask op

/-- What one VM's operations share. `alive` are the hypervisor processes that
vee started for it, and `nextPid` bounds the process ids used so far. -/
structure World where
  config : VMConfig
  state : VMState
  alive : List Nat := []
  nextPid : Nat := 1
  result : Option VZResult := none
  events : List QMPEvent := []
  closed : Bool := false

/-- The host's own choices in a call. -/
structure Answer where
  error : Option String := none
  flag : Bool := false
  num : Nat := 0
  pids : List Nat := []
  text : String := ""
  socket : String := ""
  reason : VZReason := .error
  grant : GrantOutcome := .nothing
  expiry : Nat := 0
  deriving Repr

/-- A value, unless the host chose to fail. -/
def Answer.orFail {α : Type} (ans : Answer) (value : α) : Except String α :=
  match ans.error with
  | some text => .error text
  | none => .ok value

/-- The capacity of the watcher's event channel (`watchVMConnection`). -/
def eventCapacity : Nat := 8

/-- `buildBackendMachine` fills in a missing MAC address, and for a QEMU guest
with user-mode networking moves the SSH port to a free one. -/
def VMConfig.built (cfg : VMConfig) (ans : Answer) : VMConfig :=
  { cfg with
    nic := { cfg.nic with mac := if cfg.nic.mac = "" then ans.text else cfg.nic.mac }
    sshPort :=
      if cfg.backendName = .qemu ∧ cfg.sshPort > 0 ∧ ans.flag then ans.num else cfg.sshPort }

/-- What a saved config keeps. -/
def VMConfig.persisted (cfg : VMConfig) : VMConfig :=
  { cfg with gpu := { cfg.gpu with disableGL := false } }

namespace World

/-- `isAlive` of the manager, as a fact about the world. -/
def IsAlive (w : World) (pid : Nat) : Prop := pid ≠ 0 ∧ pid ∈ w.alive
deriving Decidable

/-- A process is gone. -/
def exit (w : World) (pid : Nat) : World := { w with alive := w.alive.filter (· ≠ pid) }

/-- The processes of a list are gone. -/
def lose (w : World) (gone : List Nat) : World := { w with alive := w.alive.filter (· ∉ gone) }

/-- A new process, under an id not used before. A vz helper removes the result
file of the run before it. -/
def spawned (w : World) (cfg : VMConfig) (pid : Nat) : World :=
  { w with
    alive := pid :: w.alive
    nextPid := pid + 1
    result := if cfg.backendName = .vz then none else w.result }

end World

def Call.exec : (op : Call) → Answer → World → Option (op.Res × World)
  | .loadConfig, ans, w => some (ans.orFail w.config, w)
  | .saveConfig cfg, ans, w =>
    match ans.error with
    | some text => some (.error text, w)
    | none => some (.ok (), { w with config := cfg.persisted })
  | .listAllConfigs, ans, w => some (ans.orFail (if ans.flag then [] else [w.config]), w)
  | .loadState, ans, w => some (ans.orFail w.state, w)
  | .saveState state, ans, w =>
    match ans.error with
    | some text => some (.error text, w)
    | none => some (.ok (), { w with state := state })
  | .processAlive pid, _, w => some (decide (pid ∈ w.alive), w)
  | .kill pid, _, w => some ((), w.exit pid)
  | .buildBackendMachine cfg _, ans, w => some (ans.orFail (cfg.built ans, ans.pids), w)
  | .spawn cfg, ans, w =>
    match ans.error with
    | some text => some (.error text, w)
    | none =>
      let pid := w.nextPid + ans.num
      let leaseBaseline := if cfg.backendName = .vz then ans.expiry else 0
      some (.ok ⟨pid, ans.text, ans.socket, leaseBaseline⟩, w.spawned cfg pid)
  | .loadResult, ans, w =>
    match ans.error, w.result with
    | none, some res => some (.ok res, w)
    | some text, _ => some (.error text, w)
    | none, none => some (.error "file does not exist", w)
  | .waitShutdown, ans, w => some (ans.orFail ans.reason, w)
  | .selectEvent, ans, w =>
    -- with both branches ready, Go's select takes either
    match ans.flag, w.closed, w.events with
    | true, true, _ => some (.closed, w)
    | false, _, ev :: rest => some (.event ev, { w with events := rest })
    | _, _, _ => none
  | .selectForeground, ans, w => some (ans.flag, w)
  | .query _, ans, w => some (ans.flag, w)
  | .perform _, ans, w => some (ans.orFail ans.text, w)
  | .ensureScreenSharingGrants, ans, w => some (ans.grant, w)
  | .freeTCPPort, ans, w => some (ans.orFail ans.num, w)
  | .now, ans, w => some (ans.num, w)
  | .watch _, _, w => some ((), w)
  | .mark _, _, w => some ((), w)
  | .block, _, _ => none

variable {ans : Answer} {w w' : World}

/-- Only a save changes the record, and process ids only grow. -/
theorem Call.exec_frame {op : Call} {res : op.Res} (noSave : op.saves = none)
    (ran : op.exec ans w = some (res, w')) :
    w'.state = w.state ∧ w.nextPid ≤ w'.nextPid := by
  cases op with
  | saveState state => cases noSave
  | saveConfig cfg =>
    simp only [exec] at ran
    split at ran <;> cases ran <;> exact ⟨rfl, Nat.le_refl _⟩
  | spawn cfg =>
    simp only [exec] at ran
    split at ran <;> cases ran
    · exact ⟨rfl, Nat.le_refl _⟩
    · refine ⟨rfl, ?_⟩
      change w.nextPid ≤ w.nextPid + ans.num + 1
      omega
  | loadResult =>
    simp only [exec] at ran
    split at ran <;> cases ran <;> exact ⟨rfl, Nat.le_refl _⟩
  | selectEvent =>
    simp only [exec] at ran
    split at ran <;> cases ran <;> exact ⟨rfl, Nat.le_refl _⟩
  | _ => cases ran <;> exact ⟨rfl, Nat.le_refl _⟩

theorem Call.loadState_exec {res : Except String VMState}
    (ran : Call.loadState.exec ans w = some (res, w')) :
    w' = w ∧ ((res = .ok w.state ∧ ans.error = none) ∨
      ∃ text, res = .error text ∧ ans.error = some text) := by
  simp only [exec, Answer.orFail] at ran
  split at ran <;> cases ran
  · rename_i text failed
    exact ⟨rfl, .inr ⟨text, rfl, failed⟩⟩
  · rename_i fine
    exact ⟨rfl, .inl ⟨rfl, fine⟩⟩

theorem Call.saveState_exec {s : VMState} {res : Except String Unit}
    (ran : (Call.saveState s).exec ans w = some (res, w')) :
    (res = .ok () ∧ ans.error = none ∧ w' = { w with state := s }) ∨
      ∃ text, res = .error text ∧ ans.error = some text ∧ w' = w := by
  simp only [exec] at ran
  split at ran <;> cases ran
  · rename_i text failed
    exact .inr ⟨text, rfl, failed, rfl⟩
  · rename_i fine
    exact .inl ⟨rfl, fine, rfl⟩

/-- What happens without any operation of vee. -/
inductive HostEvent where
  | exit (pid : Nat)
  | vzResult (res : VZResult)
  | qmp (ev : QMPEvent)
  | closeQMP

/-- The effect of an event. The QMP reader hands an event to the watcher's channel
and drops it when the channel is full; nothing follows the end of the stream. -/
def HostEvent.occur : HostEvent → World → Option World
  | .exit pid, w => if pid ∈ w.alive then some (w.exit pid) else none
  | .vzResult res, w => some { w with result := some res }
  | .qmp ev, w =>
    if w.closed then none
    else if w.events.length < eventCapacity then some { w with events := w.events ++ [ev] }
    else some w
  | .closeQMP, w => some { w with closed := true }

variable {event : HostEvent}

/-- An event touches neither the config nor the state record, and starts nothing. -/
theorem HostEvent.occur_frame (happened : event.occur w = some w') :
    w'.state = w.state ∧ w'.config = w.config ∧ w'.nextPid = w.nextPid ∧
      ∀ pid ∈ w'.alive, pid ∈ w.alive := by
  cases event with
  | exit pid =>
    simp only [occur] at happened
    split at happened <;> cases happened
    exact ⟨rfl, rfl, rfl, fun other mem => (List.mem_filter.mp mem).1⟩
  | vzResult res => cases happened; exact ⟨rfl, rfl, rfl, fun _ => id⟩
  | qmp ev =>
    simp only [occur] at happened
    split at happened
    · cases happened
    · split at happened <;> cases happened <;> exact ⟨rfl, rfl, rfl, fun _ => id⟩
  | closeQMP => cases happened; exact ⟨rfl, rfl, rfl, fun _ => id⟩

/-- The process that an event ends. -/
def HostEvent.exits : HostEvent → Option Nat
  | .exit pid => some pid
  | _ => none

theorem HostEvent.occur_alive (happened : event.occur w = some w') (noExit : event.exits = none) :
    w'.alive = w.alive := by
  cases event with
  | exit pid => cases noExit
  | vzResult res => cases happened; rfl
  | qmp ev =>
    simp only [occur] at happened
    split at happened
    · cases happened
    · split at happened <;> cases happened <;> rfl
  | closeQMP => cases happened; rfl

/-- What is in the watcher's channel was there or has just been read. -/
theorem HostEvent.occur_events (happened : event.occur w = some w') :
    ∀ ev ∈ w'.events, ev ∈ w.events ∨ event = .qmp ev := by
  intro ev mem
  cases event with
  | exit pid =>
    simp only [occur] at happened
    split at happened <;> cases happened
    exact .inl mem
  | vzResult res => cases happened; exact .inl mem
  | qmp read =>
    simp only [occur] at happened
    split at happened
    · cases happened
    · split at happened <;> cases happened
      · rcases List.mem_append.mp mem with old | new
        · exact .inl old
        · exact .inr (by rw [List.mem_singleton.mp new])
      · exact .inl mem
  | closeQMP => cases happened; exact .inl mem

def vmHost : Machine Call Call.Res World where
  Ans := Answer
  Event := HostEvent
  exec _ op ans w := op.exec ans w
  env := HostEvent.occur

end Vee
