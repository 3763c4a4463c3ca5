import Vee.Misc.Sequential
import Vee.VM.Daemon

/-!
# What a VM was last asked to do

The answer of the daemon to a host shutdown (`handleHostShutdown` of
`internal/vm/daemon.go`, `StopAllRunning` of `internal/vm/manager.go`), and the histories of
one VM in which everything that happens to it happens one after the other. A history carries
what nobody stores as such: the last thing that somebody wanted of the VM.
-/

namespace Vee

open Prog (orThrow attempt forEach)

/-! ### The host shutdown -/

/-- The entries of a list that are recorded as running and whose process is alive. -/
def runningEntries (entries : List (VMConfig × VMState)) : VM (List (VMConfig × VMState)) := do
  let checked ← forEach (fun e => do return (e, ← recordedAlive e.2)) entries
  return (checked.filter (·.2)).map (·.1)

def runningVMCount : VM Nat := do
  match ← attempt list with
  | .error _ => return 0
  | .ok entries => return (← runningEntries entries).length

/-- The goroutine of `StopAllRunning` for one VM: its error, if it has one. -/
def stopEntry (reason : ShutdownReason) (entry : VMConfig × VMState) : VM (Option String) := do
  match ← attempt (stopWithReason entry.1.name reason) with
  | .ok _ => return none
  | .error text => return some (entry.1.name ++ ": " ++ text)

def stopAllRunning (reason : ShutdownReason) : VM Unit := do
  let entries ← orThrow "list VMs: " (← attempt list)
  let errors ← forEach (stopEntry reason) (← runningEntries entries)
  match errors.filterMap id with
  | [] => return ()
  | texts => throw ("\n".intercalate texts)

/-- `handleHostShutdown`, without its notifications. -/
def handleHostShutdown : VM Unit := do
  if (← runningVMCount) = 0 then return ()
  else let _ ← attempt (stopAllRunning .host)

/-- What the watcher does about a RESET event of the guest (`handleResetEvent`). -/
def handleGuestReset (host : Platform) (name : String) : VM Unit := do
  if ← resetAnswered true then powerCycleAfterGuestReset host name

/-! ### One thing at a time -/

/-- The answers of a host on which the store works, machines can be built and launched, and
nobody interrupts a foreground start. -/
def Call.works : Call → Answer → Bool
  | .loadConfig, ans | .saveConfig _, ans | .loadState, ans | .saveState _, ans
  | .buildBackendMachine _ _, ans | .spawn _, ans | .freeTCPPort, ans => ans.error.isNone
  | .listAllConfigs, ans => ans.error.isNone && !ans.flag
  | .selectForeground, ans => !ans.flag
  | _, _ => true

/-- That host, for one operation at a time. With `exits`, processes may go before any call: a
stop waits for its guest to shut down. -/
def workingHost (exits : Bool) : Machine Call Call.Res World where
  Ans := Answer × List Nat
  exec _ op ans w :=
    if op.works ans.1 && (exits || ans.2.isEmpty) then op.exec ans.1 (w.lose ans.2) else none

/-- What can happen to a VM. -/
inductive Happening where
  | start (foreground recovery : Bool)
  | stop
  | forceStop
  | guestPoweroff
  | guestReset
  | crash
  | hostShutdown
  | list
  | tick

/-- One thing happens to the VM, from its beginning to its end. -/
inductive Happens (host : Platform) (name : String) : Happening → World → World → Prop
  | start {foreground recovery : Bool} {rounds : Nat} {w w' : World} {result : Except String Unit} :
      Ran (workingHost true) (start host name foreground recovery rounds) w result w' →
      Happens host name (.start foreground recovery) w w'
  | stop {w w' : World} {result : Except String Unit} :
      Ran (workingHost true) (stopWithReason name .user) w result w' →
      Happens host name .stop w w'
  | forceStop {w w' : World} {result : Except String Unit} :
      Ran (workingHost true) (forceStopWithReason name .user) w result w' →
      Happens host name .forceStop w w'
  /-- The watcher records the poweroff, and then the process goes. -/
  | guestPoweroff {w w' : World} {pid : Nat} {result : Except String Unit} :
      pid ∈ w.alive → Ran (workingHost false) recordGuestShutdown w result w' →
      Happens host name .guestPoweroff w (w'.exit pid)
  | guestReset {w w' : World} {result : Except String Unit} :
      w.alive ≠ [] → Ran (workingHost true) (handleGuestReset host name) w result w' →
      Happens host name .guestReset w w'
  | crash {w : World} {pid : Nat} : pid ∈ w.alive → Happens host name .crash w (w.exit pid)
  /-- After the daemon has stopped the VMs, the host goes down with whatever is left. -/
  | hostShutdown {w w' : World} {result : Except String Unit} :
      Ran (workingHost true) handleHostShutdown w result w' →
      Happens host name .hostShutdown w { w' with alive := [] }
  | list {w w' : World} {result : Except String (List (VMConfig × VMState))} :
      Ran (workingHost true) list w result w' → Happens host name .list w w'
  | tick {w w' : World} {result : Except String Unit} :
      Ran (workingHost false) (tick host) w result w' → Happens host name .tick w w'

/-! ### Histories -/

/-- Something has happened; `started` says whether a process was launched. -/
structure HistoryEntry where
  what : Happening
  started : Bool

/-- What an event asks for: that the VM runs, that it stays off, or nothing. -/
def HistoryEntry.intent : HistoryEntry → Option DesiredState
  | ⟨.start _ _, _⟩ | ⟨.tick, true⟩ => some .running
  | ⟨.stop, _⟩ | ⟨.forceStop, _⟩ | ⟨.guestPoweroff, _⟩ => some .stopped
  | _ => none

/-- The intent that the last event with one has left. -/
def lastIntent (past : List HistoryEntry) : Option DesiredState :=
  (past.filterMap HistoryEntry.intent).getLast?

/-- What has happened to the VM since `w₀`, and the world that this has led to. Something happens
only where it is allowed. -/
inductive History (host : Platform) (name : String) (allowed : Happening → World → Prop)
    (w₀ : World) : List HistoryEntry → World → Prop
  | nil : History host name allowed w₀ [] w₀
  | snoc {past : List HistoryEntry} {w w' : World} {event : Happening} :
      History host name allowed w₀ past w → allowed event w → Happens host name event w w' →
      History host name allowed w₀ (past ++ [⟨event, w.nextPid < w'.nextPid⟩]) w'

/-- A VM of the QEMU backend that the daemon is to start. -/
def VMConfig.Autostarted (cfg : VMConfig) : Prop := cfg.autoStart = true ∧ cfg.backendName = .qemu
deriving Decidable

/-- A VM that has just been created: nothing has run, and there is no record. -/
def World.Unused (w : World) : Prop :=
  w.config.Autostarted ∧ w.state = {} ∧ w.alive = [] ∧ 0 < w.nextPid
deriving Decidable

/-- A stop finds a record that says Running, or one that keeps the daemon away already. -/
def stopsHeeded : Happening → World → Prop
  | .stop, w | .forceStop, w => w.state.running = true ∨ shouldDaemonStart w.state = false
  | _, _ => True

end Vee
