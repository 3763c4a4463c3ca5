import Vee.VM.Daemon

/-!
# Sequences of operations, and the VMs they meet

One operation after the other on one VM, each run to its end whatever its result;
and the worlds in which the daemon supervises a running VM.
-/

namespace Vee

open Prog (attempt forEach)

variable (host : Platform) (name : String) (rounds : Nat)

/-- The goroutine behind a watcher. -/
def Watcher.prog : Watcher → VM Unit
  | .qmp socket => watchVMConnection host name socket rounds
  | .vz _ => watchVZShutdown

/-- The program of an operation. A guest poweroff is what the VM's watcher does
about it; the process exit that goes with it is an event of the host. -/
def Operation.prog : Operation → VM Unit
  | .start foreground recovery => Vee.start host name foreground recovery rounds
  | .stop => stopWithReason name .user
  | .forceStop => forceStopWithReason name .user
  | .guestPoweroff => recordGuestShutdown
  | .list => do let _ ← Vee.list
  | .tick => Vee.tick host

/-- One operation of a sequence. -/
def runOperation (op : Operation) : VM Unit := do
  ask (.mark (some op))
  let _ ← attempt (op.prog host name rounds)
  ask (.mark none)

def session (ops : List Operation) : VM Unit := do
  let _ ← forEach (runOperation host name rounds) ops

/-- The stop of a user, graceful or by force. -/
def userStop (force : Bool) : VM Unit :=
  if force then forceStopWithReason name .user else stopWithReason name .user

/-- An autostart VM that runs, as the store and the process table agree. -/
structure RunsUnderDaemon (w : World) : Prop where
  autoStart : w.config.autoStart
  running : w.state.running
  process : w.state.pid ≠ 0
  alive : w.alive = [w.state.pid]

/-- A running VM that the daemon keeps running. -/
def daemonVM : World where
  config := { name := "vm", autoStart := true }
  state := { pid := 1, running := true, desiredState := .running }
  alive := [1]
  nextPid := 2

theorem daemonVM_runs : RunsUnderDaemon daemonVM := ⟨rfl, rfl, by decide, rfl⟩

end Vee
