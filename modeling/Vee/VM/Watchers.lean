import Vee.VM.Daemon

/-!
# The watchers of the daemon during one run of a VM

`adoptRunningVMs` leaves a goroutine behind for a VM that it takes to be unwatched:
`watchVMConnection` on the QMP socket of a QEMU guest, `watchVZShutdown` on the control socket of a
vz helper. Here a goroutine is known by how far it has come.
-/

namespace Vee

open Prog (attempt forEach)

/-- `RunDaemon`, up to a number of ticks. -/
def runDaemon (host : Platform) (ticks : Nat) : VM Unit := do
  adoptRunningVMs
  let _ ← attempt (startAutoStartVMs host)
  -- the count of running VMs for the inhibitor
  let _ ← attempt list
  let _ ← forEach (fun _ => tick host) (List.range ticks)

namespace Watching

/-- How far a watcher has come. -/
inductive Stage where
  /-- `watchVMConnection` is in `NewQMPOwner`: the dial, the greeting, the handshake. -/
  | dialing
  /-- It has its connection, and is not in the registry yet. -/
  | dialled
  /-- It is in the registry and waits for events. -/
  | serving
  /-- `watchVZShutdown` waits for the answer to its request. -/
  | waiting
  /-- The wait is over: the connection was closed, or the event was the last one. -/
  | woken
  /-- It is out of the registry; its connection is about to be closed. -/
  | closing
  deriving DecidableEq, Repr

/-- The watcher is blocked on the control socket, or holds a connection to it that it will wait
on. -/
def Stage.onSocket : Stage → Bool
  | .dialing | .dialled | .serving | .waiting => true
  | .woken | .closing => false

/-- A goroutine. The owner that it registers is known by the same number. -/
structure Goroutine where
  id : Nat
  watcher : Watcher
  stage : Stage

/-- Where a watcher begins. -/
def firstStage : Watcher → Stage
  | .qmp _ => .dialing
  | .vz _ => .waiting

/-- The VM, the watchers that the daemon has started for it, and the owner in the registry. -/
structure Site where
  world : World
  watchers : List Goroutine := []
  registry : Option Nat := none
  nextId : Nat := 0

namespace Site

/-- The watchers on the control socket. -/
def blocked (s : Site) : List Goroutine := s.watchers.filter (·.stage.onSocket)

/-- The `go` statement. -/
def spawn (s : Site) (watcher : Watcher) : Site :=
  { s with
    watchers := s.watchers ++ [⟨s.nextId, watcher, firstStage watcher⟩]
    nextId := s.nextId + 1 }

/-- A goroutine has come further. -/
def enter (s : Site) (id : Nat) (stage : Stage) : Site :=
  { s with watchers := s.watchers.map fun g => if g.id = id then { g with stage := stage } else g }

/-- A goroutine has returned. -/
def leave (s : Site) (id : Nat) : Site := { s with watchers := s.watchers.filter (·.id ≠ id) }

/-- `qmpRegistry.deleteIf`. -/
def deleteIf (s : Site) (id : Nat) : Site :=
  { s with registry := if s.registry = some id then none else s.registry }

end Site

/-- What a watcher does next. -/
inductive Progress where
  | dial (connected : Bool)
  | register
  | wake
  | deregister
  | close
  deriving DecidableEq, Repr

/-- A step of one watcher, from the stage that it is in. -/
def Site.advance (s : Site) (g : Goroutine) : Progress → Option Site
  | .dial true => if g.stage = .dialing then some (s.enter g.id .dialled) else none
  | .dial false => if g.stage = .dialing then some (s.leave g.id) else none
  | .register =>
    if g.stage = .dialled then some { s.enter g.id .serving with registry := some g.id } else none
  | .wake =>
    if g.stage = .serving ∨ g.stage = .waiting then some (s.enter g.id .woken) else none
  | .deregister =>
    if g.stage = .woken then some ((s.enter g.id .closing).deleteIf g.id) else none
  | .close => if g.stage = .closing then some (s.leave g.id) else none

/-- One run of the VM: its process is alive, and the record is that of the run. -/
structure InRun (pid : Nat) (backend : Backend) (w : World) : Prop where
  running : w.state.running = true
  process : w.state.pid = pid
  backend : w.state.backendName = backend
  alive : w.IsAlive pid

instance (pid : Nat) (backend : Backend) (w : World) : Decidable (InRun pid backend w) :=
  decidable_of_iff (w.state.running = true ∧ w.state.pid = pid ∧ w.state.backendName = backend ∧
      w.IsAlive pid)
    ⟨fun ⟨a, b, c, d⟩ => ⟨a, b, c, d⟩, fun run => ⟨run.1, run.2, run.3, run.4⟩⟩

/-- What a call of the daemon does: the registry answers for itself, and a watcher becomes a
goroutine. -/
def exec : (op : Call) → Answer → Site → Option (op.Res × Site)
  | .query .ownerRegistered, _, s => some (s.registry.isSome, s)
  | .watch watcher, _, s => some ((), s.spawn watcher)
  | op, ans, s => (op.exec ans s.world).map fun out => (out.1, { s with world := out.2 })

/-- What goes on beside the daemon: the watchers, and whatever else happens to the VM. -/
inductive Event where
  | watcher (id : Nat) (progress : Progress)
  | other (world : World)

/-- The host while one run of the VM lasts. -/
def oneRun (pid : Nat) (backend : Backend) : Machine Call Call.Res Site where
  Ans := Answer
  Event := Event
  exec _ op ans s := exec op ans s
  env event s :=
    match event with
    | .watcher id progress => (s.watchers.find? (·.id = id)).bind fun g => s.advance g progress
    | .other world => if InRun pid backend world then some { s with world := world } else none

/-- `ExecuteQMP`, for what the `Execute` of an owner returns. -/
def Site.executeQMP {α : Type} (s : Site) (execute : Nat → Except String α) : Except String α :=
  match s.registry with
  | none => .error "QMP connection not owned by this process"
  | some owner => execute owner

/-- What goes on over any number of runs of the VM. -/
inductive RunsEvent where
  /-- A run begins, and `Start` leaves its watcher behind. -/
  | launch (socket : String)
  | watcher (id : Nat) (progress : Progress)
  | other (world : World)

/-- The runs of a VM one after the other, with the owners that have been registered, the last one
first. -/
def successiveRuns : Machine Call Call.Res (Site × List Nat) where
  Ans := Empty
  Event := RunsEvent
  exec _ _ ans _ := nomatch ans
  env event w :=
    match event with
    | .launch socket => some (w.1.spawn (.qmp socket), w.2)
    | .watcher id progress =>
      (w.1.watchers.find? (·.id = id)).bind fun g => (w.1.advance g progress).map fun s =>
        (s, if progress = .register then g.id :: w.2 else w.2)
    | .other world => some ({ w.1 with world := world }, w.2)

/-- The watcher that a `Start` leaves behind. -/
def startWatcher (backend : Backend) (socket : String) : Goroutine :=
  if backend = .vz then ⟨0, .vz socket, .waiting⟩ else ⟨0, .qmp socket, .dialing⟩

/-- When the daemon comes to a run it has no watcher for it, or the one that its own `Start` has
just left behind. -/
structure Site.Begins (pid : Nat) (backend : Backend) (s : Site) : Prop where
  run : InRun pid backend s.world
  registry : s.registry = none
  watchers : s.watchers = [] ∨ ∃ socket, s.watchers = [startWatcher backend socket]
  nextId : s.nextId = s.watchers.length

end Watching

end Vee
