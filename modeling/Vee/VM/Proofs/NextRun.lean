import Vee.VM.Outline
import Vee.VM.Session

/-!
# A watcher that outlives its run

The shutdown watcher of a run works on the record of the VM, whichever run the record is about
(`recordGuestShutdown`). When a slow one comes to its save, the next run may be recorded. Then the
guest shutdown of the old run is charged to the new one, and the daemon will not bring it back.
-/

namespace Vee

open Prog (attempt)

/-- How a run ends before the next one is started. -/
inductive RunEnd where
  | crash
  | stop (reason : ShutdownReason)
  | forceStop (reason : ShutdownReason)

variable (s : VMState) (host : Platform) (name : String) (ending : RunEnd)
  (foreground recovery : Bool) (rounds : Nat)

/-- What vee does about it; a crash is an event of the host. -/
def RunEnd.prog : RunEnd → VM Unit
  | .crash => pure ()
  | .stop reason => stopWithReason name reason
  | .forceStop reason => forceStopWithReason name reason

def restart : VM Unit := do
  let _ ← attempt (ending.prog name)
  start host name foreground recovery rounds

structure NextRun where
  /-- The process of the new run. -/
  spawned : Option Nat := none
  /-- The record of the new run, as it was saved last. -/
  recorded : Option VMState := none

def NextRun.log (i : Nat) (op : Call) (answer : op.Res) (_ : World) (run : NextRun) : NextRun :=
  if i = 1 then
    match op, answer with
    | .spawn _, .ok result => { run with spawned := some result.pid }
    | .saveState s, .ok _ => if run.spawned.isSome then { run with recorded := some s } else run
    | _, _ => run
  else run

def restartHost : Machine Call Call.Res (World × NextRun) :=
  vmHost.withHistory NextRun.log fun _ _ run => run

def watcherAgainstRestart (watcher : Watcher) (rounds : Nat)
    (restarting : VM Unit) (w : World) : Pool (World × NextRun) :=
  ⟨[watcher.prog host name rounds, restarting], (w, {})⟩

/-- The watcher saves only while the process of the new run has not been spawned. -/
def watcherSavesEarly : Guard restartHost where
  run i op _ w := i = 0 → op.saves.isSome → w.2.spawned = none

instance : watcherSavesEarly.Decides where
  run _ _ _ _ := inferInstanceAs (Decidable (_ → _ → _))
  env _ _ := isTrue trivial

/-- The record of a run that is meant to go on. -/
def VMState.Unharmed : Prop :=
  s.desiredState = .running ∧ s.lastShutdownReason = .unset

namespace NextRun

/-- Once the new run is recorded, its record is the stored one. -/
def Inv (w : World × NextRun) : Prop :=
  ∀ s, w.2.recorded = some s → w.1.state = s ∧ w.2.spawned = some s.pid ∧ s.Unharmed

/-- The history is about the restart, so only the restart changes it. -/
def protocol : Protocol restartHost where
  guard := watcherSavesEarly
  inv := Inv
  guar j w w' := j ≠ 1 → w'.2 = w.2

variable {w w' : World × NextRun}

theorem Inv.frame (inv : Inv w) (sameState : w'.1.state = w.1.state) (same : w'.2 = w.2) :
    Inv w' := by
  intro s recorded
  rw [sameState, same]
  rw [same] at recorded
  exact inv s recorded

theorem hostKeeps : protocol.HostKeeps := by
  intro event w w' inv _ happened
  obtain ⟨happened, same⟩ := Machine.withHistory_env happened
  exact Inv.frame inv (HostEvent.occur_frame happened).1 same

/-! ### The watcher -/

/-- Before the new process is there, nothing of the new run is recorded. -/
theorem Inv.unrecorded (inv : Inv w) (early : w.2.spawned = none) : w.2.recorded = none := by
  cases found : w.2.recorded with
  | none => rfl
  | some s =>
    have spawned := (inv s found).2.1
    rw [early] at spawned
    cases spawned

theorem watcher_call (op : Call) : protocol.Triple 0 (fun _ => True) op fun _ _ => True := by
  refine .logged (protocol.const_stable 0 True) fun w h ans res w' inv _ allowed ran => ?_
  refine ⟨?_, fun _ => rfl, trivial⟩
  cases saves : op.saves with
  | none => exact Inv.frame inv (Call.exec_frame saves ran).1 rfl
  | some s =>
    have early : h.spawned = none := allowed rfl (by rw [saves]; rfl)
    intro s recorded
    exact absurd ((Inv.unrecorded inv early).symm.trans recorded) nofun

/-- Whatever program 0 does, it does no harm under the guard. -/
theorem watcher_safe (p : VM Unit) (w : World × NextRun) : Keeps protocol 0 p w := by
  induction p generalizing w with
  | done result => exact Keeps.ended result
  | call op next ih => exact Safe.triple (watcher_call op) trivial fun res w _ => ih res w

/-! ### The restart -/

theorem history_stable (assertion : NextRun → Prop) : protocol.Stable 1 fun w => assertion w.2 := by
  intro w w' holds interferes
  obtain ⟨-, -, ⟨j, other, promised⟩ | ⟨event, -, happened⟩⟩ := interferes
  · rw [promised other]
    exact holds
  · rw [(Machine.withHistory_env happened).2]
    exact holds

def Still : Call → Prop
  | .spawn _ | .saveState _ => False
  | _ => True

/-- A call that neither spawns nor saves keeps what is known of the history. -/
theorem still_call (assertion : NextRun → Prop) (op : Call) (still : Still op)
    {after : op.Res → World × NextRun → Prop} (leads : ∀ res w, assertion w.2 → after res w) :
    protocol.Triple 1 (fun w => assertion w.2) op after := by
  refine .logged (history_stable assertion) fun w h ans res w' inv holds _ ran => ?_
  have ran : op.exec ans w = some (res, w') := ran
  have same : log 1 op res w h = h ∧ w'.state = w.state := by
    cases op with
    | spawn | saveState => exact still.elim
    | _ => exact ⟨rfl, (Call.exec_frame rfl ran).1⟩
  rw [same.1]
  exact ⟨Inv.frame inv same.2 rfl, fun other => absurd rfl other, leads res (w', h) holds⟩

theorem quiet_call {assertion : NextRun → Prop} (op : Call) (quiet : op.Quiet) :
    protocol.Triple 1 (fun w => assertion w.2) op fun _ w => assertion w.2 := by
  cases op with
  | saveState | spawn => exact quiet.elim
  | _ => exact still_call assertion _ (by trivial) fun _ _ => id

def Fresh (run : NextRun) : Prop := run.spawned = none ∧ run.recorded = none

theorem fresh_save :
    protocol.Triple 1 (fun w => Fresh w.2) (.saveState s) fun _ w => Fresh w.2 := by
  refine .logged (history_stable Fresh) fun w h ans res w' _ fresh _ ran => ?_
  have fresh : Fresh h := fresh
  have same : log 1 (.saveState s) res w h = h := by
    cases res with
    | error text => rfl
    | ok _ => simp [log, fresh.1]
  rw [same]
  exact ⟨fun s recorded => absurd (fresh.2.symm.trans recorded) nofun,
    fun other => absurd rfl other, fresh⟩

def stopping : Outline protocol 1 where
  holds _ w := Fresh w.2
  stable _ := history_stable Fresh
  quiet _ := quiet_call

theorem stopping_stops (reason : ShutdownReason) : stopping.Stops reason where
  load := still_call Fresh .loadState (by trivial) fun res w fresh => by
    cases res <;> exact fresh
  idle _ _ _ fresh := fresh
  checks _ _ _ := .of_imp fun _ => id
  kill s _ _ := still_call Fresh (.kill s.pid) (by trivial) fun _ _ => id
  save s _ _ := (fresh_save _).weaken fun res w fresh => by cases res <;> exact fresh

theorem end_safe (fresh : Fresh w.2) :
    Safe protocol 1 (fun _ w => Fresh w.2) (ending.prog name) w := by
  have either : ∀ (result : Except String Unit) w, stopping.post result w → Fresh w.2 := by
    intro result w ended
    cases result <;> exact ended
  cases ending with
  | crash => exact .done (history_stable Fresh) fresh
  | stop reason => exact ((stopping_stops reason).stop_safe name fresh).mono either
  | forceStop reason => exact ((stopping_stops reason).forceStop_safe name fresh).mono either

/-- The new run is recorded as `s`. -/
def Recorded (run : NextRun) : Prop :=
  run.recorded = some s ∧ run.spawned = some s.pid ∧ s.Unharmed

/-- What the stages of `Start` know of the history. -/
def stageHolds : Stage → NextRun → Prop
  | .launched _ _ pid | .exited _ _ pid => fun run => run.spawned = some pid ∧ run.recorded = none
  | .recorded s | .leaving s => Recorded s
  | .ended => fun run => ∃ s, Recorded s run
  | .failed => fun _ => True
  | _ => Fresh

def starting : Outline protocol 1 where
  holds stage w := stageHolds stage w.2
  stable stage := history_stable (stageHolds stage)
  quiet _ := quiet_call

theorem spawn_call (before : NextRun → Prop) (unrecorded : ∀ run, before run → run.recorded = none)
    (cfg cfg' : VMConfig) (s : VMState) :
    protocol.Triple 1 (fun w => before w.2) (.spawn cfg')
      (Outcome (fun result => starting.holds (.launched cfg s result.pid))
        (starting.holds .failed)) := by
  refine .logged (history_stable before) fun w h ans res w' _ holds _ ran => ?_
  have none : (log 1 (.spawn cfg') res w h).recorded = none := by
    cases res <;> exact unrecorded h holds
  refine ⟨fun s recorded => absurd (none.symm.trans recorded) nofun,
    fun other => absurd rfl other, ?_⟩
  cases res with
  | error text => trivial
  | ok result => exact ⟨rfl, none⟩

theorem record_call (before : NextRun → Prop) {s : VMState} (unharmed : s.Unharmed)
    (spawned : ∀ run, before run → run.spawned = some s.pid) :
    protocol.Triple 1 (fun w => before w.2) (.saveState s)
      (Either (fun w => Recorded s w.2) fun w => before w.2) := by
  refine .logged (history_stable before) fun w h ans res w' inv holds _ ran => ?_
  have there : h.spawned = some s.pid := spawned h holds
  rcases Call.saveState_exec ran with ⟨rfl, -, rfl⟩ | ⟨text, rfl, -, rfl⟩
  · have now : log 1 (.saveState s) (.ok ()) w h = { h with recorded := some s } := by
      simp [log, there]
    rw [now]
    refine ⟨fun s' found => ?_, fun other => absurd rfl other, rfl, there, unharmed⟩
    cases found
    exact ⟨rfl, there, unharmed⟩
  · exact ⟨inv, fun other => absurd rfl other, holds⟩

theorem starting_starts (cfg : VMConfig) : starting.Starts cfg where
  load := still_call Fresh .loadState (by trivial) fun res w fresh => by
    cases res with
    | ok s => exact fresh
    | error text => trivial
  fails _ _ _ _ := trivial
  checks _ _ := .of_imp fun _ => id
  cleans s _ result := fresh_save _
  idle _ _ _ fresh := fresh
  skip s _ _ _ := (fresh_save _).weaken fun res w fresh => by
    cases res with
    | ok _ => exact fresh
    | error text => trivial
  pend s _ _ _ := (fresh_save _).weaken fun res w fresh => by
    cases res with
    | ok _ => exact fresh
    | error text => trivial
  prepare _ _ _ _ fresh := fresh
  build cfg s cfg' recovery _ := by
    refine .logged (starting.stable (.prepared cfg s)) fun w h ans res w' inv fresh _ ran => ?_
    simp only [vmHost, Call.exec, Answer.orFail] at ran
    split at ran <;> cases ran
    · exact ⟨inv, fun other => absurd rfl other, trivial⟩
    · exact ⟨inv, fun other => absurd rfl other, rfl, fresh⟩
  rebuild cfg s pid cfg' recovery _ :=
    still_call (stageHolds (.exited cfg s pid)) _ (by trivial) fun res w held => by
      cases res with
      | ok _ => exact held
      | error text => trivial
  spawn cfg s cfg' := spawn_call Fresh (fun _ fresh => fresh.2) cfg cfg' s
  respawn cfg s pid cfg' :=
    spawn_call (stageHolds (.exited cfg s pid)) (fun _ held => held.2) cfg cfg' s
  finds _ _ _ := .of_imp fun _ => id
  exited _ _ _ _ held := held
  record host cfg cfg' s result startedAt helpers := by
    have unharmed : (runningState host cfg' s result startedAt helpers).Unharmed := ⟨rfl, rfl⟩
    refine (record_call (stageHolds (.launched cfg s result.pid)) unharmed
      fun _ held => held.1).weaken fun res w held => ?_
    cases res with
    | ok _ => exact held
    | error text => trivial

theorem starting_blocks : starting.Blocks where
  fails _ _ := trivial
  select s := still_call (Recorded s) _ (by trivial) fun res w held => by
    cases res <;> exact held
  finds _ := .of_imp fun _ => id
  never s := .logged (starting.stable (.recorded s)) fun _ _ _ _ _ _ _ _ ran => by cases ran
  writeBack s := by
    refine ⟨starting.stable (.leaving s), ?_⟩
    intro w ans res w' inv held allowed ran
    have spawned : ∀ run, Recorded s run → run.spawned = some s.pid := fun _ held => held.2.1
    have unharmed : ({ s with running := false } : VMState).Unharmed := held.2.2
    obtain ⟨kept, promised, after⟩ :=
      (record_call (Recorded s) unharmed spawned).keeps w ans res w' inv held allowed ran
    refine ⟨kept, promised, ?_⟩
    cases res with
    | ok _ => exact ⟨_, after⟩
    | error text => exact ⟨s, after⟩

theorem start_safe (fresh : Fresh w.2) :
    starting.Runs (start host name foreground recovery rounds) w := by
  have holds : starting.holds .entry w := fresh
  refine Outline.tryQuietly loadConfig_quiet holds (fun _ _ => trivial) fun cfg w _ entry => ?_
  cases foreground with
  | true => exact starting_blocks.foreground_safe (starting_starts cfg) entry
  | false => exact (starting_starts cfg).detached_safe (fun s _ held => ⟨s, held⟩) entry

theorem restart_safe (fresh : Fresh w.2) :
    starting.Runs (restart host name ending foreground recovery rounds) w := by
  refine (end_safe name ending fresh).attempt_bind fun _ w fresh => ?_
  exact start_safe host name foreground recovery rounds fresh

theorem initially (watcher : Watcher) (ending : RunEnd)
    (foreground recovery : Bool) (rounds rounds' : Nat) (w : World) :
    SafePool protocol (fun i result => if i = 1 then starting.post result else fun _ => True)
      (watcherAgainstRestart host name watcher rounds
        (restart host name ending foreground recovery rounds') w) := by
  refine ⟨nofun, ?_⟩
  intro i p found
  match i with
  | 0 =>
    cases found
    exact watcher_safe _ _
  | 1 =>
    cases found
    exact restart_safe host name ending foreground recovery rounds' ⟨rfl, rfl⟩
  | _ + 2 => cases found

end NextRun

/-- If the watcher of the old run saves nothing once the new process is there, the record of the
new run stays as it was saved last, and a restart that succeeds leaves a run that is meant to
go on and has not been shut down. -/
theorem shutdown_charged_to_its_run (host : Platform) (name : String) (watcher : Watcher)
    (ending : RunEnd) (foreground recovery : Bool) (rounds rounds' : Nat) (w : World)
    {c : Pool (World × NextRun)}
    (reached : Reach restartHost watcherSavesEarly (watcherAgainstRestart host name watcher rounds
      (restart host name ending foreground recovery rounds') w) c) :
    (∀ s, c.world.2.recorded = some s → c.world.1.state = s ∧ s.Unharmed) ∧
      (c.pool[1]? = some (.done (.ok ())) → ∃ pid, c.world.2.spawned = some pid ∧
        c.world.1.state.pid = pid ∧ c.world.1.state.Unharmed) := by
  have pool := Reach.safe (NextRun.initially host name watcher ending foreground recovery rounds
    rounds' w) NextRun.hostKeeps reached
  refine ⟨fun s recorded => ?_, fun ended => ?_⟩
  · obtain ⟨stored, -, unharmed⟩ := pool.inv s recorded
    exact ⟨stored, unharmed⟩
  · obtain ⟨s, recorded, spawned, unharmed⟩ := pool.of_ended ended
    obtain ⟨stored, -, -⟩ := pool.inv s recorded
    rw [stored]
    exact ⟨s.pid, spawned, rfl, unharmed⟩

/-- The guest powers itself off, and the watcher has taken the event from its channel. -/
def takesEvent : List (Label Answer HostEvent) :=
  [.run 0 {}, .env (.qmp (.shutdown true "guest-shutdown")), .run 0 {}]

def startsAgain : List (Label Answer HostEvent) :=
  .env (.exit 1) :: List.replicate 9 (.run 1 {})

/-- The watcher has recorded the shutdown before the VM is started again. -/
theorem shutdown_recorded_in_time :
    ∃ c, Reach restartHost watcherSavesEarly (watcherAgainstRestart linuxHost "vm" (.qmp "qmp.sock")
        1 (restart linuxHost "vm" .crash false false 0) daemonVM) c ∧ c.Finished ∧
      c.world.2.spawned = some 2 ∧ c.world.1.state.pid = 2 ∧ c.world.1.state.Unharmed := by
  refine Reach.exists_of_runs (takesEvent ++ List.replicate 2 (.run 0 {}) ++ startsAgain)
    (fun c => c.Finished ∧ c.world.2.spawned = some 2 ∧ ∃ s ∈ c.world.2.recorded, s.pid = 2)
    (by decide) ?_
  rintro c reached ⟨finished, spawned, s, recorded, pid⟩
  obtain ⟨stored, unharmed⟩ := (shutdown_charged_to_its_run linuxHost "vm" (.qmp "qmp.sock") .crash
    false false 1 0 daemonVM reached).1 s recorded
  refine ⟨finished, spawned, ?_⟩
  rw [stored]
  exact ⟨pid, unharmed⟩

/-- The watcher is slow: it comes to the record when the VM runs again, and says that the new run
has been shut down by its guest. -/
theorem shutdown_charged_to_next_run :
    ∃ c, Reach restartHost (.none _) (watcherAgainstRestart linuxHost "vm" (.qmp "qmp.sock") 1
        (restart linuxHost "vm" .crash false false 0) daemonVM) c ∧ c.Finished ∧
      c.world.1.alive = [2] ∧ c.world.1.state.running = true ∧ c.world.1.state.pid = 2 ∧
      c.world.1.state.desiredState = .stopped ∧ c.world.1.state.lastShutdownReason = .guest := by
  exact Reach.of_runs _ _ _ (takesEvent ++ startsAgain ++ List.replicate 2 (.run 0 {})) _
    (by decide)

end Vee
