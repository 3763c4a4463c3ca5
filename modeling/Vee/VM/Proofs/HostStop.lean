import Vee.VM.Outline
import Vee.VM.Session

/-!
# A host shutdown against the SHUTDOWN handler

When the host goes down, the daemon stops its VMs with the reason `host`, which keeps the wish
that they run. The guest's own SHUTDOWN event reaches `handleShutdownEvent` at the same time. If
the handler saves after the stop has saved, the VM is left as one that the user wants stopped (or,
after a guest reset, as one that runs).
-/

namespace Vee

def hostStopAgainstHandler (host : Platform) (name : String) (guest : Bool) (reason : String)
    (w : World) : Pool (World × Bool) :=
  ⟨[stopWithReason name .host, handleShutdownEvent host name guest reason], (w, false)⟩

/-- Whether the stop, program 0, is through with the store: it has saved, or it has
found nothing to stop. -/
def stopReturned (i : Nat) (op : Call) (answer : op.Res) (_ : World) (returned : Bool) : Bool :=
  if i = 0 then
    match op, answer with
    | .loadState, .ok s => returned || !s.running || s.pid = 0
    | .loadState, .error _ => true
    | .saveState _, _ => true
    | _, _ => returned
  else returned

def stopHost : Machine Call Call.Res (World × Bool) :=
  vmHost.withHistory stopReturned fun _ _ returned => returned

/-- The store does not fail the stop, and the handler saves only while the stop is
not through with the store. -/
def handlerSavesFirst : Guard stopHost where
  run i op ans w := (i = 0 → op.loads ∨ op.saves.isSome → ans.error = none) ∧
    (i ≠ 0 → op.saves.isSome → w.2 = false)

instance : handlerSavesFirst.Decides where
  run _ _ _ _ := inferInstanceAs (Decidable (_ ∧ _))
  env _ _ := isTrue trivial

variable (s : VMState) (stage : Stage)

/-- Stopped, and to be brought back by the next daemon. -/
def VMState.ToBeBack : Prop := s.running = false ∧ s.desiredState = .running

namespace HostStop

/-- The record is that of a running VM, or of one that is to be back; and it is the
latter when the stop is through. -/
structure Inv (w : World × Bool) : Prop where
  process : w.1.state.running → w.1.state.pid ≠ 0
  stored : w.1.state.running ∨ w.1.state.ToBeBack
  returned : w.2 = true → w.1.state.ToBeBack
  pids : 0 < w.1.nextPid

/-- The stop changes the record only to one that is to be back, and is then through.
The handler leaves the record alone when the stop is through. -/
def protocol : Protocol stopHost where
  guard := handlerSavesFirst
  inv := Inv
  guar j w w' :=
    match j with
    | 0 => (w.2 = true → w'.2 = true) ∧
      (w'.1.state = w.1.state ∨ (w'.2 = true ∧ w'.1.state.ToBeBack))
    | 1 => w'.2 = w.2 ∧ (w.2 = true → w'.1.state = w.1.state)
    | _ => w' = w

variable {w w' : World × Bool} {op : Call}

theorem env {event : HostEvent} (happened : stopHost.env event w = some w') :
    w'.1.state = w.1.state ∧ w'.1.nextPid = w.1.nextPid ∧ w'.2 = w.2 := by
  obtain ⟨happened, same⟩ := Machine.withHistory_env happened
  obtain ⟨sameState, -, samePid, -⟩ := HostEvent.occur_frame happened
  exact ⟨sameState, samePid, same⟩

theorem stopReturned_quiet (quiet : op.Quiet) (i : Nat) (res : op.Res) (w : World)
    (returned : Bool) : stopReturned i op res w returned = returned := by
  unfold stopReturned
  split
  · cases op with
    | saveState | loadState => exact quiet.elim
    | _ => rfl
  · rfl

theorem Inv.frame (inv : Inv w) (sameState : w'.1.state = w.1.state)
    (pids : w.1.nextPid ≤ w'.1.nextPid) (same : w'.2 = w.2) : Inv w' := by
  constructor
  · rw [sameState]; exact inv.process
  · rw [sameState]; exact inv.stored
  · rw [sameState, same]; exact inv.returned
  · exact Nat.lt_of_lt_of_le inv.pids pids

theorem hostKeeps : protocol.HostKeeps := by
  intro event w w' inv _ happened
  obtain ⟨sameState, samePid, same⟩ := env happened
  exact inv.frame sameState (Nat.le_of_eq samePid.symm) same

def stopHolds : Stage → World × Bool → Prop
  | .loaded s => fun w => s.running = false ∨ s.pid = 0 → w.2 = true
  | .entry | .dead _ => fun _ => True
  | .ended | .failed => fun w => w.2 = true
  | _ => fun _ => False

theorem stopHolds_frame {stage : Stage} (holds : stopHolds stage w)
    (kept : w.2 = true → w'.2 = true) : stopHolds stage w' := by
  cases stage with
  | loaded s => exact fun none => kept (holds none)
  | ended | failed => exact kept holds
  | _ => exact holds

theorem stopHolds_stable : protocol.Stable 0 (stopHolds stage) := by
  intro w w' holds interferes
  obtain ⟨-, -, ⟨j, other, promised⟩ | ⟨event, -, happened⟩⟩ := interferes
  · match j with
    | 0 => exact absurd rfl other
    | 1 => exact stopHolds_frame holds promised.1.trans
    | _ + 2 =>
      rw [promised]
      exact holds
  · exact stopHolds_frame holds fun returned => (env happened).2.2.trans returned

def stopping : Outline protocol 0 where
  holds := stopHolds
  stable := stopHolds_stable
  quiet stage op quietOp := by
    refine .logged (stopHolds_stable stage) fun w h ans answer w' inv holds _ ran => ?_
    rw [stopReturned_quiet quietOp]
    obtain ⟨cfg, rfl⟩ := quietOp.exec ran
    exact ⟨inv.frame rfl (Nat.le_refl _) rfl, ⟨id, .inl rfl⟩, stopHolds_frame holds id⟩

theorem stopping_load : stopping.Loads := by
  refine .logged (stopHolds_stable .entry) fun w h ans res w' inv _ allowed ran => ?_
  have succeeds : ans.error = none := allowed.1 rfl (.inl rfl)
  simp only [vmHost, Call.exec, Answer.orFail, succeeds] at ran
  cases ran
  have logged : stopReturned 0 .loadState (.ok w.state) w h =
    (h || !w.state.running || decide (w.state.pid = 0)) := rfl
  rw [logged]
  refine ⟨⟨inv.process, inv.stored, fun returned => ?_, inv.pids⟩, ⟨?_, .inl rfl⟩, ?_⟩
  · by_cases running : w.state.running
    · have process : w.state.pid ≠ 0 := inv.process running
      exact inv.returned (by simpa [running, process] using returned)
    · exact inv.stored.resolve_left running
  · intro already
    have already : h = true := already
    simp [already]
  · intro none
    rcases none with idle | noProcess
    · simp [idle]
    · simp [noProcess]

theorem stopping_stops : stopping.Stops .host where
  load := stopping_load
  idle _ _ none loaded := loaded none
  checks _ _ _ := .of_imp fun _ _ => trivial
  kill s _ _ := by
    refine .logged (stopHolds_stable (.loaded s)) fun w h ans res w' inv _ _ ran => ?_
    cases ran
    exact ⟨inv.frame rfl (Nat.le_refl _) rfl, ⟨id, .inl rfl⟩, trivial⟩
  save s _ _ := by
    refine .logged (stopHolds_stable (.dead s)) fun w h ans res w' inv _ allowed ran => ?_
    have succeeds : ans.error = none := allowed.1 rfl (.inr rfl)
    simp only [vmHost, Call.exec, succeeds] at ran
    cases ran
    have back : (s.stopped .host).ToBeBack := ⟨rfl, rfl⟩
    exact ⟨⟨fun running => absurd running Bool.false_ne_true, .inr back, fun _ => back, inv.pids⟩,
      ⟨fun _ => rfl, .inr ⟨rfl, back⟩⟩, rfl⟩

/-- An assertion of the handler that the stop cannot falsify. -/
def Kept (assertion : World × Bool → Prop) : Prop :=
  ∀ w w', assertion w → (w.2 = true → w'.2 = true) →
    (w'.1.state = w.1.state ∨ (w'.2 = true ∧ w'.1.state.ToBeBack)) → assertion w'

variable {assertion : World × Bool → Prop}

theorem Kept.stable (kept : Kept assertion) : protocol.Stable 1 assertion := by
  intro w w' holds interferes
  obtain ⟨-, inv', ⟨j, other, promised⟩ | ⟨event, -, happened⟩⟩ := interferes
  · match j with
    | 0 => exact kept w w' holds promised.1 promised.2
    | 1 => exact absurd rfl other
    | _ + 2 =>
      rw [promised]
      exact holds
  · obtain ⟨sameState, -, same⟩ := env happened
    exact kept w w' holds (same.trans) (.inl sameState)

theorem Kept.triple (kept : Kept assertion) (noSave : op.saves = none)
    {after : op.Res → World × Bool → Prop}
    (post : ∀ ans res w w' h, Inv (w, h) → assertion (w', h) →
      op.exec ans w = some (res, w') → after res (w', h)) :
    protocol.Triple 1 assertion op after := by
  refine .logged kept.stable fun w h ans res w' inv holds _ ran => ?_
  obtain ⟨sameState, pids⟩ := Call.exec_frame noSave ran
  have now : assertion (w', h) := kept _ _ holds id (.inl sameState)
  exact ⟨inv.frame sameState pids rfl, ⟨rfl, fun _ => sameState⟩, post ans res w w' h inv now ran⟩

/-- A save of the handler, which comes before the stop is through. -/
theorem Kept.save (kept : Kept assertion) {s : VMState}
    {after : Except String Unit → World × Bool → Prop} (fits : ∀ w : World, assertion (w, false) →
      (s.running → s.pid ≠ 0) ∧ (s.running ∨ s.ToBeBack))
    (failed : ∀ text w, assertion w → after (.error text) w)
    (saved : ∀ w w' : World × Bool, assertion w → w'.1.state = s → after (.ok ()) w') :
    protocol.Triple 1 assertion (.saveState s) after := by
  refine .logged kept.stable fun w h ans res w' inv holds allowed ran => ?_
  have early : h = false := allowed.2 Nat.one_ne_zero rfl
  cases early
  simp only [vmHost, Call.exec] at ran
  split at ran <;> cases ran
  · exact ⟨inv, ⟨rfl, fun _ => rfl⟩, failed _ _ holds⟩
  · obtain ⟨process, stored⟩ := fits w holds
    exact ⟨⟨process, stored, fun returned => absurd returned Bool.false_ne_true, inv.pids⟩,
      ⟨rfl, fun returned => absurd returned Bool.false_ne_true⟩, saved _ _ holds rfl⟩

/-- Nothing but the stop takes the record out of `Running`. -/
def Undisturbed (w : World × Bool) : Prop := w.1.state.running ∨ w.2 = true

theorem undisturbed_kept : Kept Undisturbed := by
  intro w w' holds returns moved
  rcases moved with sameState | ⟨returned, -⟩
  · rcases holds with running | returned
    · exact .inl (sameState ▸ running)
    · exact .inr (returns returned)
  · exact .inr returned

/-- What `recordGuestShutdown` has read when it saves. -/
def Read (w : World × Bool) : Prop := (s.running ∧ s.pid ≠ 0) ∨ w.2 = true

theorem read_kept : Kept (Read s) := by
  intro w w' holds returns _
  exact holds.imp_right returns

theorem true_kept : Kept fun _ => True := fun _ _ _ _ _ => trivial

theorem recordGuestShutdown_safe (holds : Undisturbed w) :
    Keeps protocol 1 recordGuestShutdown w := by
  have load : protocol.Triple 1 Undisturbed .loadState (Returns Read) := by
    refine undisturbed_kept.triple rfl fun ans res w w' h inv now ran => ?_
    obtain ⟨rfl, ⟨rfl, -⟩ | ⟨text, rfl, -⟩⟩ := Call.loadState_exec ran
    · exact now.imp_left fun running => ⟨running, inv.process running⟩
    · trivial
  refine Outline.recordGuestShutdown_safe load (fun s => ?_) (fun _ => Keeps.ended _) holds
  refine (read_kept s).save (fun w read => ?_) (fun _ _ _ => trivial) fun _ _ _ _ => trivial
  have both := read.resolve_right (by simp)
  exact ⟨fun _ => both.2, .inl both.1⟩

theorem Kept.outline_quiet (kept : Kept assertion) (op : Call) (quiet : op.Quiet) :
    protocol.Triple 1 assertion op fun _ => assertion := by
  have noSave : op.saves = none := by
    cases op with
    | saveState => exact quiet.elim
    | _ => rfl
  exact kept.triple noSave fun _ _ _ _ _ _ now _ => now

def cycleStopHolds : Stage → World × Bool → Prop
  | .ended => fun w => w.1.state.ToBeBack
  | _ => fun _ => True

theorem toBeBack_kept : Kept fun w => w.1.state.ToBeBack := by
  intro w w' back _ moved
  rcases moved with sameState | ⟨-, back'⟩
  · rw [sameState]
    exact back
  · exact back'

theorem cycleStopHolds_kept : Kept (cycleStopHolds stage) := by
  cases stage with
  | ended => exact toBeBack_kept
  | _ => exact true_kept

def cycleStopping : Outline protocol 1 where
  holds := cycleStopHolds
  stable stage := (cycleStopHolds_kept stage).stable
  quiet stage := (cycleStopHolds_kept stage).outline_quiet

theorem cycleStopping_stops : cycleStopping.Stops .reboot where
  load := true_kept.triple rfl fun _ res _ _ _ _ _ _ => by cases res <;> trivial
  idle _ _ _ _ := trivial
  checks _ _ _ := .of_imp fun _ => id
  kill s _ _ := true_kept.triple rfl fun _ _ _ _ _ _ _ _ => trivial
  save s _ _ := by
    have back : (s.stopped .reboot).ToBeBack := ⟨rfl, rfl⟩
    refine true_kept.save (fun _ _ => ⟨fun running => absurd running Bool.false_ne_true, .inr back⟩)
      (fun _ _ _ => trivial) fun _ w _ saved => ?_
    change w.1.state.ToBeBack
    rw [saved]
    exact back

/-- The `Start` of the power-cycle. It reads a record that is to be back, whoever
wrote it, so it never takes the stale path. -/
def cycleStartHolds : Stage → World × Bool → Prop
  | .entry => fun w => w.1.state.ToBeBack
  | .loaded s | .chosen s => fun _ => s.ToBeBack
  | .launched _ _ pid | .exited _ _ pid => fun _ => pid ≠ 0
  | .dead _ => fun _ => False
  | _ => fun _ => True

theorem cycleStartHolds_kept : Kept (cycleStartHolds stage) := by
  cases stage with
  | entry => exact toBeBack_kept
  | _ => exact fun _ _ holds _ _ => holds

def cycleStarting : Outline protocol 1 where
  holds := cycleStartHolds
  stable stage := (cycleStartHolds_kept stage).stable
  quiet stage := (cycleStartHolds_kept stage).outline_quiet

theorem cycleStarting_saves (s saved : VMState) (running : saved.running = s.running)
    (desired : saved.desiredState = s.desiredState) :
    cycleStarting.Saves (.chosen s) saved (.chosen saved) := by
  have back : s.ToBeBack → saved.ToBeBack :=
    fun back => ⟨running.trans back.1, desired.trans back.2⟩
  refine (cycleStartHolds_kept (.chosen s)).save (fun w chosen => ⟨fun on => ?_, ?_⟩)
    (fun _ _ _ => trivial) fun _ _ chosen _ => back chosen
  · rw [(back chosen).1] at on
    cases on
  · exact .inr (back chosen)

theorem cycleStarting_spawn (cfg cfg' : VMConfig) (s : VMState) :
    cycleStarting.Spawns stage cfg s cfg' := by
  refine (cycleStartHolds_kept stage).triple rfl ?_
  intro ans res w w' h inv _ ran
  simp only [Call.exec] at ran
  split at ran <;> cases ran
  · trivial
  · have positive : 0 < w.nextPid := inv.pids
    change w.nextPid + ans.num ≠ 0
    omega

theorem cycleStarting_starts (cfg : VMConfig) : cycleStarting.Starts cfg where
  load := by
    refine (cycleStartHolds_kept .entry).triple rfl ?_
    intro ans res w w' h inv back ran
    simp only [Call.exec, Answer.orFail] at ran
    split at ran <;> cases ran
    · trivial
    · exact back
  fails _ _ _ _ := trivial
  checks s running := .of_imp fun w back => by
    rw [back.1] at running
    cases running
  cleans s _ _ := ⟨cycleStarting.stable (.dead s), fun _ _ _ _ _ gone => gone.elim⟩
  idle _ _ _ back := back
  skip s _ _ _ := cycleStarting_saves s _ rfl rfl
  pend s _ _ _ := cycleStarting_saves s _ rfl rfl
  prepare _ _ _ _ _ := trivial
  build cfg s cfg' recovery _ := by
    refine (cycleStartHolds_kept (.prepared cfg s)).triple rfl ?_
    intro ans res w w' h _ _ ran
    simp only [Call.exec, Answer.orFail] at ran
    split at ran <;> cases ran
    · trivial
    · exact ⟨rfl, trivial⟩
  rebuild cfg s pid _ _ _ := (cycleStartHolds_kept (.exited cfg s pid)).triple rfl
    fun _ res _ _ _ _ process _ => by
      cases res with
      | ok _ => exact process
      | error _ => trivial
  spawn cfg s cfg' := cycleStarting_spawn (.prepared cfg s) cfg cfg' s
  respawn cfg s pid cfg' := cycleStarting_spawn (.exited cfg s pid) cfg cfg' s
  finds _ _ _ := .of_imp fun _ => id
  exited _ _ _ _ exited := exited
  record _ cfg _ s result _ _ := (cycleStartHolds_kept (.launched cfg s result.pid)).save
    (fun _ process => ⟨fun _ => process, .inl rfl⟩) (fun _ _ _ => trivial) fun _ _ _ _ => trivial

variable (host : Platform)

theorem start_safe (name : String) (back : w.1.state.ToBeBack) :
    cycleStarting.Runs (start host name false false 0) w := by
  have holds : cycleStarting.holds .entry w := back
  refine Outline.tryQuietly loadConfig_quiet holds (fun _ _ => trivial) fun cfg w _ entry => ?_
  exact (cycleStarting_starts cfg).detached_safe (fun _ _ _ => trivial) entry

theorem powerCycle_safe (name : String) (w : World × Bool) :
    Keeps protocol 1 (powerCycleAfterGuestReset host name) w := by
  have stopped := cycleStopping_stops.forceStop_safe (w := w) name trivial
  refine stopped.attempt_bind fun result w ended => ?_
  cases result with
  | error text => exact Keeps.ended _
  | ok value =>
    exact (start_safe host name ended).attempt_bind fun _ w _ => Keeps.ended _

theorem handler_safe (name : String) (guest : Bool) (reason : String)
    (holds : Undisturbed w) : Keeps protocol 1 (handleShutdownEvent host name guest reason) w := by
  have res : ∀ (cycles : Bool) w, Undisturbed w → Keeps protocol 1
      (if cycles then powerCycleAfterGuestReset host name else recordGuestShutdown) w := by
    intro cycles w holds
    cases cycles with
    | true => exact powerCycle_safe host name w
    | false => exact recordGuestShutdown_safe holds
  unfold handleShutdownEvent
  split
  · exact Keeps.ended _
  unfold resetAnswered
  split
  · have load : protocol.Triple 1 Undisturbed .loadState fun _ => Undisturbed :=
      undisturbed_kept.triple rfl fun _ _ _ _ _ _ now _ => now
    refine Safe.triple load holds fun loaded w holds => ?_
    cases loaded with
    | error text => exact res false w holds
    | ok s => exact res _ w holds
  · exact res false w holds

theorem initially (name : String) (guest : Bool) (reason : String) {w : World}
    (runs : w.state.running) (process : w.state.pid ≠ 0) (pids : 0 < w.nextPid) :
    SafePool protocol (fun i result => if i = 0 then stopping.post result else fun _ => True)
      (hostStopAgainstHandler host name guest reason w) := by
  refine ⟨⟨fun _ => process, .inl runs, fun returned => absurd returned Bool.false_ne_true, pids⟩,
    ?_⟩
  intro i p found
  match i with
  | 0 =>
    cases found
    exact stopping_stops.stop_safe name trivial
  | 1 =>
    cases found
    exact handler_safe host name guest reason (.inl runs)
  | _ + 2 => cases found

end HostStop

/-- If every save of the handler comes before the stop is through with the store,
the VM is left stopped and to be brought back. -/
theorem host_stop_keeps_autostart (host : Platform) (name : String) (guest : Bool)
    (reason : String) (w : World) (runs : w.state.running) (process : w.state.pid ≠ 0)
    (pids : 0 < w.nextPid) {c : Pool (World × Bool)}
    (reached : Reach stopHost handlerSavesFirst (hostStopAgainstHandler host name guest reason w) c)
    (finished : c.Finished) :
    c.world.1.state.running = false ∧ c.world.1.state.desiredState = .running := by
  have pool := Reach.safe (HostStop.initially host name guest reason runs process pids)
    HostStop.hostKeeps reached
  have size : 0 < c.pool.length := by
    rw [reached.pool_length]
    exact Nat.zero_lt_two
  obtain ⟨result, ended⟩ := pool.posts finished 0 size
  have returned : c.world.2 = true := by
    cases result with
    | ok value => exact ended
    | error text => exact ended
  exact pool.inv.returned returned

/-- The handler records the guest's shutdown while the stop waits for the process. -/
theorem host_stop_after_handler : ∃ c, Reach stopHost handlerSavesFirst
        (hostStopAgainstHandler linuxHost "vm" true "guest-shutdown" daemonVM) c ∧
      c.Finished ∧ c.world.1.state.running = false ∧ c.world.1.state.desiredState = .running := by
  refine Reach.exists_of_runs
    (List.replicate 2 (.run 0 {}) ++ List.replicate 2 (.run 1 {}) ++ [.env (.exit 1)] ++
      [.run 0 { flag := true }] ++ List.replicate 4 (.run 0 {})) Config.Finished (by decide) ?_
  intro c reached finished
  exact ⟨finished, host_stop_keeps_autostart linuxHost "vm" true "guest-shutdown"
    daemonVM rfl (by decide) (by decide) reached finished⟩

/-- The handler reads the record while the stop waits, and saves it after the stop
has saved: the VM is left with the wish that it stays stopped. -/
theorem host_stop_overwritten_by_handler : ∃ c, Reach stopHost (.none _)
        (hostStopAgainstHandler linuxHost "vm" true "guest-shutdown" daemonVM) c ∧
      c.Finished ∧ c.world.1.state.desiredState = .stopped :=
  Reach.of_runs _ _ _ (List.replicate 2 (.run 0 {}) ++ [.run 1 {}, .env (.exit 1)] ++
    [.run 0 { flag := true }] ++ List.replicate 4 (.run 0 {}) ++ [.run 1 {}]) _ (by decide)

end Vee
