import Vee.VM.Outline
import Vee.VM.Session

/-!
# A foreground `Start` against stops and watchers

A foreground `Start` keeps its own copy of the record for as long as the VM runs and writes it
back in the end with `Running=false` (`waitForeground`). What a stop or a watcher has saved in the
meantime is gone then, an install that was pending stays pending, and a cancelled `Start` says
that nothing runs while its process lives on.
-/

namespace Vee

/-- What has been saved: the record of the run, that of the user's stop, and that of
the guest's poweroff. -/
structure ForegroundHistory where
  opened : Bool := false
  stopped : Bool := false
  recorded : Bool := false

/-- What a call adds to the history: a successful save, by whose it is. -/
def ForegroundHistory.log (i : Nat) (op : Call) (answer : op.Res) (_ : World)
    (h : ForegroundHistory) : ForegroundHistory :=
  match op, answer with
  | .saveState _, .ok _ =>
    match i with
    | 0 => { h with opened := true }
    | 1 => { h with stopped := true }
    | _ => { h with recorded := true }
  | _, _ => h

def foregroundHost : Machine Call Call.Res (World × ForegroundHistory) :=
  vmHost.withHistory ForegroundHistory.log fun _ _ h => h

/-- A foreground `Start` from its first save on, a stop by another process, and the
watcher that records a guest poweroff. -/
def foregroundRun (fgState : VMState) (rounds : Nat) (name : String) (force : Bool) (w : World) :
    Pool (World × ForegroundHistory) :=
  ⟨[runForeground fgState rounds, userStop name force, recordGuestShutdown], (w, {})⟩

/-- The others begin when the run is recorded. The copy is written back only over the
record that it is a copy of, and the `Start` is cancelled only when its process is
gone. -/
def copyIsCurrent (fgState : VMState) : Guard foregroundHost where
  run i op ans w :=
    (i = 0 → op.saves.isSome → if w.2.opened then w.1.state = fgState else ans.error = none) ∧
    (i = 0 → op.selects → ans.flag → fgState.pid ∉ w.1.alive) ∧
    (i ≠ 0 → op.loads → w.2.opened = true)

instance (fgState : VMState) : (copyIsCurrent fgState).Decides where
  run _ _ _ _ := inferInstanceAs (Decidable (_ ∧ _ ∧ _))
  env _ _ := isTrue trivial

/-- What the record says about a run of process `pid` is true. -/
structure Truthful (pid : Nat) (w : World) (h : ForegroundHistory) : Prop where
  running : w.state.running = false → pid ∉ w.alive
  intent : h.stopped = true ∨ h.recorded = true → w.state.desiredState = .stopped ∧
    ((w.state.lastShutdownReason = .user ∧ h.stopped = true) ∨
      (w.state.lastShutdownReason = .guest ∧ h.recorded = true))
  installed : pid ∉ w.alive → w.state.installState ≠ .pending

namespace Foreground

abbrev Observed := World × ForegroundHistory

structure Covered (pid : Nat) (s : VMState) (w : Observed) : Prop where
  dead : s.running = false → pid ∉ w.1.alive
  process : s.running → s.pid = pid
  installed : s.installState ≠ .pending
  reason : s.lastShutdownReason = .unset ∨ (s.lastShutdownReason = .user ∧ w.2.stopped = true) ∨
    (s.lastShutdownReason = .guest ∧ w.2.recorded = true)

/-- Once the run is recorded, the store holds a covered record with the intent of
those who have saved theirs. -/
structure Inv (fgState : VMState) (w : Observed) : Prop where
  unopened : w.2.opened = false → w.2.stopped = false ∧ w.2.recorded = false
  covered : w.2.opened = true → Covered fgState.pid w.1.state w
  intent : w.2.opened = true → w.2.stopped = true ∨ w.2.recorded = true →
    w.1.state.desiredState = .stopped ∧ w.1.state.lastShutdownReason ≠ .unset

/-- Nothing is started, and what has been saved has been saved. -/
structure Later (w w' : Observed) : Prop where
  alive : ∀ p ∈ w'.1.alive, p ∈ w.1.alive
  opened : w.2.opened = true → w'.2.opened = true
  stopped : w.2.stopped = true → w'.2.stopped = true
  recorded : w.2.recorded = true → w'.2.recorded = true

def protocol (fgState : VMState) : Protocol foregroundHost where
  guard := copyIsCurrent fgState
  inv := Inv fgState
  guar j w w' := Later w w' ∧ (j ≠ 0 → w'.2.opened = w.2.opened)

variable {fgState : VMState} {i : Nat} {w w' : Observed}

variable {s : VMState} {pid : Nat} {h : ForegroundHistory} {stage : Stage}

theorem Covered.later (covered : Covered pid s w) (later : Later w w') : Covered pid s w' := by
  refine ⟨fun idle mem => covered.dead idle (later.alive pid mem), covered.process,
    covered.installed, ?_⟩
  rcases covered.reason with unset | ⟨user, stopped⟩ | ⟨guest, recorded⟩
  · exact .inl unset
  · exact .inr (.inl ⟨user, later.stopped stopped⟩)
  · exact .inr (.inr ⟨guest, later.recorded recorded⟩)

theorem later_of_interferes (interferes : (protocol fgState).Interferes i w w') : Later w w' := by
  obtain ⟨-, -, ⟨j, -, promised⟩ | ⟨event, -, happened⟩⟩ := interferes
  · exact promised.1
  · obtain ⟨occurred, same⟩ := Machine.withHistory_env happened
    obtain ⟨-, -, -, shrinks⟩ := HostEvent.occur_frame occurred
    rw [show w' = (w'.1, w.2) from Prod.ext rfl same]
    exact ⟨shrinks, id, id, id⟩

/-- A step that leaves the record and the history alone. -/
theorem Inv.keep {w w' : World} (inv : Inv fgState (w, h)) (sameState : w'.state = w.state)
    (shrinks : ∀ p ∈ w'.alive, p ∈ w.alive) :
    Inv fgState (w', h) ∧ (protocol fgState).guar i (w, h) (w', h) := by
  have later : Later (w, h) (w', h) := ⟨shrinks, id, id, id⟩
  refine ⟨⟨inv.unopened, fun opened => ?_, ?_⟩, later, fun _ => rfl⟩
  · show Covered fgState.pid w'.state _
    rw [sameState]
    exact (inv.covered opened).later later
  · show _ → _ → w'.state.desiredState = _ ∧ w'.state.lastShutdownReason ≠ _
    rw [sameState]
    exact inv.intent

theorem guar_refl (w : Observed) : (protocol fgState).guar i w w :=
  ⟨⟨fun _ => id, id, id, id⟩, fun _ => rfl⟩

theorem Inv.save (opened : w'.2.opened = true) (stored : w'.1.state = s)
    (covered : Covered fgState.pid s w') (intent : w'.2.stopped = true ∨ w'.2.recorded = true →
      s.desiredState = .stopped ∧ s.lastShutdownReason ≠ .unset) : Inv fgState w' := by
  refine ⟨fun unopened => ?_, fun _ => ?_, fun _ => ?_⟩
  · rw [opened] at unopened
    cases unopened
  · rw [stored]
    exact covered
  · rw [stored]
    exact intent

theorem quiet_step {op : Call} (quiet : op.Quiet) {ans : Answer} {res : op.Res} {w w' : World}
    (inv : Inv fgState (w, h)) (ran : op.exec ans w = some (res, w')) :
    ForegroundHistory.log i op res w h = h ∧ Inv fgState (w', h) ∧
      (protocol fgState).guar i (w, h) (w', h) := by
  have unlogged : ForegroundHistory.log i op res w h = h := by
    cases op with
    | saveState => exact quiet.elim
    | _ => rfl
  obtain ⟨cfg, rfl⟩ := quiet.exec ran
  exact ⟨unlogged, inv.keep rfl fun _ => id⟩

/-- A record that was read after the run was recorded. -/
def Held (fgState s : VMState) (w : Observed) : Prop :=
  w.2.opened = true ∧ Covered fgState.pid s w

theorem Held.later (held : Held fgState s w) (later : Later w w') : Held fgState s w' :=
  ⟨later.opened held.1, held.2.later later⟩

theorem load_call {before : Observed → Prop} (other : i ≠ 0)
    (stable : (protocol fgState).Stable i before) :
    (protocol fgState).Triple i before .loadState (Returns (Held fgState)) := by
  refine .logged stable fun w h ans res w' inv _ allowed ran => ?_
  have opened : h.opened = true := allowed.2.2 other rfl
  obtain ⟨rfl, ⟨rfl, -⟩ | ⟨text, rfl, -⟩⟩ := Call.loadState_exec ran
  · exact ⟨inv, guar_refl _, opened, inv.covered opened⟩
  · exact ⟨inv, guar_refl _, trivial⟩

def stopHolds (fgState : VMState) : Stage → Observed → Prop
  | .loaded s => Held fgState s
  | .dead s => fun w => Held fgState s w ∧ fgState.pid ∉ w.1.alive
  | .entry | .failed => fun _ => True
  | .ended => fun w => w.2.stopped = true
  | _ => fun _ => False

theorem stopHolds_later (holds : stopHolds fgState stage w) (later : Later w w') :
    stopHolds fgState stage w' := by
  cases stage with
  | loaded s => exact Held.later holds later
  | dead s => exact ⟨holds.1.later later, fun mem => holds.2 (later.alive _ mem)⟩
  | ended => exact later.stopped holds
  | _ => exact holds

theorem stopHolds_stable (stage : Stage) : (protocol fgState).Stable i (stopHolds fgState stage) :=
  fun _ _ holds interferes => stopHolds_later holds (later_of_interferes interferes)

def stopping (fgState : VMState) : Outline (protocol fgState) 1 where
  holds := stopHolds fgState
  stable := stopHolds_stable
  quiet stage op quiet := by
    refine .logged (stopHolds_stable stage) fun w h ans answer w' inv holds _ ran => ?_
    obtain ⟨unlogged, kept, promised⟩ := quiet_step quiet inv ran
    rw [unlogged]
    exact ⟨kept, promised, stopHolds_later holds promised.1⟩

theorem stopping_checks (s : VMState) (running : s.running) (process : s.pid ≠ 0) :
    (stopping fgState).Checks s where
  check _ := Outline.probe guar_refl (fun _ _ _ => rfl) fun w h held dead => by
    refine ⟨held, ?_⟩
    rw [← held.2.process running]
    exact dead
  noProcess none := absurd none process

theorem stopping_stops : (stopping fgState).Stops .user where
  load := load_call Nat.one_ne_zero (stopHolds_stable .entry)
  idle _ _ _ _ := trivial
  checks := stopping_checks
  kill s running _ := by
    refine .logged (stopHolds_stable (.loaded s)) fun w h ans res w' inv held _ ran => ?_
    cases ran
    have fewer : ∀ p ∈ (w.exit s.pid).alive, p ∈ w.alive :=
      fun p mem => (List.mem_filter.mp mem).1
    have sameState : (w.exit s.pid).state = w.state := rfl
    obtain ⟨kept, promised⟩ := inv.keep sameState fewer
    have held : Held fgState s (w.exit s.pid, h) := Held.later held promised.1
    refine ⟨kept, promised, held, fun mem => ?_⟩
    rw [← held.2.process running] at mem
    simpa using (List.mem_filter.mp mem).2
  save s _ _ := by
    refine .logged (stopHolds_stable (.dead s)) fun w h ans res w' inv dead _ ran => ?_
    obtain ⟨rfl, -, rfl⟩ | ⟨text, rfl, -, rfl⟩ := Call.saveState_exec ran
    · refine ⟨?_, ⟨⟨fun _ => id, id, fun _ => rfl, id⟩, fun _ => rfl⟩, rfl⟩
      have byUser : (s.stopped .user).lastShutdownReason ≠ .unset := by simp [VMState.stopped]
      refine Inv.save dead.1.1 rfl ?_ fun _ => ⟨rfl, byUser⟩
      exact ⟨fun _ => dead.2, nofun, InstallState.afterRun_ne_pending _, .inr (.inl ⟨rfl, rfl⟩)⟩
    · exact ⟨inv, guar_refl _, trivial⟩

/-- The watcher's record is covered by what has been saved, its own save included. -/
theorem Covered.guestShutdown (covered : Covered pid s w) (recorded : w.2.recorded = true) :
    Covered pid s.guestShutdown w ∧ s.guestShutdown.lastShutdownReason ≠ .unset := by
  have reason : (s.guestShutdown.lastShutdownReason = .user ∧ w.2.stopped = true) ∨
      s.guestShutdown.lastShutdownReason = .guest := by
    rcases covered.reason with unset | ⟨user, stopped⟩ | ⟨guest, -⟩
    · exact .inr (by simp [VMState.guestShutdown, unset])
    · exact .inl ⟨by simp [VMState.guestShutdown, user], stopped⟩
    · exact .inr (by simp [VMState.guestShutdown, guest])
  refine ⟨⟨covered.dead, covered.process, covered.installed, ?_⟩, ?_⟩
  · rcases reason with user | guest
    · exact .inr (.inl user)
    · exact .inr (.inr ⟨guest, recorded⟩)
  · intro unset
    rw [unset] at reason
    simp at reason

theorem recordGuestShutdown_safe (w : Observed) :
    Keeps (protocol fgState) 2 recordGuestShutdown w := by
  refine Outline.recordGuestShutdown_safe (load_call (Nat.succ_ne_zero 1)
    (Protocol.const_stable _ _ True)) (fun s => ?_) (fun _ => Keeps.ended _) trivial
  refine .logged (fun _ _ held interferes => held.later (later_of_interferes interferes))
    fun w h ans res w' inv held _ ran => ?_
  obtain ⟨rfl, -, rfl⟩ | ⟨text, rfl, -, rfl⟩ := Call.saveState_exec ran
  · have later : Later (w, h) ({ w with state := s.guestShutdown }, { h with recorded := true }) :=
      ⟨fun _ => id, id, id, fun _ => rfl⟩
    obtain ⟨covered, reason⟩ := (held.2.later later).guestShutdown rfl
    exact ⟨Inv.save held.1 rfl covered fun _ => ⟨rfl, reason⟩, ⟨later, fun _ => rfl⟩, trivial⟩
  · exact ⟨inv, guar_refl _, trivial⟩

structure BeginsRun (fgState : VMState) : Prop where
  running : fgState.running = true
  process : fgState.pid ≠ 0
  desired : fgState.desiredState = .running
  reason : fgState.lastShutdownReason = .unset
  installed : fgState.installState ≠ .pending

def startHolds (fgState : VMState) : Stage → Observed → Prop
  | .entry => fun w => w.2.opened = false
  | .recorded s => fun w => s = fgState ∧ w.2.opened = true
  | .leaving s => fun w => s = fgState ∧ w.2.opened = true ∧ fgState.pid ∉ w.1.alive
  | .ended | .failed => fun w => w.2.opened = true
  | _ => fun _ => False

theorem startHolds_later (holds : startHolds fgState stage w) (later : Later w w')
    (sameOpened : w'.2.opened = w.2.opened) : startHolds fgState stage w' := by
  cases stage with
  | entry => exact sameOpened.trans holds
  | recorded s => exact ⟨holds.1, later.opened holds.2⟩
  | leaving s =>
    exact ⟨holds.1, later.opened holds.2.1, fun mem => holds.2.2 (later.alive _ mem)⟩
  | ended | failed => exact later.opened holds
  | _ => exact holds

theorem startHolds_stable (stage : Stage) :
    (protocol fgState).Stable 0 (startHolds fgState stage) := by
  intro w w' holds interferes
  refine startHolds_later holds (later_of_interferes interferes) ?_
  obtain ⟨-, -, ⟨j, other, promised⟩ | ⟨event, -, happened⟩⟩ := interferes
  · exact promised.2 other
  · rw [(Machine.withHistory_env happened).2]

def blocking (fgState : VMState) : Outline (protocol fgState) 0 where
  holds := startHolds fgState
  stable := startHolds_stable
  quiet stage op quiet := by
    refine .logged (startHolds_stable stage) fun w h ans answer w' inv holds _ ran => ?_
    obtain ⟨unlogged, kept, promised⟩ := quiet_step quiet inv ran
    rw [unlogged]
    exact ⟨kept, promised, startHolds_later holds promised.1 rfl⟩

/-- A save by the `Start` itself, when nobody else has saved. -/
theorem own_save {w : World}
    (covered : Covered fgState.pid s ({ w with state := s }, { h with opened := true }))
    (alone : h.stopped = false ∧ h.recorded = false) :
    Inv fgState ({ w with state := s }, { h with opened := true }) ∧
      (protocol fgState).guar 0 (w, h) ({ w with state := s }, { h with opened := true }) := by
  refine ⟨Inv.save rfl rfl covered fun saved => ?_, ⟨fun _ => id, fun _ => rfl, id, id⟩,
    fun other => absurd rfl other⟩
  simp [alone.1, alone.2] at saved

section

variable (begins : BeginsRun fgState)

include begins

theorem BeginsRun.covered : Covered fgState.pid fgState w := by
  refine ⟨fun idle => ?_, fun _ => rfl, begins.installed, .inl begins.reason⟩
  rw [begins.running] at idle
  cases idle

theorem blocking_opens : (blocking fgState).Saves .entry fgState (.recorded fgState) := by
  refine .logged (startHolds_stable .entry) fun w h ans res w' inv unopened allowed ran => ?_
  have unopened : h.opened = false := unopened
  have succeeds : ans.error = none := by simpa [unopened] using allowed.1 rfl rfl
  obtain ⟨rfl, -, rfl⟩ | ⟨text, -, failed, -⟩ := Call.saveState_exec ran
  · obtain ⟨kept, promised⟩ := own_save begins.covered (inv.unopened unopened)
    exact ⟨kept, promised, rfl, rfl⟩
  · rw [succeeds] at failed
    cases failed

theorem blocking_blocks : (blocking fgState).Blocks where
  fails _ ended := ended
  select s := by
    refine .logged (startHolds_stable (.recorded s))
      fun w h ans res w' inv recorded allowed ran => ?_
    obtain ⟨chosen, rfl⟩ := Prod.mk.inj (Option.some.inj ran)
    refine ⟨inv, guar_refl _, ?_⟩
    cases res with
    | false => exact recorded
    | true => exact ⟨recorded.1, recorded.2, allowed.2.1 rfl rfl chosen⟩
  finds s :=
    { check := fun _ => Outline.probe guar_refl (fun _ _ _ => rfl) fun w h recorded dead => by
        refine ⟨recorded.1, recorded.2, ?_⟩
        rw [← recorded.1]
        exact dead
      noProcess := fun none w recorded => by
        rw [recorded.1] at none
        exact absurd none begins.process }
  never s := .logged (startHolds_stable (.recorded s)) fun _ _ _ _ _ _ _ _ ran => by cases ran
  writeBack s := by
    refine .logged (startHolds_stable (.leaving s)) fun w h ans res w' inv leaving allowed ran => ?_
    obtain ⟨rfl, opened, dead⟩ := leaving
    have opened : h.opened = true := opened
    have current : w.state = s := by simpa [opened] using allowed.1 rfl rfl
    obtain ⟨rfl, -, rfl⟩ | ⟨text, rfl, -, rfl⟩ := Call.saveState_exec ran
    · -- the copy is current, so neither the stop nor the watcher has saved
      have alone : h.stopped = false ∧ h.recorded = false := by
        have intent := inv.intent opened
        rw [current, begins.desired] at intent
        constructor
        · exact Bool.eq_false_iff.mpr fun stopped => nomatch (intent (.inl stopped)).1
        · exact Bool.eq_false_iff.mpr fun recorded => nomatch (intent (.inr recorded)).1
      have covered : Covered s.pid { s with running := false }
          ({ w with state := { s with running := false } }, { h with opened := true }) :=
        ⟨fun _ => dead, nofun, begins.installed, .inl begins.reason⟩
      obtain ⟨kept, promised⟩ := own_save covered alone
      exact ⟨kept, promised, rfl⟩
    · exact ⟨inv, guar_refl _, opened⟩

theorem runForeground_safe (rounds : Nat) (unopened : w.2.opened = false) :
    (blocking fgState).Runs (runForeground fgState rounds) w := by
  have entry : (blocking fgState).holds .entry w := unopened
  refine Safe.triple (blocking_opens begins) entry fun res w after => ?_
  refine Outline.orThrow_bind after fun _ recorded => ?_
  exact (blocking_blocks begins).waitForeground_safe fgState rounds recorded

end

def ends (fgState : VMState) : Nat → Except String Unit → Observed → Prop
  | 0 => (blocking fgState).post
  | 1 => (stopping fgState).post
  | _ => fun _ _ => True

theorem initially (begins : BeginsRun fgState) (rounds : Nat) (name : String) (force : Bool)
    (w : World) :
    SafePool (protocol fgState) (ends fgState) (foregroundRun fgState rounds name force w) := by
  refine ⟨⟨fun _ => ⟨rfl, rfl⟩, nofun, nofun⟩, ?_⟩
  intro i p found
  match i with
  | 0 =>
    cases found
    exact runForeground_safe begins rounds rfl
  | 1 =>
    cases found
    cases force with
    | true => exact stopping_stops.forceStop_safe name trivial
    | false => exact stopping_stops.stop_safe name trivial
  | 2 =>
    cases found
    exact recordGuestShutdown_safe _
  | _ + 3 => cases found

theorem hostKeeps : (protocol fgState).HostKeeps := by
  rintro event ⟨w, h⟩ ⟨w', h'⟩ inv _ happened
  obtain ⟨occurred, rfl⟩ := Machine.withHistory_env happened
  obtain ⟨sameState, -, -, shrinks⟩ := HostEvent.occur_frame occurred
  exact (inv.keep (i := 0) sameState shrinks).1

end Foreground

/-- If the copy is written back only over the record that it is a copy of and only
when the process is gone, and the run is not one that installs, then the record is
truthful when all have finished. -/
theorem foreground_record_truthful (host : Platform) (cfg : VMConfig) (state : VMState)
    (result : StartResult) (startedAt rounds : Nat) (name : String) (force : Bool) (w : World)
    (process : result.pid ≠ 0) (installed : state.installState ≠ .pending)
    {c : Pool (World × ForegroundHistory)}
    (reached : Reach foregroundHost
      (copyIsCurrent (runningState host cfg state result startedAt []))
      (foregroundRun (runningState host cfg state result startedAt []) rounds name force w) c)
    (finished : c.Finished) :
    Truthful result.pid c.world.1 c.world.2 ∧
      (c.pool[1]? = some (.done (.ok ())) → c.world.2.stopped = true) := by
  have begins : Foreground.BeginsRun (runningState host cfg state result startedAt []) :=
    ⟨rfl, process, rfl, rfl, installed⟩
  have pool := Reach.safe (Foreground.initially begins rounds name force w)
    Foreground.hostKeeps reached
  have size : 0 < c.pool.length := by
    rw [reached.pool_length]
    exact Nat.succ_pos 2
  obtain ⟨outcome, ended⟩ := pool.posts finished 0 size
  have opened : c.world.2.opened = true := by
    cases outcome with
    | ok value => exact ended
    | error text => exact ended
  have covered := pool.inv.covered opened
  refine ⟨⟨covered.dead, fun saved => ?_, fun _ => covered.installed⟩, fun done => ?_⟩
  · obtain ⟨desired, reason⟩ := pool.inv.intent opened saved
    exact ⟨desired, covered.reason.resolve_left reason⟩
  · exact pool.of_ended done

def firstRun : VMState := runningState linuxHost { name := "vm" } {} ⟨1, "", "", 0⟩ 0 []

def firstProcess : World where
  config := { name := "vm" }
  state := {}
  alive := [1]
  nextPid := 2

/-- The process exits by itself and the `Start` writes its copy back while the stop
waits; the stop saves last. -/
theorem foreground_then_stop_truthful : ∃ c, Reach foregroundHost (copyIsCurrent firstRun)
        (foregroundRun firstRun 1 "vm" true firstProcess) c ∧
      c.Finished ∧ c.world.2.stopped = true ∧ c.world.1.alive = [] ∧
      Truthful 1 c.world.1 c.world.2 := by
  refine Reach.exists_of_runs
    ([.run 0 {}, .run 1 {}, .env (.exit 1)] ++ List.replicate 3 (.run 0 {}) ++
      List.replicate 3 (.run 1 {}) ++ [.run 2 {}, .run 2 {}])
    (fun c => c.Finished ∧ c.world.2.stopped = true ∧ c.world.1.alive = []) (by decide) ?_
  rintro c reached ⟨finished, stopped, gone⟩
  exact ⟨finished, stopped, gone,
    (foreground_record_truthful linuxHost { name := "vm" } {} ⟨1, "", "", 0⟩ 0 1 "vm" true
      firstProcess (by decide) (by decide) reached finished).1⟩

/-- The watcher records the guest's poweroff, the process exits, and the `Start` writes
its old copy back: the record says that the VM is meant to run. -/
theorem foreground_overwrites_poweroff : ∃ c, Reach foregroundHost (.none _)
        (foregroundRun firstRun 1 "vm" true firstProcess) c ∧
      c.Finished ∧ ¬ Truthful 1 c.world.1 c.world.2 := by
  refine Reach.exists_of_runs ([.run 0 {}, .run 2 {}, .run 2 {}, .env (.exit 1)] ++
    List.replicate 3 (.run 0 {}) ++ [.run 1 {}])
    (fun c => c.Finished ∧ c.world.2.recorded = true ∧ c.world.1.state.desiredState = .running)
    (by decide) ?_
  rintro c - ⟨finished, recorded, desired⟩
  refine ⟨finished, fun truthful => ?_⟩
  have stopped := (truthful.intent (.inr recorded)).1
  rw [desired] at stopped
  cases stopped

end Vee
