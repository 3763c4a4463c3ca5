import Mathlib.Logic.Function.Basic
import Vee.VM.Outline
import Vee.VM.Session

/-!
# A guest poweroff against the daemon's ticks

A guest that powers itself off is to stay off. Its backend reports the poweroff before it goes: a
SHUTDOWN event on the QMP connection, or the result file of a vz helper. The watcher turns the
report into `DesiredState=stopped`, in its own time, and a tick that looks at the VM in between
finds a dead process that is meant to run.
-/

namespace Vee

open List

def Watcher.reports : Watcher → HostEvent → Bool
  | .qmp _, .qmp (.shutdown guest reason) => guest && reason ≠ "guest-reset"
  | .vz _, .vzResult res => res.cleanPoweroff
  | _, _ => false

def QMPEvent.guestReset : QMPEvent → Bool
  | .shutdown guest reason => guest && reason = "guest-reset"
  | .reset guest => guest
  | .other => false

def HostEvent.guestReset : HostEvent → Bool
  | .qmp ev => ev.guestReset
  | _ => false

/-- A call that only `Start` makes. -/
def Call.launches : Call → Bool
  | .buildBackendMachine _ _ | .spawn _ => true
  | _ => false

/-- Whether the poweroff has been reported, whether a `Start` has gone to work
since, and the record that each program has read last. -/
structure PoweroffHistory where
  reported : Bool := false
  restarted : Bool := false
  seen : Nat → VMState := fun _ => {}

def Call.reads (op : Call) (answer : op.Res) (before : VMState) : VMState :=
  match op, answer with
  | .loadState, .ok s => s
  | .loadState, .error _ => {}
  | _, _ => before

def PoweroffHistory.log (i : Nat) (op : Call) (answer : op.Res) (_ : World)
    (h : PoweroffHistory) : PoweroffHistory :=
  { h with
    restarted := h.restarted || (h.reported && op.launches)
    seen := Function.update h.seen i (op.reads answer (h.seen i)) }

variable (watcher : Watcher) (pid : Nat)

/-- What an event adds to the history. A report counts while the process that it
is about is alive. -/
def PoweroffHistory.logEnv (event : HostEvent) (w : World)
    (h : PoweroffHistory) : PoweroffHistory :=
  { h with reported := h.reported || (watcher.reports event && decide (pid ∈ w.alive)) }

/-- The host, with the history of the poweroff of process `pid`. -/
def poweroffHost : Machine Call Call.Res (World × PoweroffHistory) :=
  vmHost.withHistory PoweroffHistory.log (PoweroffHistory.logEnv watcher pid)

def watcherAgainstTicks (host : Platform) (name : String) (rounds : Nat) (watcher : Watcher)
    (ticks : Nat) (w : World) : Pool (World × PoweroffHistory) :=
  ⟨watcher.prog host name rounds :: List.replicate ticks (tick host), (w, {})⟩

/-- A tick that finds a process dead after the report holds a record that says
`stopped`, and its loads succeed. The process goes only after the report, and
the guest asks for no reset. -/
def ticksSeeStopped : Guard (poweroffHost watcher pid) where
  run i op ans w := i ≠ 0 → (op.loads → ans.error = none) ∧
    (∀ probed ∈ op.probes, probed ∉ w.1.alive → w.2.reported →
      (w.2.seen i).desiredState = .stopped)
  env event w := event.guestReset = false ∧ ∀ gone ∈ event.exits, w.2.reported = true

instance (watcher : Watcher) (pid : Nat) : (ticksSeeStopped watcher pid).Decides where
  run _ _ _ _ := inferInstanceAs (Decidable (_ → _ ∧ _))
  env _ _ := inferInstanceAs (Decidable (_ ∧ _))

namespace GuestPoweroff

abbrev Observed := World × PoweroffHistory

/-- The record is that of the one process, or of a VM that is to stay off. -/
def Settled (s : VMState) : Prop :=
  (s.running ∧ s.pid = pid) ∨ (s.running = false ∧ s.desiredState = .stopped)

/-- The store holds a settled record, the process is there until its poweroff has
been reported, and nothing has been started since. -/
structure Inv (pid : Nat) (w : Observed) : Prop where
  stored : Settled pid w.1.state
  notRestarted : w.2.restarted = false
  alive : w.2.reported = true ∨ pid ∈ w.1.alive
  noReset : ∀ ev ∈ w.1.events, ev.guestReset = false

/-- Nobody changes what another program has read. -/
def protocol : Protocol (poweroffHost watcher pid) where
  guard := ticksSeeStopped watcher pid
  inv := Inv pid
  guar j w w' := ∀ k, k ≠ j → w'.2.seen k = w.2.seen k

variable {watcher : Watcher} {pid i : Nat}

variable {op : Call} {before : Observed → Prop} {w w' : Observed}

/-- A call that launches nothing and leaves processes alone keeps the invariant
if the record that it leaves is settled. -/
theorem call {after : op.Res → Observed → Prop} (harmless : op.launches = false)
    (stable : (protocol watcher pid).Stable i before)
    (step : ∀ w h ans res w', Inv pid (w, h) → before (w, h) →
      (ticksSeeStopped watcher pid).run i op ans (w, h) → op.exec ans w = some (res, w') →
      Settled pid w'.state ∧ w'.alive = w.alive ∧ (∀ ev ∈ w'.events, ev ∈ w.events) ∧
        after res (w', h.log i op res w)) :
    (protocol watcher pid).Triple i before op after := by
  refine .logged stable fun w h ans res w' inv holds allowed ran => ?_
  obtain ⟨settled, sameAlive, fewer, reached⟩ := step w h ans res w' inv holds allowed ran
  refine ⟨⟨settled, ?_, ?_, fun ev mem => inv.noReset ev (fewer ev mem)⟩, ?_, reached⟩
  · have before : h.restarted = false := inv.notRestarted
    simp [PoweroffHistory.log, before, harmless]
  · show h.reported = true ∨ pid ∈ w'.alive
    rw [sameAlive]
    exact inv.alive
  · exact fun k other => Function.update_of_ne other _ _

theorem env {event : HostEvent} (happened : (poweroffHost watcher pid).env event w = some w') :
    event.occur w.1 = some w'.1 ∧ w'.2.seen = w.2.seen ∧ w'.2.restarted = w.2.restarted ∧
      (w.2.reported = true → w'.2.reported = true) := by
  obtain ⟨happened, logged⟩ := Machine.withHistory_env happened
  refine ⟨happened, by rw [logged]; rfl, by rw [logged]; rfl, fun reported => ?_⟩
  rw [logged]
  simp [PoweroffHistory.logEnv, reported]

theorem seen_stable (interferes : (protocol watcher pid).Interferes i w w') :
    w'.2.seen i = w.2.seen i := by
  obtain ⟨-, -, ⟨j, other, promised⟩ | ⟨event, -, happened⟩⟩ := interferes
  · exact promised i other.symm
  · rw [(env happened).2.1]

theorem quiet_call (stable : (protocol watcher pid).Stable i before)
    (frame : ∀ w w', before w → w'.2.seen i = w.2.seen i → before w') (quiet : op.Quiet) :
    (protocol watcher pid).Triple i before op fun _ => before := by
  have harmless : op.launches = false := by
    cases op with
    | buildBackendMachine | spawn => exact quiet.elim
    | _ => rfl
  refine call harmless stable fun w h ans res w' inv holds _ ran => ?_
  have unread : op.reads res (h.seen i) = h.seen i := by
    cases op with
    | loadState => exact quiet.elim
    | _ => rfl
  obtain ⟨cfg, rfl⟩ := quiet.exec ran
  refine ⟨inv.stored, rfl, fun _ => id, frame _ _ holds ?_⟩
  exact (Function.update_self _ _ _).trans unread

theorem save_call {s : VMState} (stable : (protocol watcher pid).Stable i before)
    (settled : ∀ w, before w → Settled pid s) :
    (protocol watcher pid).Triple i before (.saveState s) fun _ _ => True := by
  refine call rfl stable fun w h ans res w' inv holds _ ran => ?_
  rcases Call.saveState_exec ran with ⟨-, -, rfl⟩ | ⟨text, -, -, rfl⟩
  · exact ⟨settled _ holds, rfl, fun _ => id, trivial⟩
  · exact ⟨inv.stored, rfl, fun _ => id, trivial⟩

def tickHolds (pid i : Nat) : Stage → Observed → Prop
  | .loaded s => fun w => w.2.seen i = s ∧ Settled pid s
  | .dead s => fun _ => s.desiredState = .stopped
  | .entry | .ended | .failed => fun _ => True
  | _ => fun _ => False

theorem tickHolds_frame {stage : Stage} (holds : tickHolds pid i stage w)
    (same : w'.2.seen i = w.2.seen i) : tickHolds pid i stage w' := by
  cases stage with
  | loaded s => exact ⟨same.trans holds.1, holds.2⟩
  | _ => exact holds

theorem tickHolds_stable (stage : Stage) :
    (protocol watcher pid).Stable i (tickHolds pid i stage) :=
  fun _ _ holds interferes => tickHolds_frame holds (seen_stable interferes)

def ticking (watcher : Watcher) (pid i : Nat) : Outline (protocol watcher pid) i where
  holds := tickHolds pid i
  stable := tickHolds_stable
  quiet stage _ := quiet_call (tickHolds_stable stage) fun _ _ => tickHolds_frame

theorem ticking_reads (other : i ≠ 0) :
    (protocol watcher pid).Triple i ((ticking watcher pid i).holds .entry) .loadState
      fun res w => ∃ s, res = .ok s ∧ (ticking watcher pid i).holds (.loaded s) w := by
  refine call rfl (tickHolds_stable .entry) fun w h ans res w' inv _ allowed ran => ?_
  obtain ⟨rfl, ⟨rfl, -⟩ | ⟨text, -, failed⟩⟩ := Call.loadState_exec ran
  · exact ⟨inv.stored, rfl, fun _ => id, _, rfl, Function.update_self _ _ _, inv.stored⟩
  · exact absurd ((allowed other).1 rfl) (by simp [failed])

/-- A process that a tick finds dead has been reported, so the tick's record says
`stopped`. -/
theorem ticking_checks (other : i ≠ 0) (process : pid ≠ 0) (s : VMState) (running : s.running) :
    (ticking watcher pid i).Checks s where
  check _ := by
    refine call rfl (tickHolds_stable (.loaded s)) fun w h ans res w' inv loaded allowed ran => ?_
    have loaded : tickHolds pid i (.loaded s) (w, h) := loaded
    cases ran
    refine ⟨inv.stored, rfl, fun _ => id, ?_⟩
    by_cases alive : s.pid ∈ w.alive
    · rw [decide_eq_true alive]
      exact tickHolds_frame loaded (Function.update_self _ _ _)
    rw [decide_eq_false alive]
    have ours : s.pid = pid := by
      rcases loaded.2 with ⟨-, ours⟩ | ⟨idle, -⟩
      · exact ours
      · rw [idle] at running
        cases running
    have reported : h.reported = true := by
      rcases inv.alive with reported | there
      · exact reported
      · exact absurd (ours ▸ there) alive
    have stopped := (allowed other).2 s.pid rfl alive reported
    rw [loaded.1] at stopped
    exact stopped
  noProcess none w loaded := by
    rcases loaded.2 with ⟨-, ours⟩ | ⟨idle, -⟩
    · rw [ours] at none
      exact absurd none process
    · rw [idle] at running
      cases running

theorem ticking_ticks (other : i ≠ 0) (process : pid ≠ 0) : (ticking watcher pid i).Ticks where
  load := (ticking_reads other).weaken fun res w after => by
    obtain ⟨s, rfl, loaded⟩ := after
    exact loaded
  checks := ticking_checks other process
  cleans s _ result := save_call (tickHolds_stable (.dead s)) fun _ stopped =>
    .inr ⟨rfl, VMState.stale_desiredState_stopped s result stopped⟩
  read _ _ _ := trivial
  missed _ := Iff.rfl
  idle _ := Iff.rfl
  reads := ticking_reads other
  stopped s w idle loaded := by
    rcases loaded.2 with ⟨running, -⟩ | ⟨-, stopped⟩
    · rw [idle] at running
      cases running
    · exact shouldDaemonStart_of_stopped stopped
  gone s w stopped := ⟨shouldDaemonStart_of_stopped stopped, trivial⟩

theorem recordGuestShutdown_safe (w : Observed) :
    Keeps (protocol watcher pid) 0 recordGuestShutdown w := by
  have load : (protocol watcher pid).Triple 0 (fun _ => True) .loadState
      (Returns fun s _ => Settled pid s) := by
    refine call rfl (Protocol.const_stable _ _ True) fun w h ans res w' inv _ _ ran => ?_
    obtain ⟨rfl, ⟨rfl, -⟩ | ⟨text, rfl, -⟩⟩ := Call.loadState_exec ran
    · exact ⟨inv.stored, rfl, fun _ => id, inv.stored⟩
    · exact ⟨inv.stored, rfl, fun _ => id, trivial⟩
  refine Outline.recordGuestShutdown_safe load (fun s => ?_) (fun _ => Keeps.ended _) trivial
  refine save_call (Protocol.const_stable _ _ _) fun _ read => ?_
  rcases read with ⟨running, ours⟩ | ⟨idle, -⟩
  · exact .inl ⟨running, ours⟩
  · exact .inr ⟨idle, rfl⟩

/-- The watcher takes an event from its channel, and it is no guest reset. -/
theorem select_triple : (protocol watcher pid).Triple 0 (fun _ => True) .selectEvent
    fun wakeup _ => ∀ ev, wakeup = .event ev → ev.guestReset = false := by
  refine call rfl (Protocol.const_stable _ _ True) fun w h ans res w' inv _ _ ran => ?_
  simp only [Call.exec] at ran
  split at ran <;> cases ran
  · exact ⟨inv.stored, rfl, fun _ => id, fun _ taken => by cases taken⟩
  rename_i ev rest _ queued
  refine ⟨inv.stored, rfl, fun ev' mem => ?_, fun ev' taken => ?_⟩
  · rw [queued]
    exact mem_cons_of_mem ev mem
  · cases taken
    apply inv.noReset
    rw [queued]
    exact mem_cons_self

variable (host : Platform) (name : String) (rounds : Nat)

theorem handleShutdownEvent_safe {guest : Bool} {reason : String}
    (noReset : (QMPEvent.shutdown guest reason).guestReset = false) (w : Observed) :
    Keeps (protocol watcher pid) 0 (handleShutdownEvent host name guest reason) w := by
  unfold handleShutdownEvent
  split
  · exact Keeps.ended _
  · rename_i byGuest
    have plain : decide (reason = "guest-reset") = false := by
      have byGuest : guest = true := by simpa using byGuest
      simpa [QMPEvent.guestReset, byGuest] using noReset
    simp only [plain, resetAnswered, Bool.false_eq_true, if_false]
    exact recordGuestShutdown_safe w

theorem watchEvents_safe (w : Observed) :
    Keeps (protocol watcher pid) 0 (watchEvents host name rounds) w := by
  induction rounds generalizing w with
  | zero =>
    have never : (protocol watcher pid).Triple 0 (fun _ => True) .block fun _ _ => False :=
      call rfl (Protocol.const_stable _ _ True) fun _ _ _ _ _ _ _ _ ran => by cases ran
    exact Safe.triple never trivial fun _ _ never => never.elim
  | succ rounds ih =>
    refine Safe.triple select_triple trivial fun wakeup w noReset => ?_
    cases wakeup with
    | closed => exact Keeps.ended _
    | event ev =>
      have noReset := noReset ev rfl
      cases ev with
      | shutdown guest reason => exact handleShutdownEvent_safe host name noReset w
      | reset guest =>
        have byHost : guest = false := noReset
        subst byHost
        exact ih w
      | other => exact ih w

theorem quiet_triple (quiet : op.Quiet) :
    (protocol watcher pid).Triple 0 (fun _ => True) op fun _ _ => True := by
  exact quiet_call (Protocol.const_stable _ _ True) (fun _ _ _ _ => trivial) quiet

theorem watcher_safe (w : Observed) :
    Keeps (protocol watcher pid) 0 (watcher.prog host name rounds) w := by
  cases watcher with
  | qmp socket =>
    change Keeps _ 0 (watchVMConnection host name socket rounds) w
    unfold watchVMConnection
    split
    · exact Keeps.ended _
    · refine Safe.triple (quiet_triple trivial) trivial fun dialled w _ => ?_
      cases dialled with
      | error text => exact Keeps.ended _
      | ok _ => exact watchEvents_safe host name rounds w
  | vz socket =>
    refine Safe.triple (quiet_triple trivial) trivial fun waited w _ => ?_
    cases waited with
    | error text =>
      refine Safe.triple (quiet_triple trivial) trivial fun result w _ => ?_
      cases result with
      | error text => exact Keeps.ended _
      | ok res =>
        change Keeps _ 0 (if res.cleanPoweroff then recordGuestShutdown else _) w
        split
        · exact recordGuestShutdown_safe w
        · exact Keeps.ended _
    | ok reason =>
      cases reason with
      | guest => exact recordGuestShutdown_safe w
      | host => exact Keeps.ended _
      | error => exact Keeps.ended _

theorem hostKeeps : (protocol watcher pid).HostKeeps := by
  intro event w w' inv allowed happened
  obtain ⟨occurred, -, sameRestarted, reported⟩ := env happened
  have sameState := (HostEvent.occur_frame occurred).1
  refine ⟨?_, sameRestarted.trans inv.notRestarted, ?_, ?_⟩
  · rw [sameState]
    exact inv.stored
  · cases exits : event.exits with
    | some gone => exact .inl (reported (allowed.2 gone exits))
    | none =>
      rw [HostEvent.occur_alive occurred exits]
      exact inv.alive.imp_left reported
  · intro ev mem
    rcases HostEvent.occur_events occurred ev mem with old | rfl
    · exact inv.noReset ev old
    · exact allowed.1

theorem initially (watcher : Watcher) (ticks : Nat) {w : World} (runs : RunsUnderDaemon w)
    (quiet : w.events = []) :
    SafePool (protocol watcher w.state.pid) (fun _ _ _ => True)
      (watcherAgainstTicks host name rounds watcher ticks w) := by
  refine ⟨⟨.inl ⟨runs.running, rfl⟩, rfl, .inr ?_, ?_⟩, ?_⟩
  · change w.state.pid ∈ w.alive
    rw [runs.alive]
    exact mem_singleton.mpr rfl
  · intro ev mem
    have mem : ev ∈ w.events := mem
    rw [quiet] at mem
    cases mem
  · intro i p found
    cases i with
    | zero =>
      cases found
      exact watcher_safe host name rounds _
    | succ j =>
      have ticked : p = tick host := by
        have mem := mem_of_getElem? (l := replicate ticks (tick host)) found
        exact eq_of_mem_replicate mem
      subst ticked
      have ticks : (ticking watcher w.state.pid (j + 1)).Ticks :=
        ticking_ticks (Nat.succ_ne_zero j) runs.process
      exact (ticks.tick_safe host trivial).keeps

end GuestPoweroff

/-- While every tick that finds the process dead holds a record that says `stopped`,
no `Start` goes to work once the poweroff has been reported. -/
theorem guest_poweroff_not_restarted (host : Platform) (name : String) (rounds : Nat)
    (watcher : Watcher) (ticks : Nat) (w : World) (runs : RunsUnderDaemon w)
    (quiet : w.events = []) {c : Pool (World × PoweroffHistory)}
    (reached : Reach (poweroffHost watcher w.state.pid) (ticksSeeStopped watcher w.state.pid)
      (watcherAgainstTicks host name rounds watcher ticks w) c) :
    c.world.2.restarted = false :=
  (Reach.safe (GuestPoweroff.initially host name rounds watcher ticks runs quiet)
    GuestPoweroff.hostKeeps reached).inv.notRestarted

/-- The watcher records the poweroff before the process goes, and a tick comes after. -/
theorem guest_poweroff_recorded_first :
    ∃ c, Reach (poweroffHost (.qmp "qmp.sock") 1) (ticksSeeStopped (.qmp "qmp.sock") 1)
        (watcherAgainstTicks linuxHost "vm" 1 (.qmp "qmp.sock") 1 daemonVM) c ∧
      c.world.2.reported = true ∧ c.world.1.alive = [] ∧ c.Finished ∧
      c.world.2.restarted = false := by
  refine Reach.exists_of_runs
    ([.run 0 {}, .env (.qmp (.shutdown true "guest-shutdown")), .run 0 {}, .run 0 {}, .run 0 {},
      .env (.exit 1)] ++ replicate 9 (.run 1 {}))
    (fun c => c.world.2.reported = true ∧ c.world.1.alive = [] ∧ c.Finished) (by decide) ?_
  rintro c reached ⟨reported, gone, finished⟩
  exact ⟨reported, gone, finished,
    guest_poweroff_not_restarted linuxHost "vm" 1 (.qmp "qmp.sock") 1 daemonVM daemonVM_runs rfl
      reached⟩

/-- The owner reads the SHUTDOWN event and the process goes; a tick comes before the
watcher has taken the event from its channel, and starts the VM again. -/
theorem guest_poweroff_restarted_by_tick : RunsUnderDaemon daemonVM ∧ ∃ c,
      Reach (poweroffHost (.qmp "qmp.sock") daemonVM.state.pid) (.none _)
        (watcherAgainstTicks linuxHost "vm" 1 (.qmp "qmp.sock") 1 daemonVM) c ∧
      c.world.2.restarted = true :=
  ⟨daemonVM_runs, Reach.of_runs _ _ _ ([.run 0 {}, .env (.qmp (.shutdown true "guest-shutdown")),
    .env (.exit 1)] ++ replicate 8 (.run 1 {})) _ (by decide)⟩

end Vee
