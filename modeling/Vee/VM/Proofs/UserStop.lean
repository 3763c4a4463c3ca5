import Vee.VM.Outline
import Vee.VM.Session

/-!
# A user stop against the daemon's ticks

`vee stop` records that the VM is meant to be stopped only at its end (`stopWithReason`). A tick
of the daemon that comes before that save finds a record that says Running with a dead PID, and
starts the VM again; the save of the stop then hides the new process.
-/

namespace Vee

open List

def stopAgainstTicks (host : Platform) (name : String) (force : Bool) (ticks : Nat) (w : World) :
    Pool World :=
  ⟨userStop name force :: List.replicate ticks (tick host), w⟩

/-- The ticks find the processes that they probe alive, and their loads of the
state succeed. -/
def ticksSeeLive : Guard vmHost where
  run i op ans w := i ≠ 0 → (∀ pid ∈ op.probes, pid ∈ w.alive) ∧ (op.loads → ans.error = none)

instance : ticksSeeLive.Decides where
  run _ _ _ _ := inferInstanceAs (Decidable (_ → _ ∧ _))
  env _ _ := isTrue trivial

namespace UserStop

/-- Until the stop saves, the stored record is the initial one; from then on no
process is alive. -/
structure Inv (s₀ : VMState) (w : World) : Prop where
  only : ∀ pid ∈ w.alive, pid = s₀.pid
  stored : w.state = s₀ ∨ (w.state = s₀.stopped .user ∧ w.alive = [])

/-- The ticks change neither the record nor a process, and the stop starts nothing. -/
def protocol (s₀ : VMState) : Protocol vmHost where
  guard := ticksSeeLive
  inv := Inv s₀
  guar j w w' :=
    if j = 0 then ∀ pid ∈ w'.alive, pid ∈ w.alive
    else w'.state = w.state ∧ w'.alive = w.alive

variable {s₀ : VMState}

def stopHolds (s₀ : VMState) : Stage → World → Prop
  | .entry => fun w => w.state = s₀
  | .loaded s => fun w => w.state = s₀ ∧ s = s₀
  | .dead s => fun w => w.state = s₀ ∧ s = s₀ ∧ w.alive = []
  | .ended => fun w => w.alive = []
  | .failed => fun _ => True
  | _ => fun _ => False

theorem stopHolds_frame {stage : Stage} {w w' : World} (holds : stopHolds s₀ stage w)
    (sameState : w'.state = w.state) (shrinks : ∀ pid ∈ w'.alive, pid ∈ w.alive) :
    stopHolds s₀ stage w' := by
  have empty : w.alive = [] → w'.alive = [] := by
    intro none
    rw [eq_nil_iff_forall_not_mem]
    intro pid mem
    have := shrinks pid mem
    rw [none] at this
    cases this
  cases stage with
  | entry => exact sameState.trans holds
  | loaded s => exact ⟨sameState.trans holds.1, holds.2⟩
  | dead s => exact ⟨sameState.trans holds.1, holds.2.1, empty holds.2.2⟩
  | ended => exact empty holds
  | _ => exact holds

theorem stopHolds_stable (stage : Stage) : (protocol s₀).Stable 0 (stopHolds s₀ stage) := by
  rintro w w' holds ⟨-, -, ⟨j, other, promised⟩ | ⟨event, -, happened⟩⟩
  · simp only [protocol, other, if_false] at promised
    exact stopHolds_frame holds promised.1 fun pid mem => by rw [← promised.2]; exact mem
  · obtain ⟨sameState, -, -, shrinks⟩ := HostEvent.occur_frame happened
    exact stopHolds_frame holds sameState shrinks

theorem Inv.config {w : World} (inv : Inv s₀ w) (cfg : VMConfig) :
    Inv s₀ { w with config := cfg } := ⟨inv.only, inv.stored⟩

def stopping (s₀ : VMState) : Outline (protocol s₀) 0 where
  holds := stopHolds s₀
  stable := stopHolds_stable
  quiet stage op quiet := by
    refine ⟨stopHolds_stable stage, ?_⟩
    intro w ans answer w' inv holds _ ran
    obtain ⟨cfg, rfl⟩ := quiet.exec ran
    exact ⟨inv.config cfg, fun _ member => member, stopHolds_frame holds rfl fun _ member => member⟩

theorem stopping_load : (stopping s₀).Loads := by
  refine ⟨stopHolds_stable .entry, ?_⟩
  intro w ans res w' inv same _ ran
  simp only [vmHost, Call.exec, Answer.orFail] at ran
  split at ran <;> cases ran
  · exact ⟨inv, fun _ => id, trivial⟩
  · exact ⟨inv, fun _ => id, same, same⟩

theorem stopping_checks (s : VMState) (process : s.pid ≠ 0) : (stopping s₀).Checks s where
  check _ := by
    refine ⟨stopHolds_stable (.loaded s), ?_⟩
    rintro w ans res w' inv ⟨same, rfl⟩ _ ran
    cases ran
    refine ⟨inv, fun _ => id, ?_⟩
    by_cases alive : s.pid ∈ w.alive
    · simp only [alive, decide_true, if_true]
      exact ⟨same, rfl⟩
    · simp only [alive, decide_false, Bool.false_eq_true, if_false]
      refine ⟨same, rfl, eq_nil_iff_forall_not_mem.mpr fun pid mem => ?_⟩
      exact alive (inv.only pid mem ▸ mem)
  noProcess none _ _ := absurd none process

theorem stopping_stops : (stopping s₀).Stops .user where
  load := stopping_load
  idle _ _ _ _ := trivial
  checks s _ process := stopping_checks s process
  kill s _ _ := by
    refine ⟨stopHolds_stable (.loaded s), ?_⟩
    rintro w ans res w' inv ⟨same, rfl⟩ _ ran
    cases ran
    have none : (w.exit s.pid).alive = [] := by
      rw [eq_nil_iff_forall_not_mem]
      intro pid mem
      have mem := mem_filter.mp mem
      exact absurd (inv.only pid mem.1) (by simpa using mem.2)
    refine ⟨⟨fun pid mem => ?_, .inl same⟩, fun pid mem => ?_, same, rfl, none⟩
    · rw [none] at mem; cases mem
    · rw [none] at mem; cases mem
  save s _ _ := by
    refine ⟨stopHolds_stable (.dead s), ?_⟩
    rintro w ans res w' inv ⟨same, rfl, none⟩ _ ran
    simp only [vmHost, Call.exec] at ran
    split at ran <;> cases ran
    · exact ⟨inv, fun _ => id, trivial⟩
    · exact ⟨⟨inv.only, .inr ⟨rfl, none⟩⟩, fun _ => id, none⟩

/-- The stages of a tick: it reads one of the two records there are. -/
def tickHolds (s₀ : VMState) : Stage → World → Prop
  | .loaded s => fun _ => s = s₀ ∨ s = s₀.stopped .user
  | .entry | .ended | .failed => fun _ => True
  | _ => fun _ => False

theorem tickHolds_stable (i : Nat) (stage : Stage) :
    (protocol s₀).Stable i (tickHolds s₀ stage) := by
  intro w w' holds _
  cases stage <;> exact holds

def ticking (s₀ : VMState) (i : Nat) (other : i ≠ 0) : Outline (protocol s₀) i where
  holds := tickHolds s₀
  stable := tickHolds_stable i
  quiet stage op quiet := by
    refine ⟨tickHolds_stable i stage, ?_⟩
    intro w ans answer w' inv holds _ ran
    obtain ⟨cfg, rfl⟩ := quiet.exec ran
    refine ⟨inv.config cfg, ?_, by cases stage <;> exact holds⟩
    simp only [protocol, other, if_false]
    exact ⟨trivial, trivial⟩

variable {i : Nat} {other : i ≠ 0}

theorem ticking_reads : (protocol s₀).Triple i ((ticking s₀ i other).holds .entry) .loadState
    fun res w => ∃ s, res = .ok s ∧ (ticking s₀ i other).holds (.loaded s) w := by
  refine ⟨tickHolds_stable i .entry, ?_⟩
  intro w ans res w' inv _ allowed ran
  have succeeds : ans.error = none := (allowed other).2 rfl
  simp only [vmHost, Call.exec, Answer.orFail, succeeds] at ran
  cases ran
  refine ⟨inv, ?_, w.state, rfl, ?_⟩
  · simp only [protocol, other, if_false]
    exact ⟨trivial, trivial⟩
  · rcases inv.stored with same | ⟨stopped, -⟩
    · exact .inl same
    · exact .inr stopped

theorem ticking_checks (process : s₀.pid ≠ 0) (s : VMState) (running : s.running) :
    (ticking s₀ i other).Checks s where
  check _ := by
    refine ⟨tickHolds_stable i (.loaded s), ?_⟩
    intro w ans res w' inv loaded allowed ran
    have alive : s.pid ∈ w.alive := (allowed other).1 s.pid rfl
    simp only [vmHost, Call.exec, alive, decide_true] at ran
    cases ran
    refine ⟨inv, ?_, loaded⟩
    simp only [protocol, other, if_false]
    exact ⟨trivial, trivial⟩
  noProcess none w loaded := by
    rcases loaded with rfl | rfl
    · exact absurd none process
    · exact absurd running Bool.false_ne_true

theorem ticking_ticks (i : Nat) (other : i ≠ 0) (process : s₀.pid ≠ 0) (wasRunning : s₀.running) :
    (ticking s₀ i other).Ticks where
  load := ticking_reads.weaken fun res w after => by
    obtain ⟨s, rfl, loaded⟩ := after
    exact loaded
  checks := ticking_checks process
  cleans s _ result := ⟨tickHolds_stable i (.dead s), fun _ _ _ _ _ gone => gone.elim⟩
  read _ _ _ := trivial
  missed _ := Iff.rfl
  idle _ := Iff.rfl
  reads := ticking_reads
  stopped s w idle loaded := by
    rcases loaded with rfl | rfl
    · rw [idle] at wasRunning
      cases wasRunning
    · exact shouldDaemonStart_of_stopped rfl
  gone _ _ gone := gone.elim

theorem initially (host : Platform) (name : String) (force : Bool) (ticks : Nat) {w : World}
    (runs : RunsUnderDaemon w) :
    SafePool (protocol w.state)
      (fun i result => if i = 0 then (stopping w.state).post result else fun _ => True)
      (stopAgainstTicks host name force ticks w) := by
  refine ⟨⟨fun pid mem => ?_, .inl rfl⟩, ?_⟩
  · have mem : pid ∈ w.alive := mem
    rw [runs.alive] at mem
    exact mem_singleton.mp mem
  · intro i p found
    cases i with
    | zero =>
      cases found
      have entry : (stopping w.state).holds .entry w := rfl
      cases force with
      | true => exact stopping_stops.forceStop_safe name entry
      | false => exact stopping_stops.stop_safe name entry
    | succ j =>
      have ticked : p = tick host := by
        have mem := mem_of_getElem? (l := replicate ticks (tick host)) found
        exact eq_of_mem_replicate mem
      subst ticked
      have ticks := ticking_ticks (j + 1) (Nat.succ_ne_zero j) runs.process runs.running
      exact (ticks.tick_safe host trivial).keeps

theorem hostKeeps : (protocol s₀).HostKeeps := by
  intro event w w' inv _ happened
  obtain ⟨sameState, -, -, shrinks⟩ := HostEvent.occur_frame happened
  refine ⟨fun pid mem => inv.only pid (shrinks pid mem), ?_⟩
  rcases inv.stored with same | ⟨stopped, none⟩
  · exact .inl (sameState.trans same)
  · refine .inr ⟨sameState.trans stopped, eq_nil_iff_forall_not_mem.mpr ?_⟩
    intro pid mem
    have := shrinks pid mem
    rw [none] at this
    cases this

end UserStop

/-- While the ticks find every process that they probe alive, no process runs that
the store does not record, and once the stop has returned success none runs. -/
theorem user_stop_not_undone (host : Platform) (name : String) (force : Bool) (ticks : Nat)
    (w : World) (runs : RunsUnderDaemon w) {c : Pool World}
    (reached : Reach vmHost ticksSeeLive (stopAgainstTicks host name force ticks w) c) :
    (∀ pid ∈ c.world.alive, c.world.state.running ∧ c.world.state.pid = pid) ∧
      (c.pool[0]? = some (.done (.ok ())) → c.world.alive = []) := by
  have pool := Reach.safe (UserStop.initially host name force ticks runs) UserStop.hostKeeps reached
  refine ⟨fun pid member => ?_, pool.of_ended⟩
  rcases pool.inv.stored with same | ⟨-, none⟩
  · rw [same]
    exact ⟨runs.running, (pool.inv.only pid member).symm⟩
  · rw [none] at member
    cases member

/-- A tick, the stop, and another tick. -/
theorem user_stop_between_ticks :
    ∃ c, Reach vmHost ticksSeeLive (stopAgainstTicks linuxHost "vm" false 2 daemonVM) c ∧
      c.world.state.desiredState = .stopped ∧
      (∀ pid ∈ c.world.alive, c.world.state.running ∧ c.world.state.pid = pid) ∧
      (c.pool[0]? = some (.done (.ok ())) → c.world.alive = []) := by
  refine Reach.exists_of_runs
    (replicate 3 (.run 1 {}) ++ replicate 7 (.run 0 {}) ++ replicate 6 (.run 2 {}))
    (fun c => c.world.state.desiredState = .stopped) (by decide) ?_
  exact fun c reached stopped => ⟨stopped,
    user_stop_not_undone linuxHost "vm" false 2 daemonVM daemonVM_runs reached⟩

/-- The stop reads the record and asks the guest to go; the process exits; a tick
finds it dead and starts the VM again; the stop saves its record over the new
one and returns success. The new process is alive, and the store does not know. -/
theorem user_stop_undone_by_tick : RunsUnderDaemon daemonVM ∧ ∃ c, Reach vmHost (.none _)
        (stopAgainstTicks linuxHost "vm" false 1 daemonVM) c ∧
      2 ∈ c.world.alive ∧ c.world.state.running = false :=
  ⟨daemonVM_runs, Reach.of_runs _ _ _ (replicate 2 (.run 0 {}) ++ [.env (.exit 1)] ++
    replicate 12 (.run 1 {}) ++ replicate 4 (.run 0 {})) _ (by decide)⟩

end Vee
