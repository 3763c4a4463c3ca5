import Mathlib.Logic.Function.Basic
import Vee.VM.Outline
import Vee.VM.Session

/-!
# Every running process is recorded

`Start`, `List` and the stops of several vee processes work on one record without a lock. Two
`Start`s that both find nothing running both spawn; a `List` or a stop that decides on an old
record hides a process that was started since; a foreground `Start` that is cancelled writes
`Running=false` over a process that lives on. What is lost in all of these is an update.
-/

namespace Vee

open List Function

/-- The operations of the interleavings: `Start`, `List` and the stops. -/
def Operation.managesRun : Operation → Bool
  | .start _ _ | .stop | .forceStop | .list => true
  | .guestPoweroff | .tick => false

def Call.spawns : Call → Bool
  | .spawn _ => true
  | _ => false

/-- The record that each program has read or saved last, and who has spawned a
process that is not recorded yet. -/
structure RunHistory where
  seen : Nat → VMState := fun _ => {}
  owner : Nat → Option Nat := fun _ => none

def RunHistory.log (i : Nat) (op : Call) (answer : op.Res) (_ : World) (h : RunHistory) :
    RunHistory :=
  match op, answer with
  | .loadState, .ok s => { h with seen := Function.update h.seen i s }
  | .saveState s, .ok _ =>
    { seen := Function.update h.seen i s
      owner := if s.running then Function.update h.owner s.pid none else h.owner }
  | .spawn _, .ok result => { h with owner := Function.update h.owner result.pid (some i) }
  | _, _ => h

/-- The host, with the history of the records and the processes. -/
def runHost : Machine Call Call.Res (World × RunHistory) :=
  vmHost.withHistory RunHistory.log fun _ _ h => h

/-- No update is lost: a save succeeds, and it and a spawn meet the record that the
program knows; no one spawns while a process of another is alive and not
recorded; and a foreground `Start` is cancelled only when its process is gone. -/
def noLostUpdate : Guard runHost where
  run i op ans w :=
    (∀ s ∈ op.saves, ans.error = none ∧ w.1.state = w.2.seen i) ∧
    (op.spawns → w.1.state = w.2.seen i ∧
      ∀ p ∈ w.1.alive, w.2.owner p = none ∨ w.2.owner p = some i) ∧
    (op.selects → ans.flag → (w.2.seen i).pid ∉ w.1.alive)

instance : noLostUpdate.Decides where
  run _ _ _ _ := inferInstanceAs (Decidable (_ ∧ _ ∧ _))
  env _ _ := isTrue trivial

/-- The store records the processes that are alive, and process ids are bounded. -/
structure RecordsProcesses (w : World) : Prop where
  recorded : ∀ p ∈ w.alive, w.state.running ∧ w.state.pid = p
  fresh : ∀ p ∈ w.alive, 0 < p ∧ p < w.nextPid
  known : w.state.running → w.state.pid < w.nextPid
  pids : 0 < w.nextPid

def operationsAtOnce (host : Platform) (name : String) (rounds : Nat) (ops : List Operation)
    (w : World) : Pool (World × RunHistory) :=
  ⟨ops.map (·.prog host name rounds), (w, {})⟩

namespace RunningRecorded

abbrev Observed := World × RunHistory

/-- Each live process is recorded or waits for its record, and there is one at most. -/
structure Inv (n : Nat) (w : Observed) : Prop where
  recorded : ∀ p ∈ w.1.alive, (w.1.state.running ∧ w.1.state.pid = p) ∨ ∃ j, w.2.owner p = some j
  single : ∀ p ∈ w.1.alive, ∀ q ∈ w.1.alive, p = q
  fresh : ∀ p ∈ w.1.alive, 0 < p ∧ p < w.1.nextPid
  known : w.1.state.running → w.1.state.pid < w.1.nextPid
  owned : ∀ p j, w.2.owner p = some j → p < w.1.nextPid ∧ j < n
  pids : 0 < w.1.nextPid

/-- What program `i` may rely on across a step: what it has read is still what it has
read, the processes it has not recorded are still its own, and a process that
was not there is a new one. -/
structure Frame (i : Nat) (w w' : Observed) : Prop where
  pids : w.1.nextPid ≤ w'.1.nextPid
  alive : ∀ p ∈ w'.1.alive, p ∈ w.1.alive ∨ w.1.nextPid ≤ p
  seen : w'.2.seen i = w.2.seen i
  owner : ∀ p, w'.2.owner p = some i ↔ w.2.owner p = some i

def protocol (n : Nat) : Protocol runHost where
  guard := noLostUpdate
  inv := Inv n
  guar j w w' := ∀ k, k ≠ j → Frame k w w'

variable {n i : Nat} {w w' : Observed} {s : VMState} {ans : Answer}

theorem Frame.gone (frame : Frame i w w') {p : Nat} (used : p < w.1.nextPid)
    (gone : p ∉ w.1.alive) : p ∉ w'.1.alive := by
  intro mem
  rcases frame.alive p mem with old | new
  · exact gone old
  · omega

/-- Program `i` has no live process that it has not recorded. -/
structure Clear (i : Nat) (w : Observed) : Prop where
  none : ∀ p ∈ w.1.alive, w.2.owner p ≠ some i
  zero : 0 ∉ w.1.alive

theorem Clear.frame (clear : Clear i w) (inv : Inv n w) (frame : Frame i w w') : Clear i w' := by
  constructor
  · intro p mem owned
    have owned := (frame.owner p).mp owned
    rcases frame.alive p mem with old | new
    · exact clear.none p old owned
    · have used := (inv.owned p i owned).1
      omega
  · exact frame.gone inv.pids clear.zero

/-- If the record says Running, its process id is a used one. -/
def Known (s : VMState) (w : Observed) : Prop := s.running → s.pid < w.1.nextPid

def Gone (s : VMState) (w : Observed) : Prop :=
  s.running → s.pid < w.1.nextPid ∧ s.pid ∉ w.1.alive

theorem Known.frame (known : Known s w) (frame : Frame i w w') : Known s w' :=
  fun running => Nat.lt_of_lt_of_le (known running) frame.pids

theorem Gone.frame (gone : Gone s w) (frame : Frame i w w') : Gone s w' := by
  intro running
  obtain ⟨used, dead⟩ := gone running
  exact ⟨Nat.lt_of_lt_of_le used frame.pids, frame.gone used dead⟩

/-- Program `i` has spawned `p`, has not recorded it, and goes by a record whose
process is gone. -/
structure Launched (i p : Nat) (w : Observed) : Prop where
  zero : 0 ∉ w.1.alive
  gone : Gone (w.2.seen i) w
  owner : w.2.owner p = some i
  process : p ≠ 0
  only : ∀ q ∈ w.1.alive, w.2.owner q = some i → q = p

theorem Launched.frame {p : Nat} (launched : Launched i p w) (inv : Inv n w)
    (frame : Frame i w w') : Launched i p w' := by
  refine ⟨frame.gone inv.pids launched.zero, ?_, (frame.owner p).mpr launched.owner,
    launched.process, ?_⟩
  · rw [frame.seen]
    exact launched.gone.frame frame
  · intro q mem owned
    have owned := (frame.owner q).mp owned
    rcases frame.alive q mem with old | new
    · exact launched.only q old owned
    · have used := (inv.owned q i owned).1
      omega

def stageHolds (i : Nat) : Stage → Observed → Prop
  | .entry | .ended | .failed => Clear i
  | .loaded s => fun w => Clear i w ∧ w.2.seen i = s ∧ Known s w
  | .dead s => fun w => Clear i w ∧ w.2.seen i = s ∧ Gone s w
  | .chosen s => fun w => Clear i w ∧ s.running = false ∧ Gone (w.2.seen i) w
  | .prepared _ _ => fun w => Clear i w ∧ Gone (w.2.seen i) w
  | .launched _ _ p => Launched i p
  | .exited _ _ p => fun w => Launched i p w ∧ p ∉ w.1.alive
  | .recorded s => fun w => Clear i w ∧ w.2.seen i = s ∧ s.pid < w.1.nextPid ∧ s.pid ≠ 0
  | .leaving s => fun w => Clear i w ∧ w.2.seen i = s ∧ s.pid < w.1.nextPid ∧ s.pid ∉ w.1.alive

theorem stageHolds_frame {stage : Stage} (holds : stageHolds i stage w) (inv : Inv n w)
    (frame : Frame i w w') : stageHolds i stage w' := by
  cases stage with
  | entry | ended | failed => exact Clear.frame holds inv frame
  | loaded s => exact ⟨holds.1.frame inv frame, frame.seen.trans holds.2.1, holds.2.2.frame frame⟩
  | dead s => exact ⟨holds.1.frame inv frame, frame.seen.trans holds.2.1, holds.2.2.frame frame⟩
  | chosen s =>
    refine ⟨holds.1.frame inv frame, holds.2.1, ?_⟩
    rw [frame.seen]
    exact holds.2.2.frame frame
  | prepared cfg s =>
    refine ⟨holds.1.frame inv frame, ?_⟩
    rw [frame.seen]
    exact holds.2.frame frame
  | launched cfg s p => exact Launched.frame holds inv frame
  | exited cfg s p =>
    exact ⟨holds.1.frame inv frame, frame.gone (inv.owned p i holds.1.owner).1 holds.2⟩
  | recorded s =>
    exact ⟨holds.1.frame inv frame, frame.seen.trans holds.2.1,
      Nat.lt_of_lt_of_le holds.2.2.1 frame.pids, holds.2.2.2⟩
  | leaving s =>
    exact ⟨holds.1.frame inv frame, frame.seen.trans holds.2.1,
      Nat.lt_of_lt_of_le holds.2.2.1 frame.pids, frame.gone holds.2.2.1 holds.2.2.2⟩

variable (stage next : Stage)

theorem stageHolds_stable : (protocol n).Stable i (stageHolds i stage) := by
  intro w w' holds interferes
  obtain ⟨inv, -, ⟨j, other, promised⟩ | ⟨event, -, happened⟩⟩ := interferes
  · exact stageHolds_frame holds inv (promised i other.symm)
  · obtain ⟨occurred, same⟩ := Machine.withHistory_env happened
    obtain ⟨-, -, samePid, shrinks⟩ := HostEvent.occur_frame occurred
    refine stageHolds_frame holds inv ⟨Nat.le_of_eq samePid.symm, ?_, ?_, ?_⟩
    · exact fun p mem => .inl (shrinks p mem)
    · rw [same]
    · intro p
      rw [same]

/-- A step that starts nothing and leaves the record and the owners alone. -/
theorem Inv.keep (inv : Inv n w) (sameState : w'.1.state = w.1.state)
    (samePids : w'.1.nextPid = w.1.nextPid) (shrinks : ∀ p ∈ w'.1.alive, p ∈ w.1.alive)
    (sameOwner : w'.2.owner = w.2.owner) : Inv n w' := by
  constructor
  · intro p mem
    rw [sameState, sameOwner]
    exact inv.recorded p (shrinks p mem)
  · exact fun p first q second => inv.single p (shrinks p first) q (shrinks q second)
  · intro p mem
    rw [samePids]
    exact inv.fresh p (shrinks p mem)
  · rw [sameState, samePids]
    exact inv.known
  · rw [sameOwner, samePids]
    exact inv.owned
  · rw [samePids]
    exact inv.pids

theorem Frame.keep (samePids : w'.1.nextPid = w.1.nextPid)
    (shrinks : ∀ p ∈ w'.1.alive, p ∈ w.1.alive) (sameOwner : w'.2.owner = w.2.owner)
    (sameSeen : w'.2.seen i = w.2.seen i) : Frame i w w' := by
  refine ⟨Nat.le_of_eq samePids.symm, fun p mem => .inl (shrinks p mem), sameSeen, ?_⟩
  intro p
  rw [sameOwner]

theorem Frame.refl (k : Nat) (w : Observed) : Frame k w w :=
  .keep rfl (fun _ => id) rfl rfl

def managing (n i : Nat) : Outline (protocol n) i where
  holds := stageHolds i
  stable := stageHolds_stable
  quiet stage op quiet := by
    refine .logged (stageHolds_stable stage) fun w h ans answer w' inv holds _ ran => ?_
    have unnoted : RunHistory.log i op answer w h = h := by
      cases op with
      | loadState | saveState | spawn => exact quiet.elim
      | _ => rfl
    obtain ⟨cfg, rfl⟩ := quiet.exec ran
    have frames : ∀ k, Frame k (w, h) ({ w with config := cfg }, h) :=
      fun k => .keep rfl (fun _ => id) rfl rfl
    rw [unnoted]
    exact ⟨inv.keep rfl rfl (fun _ => id) rfl, fun k _ => frames k,
      stageHolds_frame holds inv (frames i)⟩

theorem managing_load : (managing n i).Loads := by
  refine .logged (stageHolds_stable .entry) fun w h ans res w' inv clear _ ran => ?_
  obtain ⟨rfl, ⟨rfl, -⟩ | ⟨text, rfl, -⟩⟩ := Call.loadState_exec ran
  · refine ⟨inv.keep rfl rfl (fun _ => id) rfl, fun k other => ?_, ⟨clear.none, clear.zero⟩,
      update_self _ _ _, inv.known⟩
    exact .keep rfl (fun _ => id) rfl (update_of_ne other _ _)
  · exact ⟨inv, fun k _ => .refl k _, clear⟩

theorem managing_probe {stage next : Stage} {p : Nat}
    (gone : ∀ w h, stageHolds i stage (w, h) → p ∉ w.alive → stageHolds i next (w, h)) :
    (managing n i).Probes stage p next :=
  Outline.probe (fun w k _ => .refl k w) (fun _ _ _ => rfl) gone

theorem managing_checks (s : VMState) : (managing n i).Checks s where
  check _ := managing_probe fun _ _ loaded dead =>
    ⟨loaded.1, loaded.2.1, fun running => ⟨loaded.2.2 running, dead⟩⟩
  noProcess none w loaded := by
    refine ⟨loaded.1, loaded.2.1, fun running => ⟨loaded.2.2 running, ?_⟩⟩
    rw [none]
    exact loaded.1.zero

/-- Who knows the stored record, and that its process is gone, knows that every live
process waits for its record. -/
theorem Inv.waiting (inv : Inv n w) (knows : w.1.state = w.2.seen i) (gone : Gone (w.2.seen i) w) :
    ∀ p ∈ w.1.alive, ∃ j, w.2.owner p = some j := by
  intro p mem
  rcases inv.recorded p mem with ⟨running, ours⟩ | waits
  · rw [knows] at running ours
    have dead := (gone running).2
    rw [ours] at dead
    exact absurd mem dead
  · exact waits

/-- A save that says that nothing runs, by a program that knows so. -/
theorem managing_save {before : Observed → Prop} (stable : (protocol n).Stable i before)
    (knows : ∀ w, before w → s.running = false ∧ Clear i w ∧ Gone (w.2.seen i) w) :
    (protocol n).Triple i before (.saveState s)
      fun res w => res = .ok () ∧ Clear i w ∧ w.2.seen i = s := by
  refine .logged stable fun w h ans res w' inv holds allowed ran => ?_
  obtain ⟨idle, clear, gone⟩ := knows _ holds
  obtain ⟨succeeds, current⟩ := allowed.1 s rfl
  have waiting := inv.waiting current gone
  obtain ⟨rfl, -, rfl⟩ | ⟨text, -, failed, -⟩ := Call.saveState_exec ran
  · simp only [RunHistory.log, idle, Bool.false_eq_true, if_false]
    refine ⟨⟨fun p mem => .inr (waiting p mem), inv.single, inv.fresh, ?_, inv.owned,
      inv.pids⟩, ?_, trivial, ⟨clear.none, clear.zero⟩, update_self _ _ _⟩
    · exact fun running => absurd (idle.symm.trans running) Bool.false_ne_true
    · exact fun k other => .keep rfl (fun _ => id) rfl (update_of_ne other _ _)
  · rw [succeeds] at failed
    cases failed

/-- The record of process `p` has been saved, and nothing else has happened. -/
structure Recorded (i : Nat) (s : VMState) (w w' : Observed) : Prop where
  world : w'.1 = { w.1 with state := s }
  owner : w'.2.owner = Function.update w.2.owner s.pid none
  seen : w'.2.seen = Function.update w.2.seen i s

namespace Recorded

variable {s : VMState}

section

variable (recorded : Recorded i s w w')

include recorded

theorem owned {p j : Nat} (owned : w'.2.owner p = some j) : p ≠ s.pid ∧ w.2.owner p = some j := by
  rw [recorded.owner] at owned
  by_cases same : p = s.pid
  · rw [same, update_self] at owned
    cases owned
  · rw [update_of_ne same] at owned
    exact ⟨same, owned⟩

theorem inv (running : s.running = true) (launched : Launched i s.pid w)
    (knows : w.1.state = w.2.seen i) (inv : Inv n w) : Inv n w' := by
  have waiting := inv.waiting knows launched.gone
  refine ⟨?_, ?_, ?_, ?_, ?_, ?_⟩ <;> rw [recorded.world]
  · intro p mem
    by_cases same : p = s.pid
    · exact .inl ⟨running, same.symm⟩
    · rw [recorded.owner, update_of_ne same]
      exact .inr (waiting p mem)
  · exact inv.single
  · exact inv.fresh
  · exact fun _ => (inv.owned s.pid i launched.owner).1
  · exact fun p j owned => inv.owned p j (recorded.owned owned).2
  · exact inv.pids

theorem frame (launched : Launched i s.pid w) {k : Nat} (other : k ≠ i) : Frame k w w' := by
  refine ⟨Nat.le_of_eq (by rw [recorded.world]), by rw [recorded.world]; exact fun _ => .inl,
    ?_, ?_⟩
  · rw [recorded.seen, update_of_ne other]
  · intro p
    refine ⟨fun owned => (recorded.owned owned).2, fun owned => ?_⟩
    have different : p ≠ s.pid := by
      intro same
      rw [same, launched.owner] at owned
      exact other (Option.some.inj owned).symm
    rw [recorded.owner, update_of_ne different]
    exact owned

theorem clear (launched : Launched i s.pid w) : Clear i w' := by
  constructor
  · intro p mem owned
    rw [recorded.world] at mem
    obtain ⟨different, owned⟩ := recorded.owned owned
    exact different (launched.only p mem owned)
  · rw [recorded.world]
    exact launched.zero

end

end Recorded

/-- The save of the record of a process that program `i` has spawned. -/
theorem managing_record {cfg : VMConfig} {s₀ : VMState} (running : s.running = true) :
    (managing n i).Saves (.launched cfg s₀ s.pid) s (.recorded s) := by
  refine .logged (stageHolds_stable (.launched cfg s₀ s.pid))
    fun w h ans res w' inv launched allowed ran => ?_
  obtain ⟨succeeds, knows⟩ := allowed.1 s rfl
  obtain ⟨rfl, -, rfl⟩ | ⟨text, -, failed, -⟩ := Call.saveState_exec ran
  · have recorded : Recorded i s (w, h)
        ({ w with state := s }, RunHistory.log i (.saveState s) (.ok ()) w h) :=
      ⟨rfl, by simp [RunHistory.log, running], rfl⟩
    exact ⟨recorded.inv running launched knows inv, fun _ => recorded.frame launched,
      recorded.clear launched, update_self _ _ _, (inv.owned s.pid i launched.owner).1,
      launched.process⟩
  · rw [succeeds] at failed
    cases failed

/-- Program `i` has spawned process `p` when nothing was running. -/
structure Spawned (i p : Nat) (w w' : Observed) : Prop where
  later : w.1.nextPid ≤ p
  alive : ∀ q ∈ w'.1.alive, q = p
  nextPid : w'.1.nextPid = p + 1
  state : w'.1.state = w.1.state
  owner : w'.2.owner = Function.update w.2.owner p (some i)
  seen : w'.2.seen = w.2.seen

namespace Spawned

variable {p : Nat}

section

variable (spawned : Spawned i p w w')

include spawned

theorem ours : w'.2.owner p = some i := by
  rw [spawned.owner, update_self]

theorem owner_ne {q : Nat} (different : q ≠ p) : w'.2.owner q = w.2.owner q := by
  rw [spawned.owner, update_of_ne different]

theorem inv (bound : i < n) (inv : Inv n w) : Inv n w' := by
  have ⟨later, alive', nextPid', state', _, _⟩ := spawned
  have positive := inv.pids
  refine ⟨?_, ?_, ?_, ?_, ?_, ?_⟩
  · intro q mem
    rw [alive' q mem]
    exact .inr ⟨i, spawned.ours⟩
  · intro q first r second
    rw [alive' q first, alive' r second]
  · intro q mem
    rw [alive' q mem, nextPid']
    omega
  · intro running
    rw [state'] at running ⊢
    have used := inv.known running
    omega
  · intro q j owned
    by_cases same : q = p
    · rw [same, spawned.ours] at owned
      cases owned
      omega
    · rw [spawned.owner_ne same] at owned
      have used := inv.owned q j owned
      omega
  · omega

theorem frame (inv : Inv n w) {k : Nat} (other : k ≠ i) : Frame k w w' := by
  have ⟨later, alive', nextPid', _, _, seen'⟩ := spawned
  refine ⟨by omega, fun q mem => .inr ?_, by rw [seen'], fun q => ?_⟩
  · rw [alive' q mem]
    exact later
  · by_cases same : q = p
    · rw [same, spawned.ours]
      constructor
      · intro owned
        exact absurd (Option.some.inj owned).symm other
      · intro owned
        have used := (inv.owned p k owned).1
        omega
    · rw [spawned.owner_ne same]

theorem launched (inv : Inv n w) (gone : Gone (w.2.seen i) w) : Launched i p w' := by
  have ⟨later, alive', nextPid', _, _, seen'⟩ := spawned
  have positive := inv.pids
  refine ⟨?_, ?_, spawned.ours, ?_, fun q mem _ => alive' q mem⟩
  · intro mem
    have zero := alive' 0 mem
    omega
  · intro running
    rw [seen'] at running ⊢
    have used := (gone running).1
    refine ⟨by omega, fun mem => ?_⟩
    have same := alive' _ mem
    omega
  · omega

end

end Spawned

theorem managing_spawn (cfg cfg' : VMConfig) (s : VMState) (bound : i < n)
    (knows : ∀ w, stageHolds i stage w → Clear i w ∧ Gone (w.2.seen i) w) :
    (managing n i).Spawns stage cfg s cfg' := by
  refine .logged (stageHolds_stable stage) fun w h ans res w' inv holds allowed ran => ?_
  obtain ⟨clear, gone⟩ := knows _ holds
  obtain ⟨current, free⟩ := allowed.2.1 rfl
  have nothing : ∀ p, p ∉ w.alive := by
    intro p mem
    obtain ⟨j, waits⟩ := inv.waiting current gone p mem
    rcases free p mem with recorded | ours
    · rw [recorded] at waits
      cases waits
    · exact clear.none p mem ours
  simp only [vmHost, Call.exec] at ran
  split at ran <;> cases ran
  · exact ⟨inv, fun k _ => .refl k _, clear⟩
  · have spawned : Spawned i (w.nextPid + ans.num) (w, h) (w.spawned cfg' (w.nextPid + ans.num),
        { h with owner := update h.owner (w.nextPid + ans.num) (some i) }) := by
      refine ⟨Nat.le_add_right _ _, fun q mem => ?_, rfl, rfl, rfl, rfl⟩
      exact (mem_cons.mp mem).resolve_right (nothing q)
    exact ⟨spawned.inv bound inv, fun _ => spawned.frame inv, spawned.launched inv gone⟩

theorem Launched.clear {p : Nat} (launched : Launched i p w) (dead : p ∉ w.1.alive) :
    Clear i w := by
  refine ⟨?_, launched.zero⟩
  intro q mem owned
  rw [launched.only q mem owned] at mem
  exact dead mem

theorem managing_idle (idle : s.running = false)
    (knows : ∀ w, stageHolds i stage w → Clear i w ∧ Gone (w.2.seen i) w)
    (leads : ∀ w, Clear i w → w.2.seen i = s → stageHolds i next w) :
    (protocol n).Triple i ((managing n i).holds stage) (.saveState s)
      fun res w => res = .ok () ∧ (managing n i).holds next w :=
  (managing_save (stageHolds_stable stage) fun w holds => ⟨idle, knows w holds⟩).weaken
    fun _ w after => ⟨after.1, leads w after.2.1 after.2.2⟩

/-- A save whose failure ends the operation. -/
theorem managing_idle_answered (idle : s.running = false)
    (knows : ∀ w, stageHolds i stage w → Clear i w ∧ Gone (w.2.seen i) w)
    (leads : ∀ w, Clear i w → w.2.seen i = s → stageHolds i next w) :
    (managing n i).Saves stage s next :=
  (managing_idle stage next idle knows leads).weaken fun res w after => by
    obtain ⟨rfl, holds⟩ := after
    exact holds

theorem dead_knows (w : Observed) (dead : stageHolds i (.dead s) w) :
    Clear i w ∧ Gone (w.2.seen i) w := by
  refine ⟨dead.1, ?_⟩
  rw [dead.2.1]
  exact dead.2.2

theorem managing_cleans (s : VMState) : (managing n i).Cleans s .ended :=
  fun _ => (managing_idle (.dead s) .ended rfl dead_knows fun _ clear _ => clear).weaken
    fun _ _ after => after.2

theorem managing_stops (reason : ShutdownReason) : (managing n i).Stops reason where
  load := managing_load
  idle _ _ _ loaded := loaded.1
  checks s _ _ := managing_checks s
  kill s _ _ := by
    refine .logged (stageHolds_stable (.loaded s)) fun w h ans res w' inv loaded _ ran => ?_
    cases ran
    have fewer : ∀ p ∈ (w.exit s.pid).alive, p ∈ w.alive := fun _ mem => (mem_filter.mp mem).1
    have frames : ∀ k, Frame k (w, h) (w.exit s.pid, h) := fun k => .keep rfl fewer rfl rfl
    have loaded : stageHolds i (.loaded s) (w.exit s.pid, h) :=
      stageHolds_frame loaded inv (frames i)
    refine ⟨inv.keep rfl rfl fewer rfl, fun k _ => frames k,
      loaded.1, loaded.2.1, fun running => ⟨loaded.2.2 running, fun mem => ?_⟩⟩
    simpa using (mem_filter.mp mem).2
  save s _ _ := managing_idle_answered (.dead s) .ended rfl dead_knows fun _ clear _ => clear

theorem managing_lists : (managing n i).Lists where
  load := managing_load
  checks s _ := managing_checks s
  cleans s _ := managing_cleans s
  read _ _ loaded := loaded.1
  missed _ := Iff.rfl
  idle _ := Iff.rfl

theorem gone_of_idle (idle : s.running = false) (w : Observed) : Gone s w := by
  intro running
  rw [idle] at running
  cases running

theorem managing_chosen (s saved : VMState) (same : saved.running = s.running) :
    (managing n i).Saves (.chosen s) saved (.chosen saved) := by
  by_cases idle : saved.running = false
  · exact managing_idle_answered (.chosen s) (.chosen saved) idle (fun _ chosen =>
      ⟨chosen.1, chosen.2.2⟩) fun w clear seen => ⟨clear, idle, seen ▸ gone_of_idle idle w⟩
  · refine ⟨stageHolds_stable (.chosen s), fun _ _ _ _ _ chosen => ?_⟩
    exact absurd (same.trans chosen.2.1) idle

theorem managing_build (cfg : VMConfig) (recovery : Bool)
    (fails : ∀ w, stageHolds i stage w → Clear i w) :
    (protocol n).Triple i ((managing n i).holds stage) (.buildBackendMachine cfg recovery)
      (Outcome (fun built w => built.1.disks = cfg.disks ∧ (managing n i).holds stage w)
        ((managing n i).holds .failed)) := by
  refine .logged (stageHolds_stable stage) fun w h ans res w' inv holds _ ran => ?_
  simp only [vmHost, Call.exec, Answer.orFail] at ran
  split at ran <;> cases ran
  · exact ⟨inv, fun k _ => .refl k _, fails _ holds⟩
  · exact ⟨inv, fun k _ => .refl k _, rfl, holds⟩

theorem managing_starts (bound : i < n) (cfg : VMConfig) : (managing n i).Starts cfg where
  load := managing_load
  fails stage w fallible holds := by
    cases stage with
    | loaded s => exact holds.1
    | chosen s => exact holds.1
    | prepared cfg s => exact holds.1
    | exited cfg s p => exact holds.1.clear holds.2
    | _ => cases fallible
  checks s _ := managing_checks s
  cleans s _ _ := (managing_idle (.dead s) (.chosen {}) rfl dead_knows fun w clear seen => by
    refine ⟨clear, rfl, ?_⟩
    rw [seen]
    exact gone_of_idle rfl w).weaken fun _ _ after => after.2
  idle s w idle loaded := by
    refine ⟨loaded.1, idle, ?_⟩
    rw [loaded.2.1]
    exact gone_of_idle idle w
  skip s _ _ _ := managing_chosen s _ rfl
  pend s _ _ _ := managing_chosen s _ rfl
  prepare _ _ _ _ chosen := ⟨chosen.1, chosen.2.2⟩
  build cfg s cfg' recovery _ :=
    managing_build (.prepared cfg s) cfg' recovery fun _ prepared => prepared.1
  rebuild cfg s p cfg' recovery _ := (managing_build (.exited cfg s p) cfg' recovery fun _ exited =>
      exited.1.clear exited.2).weaken fun res w after => by
      cases res with
      | ok built => exact after.2
      | error text => exact after
  spawn cfg s cfg' := managing_spawn (.prepared cfg s) cfg cfg' s bound fun _ => id
  respawn cfg s p cfg' := managing_spawn (.exited cfg s p) cfg cfg' s bound fun _ exited =>
    ⟨exited.1.clear exited.2, exited.1.gone⟩
  finds cfg s p :=
    { check := fun _ => managing_probe fun _ _ launched dead => ⟨launched, dead⟩
      noProcess := fun none _ launched => absurd none (Launched.process launched) }
  exited _ _ _ _ exited := exited.1
  record host cfg cfg' s result startedAt helpers :=
    managing_record (s := runningState host cfg' s result startedAt helpers) rfl

theorem managing_blocks : (managing n i).Blocks where
  fails _ ended := ended
  select s := by
    refine .logged (stageHolds_stable (.recorded s))
      fun w h ans res w' inv recorded allowed ran => ?_
    obtain ⟨chosen, rfl⟩ := Prod.mk.inj (Option.some.inj ran)
    refine ⟨inv, fun k _ => .refl k _, ?_⟩
    cases res with
    | false => exact recorded
    | true =>
      have dead := allowed.2.2 rfl chosen
      rw [recorded.2.1] at dead
      exact ⟨recorded.1, recorded.2.1, recorded.2.2.1, dead⟩
  finds s :=
    { check := fun _ => managing_probe fun _ _ recorded dead =>
        ⟨recorded.1, recorded.2.1, recorded.2.2.1, dead⟩
      noProcess := fun none _ recorded => absurd none recorded.2.2.2 }
  never s := .logged (stageHolds_stable (.recorded s)) fun _ _ _ _ _ _ _ _ ran => by cases ran
  writeBack s := (managing_idle (.leaving s) .ended rfl (fun w leaving => by
    refine ⟨leaving.1, ?_⟩
    rw [leaving.2.1]
    exact fun _ => leaving.2.2) fun _ clear _ => clear).weaken fun _ _ after => after.2

theorem operation_safe (bound : i < n) (host : Platform) (name : String) (rounds : Nat)
    {op : Operation} (manages : op.managesRun) (clear : Clear i w) :
    (managing n i).Runs (op.prog host name rounds) w := by
  have entry : (managing n i).holds .entry w := clear
  cases op with
  | start foreground recovery =>
    refine Outline.tryQuietly loadConfig_quiet entry (fun _ => id) fun cfg w _ entry => ?_
    have starts := managing_starts bound cfg
    cases foreground with
    | true => exact Outline.Blocks.foreground_safe starts managing_blocks entry
    | false => exact starts.detached_safe (fun _ _ recorded => recorded.1) entry
  | stop => exact (managing_stops .user).stop_safe name entry
  | forceStop => exact (managing_stops .user).forceStop_safe name entry
  | list =>
    refine (managing_lists.list_safe entry).bind (fun _ _ => id) fun _ w ended => ?_
    exact Outline.finish _ ended
  | guestPoweroff | tick => cases manages

theorem initially (host : Platform) (name : String) (rounds : Nat) {ops : List Operation}
    (manage : ∀ op ∈ ops, op.managesRun) {w : World} (records : RecordsProcesses w) :
    SafePool (protocol ops.length) (fun i => (managing ops.length i).post)
      (operationsAtOnce host name rounds ops w) := by
  refine ⟨⟨fun p mem => .inl (records.recorded p mem), ?_, records.fresh, records.known,
    fun p j owned => (nomatch owned), records.pids⟩, ?_⟩
  · intro p first q second
    exact (records.recorded p first).2.symm.trans (records.recorded q second).2
  · intro i p found
    have found : (ops.map (·.prog host name rounds))[i]? = some p := found
    rw [getElem?_map] at found
    obtain ⟨op, here, rfl⟩ := Option.map_eq_some_iff.mp found
    obtain ⟨bound, -⟩ := List.getElem?_eq_some_iff.mp here
    refine operation_safe bound host name rounds (manage op (mem_of_getElem? here)) ⟨?_, ?_⟩
    · exact fun p _ owned => (nomatch owned)
    · intro mem
      have positive := (records.fresh 0 mem).1
      omega

theorem hostKeeps : (protocol n).HostKeeps := by
  intro event w w' inv _ happened
  obtain ⟨occurred, same⟩ := Machine.withHistory_env happened
  obtain ⟨sameState, -, samePid, shrinks⟩ := HostEvent.occur_frame occurred
  exact inv.keep sameState samePid shrinks (by rw [same])

end RunningRecorded

/-- If no update is lost, then in every state where all operations have finished each
live process is recorded, and there is at most one. -/
theorem running_process_recorded (host : Platform) (name : String) (rounds : Nat)
    (ops : List Operation) (manage : ∀ op ∈ ops, op.managesRun) (w : World)
    (records : RecordsProcesses w) {c : Pool (World × RunHistory)}
    (reached : Reach runHost noLostUpdate (operationsAtOnce host name rounds ops w) c)
    (finished : c.Finished) :
    (∀ p ∈ c.world.1.alive, c.world.1.state.running ∧ c.world.1.state.pid = p) ∧
      ∀ p ∈ c.world.1.alive, ∀ q ∈ c.world.1.alive, p = q := by
  have pool := Reach.safe (RunningRecorded.initially host name rounds manage records)
    RunningRecorded.hostKeeps reached
  have inv : RunningRecorded.Inv ops.length c.world := pool.inv
  refine ⟨fun p member => ?_, inv.single⟩
  rcases inv.recorded p member with recorded | ⟨j, owned⟩
  · exact recorded
  have size : c.pool.length = ops.length := by
    rw [reached.pool_length]
    exact length_map _
  have bound : j < c.pool.length := by
    rw [size]
    exact (inv.owned p j owned).2
  obtain ⟨result, ended⟩ := pool.posts finished j bound
  have clear : RunningRecorded.Clear j c.world := by
    cases result with
    | ok value => exact ended
    | error text => exact ended
  exact absurd owned (clear.none p member)

def freshVM : World where
  config := { name := "vm" }
  state := {}

theorem freshVM_records : RecordsProcesses freshVM :=
  ⟨fun _ mem => (nomatch mem), fun _ mem => (nomatch mem),
    fun running => (nomatch running), by decide⟩

/-- A `Start` beside a `List` that comes in the middle of it. -/
theorem start_beside_list_recorded : ∃ c, Reach runHost noLostUpdate
        (operationsAtOnce linuxHost "vm" 0 [.start false false, .list] freshVM) c ∧
      c.Finished ∧ c.world.1.alive = [1] ∧
      (∀ p ∈ c.world.1.alive, c.world.1.state.running ∧ c.world.1.state.pid = p) ∧
      ∀ p ∈ c.world.1.alive, ∀ q ∈ c.world.1.alive, p = q := by
  refine Reach.exists_of_runs
    (replicate 5 (.run 0 {}) ++ replicate 2 (.run 1 {}) ++ replicate 2 (.run 0 {}))
    (fun c => c.Finished ∧ c.world.1.alive = [1]) (by decide) ?_
  rintro c reached ⟨finished, alive⟩
  exact ⟨finished, alive, running_process_recorded linuxHost "vm" 0 [.start false false, .list]
    (by decide) freshVM freshVM_records reached finished⟩

/-- Two `Start`s that both find nothing running: two processes, one record. -/
theorem two_starts_both_spawn : RecordsProcesses freshVM ∧ ∃ c, Reach runHost (.none _)
        (operationsAtOnce linuxHost "vm" 0 [.start false false, .start false false] freshVM) c ∧
      c.Finished ∧ c.world.1.alive = [2, 1] :=
  ⟨freshVM_records, Reach.of_runs _ _ _ (replicate 2 (.run 0 {}) ++ replicate 2 (.run 1 {}) ++
    replicate 5 (.run 0 {}) ++ replicate 5 (.run 1 {})) _ (by decide)⟩

end Vee
