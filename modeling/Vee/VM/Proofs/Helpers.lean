import Vee.VM.Helpers
import Vee.VM.Quiet

/-!
# The helpers of a start

A start does not terminate the virtiofsd processes that its build has spawned, so none is lost
exactly when the record that names them is saved.
-/

namespace Vee

open List

open Prog (mayThrow)

/-! ### What one call does to the helpers -/

variable {op : BuildOp} {ans : BuildAnswer} {w w' : World × Helpers} {pids : List Nat}
  {foreground : Bool} {host : HelperHost}

theorem buildMachines_exec {answer : op.Res}
    (executed : buildMachines.exec 0 op ans w = some (answer, w')) :
    ∃ world, op.exec ans.toAnswer (w.1.lose ans.gone) = some (answer, world) ∧
      w' = (world, { w.2.note op answer with exited := w.2.exited ++ ans.exits }) := by
  obtain ⟨⟨result, world⟩, ran, same⟩ := Option.map_eq_some_iff.mp executed
  cases same
  exact ⟨world, ran, rfl⟩

abbrev Builds {α : Type} : (World × Helpers → Prop) → Prog BuildOp BuildOp.Res α →
    (Except String α → World × Helpers → Prop) → Prop := Meets buildMachines

namespace Helpers

variable {h : Helpers}

variable {P : Helpers → Prop}

theorem after_rule (same : P h) (fails : P h.fail) {α : Type} (answer : Except String α) :
    P (h.after answer) := by
  cases answer with
  | ok value => exact same
  | error text => exact fails

/-- A call of the manager changes nothing, or it fails, saves a record or signals a helper. -/
theorem noteCall_rule (same : P h) (fails : P h.fail) (saves : P { h with saved := true })
    (signals : ∀ pid, P (h.signal pid)) (op : Call) (answer : op.Res) :
    P (h.noteCall op answer) := by
  unfold noteCall
  split
  · exact after_rule same fails _
  · exact after_rule same fails _
  · exact saves
  · exact fails
  · exact signals _
  · exact signals _
  · exact same

theorem noteCall_idle (none : h.spawned = []) (op : Call) (answer : op.Res) :
    (h.noteCall op answer).spawned = [] ∧ (h.noteCall op answer).terminated = h.terminated ∧
      (h.noteCall op answer).interrupted = h.interrupted := by
  refine noteCall_rule (P := fun g => g.spawned = [] ∧ g.terminated = h.terminated ∧
    g.interrupted = h.interrupted) ⟨none, rfl, rfl⟩ ⟨none, rfl, ?_⟩ ⟨none, rfl, rfl⟩ ?_ op answer
  · simp [fail, none]
  · intro pid
    simp [signal, none]

theorem noteCall_saved (saved : h.saved = true) (op : Call) (answer : op.Res) :
    (h.noteCall op answer).spawned = h.spawned ∧ (h.noteCall op answer).saved = true ∧
      (h.noteCall op answer).interrupted = h.interrupted := by
  refine noteCall_rule (P := fun g => g.spawned = h.spawned ∧ g.saved = true ∧
    g.interrupted = h.interrupted) ⟨rfl, saved, rfl⟩ ⟨rfl, saved, ?_⟩ ⟨rfl, rfl, rfl⟩ ?_ op answer
  · simp [fail, saved]
  · intro pid
    unfold signal
    split <;> exact ⟨rfl, saved, rfl⟩

end Helpers

def BuildOp.saves : BuildOp → Option VMState
  | .vm op => op.saves
  | _ => none

/-- Only a save changes the record, and process ids only grow. -/
theorem BuildOp.exec_frame {ans : Answer} {answer : op.Res} {w w' : World}
    (noSave : op.saves = none) (ran : op.exec ans w = some (answer, w')) :
    w'.state = w.state ∧ w.nextPid ≤ w'.nextPid := by
  cases op with
  | vm op => exact Call.exec_frame noSave ran
  | startVirtiofsd mount =>
    simp only [BuildOp.exec] at ran
    split at ran <;> cases ran
    · exact ⟨rfl, Nat.le_refl _⟩
    · refine ⟨rfl, ?_⟩
      change w.nextPid ≤ w.nextPid + ans.num + 1
      omega
  | _ => cases ran; exact ⟨rfl, Nat.le_refl _⟩

/-! ### The stages of a start -/

/-- The start has no helpers yet, and process ids on record are old ones: those of the stored
record, and those of a record that was read. -/
structure Idle (read : List Nat) (w : World × Helpers) : Prop where
  none : w.2.spawned = []
  unsignalled : w.2.terminated = []
  smooth : w.2.interrupted = false
  stored_old : ∀ pid ∈ w.1.state.virtiofsdPIDs, pid < w.1.nextPid
  read_old : ∀ pid ∈ read, pid < w.1.nextPid

/-- The start has these helpers, and no record names them. -/
structure Holding (pids : List Nat) (w : World × Helpers) : Prop where
  spawned : w.2.spawned = pids
  unsignalled : w.2.terminated = []
  smooth : w.2.interrupted = false
  unsaved : pids ≠ [] → w.2.saved = false
  stored_old : ∀ pid ∈ w.1.state.virtiofsdPIDs, pid < w.1.nextPid
  unrecorded : ∀ pid ∈ pids, pid ∉ w.1.state.virtiofsdPIDs

structure Unrecorded (w : World × Helpers) : Prop where
  unsignalled : w.2.terminated = []
  unrecorded : ∀ pid ∈ w.2.spawned, pid ∉ w.1.state.virtiofsdPIDs

/-- The start has failed with its helpers in no record. -/
structure Dropped (w : World × Helpers) : Prop extends Unrecorded w where
  interrupted : w.2.spawned ≠ [] → w.2.interrupted = true

structure Recorded (w : World × Helpers) : Prop where
  recorded : ∀ pid ∈ w.2.spawned, pid ∈ w.1.state.virtiofsdPIDs
  saved : w.2.saved = true
  smooth : w.2.interrupted = false

def Verdict (foreground : Bool) (w : World × Helpers) : Prop :=
  w.2.Kept w.1.state ↔
    (∀ pid ∈ w.2.spawned, pid ∈ w.2.exited) ∨ foreground = false ∧ w.2.interrupted = false

/-- After a fallible step the helpers are still held, or dropped. -/
def HeldOr {α : Type} (pids : List Nat) : Except String α → World × Helpers → Prop
  | .ok _ => Holding pids
  | .error _ => Dropped

theorem Idle.holding {read : List Nat} (idle : Idle read w) : Holding [] w where
  spawned := idle.none
  unsignalled := idle.unsignalled
  smooth := idle.smooth
  unsaved := fun impossible => absurd rfl impossible
  stored_old := idle.stored_old
  unrecorded := fun _ impossible => absurd impossible not_mem_nil

theorem Holding.idle (holding : Holding [] w) : Idle [] w where
  none := holding.spawned
  unsignalled := holding.unsignalled
  smooth := holding.smooth
  stored_old := holding.stored_old
  read_old := fun _ impossible => absurd impossible not_mem_nil

theorem Holding.recordless (holding : Holding pids w) : Unrecorded w where
  unsignalled := holding.unsignalled
  unrecorded := by rw [holding.spawned]; exact holding.unrecorded

theorem Holding.dropped (holding : Holding [] w) : Dropped w where
  toUnrecorded := holding.recordless
  interrupted := fun some => absurd holding.spawned some

/-- Without a record, only the helpers that exit by themselves are not lost. -/
theorem Unrecorded.verdict (unrecorded : Unrecorded w)
    (broken : w.2.spawned ≠ [] → foreground = true ∨ w.2.interrupted = true) :
    Verdict foreground w := by
  constructor
  · intro kept
    refine .inl fun pid mem => ?_
    rcases kept pid mem with exited | signalled | recorded
    · exact exited
    · rw [unrecorded.unsignalled] at signalled
      exact absurd signalled not_mem_nil
    · exact absurd recorded (unrecorded.unrecorded pid mem)
  · rintro (exited | ⟨detached, smooth⟩) pid mem
    · exact .inl (exited pid mem)
    · rcases broken (ne_nil_of_mem mem) with fore | failed
      · rw [detached] at fore; cases fore
      · rw [smooth] at failed; cases failed

theorem Dropped.verdict (dropped : Dropped w) : Verdict foreground w :=
  dropped.toUnrecorded.verdict fun some => .inr (dropped.interrupted some)

theorem Recorded.verdict (recorded : Recorded w) : Verdict false w :=
  ⟨fun _ => .inr ⟨rfl, recorded.smooth⟩,
    fun _ pid mem => .inr (.inr (recorded.recorded pid mem))⟩

/-! ### Steps -/

section Steps

variable {op : BuildOp} {ans : BuildAnswer} {answer : op.Res} {w w' : World × Helpers}
  {pids : List Nat}

theorem Holding.keep (holding : Holding pids w) (noSave : op.saves = none)
    (executed : buildMachines.exec 0 op ans w = some (answer, w'))
    (noted : w.2.note op answer = w.2) : Holding pids w' := by
  obtain ⟨world, ran, rfl⟩ := buildMachines_exec executed
  obtain ⟨sameState, grown⟩ := BuildOp.exec_frame noSave ran
  rw [noted]
  refine ⟨holding.spawned, holding.unsignalled, holding.smooth, holding.unsaved, ?_, ?_⟩
  · rw [sameState]
    exact fun pid mem => Nat.lt_of_lt_of_le (holding.stored_old pid mem) grown
  · rw [sameState]
    exact holding.unrecorded

theorem Holding.fails {world : World} {exited : List Nat} (holding : Holding pids w)
    (same : world.state = w.1.state) : Dropped (world, { w.2.fail with exited := exited }) := by
  refine ⟨⟨holding.unsignalled, ?_⟩, fun some => ?_⟩
  · rw [same]
    exact holding.recordless.unrecorded
  · change w.2.spawned ≠ [] at some
    change (w.2.interrupted || (w.2.spawned ≠ [] && !w.2.saved)) = true
    rw [holding.spawned] at some
    simp [holding.spawned, some, holding.unsaved some]

theorem Holding.after (holding : Holding pids w) (noSave : op.saves = none)
    (executed : buildMachines.exec 0 op ans w = some (answer, w')) {α : Type}
    {result : Except String α} (noted : w.2.note op answer = w.2.after result) :
    HeldOr pids result w' := by
  cases result with
  | ok value => exact holding.keep noSave executed noted
  | error text =>
    obtain ⟨world, ran, rfl⟩ := buildMachines_exec executed
    rw [noted]
    exact holding.fails (BuildOp.exec_frame noSave ran).1

end Steps

/-! ### Before the build -/

/-- Calls that save, if anything, a record with some of these helpers. -/
def Call.Calm (pids : List Nat) (op : Call) : Prop :=
  op.Quiet ∨ ∃ state, op = .saveState state ∧ state.virtiofsdPIDs ⊆ pids

theorem Call.Calm.save {state : VMState} (known : state.virtiofsdPIDs ⊆ pids) :
    (Call.saveState state).Calm pids := .inr ⟨state, rfl, known⟩

theorem carryOut_eq {op : Call} (other : ∀ cfg recovery, op ≠ .buildBackendMachine cfg recovery) :
    carryOut host op = request (.vm op) := by
  cases op with
  | buildBackendMachine cfg recovery => exact absurd rfl (other cfg recovery)
  | _ => rfl

theorem Call.Quiet.other {op : Call} (quiet : op.Quiet) (cfg : VMConfig) (recovery : Bool) :
    op ≠ .buildBackendMachine cfg recovery := by
  rintro rfl
  exact quiet

theorem Call.Calm.other {op : Call} (calm : op.Calm pids) (cfg : VMConfig) (recovery : Bool) :
    op ≠ .buildBackendMachine cfg recovery := by
  rcases calm with quiet | ⟨state, rfl, -⟩
  · exact quiet.other cfg recovery
  · exact nofun

theorem Idle.keep {op : Call} {answer : op.Res} (idle : Idle pids w) (calm : op.Calm pids)
    (executed : buildMachines.exec 0 (.vm op) ans w = some (answer, w')) : Idle pids w' := by
  obtain ⟨world, ran, rfl⟩ := buildMachines_exec executed
  obtain ⟨none, unsignalled, smooth⟩ := Helpers.noteCall_idle idle.none op answer
  have old : world.nextPid = w.1.nextPid ∧
      ∀ pid ∈ world.state.virtiofsdPIDs, pid ∈ w.1.state.virtiofsdPIDs ∨ pid ∈ pids := by
    rcases calm with quiet | ⟨state, rfl, known⟩
    · obtain ⟨cfg, rfl⟩ := quiet.exec ran
      exact ⟨rfl, fun _ => .inl⟩
    · rcases Call.saveState_exec ran with ⟨-, -, rfl⟩ | ⟨text, -, -, rfl⟩
      · exact ⟨rfl, fun pid mem => .inr (known mem)⟩
      · exact ⟨rfl, fun _ => .inl⟩
  refine ⟨none, unsignalled.trans idle.unsignalled, smooth.trans idle.smooth, ?_, ?_⟩
  · rw [old.1]
    exact fun pid mem => (old.2 pid mem).elim (idle.stored_old pid) (idle.read_old pid)
  · rw [old.1]
    exact idle.read_old

theorem idle_meets {α : Type} {p : VM α} {ends : Except String α → Prop}
    (does : p.Does (Call.Calm pids) ends) :
    Builds (Idle pids) (p.subst (carryOut host)) fun result w =>
      ends result ∧ Idle pids w := by
  refine Meets.of_does_subst (fun op calm => ?_) does
  rw [carryOut_eq calm.other]
  exact .ask fun _ _ _ _ idle => idle.keep calm

section Prelude

variable {pids : List Nat} {cfg : VMConfig} {state : VMState}

/-- The record that a part of the start goes on with names no other helpers. -/
def Narrows (pids : List Nat) (next : VMConfig × VMState) : Prop := next.2.virtiofsdPIDs ⊆ pids

theorem calm_of_quiet {α : Type} {p : VM α} {ends : Except String α → Prop}
    (does : p.Does Call.Quiet ends) : p.Does (Call.Calm pids) ends :=
  does.mono (fun _ => .inl) fun _ => id

theorem saveState_calm {context : String} (known : state.virtiofsdPIDs ⊆ pids) :
    (saveState context state).Makes (Call.Calm pids) :=
  .bind (.ask (.save known)) fun _ _ => .orThrow

theorem cleanupStaleVM_calm : (cleanupStaleVM state).Completes (Call.Calm pids) := by
  refine .bind (calm_of_quiet (staleResult_quiet state)) fun result _ => ?_
  exact .bind (.ask (.save (nil_subset _))) fun _ _ => trivial

theorem checkNotRunning_calm {name : String} (known : state.virtiofsdPIDs ⊆ pids) :
    (checkNotRunning name cfg state).Does (Call.Calm pids)
      (mayThrow fun next => next.virtiofsdPIDs ⊆ pids) := by
  unfold checkNotRunning
  split
  · refine .bind (calm_of_quiet (isAlive_quiet _)) fun alive _ => ?_
    split
    · exact trivial
    · refine .bind (calm_of_quiet (unregisterHostname_quiet cfg)) fun _ _ => ?_
      exact .bind cleanupStaleVM_calm fun _ _ => nil_subset _
  · exact known

theorem skipInstall_calm (known : state.virtiofsdPIDs ⊆ pids) :
    (skipInstall cfg state).Does (Call.Calm pids) (mayThrow (Narrows pids)) := by
  unfold skipInstall
  split
  · refine .bind (calm_of_quiet (deleteScratchDisks_quiet cfg)) fun _ _ => ?_
    refine .bind_throw (calm_of_quiet (saveConfig_quiet _ _)) fun _ _ => ?_
    refine .bind (.ask (.inl trivial)) fun now _ => ?_
    exact .bind_throw (saveState_calm known) fun _ _ => known
  · exact known

theorem installPass_calm (known : state.virtiofsdPIDs ⊆ pids) :
    (installPass cfg state).Does (Call.Calm pids) (mayThrow (Narrows pids)) := by
  unfold installPass
  split
  · split
    · exact .bind_throw (saveState_calm known) fun _ _ => known
    · exact known
  · exact known
  · exact .bind_throw (calm_of_quiet (stripInstaller_quiet cfg)) fun _ _ => known

end Prelude

/-! ### The build -/

section Building

variable {host : HelperHost} {cfg : VMConfig} {pids : List Nat}

theorem ensureVirtiofsd_meets (mounts : List VirtiofsMount) :
    Builds (Holding pids) (ensureVirtiofsd mounts) fun result w =>
      ∃ value, result = .ok value ∧ Holding pids w := by
  unfold ensureVirtiofsd
  split
  · refine .call (fun _ => Holding pids) ?_ fun _ => .done fun _ holding => ⟨(), rfl, holding⟩
    exact fun w ans answer w' holding ran => holding.keep rfl ran rfl
  · exact .done fun _ holding => ⟨(), rfl, holding⟩

/-- After an attempt to start a helper there may be one more. -/
def Joined (pids : List Nat) : Except String Nat → World × Helpers → Prop
  | .ok pid => Holding (pids ++ [pid])
  | .error _ => Holding pids

/-- A helper gets a process id that no record names. -/
theorem startVirtiofsd_step {mount : VirtiofsMount} {answer : Except String Nat}
    (holding : Holding pids w)
    (executed : buildMachines.exec 0 (.startVirtiofsd mount) ans w = some (answer, w')) :
    Joined pids answer w' := by
  cases answer with
  | error text => exact holding.keep rfl executed rfl
  | ok pid =>
    obtain ⟨world, ran, rfl⟩ := buildMachines_exec executed
    obtain ⟨sameState, grown⟩ := BuildOp.exec_frame rfl ran
    have fresh : w.1.nextPid ≤ pid := by
      simp only [BuildOp.exec] at ran
      split at ran <;> cases ran
      exact Nat.le_add_right _ _
    refine ⟨?_, holding.unsignalled, holding.smooth, fun _ => rfl, ?_, ?_⟩
    · change w.2.spawned ++ [pid] = pids ++ [pid]
      rw [holding.spawned]
    · rw [sameState]
      exact fun old mem => Nat.lt_of_lt_of_le (holding.stored_old old mem) grown
    · rw [sameState]
      intro held mem recorded
      rcases mem_append.mp mem with before | new
      · exact holding.unrecorded held before recorded
      · rw [mem_singleton] at new
        have := holding.stored_old held recorded
        omega

/-- The loop over the shares returns exactly the helpers that it has spawned. -/
theorem startVirtiofsds_meets (mounts : List VirtiofsMount) :
    ∀ pids, Builds (Holding pids) (startVirtiofsds mounts pids) fun result w =>
      ∃ all, result = .ok all ∧ Holding all w := by
  induction mounts with
  | nil => exact fun pids => .done fun w holding => ⟨pids, rfl, holding⟩
  | cons mount rest ih =>
    intro pids
    refine .call (Joined pids) (fun w ans answer w' => startVirtiofsd_step) fun answer => ?_
    cases answer with
    | error text => exact ih pids
    | ok pid => exact ih (pids ++ [pid])

theorem startTPM_meets : Builds (Holding pids) (startTPM host cfg) (HeldOr pids) := by
  unfold startTPM
  split
  · refine .call (HeldOr pids) ?_ fun _ => .orThrow fun _ _ => id
    exact fun w ans answer w' holding ran => holding.after rfl ran rfl
  · exact .done fun _ => id

theorem finishMachine_meets : Builds (Holding pids) (finishMachine cfg) (HeldOr pids) := by
  refine .call (fun _ => Holding pids) ?_ fun _ => ?_
  · exact fun w ans answer w' holding ran => holding.keep rfl ran rfl
  · refine .call (HeldOr pids) ?_ fun _ => .orThrow fun _ _ => id
    exact fun w ans answer w' holding ran => holding.after rfl ran rfl

/-- What a build comes to: the helpers that it returns, which only a QEMU machine has. -/
def Built : Except String (VMConfig × List Nat) → World × Helpers → Prop
  | .ok built => fun w => (built.2 ≠ [] → built.1.backendName = .qemu) ∧ Holding built.2 w
  | .error _ => Dropped

/-- What a build assigns in the config does not change its backend. -/
theorem prepareMachine_step {answer : Except String VMConfig}
    (executed : buildMachines.exec 0 (.prepareMachine cfg) ans w = some (answer, w')) :
    ∀ built, answer = .ok built → built.backendName = cfg.backendName := by
  rintro built rfl
  obtain ⟨world, ran, rfl⟩ := buildMachines_exec executed
  simp only [BuildOp.exec, Answer.orFail] at ran
  split at ran <;> cases ran
  rfl

theorem serveShares_meets (qemu : cfg.backendName = .qemu) : Builds (Holding []) (do
      ensureVirtiofsd (host.mounts cfg)
      let virtiofsdPIDs ← startVirtiofsds (host.mounts cfg) []
      startTPM host cfg
      finishMachine cfg
      return (cfg, virtiofsdPIDs)) Built := by
  refine .bind_ok (ensureVirtiofsd_meets _) fun _ => ?_
  refine .bind_ok (startVirtiofsds_meets _ []) fun pids => ?_
  refine .bind startTPM_meets (fun _ _ => id) fun _ => ?_
  refine .bind finishMachine_meets (fun _ _ => id) fun _ => ?_
  exact .done fun _ holding => ⟨fun _ => qemu, holding⟩

theorem buildMachine_meets (qemu : cfg.backendName = .qemu) :
    Builds (Holding []) (buildMachine host cfg) Built := by
  refine .call (fun answer w => (∀ built, answer = .ok built →
    built.backendName = cfg.backendName) ∧ Holding [] w) ?_ fun answer => ?_
  · exact fun w ans answer w' holding ran =>
      ⟨prepareMachine_step ran, holding.keep rfl ran rfl⟩
  · refine .given fun same => ?_
    cases answer with
    | error text => exact .done fun _ holding => holding.dropped
    | ok built => exact serveShares_meets ((same built rfl).trans qemu)

theorem buildMachineFor_meets (recovery : Bool) :
    Builds (Holding []) (buildMachineFor host cfg recovery) Built := by
  unfold buildMachineFor
  split
  · rename_i qemu
    exact buildMachine_meets qemu
  · refine .call (fun _ => Holding []) ?_ fun answer => ?_
    · exact fun w ans answer w' holding ran => holding.keep rfl ran rfl
    · cases answer with
      | error text => exact .done fun _ holding => holding.dropped
      | ok built => exact .done fun _ holding => ⟨fun some => absurd rfl some, holding⟩
  · exact .done fun _ holding => holding.dropped

theorem buildBackendMachine_meets {context : String} {recovery : Bool} : Builds (Holding [])
      ((buildBackendMachine context cfg recovery).subst (carryOut host)) Built := by
  refine .bind_ok (buildMachineFor_meets recovery).attempt fun answer => ?_
  cases answer <;> exact .done fun _ => id

end Building

/-! ### From the build to the record -/

section Launching

variable {host : HelperHost} {cfg : VMConfig} {pids : List Nat}

theorem saveConfig_meets {context : String} :
    Builds (Holding pids) ((saveConfig context cfg).subst (carryOut host))
      (HeldOr pids) := by
  refine .call (HeldOr pids) ?_ fun _ => .orThrow fun _ _ => id
  exact fun w ans answer w' holding ran => holding.after rfl ran rfl

/-- A QEMU start goes straight to its spawn, and the other backend has no helpers. -/
theorem beforeSpawn_meets (qemu : pids ≠ [] → cfg.backendName = .qemu) :
    Builds (Holding pids) ((beforeSpawn cfg).subst (carryOut host)) (HeldOr pids) := by
  by_cases none : pids = []
  · subst none
    refine (idle_meets (calm_of_quiet (beforeSpawn_quiet cfg))).weaken
      (fun _ holding => holding.idle) fun result w ⟨_, idle⟩ => ?_
    cases result with
    | ok cfg' => exact idle.holding
    | error text => exact idle.holding.dropped
  · have direct : beforeSpawn cfg = pure cfg := by simp [beforeSpawn, qemu none]
    rw [direct]
    exact .done fun _ => id

theorem startDetached_meets (qemu : pids ≠ [] → cfg.backendName = .qemu) :
    Builds (Holding pids) ((startDetached cfg).subst (carryOut host))
      (HeldOr pids) := by
  refine .subst_bind (beforeSpawn_meets qemu) (fun _ _ => id) fun cfg' => ?_
  refine .call (HeldOr pids) ?_ fun answer => ?_
  · exact fun w ans answer w' holding ran => holding.after rfl ran rfl
  · cases answer <;> exact .done fun _ => id

theorem retryStartWithoutGL_eq (supported : host.supportsVirtiofsd) (recovery : Bool)
    (result : StartResult) :
    retryStartWithoutGL host.toPlatform cfg recovery result = pure result := by
  simp [retryStartWithoutGL, host.linuxOnly supported]

/-- The record of a new process: a foreground start leaves the helpers out. -/
def Launched (foreground : Bool) : Except String (VMConfig × VMState) → World × Helpers → Prop
  | .ok next => fun w => ∃ pids, next.2.virtiofsdPIDs = (if foreground then [] else pids) ∧
      Holding pids w
  | .error _ => Dropped

theorem launch_meets {read : List Nat} {state : VMState} {recovery : Bool}
    (supported : host.supportsVirtiofsd) :
    Builds (Idle read)
      ((launch host.toPlatform cfg state foreground recovery).subst (carryOut host))
      (Launched foreground) := by
  refine .subst_bind (idle_meets (calm_of_quiet (reallocSPICE_quiet cfg)))
    (fun _ _ ended => ended.2.holding.dropped) fun cfg₁ => ?_
  refine .pre (.subst_bind buildBackendMachine_meets (fun _ _ => id) ?_)
    (fun _ moved => moved.2.holding)
  rintro ⟨cfg₂, pids⟩
  refine .given fun qemu => ?_
  refine .subst_bind saveConfig_meets (fun _ _ => id) fun _ => ?_
  refine .subst_bind (startDetached_meets qemu) (fun _ _ => id) ?_
  rintro ⟨cfg₃, result⟩
  simp only [retryStartWithoutGL_eq supported]
  refine .call (fun _ => Holding pids) ?_ fun now => .done fun _ holding => ⟨pids, rfl, holding⟩
  exact fun w ans answer w' holding ran => holding.keep rfl ran rfl

end Launching

/-! ### The end of a start -/

section Ending

variable {host : HelperHost} {op : Call} {ans : BuildAnswer} {answer : op.Res}
  {w w' : World × Helpers}

theorem Recorded.keep (recorded : Recorded w) (quiet : op.Quiet)
    (executed : buildMachines.exec 0 (.vm op) ans w = some (answer, w')) : Recorded w' := by
  obtain ⟨world, ran, rfl⟩ := buildMachines_exec executed
  obtain ⟨spawned, saved, smooth⟩ := Helpers.noteCall_saved recorded.saved op answer
  obtain ⟨cfg, rfl⟩ := quiet.exec ran
  refine ⟨?_, saved, smooth.trans recorded.smooth⟩
  change ∀ pid ∈ (w.2.noteCall op answer).spawned, _
  rw [spawned]
  exact recorded.recorded

/-- The calls of a foreground start that waits. Each record it writes names no helpers. -/
def Call.Waiting : Call → Prop
  | .selectForeground | .processAlive _ | .block => True
  | .saveState state => state.virtiofsdPIDs = []
  | _ => False

theorem Unrecorded.keep (unrecorded : Unrecorded w) (waiting : op.Waiting)
    (executed : buildMachines.exec 0 (.vm op) ans w = some (answer, w')) : Unrecorded w' := by
  obtain ⟨world, ran, rfl⟩ := buildMachines_exec executed
  cases op with
  | selectForeground | processAlive =>
    cases ran
    exact ⟨unrecorded.unsignalled, unrecorded.unrecorded⟩
  | block => cases ran
  | saveState state =>
    rcases Call.saveState_exec ran with ⟨rfl, -, rfl⟩ | ⟨text, rfl, -, rfl⟩
    · refine ⟨unrecorded.unsignalled, fun pid _ recorded => ?_⟩
      rw [show state.virtiofsdPIDs = [] from waiting] at recorded
      exact absurd recorded not_mem_nil
    · exact ⟨unrecorded.unsignalled, unrecorded.unrecorded⟩
  | _ => exact waiting.elim

variable {state : VMState}

theorem waitForeground_waits (none : state.virtiofsdPIDs = []) (rounds : Nat) :
    (waitForeground state rounds).Does Call.Waiting fun _ => True := by
  induction rounds with
  | zero => exact ⟨trivial, fun _ => trivial⟩
  | succ rounds ih =>
    refine ⟨trivial, fun cancelled => ?_⟩
    cases cancelled with
    | true => exact ⟨none, fun _ => trivial⟩
    | false =>
      have left : (do
          let _ ← ask (.saveState { state with running := false })
          return () : VM Unit).Does Call.Waiting fun _ => True := ⟨none, fun _ => trivial⟩
      unfold isAlive
      split
      · exact left
      · refine ⟨trivial, fun alive => ?_⟩
        cases alive with
        | true => exact ih
        | false => exact left

def Saved (foreground : Bool) : Except String Unit → World × Helpers → Prop
  | .ok _ => if foreground then Unrecorded else Recorded
  | .error _ => Dropped

theorem saveState_step {answer : Except String Unit} (holding : Holding pids w)
    (named : state.virtiofsdPIDs = if foreground then [] else pids)
    (executed : buildMachines.exec 0 (.vm (.saveState state)) ans w = some (answer, w')) :
    Saved foreground answer w' := by
  obtain ⟨world, ran, rfl⟩ := buildMachines_exec executed
  rcases Call.saveState_exec ran with ⟨rfl, -, rfl⟩ | ⟨text, rfl, -, rfl⟩
  · cases foreground with
    | true =>
      refine ⟨holding.unsignalled, fun pid _ recorded => ?_⟩
      rw [named] at recorded
      exact absurd recorded not_mem_nil
    | false =>
      refine ⟨fun pid mem => ?_, rfl, holding.smooth⟩
      rw [named]
      exact holding.spawned ▸ mem
  · exact holding.fails rfl

theorem guest_meets {cfg : VMConfig} : Builds Recorded ((do
      watchGuest cfg state
      registerGuest cfg : VM Unit).subst (carryOut host)) fun _ => Verdict false := by
  have quiet : (do
      watchGuest cfg state
      registerGuest cfg : VM Unit).Completes Call.Quiet :=
    .bind (watchGuest_quiet cfg state) fun _ _ => registerGuest_quiet fun _ _ => trivial
  refine (Meets.of_does_subst (fun op quiet => ?_) quiet).weaken (fun _ => id)
    fun _ _ ended => ended.2.verdict
  rw [carryOut_eq quiet.other]
  exact .ask fun _ _ _ _ recorded => recorded.keep quiet

theorem waitForeground_meets {rounds : Nat} (none : state.virtiofsdPIDs = []) :
    Builds Unrecorded ((waitForeground state rounds).subst (carryOut host))
      fun _ => Verdict true := by
  refine (Meets.of_does_subst (fun op waiting => ?_) (waitForeground_waits none rounds)).weaken
    (fun _ => id) fun _ _ ended => ended.2.verdict fun _ => .inl rfl
  rw [carryOut_eq (by rintro cfg recovery rfl; exact waiting)]
  exact .ask fun _ _ _ _ unrecorded => unrecorded.keep waiting

end Ending

/-! ### Hosts without virtiofsd -/

section Unsupported

variable {host : HelperHost}

def BuildOp.Plain : BuildOp → Prop
  | .vm op => op = .loadState
  | .startVirtiofsd _ => False
  | _ => True

def BuildOp.Helpless : BuildOp → Prop
  | .startVirtiofsd _ => False
  | _ => True

theorem BuildOp.Plain.helpless (plain : op.Plain) : op.Helpless := by
  cases op with
  | startVirtiofsd mount => exact plain
  | _ => exact trivial

theorem ensureVirtiofsd_plain (mounts : List VirtiofsMount) :
    (ensureVirtiofsd mounts).Makes BuildOp.Plain := by
  unfold ensureVirtiofsd
  split
  · exact ⟨trivial, fun _ => trivial⟩
  · exact trivial

theorem finishBuild_plain (cfg : VMConfig) (pids : List Nat) : (do
      startTPM host cfg
      finishMachine cfg
      return (cfg, pids) : Build (VMConfig × List Nat)).Does BuildOp.Plain
        (mayThrow fun built => built.1 = cfg) := by
  have tpm : (startTPM host cfg).Makes BuildOp.Plain := by
    unfold startTPM
    split
    · exact .bind (.ask trivial) fun _ _ => .orThrow
    · exact trivial
  refine .bind_throw tpm fun _ _ => ?_
  have assembled : (finishMachine cfg).Makes BuildOp.Plain :=
    .bind (.ask rfl) fun _ _ => .bind (.ask trivial) fun _ _ => .orThrow
  exact .bind_throw assembled fun _ _ => rfl

section

variable (unsupported : host.supportsVirtiofsd = false)

include unsupported

theorem buildMachine_helpless (cfg : VMConfig) :
    (buildMachine host cfg).Makes BuildOp.Helpless := by
  refine .bind (.ask trivial) fun answer _ => .bind_throw .orThrow fun cfg _ => ?_
  have none : host.mounts cfg = [] := by simp [HelperHost.mounts, unsupported]
  rw [none]
  have started : (startVirtiofsds [] []).Makes BuildOp.Helpless := trivial
  have ensured := (ensureVirtiofsd_plain []).mono (fun _ plain => plain.helpless) fun _ => id
  refine .bind_throw ensured fun _ _ => .bind_throw started fun pids _ => ?_
  refine (finishBuild_plain cfg pids).mono (fun _ plain => plain.helpless) fun result _ => ?_
  cases result <;> exact trivial

theorem carryOut_helpless (op : Call) : (carryOut host op).Completes BuildOp.Helpless := by
  cases op with
  | buildBackendMachine cfg recovery =>
    have built : (buildMachineFor host cfg recovery).Makes BuildOp.Helpless := by
      unfold buildMachineFor
      split
      · exact buildMachine_helpless unsupported cfg
      · exact .bind (.ask trivial) fun _ _ => .bind_throw .orThrow fun _ _ => trivial
      · exact trivial
    refine built.attempt.mono (fun _ => id) fun result ended => ?_
    cases result with
    | ok value => exact trivial
    | error text => exact ended
  | _ => exact .ask trivial

theorem unsupported_meets {α : Type} (p : VM α) :
    Builds (fun w => w.2.spawned = []) (p.subst (carryOut host)) fun _ w =>
      w.2.spawned = [] := by
  refine (Meets.of_does ?_ (Prog.Does.subst (carryOut_helpless unsupported) p)).weaken
    (fun _ => id) fun _ _ ended => ended.2
  intro op helpless w ans answer w' none ran
  obtain ⟨world, -, rfl⟩ := buildMachines_exec ran
  cases op with
  | vm op => exact (Helpers.noteCall_idle none op answer).1
  | startVirtiofsd mount => exact helpless.elim
  | startSwtpm | assembleMachine => cases answer <;> exact none
  | prepareMachine | ensureVirtiofsd | buildVZMachine => exact none

end

end Unsupported

/-! ### A whole start -/

section Whole

variable {host : HelperHost}

def Read : Except String VMState → World × Helpers → Prop
  | .ok state => Idle state.virtiofsdPIDs
  | .error _ => Idle []

theorem loadState_meets : Builds (Idle []) (loadState.subst (carryOut host)) Read := by
  refine .call Read ?_ fun _ => .orThrow fun _ _ => id
  intro w ans answer w' idle executed
  obtain ⟨world, ran, rfl⟩ := buildMachines_exec executed
  obtain ⟨rfl, ⟨rfl, -⟩ | ⟨text, rfl, -⟩⟩ := Call.loadState_exec ran
  · exact ⟨idle.none, idle.unsignalled, idle.smooth, idle.stored_old, idle.stored_old⟩
  · exact ⟨idle.none, idle.unsignalled, idle.smooth, idle.stored_old, idle.read_old⟩

variable {rounds : Nat} {cfg : VMConfig}

theorem finish_meets {state : VMState} : Builds (Launched foreground (.ok (cfg, state)))
      ((if foreground then runForeground state rounds else runDetached cfg state).subst
        (carryOut host)) fun _ => Verdict foreground := by
  refine .of_exists fun pids => .given fun named => ?_
  have saved : ∀ context, Builds (Holding pids)
      ((saveState context state).subst (carryOut host)) (Saved foreground) := by
    intro context
    refine .call (Saved foreground) ?_ fun _ => .orThrow fun _ _ => id
    exact fun w ans answer w' holding => saveState_step holding named
  cases foreground with
  | true =>
    exact .subst_bind (saved _) (fun _ _ dropped => dropped.verdict) fun _ =>
      waitForeground_meets named
  | false =>
    exact .subst_bind (saved _) (fun _ _ dropped => dropped.verdict) fun _ => guest_meets

theorem startWith_meets (supported : host.supportsVirtiofsd) {name : String} {recovery : Bool} :
    Builds (Idle [])
      ((startWith host.toPlatform name foreground recovery rounds cfg).subst (carryOut host))
      fun _ => Verdict foreground := by
  refine .subst_bind loadState_meets (fun _ _ idle => idle.holding.dropped.verdict) fun state => ?_
  refine .subst_bind (idle_meets (checkNotRunning_calm (List.Subset.refl _)))
    (fun _ _ idle => idle.2.holding.dropped.verdict) fun state => .given fun known => ?_
  refine .subst_bind (idle_meets (skipInstall_calm known))
    (fun _ _ idle => idle.2.holding.dropped.verdict) ?_
  rintro ⟨cfg, state⟩
  refine .given fun known => ?_
  refine .subst_bind (idle_meets (installPass_calm known))
    (fun _ _ idle => idle.2.holding.dropped.verdict) ?_
  rintro ⟨cfg, state⟩
  refine .given fun _ => ?_
  refine .subst_bind (launch_meets supported) (fun _ _ dropped => dropped.verdict) ?_
  rintro ⟨cfg, state⟩
  exact finish_meets

/-- `Start` loses no helper exactly if all of them exit by themselves, or it is a detached start
in which nothing fails between the first helper and the save of the record: not swtpm, not
the assembly of the machine, not the save of the config, not the hypervisor, and not that
save itself. -/
theorem start_keeps_helpers_iff (host : HelperHost) (name : String) (foreground recovery : Bool)
    (rounds : Nat) {w w' : World} {h : Helpers} {result : Except String Unit}
    (old : ∀ pid ∈ w.state.virtiofsdPIDs, pid < w.nextPid)
    (ran : Ran buildMachines (startWithBuilds host name foreground recovery rounds) (w, {}) result
      (w', h)) :
    h.Kept w'.state ↔
      (∀ pid ∈ h.spawned, pid ∈ h.exited) ∨ foreground = false ∧ h.interrupted = false := by
  cases supported : host.supportsVirtiofsd with
  | true =>
    have idle : Idle [] (w, {}) := ⟨rfl, rfl, rfl, old, nofun⟩
    have meets : Builds (Idle [])
        (startWithBuilds host name foreground recovery rounds) fun _ => Verdict foreground :=
      .subst_bind (idle_meets (calm_of_quiet loadConfig_quiet))
        (fun _ _ idle => idle.2.holding.dropped.verdict) fun cfg =>
          (startWith_meets supported).pre (fun _ loaded => loaded.2)
    exact meets idle ran
  | false =>
    have none : h.spawned = [] := unsupported_meets supported _ rfl ran
    simp [Helpers.Kept, none]

end Whole

def linuxHelperHost : HelperHost where
  toPlatform := linuxHost
  supportsVirtiofsd := true
  supportsSwTPM := true
  linuxOnly := fun _ => rfl

def sharingVM : VMConfig where
  name := "work"
  virtiofsMounts := [⟨"/home/me/src", "src", false⟩]
  tpm := some ⟨true⟩

def allWell (calls : Nat) : List BuildAnswer := List.replicate calls {}

/-- A detached start in which all goes well leaves its helper in the record. -/
theorem detached_start_keeps_helper :
    ∃ result w' h, Ran buildMachines (startWithBuilds linuxHelperHost "work" false false 0)
      ({ config := sharingVM, state := {} }, {}) result (w', h) ∧ h.spawned ≠ [] ∧
        h.Kept w'.state := by
  obtain ⟨result, ⟨w', h⟩, ran, spawned, calm⟩ := Ran.exists_of_play
    (M := buildMachines) (allWell 12)
    (startWithBuilds linuxHelperHost "work" false false 0)
    ({ config := sharingVM, state := {} }, {})
    (fun _ w => w.2.spawned ≠ [] ∧ w.2.interrupted = false) (by decide)
  exact ⟨result, w', h, ran, spawned,
    (start_keeps_helpers_iff linuxHelperHost "work" false false 0 (by decide) ran).mpr
      (.inr ⟨rfl, calm⟩)⟩

/-- swtpm is not installed: the start fails, and the virtiofsd that it has started for the share
goes on running with no record of it. -/
theorem failed_swtpm_loses_helper :
    ∃ result w' h, Ran buildMachines (startWithBuilds linuxHelperHost "work" false false 0)
      ({ config := sharingVM, state := {} }, {}) result (w', h) ∧
        ¬ h.Kept w'.state := by
  obtain ⟨result, ⟨w', h⟩, ran, lost⟩ := Ran.exists_of_play
    (M := buildMachines) (allWell 5 ++ [{ error := some "executable file not found in $PATH" }])
    (startWithBuilds linuxHelperHost "work" false false 0)
    ({ config := sharingVM, state := {} }, {})
    (fun _ w => ¬ w.2.Kept w.1.state) (by decide)
  exact ⟨result, w', h, ran, lost⟩

end Vee
