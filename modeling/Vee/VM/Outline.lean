import Vee.Misc.RelyGuarantee
import Vee.VM.Quiet

/-!
# Proof outlines of the manager's operations

An operation passes through a few stages: it has read a record, found its process gone, launched
a process, and so on. An `Outline` gives one assertion for each stage. The theorems below walk
once through the text of `Start`, the two stops and `List` and reduce their safety to what the
few calls between the stages do.
-/

namespace Vee

open Prog (orThrow attempt forEach returns mayThrow)

inductive Stage where
  /-- It has read nothing yet. -/
  | entry
  /-- It has read this record. -/
  | loaded (state : VMState)
  /-- The process of the record it has read is gone. -/
  | dead (state : VMState)
  /-- `Start`: the record it goes on with. -/
  | chosen (state : VMState)
  /-- `Start`: the install pass is done, with this config. -/
  | prepared (cfg : VMConfig) (state : VMState)
  /-- `Start`: it has spawned this process. -/
  | launched (cfg : VMConfig) (state : VMState) (pid : Nat)
  /-- `Start`: the process it has spawned is gone already. -/
  | exited (cfg : VMConfig) (state : VMState) (pid : Nat)
  /-- `Start`: the record of the process is saved. -/
  | recorded (state : VMState)
  /-- A foreground `Start` is about to write its record back. -/
  | leaving (state : VMState)
  | ended
  | failed

/-- The stages from which `Start` can give up by itself: never with a process that it
has launched and not found gone. -/
def Stage.fallible : Stage → Bool
  | .loaded _ | .chosen _ | .prepared _ _ | .exited _ _ _ => true
  | _ => false

variable {W : Type} {M : Machine Call Call.Res W}

/-- An assertion for each stage. Nobody else falsifies it, and quiet calls keep it. -/
structure Outline (P : Protocol M) (i : Nat) where
  holds : Stage → W → Prop
  stable : ∀ stage, P.Stable i (holds stage)
  quiet : ∀ stage op, op.Quiet → P.Triple i (holds stage) op fun _ => holds stage

namespace Outline

variable {P : Protocol M} {i : Nat} (o : Outline P i)

/-- What the operation ends in. -/
def post {α : Type} : Except String α → W → Prop
  | .ok _ => o.holds .ended
  | .error _ => o.holds .failed

/-- The operation can go on from here. -/
abbrev Runs {α : Type} (p : VM α) (w : W) : Prop := Safe P i o.post p w

variable {o} {α β : Type} {w : W} {stage : Stage}

theorem post_stable (result : Except String α) : P.Stable i (o.post result) := by
  cases result with
  | ok value => exact o.stable .ended
  | error text => exact o.stable .failed

theorem finish (value : α) (holds : o.holds .ended w) : o.Runs (.done (.ok value) : VM α) w :=
  .done (post_stable _) holds

theorem fail (text : String) (holds : o.holds .failed w) : o.Runs (.done (.error text) : VM α) w :=
  .done (post_stable _) holds

variable {p : VM α} {f : α → VM β} {value : α → Prop} {s : VMState}

theorem quietly_of {ends : Except String α → Prop} (does : p.Does Call.Quiet ends)
    (holds : o.holds stage w)
    (thrown : ∀ text w, ends (.error text) → o.holds stage w → o.holds .failed w)
    (rest : ∀ v w, ends (.ok v) → o.holds stage w → o.Runs (f v) w) :
    o.Runs (p >>= f) w := by
  have first := Safe.of_does (o.stable stage) (o.quiet stage) does holds
  apply first.bind
  · intro text w ended
    exact thrown text w ended.2 ended.1
  · intro v w ended
    exact rest v w ended.2 ended.1

theorem quietly (does : p.Does Call.Quiet (returns value)) (holds : o.holds stage w)
    (rest : ∀ v w, value v → o.holds stage w → o.Runs (f v) w) :
    o.Runs (p >>= f) w :=
  quietly_of does holds (fun _ _ impossible => impossible.elim) rest

theorem tryQuietly (does : p.Does Call.Quiet (mayThrow value)) (holds : o.holds stage w)
    (fails : ∀ w, o.holds stage w → o.holds .failed w)
    (rest : ∀ v w, value v → o.holds stage w → o.Runs (f v) w) :
    o.Runs (p >>= f) w :=
  quietly_of does holds (fun _ w _ => fails w) rest

theorem quietly_last (does : p.Does Call.Quiet (returns value)) (holds : o.holds .ended w) :
    o.Runs p w := by
  apply (Safe.of_does (o.stable .ended) (o.quiet .ended) does holds).mono
  intro result w ended
  cases result with
  | ok v => exact ended.1
  | error text => exact ended.2.elim

/-- A fallible answer, and the rest of the operation after a success. -/
theorem orThrow_bind {context : String} {ok : α → W → Prop} {res : Except String α}
    (after : Outcome ok (o.holds .failed) res w) (rest : ∀ v, ok v w → o.Runs (f v) w) :
    o.Runs (orThrow context res >>= f) w := by
  cases res with
  | ok v => exact rest v after
  | error text => exact fail _ after

variable (o)

/-- A save of a record leads from one stage to the next. -/
abbrev Saves (stage : Stage) (s : VMState) (next : Stage) : Prop :=
  P.Triple i (o.holds stage) (.saveState s) (Either (o.holds next) (o.holds .failed))

/-- A spawn leads to the stage of the new process. -/
abbrev Spawns (stage : Stage) (cfg : VMConfig) (s : VMState) (cfg' : VMConfig) : Prop :=
  P.Triple i (o.holds stage) (.spawn cfg')
    (Outcome (fun result => o.holds (.launched cfg s result.pid)) (o.holds .failed))

/-- A probe that finds no process leads to the next stage. -/
abbrev Probes (stage : Stage) (pid : Nat) (next : Stage) : Prop :=
  P.Triple i (o.holds stage) (.processAlive pid)
    fun alive => o.holds (if alive then stage else next)

/-- The liveness check leads to the next stage if there is no process. -/
structure Finds (stage : Stage) (pid : Nat) (next : Stage) : Prop where
  check : pid ≠ 0 → o.Probes stage pid next
  noProcess : pid = 0 → ∀ w, o.holds stage w → o.holds next w

/-- Reading the record. -/
def Loads : Prop :=
  P.Triple i (o.holds .entry) .loadState
    (Outcome (fun s => o.holds (.loaded s)) (o.holds .failed))

/-- The liveness check on the record that was read. -/
abbrev Checks (s : VMState) : Prop := o.Finds (.loaded s) s.pid (.dead s)

/-- `cleanupStaleVM` on the record that was read leads to the stage `next`. -/
def Cleans (s : VMState) (next : Stage) : Prop :=
  ∀ result, P.Triple i (o.holds (.dead s)) (.saveState (s.stale result)) fun _ => o.holds next

/-- A stop: the signal, and the save at its end. -/
structure Stops (reason : ShutdownReason) : Prop where
  load : o.Loads
  idle : ∀ s w, s.running = false ∨ s.pid = 0 → o.holds (.loaded s) w → o.holds .failed w
  checks : ∀ s, s.running → s.pid ≠ 0 → o.Checks s
  kill : ∀ s, s.running → s.pid ≠ 0 →
    P.Triple i (o.holds (.loaded s)) (.kill s.pid) fun _ => o.holds (.dead s)
  save : ∀ s, s.running → s.pid ≠ 0 → o.Saves (.dead s) (s.stopped reason) .ended

/-- `List` and its stale cleanup. -/
structure Lists : Prop where
  load : o.Loads
  checks : ∀ s, s.running → o.Checks s
  cleans : ∀ s, s.running → o.Cleans s .ended
  read : ∀ s w, o.holds (.loaded s) w → o.holds .ended w
  missed : ∀ w, o.holds .failed w ↔ o.holds .ended w
  idle : ∀ w, o.holds .entry w ↔ o.holds .ended w

/-- A daemon tick that starts nothing: every record it reads is one that the daemon
leaves alone, or its process is found alive. -/
structure Ticks : Prop extends o.Lists where
  reads : P.Triple i (o.holds .entry) .loadState fun answer w =>
    ∃ s, answer = .ok s ∧ o.holds (.loaded s) w
  stopped : ∀ s w, s.running = false → o.holds (.loaded s) w → shouldDaemonStart s = false
  gone : ∀ s w, o.holds (.dead s) w → shouldDaemonStart s = false ∧ o.holds .ended w

/-- `Start` with a loaded config, up to the save of the record of the new process. -/
structure Starts (cfg : VMConfig) : Prop where
  load : o.Loads
  fails : ∀ stage w, stage.fallible → o.holds stage w → o.holds .failed w
  checks : ∀ s, s.running → o.Checks s
  cleans : ∀ s, s.running → o.Cleans s (.chosen {})
  idle : ∀ s w, s.running = false → o.holds (.loaded s) w → o.holds (.chosen s) w
  skip : ∀ s installedAt, s.installState = .unset → cfg.skipInstall →
    o.Saves (.chosen s) { s with installState := .ready, installedAt := installedAt }
      (.chosen { s with installState := .ready, installedAt := installedAt })
  pend : ∀ s, s.installState = .unset → cfg.skipInstall = false → cfg.hasInstallISO →
    o.Saves (.chosen s) { s with installState := .pending }
      (.chosen { s with installState := .pending })
  prepare : ∀ cfg s w, (s.installState = .ready → cfg.NoInstaller) →
    o.holds (.chosen s) w → o.holds (.prepared cfg s) w
  build : ∀ cfg s cfg' recovery, cfg'.disks = cfg.disks →
    P.Triple i (o.holds (.prepared cfg s)) (.buildBackendMachine cfg' recovery)
      (Outcome (fun built w => built.1.disks = cfg'.disks ∧ o.holds (.prepared cfg s) w)
        (o.holds .failed))
  rebuild : ∀ cfg s pid cfg' recovery, cfg'.disks = cfg.disks →
    P.Triple i (o.holds (.exited cfg s pid)) (.buildBackendMachine cfg' recovery)
      (Either (o.holds (.exited cfg s pid)) (o.holds .failed))
  spawn : ∀ cfg s cfg', o.Spawns (.prepared cfg s) cfg s cfg'
  respawn : ∀ cfg s pid cfg', o.Spawns (.exited cfg s pid) cfg s cfg'
  finds : ∀ cfg s pid, o.Finds (.launched cfg s pid) pid (.exited cfg s pid)
  exited : ∀ cfg s pid w, o.holds (.exited cfg s pid) w → o.holds (.launched cfg s pid) w
  record : ∀ host cfg cfg' s result startedAt helpers,
    o.Saves (.launched cfg s result.pid) (runningState host cfg' s result startedAt helpers)
      (.recorded (runningState host cfg' s result startedAt helpers))

/-- The end of a detached `Start`. -/
def Detaches : Prop := ∀ s w, o.holds (.recorded s) w → o.holds .ended w

/-- The end of a foreground `Start`. -/
structure Blocks : Prop where
  fails : ∀ w, o.holds .ended w → o.holds .failed w
  select : ∀ s, P.Triple i (o.holds (.recorded s)) .selectForeground
    fun cancelled => o.holds (if cancelled then .leaving s else .recorded s)
  finds : ∀ s, o.Finds (.recorded s) s.pid (.leaving s)
  never : ∀ s, P.Triple i (o.holds (.recorded s)) .block fun _ _ => False
  writeBack : ∀ s, P.Triple i (o.holds (.leaving s)) (.saveState { s with running := false })
    fun _ => o.holds .ended

variable {o}

/-- A probe, which neither the world nor the history takes note of. -/
theorem probe {H : Type} {log : Nat → (op : Call) → op.Res → World → H → H}
    {logEnv : HostEvent → World → H → H} {P : Protocol (vmHost.withHistory log logEnv)}
    {o : Outline P i} {stage next : Stage} {pid : Nat} (idle : ∀ w, P.guar i w w)
    (unlogged : ∀ alive w h, log i (.processAlive pid) alive w h = h)
    (gone : ∀ w h, o.holds stage (w, h) → pid ∉ w.alive → o.holds next (w, h)) :
    o.Probes stage pid next := by
  refine .logged (o.stable stage) fun w h ans res w' inv holds _ ran => ?_
  cases ran
  rw [unlogged]
  refine ⟨inv, idle _, ?_⟩
  by_cases alive : pid ∈ w.alive
  · simpa only [alive, decide_true, if_true] using holds
  · simpa [alive] using gone w h holds alive

theorem Loads.bind (load : o.Loads) {f : VMState → VM β} (holds : o.holds .entry w)
    (rest : ∀ s w, o.holds (.loaded s) w → o.Runs (f s) w) :
    o.Runs (loadState >>= f) w := by
  refine Safe.triple load holds fun res w after => ?_
  exact orThrow_bind after fun s => rest s w

section Finds

variable {pid : Nat} {next : Stage}

/-- A stage that asks for less can be entered whatever the check finds. -/
theorem Finds.of_imp (less : ∀ w, o.holds stage w → o.holds next w) : o.Finds stage pid next where
  check _ := (o.quiet stage (.processAlive pid) trivial).weaken fun alive w holds => by
    cases alive with
    | true => exact holds
    | false => exact less w holds
  noProcess _ := less

theorem Finds.bind (finds : o.Finds stage pid next) {f : Bool → VM β} (holds : o.holds stage w)
    (rest : ∀ alive w, o.holds (if alive then stage else next) w → o.Runs (f alive) w) :
    o.Runs (isAlive pid >>= f) w := by
  unfold isAlive
  split
  · rename_i none
    exact rest false w (finds.noProcess none w holds)
  · rename_i some
    exact Safe.triple (finds.check some) holds rest

end Finds

theorem Cleans.bind {next : Stage} (cleans : o.Cleans s next) {f : Unit → VM β}
    (holds : o.holds (.dead s) w) (rest : ∀ w, o.holds next w → o.Runs (f ()) w) :
    o.Runs (cleanupStaleVM s >>= f) w := by
  rw [cleanupStaleVM, Prog.bind_assoc]
  refine quietly (staleResult_quiet s) holds fun result w _ now => ?_
  exact Safe.triple (cleans result) now fun _ => rest

namespace Stops

variable {reason : ShutdownReason} (stops : o.Stops reason) (name : String)

include stops

/-- Both stops from the moment where they have asked the guest to go. -/
theorem finish (signal : Nat → Action) (running : s.running) (process : s.pid ≠ 0)
    (holds : o.holds (.loaded s) w) : o.Runs (do
      killIfAlive s.pid
      signalHelpers signal s.virtiofsdPIDs
      finishStop s reason) w := by
  have tail : ∀ w, o.holds (.dead s) w → o.Runs (do
      signalHelpers signal s.virtiofsdPIDs
      finishStop s reason) w := by
    intro w gone
    refine quietly (signalHelpers_quiet _ _) gone fun _ w _ gone => ?_
    refine quietly unregisterStoredHostname_quiet gone fun _ w _ gone => ?_
    refine Safe.triple (stops.save s running process) gone fun res w after => ?_
    cases res with
    | ok value => exact Outline.finish _ after
    | error text => exact fail _ after
  rw [killIfAlive, Prog.bind_assoc]
  refine (stops.checks s running process).bind holds fun alive w now => ?_
  cases alive with
  | true => exact Safe.triple (stops.kill s running process) now fun _ => tail
  | false => exact tail w now

theorem stop_safe (holds : o.holds .entry w) : o.Runs (stopWithReason name reason) w := by
  refine stops.load.bind holds fun s w loaded => ?_
  split
  · rename_i none
    exact fail _ (stops.idle s w (by simpa using none) loaded)
  · rename_i some
    have both : s.running = true ∧ s.pid ≠ 0 := by simpa using some
    refine quietly (perform_quiet _) loaded fun _ w _ loaded => ?_
    refine quietly (waitExit_quiet _ _) loaded fun _ w _ loaded => ?_
    exact stops.finish .terminateHelper both.1 both.2 loaded

theorem forceStop_safe (holds : o.holds .entry w) :
    o.Runs (forceStopWithReason name reason) w := by
  refine stops.load.bind holds fun s w loaded => ?_
  split
  · rename_i none
    exact fail _ (stops.idle s w (by simpa using none) loaded)
  · rename_i some
    have both : s.running = true ∧ s.pid ≠ 0 := by simpa using some
    exact stops.finish .killHelper both.1 both.2 loaded

end Stops

namespace Lists

variable (lists : o.Lists)

include lists

theorem listEntry_safe (cfg : VMConfig) (holds : o.holds .entry w) :
    o.Runs (listEntry cfg) w := by
  refine Safe.triple lists.load holds fun res w after => ?_
  cases res with
  | error text => exact finish _ ((lists.missed w).mp after)
  | ok s =>
    change o.Runs (if s.running then _ else _) w
    split
    · rename_i running
      refine (lists.checks s running).bind after fun alive w now => ?_
      cases alive with
      | true => exact finish _ (lists.read s w now)
      | false => exact (lists.cleans s running).bind now fun _ => finish _
    · exact finish _ (lists.read s w after)

theorem forEach_safe {γ : Type} {f : γ → VM α} (xs : List γ)
    (each : ∀ x w, o.holds .entry w → o.Runs (f x) w) (holds : o.holds .entry w) :
    o.Runs (forEach f xs) w := by
  induction xs generalizing w with
  | nil => exact finish _ ((lists.idle w).mp holds)
  | cons x xs ih =>
    refine (each x w holds).bind (fun _ _ => id) fun v w done => ?_
    refine (ih ((lists.idle w).mpr done)).bind (fun _ _ => id) fun vs w done => ?_
    exact finish _ done

theorem list_safe (holds : o.holds .entry w) : o.Runs list w := by
  refine Safe.triple (o.quiet .entry .listAllConfigs trivial) holds fun res w entry => ?_
  cases res with
  | error text => exact fail _ ((lists.missed w).mpr ((lists.idle w).mp entry))
  | ok configs => exact lists.forEach_safe configs (fun cfg w => lists.listEntry_safe cfg) entry

end Lists

theorem recordGuestShutdown_safe {post : Except String Unit → W → Prop} {before unread : W → Prop}
    {read : VMState → W → Prop} (load : P.Triple i before .loadState (Outcome read unread))
    (save : ∀ s, P.Triple i (read s) (.saveState s.guestShutdown) fun _ _ => True)
    (ends : ∀ w, Safe P i post (.done (.ok ()) : VM Unit) w) (now : before w) :
    Safe P i post recordGuestShutdown w := by
  refine Safe.triple load now fun res w after => ?_
  cases res with
  | error text => exact ends w
  | ok s => exact Safe.triple (save s) after fun _ w _ => ends w

namespace Ticks

variable (ticks : o.Ticks) (host : Platform)

include ticks

theorem autoStartVM_safe (cfg : VMConfig) (holds : o.holds .entry w) :
    o.Runs (autoStartVM host cfg) w := by
  have skipped : ∀ s w, shouldDaemonStart s = false → o.holds .ended w →
      o.Runs (if !shouldDaemonStart s then return none else daemonStart host cfg) w := by
    intro s w skips done
    simp only [skips, Bool.not_false, if_true]
    exact finish _ done
  refine Safe.triple ticks.reads holds fun res w after => ?_
  obtain ⟨s, rfl, loaded⟩ := after
  by_cases running : s.running
  · change o.Runs (recordedAlive s >>= _) w
    simp only [recordedAlive, running, if_true]
    refine (ticks.checks s running).bind loaded fun alive w now => ?_
    cases alive with
    | true => exact finish _ (ticks.read s w now)
    | false => exact skipped s w (ticks.gone s w now).1 (ticks.gone s w now).2
  · have idle : s.running = false := by simpa using running
    change o.Runs (recordedAlive s >>= _) w
    simp only [recordedAlive, idle, Bool.false_eq_true, if_false]
    exact skipped s w (ticks.stopped s w idle loaded) (ticks.read s w loaded)

theorem startAutoStartVMs_safe (holds : o.holds .entry w) : o.Runs (startAutoStartVMs host) w := by
  refine Safe.triple (o.quiet .entry .listAllConfigs trivial) holds fun res w entry => ?_
  cases res with
  | error text => exact fail _ ((ticks.missed w).mpr ((ticks.idle w).mp entry))
  | ok configs =>
    have each := ticks.forEach_safe (configs.filter (·.autoStart))
      (fun cfg w => ticks.autoStartVM_safe host cfg) entry
    refine each.bind (fun _ _ => id) fun errors w done => ?_
    split
    · exact fail _ ((ticks.missed w).mpr done)
    · exact finish _ done

theorem attempt_bind {f : Except String α → VM β} (safe : o.Runs p w)
    (rest : ∀ result w, o.holds .entry w → o.Runs (f result) w) :
    o.Runs (attempt p >>= f) w := by
  refine safe.attempt_bind fun result w done => rest result w ((ticks.idle w).mpr ?_)
  cases result with
  | ok value => exact done
  | error text => exact (ticks.missed w).mp done

theorem tick_safe (holds : o.holds .entry w) : o.Runs (tick host) w := by
  refine ticks.attempt_bind (ticks.startAutoStartVMs_safe host holds) fun _ w entry => ?_
  have adopted : o.Runs adoptRunningVMs w := by
    refine ticks.attempt_bind (ticks.list_safe entry) fun entries w entry => ?_
    cases entries with
    | error text => exact finish _ ((ticks.idle w).mp entry)
    | ok entries =>
      refine quietly (.forEach fun e _ => adoptVM_quiet e.2) entry fun _ w _ entry => ?_
      exact finish _ ((ticks.idle w).mp entry)
  refine adopted.bind (fun _ _ => id) fun _ w done => ?_
  refine ticks.attempt_bind (ticks.list_safe ((ticks.idle w).mpr done)) fun _ w entry => ?_
  exact finish _ ((ticks.idle w).mp entry)

end Ticks

namespace Starts

variable {s : VMState} {cfg cfg₀ : VMConfig}

variable {name : String} {cfg' : VMConfig} {f : VMConfig × VMState → VM β}
  {recovery foreground : Bool} {result : StartResult} {host : Platform} {rounds : Nat}

theorem save_bind {context : String} {saved : VMState} {f : Unit → VM β}
    (save : o.Saves (.chosen s) saved (.chosen saved))
    (holds : o.holds (.chosen s) w) (rest : ∀ w, o.holds (.chosen saved) w → o.Runs (f ()) w) :
    o.Runs (saveState context saved >>= f) w := by
  refine Safe.triple save holds fun res w after => ?_
  exact orThrow_bind after fun _ => rest w

theorem ready_bind (starts : o.Starts cfg) (ready : s.installState = .ready)
    (holds : o.holds (.chosen s) w)
    (rest : ∀ cfg' s w, o.holds (.prepared cfg' s) w → o.Runs (f (cfg', s)) w) :
    o.Runs (installPass cfg' s >>= f) w := by
  simp only [installPass, ready]
  rw [Prog.bind_assoc]
  refine tryQuietly (stripInstaller_quiet cfg') holds (fun w => starts.fails _ w rfl)
    fun stripped w clean chosen => ?_
  exact rest stripped s w (starts.prepare stripped s w (fun _ => clean) chosen)

/-- After the install pass, an installed VM has a config without its installer. -/
theorem install_bind (starts : o.Starts cfg) (holds : o.holds (.chosen s) w)
    (rest : ∀ cfg' s w, o.holds (.prepared cfg' s) w → o.Runs (f (cfg', s)) w) :
    o.Runs (do
      let (cfg', s') ← skipInstall cfg s
      installPass cfg' s' >>= f) w := by
  unfold skipInstall
  split
  · rename_i skip
    simp only [Prog.bind_assoc]
    refine quietly (deleteScratchDisks_quiet cfg) holds fun _ w _ chosen => ?_
    refine tryQuietly (saveConfig_quiet _ _) chosen (fun w => starts.fails _ w rfl)
      fun _ w _ chosen => ?_
    refine quietly (.ask trivial) chosen fun now w _ chosen => ?_
    refine save_bind (starts.skip s (some now) skip.2 skip.1) chosen fun w chosen => ?_
    exact starts.ready_bind rfl chosen rest
  · rename_i noSkip
    change o.Runs (installPass cfg s >>= f) w
    cases install : s.installState with
    | unset =>
      have installs : cfg.skipInstall = false := by simpa [install] using noSkip
      simp only [installPass, install]
      split
      · rename_i iso
        rw [Prog.bind_assoc]
        refine save_bind (starts.pend s install installs iso) holds fun w chosen => ?_
        exact rest cfg _ w (starts.prepare cfg _ w (by simp) chosen)
      · exact rest cfg s w (starts.prepare cfg s w (by simp [install]) holds)
    | pending =>
      simp only [installPass, install]
      exact rest cfg s w (starts.prepare cfg s w (by simp [install]) holds)
    | ready => exact starts.ready_bind install holds rest

section

variable (starts : o.Starts cfg₀)

include starts

theorem checkNotRunning_bind {f : VMState → VM β} (holds : o.holds (.loaded s) w)
    (rest : ∀ s w, o.holds (.chosen s) w → o.Runs (f s) w) :
    o.Runs (checkNotRunning name cfg s >>= f) w := by
  unfold checkNotRunning
  split
  · rename_i running
    rw [Prog.bind_assoc]
    refine (starts.checks s running).bind holds fun alive w now => ?_
    cases alive with
    | true => exact fail _ (starts.fails (.loaded s) w rfl now)
    | false =>
      simp only [Bool.false_eq_true, if_false, Prog.bind_assoc]
      refine quietly (unregisterHostname_quiet cfg) now fun _ w _ gone => ?_
      exact (starts.cleans s running).bind gone fun w chosen => rest {} w chosen
  · rename_i idle
    exact rest s w (starts.idle s w (by simpa using idle) holds)

/-- `StartDetached`, from a stage in which a process may be spawned. -/
theorem startDetached_bind {stage : Stage} {f : VMConfig × StartResult → VM β}
    (spawn : ∀ cfg', o.Spawns stage cfg s cfg')
    (fallible : stage.fallible) (holds : o.holds stage w)
    (rest : ∀ cfg'' result w, cfg''.disks = cfg'.disks →
      o.holds (.launched cfg s result.pid) w → o.Runs (f (cfg'', result)) w) :
    o.Runs (startDetached cfg' >>= f) w := by
  simp only [startDetached, Prog.bind_assoc]
  refine tryQuietly (beforeSpawn_quiet cfg') holds (fun w => starts.fails stage w fallible)
    fun cfg'' w same now => ?_
  refine Safe.triple (spawn cfg'') now fun res w after => ?_
  exact orThrow_bind after fun result => rest cfg'' result w same

theorem restartWithoutGL_bind {f : StartResult → VM β} (same : cfg'.disks = cfg.disks)
    (exited : o.holds (.exited cfg s result.pid) w)
    (rest : ∀ result w, o.holds (.launched cfg s result.pid) w → o.Runs (f result) w) :
    o.Runs (restartWithoutGL cfg' recovery result >>= f) w := by
  unfold restartWithoutGL
  rw [Prog.bind_assoc]
  refine quietly (query_quiet _) exited fun crashed w _ exited => ?_
  cases crashed with
  | false => exact rest result w (starts.exited cfg s result.pid w exited)
  | true =>
    simp only [if_true, Prog.bind_assoc, buildBackendMachine]
    refine Safe.triple (starts.rebuild cfg s result.pid _ recovery same) exited
      fun res w after => ?_
    refine orThrow_bind after fun built exited => ?_
    exact starts.startDetached_bind (starts.respawn cfg s result.pid) rfl exited
      fun _ result w _ => rest result w

theorem retryStartWithoutGL_bind {f : StartResult → VM β} (same : cfg'.disks = cfg.disks)
    (holds : o.holds (.launched cfg s result.pid) w)
    (rest : ∀ result w, o.holds (.launched cfg s result.pid) w → o.Runs (f result) w) :
    o.Runs (retryStartWithoutGL host cfg' recovery result >>= f) w := by
  unfold retryStartWithoutGL
  split
  · exact rest result w holds
  rw [Prog.bind_assoc]
  refine (starts.finds cfg s result.pid).bind holds fun alive w now => ?_
  cases alive with
  | true => exact rest result w now
  | false => exact starts.restartWithoutGL_bind same now rest

/-- From the install pass to a process and the record of it. -/
theorem launch_bind (holds : o.holds (.prepared cfg s) w)
    (rest : ∀ cfg' result startedAt helpers w, o.holds (.launched cfg s result.pid) w →
      o.Runs (f (cfg', runningState host cfg' s result startedAt helpers)) w) :
    o.Runs (launch host cfg s foreground recovery >>= f) w := by
  simp only [launch, Prog.bind_assoc]
  refine tryQuietly (reallocSPICE_quiet cfg) holds (fun w => starts.fails _ w rfl)
    fun cfg₁ w moved prepared => ?_
  refine Safe.triple (starts.build cfg s cfg₁ recovery moved) prepared fun res w after => ?_
  refine orThrow_bind after ?_
  rintro ⟨cfg₂, helpers⟩ ⟨built, prepared⟩
  refine tryQuietly (saveConfig_quiet _ _) prepared (fun w => starts.fails _ w rfl)
    fun _ w _ prepared => ?_
  refine starts.startDetached_bind (starts.spawn cfg s) rfl prepared
    fun cfg₃ result w granted launched => ?_
  have same : cfg₃.disks = cfg.disks := by rw [granted, built, moved]
  refine starts.retryStartWithoutGL_bind same launched fun result w launched => ?_
  refine quietly (.ask trivial) launched fun now w _ launched => ?_
  exact rest cfg₃ result now _ w launched

end

/-- `Start` up to the record of the new process, which is what the foreground and
the detached `Start` share. -/
theorem startWith_safe (starts : o.Starts cfg) (holds : o.holds .entry w)
    (rest : ∀ cfg' s w, o.holds (.recorded s) w → Safe P i o.post
      (if foreground then waitForeground s rounds
        else watchGuest cfg' s >>= fun _ => registerGuest cfg') w) :
    o.Runs (startWith host name foreground recovery rounds cfg) w := by
  refine starts.load.bind holds fun s w loaded => ?_
  refine starts.checkNotRunning_bind loaded fun s w chosen => ?_
  refine starts.install_bind chosen fun cfg₁ s w prepared => ?_
  refine starts.launch_bind prepared fun cfg₂ result startedAt helpers w launched => ?_
  have saved : ∀ {context f}, (∀ w, o.holds
      (.recorded (runningState host cfg₂ s result startedAt helpers)) w →
        o.Runs (f ()) w) →
      o.Runs (saveState context
        (runningState host cfg₂ s result startedAt helpers) >>= f : VM Unit) w := by
    intro context f last
    refine Safe.triple (starts.record host cfg₁ cfg₂ s result startedAt helpers) launched
      fun res w after => ?_
    exact orThrow_bind after fun _ => last w
  cases foreground with
  | true => exact saved fun w recorded => rest cfg₂ _ w recorded
  | false => exact saved fun w recorded => rest cfg₂ _ w recorded

theorem detached_safe (starts : o.Starts cfg) (detaches : o.Detaches) (holds : o.holds .entry w) :
    o.Runs (startWith host name false recovery rounds cfg) w := by
  refine starts.startWith_safe holds fun cfg' s w recorded => ?_
  refine quietly (watchGuest_quiet _ _) (detaches _ w recorded) fun _ w _ holds => ?_
  exact quietly_last (registerGuest_quiet fun _ _ => trivial) holds

end Starts

namespace Blocks

theorem waitForeground_safe (blocks : o.Blocks) (s : VMState) (rounds : Nat)
    (holds : o.holds (.recorded s) w) : o.Runs (waitForeground s rounds) w := by
  have writeBack : ∀ w (last : VM Unit),
      (∀ w, o.holds .ended w → o.Runs last w) → o.holds (.leaving s) w →
      o.Runs (.call (.saveState { s with running := false }) fun _ => last) w :=
    fun w last done leaving => Safe.triple (blocks.writeBack s) leaving fun _ => done
  induction rounds generalizing w with
  | zero =>
    exact Safe.triple (blocks.never s) holds fun _ _ impossible => impossible.elim
  | succ rounds ih =>
    refine Safe.triple (blocks.select s) holds fun cancelled w now => ?_
    cases cancelled with
    | true => exact writeBack w _ (fun w left => fail _ (blocks.fails w left)) now
    | false =>
      refine (blocks.finds s).bind now fun alive w now => ?_
      cases alive with
      | true => exact ih now
      | false => exact writeBack w _ (fun _ => finish _) now

theorem foreground_safe {cfg : VMConfig} (starts : o.Starts cfg) (blocks : o.Blocks)
    {host : Platform} {name : String} {recovery : Bool} {rounds : Nat} (holds : o.holds .entry w) :
    o.Runs (startWith host name true recovery rounds cfg) w := by
  refine starts.startWith_safe holds fun cfg' s w recorded => ?_
  exact blocks.waitForeground_safe s rounds recorded

end Blocks

end Outline

end Vee
