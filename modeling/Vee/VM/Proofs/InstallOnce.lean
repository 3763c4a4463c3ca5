import Vee.VM.Outline
import Vee.VM.Session

/-!
# The installer runs once

Once a run with the installer has ended, no later `Start` should build a machine with it again
(`docs/install-iso-lifecycle.md`). Two paths lose the outcome of the install:

* `Start` on a record that says Running with a dead PID cleans it up and saves `ready`, but goes
  on with an empty record, in which the install is not even pending yet;
* a foreground `Start` writes its private copy of the record back, in which the install is still
  pending.
-/

namespace Vee

structure InstallHistory where
  /-- The processes that a `Start` recorded with the install pending. -/
  runs : List Nat := []
  /-- No operation is under way, or a foreground `Start` is waiting. -/
  between : Bool := true
  /-- A machine was built with an installer disk after such a run had ended. -/
  reentered : Bool := false
  /-- The stored install state went back to empty or pending after it had. -/
  forgotten : Bool := false

namespace InstallHistory

/-- Some run that was recorded with the install pending has ended. -/
def ended (h : InstallHistory) (w : World) : Bool := h.runs.any fun pid => pid ∉ w.alive

def log (_ : Nat) (op : Call) (answer : op.Res) (w : World) (h : InstallHistory) : InstallHistory :=
  match op, answer with
  | .mark op, _ => { h with between := op.isNone }
  | .selectForeground, _ => { h with between := true }
  | .buildBackendMachine cfg _, _ =>
    { h with
      between := false
      reentered := h.reentered || (h.ended w && !decide cfg.NoInstaller) }
  | .saveState s, .ok _ =>
    { h with
      between := false
      runs := if s.running && s.installState = .pending then s.pid :: h.runs else h.runs
      forgotten := h.forgotten || (h.ended w && s.installState ≠ .ready &&
        s.installState ≠ w.state.installState) }
  | _, _ => { h with between := false }

end InstallHistory

/-- The host with that history. Each operation is atomic: nothing happens by
itself while one is under way. -/
def installHost : Machine Call Call.Res (World × InstallHistory) :=
  (vmHost.withHistory InstallHistory.log fun _ _ h => h).restrict fun w => w.2.between

/-- The next `Start` is a run with the install pending. -/
def pendingRun (cfg : VMConfig) (state : VMState) : Bool :=
  state.installState = .pending ||
    (state.installState = .unset && cfg.hasInstallISO && !cfg.skipInstall)

/-- An operation that loses nothing: a `Start` (also the daemon's) is not issued
while the record says Running with a dead PID, and a foreground `Start` not
while the install is pending. -/
def KeepsInstall (op : Operation) (w : World) : Prop :=
  match op with
  | .start foreground _ => (w.state.running → w.IsAlive w.state.pid) ∧
    (foreground → pendingRun w.config w.state = false)
  | .tick => w.config.autoStart → w.state.running → w.IsAlive w.state.pid
  | _ => True

instance : (op : Operation) → (w : World) → Decidable (KeepsInstall op w)
  | .start _ _, _ => inferInstanceAs (Decidable (_ ∧ _))
  | .tick, _ => inferInstanceAs (Decidable (_ → _ → _))
  | .stop, _ | .forceStop, _ | .guestPoweroff, _ | .list, _ => isTrue trivial

/-- The runs all of whose operations lose nothing. -/
def installGuard : Guard installHost where
  run _ op _ w := ∀ begun ∈ op.begins, KeepsInstall begun w.1

instance : installGuard.Decides where
  run _ op _ w := inferInstanceAs (Decidable (∀ begun ∈ op.begins, KeepsInstall begun w.1))
  env _ _ := isTrue trivial

/-- Every run with the install pending is either over and recorded as installed, or
it is the run that the stored record is about. -/
structure InstallInv (w : World × InstallHistory) : Prop where
  runs : ∀ pid ∈ w.2.runs, w.1.state.installState = .ready ∨
    (w.1.state.running ∧ w.1.state.pid = pid ∧ w.1.state.installState = .pending)
  notReentered : w.2.reentered = false
  notForgotten : w.2.forgotten = false

namespace InstallInv

variable {w : World} {h : InstallHistory}

/-- No pending run is remembered while the record is neither about one nor says
that the install is over. -/
theorem no_runs (inv : InstallInv (w, h)) (notReady : w.state.installState ≠ .ready)
    (notRun : w.state.running = false ∨ w.state.installState = .unset) : h.runs = [] := by
  rw [List.eq_nil_iff_forall_not_mem]
  intro pid mem
  rcases inv.runs pid mem with ready | ⟨running, -, pending⟩
  · exact notReady ready
  · rcases notRun with idle | unset
    · simp [idle] at running
    · simp [unset] at pending

/-- A history step that only notes where the operation is. -/
theorem between (inv : InstallInv (w, h)) (cfg : VMConfig) (flag : Bool) :
    InstallInv ({ w with config := cfg }, { h with between := flag }) :=
  ⟨inv.runs, inv.notReentered, inv.notForgotten⟩

/-- What a save may write: that the install is over, the install state and the
process that are stored already, or anything while there was no pending run. -/
theorem save (inv : InstallInv (w, h)) {s : VMState}
    (kept : s.installState = .ready ∨ (s.installState = w.state.installState ∧
      s.running = w.state.running ∧ s.pid = w.state.pid) ∨ h.runs = []) (i : Nat) :
    InstallInv ({ w with state := s }, h.log i (.saveState s) (.ok ()) w) := by
  have before : ∀ pid ∈ h.runs, s.installState = .ready ∨
      (s.running ∧ s.pid = pid ∧ s.installState = .pending) := by
    rcases kept with ready | ⟨same, sameRunning, samePid⟩ | none
    · exact fun _ _ => .inl ready
    · rw [same, sameRunning, samePid]
      exact inv.runs
    · simp [none]
  refine ⟨?_, inv.notReentered, ?_⟩
  · intro pid mem
    by_cases run : s.running && s.installState = .pending
    · simp only [InstallHistory.log, run, if_true, List.mem_cons] at mem
      simp only [Bool.and_eq_true, decide_eq_true_eq] at run
      rcases mem with rfl | mem
      · exact .inr ⟨run.1, rfl, run.2⟩
      · exact before pid mem
    · simp only [InstallHistory.log, run, if_false, Bool.false_eq_true] at mem
      exact before pid mem
  · have clear := inv.notForgotten
    simp only at clear
    simp only [InstallHistory.log, clear, Bool.false_or]
    rcases kept with ready | ⟨same, -, -⟩ | none
    · simp [ready]
    · simp [same]
    · simp [InstallHistory.ended, none]

end InstallInv

namespace InstallOnce

/-- One program runs, so nobody else does anything. -/
def protocol : Protocol installHost where
  guard := installGuard
  inv := InstallInv
  guar j _ _ := j = 0

abbrev Observed := World × InstallHistory

variable {A B F : Observed → Prop}

/-- Events happen between operations and leave the store alone. -/
theorem stable (keeps : ∀ w w' h, w'.state = w.state → w'.config = w.config →
    h.between = true → A (w, h) → A (w', h)) : protocol.Stable 0 A := by
  rintro ⟨w, h⟩ ⟨w', h'⟩ holds ⟨-, -, ⟨j, other, own⟩ | ⟨event, -, happened⟩⟩
  · exact absurd own other
  · obtain ⟨now, happened⟩ := Machine.restrict_env happened
    obtain ⟨happened, same⟩ := Machine.withHistory_env happened
    obtain ⟨sameState, sameConfig, -, -⟩ := HostEvent.occur_frame happened
    rw [show h' = h from same]
    exact keeps w w' h sameState sameConfig now holds

theorem log_quiet {op : Call} (quiet : op.Quiet) (i : Nat) (res : op.Res) (w : World)
    (h : InstallHistory) : h.log i op res w = { h with between := false } := by
  cases op with
  | saveState | kill | buildBackendMachine | spawn | selectEvent | selectForeground | loadState
  | mark => exact quiet.elim
  | _ => rfl

section

variable (steady : protocol.Stable 0 A)

include steady

theorem logged {op : Call} {after : op.Res → Observed → Prop}
    (step : ∀ w h ans res w', InstallInv (w, h) → A (w, h) → installGuard.run 0 op ans (w, h) →
      op.exec ans w = some (res, w') → InstallInv (w', h.log 0 op res w) ∧
        after res (w', h.log 0 op res w)) : protocol.Triple 0 A op after := by
  refine ⟨steady, ?_⟩
  rintro ⟨w, h⟩ ans res ⟨w', h'⟩ inv holds allowed ran
  have ran : (vmHost.withHistory InstallHistory.log fun _ _ => id).exec 0 op ans (w, h) =
    some (res, w', h') := ran
  obtain ⟨ran, rfl⟩ := Machine.withHistory_exec ran
  obtain ⟨kept, reached⟩ := step w h ans res w' inv holds allowed ran
  exact ⟨kept, rfl, reached⟩

theorem quiet
    (frame : ∀ w h cfg, A (w, h) → A ({ w with config := cfg }, { h with between := false }))
    {op : Call} (quiet : op.Quiet) : protocol.Triple 0 A op fun _ => A := by
  refine logged steady fun w h ans res w' inv holds _ ran => ?_
  obtain ⟨cfg, rfl⟩ := quiet.exec ran
  rw [log_quiet quiet]
  exact ⟨inv.between cfg false, frame w h cfg holds⟩

theorem save {s : VMState} (kept : ∀ w h, InstallInv (w, h) → A (w, h) → s.installState = .ready ∨
      (s.installState = w.state.installState ∧ s.running = w.state.running ∧
        s.pid = w.state.pid) ∨ h.runs = [])
    (done : ∀ w h, A (w, h) → B ({ w with state := s }, h.log 0 (.saveState s) (.ok ()) w))
    (failed : ∀ w h, A (w, h) → F (w, { h with between := false })) :
    protocol.Triple 0 A (.saveState s) (Either B F) := by
  refine logged steady fun w h ans res w' inv holds _ ran => ?_
  simp only [Call.exec] at ran
  split at ran <;> cases ran
  · exact ⟨inv.between w.config false, failed w h holds⟩
  · exact ⟨inv.save (kept w h inv holds) 0, done w h holds⟩

theorem loadState (done : ∀ w h, A (w, h) → B (w, { h with between := false }))
    (failed : ∀ w h, A (w, h) → F (w, { h with between := false })) :
    protocol.Triple 0 A .loadState (Outcome (fun s w => w.1.state = s ∧ B w) F) := by
  refine logged steady fun w h ans res w' inv holds _ ran => ?_
  simp only [Call.exec, Answer.orFail] at ran
  split at ran <;> cases ran
  · exact ⟨inv.between w.config false, failed w h holds⟩
  · exact ⟨inv.between w.config false, rfl, done w h holds⟩

end

/-- The stages of the operations that start nothing. -/
def restHolds : Stage → Observed → Prop
  | .loaded s | .dead s => fun w => w.1.state = s
  | .entry | .ended | .failed => fun _ => True
  | _ => fun _ => False

theorem restHolds_stable (stage : Stage) : protocol.Stable 0 (restHolds stage) := by
  refine stable fun w w' h sameState _ _ holds => ?_
  cases stage with
  | loaded s | dead s => exact sameState.trans holds
  | _ => exact holds

/-- The outline of the operations that start nothing. -/
def rest : Outline protocol 0 where
  holds := restHolds
  stable := restHolds_stable
  quiet stage _ := quiet (restHolds_stable stage) fun w h cfg holds => by
    cases stage <;> exact holds

theorem rest_load : rest.Loads :=
  (loadState (B := fun _ => True) (restHolds_stable .entry) (fun _ _ _ => trivial)
    fun _ _ _ => trivial).weaken fun res w after => by
      cases res with
      | ok s => exact after.1
      | error text => exact after

variable (host : Platform) (s : VMState) (name : String) (rounds : Nat)

/-- After a stop or a stale cleanup the install is over, if it was under way. -/
theorem afterRun_kept {w : World} {h : InstallHistory} {s : VMState} (inv : InstallInv (w, h))
    (same : s.installState = w.state.installState.afterRun) :
    s.installState = .ready ∨ (s.installState = w.state.installState ∧
      s.running = w.state.running ∧ s.pid = w.state.pid) ∨ h.runs = [] := by
  cases install : w.state.installState with
  | unset => exact .inr (.inr (inv.no_runs (by simp [install]) (.inr install)))
  | pending => exact .inl (by simp [same, install, InstallState.afterRun])
  | ready => exact .inl (by simp [same, install, InstallState.afterRun])

theorem rest_cleans : rest.Cleans s .ended := by
  intro result
  refine (save (restHolds_stable (.dead s)) (B := fun _ => True) (F := fun _ => True)
    (fun w h inv same => ?_) (fun _ _ _ => trivial) fun _ _ _ => trivial).weaken
      fun _ _ _ => trivial
  exact afterRun_kept inv (by rw [same]; rfl)

theorem rest_kill (pid : Nat) :
    protocol.Triple 0 (rest.holds (.loaded s)) (.kill pid) fun _ => rest.holds (.dead s) := by
  refine logged (restHolds_stable (.loaded s)) fun w h ans res w' inv same _ ran => ?_
  cases ran
  exact ⟨⟨inv.runs, inv.notReentered, inv.notForgotten⟩, same⟩

theorem rest_stops (reason : ShutdownReason) : rest.Stops reason where
  load := rest_load
  idle _ _ _ _ := trivial
  checks _ _ _ := .of_imp fun _ => id
  kill s _ _ := rest_kill s s.pid
  save s _ _ := save (restHolds_stable (.dead s))
    (fun w h inv same => afterRun_kept inv (by rw [show w.state = s from same]; rfl))
    (fun _ _ _ => trivial) fun _ _ _ => trivial

theorem rest_lists : rest.Lists where
  load := rest_load
  checks _ _ := .of_imp fun _ => id
  cleans s _ := rest_cleans s
  read _ _ _ := trivial
  missed _ := Iff.rfl
  idle _ := Iff.rfl

theorem guestPoweroff_safe (w : Observed) : rest.Runs recordGuestShutdown w := by
  refine Outline.recordGuestShutdown_safe rest_load (fun s => ?_)
    (fun _ => Outline.finish _ trivial) trivial
  refine (save (restHolds_stable (.loaded s)) (B := fun _ => True) (F := fun _ => True)
    (fun w h inv same => ?_) (fun _ _ _ => trivial) fun _ _ _ => trivial).weaken
      fun _ _ _ => trivial
  exact .inr (.inl (by rw [same]; exact ⟨rfl, rfl, rfl⟩))

section Starting

variable (foreground : Bool) (cfg : VMConfig)

/-- A `Start` that loses nothing: the record is not stale, and a foreground run is
not a pending one. -/
def Undisturbed (w : Observed) : Prop :=
  w.2.between = false ∧ (w.1.state.running → w.1.IsAlive w.1.state.pid) ∧
    (foreground → pendingRun cfg w.1.state = false)

theorem Undisturbed.detached {foreground : Bool} {cfg : VMConfig} {w : Observed}
    (undisturbed : Undisturbed foreground cfg w) (cfg' : VMConfig) : Undisturbed false cfg' w :=
  ⟨undisturbed.1, undisturbed.2.1, fun impossible => by cases impossible⟩

/-- The record that a `Start` goes on with is the stored one. -/
def Chosen (s : VMState) (w : Observed) : Prop :=
  w.1.state = s ∧ s.running = false ∧ (foreground → pendingRun cfg s = false)

/-- The stages of a `Start` with the loaded config `cfg`. -/
def startHolds : Stage → Observed → Prop
  | .entry => Undisturbed foreground cfg
  | .loaded s => fun w => w.1.state = s ∧ Undisturbed foreground cfg w
  | .dead _ => fun _ => False
  | .chosen s => Chosen foreground cfg s
  | .prepared cfg' s | .launched cfg' s _ | .exited cfg' s _ => fun w =>
    Chosen foreground cfg s w ∧ (s.installState = .ready → cfg'.NoInstaller)
  | .recorded s | .leaving s => fun w =>
    w.1.state = s ∧ (foreground → s.installState ≠ .pending)
  | .ended | .failed => fun _ => True

variable (stage : Stage) (cfg' : VMConfig) (s : VMState)

theorem startHolds_stable : protocol.Stable 0 (startHolds foreground cfg stage) := by
  refine stable fun w w' h sameState _ now holds => ?_
  cases stage with
  | entry =>
    have busy : h.between = false := holds.1
    simp [busy] at now
  | loaded s =>
    have busy : h.between = false := holds.2.1
    simp [busy] at now
  | dead s => exact holds
  | chosen s => exact ⟨sameState.trans holds.1, holds.2⟩
  | prepared cfg' s | launched cfg' s pid | exited cfg' s pid =>
    exact ⟨⟨sameState.trans holds.1.1, holds.1.2⟩, holds.2⟩
  | recorded s | leaving s => exact ⟨sameState.trans holds.1, holds.2⟩
  | ended | failed => trivial

def starting : Outline protocol 0 where
  holds := startHolds foreground cfg
  stable := startHolds_stable foreground cfg
  quiet stage _ := quiet (startHolds_stable foreground cfg stage) fun w h cfg' holds => by
    cases stage with
    | entry => exact ⟨rfl, holds.2⟩
    | loaded s => exact ⟨holds.1, rfl, holds.2.2⟩
    | _ => exact holds

variable {foreground cfg}

/-- No pending run is remembered when a `Start` goes on with a record that does not
say that the install is over. -/
theorem Chosen.no_runs {s : VMState} {w : World} {h : InstallHistory} (inv : InstallInv (w, h))
    (chosen : Chosen foreground cfg s (w, h)) (notReady : s.installState ≠ .ready) :
    h.runs = [] := by
  obtain ⟨same, idle, -⟩ := chosen
  exact inv.no_runs (by rw [same]; exact notReady) (.inl (by rw [same]; exact idle))

theorem starting_build
    (shape : startHolds foreground cfg stage = startHolds foreground cfg (.prepared cfg' s))
    (cfg'' : VMConfig) (recovery : Bool) (same : cfg''.disks = cfg'.disks) :
    protocol.Triple 0 ((starting foreground cfg).holds stage)
      (.buildBackendMachine cfg'' recovery)
      (Outcome (fun built w => built.1.disks = cfg''.disks ∧
        (starting foreground cfg).holds stage w) ((starting foreground cfg).holds .failed)) := by
  refine logged (startHolds_stable foreground cfg stage) fun w h ans res w' inv holds _ ran => ?_
  rw [shape] at holds
  have clean : (h.ended w && !decide cfg''.NoInstaller) = false := by
    by_cases ready : s.installState = .ready
    · have none : cfg''.NoInstaller := by
        rw [VMConfig.NoInstaller, same]
        exact holds.2 ready
      simp [none]
    · simp [InstallHistory.ended, holds.1.no_runs inv ready]
  have kept : InstallInv (w, h.log 0 (.buildBackendMachine cfg'' recovery) res w) := by
    refine ⟨inv.runs, ?_, inv.notForgotten⟩
    have before : h.reentered = false := inv.notReentered
    simp only [InstallHistory.log, before, clean, Bool.or_false]
  simp only [Call.exec, Answer.orFail] at ran
  split at ran <;> cases ran
  · exact ⟨kept, trivial⟩
  · refine ⟨kept, rfl, ?_⟩
    change startHolds foreground cfg stage _
    rw [shape]
    exact holds

theorem starting_spawn
    (shape : startHolds foreground cfg stage = startHolds foreground cfg (.prepared cfg' s))
    (cfg'' : VMConfig) :
    (starting foreground cfg).Spawns stage cfg' s cfg'' := by
  refine logged (startHolds_stable foreground cfg stage) fun w h ans res w' inv holds _ ran => ?_
  rw [shape] at holds
  simp only [Call.exec] at ran
  split at ran <;> cases ran
  · exact ⟨⟨inv.runs, inv.notReentered, inv.notForgotten⟩, trivial⟩
  · exact ⟨⟨inv.runs, inv.notReentered, inv.notForgotten⟩, holds⟩

theorem starting_load : (starting foreground cfg).Loads :=
  (loadState (B := Undisturbed foreground cfg) (F := fun _ => True)
    (startHolds_stable foreground cfg .entry)
    (fun _ _ holds => ⟨rfl, holds.2⟩) fun _ _ _ => trivial).weaken fun res w after => by
      cases res <;> exact after

theorem starting_checks (running : s.running) : (starting foreground cfg).Checks s where
  check _ := by
    refine logged (startHolds_stable foreground cfg (.loaded s))
      fun w h ans res w' inv holds _ ran => ?_
    obtain ⟨same, -, live, rest⟩ := holds
    have alive : s.pid ∈ w.alive := by
      have := live (by rw [same]; exact running)
      rw [same] at this
      exact this.2
    simp only [Call.exec, alive, decide_true, Option.some.injEq, Prod.mk.injEq] at ran
    obtain ⟨rfl, rfl⟩ := ran
    exact ⟨inv.between w.config false, same, rfl, live, rest⟩
  noProcess none w holds := by
    obtain ⟨same, -, live, -⟩ := holds
    have := live (by rw [same]; exact running)
    rw [same] at this
    exact absurd none this.1

theorem starting_skip (installedAt : Option Nat) : (starting foreground cfg).Saves (.chosen s)
      { s with installState := .ready, installedAt := installedAt }
      (.chosen { s with installState := .ready, installedAt := installedAt }) :=
  save (startHolds_stable foreground cfg (.chosen s)) (fun _ _ _ _ => .inl rfl)
    (fun _ _ chosen => ⟨rfl, chosen.2.1, fun _ => by simp [pendingRun]⟩) fun _ _ _ => trivial

theorem starting_pend (first : s.installState = .unset) (installs : cfg.skipInstall = false)
    (iso : cfg.hasInstallISO) : (starting foreground cfg).Saves (.chosen s)
      { s with installState := .pending } (.chosen { s with installState := .pending }) := by
  refine save (startHolds_stable foreground cfg (.chosen s))
    (fun w h inv chosen => .inr (.inr (Chosen.no_runs inv chosen (by simp [first]))))
    (fun w h chosen => ⟨rfl, chosen.2.1, fun inForeground => ?_⟩) fun _ _ _ => trivial
  have notPending := chosen.2.2 inForeground
  simp [pendingRun, first, installs, iso] at notPending

theorem starting_record (host : Platform) (cfg₁ cfg₂ : VMConfig) (s : VMState)
    (result : StartResult) (startedAt : Nat) (helpers : List Nat) :
    (starting foreground cfg).Saves (.launched cfg₁ s result.pid)
      (runningState host cfg₂ s result startedAt helpers)
      (.recorded (runningState host cfg₂ s result startedAt helpers)) := by
  refine save (startHolds_stable foreground cfg (.launched cfg₁ s result.pid))
    (fun w h inv launched => ?_) (fun w h launched => ⟨rfl, fun inForeground => ?_⟩)
    fun _ _ _ => trivial
  · by_cases ready : s.installState = .ready
    · exact .inl ready
    · exact .inr (.inr (Chosen.no_runs inv launched.1 ready))
  · intro pending
    have notPending := launched.1.2.2 inForeground
    have pending : s.installState = .pending := pending
    simp [pendingRun, pending] at notPending

theorem starting_starts : (starting foreground cfg).Starts cfg where
  load := starting_load
  fails _ _ _ _ := trivial
  checks := starting_checks
  cleans s _ result := ⟨startHolds_stable foreground cfg (.dead s),
    fun _ _ _ _ _ impossible => impossible.elim⟩
  idle s w idle loaded := ⟨loaded.1, idle, by
    have := loaded.2.2.2
    rw [loaded.1] at this
    exact this⟩
  skip s installedAt _ _ := starting_skip s installedAt
  pend := starting_pend
  prepare cfg' s w clean chosen := ⟨chosen, clean⟩
  build cfg' s := starting_build (.prepared cfg' s) cfg' s rfl
  rebuild cfg' s pid cfg'' recovery same :=
    (starting_build (.exited cfg' s pid) cfg' s rfl cfg'' recovery same).weaken
      fun res w after => by
        cases res with
        | ok built => exact after.2
        | error text => exact after
  spawn cfg' s := starting_spawn (.prepared cfg' s) cfg' s rfl
  respawn cfg' s pid := starting_spawn (.exited cfg' s pid) cfg' s rfl
  finds _ _ _ := .of_imp fun _ => id
  exited _ _ _ _ holds := holds
  record := starting_record

theorem starting_detaches : (starting false cfg).Detaches := fun _ _ _ => trivial

theorem starting_blocks : (starting true cfg).Blocks where
  fails _ _ := trivial
  select s := by
    refine logged (startHolds_stable true cfg (.recorded s))
      fun w h ans res w' inv recorded _ ran => ?_
    cases ran
    refine ⟨⟨inv.runs, inv.notReentered, inv.notForgotten⟩, ?_⟩
    cases ans.flag <;> exact recorded
  finds _ := .of_imp fun _ => id
  never s := logged (startHolds_stable true cfg (.recorded s)) fun _ _ _ _ _ _ _ _ ran => by
    cases ran
  writeBack s := by
    refine (save (B := fun _ => True) (F := fun _ => True) (startHolds_stable true cfg (.leaving s))
      (fun w h inv leaving => ?_) (fun _ _ _ => trivial) fun _ _ _ => trivial).weaken
      fun _ _ _ => trivial
    obtain ⟨same, notPending⟩ := leaving
    have same : w.state = s := same
    cases install : s.installState with
    | unset =>
      exact .inr (.inr (inv.no_runs (by simp [same, install]) (.inr (by rw [same]; exact install))))
    | pending => exact absurd install (notPending rfl)
    | ready => exact .inl rfl

end Starting

variable {w : Observed} {α β : Type}

/-- The program keeps the invariant from `w` on; nothing is asked of its result. -/
abbrev Fine (p : VM α) (w : Observed) : Prop :=
  Keeps protocol 0 p w

theorem Fine.quiet {value : α → Prop} {p : VM α}
    (does : p.Does Call.Quiet (Prog.returns value)) : Fine p w :=
  (Outline.quietly_last (o := rest) does trivial).keeps

theorem start_fine (foreground recovery : Bool) (rounds : Nat)
    (undisturbed : Undisturbed foreground w.1.config w) :
    Fine (start host name foreground recovery rounds) w := by
  have steady : protocol.Stable 0 fun w => Undisturbed foreground w.1.config w := by
    refine stable fun w w' h _ _ now holds => ?_
    have busy : h.between = false := holds.1
    simp [busy] at now
  have load : protocol.Triple 0 (fun w => Undisturbed foreground w.1.config w) .loadConfig
      (Returns (Undisturbed foreground)) := by
    refine logged steady fun w h ans res w' inv holds _ ran => ?_
    simp only [Call.exec, Answer.orFail] at ran
    split at ran <;> cases ran
    · exact ⟨inv.between w.config false, trivial⟩
    · exact ⟨inv.between w.config false, rfl, holds.2⟩
  refine Safe.triple load undisturbed fun res w after => ?_
  cases res with
  | error text => exact Keeps.ended _
  | ok cfg =>
    cases foreground with
    | true =>
      exact (starting_blocks.foreground_safe starting_starts after).keeps
    | false =>
      exact (starting_starts.detached_safe starting_detaches after).keeps

theorem list_fine : Fine list w := (rest_lists.list_safe trivial).keeps

/-- The daemon's decision, and the `Start` it may lead to. -/
theorem autoStartVM_fine (cfg : VMConfig) (undisturbed : Undisturbed false w.1.config w) :
    Fine (autoStartVM host cfg) w := by
  have started : ∀ w, Undisturbed false w.1.config w → Fine (daemonStart host cfg) w := by
    intro w undisturbed
    refine (start_fine host cfg.name false false 0 undisturbed).attempt_bind fun result w => ?_
    cases result <;> exact Keeps.ended _
  have load := loadState (B := Undisturbed false cfg) (F := Undisturbed false cfg)
    (startHolds_stable false cfg .entry) (fun _ _ holds => ⟨rfl, holds.2⟩)
    fun _ _ holds => ⟨rfl, holds.2⟩
  refine Safe.triple load (undisturbed.detached cfg) fun res w after => ?_
  cases res with
  | error text => exact started w (Undisturbed.detached after _)
  | ok s =>
    have decided := Safe.of_does (startHolds_stable false cfg .entry)
      ((starting false cfg).quiet .entry) (recordedAlive_quiet s) after.2
    refine decided.bind (fun _ _ _ => trivial) fun alive w now => ?_
    have still : Undisturbed false w.1.config w := Undisturbed.detached now.1 _
    cases alive with
    | true => exact Keeps.ended _
    | false =>
      by_cases wanted : shouldDaemonStart s = true
      · simp only [wanted, Bool.false_eq_true, if_false, Bool.not_true]
        exact started w still
      · simp only [wanted, Bool.false_eq_true, if_false]
        exact Keeps.ended _

theorem startAutoStartVMs_fine (busy : w.2.between = false)
    (live : w.1.config.autoStart → w.1.state.running → w.1.IsAlive w.1.state.pid) :
    Fine (startAutoStartVMs host) w := by
  let Live (w : Observed) : Prop := w.2.between = false ∧
    (w.1.config.autoStart → w.1.state.running → w.1.IsAlive w.1.state.pid)
  have steady : protocol.Stable 0 Live := by
    refine stable fun w w' h _ _ now holds => ?_
    have busy : h.between = false := holds.1
    simp [busy] at now
  have configs : protocol.Triple 0 Live .listAllConfigs
      (Outcome (fun configs w => configs.filter (·.autoStart) = [] ∨
        (∃ cfg, configs.filter (·.autoStart) = [cfg]) ∧ Undisturbed false w.1.config w)
        fun _ => True) := by
    refine logged steady fun w h ans res w' inv holds _ ran => ?_
    obtain ⟨-, live⟩ := holds
    simp only [Call.exec, Answer.orFail] at ran
    split at ran <;> cases ran
    · exact ⟨inv.between w.config false, trivial⟩
    refine ⟨inv.between w.config false, ?_⟩
    by_cases skipped : ans.flag
    · exact .inl (by simp [skipped])
    · by_cases auto : w.config.autoStart
      · exact .inr ⟨⟨w.config, by simp [skipped, auto]⟩, rfl, live auto,
          fun impossible => by cases impossible⟩
      · exact .inl (by simp [skipped, auto])
  refine Safe.triple configs ⟨busy, live⟩ fun res w after => ?_
  cases res with
  | error text => exact Keeps.ended _
  | ok configs =>
    rcases after with none | ⟨⟨cfg, one⟩, undisturbed⟩
    · change Fine (Prog.forEach (autoStartVM host) (configs.filter (·.autoStart)) >>= _) w
      rw [none]
      refine (Keeps.ended (.ok [])).bind fun errors w => ?_
      split <;> exact Keeps.ended _
    · change Fine (Prog.forEach (autoStartVM host) (configs.filter (·.autoStart)) >>= _) w
      rw [one]
      refine Keeps.bind ?_ fun errors w => ?_
      · exact (autoStartVM_fine host cfg undisturbed).bind fun v w => Keeps.ended _
      · split <;> exact Keeps.ended _

theorem adoptRunningVMs_fine : Fine adoptRunningVMs w := by
  refine list_fine.attempt_bind fun entries w => ?_
  cases entries with
  | error text => exact Keeps.ended _
  | ok entries =>
    exact (Keeps.forEach (fun e w => Fine.quiet (adoptVM_quiet e.2)) entries w).bind
      fun _ w => Keeps.ended _

/-- What `KeepsInstall` is to one operation, once it has begun. -/
theorem operation_fine (op : Operation) (busy : w.2.between = false) (keeps : KeepsInstall op w.1) :
    Fine (op.prog host name rounds) w := by
  cases op with
  | start foreground recovery =>
    exact start_fine host name foreground recovery rounds ⟨busy, keeps⟩
  | stop => exact ((rest_stops .user).stop_safe name trivial).keeps
  | forceStop => exact ((rest_stops .user).forceStop_safe name trivial).keeps
  | guestPoweroff => exact (guestPoweroff_safe w).keeps
  | list => exact list_fine.bind fun _ w => Keeps.ended _
  | tick =>
    refine (startAutoStartVMs_fine host busy keeps).attempt_bind fun _ w => ?_
    refine adoptRunningVMs_fine.bind fun _ w => ?_
    exact list_fine.attempt_bind fun _ w => Keeps.ended _

theorem mark_triple (mark : Option Operation) :
    protocol.Triple 0 (fun _ => True) (.mark mark) fun _ w =>
      ∀ op, mark = some op → w.2.between = false ∧ KeepsInstall op w.1 := by
  refine logged (stable fun _ _ _ _ _ _ _ => trivial) fun w h ans res w' inv _ allowed ran => ?_
  cases ran
  refine ⟨inv.between w.config mark.isNone, ?_⟩
  rintro op rfl
  exact ⟨rfl, allowed op rfl⟩

theorem session_fine (ops : List Operation) : Fine (session host name rounds ops) w := by
  have each : ∀ op w, Fine (runOperation host name rounds op) w := by
    intro op w
    refine Safe.triple (mark_triple (some op)) trivial fun _ w after => ?_
    obtain ⟨busy, keeps⟩ := after op rfl
    refine (operation_fine host name rounds op busy keeps).attempt_bind fun _ w => ?_
    exact Safe.triple (mark_triple none) trivial fun _ w _ => Keeps.ended _
  exact (Keeps.forEach each ops w).bind fun _ w => Keeps.ended _

end InstallOnce

/-- A sequence of operations on one VM, and nothing remembered yet. -/
def installStart (host : Platform) (name : String) (rounds : Nat) (ops : List Operation)
    (w : World) : Pool (World × InstallHistory) :=
  ⟨[session host name rounds ops], (w, {})⟩

namespace InstallOnce

theorem initially (host : Platform) (name : String) (rounds : Nat) (ops : List Operation)
    (w : World) : SafePool protocol (fun _ _ _ => True)
      (installStart host name rounds ops w) := by
  have inv : InstallInv (w, {}) := ⟨fun pid mem => (nomatch mem), rfl, rfl⟩
  exact .single inv (session_fine host name rounds ops)

theorem hostKeeps : protocol.HostKeeps := by
  rintro event ⟨w, h⟩ ⟨w', h'⟩ inv - happened
  obtain ⟨-, happened⟩ := Machine.restrict_env happened
  obtain ⟨happened, same⟩ := Machine.withHistory_env happened
  have sameState : w'.state = w.state := (HostEvent.occur_frame happened).1
  subst same
  refine ⟨fun pid mem => ?_, inv.notReentered, inv.notForgotten⟩
  rw [sameState]
  exact inv.runs pid mem

end InstallOnce

/-- In every sequence of operations of which none loses the outcome of the install,
no machine is built with the installer after a run with the install pending has
ended, and the stored install state does not fall back. -/
theorem installer_never_reentered (host : Platform) (name : String) (rounds : Nat)
    (ops : List Operation) (w : World) {c : Pool (World × InstallHistory)}
    (reached : Reach installHost installGuard (installStart host name rounds ops w) c) :
    c.world.2.reentered = false ∧ c.world.2.forgotten = false := by
  have kept := (Reach.safe (InstallOnce.initially host name rounds ops w)
    InstallOnce.hostKeeps reached).inv
  exact ⟨kept.notReentered, kept.notForgotten⟩

def installingVM : World :=
  { config := { name := "vm", disks := [{ path := "install.iso", media := "cdrom" },
      { path := "os.qcow2", media := "disk" }] }
    state := {} }

/-- Two detached starts, the second after the process of the first has died: the
second one builds its machine with the installer again. So the installer is not
kept out of every sequence of operations. -/
theorem installer_reentered_after_stale_record : ∃ c, Reach installHost (.none _)
        (installStart linuxHost "vm" 0 [.start false false, .start false false] installingVM) c ∧
      c.world.2.reentered = true :=
  Reach.of_runs _ _ _ (List.replicate 10 (.run 0 {}) ++ [.env (.exit 1)] ++
    List.replicate 7 (.run 0 {})) _ (by decide)

/-- The same VM with a `List` between the two starts: the machine of the second one
is built from the stripped config. -/
theorem installer_kept_out_after_list :
    ∃ c, Reach installHost installGuard (installStart linuxHost "vm" 0
        [.start false false, .list, .start false false] installingVM) c ∧
      c.world.1.state.installState = .ready ∧ c.world.1.alive = [2] ∧
      c.world.2.reentered = false ∧ c.world.2.forgotten = false := by
  refine Reach.exists_of_runs
    (List.replicate 10 (.run 0 {}) ++ [.env (.exit 1)] ++ List.replicate 16 (.run 0 {}))
    (fun c => c.world.1.state.installState = .ready ∧ c.world.1.alive = [2]) (by decide) ?_
  rintro c reached ⟨ready, alive⟩
  exact ⟨ready, alive, installer_never_reentered linuxHost "vm" 0 _ installingVM reached⟩

end Vee
