import Vee.VM.WorkingHost

/-!
# Autostart follows intent

The intent of the user and the guest is stored twice, as `DesiredState` and as
`LastShutdownReason`. `Steady` ties them to the history of the VM, as long as every stop finds a
record that says Running. A crashed VM whose record has been cleaned up (`cleanupStaleVM`) cannot
be stopped any more: `vee stop` fails, and the next tick starts the VM.
-/

namespace Vee

open List Option

open Prog (forEach)

def ShutdownReason.asksOff (reason : ShutdownReason) : Bool :=
  desiredStateForReason reason = .stopped

def VMState.OfNewRun (s : VMState) : Prop :=
  s.running = true ∧ s.backendName = .qemu ∧ shouldDaemonStart s = true

namespace Intent

/-! ### What ties the record to the history -/

/-- The record of the VM, where `off` says whether the VM was last asked to stay off. -/
structure Steady (off : Bool) (w : World) : Prop where
  autostarted : w.config.Autostarted
  /-- A process that is alive is the one on record. -/
  recorded : ∀ pid ∈ w.alive, w.state.running = true ∧ w.state.pid = pid
  process : w.state.running = true → w.state.pid ≠ 0 ∧ w.state.backendName = .qemu
  /-- What runs was meant to. -/
  meant : w.alive ≠ [] → off = false
  intent : shouldDaemonStart w.state = !off
  pids : 0 < w.nextPid

/-- No process is alive; the process ids from `n` on have been handed out since some moment. -/
structure Idle (n : Nat) (w : World) : Prop where
  autostarted : w.config.Autostarted
  idle : w.alive = []
  pids : 0 < w.nextPid
  grown : n ≤ w.nextPid

structure Launched (n pid : Nat) (w : World) : Prop where
  autostarted : w.config.Autostarted
  only : ∀ other ∈ w.alive, other = pid
  positive : pid ≠ 0
  grown : n < w.nextPid

section Steady

variable {exits off : Bool} {n pid : Nat} {w w' : World}

/-- A process is gone, and nothing else has happened. -/
theorem Steady.fewer (steady : Steady off w)
    (rest : w'.config = w.config ∧ w'.state = w.state ∧ w'.nextPid = w.nextPid)
    (fewer : ∀ pid ∈ w'.alive, pid ∈ w.alive) : Steady off w' where
  autostarted := rest.1 ▸ steady.autostarted
  recorded pid mem := rest.2.1 ▸ steady.recorded pid (fewer pid mem)
  process := rest.2.1 ▸ steady.process
  meant some := steady.meant fun none => by
    obtain ⟨pid, mem⟩ := exists_mem_of_ne_nil _ some
    have := fewer pid mem
    rw [none] at this
    cases this
  intent := rest.2.1 ▸ steady.intent
  pids := rest.2.2 ▸ steady.pids

theorem Steady.tolerant : Tolerant exits (Steady off) where
  config _ fits now := { now with autostarted := fits }
  lose _ _ now := now.fewer ⟨rfl, rfl, rfl⟩ fun _ mem => (mem_filter.mp mem).1

theorem Idle.tolerant : Tolerant exits (Idle n) where
  config _ fits now := { now with autostarted := fits }
  lose _ _ now := { now with idle := by simp [World.lose, now.idle] }

theorem Launched.tolerant : Tolerant exits (Launched n pid) where
  config _ fits now := { now with autostarted := fits }
  lose _ _ now := { now with only := fun other mem => now.only other (mem_filter.mp mem).1 }

/-- Without a process, only what the record says of the intent matters. -/
theorem Idle.steady (idle : Idle n w) (ended : w.state.running = false)
    (intent : shouldDaemonStart w.state = !off) : Steady off w where
  autostarted := idle.autostarted
  recorded pid mem := by rw [idle.idle] at mem; cases mem
  process running := by rw [ended] at running; cases running
  meant some := absurd idle.idle some
  intent := intent
  pids := idle.pids

theorem Steady.idle (steady : Steady off w) (grown : n ≤ w.nextPid)
    (dead : w.state.running = true → ¬ w.IsAlive w.state.pid) : Idle n w where
  autostarted := steady.autostarted
  idle := by
    refine eq_nil_iff_forall_not_mem.mpr fun pid mem => ?_
    obtain ⟨running, rfl⟩ := steady.recorded pid mem
    exact dead running ⟨(steady.process running).1, mem⟩
  pids := steady.pids
  grown := grown

theorem Launched.idle (launched : Launched n pid w) (dead : ¬ w.IsAlive pid) : Idle (n + 1) w where
  autostarted := launched.autostarted
  idle := by
    refine eq_nil_iff_forall_not_mem.mpr fun other mem => ?_
    obtain rfl := launched.only other mem
    exact dead ⟨launched.positive, mem⟩
  pids := Nat.lt_of_le_of_lt (Nat.zero_le n) launched.grown
  grown := launched.grown

theorem Idle.saveState (context : String) (s : VMState) :
    Works exits (Idle n) (saveState context s) (Ends fun _ => Idle n) :=
  (Idle.tolerant.saveState context s).pre (fun _ idle => { idle with })

theorem Idle.cleanupStaleVM (s : VMState) :
    Works exits (Idle n) (cleanupStaleVM s) (Ends fun _ => Idle n) := by
  refine .seq (Idle.tolerant.mildly (staleResult_quiet s)) fun result => ?_
  exact (Idle.tolerant.saveState_last _).pre (fun _ idle => { idle with })

end Steady

/-! ### Stops -/

section Stops

variable {exits off : Bool} {s : VMState} {reason : ShutdownReason}

theorem shouldDaemonStart_stopped (s : VMState) (reason : ShutdownReason) :
    shouldDaemonStart (s.stopped reason) = !reason.asksOff := by
  cases reason <;> rfl

/-- The record says that process `s.pid` runs. -/
def Runs (off : Bool) (s : VMState) (w : World) : Prop :=
  s.running = true ∧ w.state = s ∧ Steady off w

theorem Runs.tolerant : Tolerant exits (Runs off s) :=
  .and (.state fun _ => s.running = true) (.and (.state (· = s)) Steady.tolerant)

theorem Runs.idle {w : World} (runs : Runs off s w) (dead : ¬ w.IsAlive s.pid) : Idle 0 w := by
  obtain ⟨-, rfl, steady⟩ := runs
  exact steady.idle (Nat.zero_le _) fun _ => dead

theorem killIfAlive_meets :
    Works exits (Runs off s) (killIfAlive s.pid) (Ends fun _ => Idle 0) := by
  refine .seq (Runs.tolerant.isAlive s.pid) fun alive => ?_
  cases alive with
  | false => exact .done fun w ⟨dead, runs⟩ => runs.idle fun live => by cases dead.mpr live
  | true =>
    refine (Runs.tolerant.asked _ (fun _ => Idle 0) ?_).pre fun w now => now.2
    rintro w ans res w' ⟨-, rfl, steady⟩ - ran
    cases ran
    refine
      { autostarted := steady.autostarted, idle := ?_, pids := steady.pids, grown := Nat.zero_le _ }
    refine eq_nil_iff_forall_not_mem.mpr fun pid mem => ?_
    obtain ⟨left, other⟩ := mem_filter.mp mem
    have same := (steady.recorded pid left).2
    simp [same] at other

/-- Once the process is gone, the record says what the stop was for. -/
theorem finishStop_meets : Works exits (Idle 0) (finishStop s reason)
      (Ends fun _ => Steady reason.asksOff) := by
  refine .seq (Idle.tolerant.mildly unregisterStoredHostname_quiet) fun _ => ?_
  refine (Steady.tolerant.saveState "" (s.stopped reason)).pre (fun w idle => ?_)
  exact Idle.steady (n := 0) { idle with } rfl (shouldDaemonStart_stopped s reason)

/-- A stop that finds nothing to stop leaves everything as it is; any other one records its
reason. -/
def StopLeft (off : Bool) (reason : ShutdownReason) (s : VMState) (w : World) : Prop :=
  (s.running = false ∧ Steady off w) ∨ Steady reason.asksOff w

variable {name : String}

/-- Both stops: they end in the same way, whatever they try first. -/
theorem stop_meets {first : VM Unit} {signal : Nat → Action} (mild : first.Completes Call.Mild) :
    Works exits (fun w => w.state = s ∧ Steady off w)
      (if !s.running || s.pid = 0 then throw (notRunning name)
      else do
        first
        killIfAlive s.pid
        signalHelpers signal s.virtiofsdPIDs
        finishStop s reason)
      fun _ w => StopLeft off reason s w := by
  split
  · rename_i nothing
    refine .done fun w ⟨same, steady⟩ => .inl ⟨?_, steady⟩
    subst same
    by_contra running
    have running : w.state.running = true := by simpa using running
    have positive := (steady.process running).1
    simp [running, positive] at nothing
  · rename_i something
    have running : s.running = true := by
      by_contra stopped
      simp [stopped] at something
    refine (Meets.seq (Runs.tolerant.mildly mild) fun _ =>
      .seq killIfAlive_meets fun _ =>
      .seq (Idle.tolerant.mildly (signalHelpers_quiet _ _)) fun _ =>
      finishStop_meets).pre (fun w now => ⟨running, now⟩) |>.of_ends fun _ w left => .inr left

theorem loaded_meets {stop : VMState → VM Unit} (stops : ∀ s, Works exits
      (fun w => w.state = s ∧ Steady off w) (stop s) fun _ => StopLeft off reason s) :
    Works exits (fun w => w.state = s ∧ Steady off w) (loadState >>= stop)
      fun _ w => StopLeft off reason s w := by
  have tolerant : Tolerant exits fun w => w.state = s ∧ Steady off w :=
    .and (.state (· = s)) Steady.tolerant
  refine .bind_ends tolerant.loadState fun found => ?_
  rintro w result w' ⟨rfl, rfl, steady⟩ ran
  exact stops _ ⟨rfl, steady⟩ ran

theorem stopWithReason_meets :
    Works exits (fun w => w.state = s ∧ Steady off w) (stopWithReason name reason)
      fun _ w => StopLeft off reason s w := by
  refine loaded_meets fun s => ?_
  have first : (do perform (.gracefulShutdown s); waitExit s.pid 60 : VM Unit).Completes
      Call.Mild :=
    .bind (perform_quiet _) fun _ _ => waitExit_quiet _ _
  exact stop_meets first

theorem forceStopWithReason_meets :
    Works exits (fun w => w.state = s ∧ Steady off w) (forceStopWithReason name reason)
      fun _ w => StopLeft off reason s w := by
  refine loaded_meets fun s => ?_
  have first : (pure () : VM Unit).Completes Call.Mild := trivial
  exact stop_meets first

end Stops

/-! ### Lists -/

section Lists

variable {exits off : Bool} {s : VMState} {ids : Nat → Prop}

/-- The assertion of everything that neither starts nor stops anything. -/
def Settled (off : Bool) (ids : Nat → Prop) (w : World) : Prop := Steady off w ∧ ids w.nextPid

theorem Settled.tolerant : Tolerant exits (Settled off ids) := .and Steady.tolerant (.nextPid ids)

/-- The cleanup of a QEMU run does not change what the daemon reads. -/
theorem shouldDaemonStart_stale (qemu : s.backendName = .qemu) (result : Option VZResult) :
    shouldDaemonStart (s.stale result) = shouldDaemonStart s := by
  have other : ¬ (s.lastShutdownReason = .unset ∧ s.backendName = .vz ∧
      result.any (·.cleanPoweroff)) := by simp [qemu]
  by_cases unset : s.lastShutdownReason = .unset
  · simp [VMState.stale, shouldDaemonStart, unset, qemu]
  · simp [VMState.stale, shouldDaemonStart, unset]

theorem cleanupStaleVM_meets (running : s.running = true) :
    Works exits (fun w => Idle 0 w ∧ w.state = s ∧ Settled off ids w)
      (cleanupStaleVM s) (Ends fun _ => Settled off ids) := by
  have tolerant : Tolerant exits fun w => Idle 0 w ∧ w.state = s ∧ Settled off ids w :=
    .and Idle.tolerant (.and (.state (· = s)) Settled.tolerant)
  refine .seq (tolerant.mildly (staleResult_quiet s)) fun result => ?_
  refine (Settled.tolerant.saveState_last (s.stale result)).pre ?_
  rintro w ⟨idle, rfl, steady, known⟩
  refine ⟨Idle.steady (n := 0) { idle with } rfl ?_, known⟩
  exact (shouldDaemonStart_stale (steady.process running).2 result).trans steady.intent

theorem listEntry_meets (cfg : VMConfig) : Works exits (Settled off ids) (listEntry cfg)
      (Ends fun _ => Settled off ids) := by
  have loaded : Works exits (Settled off ids) (ask .loadState)
      (Ends fun found w => w.state = found.toOption.getD {} ∧ Settled off ids w) := by
    exact Settled.tolerant.loadState_call.ends fun res w found =>
      ⟨by rw [found.1]; rfl, found.2⟩
  refine .seq loaded fun found => ?_
  have tolerant : Tolerant exits fun w => w.state = found.toOption.getD {} ∧ Settled off ids w :=
    .and (.state (· = _)) Settled.tolerant
  dsimp only
  split
  · rename_i running
    refine .seq (tolerant.isAlive _) fun alive => ?_
    cases alive with
    | true => exact .done fun w now => now.2.2
    | false =>
      refine .seq ((cleanupStaleVM_meets running).pre ?_) fun _ => .done fun _ => id
      rintro w ⟨dead, same, settled⟩
      rw [← same] at dead
      exact ⟨settled.1.idle (Nat.zero_le _) fun _ live => by (cases dead.mpr live), same, settled⟩
  · exact .done fun w now => now.2

theorem forEach_meets {α β : Type} {holds : World → Prop} {f : α → VM β}
    (each : ∀ x, Works exits holds (f x) (Ends fun _ => holds)) (xs : List α) :
    Works exits holds (forEach f xs) (Ends fun _ => holds) :=
  .forEach (fun _ _ => holds) (fun _ => False) xs fun _ x _ _ _ => each x

theorem list_meets : Works exits (Settled off ids) list (Ends fun _ => Settled off ids) := by
  refine .seq (Settled.tolerant.asked .listAllConfigs
    (fun configs w => (∃ found, configs = .ok found) ∧ Settled off ids w) ?_) fun configs => ?_
  · intro w ans configs w' settled works ran
    cases ran
    exact ⟨⟨_, Answer.orFail_works (Bool.and_eq_true_iff.mp works).1⟩, settled⟩
  · refine .given fun ⟨found, fine⟩ => ?_
    subst fine
    exact forEach_meets listEntry_meets found

end Lists

/-! ### Starts -/

section Starts

variable {exits off : Bool} {n : Nat} {cfg : VMConfig} {s : VMState} {host : Platform}
  {name : String} {busy : Prop} {recovery : Bool} {result : StartResult}

/-- Where a start comes in; `busy` is a fact if something runs. -/
def Entering (off : Bool) (n : Nat) (busy : Prop) (w : World) : Prop :=
  Steady off w ∧ n ≤ w.nextPid ∧ (w.alive ≠ [] → busy)

theorem Entering.tolerant : Tolerant exits (Entering off n busy) := by
  refine .and Steady.tolerant (.and (.nextPid (n ≤ ·)) (.alive (· ≠ [] → busy) ?_))
  intro pids kept fewer known some
  refine known fun none => some ?_
  subst none
  exact eq_nil_iff_forall_not_mem.mpr fun pid mem => by cases fewer pid mem

/-- A start fails only because the VM is running. Otherwise a process is launched. -/
def Started (n : Nat) (busy : Prop) (w : World) : Prop := Steady false w ∧ (n < w.nextPid ∨ busy)

theorem Started.tolerant : Tolerant exits (Started n busy) :=
  .and Steady.tolerant (.nextPid fun next => n < next ∨ busy)

/-- The config that a part of the start goes on with. -/
abbrev Goes {β : Type} (n : Nat) : Except String (VMConfig × β) → World → Prop :=
  Ends fun next w => next.1.Autostarted ∧ Idle n w

theorem checkNotRunning_meets : Works exits (fun w => w.state = s ∧ Entering off n busy w)
      (checkNotRunning name cfg s) (Outcome (fun _ => Idle n) (Started n busy)) := by
  have tolerant : Tolerant exits fun w => w.state = s ∧ Entering off n busy w :=
    .and (.state (· = s)) Entering.tolerant
  unfold checkNotRunning
  split
  · refine .bind_ends (tolerant.isAlive s.pid) fun alive => ?_
    cases alive with
    | true =>
      refine .done fun w ⟨live, same, steady, grown, known⟩ => ?_
      have some : w.alive ≠ [] := ne_nil_of_mem (live.mp rfl).2
      exact ⟨steady.meant some ▸ steady, .inr (known some)⟩
    | false =>
      refine Meets.pre ?_ (fun w ⟨dead, same, steady, grown, _⟩ => steady.idle (n := n) grown
        fun _ live => ?_)
      · refine .bind_ends (Idle.tolerant.mildly (unregisterHostname_quiet cfg)) fun _ => ?_
        exact .bind_ends (Idle.cleanupStaleVM s) fun _ => .done fun _ => id
      · rw [same] at live
        cases dead.mpr live
  · rename_i stopped
    refine .done fun w ⟨same, steady, grown, _⟩ => ?_
    subst same
    exact steady.idle grown fun running => absurd running stopped

theorem freeTCPPort_meets : Works exits (Idle n) (ask .freeTCPPort)
      (Ends fun port w => (∃ found, port = .ok found) ∧ Idle n w) := by
  refine Idle.tolerant.asked _ _ fun w ans port w' idle works ran => ?_
  cases ran
  exact ⟨⟨_, Answer.orFail_works works⟩, idle⟩

section

variable (fits : cfg.Autostarted)

include fits

theorem skipInstall_meets : Works exits (Idle n) (skipInstall cfg s) (Goes n) := by
  unfold skipInstall
  split
  · refine .seq (Idle.tolerant.mildly (deleteScratchDisks_quiet cfg)) fun _ => ?_
    refine .seq (Idle.tolerant.saveConfig _ fits) fun _ => ?_
    refine .seq (Idle.tolerant.mildly (.ask (.inl trivial))) fun now => ?_
    exact .seq (Idle.saveState _ _) fun _ => .done fun _ idle => ⟨fits, idle⟩
  · exact .done fun _ idle => ⟨fits, idle⟩

theorem stripInstaller_meets : Works exits (Idle n) (stripInstaller cfg)
      (Ends fun cfg w => cfg.Autostarted ∧ Idle n w) := by
  refine .seq (Idle.tolerant.mildly (deleteScratchDisks_quiet cfg)) fun _ => ?_
  split
  · exact .seq (Idle.tolerant.saveConfig _ fits) fun _ => .done fun _ idle => ⟨fits, idle⟩
  · exact .done fun _ idle => ⟨fits, idle⟩

theorem installPass_meets : Works exits (Idle n) (installPass cfg s) (Goes n) := by
  unfold installPass
  split
  · split
    · exact .seq (Idle.saveState _ _) fun _ => .done fun _ idle => ⟨fits, idle⟩
    · exact .done fun _ idle => ⟨fits, idle⟩
  · exact .done fun _ idle => ⟨fits, idle⟩
  · exact .seq (stripInstaller_meets fits) fun _ => .done fun _ => id

theorem reallocSPICE_meets : Works exits (Idle n) (reallocSPICE cfg)
      (Ends fun cfg w => cfg.Autostarted ∧ Idle n w) := by
  unfold reallocSPICE
  split
  · exact .done fun _ idle => ⟨fits, idle⟩
  split
  · refine .seq (Idle.tolerant.mildly (query_quiet _)) fun used => ?_
    split
    · refine .seq freeTCPPort_meets fun port => .given fun ⟨found, fine⟩ => ?_
      subst fine
      refine .bind_value (.seq (Idle.tolerant.saveConfig _ fits) fun _ => ?_)
      exact .done fun _ idle => ⟨fits, idle⟩
    · exact .done fun _ idle => ⟨fits, idle⟩
  · exact .done fun _ idle => ⟨fits, idle⟩

theorem buildBackendMachine_meets {context : String} :
    Works exits (Idle n) (buildBackendMachine context cfg recovery) (Goes n) := by
  refine .seq (Idle.tolerant.asked (.buildBackendMachine cfg recovery)
    (fun built w => (∃ next, built = .ok next ∧ next.1.Autostarted) ∧ Idle n w) ?_) fun built => ?_
  · intro w ans built w' idle works ran
    cases ran
    exact ⟨⟨_, Answer.orFail_works works, fits⟩, idle⟩
  · refine .given fun ⟨next, fine, fits⟩ => ?_
    subst fine
    exact .done fun _ idle => ⟨fits, idle⟩

theorem spawn_meets : Works exits (Idle n) (startDetached cfg)
      (Ends fun next w => next.1.Autostarted ∧ Launched n next.2.pid w) := by
  have direct : beforeSpawn cfg = pure cfg := by simp [beforeSpawn, fits.2]
  rw [startDetached, direct]
  change Meets _ _ (ask (.spawn cfg) >>= _) _
  refine .seq (Idle.tolerant.asked (.spawn cfg)
    (fun launched w => ∃ result, launched = .ok result ∧ Launched n result.pid w) ?_)
    fun launched => ?_
  · intro w ans launched w' idle works ran
    simp only [Call.works, isNone_iff_eq_none] at works
    simp only [Call.exec, works, some.injEq, Prod.mk.injEq] at ran
    obtain ⟨rfl, rfl⟩ := ran
    refine ⟨_, rfl, idle.autostarted, ?_, ?_, ?_⟩
    · intro other mem
      rcases mem_cons.mp mem with same | old
      · exact same
      · rw [idle.idle] at old
        cases old
    · have := idle.pids
      dsimp only
      omega
    · have := idle.grown
      change n < w.nextPid + ans.num + 1
      omega
  · refine .of_exists fun result => .given fun fine => ?_
    subst fine
    exact .done fun _ launched => ⟨fits, launched⟩

theorem restartWithoutGL_meets : Works exits (fun w => Launched n result.pid w ∧ Idle (n + 1) w)
      (restartWithoutGL cfg recovery result) (Ends fun result => Launched n result.pid) := by
  refine .seq ((Launched.tolerant.and Idle.tolerant).mildly (query_quiet _)) fun crashed => ?_
  split
  · have fits' : { cfg with gpu := { cfg.gpu with disableGL := true } }.Autostarted := fits
    refine Meets.pre ?_ (fun _ now => now.2)
    refine .seq (buildBackendMachine_meets fits') fun built => .given fun fits => ?_
    refine .seq (spawn_meets fits) fun next => .done fun w launched => ?_
    exact { launched.2 with grown := Nat.lt_of_succ_lt launched.2.grown }
  · exact .done fun _ now => now.1

theorem retryStartWithoutGL_meets : Works exits (Launched n result.pid)
      (retryStartWithoutGL host cfg recovery result)
      (Ends fun result => Launched n result.pid) := by
  unfold retryStartWithoutGL
  split
  · exact .done fun _ => id
  · refine .seq (Launched.tolerant.isAlive result.pid) fun alive => ?_
    cases alive with
    | true => exact .done fun _ now => now.2
    | false =>
      refine (restartWithoutGL_meets fits).pre (fun w ⟨dead, launched⟩ => ⟨launched, ?_⟩)
      exact launched.idle fun live => by cases dead.mpr live

theorem runningState_ofNewRun {startedAt : Nat} {pids : List Nat} :
    (runningState host cfg s result startedAt pids).OfNewRun := by
  refine ⟨rfl, ?_, rfl⟩
  simp only [VMState.backendName, runningState, fits.2]
  rfl

end

variable {foreground : Bool} {rounds : Nat}

theorem launch_meets (fits : cfg.Autostarted) :
    Works exits (Idle n) (launch host cfg s foreground recovery)
      (Ends fun next w => next.1.Autostarted ∧ next.2.OfNewRun ∧ Launched n next.2.pid w) := by
  refine .seq (reallocSPICE_meets fits) fun cfg => .given fun fits => ?_
  refine .seq (buildBackendMachine_meets fits) fun built => .given fun fits => ?_
  refine .seq (Idle.tolerant.saveConfig _ fits) fun _ => ?_
  refine .seq (spawn_meets fits) fun next => .given fun fits => ?_
  refine .seq (retryStartWithoutGL_meets fits) fun result => ?_
  refine .seq (Launched.tolerant.mildly (.ask (.inl trivial))) fun now => ?_
  exact .done fun w launched => ⟨fits, runningState_ofNewRun fits, launched⟩

theorem Launched.steady {w : World} (launched : Launched n s.pid w) (new : s.OfNewRun) :
    Started n busy { w with state := s } where
  left :=
    { autostarted := launched.autostarted
      recorded := fun pid mem => ⟨new.1, (launched.only pid mem).symm⟩
      process := fun _ => ⟨launched.positive, new.2.1⟩
      meant := fun _ => rfl
      intent := new.2.2
      pids := Nat.lt_of_le_of_lt (Nat.zero_le n) launched.grown }
  right := .inl launched.grown

theorem Launched.saveState (busy : Prop) (new : s.OfNewRun) (context : String) :
    Works exits (Launched n s.pid) (saveState context s)
      (Ends fun _ w => Started n busy w ∧ Launched n s.pid w) :=
  ((Started.tolerant.and Launched.tolerant).saveState context s).pre
    (fun _ launched => ⟨launched.steady new, { launched with }⟩)

theorem runDetached_meets (fits : cfg.Autostarted) (new : s.OfNewRun) :
    Works exits (Launched n s.pid) (runDetached cfg s)
      (Ends fun _ => Started n busy) := by
  refine .seq (Launched.saveState busy new "") fun _ => ?_
  refine Meets.pre ?_ (fun _ now => now.1)
  refine .seq (Started.tolerant.mildly (watchGuest_quiet cfg s)) fun _ => ?_
  exact Started.tolerant.mildly (registerGuest_quiet fun key user => .inr ⟨_, rfl, fits⟩)

theorem selectForeground_meets {pid : Nat} : Works exits (Launched n pid) (ask .selectForeground)
      (Ends fun cancelled w => cancelled = false ∧ Launched n pid w) := by
  refine Launched.tolerant.asked _ _ fun w ans cancelled w' launched works ran => ?_
  cases ran
  exact ⟨by simpa [Call.works] using works, launched⟩

theorem waitForeground_meets (new : s.OfNewRun) (rounds : Nat) :
    Works exits (Launched n s.pid) (waitForeground s rounds)
      (Ends fun _ => Started n busy) := by
  induction rounds with
  | zero =>
    refine .call (fun _ _ => False) ?_ fun _ => .done fun _ impossible => impossible.elim
    intro w ans res w' _ ran
    cases (workingHost_exec ran).2.2
  | succ rounds ih =>
    refine .seq selectForeground_meets fun cancelled => .given fun waiting => ?_
    subst waiting
    refine .seq (Launched.tolerant.isAlive s.pid) fun alive => ?_
    cases alive with
    | true => exact ih.pre (fun _ now => now.2)
    | false =>
      refine (Started.tolerant.saveState_last _).pre (fun w now => ?_)
      have idle := now.2.idle fun live => by cases now.1.mpr live
      exact ⟨Idle.steady (n := n + 1) { idle with } rfl new.2.2, .inl idle.grown⟩

theorem runForeground_meets (new : s.OfNewRun) (rounds : Nat) :
    Works exits (Launched n s.pid) (runForeground s rounds)
      (Ends fun _ => Started n busy) := by
  refine .seq (Launched.saveState busy new _) fun _ => ?_
  exact (waitForeground_meets new rounds).pre (fun _ now => now.2)

theorem loadConfig_meets : Works exits (Entering off n busy) loadConfig
      (Ends fun cfg w => cfg.Autostarted ∧ Entering off n busy w) := by
  refine .seq (Entering.tolerant.asked .loadConfig
    (fun found w => (∃ cfg, found = .ok cfg ∧ cfg.Autostarted) ∧ Entering off n busy w) ?_)
    fun found => ?_
  · intro w ans found w' entering works ran
    cases ran
    exact ⟨⟨_, Answer.orFail_works works, entering.1.autostarted⟩, entering⟩
  · refine .given fun ⟨cfg, fine, fits⟩ => ?_
    subst fine
    exact .done fun _ entering => ⟨fits, entering⟩

theorem startWith_meets (fits : cfg.Autostarted) : Works exits (Entering off n busy)
      (startWith host name foreground recovery rounds cfg)
      (Either (Started n busy) (Started n busy)) := by
  refine .bind_ends Entering.tolerant.loadState fun s => ?_
  refine .bind checkNotRunning_meets (fun _ _ => id) fun s => ?_
  refine Meets.of_ends (?_ : Works exits _ _ (Ends fun _ => Started n busy)) fun _ _ => id
  refine .seq (skipInstall_meets fits) fun next => .given fun fits => ?_
  refine .seq (installPass_meets fits) fun next => .given fun fits => ?_
  refine .seq (launch_meets fits) fun next => .given fun fits => .given fun new => ?_
  dsimp only
  split
  · exact runForeground_meets new rounds
  · exact runDetached_meets fits new

theorem start_meets : Works exits (Entering off n busy) (start host name foreground recovery rounds)
      fun _ => Started n busy := by
  refine .bind_ends loadConfig_meets fun cfg =>
    .given fun fits => ?_
  refine (startWith_meets fits).weaken (fun _ => id) fun result w ended => ?_
  cases result <;> exact ended

end Starts

/-! ### The daemon and the guest -/

section Daemon

variable {off : Bool} {n : Nat} {host : Platform} {name : String} {pids : List Nat} {exits : Bool}

theorem listAutoStart_meets {holds : World → Prop} (tolerant : Tolerant false holds)
    (autostarted : ∀ w, holds w → w.config.Autostarted) :
    Works false holds listAutoStart
      (Ends fun cfgs w => (∃ cfg, cfgs = [cfg]) ∧ holds w) := by
  refine .seq (tolerant.asked .listAllConfigs (fun configs w =>
    (∃ cfg : VMConfig, configs = .ok [cfg] ∧ cfg.Autostarted) ∧ holds w) ?_) fun configs => ?_
  · intro w ans configs w' now works ran
    obtain ⟨fine, listed⟩ := Bool.and_eq_true_iff.mp works
    cases ran
    refine ⟨⟨w.config, ?_, autostarted _ now⟩, now⟩
    rw [Answer.orFail_works fine, if_neg (by simpa using listed)]
  · refine .given fun ⟨cfg, fine, fits⟩ => ?_
    subst fine
    exact .done fun w now => ⟨⟨cfg, by simp [fits.1]⟩, now⟩

/-- What an autostart pass comes to: it launches a process if none is alive, and the VM was not
last asked to stay off. -/
def Passed (off : Bool) (n : Nat) (pids : List Nat) : World → Prop :=
  Settled off fun next => n < next ↔ pids = [] ∧ off = false

variable {cfg : VMConfig} {s : VMState} {w w' : World}

def Before (off : Bool) (n : Nat) (pids : List Nat) (w : World) : Prop :=
  Steady off w ∧ n = w.nextPid ∧ w.alive = pids

theorem Before.tolerant : Tolerant false (Before off n pids) :=
  .and Steady.tolerant (.and (.nextPid (n = ·)) (.sameAlive pids))

theorem daemonStart_meets (none : pids = []) (wanted : off = false) :
    Works false (Before off n pids) (daemonStart host cfg)
      (Ends fun _ => Passed off n pids) := by
  have started : Works false (Before off n pids)
      (start host cfg.name false false 0) fun _ => Passed off n pids := by
    refine start_meets.weaken (fun w ⟨steady, same, alive⟩ =>
      ⟨steady, Nat.le_of_eq same, fun some => some (alive.trans none)⟩)
        fun _ w ⟨steady, grown⟩ => ?_
    rw [wanted]
    exact ⟨steady, by simp [none, grown.resolve_right id]⟩
  refine .bind_ok started.attempt fun result => ?_
  cases result <;> exact .done fun _ => id

theorem decision_meets : Works false (fun w => s = w.state ∧ Before off n pids w) (do
        if ← recordedAlive s then return none
        else if !shouldDaemonStart s then return none
        else daemonStart host cfg) (Ends fun _ => Passed off n pids) := by
  have tolerant : Tolerant false fun w => s = w.state ∧ Before off n pids w :=
    .and (.state (s = ·)) Before.tolerant
  refine .seq (tolerant.recordedAlive s) fun alive => ?_
  cases alive with
  | true =>
    refine .done fun w ⟨live, _, steady, same, known⟩ => ⟨steady, ?_⟩
    have some : pids ≠ [] := known ▸ ne_nil_of_mem (live.mp rfl).2.2
    simp [same, some]
  | false =>
    simp only [Bool.false_eq_true, if_false]
    split
    · rename_i unwanted
      refine .done fun w ⟨_, loaded, steady, same, known⟩ => ⟨steady, ?_⟩
      have asked : off = true := by simpa [loaded, steady.intent] using unwanted
      simp [same, asked]
    · rename_i wanted
      rintro w result w' ⟨dead, loaded, steady, same, known⟩ ran
      have none : pids = [] := by
        subst loaded
        exact known.symm.trans (steady.idle (n := 0) (Nat.zero_le _)
          fun running live => by cases dead.mpr ⟨running, live⟩).idle
      have wanted : off = false := by simpa [loaded, steady.intent] using wanted
      exact daemonStart_meets none wanted ⟨steady, same, known⟩ ran

theorem autoStartVM_meets : Works false (Before off n pids) (autoStartVM host cfg)
      (Ends fun _ => Passed off n pids) := by
  refine .seq Before.tolerant.loadState_call fun found => ?_
  cases found with
  | error text => exact fun w _ _ impossible => by cases impossible.1
  | ok s =>
    exact decision_meets.pre (fun w ⟨loaded, before⟩ => ⟨Except.ok.inj loaded, before⟩)

theorem startAutoStartVMs_meets : Works false (Before off n pids) (startAutoStartVMs host)
      fun _ => Passed off n pids := by
  refine .bind_ends (listAutoStart_meets Before.tolerant fun _ now => now.1.autostarted)
    fun cfgs => .given fun ⟨cfg, one⟩ => ?_
  subst one
  have pass : Works false (Before off n pids)
      (forEach (autoStartVM host) [cfg]) (Ends fun _ => Passed off n pids) :=
    .seq autoStartVM_meets fun _ => .done fun _ => id
  refine .bind_ends pass fun errors => ?_
  split <;> exact .done fun _ => id

theorem adoptRunningVMs_meets {ids : Nat → Prop} :
    Works false (Settled off ids) adoptRunningVMs (Ends fun _ => Settled off ids) := by
  refine .bind_attempt list_meets fun entries => ?_
  exact .seq (forEach_meets (fun e => Settled.tolerant.mildly (adoptVM_quiet e.2)) entries)
    fun _ => .done fun _ => id

theorem tick_meets : Works false (Before off n pids) (tick host) fun _ => Passed off n pids := by
  refine .bind_ok startAutoStartVMs_meets.attempt fun _ => ?_
  refine .bind_ends adoptRunningVMs_meets fun _ => ?_
  have swept : Works false (Passed off n pids) list _ := list_meets
  exact .bind_attempt swept fun entries => .done fun _ => id

theorem stop_keeps {reason : ShutdownReason} (same : reason.asksOff = off) :
    Works exits (Steady off) (stopWithReason name reason) fun _ => Steady off := by
  intro w result w' steady ran
  rcases stopWithReason_meets (s := w.state) ⟨rfl, steady⟩ ran with ⟨-, steady⟩ | steady
  · exact steady
  · exact same ▸ steady

theorem runningEntries_meets (entries : List (VMConfig × VMState)) :
    Works exits (Steady off) (runningEntries entries)
      (Ends fun running w => (running ≠ [] → off = false) ∧ Steady off w) := by
  -- a process that was found alive was meant to run
  have each : ∀ e : VMConfig × VMState, Works exits (Steady off)
      (do return (e, ← recordedAlive e.2))
      (Ends fun checked w => (checked.2 = true → off = false) ∧ Steady off w) := by
    intro e
    refine .seq (Steady.tolerant.recordedAlive e.2) fun alive => ?_
    refine .done fun w ⟨live, steady⟩ => ⟨fun yes => ?_, steady⟩
    exact steady.meant (ne_nil_of_mem (live.mp yes).2.2)
  refine .seq (.forEach_all fun e _ => each e) fun checked => ?_
  refine .done fun w ⟨found, steady⟩ => ⟨fun some => ?_, steady⟩
  obtain ⟨entry, mem⟩ := exists_mem_of_ne_nil _ some
  obtain ⟨checked, mem, -⟩ := mem_map.mp mem
  exact found checked (mem_filter.mp mem).1 (mem_filter.mp mem).2

theorem list_keeps : Works exits (Steady off) list (Ends fun _ => Steady off) := by
  have all : Works exits (Settled off fun _ => True) list _ := list_meets
  exact (all.pre fun _ steady => ⟨steady, trivial⟩).ends fun _ _ listed => listed.1

theorem stopAllRunning_meets :
    Works exits (Steady off) (stopAllRunning .host) fun _ => Steady off := by
  refine .bind_attempt list_keeps fun found => ?_
  refine .bind_value (.bind_ends (runningEntries_meets found) fun running => .given fun meant => ?_)
  -- the stops keep the intent: if there is anything to stop, it was meant to run
  have stops : Works exits (Steady off) (forEach (stopEntry .host) running)
      (Ends fun _ => Steady off) := by
    cases running with
    | nil => exact .done fun _ => id
    | cons first rest =>
      have wanted : ShutdownReason.host.asksOff = off := (meant nofun).symm
      refine forEach_meets (fun entry => ?_) _
      refine .bind_ok (stop_keeps wanted).attempt fun result => ?_
      cases result <;> exact .done fun _ => id
  refine .bind_ends stops fun errors => ?_
  split <;> exact .done fun _ => id

theorem runningVMCount_meets :
    Works exits (Steady off) runningVMCount (Ends fun _ => Steady off) := by
  refine .bind_attempt list_keeps fun entries => ?_
  exact .seq (runningEntries_meets entries) fun _ => .done fun _ now => now.2

theorem handleHostShutdown_meets :
    Works exits (Steady off) handleHostShutdown fun _ => Steady off := by
  refine .bind_ends runningVMCount_meets fun count => ?_
  split
  · exact .done fun _ => id
  · exact .bind_ok stopAllRunning_meets.attempt fun _ => .done fun _ => id

theorem start_runs {foreground recovery : Bool} {rounds : Nat} :
    Works exits (Steady off) (start host name foreground recovery rounds)
      fun _ => Steady false := by
  have started : Works exits (Entering off 0 True)
    (start host name foreground recovery rounds) _ := start_meets
  exact started.weaken (fun w steady => ⟨steady, Nat.zero_le _, fun _ => trivial⟩)
    fun _ _ started => started.1

theorem powerCycle_meets : Works exits (Steady false) (powerCycleAfterGuestReset host name)
      fun _ => Steady false := by
  have stop : Works exits (Steady false) (forceStopWithReason name .reboot)
      fun _ => Steady false := by
    intro w result w' steady ran
    rcases forceStopWithReason_meets (s := w.state) ⟨rfl, steady⟩ ran with ⟨-, steady⟩ | steady <;>
      exact steady
  refine .bind_ok stop.attempt fun result => ?_
  cases result with
  | error text => exact .done fun _ => id
  | ok _ => exact .bind_ok start_runs.attempt fun _ => .done fun _ => id

theorem handleGuestReset_meets :
    Works exits (Steady false) (handleGuestReset host name) fun _ => Steady false := by
  have answered : Works exits (Steady false) (resetAnswered true)
      (Ends fun _ => Steady false) := by
    refine .seq Steady.tolerant.loadState_call fun found => ?_
    cases found <;> exact .done fun _ now => now.2
  refine .bind_ends answered fun yes => ?_
  split
  · exact powerCycle_meets
  · exact .done fun _ => id

theorem recordGuestShutdown_meets :
    Works false (fun w => w.alive = pids ∧ w.state = s ∧ Steady off w)
      recordGuestShutdown
      fun _ w => w.alive = pids ∧ Steady off { w with state := s } ∧ w.state = s.guestShutdown := by
  refine .bind_ends (Lasting.immortal _).loadState_call fun found => ?_
  cases found with
  | error text => exact fun w _ _ impossible => by cases impossible.1
  | ok loaded =>
    -- the rest of the world is as it was before the save
    refine ((Lasting.immortal fun w => w.alive = pids ∧ Steady off { w with state := s } ∧
      w.state = s.guestShutdown).saveState_last loaded.guestShutdown).pre ?_ |>.of_ends
        fun _ _ => id
    rintro w ⟨same, alive, rfl, steady⟩
    cases same
    exact ⟨alive, steady, rfl⟩

/-- After its last process has gone, a VM that powered itself off is meant to stay off. -/
theorem Steady.powerOff {pid : Nat} (steady : Steady off w) (live : pid ∈ w.alive)
    {result : Except String Unit} (ran : Ran (workingHost false) recordGuestShutdown w result w') :
    Steady true (w'.exit pid) := by
  obtain ⟨alive, rest, state⟩ := recordGuestShutdown_meets (s := w.state) ⟨rfl, rfl, steady⟩ ran
  have none : (w'.exit pid).alive = [] := by
    refine eq_nil_iff_forall_not_mem.mpr fun other mem => ?_
    obtain ⟨left, differs⟩ := mem_filter.mp mem
    rw [alive] at left
    have same : other = pid :=
      (steady.recorded other left).2.symm.trans (steady.recorded pid live).2
    simp [same] at differs
  have kept : w'.state.running = w.state.running ∧ w'.state.pid = w.state.pid ∧
      w'.state.backend = w.state.backend ∧ w'.state.desiredState = .stopped := by
    rw [state]
    exact ⟨rfl, rfl, rfl, rfl⟩
  exact {
    autostarted := rest.autostarted
    recorded := fun other mem => by rw [none] at mem; cases mem
    process := fun running => by
      change w'.state.pid ≠ 0 ∧ backendName w'.state.backend = .qemu
      rw [kept.2.1, kept.2.2.1]
      exact steady.process (kept.1 ▸ running)
    meant := fun some => absurd none some
    intent := shouldDaemonStart_of_stopped kept.2.2.2
    pids := rest.pids }

end Daemon

/-! ### Histories -/

section Histories

variable {host : Platform} {name : String}

def asksOff (intent : Option DesiredState) : Bool := intent = some .stopped

theorem lastIntent_snoc (past : List HistoryEntry) (entry : HistoryEntry) :
    lastIntent (past ++ [entry]) = entry.intent.or (lastIntent past) := by
  simp only [lastIntent, filterMap_append, getLast?_append]
  cases intent : entry.intent with
  | none => simp [intent]
  | some wanted => simp [intent]

variable {w w' : World}

/-- A stop that is heeded leaves a record that keeps the daemon away. -/
theorem Steady.heeded {off : Bool} (steady : Steady off w)
    (heeded : w.state.running = true ∨ shouldDaemonStart w.state = false)
    (left : StopLeft off .user w.state w') : Steady true w' := by
  rcases left with ⟨stopped, kept⟩ | recorded
  · have unwanted : shouldDaemonStart w.state = false := heeded.resolve_left (by simp [stopped])
    have asked : off = true := by simpa [steady.intent] using unwanted
    exact asked ▸ kept
  · exact recorded

theorem Steady.step {last : Option DesiredState} {event : Happening}
    (steady : Steady (asksOff last) w) (heeded : stopsHeeded event w)
    (happened : Happens host name event w w') :
    Steady (asksOff ((HistoryEntry.mk event (w.nextPid < w'.nextPid)).intent.or last)) w' := by
  cases happened with
  | start ran => exact start_runs steady ran
  | stop ran => exact steady.heeded heeded (stopWithReason_meets ⟨rfl, steady⟩ ran)
  | forceStop ran => exact steady.heeded heeded (forceStopWithReason_meets ⟨rfl, steady⟩ ran)
  | guestPoweroff live ran => exact steady.powerOff live ran
  | guestReset live ran =>
    have meant := steady.meant live
    change Steady (asksOff last) w'
    rw [meant] at steady ⊢
    exact handleGuestReset_meets steady ran
  | crash live =>
    exact steady.fewer ⟨rfl, rfl, rfl⟩ fun _ mem => (mem_filter.mp mem).1
  | hostShutdown ran => exact (handleHostShutdown_meets steady ran).fewer ⟨rfl, rfl, rfl⟩ nofun
  | list ran =>
    have kept : Works true (Steady (asksOff last)) list fun _ => Steady _ :=
      list_keeps.of_ends fun _ _ => id
    exact kept steady ran
  | tick ran =>
    obtain ⟨kept, started⟩ := tick_meets ⟨steady, rfl, rfl⟩ ran
    by_cases grown : w.nextPid < w'.nextPid
    · have wanted := (started.mp grown).2
      simp only [grown, decide_true]
      change Steady false w'
      exact wanted ▸ kept
    · simp only [grown, decide_false]
      exact kept

/-- The run lemma: whatever has happened, the record knows what was last asked for. -/
theorem Steady.run {w₀ : World} {past : List HistoryEntry} (unused : w₀.Unused)
    (history : History host name stopsHeeded w₀ past w) : Steady (asksOff (lastIntent past)) w := by
  induction history with
  | nil =>
    obtain ⟨autostarted, state, none, pids⟩ := unused
    refine Idle.steady (n := 0) ⟨autostarted, none, pids, Nat.zero_le _⟩ ?_ ?_ <;>
      simp [state, shouldDaemonStart, asksOff, lastIntent]
  | snoc _ heeded happened ih =>
    rw [lastIntent_snoc]
    exact ih.step heeded happened

/-- Whether a stop is heeded or not, the record goes on to know of some intent. -/
theorem Steady.goes_on {last : Option DesiredState} {event : Happening}
    (steady : Steady (asksOff last) w) (happened : Happens host name event w w') :
    ∃ last, Steady (asksOff last) w' := by
  have stops : StopLeft (asksOff last) .user w.state w' → ∃ last, Steady (asksOff last) w' := by
    rintro (⟨-, kept⟩ | recorded)
    · exact ⟨last, kept⟩
    · exact ⟨some .stopped, recorded⟩
  by_cases heeded : stopsHeeded event w
  · exact ⟨_, steady.step heeded happened⟩
  cases happened with
  | stop ran => exact stops (stopWithReason_meets ⟨rfl, steady⟩ ran)
  | forceStop ran => exact stops (forceStopWithReason_meets ⟨rfl, steady⟩ ran)
  | _ => exact absurd trivial heeded

end Histories

end Intent

/-- If every stop finds a record that says Running, or one that keeps the daemon away already, a
tick starts the VM if and only if it is not running and was not last asked to stay off. -/
theorem tick_follows_intent (host : Platform) (name : String) (w₀ w w' : World)
    (past : List HistoryEntry) (unused : w₀.Unused)
    (history : History host name stopsHeeded w₀ past w) (ticked : Happens host name .tick w w') :
    w.nextPid < w'.nextPid ↔ w.alive = [] ∧ lastIntent past ≠ some .stopped := by
  have steady := Intent.Steady.run unused history
  cases ticked with
  | tick ran =>
    obtain ⟨-, started⟩ := Intent.tick_meets ⟨steady, rfl, rfl⟩ ran
    simpa [Intent.asksOff] using started

/-- On a working host, as long as every stop is heeded, no process is alive of an autostarted VM
that was last asked to stay off. -/
theorem stopped_vm_has_no_process (host : Platform) (name : String) {w₀ w : World}
    {past : List HistoryEntry} (unused : w₀.Unused)
    (history : History host name stopsHeeded w₀ past w) (off : lastIntent past = some .stopped) :
    w.alive = [] := by
  by_contra live
  have meant := (Intent.Steady.run unused history).meant live
  simp [Intent.asksOff, off] at meant

/-- Whatever happens to an autostarted VM of a working host (the store and the launches succeed, and
no foreground start is interrupted), one thing after the other: it never has two processes, and
the one that it has is on record. -/
theorem live_process_on_record (host : Platform) (name : String)
    {allowed : Happening → World → Prop} {w₀ w : World} {past : List HistoryEntry}
    (unused : w₀.Unused) (history : History host name allowed w₀ past w) :
    ∀ pid ∈ w.alive, w.state.running = true ∧ w.state.pid = pid := by
  have steady : ∃ last, Intent.Steady (Intent.asksOff last) w := by
    induction history with
    | nil => exact ⟨_, Intent.Steady.run unused (.nil : History host name stopsHeeded w₀ [] w₀)⟩
    | snoc _ _ happened ih =>
      obtain ⟨last, steady⟩ := ih
      exact steady.goes_on happened
  obtain ⟨last, steady⟩ := steady
  exact steady.recorded

/-! ### A crash, and a stop that comes too late -/

def newVM : World where
  config := { name := "vm", autoStart := true }
  state := {}

def startedVM : World :=
  { newVM with
    state := { pid := 1, backend := "qemu", startedAt := some 0, running := true,
               desiredState := .running }
    alive := [1]
    nextPid := 2 }

def crashedVM : World := startedVM.exit 1

/-- `vee list` has cleaned up after it. -/
def cleanedVM : World := { crashedVM with state := crashedVM.state.stale none }

def smooth (exits : Bool) (calls : Nat) : List (workingHost exits).Ans :=
  List.replicate calls ({}, [])

theorem newVM_starts (allowed : Happening → World → Prop)
    (start : allowed (.start false false) newVM) (crash : allowed .crash startedVM) :
    History linuxHost "vm" allowed newVM
      [⟨.start false false, true⟩, ⟨.crash, false⟩] crashedVM := by
  have started : Ran (workingHost true) (Vee.start linuxHost "vm" false false 0) newVM (.ok ())
      startedVM := .of_play (smooth true 7) rfl
  have first : History linuxHost "vm" allowed newVM [⟨.start false false, true⟩] startedVM :=
    .snoc .nil start (.start started)
  exact .snoc first crash (.crash (mem_singleton.mpr rfl))

/-- A VM is stopped after it has crashed. -/
theorem stopped_after_crash : ∃ past w, History linuxHost "vm" stopsHeeded newVM past w ∧
      lastIntent past = some .stopped ∧ w.alive = [] := by
  obtain ⟨result, w, ran, -⟩ := Ran.exists_of_play (M := workingHost true) (smooth true 6)
    (stopWithReason "vm" .user) crashedVM (fun _ _ => True) (by decide)
  have heeded : stopsHeeded .stop crashedVM := .inl rfl
  have history := History.snoc (newVM_starts stopsHeeded trivial trivial) heeded (.stop ran)
  exact ⟨_, w, history, rfl, stopped_vm_has_no_process linuxHost "vm" (by decide) history rfl⟩

/-- A VM that has been started runs as its record says. -/
theorem started_process_on_record :
    History linuxHost "vm" (fun _ _ => True) newVM [⟨.start false false, true⟩] startedVM ∧
      startedVM.state.pid = 1 := by
  have started : Ran (workingHost true) (Vee.start linuxHost "vm" false false 0) newVM (.ok ())
      startedVM := .of_play (smooth true 7) rfl
  have history : History linuxHost "vm" (fun _ _ => True) newVM _ startedVM :=
    .snoc .nil trivial (.start started)
  exact ⟨history, (live_process_on_record linuxHost "vm" (by decide) history 1 (by decide)).2⟩

/-- A tick finds a VM that has crashed, and starts it. -/
theorem crashed_vm_started : ∃ w', Happens linuxHost "vm" .tick crashedVM w' ∧
      (crashedVM.nextPid < w'.nextPid ↔ crashedVM.alive = [] ∧
        lastIntent [⟨.start false false, true⟩, ⟨.crash, false⟩] ≠ some .stopped) := by
  obtain ⟨result, w', ran, -⟩ := Ran.exists_of_play (M := workingHost false) (smooth false 18)
    (tick linuxHost) crashedVM (fun _ _ => True) (by decide)
  exact ⟨w', .tick ran, tick_follows_intent linuxHost "vm" newVM crashedVM w' _ (by decide)
    (newVM_starts stopsHeeded trivial trivial) (.tick ran)⟩

/-- The VM crashes, a list cleans up its record, the user stops it and is told that it is not
running: the next tick starts it. -/
theorem stopped_vm_started : ∃ past w', newVM.Unused ∧
      History linuxHost "vm" (fun _ _ => True) newVM past cleanedVM ∧
      Happens linuxHost "vm" .tick cleanedVM w' ∧ cleanedVM.nextPid < w'.nextPid ∧
      lastIntent past = some .stopped := by
  have listed : Ran (workingHost true) list crashedVM
      (.ok [(newVM.config, { crashedVM.state with running := false })]) cleanedVM :=
    .of_play (smooth true 4) rfl
  have refused : Ran (workingHost true) (stopWithReason "vm" .user) cleanedVM
      (.error (notRunning "vm")) cleanedVM := .of_play (smooth true 1) rfl
  have history := History.snoc (.snoc (newVM_starts (fun _ _ => True) trivial trivial) trivial
    (.list listed)) trivial (.stop refused)
  obtain ⟨result, w', ran, grown⟩ := Ran.exists_of_play (M := workingHost false) (smooth false 15)
    (tick linuxHost) cleanedVM (fun _ w => cleanedVM.nextPid < w.nextPid) (by decide)
  exact ⟨_, w', by decide, history, .tick ran, grown, rfl⟩

end Vee
