import Vee.VM.Intent
import Vee.VM.Quiet

/-!
# Programs on a host that works

Rules for a program of the manager that runs alone on a host on which the store works. Most of the
other calls change nothing that an assertion could be about (`Tolerant`).
-/

namespace Vee

@[simp] theorem World.lose_nil (w : World) : w.lose [] = w := by
  have all : w.alive.filter (· ∉ []) = w.alive := List.filter_eq_self.mpr (by simp)
  rw [World.lose, all]

theorem Answer.orFail_works {α : Type} {ans : Answer} {value : α}
    (works : ans.error.isNone = true) :
    ans.orFail value = .ok value := by
  simp [Answer.orFail, Option.isNone_iff_eq_none.mp works]

/-- A call that changes at most the config, and keeps it one of an autostarted VM. -/
def Call.Mild (op : Call) : Prop :=
  op.Silent ∨ ∃ cfg : VMConfig, op = .saveConfig cfg ∧ cfg.Autostarted

instance : Permits Call.Mild where
  silent := .inl

/-- A program on the working host. -/
abbrev Works (exits : Bool) {α : Type} (before : World → Prop) (p : VM α)
    (after : Except String α → World → Prop) : Prop :=
  Meets (workingHost exits) before p after

/-! ### Calls on the working host -/

section Calls

variable {exits : Bool} {op : Call} {w w' : World} {answer : op.Res}
  {ans : (workingHost exits).Ans}

/-- A call on the working host is one that works, after some processes have gone. -/
theorem workingHost_exec (ran : (workingHost exits).exec 0 op ans w = some (answer, w')) :
    op.works ans.1 = true ∧ (exits = false → ans.2 = []) ∧
      op.exec ans.1 (w.lose ans.2) = some (answer, w') := by
  simp only [workingHost] at ran
  split at ran
  · rename_i allowed
    simp only [Bool.and_eq_true, Bool.or_eq_true, List.isEmpty_iff] at allowed
    refine ⟨allowed.1, fun immortal => ?_, ran⟩
    rcases allowed.2 with mortal | none
    · rw [immortal] at mortal
      cases mortal
    · exact none
  · cases ran

theorem exec_workingHost {given : Answer} (works : op.works given = true)
    (ran : op.exec given w = some (answer, w')) :
    (workingHost exits).exec 0 op (given, []) w = some (answer, w') := by
  simp [workingHost, works, ran]

end Calls

/-- An assertion that survives the end of processes. -/
structure Lasting (exits : Bool) (holds : World → Prop) : Prop where
  lose {w : World} (gone : List Nat) : exits = true → holds w → holds (w.lose gone)

namespace Lasting

theorem immortal (holds : World → Prop) : Lasting false holds := ⟨nofun⟩

variable {exits : Bool} {holds : World → Prop} (lasting : Lasting exits holds)

include lasting

theorem before {w : World} {ans : (workingHost exits).Ans} (immortal : exits = false → ans.2 = [])
    (now : holds w) : holds (w.lose ans.2) := by
  cases exits with
  | true => exact lasting.lose _ rfl now
  | false =>
    rw [immortal rfl, World.lose_nil]
    exact now

theorem asked (op : Call) (after : op.Res → World → Prop)
    (step : ∀ w ans answer w', holds w → op.works ans = true →
      op.exec ans w = some (answer, w') → after answer w') :
    Works exits holds (ask op) (Ends after) := by
  refine .ask_ends fun w ans answer w' now ran => ?_
  obtain ⟨works, immortal, ran⟩ := workingHost_exec ran
  exact step _ _ _ _ (lasting.before immortal now) works ran

/-! The fallible calls, none of which fails. -/

theorem loadState_call : Works exits holds (ask .loadState)
      (Ends fun found w => found = .ok w.state ∧ holds w) := by
  refine lasting.asked _ _ fun w ans found w' now works ran => ?_
  obtain ⟨rfl, ⟨rfl, -⟩ | ⟨text, -, failed⟩⟩ := Call.loadState_exec ran
  · exact ⟨rfl, now⟩
  · simp [Call.works, failed] at works

theorem loadState : Works exits holds loadState (Ends fun s w => w.state = s ∧ holds w) := by
  refine .seq lasting.loadState_call fun found => ?_
  refine .done fun w ⟨loaded, now⟩ => ?_
  cases loaded
  exact ⟨rfl, now⟩

/-- Whatever holds with the new record in place holds after its save. -/
theorem saveState_call (s : VMState) :
    Works exits (fun w => holds { w with state := s }) (ask (.saveState s))
      (Ends fun saved w => saved = .ok () ∧ holds w) := by
  refine .ask_ends ?_
  intro w ans saved w' now ran
  obtain ⟨works, immortal, ran⟩ := workingHost_exec ran
  obtain ⟨rfl, -, rfl⟩ | ⟨text, -, failed, -⟩ := Call.saveState_exec ran
  · exact ⟨rfl, lasting.before immortal now⟩
  · simp [Call.works, failed] at works

theorem saveState_last (s : VMState) : Works exits (fun w => holds { w with state := s })
      (do let _ ← ask (.saveState s)) (Ends fun _ => holds) :=
  .seq (lasting.saveState_call s) fun _ => .done fun _ now => now.2

theorem saveState (context : String) (s : VMState) :
    Works exits (fun w => holds { w with state := s }) (saveState context s)
      (Ends fun _ => holds) := by
  refine .seq (lasting.saveState_call s) fun saved => ?_
  refine .done fun w ⟨fine, now⟩ => ?_
  cases fine
  exact now

theorem isAlive (pid : Nat) : Works exits holds (isAlive pid)
      (Ends fun alive w => (alive = true ↔ w.IsAlive pid) ∧ holds w) := by
  unfold Vee.isAlive
  split
  · rename_i zero
    exact .done fun w now => ⟨by simp [World.IsAlive, zero], now⟩
  · rename_i positive
    refine lasting.asked _ _ fun w ans alive w' now _ ran => ?_
    cases ran
    exact ⟨by simp [World.IsAlive, positive], now⟩

theorem recordedAlive (s : VMState) : Works exits holds (recordedAlive s)
      (Ends fun alive w => (alive = true ↔ s.running = true ∧ w.IsAlive s.pid) ∧ holds w) := by
  unfold Vee.recordedAlive
  split
  · rename_i running
    exact (lasting.isAlive s.pid).ends fun alive w checked =>
      ⟨checked.1.trans (by simp [running]), checked.2⟩
  · rename_i stopped
    exact .done fun w now => ⟨by simp [stopped], now⟩

end Lasting

/-- An assertion that the helpers of an operation keep: it also survives a new config, if that is
still one of an autostarted VM. -/
structure Tolerant (exits : Bool) (holds : World → Prop) : Prop extends Lasting exits holds where
  config {w : World} (cfg : VMConfig) : cfg.Autostarted → holds w → holds { w with config := cfg }

namespace Tolerant

variable {exits : Bool} {holds other : World → Prop}

theorem and (first : Tolerant exits holds) (second : Tolerant exits other) :
    Tolerant exits fun w => holds w ∧ other w where
  config cfg fits both := ⟨first.config cfg fits both.1, second.config cfg fits both.2⟩
  lose gone mortal both := ⟨first.lose gone mortal both.1, second.lose gone mortal both.2⟩

theorem state (test : VMState → Prop) : Tolerant exits fun w => test w.state where
  config _ _ now := now
  lose _ _ now := now

theorem nextPid (test : Nat → Prop) : Tolerant exits fun w => test w.nextPid where
  config _ _ now := now
  lose _ _ now := now

theorem alive (test : List Nat → Prop)
    (fewer : ∀ pids kept, (∀ pid ∈ kept, pid ∈ pids) → test pids → test kept) :
    Tolerant exits fun w => test w.alive where
  config _ _ now := now
  lose _ _ now := fewer _ _ (fun _ mem => (List.mem_filter.mp mem).1) now

theorem sameAlive (pids : List Nat) : Tolerant false fun w => w.alive = pids where
  config _ _ now := now
  toLasting := .immortal _

section

variable (tolerant : Tolerant exits holds)

include tolerant

theorem mild {op : Call} (mild : op.Mild) {w w' : World} {ans : (workingHost exits).Ans}
    {answer : op.Res} (now : holds w)
    (ran : (workingHost exits).exec 0 op ans w = some (answer, w')) : holds w' := by
  obtain ⟨works, immortal, ran⟩ := workingHost_exec ran
  have now := tolerant.before immortal now
  rcases mild with silent | ⟨cfg, rfl, fits⟩
  · rw [silent.exec ran]
    exact now
  · simp only [Call.exec] at ran
    split at ran <;> cases ran
    · exact now
    · exact tolerant.config _ fits now

theorem mildly {α : Type} {p : VM α} (does : p.Completes Call.Mild) :
    Works exits holds p (Ends fun _ => holds) := by
  exact (Meets.of_returns (fun op mild w ans answer w' => tolerant.mild mild) does).ends
    fun _ _ now => now.2

theorem saveConfig (context : String) {cfg : VMConfig} (fits : cfg.Autostarted) :
    Works exits holds (saveConfig context cfg) (Ends fun _ => holds) := by
  refine .seq (tolerant.asked (.saveConfig cfg)
    (fun saved w => saved = .ok () ∧ holds w) ?_) fun saved => ?_
  · intro w ans saved w' now works ran
    simp only [Call.works, Option.isNone_iff_eq_none] at works
    simp only [Call.exec, works, Option.some.injEq, Prod.mk.injEq] at ran
    obtain ⟨rfl, rfl⟩ := ran
    exact ⟨rfl, tolerant.config _ fits now⟩
  · refine .done fun w done => ?_
    obtain ⟨rfl, now⟩ := done
    exact now

end

end Tolerant

end Vee
