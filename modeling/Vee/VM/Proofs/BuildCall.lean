import Vee.VM.Proofs.Helpers

/-!
# Builds as single calls

The host of `VM/Host` answers a whole build at once and keeps no helpers. A start with its builds
carried out step by step is a start on that host, as long as no hypervisor exits meanwhile. Only
the process ids that the helpers have used up are missing there.
-/

namespace Vee

open Prog (mayThrow)

variable {host : HelperHost} {cfg : VMConfig} {w : World}

/-- The same files and processes; the helpers have used up some process ids. -/
def SameWorld (w : World) (v : World × Helpers) : Prop :=
  v.1 = { w with nextPid := v.1.nextPid } ∧ w.nextPid ≤ v.1.nextPid

theorem Call.exec_fewer {op : Call} {ans : Answer} {res : op.Res} {n : Nat} {v : World}
    (older : w.nextPid ≤ n) (ran : op.exec ans { w with nextPid := n } = some (res, v)) :
    ∃ ans' w', op.exec ans' w = some (res, w') ∧
      v = { w' with nextPid := v.nextPid } ∧ w'.nextPid ≤ v.nextPid := by
  cases op with
  | spawn cfg =>
    simp only [exec] at ran
    split at ran <;> cases ran
    · rename_i text failed
      exact ⟨ans, w, by simp [exec, failed], rfl, older⟩
    · rename_i fine
      have same : w.nextPid + (n - w.nextPid + ans.num) = n + ans.num := by omega
      refine ⟨{ ans with num := n - w.nextPid + ans.num }, w.spawned cfg (n + ans.num), ?_, rfl,
        Nat.le_refl _⟩
      simp only [exec, fine, same]
  | saveConfig cfg =>
    simp only [exec] at ran
    split at ran <;> cases ran
    · rename_i text failed
      exact ⟨ans, w, by simp [exec, failed], rfl, older⟩
    · rename_i fine
      exact ⟨ans, { w with config := cfg.persisted }, by simp only [exec, fine], rfl, older⟩
  | saveState state =>
    rcases Call.saveState_exec ran with ⟨rfl, fine, rfl⟩ | ⟨text, rfl, failed, rfl⟩
    · exact ⟨ans, { w with state := state }, by simp only [exec, fine], rfl, older⟩
    · exact ⟨ans, w, by simp [exec, failed], rfl, older⟩
  | loadResult =>
    refine ⟨ans, w, ?_⟩
    simp only [exec] at ran ⊢
    split at ran <;> cases ran <;> exact ⟨by simp_all, rfl, older⟩
  | selectEvent =>
    simp only [exec] at ran
    split at ran <;> cases ran
    · rename_i flag closed
      exact ⟨ans, w, by simp [exec, flag, closed], rfl, older⟩
    · rename_i rest flag events
      exact ⟨ans, { w with events := rest }, by simp only [exec, flag, events], rfl, older⟩
  | block => cases ran
  | _ => cases ran; exact ⟨ans, _, rfl, rfl, older⟩

/-- No hypervisor exits. -/
def noExit (_ : BuildOp) (ans : BuildAnswer) : Bool := ans.gone.isEmpty

variable {op : BuildOp} {ans : BuildAnswer} {v v' : World × Helpers}

theorem noExit_exec {res : op.Res}
    (executed : (buildMachines.only noExit).exec 0 op ans v = some (res, v')) :
    ∃ world, op.exec ans.toAnswer v.1 = some (res, world) ∧ v'.1 = world := by
  obtain ⟨none, executed⟩ := Machine.only_exec executed
  obtain ⟨world, ran, rfl⟩ := buildMachines_exec executed
  have all : v.1.lose ans.gone = v.1 := by
    rw [List.isEmpty_iff.mp none, World.lose, List.filter_eq_self.mpr (by simp)]
  rw [all] at ran
  exact ⟨world, ran, rfl⟩

/-- The calls of a build. -/
def BuildOp.Own : BuildOp → Prop
  | .vm op => op = .loadState
  | _ => True

/-- A build changes nothing but the process ids that are used up. -/
theorem SameWorld.keep {res : op.Res} (same : SameWorld w v)
    (executed : (buildMachines.only noExit).exec 0 op ans v = some (res, v')) (own : op.Own) :
    SameWorld w v' := by
  obtain ⟨world, ran, there⟩ := noExit_exec executed
  have used : world = { v.1 with nextPid := world.nextPid } ∧ v.1.nextPid ≤ world.nextPid := by
    cases op with
    | vm op =>
      subst own
      rw [(Call.loadState_exec ran).1]
      exact ⟨rfl, Nat.le_refl _⟩
    | startVirtiofsd mount =>
      simp only [BuildOp.exec] at ran
      split at ran <;> cases ran
      · exact ⟨rfl, Nat.le_refl _⟩
      · refine ⟨rfl, ?_⟩
        change v.1.nextPid ≤ v.1.nextPid + ans.num + 1
        omega
    | _ =>
      cases ran
      exact ⟨rfl, Nat.le_refl _⟩
  refine ⟨?_, there ▸ Nat.le_trans same.2 used.2⟩
  rw [there, used.1, same.1]

/-- A result that the host can give to the whole build. -/
def Answers (cfg : VMConfig) (result : Except String (VMConfig × List Nat)) : Prop :=
  ∃ ans : Answer, ans.orFail (cfg.built ans, ans.pids) = result

theorem Answers.error (cfg : VMConfig) (text : String) : Answers cfg (.error text) :=
  ⟨{ error := some text }, rfl⟩

theorem Answers.ok (cfg : VMConfig) (ans : Answer) (pids : List Nat) :
    Answers cfg (.ok (cfg.built ans, pids)) :=
  ⟨{ ans with error := none, pids := pids }, rfl⟩

theorem BuildOp.Plain.own (plain : op.Plain) : op.Own := by
  cases op with
  | vm op => exact plain
  | _ => exact trivial

theorem startVirtiofsds_own (mounts : List VirtiofsMount) :
    ∀ pids, (startVirtiofsds mounts pids).Makes BuildOp.Own := by
  induction mounts with
  | nil => exact fun pids => trivial
  | cons mount rest ih =>
    refine fun pids => ⟨trivial, fun res => ?_⟩
    cases res with
    | error text => exact ih pids
    | ok pid => exact ih (pids ++ [pid])

theorem serveShares_own (cfg : VMConfig) : (do
      ensureVirtiofsd (host.mounts cfg)
      let virtiofsdPIDs ← startVirtiofsds (host.mounts cfg) []
      startTPM host cfg
      finishMachine cfg
      return (cfg, virtiofsdPIDs) : Build (VMConfig × List Nat)).Does BuildOp.Own
        (mayThrow fun built => built.1 = cfg) := by
  have ensured := (ensureVirtiofsd_plain (host.mounts cfg)).mono (fun _ plain => plain.own)
    fun _ => id
  refine .bind_throw ensured fun _ _ => ?_
  refine .bind_throw (startVirtiofsds_own _ []) fun pids _ => ?_
  exact (finishBuild_plain cfg pids).mono (fun _ plain => plain.own) fun _ => id

theorem buildMachine_answers :
    Meets (buildMachines.only noExit) (SameWorld w) (buildMachine host cfg) fun result v =>
      Answers cfg result ∧ SameWorld w v := by
  refine .call (fun res v => (∃ ans : Answer, res = ans.orFail (cfg.built ans)) ∧
    SameWorld w v) ?_ fun res => .given ?_
  · intro v ans res v' same ran
    refine ⟨⟨ans.toAnswer, ?_⟩, same.keep ran trivial⟩
    obtain ⟨world, ran, -⟩ := noExit_exec ran
    cases ran
    rfl
  · rintro ⟨ans, rfl⟩
    unfold Answer.orFail
    split
    · exact .done fun _ same => ⟨.error cfg _, same⟩
    · refine (Meets.of_does (fun op own v ans res v' same ran => same.keep ran own)
        (serveShares_own (cfg.built ans))).weaken (fun _ => id) ?_
      rintro (text | ⟨built, pids⟩) v ⟨kept, same⟩
      · exact ⟨.error cfg text, same⟩
      · cases kept
        exact ⟨.ok cfg ans pids, same⟩

theorem buildMachineFor_answers (recovery : Bool) :
    Meets (buildMachines.only noExit) (SameWorld w) (buildMachineFor host cfg recovery)
      fun result v => Answers cfg result ∧ SameWorld w v := by
  unfold buildMachineFor
  split
  · exact buildMachine_answers
  · refine .call (fun res v => Answers cfg (res.map (·, [])) ∧ SameWorld w v) ?_ ?_
    · intro v ans res v' same ran
      refine ⟨?_, same.keep ran trivial⟩
      obtain ⟨world, ran, -⟩ := noExit_exec ran
      simp only [BuildOp.exec, Answer.orFail] at ran
      split at ran <;> cases ran
      · exact .error cfg _
      · exact .ok cfg ans.toAnswer []
    · intro res
      cases res with
      | error text => exact .done fun _ ended => ⟨.error cfg _, ended.2⟩
      | ok built => exact .done fun _ => id
  · exact .done fun _ same => ⟨.error cfg _, same⟩

/-- A start with its builds, alone on the machine and without a hypervisor that exits meanwhile, is
a start on the host where each build is a single call, up to the process ids that helpers used. -/
theorem startWithBuilds_ran {name : String} {foreground recovery : Bool} {rounds : Nat}
    {v v' : World × Helpers} {result : Except String Unit} (same : SameWorld w v)
    (ran : Ran (buildMachines.only noExit)
      (startWithBuilds host name foreground recovery rounds) v result v') :
    ∃ w', Ran vmHost (start host.toPlatform name foreground recovery rounds) w result w' ∧
      SameWorld w' v' := by
  refine Ran.simulate (R := fun v w => SameWorld w v) ?_ same ran
  intro op v v' w result same carried
  by_cases build : ∃ cfg recovery, op = .buildBackendMachine cfg recovery
  · obtain ⟨cfg, recovery, rfl⟩ := build
    obtain ⟨res, rfl, built⟩ := carried.attempt_inv
    obtain ⟨⟨ans, answered⟩, same⟩ := buildMachineFor_answers recovery same built
    exact ⟨ans, res, w, rfl, congrArg (fun res => some (res, w)) answered, same⟩
  · rw [carryOut_eq (fun cfg recovery here => build ⟨cfg, recovery, here⟩)] at carried
    cases carried with
    | call executed ended =>
      cases ended
      obtain ⟨world, ran, rfl⟩ := noExit_exec executed
      rw [same.1] at ran
      obtain ⟨ans', w', executed', same'⟩ := Call.exec_fewer same.2 ran
      exact ⟨ans', _, w', rfl, executed', same'⟩

/-- A start that launches a helper for a share is one on the host without helpers. -/
theorem helped_start_ran : ∃ result v' w',
    Ran vmHost (start linuxHelperHost.toPlatform "work" false false 0)
      { config := sharingVM, state := {} } result w' ∧ v'.2.spawned ≠ [] ∧ SameWorld w' v' := by
  obtain ⟨result, v', ran, spawned⟩ := Ran.exists_of_play
    (M := buildMachines.only noExit) (allWell 12)
    (startWithBuilds linuxHelperHost "work" false false 0)
    ({ config := sharingVM, state := {} }, {}) (fun _ v => v.2.spawned ≠ []) (by decide)
  obtain ⟨w', ran', same⟩ := startWithBuilds_ran ⟨rfl, Nat.le_refl _⟩ ran
  exact ⟨result, v', w', ran', spawned, same⟩

end Vee
