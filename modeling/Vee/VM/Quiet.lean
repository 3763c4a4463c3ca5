import Vee.VM.Daemon

/-!
# Calls that leave the run-time state alone

Most calls of the manager touch neither the stored state record nor the process table. A proof
about a whole operation passes over them in one step (`Safe.of_does`).
-/

namespace Vee

open Prog (mayThrow)

/-- Calls that read or change neither the state record nor a process. -/
def Call.Quiet : Call → Prop
  | .loadConfig | .saveConfig _ | .listAllConfigs | .processAlive _ | .loadResult
  | .waitShutdown | .query _ | .perform _ | .ensureScreenSharingGrants | .freeTCPPort
  | .now | .watch _ | .block => True
  | _ => False

variable {op : Call} {ans : Answer} {w w' : World} {answer : op.Res}

theorem Call.Quiet.exec (quiet : op.Quiet) (ran : op.exec ans w = some (answer, w')) :
    ∃ cfg, w' = { w with config := cfg } := by
  cases op with
  | saveConfig cfg =>
    simp only [Call.exec] at ran
    split at ran <;> cases ran
    · exact ⟨w.config, rfl⟩
    · exact ⟨cfg.persisted, rfl⟩
  | loadResult =>
    simp only [Call.exec] at ran
    split at ran <;> cases ran <;> exact ⟨w.config, rfl⟩
  | saveState | kill | buildBackendMachine | spawn | selectEvent | selectForeground | loadState
  | mark =>
    exact quiet.elim
  | block => cases ran
  | _ => cases ran; exact ⟨w.config, rfl⟩

/-- Calls that only ask, or that act on what the model has no state for. -/
def Call.Silent : Call → Prop
  | .saveConfig _ => False
  | op => op.Quiet

theorem Call.Silent.exec (silent : op.Silent) (ran : op.exec ans w = some (answer, w')) :
    w' = w := by
  cases op with
  | loadResult =>
    simp only [Call.exec] at ran
    split at ran <;> cases ran <;> rfl
  | saveConfig | saveState | kill | buildBackendMachine | spawn | selectEvent | selectForeground
  | loadState | mark =>
    exact silent.elim
  | block => cases ran
  | _ => cases ran; rfl

/-- A set of calls that has the silent ones. -/
class Permits (allowed : Call → Prop) : Prop where
  silent {op : Call} : op.Silent → allowed op

instance : Permits Call.Silent := ⟨id⟩

instance : Permits Call.Quiet where
  silent {op} silent := by
    cases op <;> first | exact silent | exact silent.elim

section Silent

variable {allowed : Call → Prop} [Permits allowed]

open Permits (silent)

theorem isAlive_quiet (pid : Nat) : (isAlive pid).Completes allowed := by
  unfold isAlive
  split
  · exact trivial
  · exact .ask (silent trivial)

theorem query_quiet (q : Query) : (query q).Completes allowed :=
  .ask (silent trivial)

variable (context : String) (state : VMState) (action : Action)

theorem perform_quiet : (perform action).Completes allowed :=
  .bind (.ask (silent trivial)) fun _ _ => trivial

theorem unregisterHostname_quiet (cfg : VMConfig) : (unregisterHostname cfg).Completes allowed := by
  unfold unregisterHostname
  split
  · exact perform_quiet _
  · exact trivial

theorem unregisterStoredHostname_quiet : unregisterStoredHostname.Completes allowed := by
  refine .bind (.ask (silent trivial)) fun found _ => ?_
  cases found with
  | ok cfg => exact unregisterHostname_quiet cfg
  | error text => exact trivial

theorem staleResult_quiet : (staleResult state).Completes allowed := by
  unfold staleResult
  split
  · exact .bind (.ask (silent trivial)) fun _ _ => trivial
  · exact trivial

theorem loadConfig_quiet : loadConfig.Makes allowed :=
  .bind (.ask (silent trivial)) fun _ _ => .orThrow

variable {cfg : VMConfig}

omit [Permits allowed] in
theorem saveConfig_does {context : String} (saves : allowed (.saveConfig cfg)) :
    (saveConfig context cfg).Makes allowed :=
  .bind (.ask saves) fun _ _ => .orThrow

theorem saveConfig_quiet (cfg : VMConfig) : (saveConfig context cfg).Makes Call.Quiet :=
  saveConfig_does trivial

theorem deleteScratchDisks_quiet (cfg : VMConfig) : (deleteScratchDisks cfg).Completes allowed :=
  .bind (.forEach fun _ _ => perform_quiet _) fun _ _ => trivial

theorem stripInstaller_quiet (cfg : VMConfig) :
    (stripInstaller cfg).Does Call.Quiet (mayThrow VMConfig.NoInstaller) := by
  refine .bind (deleteScratchDisks_quiet cfg) fun _ _ => ?_
  have clean : ({ cfg with disks := cfg.installedDisks, installDevices := [] } :
      VMConfig).NoInstaller := VMConfig.noInstaller_installedDisks cfg
  split
  · exact .bind_throw (saveConfig_quiet _ _) fun _ _ => clean
  · exact clean

theorem signalHelpers_quiet (signal : Nat → Action) (pids : List Nat) :
    (signalHelpers signal pids).Completes allowed := by
  have each : ∀ pid, (do if ← query (.helperAlive pid) then perform (signal pid) :
      VM Unit).Completes allowed := by
    intro pid
    refine .bind (query_quiet _) fun alive _ => ?_
    split
    · exact perform_quiet _
    · exact trivial
  exact .bind (.forEach fun pid _ => each pid) fun _ _ => trivial

theorem waitExit_quiet (pid polls : Nat) : (waitExit pid polls).Completes allowed := by
  induction polls with
  | zero => exact trivial
  | succ polls ih =>
    refine .bind (query_quiet _) fun before _ => ?_
    split
    · refine .bind (isAlive_quiet _) fun alive _ => ?_
      split
      · exact ih
      · exact trivial
    · exact trivial

theorem reallocSPICE_quiet (cfg : VMConfig) :
    (reallocSPICE cfg).Does Call.Quiet (mayThrow fun cfg' => cfg'.disks = cfg.disks) := by
  unfold reallocSPICE
  split
  · exact rfl
  split
  · refine .bind (query_quiet _) fun used _ => ?_
    split
    · refine .bind (.ask trivial) fun port _ => ?_
      refine .bind_throw .orThrow fun port _ => ?_
      exact .bind_throw (saveConfig_quiet _ _) fun _ _ => rfl
    · exact rfl
  · exact rfl

theorem grantScreenSharing_quiet (cfg : VMConfig) :
    (grantScreenSharing cfg).Does Call.Quiet (mayThrow fun cfg' => cfg'.disks = cfg.disks) := by
  have recorded : ∀ mac, (grantScreenSharing.record cfg mac).Does Call.Quiet
      (mayThrow fun cfg' => cfg'.disks = cfg.disks) := fun mac =>
    .bind (.ask trivial) fun _ _ => rfl
  unfold grantScreenSharing
  split
  · exact rfl
  split
  · refine .bind (.ask trivial) fun outcome _ => ?_
    cases outcome with
    | diskBusy text => exact trivial
    | noTCCDB | failed => exact rfl
    | unknownTCCSchema | granted | nothing => exact recorded _
  · exact rfl

theorem beforeSpawn_quiet (cfg : VMConfig) :
    (beforeSpawn cfg).Does Call.Quiet (mayThrow fun cfg' => cfg'.disks = cfg.disks) := by
  unfold beforeSpawn
  split
  · exact grantScreenSharing_quiet cfg
  · exact rfl

theorem watchGuest_quiet (cfg : VMConfig) (state : VMState) :
    (watchGuest cfg state).Completes allowed := by
  unfold watchGuest
  split
  · exact .ask (silent trivial)
  · split
    · exact .ask (silent trivial)
    · exact trivial

theorem performFor_quiet : (performFor context action).Makes allowed :=
  .bind (.ask (silent trivial)) fun _ _ =>
    .orThrow

/-- The API key of a TrueNAS guest may be saved. -/
def SavesKey (allowed : Call → Prop) (cfg : VMConfig) : Prop :=
  ∀ key user, allowed (.saveConfig { cfg with trueNASAPIKey := key, trueNASUser := user })

theorem ensureTrueNASAPIKey_quiet (saves : SavesKey allowed cfg) (ip : String) :
    (ensureTrueNASAPIKey cfg ip).Makes allowed := by
  unfold ensureTrueNASAPIKey
  split
  · exact trivial
  · refine .bind_throw (performFor_quiet _ _) fun _ _ => ?_
    refine .bind_throw (performFor_quiet _ _) fun _ _ => ?_
    refine .bind_throw (performFor_quiet _ _) fun _ _ => ?_
    refine .bind_throw (performFor_quiet _ _) fun _ _ => ?_
    exact .bind_throw (saveConfig_does (saves _ _)) fun _ _ => trivial

theorem injectTrueNASKey_quiet (saves : SavesKey allowed cfg) (ip : String) :
    (injectTrueNASKey cfg ip).Completes allowed := by
  refine .bind (.ask (silent trivial)) fun key _ => ?_
  cases key with
  | error text => exact trivial
  | ok pubKey =>
    refine .bind (query_quiet _) fun prompt _ => ?_
    split
    · exact trivial
    · refine .bind (ensureTrueNASAPIKey_quiet saves ip).attempt fun result _ => ?_
      cases result with
      | error text => exact trivial
      | ok pair => exact perform_quiet _

theorem registerHostname_quiet (cfg : VMConfig) (ip : String) :
    (registerHostname cfg ip).Completes allowed := by
  unfold registerHostname
  split
  · refine .bind (query_quiet _) fun writable _ => ?_
    split
    · exact perform_quiet _
    · exact trivial
  · exact trivial

theorem registerGuest_quiet (saves : SavesKey allowed cfg) :
    (registerGuest cfg).Completes allowed := by
  unfold registerGuest
  split
  · refine .bind (.ask (silent trivial)) fun found _ => ?_
    cases found with
    | error text => exact trivial
    | ok ip =>
      refine .bind (registerHostname_quiet cfg ip) fun _ _ => ?_
      split
      · exact injectTrueNASKey_quiet saves ip
      · exact trivial
  · exact trivial

theorem recordedAlive_quiet : (recordedAlive state).Completes allowed := by
  unfold recordedAlive
  split
  · exact isAlive_quiet _
  · exact trivial

theorem adoptVM_quiet : (adoptVM state).Completes allowed := by
  unfold adoptVM
  split
  · exact trivial
  split
  · split
    · exact trivial
    · refine .bind (isAlive_quiet _) fun alive _ => ?_
      split
      · exact .ask (silent trivial)
      · exact trivial
  · split
    · exact trivial
    · refine .bind (isAlive_quiet _) fun alive _ => ?_
      split
      · refine .bind (query_quiet _) fun owned _ => ?_
        split
        · exact trivial
        · exact .ask (silent trivial)
      · exact trivial

end Silent

end Vee
