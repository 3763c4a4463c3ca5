import Vee.VM.Config

/-!
# Run-time state of a VM

`VMState` is the record that every operation loads, changes and saves as a whole
(`internal/vm/state.go`), with the pure functions that compute one record from another, and the
daemon's reading of it (`shouldDaemonStart`).
-/

namespace Vee

/-- `InstallState`; `unset` is the empty text. -/
inductive InstallState where
  | unset
  | pending
  | ready
  deriving DecidableEq, Repr

inductive DesiredState where
  | unset
  | running
  | stopped
  deriving DecidableEq, Repr

/-- `LastShutdownReason`. -/
inductive ShutdownReason where
  | unset
  | user
  | guest
  | crash
  | host
  | reboot
  deriving DecidableEq, Repr

/-- `VMState`. Process ids are natural numbers, 0 for none. The boot-phase and
health-check fields are left out: no modelled function reads them. -/
structure VMState where
  pid : Nat := 0
  backend : String := ""
  qmpSocket : String := ""
  qgaSocket : String := ""
  controlSocket : String := ""
  leaseBaseline : Nat := 0
  spicePort : Int := 0
  sshPort : Int := 0
  virtiofsdPIDs : List Nat := []
  startedAt : Option Nat := none
  running : Bool := false
  installState : InstallState := .unset
  installedAt : Option Nat := none
  desiredState : DesiredState := .unset
  lastShutdownReason : ShutdownReason := .unset
  deriving DecidableEq, Repr

/-- The result file a vz helper leaves (`vzhelper.Result`). -/
structure VZResult where
  error : String := ""
  stopRequested : Bool := false
  deriving DecidableEq, Repr

/-- The helper ended because the guest powered itself off. -/
def VZResult.cleanPoweroff (res : VZResult) : Bool := res.error == "" && !res.stopRequested

/-- A run that was installing has installed by the time it is over. -/
def InstallState.afterRun : InstallState → InstallState
  | .pending => .ready
  | other => other

/-- A stop by the host or for a reboot is to be undone. -/
def desiredStateForReason (reason : ShutdownReason) : DesiredState :=
  if reason = .host ∨ reason = .reboot then .running else .stopped

variable (state : VMState)

/-- `shouldDaemonStart`, on a record that was loaded. -/
def shouldDaemonStart : Bool :=
  !(state.desiredState = .stopped) && !(state.lastShutdownReason = .guest)

namespace VMState

/-- `VMState.BackendName`. -/
def backendName : Backend := Vee.backendName state.backend

/-- What a stop saves (`stopWithReason`, `forceStopWithReason`). -/
def stopped (reason : ShutdownReason) : VMState where
  installState := state.installState.afterRun
  installedAt := state.installedAt
  desiredState := desiredStateForReason reason
  lastShutdownReason := reason

/-- What `cleanupStaleVM` saves, given the vz result it could read. -/
def stale (result : Option VZResult) : VMState :=
  let cleanVZ := state.lastShutdownReason = .unset ∧ state.backendName = .vz ∧
    result.any (·.cleanPoweroff)
  { installState := state.installState.afterRun
    installedAt := state.installedAt
    desiredState := if cleanVZ then .stopped else state.desiredState
    lastShutdownReason :=
      if cleanVZ then .guest
      else if state.lastShutdownReason = .unset then .crash
      else state.lastShutdownReason }

/-- What `recordGuestShutdown` saves. -/
def guestShutdown : VMState :=
  { state with
    lastShutdownReason :=
      if state.lastShutdownReason = .unset then .guest else state.lastShutdownReason
    desiredState := .stopped }

/-- A cleanup never turns a stop into something the daemon restarts. -/
theorem stale_desiredState_stopped (result : Option VZResult)
    (stopped : state.desiredState = .stopped) :
    (state.stale result).desiredState = .stopped := by
  simp only [stale]
  split <;> simp [stopped]

end VMState

@[simp] theorem InstallState.afterRun_ne_pending (s : InstallState) : s.afterRun ≠ .pending := by
  cases s <;> simp [afterRun]

theorem shouldDaemonStart_of_stopped {state : VMState} (stopped : state.desiredState = .stopped) :
    shouldDaemonStart state = false := by
  simp [shouldDaemonStart, stopped]

end Vee
