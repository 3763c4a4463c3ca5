import Vee.Misc.Sequential
import Vee.VM.Manager

/-!
# Waiting for a vz guest

`waitReadyVZ` (`internal/vm/backend_vz.go`) takes a vz guest for ready when its DHCP lease has been
renewed since the start, or when its SSH port answers.
-/

namespace Vee

/-- `markReady`, without the boot phase. -/
def markReady : VM Unit := do
  let state ← loadState
  let now ← ask .now
  saveState "" { state with installState := .ready, installedAt := some now }

/-- What the `select` of the wait comes to: the context is done, or the ticker has fired, perhaps
after the deadline. -/
inductive Tick where
  | done (err : String)
  | fired (late : Bool)
  deriving DecidableEq, Repr

/-- The calls of the wait. -/
inductive ReadyCall where
  | manager (call : Call)
  | dhcpLeaseExpiry (mac : String)
  | vzGuestSSHReachable (mac : String)
  | select

@[reducible] def ReadyCall.Res : ReadyCall → Type
  | .manager call => call.Res
  | .dhcpLeaseExpiry _ => Nat
  | .vzGuestSSHReachable _ => Bool
  | .select => Tick

/-- A part of the wait that only calls the manager. -/
def onManager {α : Type} (p : VM α) : Prog ReadyCall ReadyCall.Res α :=
  p.subst fun call => Prog.ask (.manager call)

/-- `vzhelper.LogPath`. -/
def helperLogPath (vmDir : String) : String := joinPath [vmDir, "vz-helper.log"]

section

variable (name vmDir timeout : String) (state : VMState)

/-- The error of a wait whose process is gone. -/
def exitedErr : String :=
  "VM " ++ goQuote name ++ " process (PID " ++ toString state.pid ++ ") exited — check " ++
    helperLogPath vmDir

/-- The error of a wait that has taken too long. -/
def noLeaseErr (mac : String) : String :=
  "VM " ++ goQuote name ++ " did not acquire a DHCP lease within " ++ timeout ++ " (MAC " ++ mac ++
    ") — the guest may still be booting; check its screen or " ++ helperLogPath vmDir

/-- The probe: the lease, and if it has not been renewed the SSH port. -/
def probeVZ (mac : String) (baseline : Nat) : Prog ReadyCall ReadyCall.Res Bool := do
  let exp : Nat ← Prog.ask (ReadyCall.dhcpLeaseExpiry mac)
  if exp > 0 ∧ exp > baseline then return true
  else Prog.ask (ReadyCall.vzGuestSSHReachable mac)

/-- The loop, for a number of rounds. -/
def pollVZ (mac : String) : Nat → Prog ReadyCall ReadyCall.Res Unit
  | 0 => onManager (ask .block)
  | rounds + 1 => do
    match ← Prog.ask ReadyCall.select with
    | .done err => throw err
    | .fired late =>
      if !(← onManager (isAlive state.pid)) then throw (exitedErr name vmDir state)
      else if ← probeVZ mac state.leaseBaseline then onManager markReady
      else if late then throw (noLeaseErr name vmDir timeout mac)
      else pollVZ mac rounds

def waitReadyVZ (rounds : Nat) : Prog ReadyCall ReadyCall.Res Unit := do
  if !(← onManager (isAlive state.pid)) then throw (exitedErr name vmDir state)
  else
    let mac : String := match ← onManager (ask .loadConfig) with
      | .ok cfg => cfg.nic.mac
      | .error _ => ""
    if mac = "" then onManager markReady
    else pollVZ name vmDir timeout state mac rounds

end

/-- What a wait has looked at last. -/
inductive Probe where
  | lease (expiry : Nat)
  | ssh
  deriving DecidableEq, Repr

/-- The host's choices in a call of the wait. -/
structure ReadyAnswer where
  manager : Answer := {}
  expiry : Nat := 0
  reachable : Bool := false
  tick : Tick := .fired false
  deriving Repr

/-- The host of the wait, which keeps what was looked at last. The lease database may be anything
at any time. -/
def readyHost : Machine ReadyCall ReadyCall.Res (World × Option Probe) where
  Ans := ReadyAnswer
  Event := HostEvent
  exec _ op ans w :=
    match op with
    | .manager call => (call.exec ans.manager w.1).map fun out => (out.1, out.2, w.2)
    | .dhcpLeaseExpiry _ => some (ans.expiry, w.1, some (.lease ans.expiry))
    | .vzGuestSSHReachable _ => some (ans.reachable, w.1, some .ssh)
    | .select => some (ans.tick, w)
  env event w := (event.occur w.1).map fun world => (world, w.2)

end Vee
