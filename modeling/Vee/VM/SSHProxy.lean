import Vee.Misc.Sequential
import Vee.VM.Daemon

/-!
# SSH loopback proxies

`reconcileSSHProxies` of `internal/vm/sshproxy.go`, with `setStateSSHPort` and
`clearStateSSHPort`. A pass works on all VMs of the store. Each of them has its own config, record
and processes (a `World`), and an operation of the manager on one VM leaves the others alone.
-/

namespace Vee

open Prog (orThrow attempt forEach)

/-- `setStateSSHPort`. A failing save is only logged. -/
def setStateSSHPort (port : Int) : VM Unit := do
  match ← ask .loadState with
  | .error _ => return ()
  | .ok state =>
    if state.sshPort = port then return ()
    else let _ ← ask (.saveState { state with sshPort := port })

/-- `clearStateSSHPort`: only the port that the proxy has recorded is taken out. -/
def clearStateSSHPort (port : Int) : VM Unit := do
  match ← ask .loadState with
  | .error _ => return ()
  | .ok state =>
    if state.sshPort ≠ port then return ()
    else let _ ← ask (.saveState { state with sshPort := 0 })

namespace SSHProxy

/-- The calls of a pass: those on one VM, the list of all configs, the iteration over the map
`sshProxies` and over the map of wanted VMs, and what is done to a proxy. -/
inductive Op where
  | on (name : String) (call : Call)
  | listAllConfigs
  | rangeProxies
  | rangeWanted (wanted : List (String × VMConfig))
  | isPortFree (port : Int)
  | startProxy (name : String) (port : Int)
  | closeProxy (name : String)

@[reducible] def Op.Res : Op → Type
  | .on _ call => call.Res
  | .listAllConfigs => Except String (List VMConfig)
  | .rangeProxies => List (String × Int)
  | .rangeWanted _ => List (String × VMConfig)
  | .isPortFree _ => Bool
  -- the port that the proxy listens on
  | .startProxy _ _ => Except String Int
  | .closeProxy _ => Unit

abbrev Daemon (α : Type) := Prog Op Op.Res α

abbrev askDaemon (op : Op) : Daemon op.Res := Prog.ask op

/-- An operation on the VM of a name. -/
def onVM {α : Type} (name : String) (p : VM α) : Daemon α :=
  p.subst fun call => askDaemon (.on name call)

/-- `Manager.List`, over all VMs. -/
def list : Daemon (List (VMConfig × VMState)) := do
  let configs ← orThrow "" (← askDaemon .listAllConfigs)
  forEach (fun cfg => onVM cfg.name (listEntry cfg)) configs

/-- Whether a VM should have a proxy: it runs, in bridge mode and with an `ssh_port`. -/
def isWanted (host : Platform) (entry : VMConfig × VMState) : Daemon Bool := do
  if ← onVM entry.1.name (recordedAlive entry.2) then
    return effectiveBridge host entry.1 && entry.1.sshPort > 0
  else return false

/-- An assignment to a map. -/
def assign (wanted : List (String × VMConfig)) (cfg : VMConfig) : List (String × VMConfig) :=
  wanted.filter (·.1 ≠ cfg.name) ++ [(cfg.name, cfg)]

/-- The map of wanted VMs. -/
def wantedVMs (host : Platform) (entries : List (VMConfig × VMState)) :
    Daemon (List (String × VMConfig)) := do
  let checked ← forEach (fun e => do return (e.1, ← isWanted host e)) entries
  return ((checked.filter (·.2)).map (·.1)).foldl assign []

/-- The first loop of a pass: a proxy whose VM does not want it any more goes. -/
def closeUnwanted (wanted : List (String × VMConfig)) (proxy : String × Int) : Daemon Unit :=
  if wanted.any (·.1 = proxy.1) then pure ()
  else do
    askDaemon (.closeProxy proxy.1)
    onVM proxy.1 (clearStateSSHPort proxy.2)

/-- The ports that `availablePort` tries after the preferred one. -/
def firstFree (preferred : Int) : List Int → Daemon Int
  | [] => return preferred
  | port :: ports => do
    if port ≠ preferred then
      if ← askDaemon (.isPortFree port) then return port
      else firstFree preferred ports
    else firstFree preferred ports

def availablePort (preferred : Int) (first count : Nat) : Daemon Int := do
  if ← askDaemon (.isPortFree preferred) then return preferred
  else firstFree preferred ((List.range' first count).map Int.ofNat)

/-- The second loop of a pass: a wanted VM that has no proxy gets one. -/
def startWanted (wanted : String × VMConfig) : Daemon Unit := do
  if (← askDaemon .rangeProxies).any (·.1 = wanted.1) then return ()
  else
    let port ← availablePort wanted.2.sshPort 2200 100
    match ← askDaemon (.startProxy wanted.1 port) with
    | .error _ => return ()
    | .ok bound => onVM wanted.1 (setStateSSHPort bound)

/-- Close what no VM wants, then open what is missing. -/
def reconcileSSHProxies (host : Platform) : Daemon Unit := do
  match ← attempt list with
  | .error _ => return ()
  | .ok entries =>
    let wanted ← wantedVMs host entries
    let _ ← forEach (closeUnwanted wanted) (← askDaemon .rangeProxies)
    let _ ← forEach startWanted (← askDaemon (.rangeWanted wanted))

/-- The VMs of the store, and the live proxies: the name of the VM and the port. -/
structure Fleet where
  names : List String
  vm : String → World
  proxies : List (String × Int) := []

namespace Fleet

/-- The configs of the store. A config is stored under its own name. -/
def configs (w : Fleet) : List VMConfig :=
  w.names.map fun name => { (w.vm name).config with name := name }

/-- One VM has changed. -/
def set (w : Fleet) (name : String) (v : World) : Fleet :=
  { w with vm := Function.update w.vm name v }

end Fleet

/-- The host's own choices; a map is ranged over in any order. -/
structure Choice extends Answer where
  proxies : List (String × Int) := []
  wanted : List (String × VMConfig) := []

/-- What a call does. A port of 0 asks the system for any free one. -/
def Op.exec : (op : Op) → Choice → Fleet → Option (op.Res × Fleet)
  | .on name call, ans, w =>
    (call.exec ans.toAnswer (w.vm name)).map fun out => (out.1, w.set name out.2)
  | .listAllConfigs, ans, w => some (ans.orFail w.configs, w)
  | .rangeProxies, ans, w => if ans.proxies.isPerm w.proxies then some (ans.proxies, w) else none
  | .rangeWanted wanted, ans, w => if ans.wanted.isPerm wanted then some (ans.wanted, w) else none
  | .isPortFree _, ans, w => some (ans.flag, w)
  | .startProxy name port, ans, w =>
    match ans.error with
    | some text => some (.error text, w)
    | none =>
      let bound := if port = 0 then (ans.num : Int) else port
      some (.ok bound, { w with proxies := w.proxies ++ [(name, bound)] })
  | .closeProxy name, _, w => some ((), { w with proxies := w.proxies.filter (·.1 ≠ name) })

def fleetHost : Machine Op Op.Res Fleet where
  Ans := Choice
  exec _ op ans w := op.exec ans w

/-- The operations between two passes. -/
inductive Change where
  | start (foreground recovery : Bool)
  | stop (reason : ShutdownReason)
  | forceStop (reason : ShutdownReason)
  | guestPoweroff
  | configure (cfg : VMConfig)
  | event (what : HostEvent)

/-- One operation on one VM, from its beginning to its end and whatever its result. -/
inductive Changes (host : Platform) (name : String) : Change → World → World → Prop
  | start {foreground recovery : Bool} {rounds : Nat} {v v' : World} {result : Except String Unit} :
      Ran vmHost (start host name foreground recovery rounds) v result v' →
      Changes host name (.start foreground recovery) v v'
  | stop {reason : ShutdownReason} {v v' : World} {result : Except String Unit} :
      Ran vmHost (stopWithReason name reason) v result v' → Changes host name (.stop reason) v v'
  | forceStop {reason : ShutdownReason} {v v' : World} {result : Except String Unit} :
      Ran vmHost (forceStopWithReason name reason) v result v' →
      Changes host name (.forceStop reason) v v'
  | guestPoweroff {v v' : World} {result : Except String Unit} :
      Ran vmHost recordGuestShutdown v result v' → Changes host name .guestPoweroff v v'
  | configure {cfg : VMConfig} {v : World} :
      Changes host name (.configure cfg) v { v with config := cfg }
  | event {what : HostEvent} {v v' : World} :
      what.occur v = some v' → Changes host name (.event what) v v'

end SSHProxy

end Vee
