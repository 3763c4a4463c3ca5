import Vee.Misc.Linearization
import Vee.Misc.Program
import Vee.Tunnel.Reconcile

/-!
# The tunnel registry between processes

`Add`, `Remove` and `RemoveVM` of `internal/vm/tunnel_registry.go` load the file, change the
list and put a new file in its place. The mutex is a field of an object that each call makes
for itself, so it keeps nobody out. `reconcilePass` is `reconcileTunnels` of
`internal/vm/tunnel_daemon.go` call by call (`reconcilePass_ran`).
-/

namespace Vee.Tunnel

/-- The calls that change the registry. -/
inductive Request where
  | add (spec : TunnelSpec)
  | remove (vm service : String)
  | removeVM (vm : String)
  deriving DecidableEq, Repr

/-- The content that a request puts in the place of another; `none` if it leaves it. -/
def Request.change : Request → List TunnelSpec → Option (List TunnelSpec)
  | .add spec, specs => some (registryAdd spec specs)
  | .remove vm service, specs => registryRemove vm service specs
  | .removeVM vm, specs => registryRemoveVM vm specs

/-- On whose behalf the file is read or replaced. -/
inductive Caller where
  | user (request : Request)
  /-- An `Add` of the daemon. -/
  | daemon (spec : TunnelSpec)
  | list

/-- The calls that the processes make. -/
inductive RegistryOp where
  /-- A command begins to change the registry. -/
  | begin (request : Request)
  /-- It has the result. -/
  | finish (request : Request) (result : Except String Bool)
  | read (caller : Caller)
  /-- One of the calls that prepare the new file under a name of its own. -/
  | prepare (what : String)
  | rename (caller : Caller) (specs : List TunnelSpec)
  | listVMs
  /-- The order in which a loop ranges over a map. -/
  | range (keys : List Text)
  | listen (key : Text)

def RegistryOp.Res : RegistryOp → Type
  | .begin _ | .finish _ _ => Unit
  | .read _ => Except String (List TunnelSpec)
  | .prepare _ | .rename _ _ => Except String Unit
  | .listVMs => Except String (List ListEntry)
  | .range _ => List Text
  | .listen _ => Except String Nat

abbrev RegistryProg := Prog RegistryOp RegistryOp.Res

open Prog (ask orThrow)

variable (caller : Caller) (request : Request)

def begin_ : RegistryProg Unit := ask (RegistryOp.begin request)

def finish (result : Except String Bool) : RegistryProg Unit :=
  ask (RegistryOp.finish request result)

def readFile : RegistryProg (Except String (List TunnelSpec)) :=
  ask (RegistryOp.read caller)

def prepareFile (what : String) : RegistryProg (Except String Unit) := ask (RegistryOp.prepare what)

def rename (specs : List TunnelSpec) : RegistryProg (Except String Unit) :=
  ask (RegistryOp.rename caller specs)

def listVMs : RegistryProg (Except String (List ListEntry)) := ask RegistryOp.listVMs

def range (keys : List Text) : RegistryProg (List Text) := ask (RegistryOp.range keys)

def listen (key : Text) : RegistryProg (Except String Nat) := ask (RegistryOp.listen key)

/-- `load`; a file that does not exist reads as an empty list. -/
def load : RegistryProg (List TunnelSpec) := do
  let answer ← readFile caller
  let specs ← orThrow "read tunnel registry: " answer
  pure (sortSpecs specs)

/-- The contexts of the errors before the rename. -/
def preparations : List String :=
  ["create tunnel registry dir: ", "create tunnel registry temp file: ", "write tunnel registry: ",
    "close tunnel registry: ", "chmod tunnel registry: "]

def prepare (what : String) : RegistryProg Unit := do
  let answer ← prepareFile what
  orThrow what answer

def save (specs : List TunnelSpec) : RegistryProg Unit := do
  let _ ← Prog.forEach prepare preparations
  let answer ← rename caller (sortSpecs specs)
  orThrow "replace tunnel registry: " answer

/-- Save what has been changed, if anything has. -/
def saveChange : Option (List TunnelSpec) → RegistryProg Bool
  | none => pure false
  | some out => do
    save caller out
    pure true

/-- `Add`, `Remove` and `RemoveVM`: whether anything was changed. -/
def update : RegistryProg Bool := do
  let specs ← load caller
  saveChange caller (request.change specs)

/-- A command that makes one change. -/
def command : RegistryProg Unit := do
  begin_ request
  let result ← (update (.user request) request).attempt
  finish request result

/-- Record the port and the protocol of a tunnel that has been started; an error is only
logged. -/
def saveStarted (want : Want) (free : Nat) : RegistryProg Unit :=
  if want.portOf free ≠ want.spec.port ∨ want.spec.protocol ≠ want.protocol then do
    let _ ← (update (.daemon (want.updated free)) (.add (want.updated free))).attempt
    pure ()
  else pure ()

/-- The loop of a pass that starts tunnels. -/
def startTunnels (wanted : GoMap Text Want) :
    List Text → GoMap Text ActiveTunnel → RegistryProg Unit
  | [], _ => pure ()
  | key :: rest, active =>
    match active.lookup key, wanted.lookup key with
    | none, some want => do
      match ← listen key with
      | .error _ => startTunnels wanted rest active
      | .ok free => do
        saveStarted want free
        startTunnels wanted rest (active.insert key (want.started free))
    | _, _ => startTunnels wanted rest active

/-- `reconcileTunnels`, with the tunnels that are live when the pass begins. -/
def reconcilePass (active : GoMap Text ActiveTunnel) : RegistryProg Unit := do
  let listed ← (load .list).attempt
  match listed with
  | .error _ => pure ()
  | .ok specs => do
    match ← listVMs with
    | .error _ => pure ()
    | .ok entries => do
      let plan := planTunnels specs entries
      let order ← range plan.wanted.keys
      startTunnels plan.wanted order (stopUnwanted plan.wanted active)

/-- What runs at the registry: commands, and passes of the daemon. -/
inductive Party where
  | command (request : Request)
  | pass (active : GoMap Text ActiveTunnel)

def Party.program : Party → RegistryProg Unit
  | .command request => Tunnel.command request
  | .pass active => reconcilePass active

/-- What is on record of the registry: commands that begin and end, and each time the file was
read or replaced. -/
inductive Entry where
  | began (i : Nat) (request : Request)
  | ended (i : Nat) (request : Request) (result : Except String Bool)
  | loaded (i : Nat) (caller : Caller) (content : List TunnelSpec)
  | replaced (i : Nat) (caller : Caller) (content : List TunnelSpec)

/-- The file, and the record. -/
structure RegistryWorld where
  file : List TunnelSpec
  log : List Entry := []

/-- The host's choices: that a call succeeds, and with what, or why it fails. -/
inductive RegistryAns where
  | done
  | fail (text : String)
  | vms (entries : List ListEntry)
  | order (keys : List Text)
  | port (free : Nat)

namespace RegistryWorld

def note (w : RegistryWorld) (e : Entry) : RegistryWorld := { w with log := w.log ++ [e] }

/-- What a call of process `i` does. -/
def exec (i : Nat) (op : RegistryOp) (ans : RegistryAns) (w : RegistryWorld) :
    Option (op.Res × RegistryWorld) :=
  match op, ans with
  | .begin request, .done => some ((), w.note (.began i request))
  | .finish request result, .done => some ((), w.note (.ended i request result))
  | .read caller, .done => some (.ok w.file, w.note (.loaded i caller w.file))
  | .read _, .fail text => some (.error text, w)
  | .prepare _, .done => some (.ok (), w)
  | .prepare _, .fail text => some (.error text, w)
  | .rename caller specs, .done =>
    some (.ok (), { w.note (.replaced i caller specs) with file := specs })
  | .rename _ _, .fail text => some (.error text, w)
  | .listVMs, .vms entries => some (.ok entries, w)
  | .listVMs, .fail text => some (.error text, w)
  | .range keys, .order order => if order.isPerm keys then some (order, w) else none
  | .listen _, .port free => some (.ok free, w)
  | .listen _, .fail text => some (.error text, w)
  | _, _ => none

end RegistryWorld

/-- The host of the registry; nothing else writes to the file. -/
def registryMachine : Machine RegistryOp RegistryOp.Res RegistryWorld where
  Ans := RegistryAns
  exec := RegistryWorld.exec

/-- The processes before their first call. -/
def registryStart (initial : List TunnelSpec) (parties : List Party) :
    Config RegistryOp RegistryOp.Res Unit RegistryWorld :=
  ⟨parties.map Party.program, { file := initial }⟩

end Vee.Tunnel
