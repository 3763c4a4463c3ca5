import Mathlib.Data.Char
import Mathlib.Data.List.AList
import Mathlib.Data.List.Lex
import Mathlib.Data.List.Sort
import Vee.Misc.GoText
import Vee.VM.State

/-!
# Background tunnels

The tunnel registry (`internal/vm/tunnel_registry.go`) and `reconcileTunnels` of
`internal/vm/tunnel_daemon.go`, which keeps the daemon's live tunnels in line with it.
Keys and labels are lists of characters; Go's `<` on them is the order of the lists.
-/

namespace Vee.Tunnel

abbrev GoMap (κ ν : Type) := AList fun _ : κ => ν

def bindLoopback : String := "127.0.0.1"

def bindHost : String := "0.0.0.0"

structure TunnelSpec where
  vm : String
  service : String
  bind : String := ""
  port : Int := 0
  hostname : String := ""
  protocol : ServiceProtocol := .other ""
  deriving DecidableEq, Repr

namespace TunnelSpec

def key (t : TunnelSpec) : Text := t.vm.toList ++ "/".toList ++ t.service.toList

def bindAddr (t : TunnelSpec) : String := if t.bind = bindHost then bindHost else bindLoopback

def vhost (t : TunnelSpec) : String := if t.hostname ≠ "" then t.hostname else t.service

end TunnelSpec

/-- By VM, then by service. -/
def sortSpecs (specs : List TunnelSpec) : List TunnelSpec :=
  specs.insertionSort fun a b =>
    a.vm.toList < b.vm.toList ∨ a.vm = b.vm ∧ a.service.toList ≤ b.service.toList

/-- `TunnelRegistry.Add`, on the content of the registry. -/
def registryAdd (spec : TunnelSpec) (specs : List TunnelSpec) : List TunnelSpec :=
  sortSpecs (specs.filter (·.key ≠ spec.key) ++ [spec])

/-- `TunnelRegistry.Remove`, on the content of the registry; `none` if there is nothing to
remove. -/
def registryRemove (vm service : String) (specs : List TunnelSpec) : Option (List TunnelSpec) :=
  let key := TunnelSpec.key { vm := vm, service := service }
  if specs.any (·.key = key) then some (sortSpecs (specs.filter (·.key ≠ key))) else none

/-- `TunnelRegistry.RemoveVM`, on the content of the registry; `none` if there is nothing to
remove. -/
def registryRemoveVM (vm : String) (specs : List TunnelSpec) : Option (List TunnelSpec) :=
  let out := specs.filter (·.vm ≠ vm)
  if out.length = specs.length then none else some (sortSpecs out)

/-- The listener of a tunnel (`sshLoopbackProxy`). -/
structure Proxy where
  bindAddr : String
  port : Int
  deriving DecidableEq, Repr

structure ActiveTunnel where
  spec : TunnelSpec
  proxy : Proxy
  guestPort : Int
  protocol : ServiceProtocol
  deriving DecidableEq, Repr

/-- The registry on disk and the daemon's `tunnelState`. -/
structure Daemon where
  registry : List TunnelSpec
  active : GoMap Text ActiveTunnel := ∅
  inactive : GoMap Text String := ∅

/-- `ListEntry`, and whether the recorded process is alive. -/
structure ListEntry where
  config : VMConfig
  state : VMState
  alive : Bool

def resolvedServices (cfg : VMConfig) (state : VMState) : List ServiceEntry :=
  cfg.services.map fun s =>
    if s.protocol = .spice then
      if state.spicePort > 0 then { s with port := state.spicePort }
      else
        match cfg.spice with
        | some spice => { s with port := spice.port }
        | none => s
    else s

def runningVMs (entries : List ListEntry) : GoMap String ListEntry :=
  entries.foldl (fun running e =>
    if e.state.running ∧ e.alive then running.insert e.config.name e else running) ∅

/-- `wantEntry`. -/
structure Want where
  spec : TunnelSpec
  guestPort : Int
  protocol : ServiceProtocol

/-- What a spec comes to with the VMs that are running, or why it is not started. -/
def wantTunnel (running : GoMap String ListEntry) (spec : TunnelSpec) : Except String Want :=
  match running.lookup spec.vm with
  | none => .error "VM not running"
  | some entry =>
    match (resolvedServices entry.config entry.state).find? (·.name = spec.service) with
    | none =>
      .error ("VM " ++ goQuote spec.vm ++ " no longer declares service " ++ goQuote spec.service)
    | some found =>
      if found.port ≤ 0 then .error "service port not yet assigned"
      else .ok ⟨spec, found.port, found.protocol⟩

/-- The tunnels to keep up, and the reasons for the others. -/
structure Plan where
  wanted : GoMap Text Want := ∅
  reasons : GoMap Text String := ∅

def Plan.add (running : GoMap String ListEntry) (plan : Plan) (spec : TunnelSpec) : Plan :=
  match wantTunnel running spec with
  | .ok want => { plan with wanted := plan.wanted.insert spec.key want }
  | .error reason => { plan with reasons := plan.reasons.insert spec.key reason }

/-- The tunnels to have, and why the others are left out. -/
def planTunnels (specs : List TunnelSpec) (entries : List ListEntry) : Plan :=
  (sortSpecs specs).foldl (Plan.add (runningVMs entries)) {}

variable (want : Want) (free : Nat)

/-- The running listener can honour what is wanted. -/
def Want.honours (t : ActiveTunnel) : Bool :=
  want.spec.bindAddr = t.spec.bindAddr && want.spec.port = t.spec.port &&
    want.guestPort = t.guestPort

/-- The loop that stops tunnels. -/
def stopUnwanted (wanted : GoMap Text Want) (active : GoMap Text ActiveTunnel) :
    GoMap Text ActiveTunnel :=
  active.entries.foldl (fun kept e =>
    if (wanted.lookup e.1).any (·.honours e.2) then kept else kept.erase e.1) active

/-- The port that a new listener has, if `free` is the one it would be given. -/
def Want.portOf : Int :=
  if want.spec.port ≤ 0 then (free : Int) else want.spec.port

/-- The live tunnel that is started for a want. -/
def Want.started : ActiveTunnel :=
  ⟨want.spec, ⟨want.spec.bindAddr, want.portOf free⟩, want.guestPort, want.protocol⟩

/-- The spec that is saved for it. -/
def Want.updated : TunnelSpec :=
  { want.spec with port := want.portOf free, protocol := want.protocol }

/-- What the host answers during one reconcile: the VMs, which port each new listener
gets that asks for none, or why it fails, and whether the registry can be saved. -/
structure Tick where
  registryError : Option String := none
  entries : Except String (List ListEntry)
  listen : Text → Except String Nat
  saves : Text → Bool := fun _ => true

/-- One round of the loop that starts tunnels. -/
def startTunnel (tick : Tick) (wanted : GoMap Text Want) (d : Daemon) (key : Text) :
    Daemon :=
  match d.active.lookup key, wanted.lookup key with
  | none, some want =>
    match tick.listen key with
    | .error text =>
      let reason := "guest proxy for " ++ goQuote want.spec.vm ++ ": " ++ text
      { d with inactive := d.inactive.insert key reason }
    | .ok free =>
      { d with
        active := d.active.insert key (want.started free)
        registry :=
          if (want.portOf free ≠ want.spec.port ∨ want.spec.protocol ≠ want.protocol) ∧
              tick.saves key then
            registryAdd (want.updated free) d.registry
          else d.registry }
  | _, _ => d

/-- `reconcileTunnels`; `order` is the order in which the loop ranges over the wanted
tunnels. -/
def reconcileTunnels (tick : Tick) (order : List Text) (d : Daemon) : Daemon :=
  match tick.registryError, tick.entries with
  | none, .ok entries =>
    let plan := planTunnels d.registry entries
    order.foldl (startTunnel tick plan.wanted)
      { d with active := stopUnwanted plan.wanted d.active, inactive := plan.reasons }
  | _, _ => d

/-- The keys that the loop ranges over. -/
def wantedKeys (tick : Tick) (d : Daemon) : List Text :=
  match tick.registryError, tick.entries with
  | none, .ok entries => (planTunnels d.registry entries).wanted.keys
  | _, _ => []

/-! ### Ports -/

/-- The TCP ports of the host when a tunnel is started. -/
structure Ports where
  occupied : Int → Bool
  /-- The port that the kernel gives to a listener on port 0; `none` if it has none left. -/
  ephemeral : Option Nat

/-- `net.Listen`: the port that is bound. -/
def Ports.bind (ports : Ports) (port : Int) : Option Nat :=
  if port = 0 then ports.ephemeral
  else if 0 < port ∧ port ≤ 65535 ∧ ports.occupied port = false then some port.toNat
  else none

def isPortFree (ports : Ports) (port : Int) : Bool := (ports.bind port).isSome

/-- The loop of `availablePort`, over the `n` ports from `p` on. -/
def scanPorts (ports : Ports) (preferred p : Int) : Nat → Option Int
  | 0 => none
  | n + 1 =>
    if p ≠ preferred ∧ isPortFree ports p then some p else scanPorts ports preferred (p + 1) n

def availablePort (ports : Ports) (preferred min max : Int) : Int :=
  if isPortFree ports preferred then preferred
  else (scanPorts ports preferred min (max + 1 - min).toNat).getD preferred

def tunnelPortMin : Int := 2300

def tunnelPortMax : Int := 2399

/-- The port that `reconcileTunnels` asks for, and what `startGuestProxy` gets. -/
def Ports.listen (ports : Ports) (want : Want) : Except String Nat :=
  let port :=
    if want.spec.port ≤ 0 then availablePort ports 0 tunnelPortMin tunnelPortMax
    else want.spec.port
  match ports.bind port with
  | some bound => .ok bound
  | none => .error "listen tcp: bind: address already in use"

/-- The daemon's states: the registry may be written by others at any time. -/
inductive Reachable : Daemon → Prop
  | start (registry : List TunnelSpec) : Reachable { registry := registry }
  | edit {d : Daemon} (registry : List TunnelSpec) :
      Reachable d → Reachable { d with registry := registry }
  | reconcile {d : Daemon} (tick : Tick) (order : List Text) :
      Reachable d → order.Perm (wantedKeys tick d) → Reachable (reconcileTunnels tick order d)
  /-- `stopAllTunnels`. -/
  | stopAll {d : Daemon} : Reachable d → Reachable { d with active := ∅ }

end Vee.Tunnel
