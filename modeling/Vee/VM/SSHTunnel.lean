import Mathlib.Logic.Function.Basic

/-!
# The SSH connections of the tunnels

`sshTunnelClient` and `dropSSHTunnelClient` of `internal/vm/sshproxy.go`, as the steps of any number
of calls: a part that holds `sshTunnelMu` is one step, and the dial is made without it. A
connection is known by its number, which stands for the pointer.
-/

namespace Vee.SSHTunnel

/-- How far a call has come. -/
inductive Stage where
  /-- `sshTunnelClient` looks into the cache. -/
  | lookup (vm : String)
  /-- It has found nothing there. -/
  | dial (vm : String)
  /-- It looks again, with its own connection. -/
  | install (vm : String) (cl : Nat)
  /-- `dropSSHTunnelClient` takes the connection out of the cache. -/
  | evict (vm : String) (cl : Nat)
  | close (cl : Nat)
  | returned (result : Except String (Option Nat))

/-- `sshTunnelClients`, the VM that each connection was dialled for, and what has been closed. -/
structure Clients where
  clients : String → Option Nat := fun _ => none
  dialled : List String := []
  closed : List Nat := []

/-- A connection is entered into the cache or taken out. -/
def Clients.put (w : Clients) (vm : String) (cl : Option Nat) : Clients :=
  { w with clients := Function.update w.clients vm cl }

/-- The next step of a call; the host chooses whether a dial fails. -/
def Stage.step : Stage → Option String → Clients → Option (Stage × Clients)
  | .lookup vm, _, w =>
    match w.clients vm with
    | some c => some (.returned (.ok (some c)), w)
    | none => some (.dial vm, w)
  | .dial _, some text, w => some (.returned (.error text), w)
  | .dial vm, none, w =>
    some (.install vm w.dialled.length, { w with dialled := w.dialled ++ [vm] })
  | .install vm cl, _, w =>
    match w.clients vm with
    | some c => some (.returned (.ok (some c)), { w with closed := cl :: w.closed })
    | none => some (.returned (.ok (some cl)), w.put vm (some cl))
  | .evict vm cl, _, w =>
    some (.close cl, if w.clients vm = some cl then w.put vm none else w)
  | .close cl, _, w => some (.returned (.ok none), { w with closed := cl :: w.closed })
  | .returned _, _, _ => none

/-- The states that calls come to, begun at any time and in any order of their steps. Only a
connection that has been dialled can be dropped. -/
inductive Reach : List Stage → Clients → Prop where
  | start : Reach [] {}
  | client {now : List Stage} {w : Clients} (vm : String) :
    Reach now w → Reach (now ++ [.lookup vm]) w
  | drop {now : List Stage} {w : Clients} (vm : String) (cl : Nat) :
    Reach now w → cl < w.dialled.length → Reach (now ++ [.evict vm cl]) w
  | step {now : List Stage} {w w' : Clients} {stage stage' : Stage} (i : Nat)
      (error : Option String) : Reach now w → now[i]? = some stage →
    stage.step error w = some (stage', w') → Reach (now.set i stage') w'

end Vee.SSHTunnel
