import Vee.Misc.Sequential
import Vee.QMP.Client
import Vee.VM.Manager

/-!
# Changing the SSH port of a running VM

`SetSSHPort` (`internal/vm/sshport.go`) call by call, on two hosts: one with the forwards that QEMU
has and what became of the commands that change them, and one with the lines on the connection.
-/

namespace Vee.SSHPort

open QMP (QMPClient)

/-- The command line that drops the forward of a port. -/
def hostfwdRemove (port : Int) : String :=
  "hostfwd_remove net0 tcp:127.0.0.1:" ++ toString port

/-- The command line that forwards a port to the guest's port 22. -/
def hostfwdAdd (port : Int) : String :=
  "hostfwd_add net0 tcp:127.0.0.1:" ++ toString port ++ "-:22"

/-- The running QEMU has another port bound. -/
def movesPort (state : VMState) (port : Int) : Bool := state.sshPort > 0 && state.sshPort ≠ port

/-- The context of the errors after the port has been saved. -/
def applyContext : String := "apply port to running VM (port saved for next start): "

/-- The monitor commands that are sent. -/
inductive Command where
  | remove (port : Int)
  | add (port : Int)

def Command.cmdLine : Command → String
  | .remove port => hostfwdRemove port
  | .add port => hostfwdAdd port

/-- The calls of `SetSSHPort`. -/
inductive PortCall where
  | manager (call : Call)
  | newQMPClient (socket : String)
  | humanMonitorCommand (command : Command)

@[reducible] def PortCall.Res : PortCall → Type
  | .manager call => call.Res
  | .newQMPClient _ => Except String Unit
  | .humanMonitorCommand _ => Except String Text

abbrev Port (α : Type) := Prog PortCall PortCall.Res α

abbrev ask (op : PortCall) : Port op.Res := Prog.ask op

/-- The error of a change that was made and could not be recorded. -/
def unrecorded (text : String) : String :=
  "port forwarded live, but recording it in state failed: " ++ text

/-- `SetSSHPort` from `hostfwd_add` on. -/
def addPort (state : VMState) (port : Int) : Port (Bool × Option String) := do
  match ← ask (.humanMonitorCommand (.add port)) with
  | .error text => return (false, some (applyContext ++ text))
  | .ok out =>
    if trimSpace out ≠ [] then return (false, some (applyContext ++ String.ofList (trimSpace out)))
    else
      match ← ask (.manager (.saveState { state with sshPort := port })) with
      | .error text => return (true, some (unrecorded text))
      | .ok () => return (true, none)

/-- `SetSSHPort` from the dialled connection on. -/
def applyLive (state : VMState) (port : Int) : Port (Bool × Option String) := do
  if movesPort state port then
    let _ ← ask (.humanMonitorCommand (.remove state.sshPort))
  addPort state port

/-- `SetSSHPort` once the config is saved. -/
def applyPort (host : Platform) (cfg : VMConfig) (port : Int) : Port (Bool × Option String) := do
  match ← ask (.manager .loadState) with
  | .error _ => return (false, none)
  | .ok state =>
    if !state.running then return (false, none)
    else if !(← (isAlive state.pid).subst fun call => ask (.manager call)) then return (false, none)
    else if effectiveBridge host cfg || state.qmpSocket = "" then return (false, none)
    else
      match ← ask (.newQMPClient state.qmpSocket) with
      | .error text =>
        return (false, some ("VM is running but its QMP socket is unreachable " ++
          "(port saved for next start): " ++ text))
      | .ok () => applyLive state port

/-- `SetSSHPort`: whether the port was applied live, and the error. -/
def setSSHPort (host : Platform) (port : Int) : Port (Bool × Option String) := do
  if port ≤ 0 ∨ 65535 < port then
    return (false, some ("invalid SSH port " ++ toString port ++ ": must be 1-65535"))
  else
    match ← ask (.manager .loadConfig) with
    | .error text => return (false, some text)
    | .ok cfg =>
      if cfg.backendName = .vz then
        return (false, some ("the vz backend does not support ssh_port: NAT has no host " ++
          "port-forwarding — use `vee ssh` (resolves the guest IP by MAC)"))
      else
        let cfg := { cfg with sshPort := port }
        match ← ask (.manager (.saveConfig cfg)) with
        | .error text => return (false, some text)
        | .ok () => applyPort host cfg port

/-- A VM with its QEMU: the host ports that it forwards to port 22 of the guest, and what became of
the commands so far. -/
structure Forwarding where
  vm : World
  forwards : List Int
  /-- `hostfwd_remove` has taken a forward away. -/
  withdrawn : Bool := false
  /-- `hostfwd_add` was answered by an error or by a text. -/
  refused : Bool := false

/-- The host's choices in a call. `carried` says whether QEMU has carried a command out, which an
answer that is an error leaves open. -/
structure PortAnswer where
  manager : Answer := {}
  error : Option String := none
  output : Text := []
  carried : Bool := true

/-- The answer of QEMU. -/
def PortAnswer.reply (ans : PortAnswer) : Except String Text :=
  match ans.error with
  | some text => .error text
  | none => .ok ans.output

/-- The answer reports a success. -/
def accepted : Except String Text → Bool
  | .ok out => trimSpace out = []
  | .error _ => false

/-- What QEMU does about a command. A `hostfwd_add` that is answered by nothing was carried out. -/
def Command.exec : Command → PortAnswer → Forwarding → Forwarding
  | .remove port, ans, w =>
    { w with
      forwards := if ans.carried then w.forwards.filter (· ≠ port) else w.forwards
      withdrawn := w.withdrawn || (ans.carried && w.forwards.contains port) }
  | .add port, ans, w =>
    { w with
      forwards := if accepted ans.reply || ans.carried then port :: w.forwards else w.forwards
      refused := w.refused || !accepted ans.reply }

def portHost : Machine PortCall PortCall.Res Forwarding where
  Ans := PortAnswer
  exec _ op ans w :=
    match op with
    | .manager call => (call.exec ans.manager w.vm).map fun out => (out.1, { w with vm := out.2 })
    | .newQMPClient _ =>
      match ans.error with
      | some text => some (.error text, w)
      | none => some (.ok (), w)
    | .humanMonitorCommand command => some (ans.reply, command.exec ans w)

/-- The answers of a host, and the connection to a QMP socket. -/
structure SSHPortHost where
  platform : Platform
  loadConfig : String → Except String VMConfig
  saveConfig : VMConfig → Except String Unit
  loadState : String → Except String VMState
  saveState : String → VMState → Except String Unit
  isAlive : Nat → Bool
  dial : String → Except String QMPClient

/-- The host that gives these answers. Its world is the connection, once there is one. -/
def SSHPortHost.machine (host : SSHPortHost) (name : String) :
    Machine PortCall PortCall.Res (Option QMPClient) where
  Ans := Unit
  exec _ op _ conn :=
    match op with
    | .manager .loadConfig => some (host.loadConfig name, conn)
    | .manager (.saveConfig cfg) => some (host.saveConfig cfg, conn)
    | .manager .loadState => some (host.loadState name, conn)
    | .manager (.saveState state) => some (host.saveState name state, conn)
    | .manager (.processAlive pid) => some (host.isAlive pid, conn)
    | .manager _ => none
    | .newQMPClient socket =>
      match host.dial socket >>= QMPClient.newQMPClient with
      | .error text => some (.error text, conn)
      | .ok client => some (.ok (), some client)
    | .humanMonitorCommand command =>
      conn.map fun client =>
        let reply := client.humanMonitorCommand command.cmdLine
        (reply.1, some reply.2)

end Vee.SSHPort
