import Vee.QMP.Message

/-!
# The direct QMP client

`QMPClient` of `internal/qemu/qmp.go`. The connection is dialled already.
-/

namespace Vee.QMP

/-- A line and its length in bytes. -/
structure Token where
  line : Line
  bytes : Nat := 0

/-- `QMPClient`: what its scanner will find on the connection. After the last line, and
after a line that does not fit, the scanner stays at its end. -/
structure QMPClient where
  lines : List Token
  /-- `scanner.Err()` at the end; `none` if the connection was closed. -/
  ending : Option String := none
  deadlineErr : Option String := none
  writeErr : Option String := none

namespace QMPClient

/-- `scanner.Scan`. -/
def scan (c : QMPClient) : Option Line × QMPClient :=
  match c.lines with
  | [] => (none, c)
  | token :: rest =>
    if maxScanTokenSize ≤ token.bytes then
      (none, { c with lines := [], ending := some "bufio.Scanner: token too long" })
    else (some token.line, { c with lines := rest })

/-- `Execute`: the next line counts as the reply. -/
def execute (request : QMPRequest) (c : QMPClient) : Outcome × QMPClient :=
  match request.arguments, c.deadlineErr, c.writeErr with
  | .error text, _, _ => (.error (.connection text), c)
  | _, some text, _ => (.error (.connection ("QMP set deadline: " ++ text)), c)
  | _, _, some text =>
    (.error (.connection ("QMP write " ++ request.execute ++ ": " ++ text)), c)
  | .ok _, none, none =>
    match c.scan with
    | (none, c) =>
      match c.ending with
      | some text => (.error (.connection ("QMP " ++ request.execute ++ ": " ++ text)), c)
      | none => (.error (.connection "QMP: connection closed"), c)
    | (some line, c) =>
      match line.unmarshalResponse with
      | none => (.error (.connection "invalid character looking for beginning of value"), c)
      | some resp => (resp.outcome, c)

/-- The request of `Capabilities`. -/
def capabilities : QMPRequest := { execute := "qmp_capabilities" }

/-- `NewQMPClient` on a dialled connection. -/
def newQMPClient (c : QMPClient) : Except String QMPClient :=
  match c.scan with
  | (none, c) => .error ("QMP: no greeting received: " ++ c.ending.getD "%!w(<nil>)")
  | (some _, c) =>
    match c.execute capabilities with
    | (.error error, _) => .error error.text
    | (.ok _, c) => .ok c

/-- One call after the other. -/
def executeAll : List QMPRequest → QMPClient → List Outcome
  | [], _ => []
  | request :: requests, c =>
    let (outcome, c) := c.execute request
    outcome :: executeAll requests c

/-- The outcomes of all calls on a connection: the capability negotiation, and the others
if it succeeds. -/
def session (requests : List QMPRequest) (c : QMPClient) : List Outcome :=
  match c.scan with
  | (none, _) => []
  | (some _, c) =>
    match c.execute capabilities with
    | (.error error, _) => [.error error]
    | (.ok payload, c) => .ok payload :: executeAll requests c

/-- The request of `HumanMonitorCommand`. -/
def monitorCommand (cmdLine : String) : QMPRequest where
  execute := "human-monitor-command"
  arguments := .ok ("\x7b\"command-line\":" ++ goQuote cmdLine ++ "\x7d")

/-- `json.Unmarshal` into a string; `null` leaves the string empty. -/
def unmarshalString : Option Payload → Except String Text
  | none => .error "unexpected end of JSON input"
  | some .null => .ok []
  | some (.text value) => .ok value
  | some (.other _) => .error "json: cannot unmarshal into Go value of type string"

def humanMonitorCommand (cmdLine : String) (c : QMPClient) :
    Except String Text × QMPClient :=
  match c.execute (monitorCommand cmdLine) with
  | (.error error, c) => (.error error.text, c)
  | (.ok raw, c) =>
    match unmarshalString raw with
    | .ok out => (.ok out, c)
    | .error text => (.error ("QMP human-monitor-command: decode output: " ++ text), c)

end QMPClient

end Vee.QMP
