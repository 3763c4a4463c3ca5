import Vee.Misc.Program
import Vee.QMP.Message

/-!
# The owner of a QMP connection

`QMPOwner` of `internal/qemu/qmp_owner.go`: one connection, one reader goroutine, and
any number of callers of `Execute`. The connection is dialled already. The steps of
QEMU and of the reader are steps of the host; the callers are programs.
-/

namespace Vee.QMP

/-- What a caller does to the connection and the owner's channels. -/
inductive Call where
  /-- `cmdMu.Lock`. -/
  | lock
  /-- The non-blocking receive from `respCh`. -/
  | drain
  /-- `conn.Write` of a request. -/
  | write (request : QMPRequest)
  /-- The `select` on `respCh`, `done` and the timer. -/
  | await
  | unlock
  /-- `scanner.Scan`, before the reader owns the scanner. -/
  | scan
  /-- `go o.readLoop()`. -/
  | startReader

/-- The branch that a `select` took. -/
inductive Selected where
  | response (resp : QMPResponse)
  | closed (error : String)
  | timeout

abbrev Call.Res : Call → Type
  | .write _ => Except String Unit
  | .await => Selected
  | .scan => Except (Option String) Line
  | .lock | .drain | .unlock | .startReader => Unit

/-- A caller. -/
abbrev Owner (α : Type) := Prog Call Call.Res α

abbrev ask (op : Call) : Owner op.Res := Prog.ask op

def writeRequest (request : QMPRequest) : Owner (Except String Unit) :=
  match request.arguments with
  | .error text => pure (.error text)
  | .ok _ => do
    match ← ask (.write request) with
    | .ok () => pure (.ok ())
    | .error text => pure (.error ("QMP write " ++ request.execute ++ ": " ++ text))

/-- `Execute` while it holds `cmdMu`. -/
def exchange (request : QMPRequest) : Owner Outcome := do
  ask .drain
  match ← writeRequest request with
  | .error text => pure (.error (.connection text))
  | .ok () =>
    match ← ask .await with
    | .response resp => pure resp.outcome
    | .closed text => pure (.error (.connection text))
    | .timeout =>
      pure (.error (.connection
        ("QMP " ++ request.execute ++ ": timed out after " ++ executeTimeout)))

/-- `Execute`: one exchange at a time. -/
def execute (request : QMPRequest) : Owner Outcome := do
  ask .lock
  let outcome ← exchange request
  ask .unlock
  pure outcome

/-- What the loop of `handshake` makes of a line: a result, or `none` for `continue`. -/
def handshakeResult (line : Line) : Option (Except String Unit) :=
  match line.unmarshalResponse with
  | none =>
    if line.unmarshalEvent.any (· ≠ "") then none
    else some (.error "invalid character looking for beginning of value")
  | some resp =>
    match resp.error with
    | some error => some (.error (ExecError.qmp error).text)
    | none => some (.ok ())

/-- The loop of `handshake`, over at most `rounds` lines. -/
def readCapabilities : Nat → Owner Unit
  | 0 => throw "QMP: more lines to read"
  | rounds + 1 => do
    match ← ask .scan with
    | .error (some text) => throw ("QMP capabilities: " ++ text)
    | .error none => throw "QMP: connection closed during handshake"
    | .ok line =>
      match handshakeResult line with
      | none => readCapabilities rounds
      | some result => Prog.orThrow "" result

/-- No line is skipped: an event decodes as an empty response. -/
theorem handshakeResult_some : (line : Line) → ∃ result, handshakeResult line = some result
  | .greeting | .event _ | .garbage | .reply (.value _) | .reply (.fault _) => ⟨_, rfl⟩

/-- More rounds make no difference. -/
theorem readCapabilities_succ (rounds : Nat) :
    readCapabilities (rounds + 1) = readCapabilities 1 := by
  refine congrArg (Prog.call Call.scan) (funext fun answer => ?_)
  rcases answer with (_ | text) | line
  · rfl
  · rfl
  · obtain ⟨result, handled⟩ := handshakeResult_some line
    simp only [Prog.bind, handled]

/-- `handshake`. One round is the whole loop, by `readCapabilities_succ`. -/
def handshake : Owner Unit := do
  match ← writeRequest { execute := "qmp_capabilities" } with
  | .error text => throw text
  | .ok () => readCapabilities 1

/-- `NewQMPOwner` on a dialled connection. -/
def newQMPOwner : Owner Outcome := do
  match ← ask .scan with
  | .error text => throw ("QMP: no greeting received: " ++ text.getD "%!w(<nil>)")
  | .ok _ =>
    handshake
    ask .startReader
    pure (.ok none)

/-- The owner, the connection and QEMU. -/
structure World where
  /-- The holder of `cmdMu`. -/
  holder : Option Nat := none
  /-- `respCh`, which has one slot. -/
  respCh : Option QMPResponse := none
  /-- The commands that QEMU got, each with the program that wrote it. -/
  sent : List (Nat × QMPRequest) := []
  /-- QEMU's answers; the answer at a position is that to the command there. -/
  answers : List Reply := []
  /-- The lines that nobody has read yet. -/
  stream : List Line := [.greeting]
  reading : Bool := false
  /-- `readErr`; `done` is closed when it is set. -/
  readErr : Option String := none

/-- What the host picks for a call. -/
structure Answer where
  error : Option String := none
  /-- The connection is at its end. -/
  eof : Bool := false
  /-- The branch of a `select`, when several are ready. -/
  branch : Option Bool := some true

/-- The calls. `Execute` needs the owner that `NewQMPOwner` returns. -/
def Call.exec (i : Nat) : (op : Call) → Answer → World → Option (op.Res × World)
  | .lock, _, w =>
    if w.holder = none ∧ w.reading then some ((), { w with holder := some i }) else none
  | .drain, _, w => some ((), { w with respCh := none })
  | .write request, ans, w =>
    match ans.error with
    | some text => some (.error text, w)
    | none => some (.ok (), { w with sent := w.sent ++ [(i, request)] })
  | .await, ans, w =>
    match ans.branch with
    | some true => w.respCh.map fun resp => (.response resp, { w with respCh := none })
    | some false => w.readErr.map fun text => (.closed text, w)
    | none => some (.timeout, w)
  | .unlock, _, w => some ((), { w with holder := none })
  | .scan, ans, w =>
    if ans.eof ∨ ans.error.isSome then some (.error ans.error, w)
    else
      match w.stream with
      | line :: rest => some (.ok line, { w with stream := rest })
      | [] => none
  | .startReader, _, w => some ((), { w with reading := true })

/-- What happens by itself. -/
inductive Event where
  /-- QEMU answers the next command. -/
  | answer (reply : Reply)
  /-- QEMU sends a line that is no answer. -/
  | emit (line : Line)
  /-- One round of `readLoop`. -/
  | read
  /-- `readLoop` ends. -/
  | close (error : String)

/-- `readLoop` hands a response over if the slot is free and drops it otherwise. -/
def World.deliver (w : World) (line : Line) : World :=
  if line.unmarshalEvent.any (· ≠ "") then w
  else
    match line.unmarshalResponse, w.respCh with
    | some resp, none => { w with respCh := some resp }
    | _, _ => w

/-- The steps of QEMU and of the reader. -/
def Event.occur : Event → World → Option World
  | .answer reply, w =>
    if w.answers.length < w.sent.length then
      some { w with answers := w.answers ++ [reply], stream := w.stream ++ [.reply reply] }
    else none
  | .emit line, w =>
    if line.reply? = none ∧ line ≠ .greeting then some { w with stream := w.stream ++ [line] }
    else none
  | .read, w =>
    match w.reading, w.readErr, w.stream with
    | true, none, line :: rest => some ({ w with stream := rest }.deliver line)
    | _, _, _ => none
  | .close text, w =>
    if w.reading ∧ w.readErr = none then some { w with readErr := some text } else none

def qmpHost : Machine Call Call.Res World where
  Ans := Answer
  Event := Event
  exec i op ans w := op.exec i ans w
  env event w := event.occur w

/-- `NewQMPOwner`, and then `Execute` for each of the requests. -/
def callers (requests : List QMPRequest) : List (Owner Outcome) :=
  newQMPOwner :: requests.map execute

end Vee.QMP
