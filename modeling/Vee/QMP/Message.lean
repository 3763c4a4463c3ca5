import Vee.Misc.GoText

/-!
# QMP messages

The lines that QEMU sends on its monitor socket and what `json.Unmarshal` makes of
them (`internal/qemu/qmp.go`).
-/

namespace Vee.QMP

/-- A JSON value, as far as a caller looks into it. -/
inductive Payload where
  | null
  | text (value : Text)
  | other (raw : String)
  deriving DecidableEq, Repr

structure QMPError where
  cls : String
  desc : String
  deriving DecidableEq, Repr

/-- `qmpRequest`; `arguments` is what `json.Marshal` makes of them. -/
structure QMPRequest where
  execute : String
  arguments : Except String String := .ok ""

/-- `qmpResponse`; a field that the line does not have is `none`. -/
structure QMPResponse where
  ret : Option Payload := none
  error : Option QMPError := none
  deriving DecidableEq, Repr

/-- QEMU's answer to one command. -/
inductive Reply where
  | value (payload : Payload)
  | fault (error : QMPError)
  deriving DecidableEq, Repr

structure EventName where
  text : String
  nonempty : text ≠ ""
  deriving DecidableEq

/-- One line from QEMU. -/
inductive Line where
  | greeting
  | reply (reply : Reply)
  | event (name : EventName)
  | garbage
  deriving DecidableEq

namespace Reply

/-- The reply as a `qmpResponse`. -/
def response : Reply → QMPResponse
  | .value payload => { ret := some payload }
  | .fault error => { error := some error }

end Reply

namespace Line

/-- The reply that a line carries. -/
def reply? : Line → Option Reply
  | .reply r => some r
  | _ => none

/-- `json.Unmarshal` into a `qmpResponse`: fields that it does not know are ignored, so
every JSON object decodes. -/
def unmarshalResponse : Line → Option QMPResponse
  | .reply r => some r.response
  | .greeting | .event _ => some {}
  | .garbage => none

/-- `json.Unmarshal` into a `QMPEvent`, for its `Event` field. -/
def unmarshalEvent : Line → Option String
  | .event name => some name.text
  | .greeting | .reply _ => some ""
  | .garbage => none

end Line

/-- The errors of a command: QEMU's own, and those of the connection. -/
inductive ExecError where
  | qmp (error : QMPError)
  | connection (text : String)
  deriving DecidableEq, Repr

def ExecError.text : ExecError → String
  | .qmp error => "QMP error " ++ error.cls ++ ": " ++ error.desc
  | .connection text => text

/-- What a command returns: its raw payload, `nil` if the response had none, or an error. -/
abbrev Outcome := Except ExecError (Option Payload)

/-- What the commands return for a response. -/
def QMPResponse.outcome (resp : QMPResponse) : Outcome :=
  match resp.error with
  | some error => .error (.qmp error)
  | none => .ok resp.ret

/-- The outcome that a reply is meant to have. -/
def Reply.outcome (r : Reply) : Outcome := r.response.outcome

/-- The outcome came from a response. -/
def answered : Outcome → Bool
  | .ok _ => true
  | .error (.qmp _) => true
  | .error (.connection _) => false

theorem Reply.outcome_ne_nil (r : Reply) : r.outcome ≠ .ok none := by
  cases r <;> simp [outcome, response, QMPResponse.outcome]

/-- `executeTimeout`, as it is printed. -/
def executeTimeout : String := "5s"

end Vee.QMP
