import Mathlib.Data.List.Basic
import Vee.QMP.SSHPort

/-!
# Whose reply the direct client returns

`QMPClient.execute` writes its command and takes the next line for the reply. An event
decodes as an empty success and shifts every later reply by one call; and a line of 64 KiB
or more ends the scanner.
-/

namespace Vee.QMP

open QMPClient List SSHPort

/-- QEMU's side of a connection: it answers each command once, in order, and sends events
in between. If it refuses the capability negotiation there may be nothing more. -/
structure Dialogue (requests : List QMPRequest) where
  /-- The length of the greeting. -/
  greeting : Nat := 0
  lines : List Token
  ending : Option String := none
  first : Reply
  rest : List Reply
  replies : lines.filterMap (·.line.reply?) = first :: rest
  events : ∀ token ∈ lines, token.line.reply? = none → ∃ name, token.line = .event name
  complete : (∃ payload, first = .value payload) → rest.length = requests.length
  marshals : ∀ request ∈ requests, request.arguments.isOk

namespace Dialogue

variable {requests : List QMPRequest} (d : Dialogue requests)

def client : QMPClient where
  lines := ⟨.greeting, d.greeting⟩ :: d.lines
  ending := d.ending

def awaited : Nat :=
  match d.first with
  | .value _ => requests.length + 1
  | .fault _ => 1

end Dialogue

def Token.Clean (token : Token) : Prop :=
  token.line.reply?.isSome ∧ token.bytes < maxScanTokenSize
deriving Decidable

/-- The requests of `SetSSHPort`. -/
def portRequests (state : VMState) (port : Int) : List QMPRequest :=
  (if movesPort state port then [monitorCommand (hostfwdRemove state.sshPort)] else []) ++
    [monitorCommand (hostfwdAdd port)]

/-- The connection when `SetSSHPort` comes to `hostfwd_add`; the output of `hostfwd_remove` is only
logged. -/
def readied (state : VMState) (port : Int) (client : QMPClient) : QMPClient :=
  if movesPort state port then (client.humanMonitorCommand (hostfwdRemove state.sshPort)).2
  else client

/-- QEMU has carried a monitor command out: it printed nothing. -/
def Carried (reply : Reply) : Prop :=
  ∃ payload out, reply = .value payload ∧ unmarshalString (some payload) = .ok out ∧
    trimSpace out = []

namespace ClientReplies

variable {request : QMPRequest} {c : QMPClient} {token : Token} {rest : List Token}

/-- A call on a line that is no reply, or too long, returns no reply's outcome. -/
theorem execute_unclean (marshals : request.arguments.isOk) (lines : c.lines = token :: rest)
    (deadline : c.deadlineErr = none) (write : c.writeErr = none)
    (event : token.line.reply? = none → ∃ name, token.line = .event name)
    (unclean : ¬ token.Clean) (r : Reply) : (c.execute request).1 ≠ r.outcome := by
  cases marshalled : request.arguments with
  | error text => simp [marshalled, Except.isOk, Except.toBool] at marshals
  | ok text =>
    by_cases long : maxScanTokenSize ≤ token.bytes
    · cases r <;> simp [QMPClient.execute, marshalled, deadline, write, QMPClient.scan, lines, long,
        Reply.outcome, Reply.response, QMPResponse.outcome]
    have none : token.line.reply? = none := by
      by_contra reply
      exact unclean ⟨Option.isSome_iff_ne_none.mpr reply, Nat.lt_of_not_le long⟩
    obtain ⟨name, same⟩ := event none
    have empty : (c.execute request).1 = .ok Option.none := by
      simp [QMPClient.execute, marshalled, deadline, write, QMPClient.scan, lines, long, same,
        Line.unmarshalResponse, QMPResponse.outcome]
    rw [empty]
    exact Ne.symm r.outcome_ne_nil

theorem execute_clean {r : Reply} (marshals : request.arguments.isOk)
    (lines : c.lines = token :: rest) (deadline : c.deadlineErr = none) (write : c.writeErr = none)
    (reply : token.line.reply? = some r) (short : token.bytes < maxScanTokenSize) :
    c.execute request = (r.outcome, { c with lines := rest }) := by
  have same : token.line = .reply r := by
    cases shape : token.line <;> simp [shape, Line.reply?] at reply
    rw [reply]
  cases marshalled : request.arguments with
  | error text => simp [marshalled, Except.isOk, Except.toBool] at marshals
  | ok text =>
    simp [QMPClient.execute, marshalled, deadline, write, QMPClient.scan, lines,
      Nat.not_le.mpr short, same, Line.unmarshalResponse, Reply.outcome]

/-- The lines hold these replies, with nothing but events in between. -/
structure Holds (lines : List Token) (replies : List Reply) : Prop where
  replies : lines.filterMap (·.line.reply?) = replies
  events : ∀ token ∈ lines, token.line.reply? = none → ∃ name, token.line = .event name

theorem Holds.tail {r : Reply} {replies : List Reply} (holds : Holds (token :: rest) (r :: replies))
    (clean : token.Clean) : token.line.reply? = some r ∧ Holds rest replies := by
  obtain ⟨own, reply⟩ := Option.isSome_iff_exists.mp clean.1
  have same := holds.replies
  rw [filterMap_cons, reply] at same
  obtain ⟨rfl, later⟩ := cons.inj same
  exact ⟨reply, later, fun t mem => holds.events t (mem_cons_of_mem token mem)⟩

theorem Holds.cons {lines : List Token} {r : Reply} {replies : List Reply}
    (holds : Holds lines (r :: replies)) : ∃ token rest, lines = token :: rest := by
  cases lines with
  | nil => cases holds.replies
  | cons token rest => exact ⟨token, rest, rfl⟩

/-- The calls return the replies in order exactly if as many clean lines come first. -/
theorem executeAll_iff (requests : List QMPRequest) :
    ∀ (c : QMPClient) (replies : List Reply), c.deadlineErr = none → c.writeErr = none →
      (∀ request ∈ requests, request.arguments.isOk) → Holds c.lines replies →
      replies.length = requests.length →
      (executeAll requests c <+: replies.map Reply.outcome ↔
        ∀ token ∈ c.lines.take requests.length, token.Clean) := by
  induction requests with
  | nil => intro c replies _ _ _ _ _; simp [executeAll]
  | cons request requests ih =>
    intro c replies deadline write marshals holds size
    cases replies with
    | nil => cases size
    | cons r replies =>
      obtain ⟨token, rest, lines⟩ := holds.cons
      have marshal := marshals request mem_cons_self
      rw [lines] at holds
      simp only [executeAll, map_cons, cons_prefix_cons, lines, length_cons,
        take_succ_cons, forall_mem_cons]
      by_cases clean : token.Clean
      · obtain ⟨reply, later⟩ := holds.tail clean
        rw [execute_clean marshal lines deadline write reply clean.2]
        have step := ih { c with lines := rest } replies deadline write
          (fun q mem => marshals q (mem_cons_of_mem request mem)) later
          (Nat.succ.inj size)
        simp only [true_and, clean]
        exact step
      · have event := holds.events token mem_cons_self
        have differs := execute_unclean marshal lines deadline write event clean r
        simp [differs, clean]

end ClientReplies

namespace Dialogue

variable {requests : List QMPRequest} (d : Dialogue requests)

open ClientReplies

theorem holds : Holds d.lines (d.first :: d.rest) := ⟨d.replies, d.events⟩

def greeted : QMPClient := { d.client with lines := d.lines }

theorem scan_client : d.client.scan = if maxScanTokenSize ≤ d.greeting then
      (none, { d.client with lines := [], ending := some "bufio.Scanner: token too long" })
    else (some .greeting, d.greeted) := rfl

/-- The calls return the replies in order exactly if as many clean lines come first, or
if there are no calls at all. -/
theorem session_iff : session requests d.client <+: (d.first :: d.rest).map Reply.outcome ↔
    maxScanTokenSize ≤ d.greeting ∨ ∀ token ∈ d.lines.take d.awaited, token.Clean := by
  by_cases long : maxScanTokenSize ≤ d.greeting
  · simp [session, scan_client, long]
  obtain ⟨token, rest, lines⟩ := d.holds.cons
  have waits : ∃ n, d.awaited = n + 1 := by
    unfold awaited
    cases d.first <;> exact ⟨_, rfl⟩
  obtain ⟨n, waits⟩ := waits
  have holds := d.holds
  rw [lines] at holds
  simp only [session, scan_client, long, if_false, false_or, lines, waits, take_succ_cons,
    forall_mem_cons]
  by_cases clean : token.Clean
  · obtain ⟨reply, later⟩ := holds.tail clean
    rw [execute_clean (c := d.greeted) rfl lines rfl rfl reply clean.2]
    cases first : d.first with
    | fault error =>
      have once : n = 0 := by simpa [awaited, first] using waits.symm
      simp [Reply.outcome, Reply.response, QMPResponse.outcome, once, clean]
    | value payload =>
      have all : n = requests.length := by simpa [awaited, first] using waits.symm
      have step := executeAll_iff requests { d.greeted with lines := rest } d.rest rfl rfl
        d.marshals later (d.complete ⟨payload, first⟩)
      simp only [Reply.outcome, Reply.response, QMPResponse.outcome, map_cons,
        cons_prefix_cons, true_and, clean, all]
      exact step
  · have differs := execute_unclean (c := d.greeted)
        (show capabilities.arguments.isOk from rfl) lines
      rfl rfl (holds.events token mem_cons_self) clean d.first
    simp only [clean, false_and, iff_false]
    intro first
    split at first
    · rename_i error c' ran
      rw [ran] at differs
      exact differs (cons_prefix_cons.mp first).1
    · rename_i payload c' ran
      rw [ran] at differs
      exact differs (cons_prefix_cons.mp first).1

end Dialogue

namespace ClientReplies

/-- A monitor command on a clean line leaves the rest, and its output is the reply's. -/
theorem humanMonitorCommand_clean {c : QMPClient} {token : Token} {rest : List Token} {r : Reply}
    (cmdLine : String) (lines : c.lines = token :: rest) (deadline : c.deadlineErr = none)
    (write : c.writeErr = none) (reply : token.line.reply? = some r) (clean : token.Clean) :
    (c.humanMonitorCommand cmdLine).2 = { c with lines := rest } ∧
      ∀ out, (c.humanMonitorCommand cmdLine).1 = .ok out → trimSpace out = [] → Carried r := by
  have ran := execute_clean (show (monitorCommand cmdLine).arguments.isOk from rfl) lines deadline
    write reply clean.2
  cases r with
  | fault error =>
    have outcome : Reply.outcome (.fault error) = .error (.qmp error) := rfl
    simp [humanMonitorCommand, ran, outcome]
  | value payload =>
    have outcome : Reply.outcome (.value payload) = .ok (some payload) := rfl
    cases decoded : unmarshalString (some payload) with
    | error text => simp [humanMonitorCommand, ran, outcome, decoded]
    | ok value =>
      simp only [humanMonitorCommand, ran, outcome, decoded, Except.ok.injEq, true_and]
      rintro out rfl blank
      exact ⟨payload, value, rfl, decoded, blank⟩

end ClientReplies

namespace Dialogue

open ClientReplies

/-- The client that `NewQMPClient` returns on clean lines. -/
theorem newQMPClient_clean {requests : List QMPRequest} (d : Dialogue requests)
    (clean : maxScanTokenSize ≤ d.greeting ∨ ∀ token ∈ d.lines.take d.awaited, token.Clean)
    {client : QMPClient} (made : newQMPClient d.client = .ok client) :
    client.deadlineErr = none ∧ client.writeErr = none ∧ Holds client.lines d.rest ∧
      d.rest.length = requests.length ∧
      ∀ token ∈ client.lines.take requests.length, token.Clean := by
  by_cases long : maxScanTokenSize ≤ d.greeting
  · simp [newQMPClient, scan_client, long] at made
  obtain ⟨token, rest, lines⟩ := d.holds.cons
  have holds := d.holds
  have clean := clean.resolve_left long
  rw [lines] at holds clean
  have head : token.Clean := by
    apply clean token
    unfold awaited
    cases d.first <;> simp
  obtain ⟨reply, later⟩ := holds.tail head
  simp only [newQMPClient, scan_client, long, if_false,
    execute_clean (c := d.greeted) (show capabilities.arguments.isOk from rfl) lines rfl rfl
      reply head.2] at made
  cases first : d.first with
  | fault error => simp [first, Reply.outcome, Reply.response, QMPResponse.outcome] at made
  | value payload =>
    simp only [first, Reply.outcome, Reply.response, QMPResponse.outcome, Except.ok.injEq] at made
    subst made
    refine ⟨rfl, rfl, later, d.complete ⟨payload, first⟩, ?_⟩
    intro t mem
    apply clean t
    simp only [awaited, first, take_succ_cons]
    exact mem_cons_of_mem token mem

/-- On clean lines, a port that is applied live has been forwarded by QEMU. -/
theorem forwardPort_carried {state : VMState} {port : Int} (d : Dialogue (portRequests state port))
    (clean : maxScanTokenSize ≤ d.greeting ∨ ∀ token ∈ d.lines.take d.awaited, token.Clean)
    {client : QMPClient} (made : newQMPClient d.client = .ok client) {out : Text}
    (printed : ((readied state port client).humanMonitorCommand (hostfwdAdd port)).1 = .ok out)
    (blank : trimSpace out = []) :
    ∃ reply, (d.first :: d.rest).getLast? = some reply ∧ Carried reply := by
  obtain ⟨deadline, write, holds, size, clean⟩ := d.newQMPClient_clean clean made
  by_cases moves : movesPort state port
  · simp only [portRequests, moves, if_true, singleton_append, length_cons,
      length_nil] at size clean
    obtain ⟨removed, added, two⟩ := length_eq_two.mp size
    rw [two] at holds
    obtain ⟨t, rest, lines⟩ := holds.cons
    rw [lines] at holds clean
    have first : t.Clean := clean t (by simp)
    obtain ⟨reply, holds⟩ := holds.tail first
    obtain ⟨t', rest', lines'⟩ := holds.cons
    rw [lines'] at holds clean
    have second : t'.Clean := clean t' (by simp)
    obtain ⟨reply', -⟩ := holds.tail second
    have left := (humanMonitorCommand_clean (hostfwdRemove state.sshPort) lines deadline write reply
      first).1
    simp only [readied, moves, if_true, left] at printed
    have carried := (humanMonitorCommand_clean (c := { client with lines := rest })
      (hostfwdAdd port) lines' deadline write reply' second).2 out printed blank
    exact ⟨added, by simp [two], carried⟩
  · simp only [portRequests, moves, if_false, nil_append, length_cons,
      length_nil, Bool.false_eq_true] at size clean
    obtain ⟨added, one⟩ := length_eq_one_iff.mp size
    rw [one] at holds
    obtain ⟨t, rest, lines⟩ := holds.cons
    rw [lines] at holds clean
    have first : t.Clean := clean t (by simp)
    obtain ⟨reply, -⟩ := holds.tail first
    simp only [readied, moves, if_false, Bool.false_eq_true] at printed
    have carried := (humanMonitorCommand_clean (hostfwdAdd port) lines deadline write reply
      first).2 out printed blank
    exact ⟨added, by simp [one], carried⟩

end Dialogue

section Live

variable {host : SSHPortHost} {name : String} {port : Int} {state : VMState} {client : QMPClient}
  {conn : Option QMPClient} {text : Option String}

theorem addPort_live
    (ran : Ran (host.machine name) (addPort state port) (some client) (.ok (true, text)) conn) :
    ∃ out, (client.humanMonitorCommand (hostfwdAdd port)).1 = .ok out ∧ trimSpace out = [] := by
  obtain ⟨_, _, _, asked, rest⟩ := ran.ask_inv
  cases asked
  have line : (Command.add port).cmdLine = hostfwdAdd port := rfl
  rw [line] at rest
  cases printed : (client.humanMonitorCommand (hostfwdAdd port)).1 with
  | error text =>
    rw [printed] at rest
    cases rest
  | ok out =>
    rw [printed] at rest
    change Ran _ (if _ then _ else _) _ _ _ at rest
    split at rest
    · cases rest
    · exact ⟨out, rfl, not_not.mp ‹_›⟩

theorem applyLive_live
    (ran : Ran (host.machine name) (applyLive state port) (some client) (.ok (true, text)) conn) :
    ∃ out, ((readied state port client).humanMonitorCommand (hostfwdAdd port)).1 = .ok out ∧
      trimSpace out = [] := by
  unfold applyLive at ran
  unfold readied
  split at ran
  · rename_i moves
    obtain ⟨_, _, _, asked, rest⟩ := Ran.ask_inv ran
    cases asked
    rw [if_pos moves]
    exact addPort_live rest
  · rename_i same
    rw [if_neg same]
    exact addPort_live ran

theorem applyPort_live {cfg : VMConfig} {before : Option QMPClient}
    (ran : Ran (host.machine name) (applyPort host.platform cfg port) before
      (.ok (true, text)) conn) :
    ∃ state client out, host.loadState name = .ok state ∧
      host.dial state.qmpSocket >>= newQMPClient = .ok client ∧
      ((readied state port client).humanMonitorCommand (hostfwdAdd port)).1 = .ok out ∧
      trimSpace out = [] := by
  obtain ⟨_, _, _, asked, rest⟩ := Ran.ask_inv ran
  cases asked
  cases loaded : host.loadState name with
  | error text =>
    rw [loaded] at rest
    cases rest
  | ok state =>
    rw [loaded] at rest
    change Ran _ (if _ then _ else _) _ _ _ at rest
    split at rest
    · cases rest
    rcases Ran.bind_inv rest with ⟨_, -, impossible⟩ | ⟨alive, _, -, rest⟩
    · cases impossible
    split at rest
    · cases rest
    split at rest
    · cases rest
    obtain ⟨_, _, _, asked, rest⟩ := Ran.ask_inv rest
    dsimp only [SSHPortHost.machine] at asked
    split at asked <;> cases asked
    · cases rest
    · rename_i client made
      obtain ⟨out, printed, blank⟩ := applyLive_live rest
      exact ⟨state, client, out, rfl, made, printed, blank⟩

/-- `SetSSHPort` reports a live change only after a forward that printed nothing. -/
theorem setSSHPort_live (ran : Ran (host.machine name) (setSSHPort host.platform port) none
      (.ok (true, text)) conn) :
    ∃ state client out, host.loadState name = .ok state ∧
      host.dial state.qmpSocket >>= newQMPClient = .ok client ∧
      ((readied state port client).humanMonitorCommand (hostfwdAdd port)).1 = .ok out ∧
      trimSpace out = [] := by
  unfold setSSHPort at ran
  split at ran
  · cases ran
  obtain ⟨_, found, _, -, rest⟩ := Ran.ask_inv ran
  cases found with
  | error text => cases rest
  | ok cfg =>
    change Ran _ (if _ then _ else _) _ _ _ at rest
    split at rest
    · cases rest
    obtain ⟨_, saved, _, -, rest⟩ := Ran.ask_inv rest
    cases saved with
    | error text => cases rest
    | ok _ => exact applyPort_live rest

end Live

/-- The calls on a connection return their own replies, and `SetSSHPort` reports a live
change on it only if QEMU has carried `hostfwd_add` out, exactly if every line up to
the last reply they wait for is a reply that fits into the scanner's buffer (or the
greeting does not fit, and there are no calls). -/
theorem client_returns_own_replies_iff (requests : List QMPRequest) (d : Dialogue requests) :
    (session requests d.client <+: (d.first :: d.rest).map Reply.outcome ∧
      ∀ (host : SSHPortHost) (name : String) (port : Int) (state : VMState) (text : Option String)
        (conn : Option QMPClient), host.loadState name = .ok state →
        host.dial state.qmpSocket = .ok d.client → requests = portRequests state port →
        Ran (host.machine name) (setSSHPort host.platform port) none (.ok (true, text)) conn →
        ∃ reply, (d.first :: d.rest).getLast? = some reply ∧ Carried reply) ↔
    maxScanTokenSize ≤ d.greeting ∨ ∀ token ∈ d.lines.take d.awaited, token.Clean := by
  rw [d.session_iff]
  constructor
  · exact fun both => both.1
  · intro clean
    refine ⟨clean, ?_⟩
    rintro host name port state text conn loaded dialled rfl live
    obtain ⟨state', client, out, loaded', made, printed, blank⟩ := setSSHPort_live live
    rw [loaded] at loaded'
    cases loaded'
    rw [dialled] at made
    exact d.forwardPort_carried clean made printed blank

def forwardedState : VMState :=
  { pid := 1, running := true, qmpSocket := "/run/vm.qmp", sshPort := 2222 }

/-- The answers of a QEMU that refuses the new forward, behind the lines in front of them. -/
def refusal (before : List Token) (events : ∀ token ∈ before, ∃ name, token.line = .event name) :
    Dialogue (portRequests forwardedState 2223) where
  lines := before ++ [⟨.reply (.value (.other "{}")), 14⟩, ⟨.reply (.value (.text [])), 14⟩,
    ⟨.reply (.value (.text "could not set up host forwarding rule".toList)), 51⟩]
  first := .value (.other "{}")
  rest := [.value (.text []), .value (.text "could not set up host forwarding rule".toList)]
  replies := by
    have none : before.filterMap (·.line.reply?) = [] := by
      apply List.filterMap_eq_nil_iff.mpr
      intro token member
      obtain ⟨name, same⟩ := events token member
      rw [same]
      rfl
    rw [List.filterMap_append, none]
    rfl
  events := by
    intro token member plain
    rcases List.mem_append.mp member with early | late
    · exact events token early
    · simp only [List.mem_cons, List.not_mem_nil, or_false] at late
      rcases late with rfl | rfl | rfl <;> cases plain
  complete := fun _ => rfl
  marshals := by decide

/-- Without events each call returns its own reply, and the refusal is not taken for a
live change. -/
theorem refusal_reported :
    session (portRequests forwardedState 2223) (refusal [] (by simp)).client <+:
      [.ok (some (.other "{}")), .ok (some (.text [])),
        .ok (some (.text "could not set up host forwarding rule".toList))] :=
  ((client_returns_own_replies_iff _ (refusal [] (by simp))).mpr (.inr (by decide))).1

def rtcChange : EventName := ⟨"RTC_CHANGE", by decide⟩

def lateRefusal : Dialogue (portRequests forwardedState 2223) :=
  refusal [⟨.event rtcChange, 60⟩] (by simp)

def dialledHost (conn : QMPClient) : SSHPortHost where
  platform := linuxHost
  loadConfig _ := .ok {}
  saveConfig _ := .ok ()
  loadState _ := .ok forwardedState
  saveState _ _ := .ok ()
  isAlive _ := true
  dial _ := .ok conn

/-- One event in front of the replies: `hostfwd_add` returns the reply to
`hostfwd_remove`, and a refused change is reported as live. -/
theorem event_shifts_replies :
    (∃ conn, Ran ((dialledHost lateRefusal.client).machine "vm") (setSSHPort linuxHost 2223) none
      (.ok (true, none)) conn) ∧
      ∃ reply, (lateRefusal.first :: lateRefusal.rest).getLast? = some reply ∧ ¬ Carried reply := by
  refine ⟨⟨_, .of_play (M := (dialledHost lateRefusal.client).machine "vm") (replicate 8 ()) rfl⟩,
    _, rfl, ?_⟩
  rintro ⟨payload, out, same, decoded, blank⟩
  cases same
  cases decoded
  exact absurd blank (by decide)

end Vee.QMP
