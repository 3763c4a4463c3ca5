import Vee.Misc.RelyGuarantee
import Vee.QMP.Owner

/-!
# Whose reply `Execute` returns

Replies carry no ids. `Execute` empties the one-slot channel, writes its command and takes
the next response that the reader puts there. A reply that comes after its own call has
timed out may be taken by the next call. `noLateReply` excludes just that: after a call has
emptied the channel, the reader reads no reply to an earlier command until the call is over.
-/

namespace Vee.QMP

open List Option

/-- The replies read so far, and how many commands had been sent when the call that now
holds `cmdMu` emptied the channel. -/
structure History where
  fence : Option Nat := none
  read : List Reply := []

def noteCall (_ : Nat) (op : Call) (answer : op.Res) (w : World) (h : History) : History :=
  match op, answer with
  | .drain, _ => { h with fence := some w.sent.length }
  | .unlock, _ => { h with fence := none }
  | .scan, .ok (.reply r) => { h with read := h.read ++ [r] }
  | _, _ => h

/-- What a step of QEMU or of the reader adds to the history. -/
def noteEvent (event : Event) (w : World) (h : History) : History :=
  match event, w.stream with
  | .read, .reply r :: _ => { h with read := h.read ++ [r] }
  | _, _ => h

def ownerHost : Machine Call Call.Res (World × History) :=
  qmpHost.withHistory noteCall noteEvent

def World.replyNext (w : World) : Bool := (w.stream.head?.bind Line.reply?).isSome

def noLateReply : Guard ownerHost where
  run _ _ _ _ := True
  env event w := event = .read → w.1.replyNext → w.2.fence.all (· ≤ w.2.read.length)

instance : noLateReply.Decides where
  run _ _ _ _ := isTrue trivial
  env event w :=
    match event with
    | .read => decidable_of_iff (w.1.replyNext → w.2.fence.all (· ≤ w.2.read.length))
        ⟨fun holds _ => holds, fun holds => holds rfl⟩
    | .answer _ | .emit _ | .close _ => isTrue Event.noConfusion

/-- A connection on which QEMU has just sent its greeting, its owner to be, and the
callers. -/
def connection (requests : List QMPRequest) : Config Call Call.Res Outcome (World × History) :=
  ⟨callers requests, ({}, {})⟩

/-- The outcome is that of the reply to the command that program `i` wrote. -/
def OwnReply (i : Nat) (request : QMPRequest) (outcome : Outcome) (w : World) : Prop :=
  ∃ (n : Nat) (r : Reply),
    w.sent[n]? = some (i, request) ∧ w.answers[n]? = some r ∧ outcome = r.outcome

namespace OwnReplies

/-- The replies go from the stream to the reader in order, and what stands in the
channel past a fence is not older than the fence. -/
structure Inv (w : World × History) : Prop where
  order : w.1.answers = w.2.read ++ w.1.stream.filterMap Line.reply?
  answered : w.1.answers.length ≤ w.1.sent.length
  slot : ∀ resp f, w.1.respCh = some resp → w.2.fence = some f →
    ∃ (n : Nat) (r : Reply), f ≤ n ∧ w.2.read[n]? = some r ∧ resp = r.response
  fenced : w.2.fence.isSome → w.1.holder.isSome
  held : w.1.holder.isSome → w.1.reading
  greeted : w.1.reading → Line.greeting ∉ w.1.stream

/-- What a step of program `j` leaves of the others. -/
structure Frame (j : Nat) (w w' : World × History) : Prop where
  holder : ∀ i, i ≠ j → w.1.holder = some i →
    w'.1.holder = some i ∧ w'.2.fence = w.2.fence ∧ w'.1.sent = w.1.sent
  unread : j ≠ 0 → w'.1.reading = w.1.reading ∧ w'.1.stream = w.1.stream
  sent : w.1.sent <+: w'.1.sent
  answers : w.1.answers <+: w'.1.answers

def protocol : Protocol ownerHost := ⟨noLateReply, Inv, Frame⟩

variable {i : Nat} {w : World × History}

/-- What the steps of QEMU and of the reader leave alone. -/
structure EnvFrame (w w' : World × History) : Prop where
  holder : w'.1.holder = w.1.holder
  fence : w'.2.fence = w.2.fence
  sent : w'.1.sent = w.1.sent
  reading : w'.1.reading = w.1.reading
  answers : w.1.answers <+: w'.1.answers
  greeting : Line.greeting ∉ w.1.stream → Line.greeting ∉ w'.1.stream
  stream : w.1.reading = false →
    ∃ more, w'.1.stream = w.1.stream ++ more ∧ Line.greeting ∉ more

theorem deliver_frame (w : World) (line : Line) :
    w.deliver line = { w with respCh := (w.deliver line).respCh } := by
  unfold World.deliver
  split
  · rfl
  · split <;> rfl

theorem deliver_event (w : World) (name : EventName) : w.deliver (.event name) = w := by
  simp [World.deliver, Line.unmarshalEvent, name.nonempty]

theorem deliver_garbage (w : World) : w.deliver .garbage = w := by
  simp [World.deliver, Line.unmarshalEvent, Line.unmarshalResponse]

theorem deliver_reply (w : World) (r : Reply) :
    (w.deliver (.reply r)).respCh = some (w.respCh.getD r.response) := by
  cases free : w.respCh <;>
    simp [World.deliver, Line.unmarshalEvent, Line.unmarshalResponse, free]

theorem read_cases {w w' : World} (happened : Event.occur .read w = some w') :
    ∃ line rest, w.stream = line :: rest ∧ w.reading ∧
      w' = ({ w with stream := rest }.deliver line) := by
  simp only [Event.occur] at happened
  split at happened
  · rename_i line rest reading _ shape
    cases happened
    exact ⟨line, rest, shape, reading, rfl⟩
  · cases happened

variable {w' : World × History} {outcome : Outcome}

theorem env_frame {event : Event} (happened : ownerHost.env event w = some w') : EnvFrame w w' := by
  obtain ⟨happened, noted⟩ := Machine.withHistory_env happened
  obtain ⟨world, history⟩ := w'
  have fence : history.fence = w.2.fence := by
    rw [show history = _ from noted]
    unfold noteEvent
    split <;> rfl
  change event.occur w.1 = some world at happened
  cases event with
  | answer reply =>
    obtain ⟨-, ⟨⟩⟩ := ite_none_right_eq_some.mp happened
    exact ⟨rfl, fence, rfl, rfl, prefix_append _ _, by simp,
      fun _ => ⟨[.reply reply], rfl, by simp⟩⟩
  | emit line =>
    obtain ⟨⟨-, other⟩, ⟨⟩⟩ := ite_none_right_eq_some.mp happened
    exact ⟨rfl, fence, rfl, rfl, prefix_rfl, by simp [Ne.symm other],
      fun _ => ⟨[line], rfl, by simp [Ne.symm other]⟩⟩
  | read =>
    obtain ⟨line, rest, shape, reading, rfl⟩ := read_cases happened
    rw [deliver_frame]
    refine ⟨rfl, fence, rfl, rfl, prefix_rfl, ?_, ?_⟩
    · intro absent
      rw [shape] at absent
      exact fun mem => absent (mem_cons_of_mem line mem)
    · intro unread
      rw [unread] at reading
      cases reading
  | close text =>
    obtain ⟨-, ⟨⟩⟩ := ite_none_right_eq_some.mp happened
    exact ⟨rfl, fence, rfl, rfl, prefix_rfl, id, fun _ => ⟨[], (append_nil _).symm, by simp⟩⟩

theorem read_keeps (inv : Inv w) (allowed : w.1.replyNext → w.2.fence.all (· ≤ w.2.read.length))
    (happened : Event.occur .read w.1 = some w'.1) (noted : w'.2 = noteEvent .read w.1 w.2) :
    Inv w' := by
  obtain ⟨world, history⟩ := w'
  obtain ⟨line, rest, shape, reading, rfl⟩ := read_cases happened
  have greeted := inv.greeted reading
  have order := inv.order
  rw [shape] at greeted order
  subst noted
  have later : Line.greeting ∉ rest := fun mem => greeted (mem_cons_of_mem line mem)
  cases line with
  | greeting => exact absurd mem_cons_self greeted
  | event name =>
    rw [deliver_event]
    simp only [noteEvent, shape]
    exact ⟨by simpa [filterMap_cons, Line.reply?] using order, inv.answered, inv.slot, inv.fenced,
      inv.held, fun _ => later⟩
  | garbage =>
    rw [deliver_garbage]
    simp only [noteEvent, shape]
    exact ⟨by simpa [filterMap_cons, Line.reply?] using order, inv.answered, inv.slot, inv.fenced,
      inv.held, fun _ => later⟩
  | reply r =>
    have filled := deliver_reply { w.1 with stream := rest } r
    rw [deliver_frame]
    simp only [noteEvent, shape]
    refine ⟨by simpa [Line.reply?] using order, inv.answered, ?_, inv.fenced,
      inv.held, fun _ => later⟩
    intro resp f full fenced
    change w.2.fence = some f at fenced
    rw [filled] at full
    cases free : w.1.respCh with
    | none =>
      -- the reply goes into the empty slot, and it is not older than the fence
      have young : f ≤ w.2.read.length := by
        simpa [World.replyNext, shape, Line.reply?, fenced] using allowed
      refine ⟨w.2.read.length, r, young, by simp, ?_⟩
      simpa [free] using full.symm
    | some old =>
      obtain ⟨n, r', young, found, same⟩ := inv.slot old f free fenced
      refine ⟨n, r', young, ?_, ?_⟩
      · rw [List.getElem?_append_left (List.getElem?_eq_some_iff.mp found).1]
        exact found
      · rw [← same]
        simpa [free] using full.symm

theorem hostKeeps : protocol.HostKeeps := by
  rintro event ⟨w, h⟩ ⟨w', h'⟩ inv allowed happened
  have frame := env_frame happened
  obtain ⟨happened, rfl⟩ := Machine.withHistory_env happened
  change event.occur w = some w' at happened
  have greeted : w.reading = true → Line.greeting ∉ w'.stream :=
    fun reading => frame.greeting (inv.greeted reading)
  cases event with
  | answer reply =>
    obtain ⟨open_, ⟨⟩⟩ := ite_none_right_eq_some.mp happened
    have order : w.answers = h.read ++ w.stream.filterMap Line.reply? := inv.order
    refine ⟨?_, ?_, inv.slot, inv.fenced, inv.held, greeted⟩
    · simp [order, Line.reply?, noteEvent]
    · simp only [length_append, length_singleton]
      omega
  | emit line =>
    obtain ⟨⟨plain, other⟩, ⟨⟩⟩ := ite_none_right_eq_some.mp happened
    have order : w.answers = h.read ++ w.stream.filterMap Line.reply? := inv.order
    refine ⟨?_, inv.answered, inv.slot, inv.fenced, inv.held, greeted⟩
    simp [order, plain, noteEvent]
  | read => exact read_keeps inv (allowed rfl) happened rfl
  | close text =>
    obtain ⟨-, ⟨⟩⟩ := ite_none_right_eq_some.mp happened
    exact ⟨inv.order, inv.answered, inv.slot, inv.fenced, inv.held, inv.greeted⟩

/-- Program `i` holds `cmdMu`, and something holds of the fence and the commands. -/
def Holds (i : Nat) (P : Option Nat → List (Nat × QMPRequest) → Prop)
    (w : World × History) : Prop :=
  w.1.holder = some i ∧ P w.2.fence w.1.sent

def Drained (fence : Option Nat) (sent : List (Nat × QMPRequest)) : Prop :=
  fence = some sent.length

/-- The command of program `i` is the only one past the fence. -/
def Written (i : Nat) (request : QMPRequest) (fence : Option Nat)
    (sent : List (Nat × QMPRequest)) : Prop :=
  ∃ before, fence = some before.length ∧ sent = before ++ [(i, request)]

theorem holds_stable (i : Nat) (P : Option Nat → List (Nat × QMPRequest) → Prop) :
    protocol.Stable i (Holds i P) := by
  rintro w w' ⟨mine, holds⟩ ⟨-, -, ⟨j, other, frame⟩ | ⟨event, -, happened⟩⟩
  · obtain ⟨holder, fence, sent⟩ := frame.holder i (Ne.symm other) mine
    exact ⟨holder, by rw [fence, sent]; exact holds⟩
  · have frame := env_frame happened
    exact ⟨by rw [frame.holder]; exact mine, by rw [frame.fence, frame.sent]; exact holds⟩

theorem getElem?_of_prefix {α : Type} {xs ys : List α} {n : Nat} {x : α} (longer : xs <+: ys)
    (found : xs[n]? = some x) : ys[n]? = some x := by
  obtain ⟨rest, rfl⟩ := longer
  rw [List.getElem?_append_left (List.getElem?_eq_some_iff.mp found).1]
  exact found

variable {request : QMPRequest}

theorem ownReply_mono {w w' : World} (own : OwnReply i request outcome w)
    (sent : w.sent <+: w'.sent) (answers : w.answers <+: w'.answers) :
    OwnReply i request outcome w' := by
  obtain ⟨n, r, wrote, replied, same⟩ := own
  exact ⟨n, r, getElem?_of_prefix sent wrote, getElem?_of_prefix answers replied, same⟩

theorem ownReply_stable (i : Nat) (request : QMPRequest) (outcome : Outcome) :
    protocol.Stable i fun w => OwnReply i request outcome w.1 := by
  rintro w w' own ⟨-, -, ⟨j, -, frame⟩ | ⟨event, -, happened⟩⟩
  · exact ownReply_mono own frame.sent frame.answers
  · have frame := env_frame happened
    exact ownReply_mono own (by rewrite [frame.sent]; exact prefix_rfl) frame.answers

/-- If the outcome came from a response, it is the caller's own. -/
def Fair (i : Nat) (request : QMPRequest) (outcome : Outcome) (w : World × History) : Prop :=
  answered outcome → OwnReply i request outcome w.1

theorem fair_stable (i : Nat) (request : QMPRequest) (outcome : Outcome) :
    protocol.Stable i (Fair i request outcome) := by
  intro w w' fair step reply
  exact ownReply_stable i request outcome w w' (fair reply) step

theorem fair_of_connection {text : String} : Fair i request (.error (.connection text)) w :=
  fun impossible => by simp [answered] at impossible

theorem lock_triple (i : Nat) :
    protocol.Triple i (fun _ => True) .lock fun _ => Holds i fun _ _ => True := by
  refine .logged (protocol.const_stable i True) fun w h ans answer w' inv _ _ ran => ?_
  simp only [qmpHost, Call.exec, ite_none_right_eq_some, some.injEq, Prod.mk.injEq] at ran
  obtain ⟨⟨free, reading⟩, -, rfl⟩ := ran
  refine ⟨⟨inv.order, inv.answered, inv.slot, fun _ => rfl, fun _ => reading, inv.greeted⟩, ?_,
    rfl, trivial⟩
  refine ⟨?_, fun _ => ⟨rfl, rfl⟩, prefix_rfl, prefix_rfl⟩
  intro k _ held
  exact absurd (free.symm.trans held) nofun

/-- What a step does to the others when its program holds `cmdMu`. -/
theorem frame_of_holder (mine : w.1.holder = some i) (reading : w'.1.reading = w.1.reading)
    (sent : w.1.sent <+: w'.1.sent) (answers : w'.1.answers = w.1.answers)
    (stream : w'.1.stream = w.1.stream) : Frame i w w' := by
  refine ⟨?_, fun _ => ⟨reading, stream⟩, sent, by rewrite [answers]; exact prefix_rfl⟩
  intro k other held
  rw [mine] at held
  exact absurd (some.inj held).symm other

theorem drain_triple (i : Nat) :
    protocol.Triple i (Holds i fun _ _ => True) .drain fun _ => Holds i Drained := by
  refine .logged (holds_stable i _) fun w h ans answer w' inv held _ ran => ?_
  cases ran
  obtain ⟨mine, -⟩ := held
  have mine : w.holder = some i := mine
  exact ⟨⟨inv.order, inv.answered, nofun, fun _ => by simp [mine], inv.held, inv.greeted⟩,
    frame_of_holder mine rfl prefix_rfl rfl rfl, mine, rfl⟩

theorem Inv.write {w : World} {h : History} (inv : Inv (w, h)) (i : Nat) (request : QMPRequest) :
    Inv ({ w with sent := w.sent ++ [(i, request)] }, h) := by
  refine ⟨inv.order, ?_, inv.slot, inv.fenced, inv.held, inv.greeted⟩
  have bound : w.answers.length ≤ w.sent.length := inv.answered
  simp only [length_append, length_singleton]
  omega

theorem write_triple (i : Nat) (request : QMPRequest) :
    protocol.Triple i (Holds i Drained) (.write request) fun answer =>
      Holds i fun fence sent => answer.isOk → Written i request fence sent := by
  refine .logged (holds_stable i _) fun w h ans answer w' inv held _ ran => ?_
  obtain ⟨mine, drained⟩ := held
  simp only [qmpHost, Call.exec] at ran
  split at ran <;> cases ran
  · exact ⟨inv, frame_of_holder mine rfl prefix_rfl rfl rfl, mine, nofun⟩
  · exact ⟨inv.write i request, frame_of_holder mine rfl (prefix_append _ _) rfl rfl, mine,
      fun _ => ⟨w.sent, drained, rfl⟩⟩

/-- The response that a call takes out of the channel is its own: it is not older than
the fence, and no command is younger than the call's. -/
theorem slot_own {resp : QMPResponse} (inv : Inv w) (written : Written i request w.2.fence w.1.sent)
    (full : w.1.respCh = some resp) : OwnReply i request resp.outcome w.1 := by
  obtain ⟨before, fence, sent⟩ := written
  obtain ⟨n, r, young, found, rfl⟩ := inv.slot resp _ full fence
  have bound := (List.getElem?_eq_some_iff.mp found).1
  have total := inv.answered
  rw [sent, inv.order] at total
  simp only [length_append, length_singleton] at total
  have number : n = before.length := by omega
  subst number
  refine ⟨before.length, r, ?_, ?_, rfl⟩
  · rw [sent]
    simp
  · rw [inv.order, getElem?_append_left bound]
    exact found

theorem await_triple (i : Nat) (request : QMPRequest) :
    protocol.Triple i (Holds i (Written i request)) .await fun selected w =>
      w.1.holder = some i ∧ ∀ resp, selected = .response resp → Fair i request resp.outcome w := by
  refine .logged (holds_stable i _) fun w h ans answer w' inv held _ ran => ?_
  obtain ⟨mine, written⟩ := held
  simp only [qmpHost, Call.exec] at ran
  split at ran
  · obtain ⟨resp, full, same⟩ := map_eq_some_iff.mp ran
    cases same
    refine ⟨⟨inv.order, inv.answered, nofun, inv.fenced, inv.held, inv.greeted⟩,
      frame_of_holder mine rfl prefix_rfl rfl rfl, mine, ?_⟩
    intro taken same _
    cases same
    exact ownReply_mono (slot_own inv written full) prefix_rfl prefix_rfl
  · obtain ⟨text, -, same⟩ := map_eq_some_iff.mp ran
    cases same
    exact ⟨inv, frame_of_holder mine rfl prefix_rfl rfl rfl, mine, nofun⟩
  · cases ran
    exact ⟨inv, frame_of_holder mine rfl prefix_rfl rfl rfl, mine, nofun⟩

theorem unlock_triple (i : Nat) (request : QMPRequest) (outcome : Outcome) :
    protocol.Triple i (fun w => w.1.holder = some i ∧ Fair i request outcome w) .unlock
      fun _ => Fair i request outcome := by
  refine .logged ?_ fun w h ans answer w' inv held _ ran => ?_
  · rintro w w' ⟨mine, fair⟩ step
    exact ⟨(holds_stable i (fun _ _ => True) w w' ⟨mine, trivial⟩ step).1,
      fair_stable i request outcome w w' fair step⟩
  · obtain ⟨mine, fair⟩ := held
    cases ran
    exact ⟨⟨inv.order, inv.answered, nofun, nofun, nofun, inv.greeted⟩,
      frame_of_holder mine rfl prefix_rfl rfl rfl,
      fun reply => ownReply_mono (fair reply) prefix_rfl prefix_rfl⟩

/-- `Execute` ends with its own reply or with an error of the connection. -/
def executeEnds (i : Nat) (request : QMPRequest) (result : Except String Outcome)
    (w : World × History) : Prop :=
  ∀ outcome, result = .ok outcome → Fair i request outcome w

theorem executeEnds_stable (i : Nat) (request : QMPRequest) (result : Except String Outcome) :
    protocol.Stable i (executeEnds i request result) := by
  intro w w' ends step outcome same
  exact fair_stable i request outcome w w' (ends outcome same) step

theorem finish_safe (mine : w.1.holder = some i) (fair : Fair i request outcome w) :
    Safe protocol i (executeEnds i request)
      (.call .unlock fun _ => .done (.ok outcome) : Owner Outcome) w := by
  apply Safe.triple (unlock_triple i request outcome) ⟨mine, fair⟩
  intro _ w fair
  apply Safe.done (executeEnds_stable i request _)
  intro outcome' same
  cases same
  exact fair

theorem execute_safe (i : Nat) (request : QMPRequest) (w : World × History) :
    Safe protocol i (executeEnds i request) (execute request) w := by
  apply Safe.triple (lock_triple i) trivial
  intro _ w held
  apply Safe.triple (drain_triple i) held
  intro _ w drained
  simp only [writeRequest]
  cases request.arguments with
  | error text => exact finish_safe drained.1 fair_of_connection
  | ok marshalled =>
    apply Safe.triple (write_triple i request) drained
    rintro (text | _) w written
    · exact finish_safe written.1 fair_of_connection
    · apply Safe.triple (await_triple i request) ⟨written.1, written.2 rfl⟩
      rintro (resp | text | _) w ⟨mine, fair⟩
      · exact finish_safe mine (fair resp rfl)
      · exact finish_safe mine fair_of_connection
      · exact finish_safe mine fair_of_connection

/-- Before the reader starts, nobody holds `cmdMu`. -/
theorem Inv.nobody (inv : Inv w) (unread : w.1.reading = false) : w.1.holder = none := by
  by_contra held
  have reading := inv.held (isSome_iff_ne_none.mpr held)
  rw [unread] at reading
  cases reading

theorem frame_of_unread (inv : Inv w) (unread : w.1.reading = false)
    (sent : w.1.sent <+: w'.1.sent) (answers : w'.1.answers = w.1.answers) : Frame 0 w w' := by
  refine ⟨?_, fun other => absurd rfl other, sent, by rewrite [answers]; exact prefix_rfl⟩
  intro k _ held
  rw [inv.nobody unread] at held
  cases held

/-- Before the reader starts, with something about the lines that wait. -/
def Unread (P : List Line → Prop) (w : World × History) : Prop :=
  w.1.reading = false ∧ P w.1.stream

theorem unread_stable {P : List Line → Prop}
    (grows : ∀ lines more, P lines → Line.greeting ∉ more → P (lines ++ more)) :
    protocol.Stable 0 (Unread P) := by
  rintro w w' ⟨unread, holds⟩ ⟨-, -, ⟨j, other, frame⟩ | ⟨event, -, happened⟩⟩
  · obtain ⟨reading, stream⟩ := frame.unread other
    exact ⟨by rw [reading]; exact unread, by rw [stream]; exact holds⟩
  · have frame := env_frame happened
    obtain ⟨more, stream, plain⟩ := frame.stream unread
    exact ⟨by rw [frame.reading]; exact unread, by rw [stream]; exact grows _ _ holds plain⟩

def GreetingFirst (lines : List Line) : Prop :=
  ∃ rest, lines = .greeting :: rest ∧ Line.greeting ∉ rest

theorem greetingFirst_grows (lines more : List Line) (first : GreetingFirst lines)
    (plain : Line.greeting ∉ more) : GreetingFirst (lines ++ more) := by
  obtain ⟨rest, rfl, absent⟩ := first
  exact ⟨rest ++ more, rfl, by simp [absent, plain]⟩

theorem noGreeting_grows (lines more : List Line) (absent : Line.greeting ∉ lines)
    (plain : Line.greeting ∉ more) : Line.greeting ∉ lines ++ more := by
  simp [absent, plain]

theorem scan_triple {P Q : List Line → Prop}
    (grows : ∀ lines more, P lines → Line.greeting ∉ more → P (lines ++ more))
    (rest : ∀ line lines, P (line :: lines) → Q lines) :
    protocol.Triple 0 (Unread P) .scan fun answer w => answer.isOk → Unread Q w := by
  refine .logged (unread_stable grows) fun w h ans answer w' inv before _ ran => ?_
  obtain ⟨unread, holds⟩ := before
  simp only [qmpHost, Call.exec] at ran
  split at ran
  · cases ran
    exact ⟨inv, frame_of_unread inv unread prefix_rfl rfl, nofun⟩
  split at ran <;> cases ran
  rename_i line lines shape
  have order := inv.order
  have idle : h.fence = none := by
    by_contra fenced
    have held := inv.fenced (isSome_iff_ne_none.mpr fenced)
    rw [inv.nobody unread] at held
    cases held
  simp only [shape] at holds order
  have fence : (noteCall 0 .scan (.ok line) w h).fence = none := by
    cases line <;> exact idle
  refine ⟨⟨?_, inv.answered, ?_, ?_, inv.held, ?_⟩,
    frame_of_unread inv unread prefix_rfl rfl, fun _ => ⟨unread, rest line lines holds⟩⟩
  · cases line <;> simpa [noteCall, filterMap_cons, Line.reply?] using order
  · exact fun resp f _ fenced => absurd (fence.symm.trans fenced) nofun
  · intro fenced
    rw [fence] at fenced
    cases fenced
  · exact fun reading => absurd (unread.symm.trans reading) nofun

theorem handshake_write_triple (request : QMPRequest) :
    protocol.Triple 0 (Unread (Line.greeting ∉ ·)) (.write request)
      fun _ => Unread (Line.greeting ∉ ·) := by
  refine .logged (unread_stable noGreeting_grows) fun w h ans answer w' inv before _ ran => ?_
  obtain ⟨unread, absent⟩ := before
  simp only [qmpHost, Call.exec] at ran
  split at ran <;> cases ran
  · exact ⟨inv, frame_of_unread inv unread prefix_rfl rfl, unread, absent⟩
  · exact ⟨inv.write 0 request, frame_of_unread inv unread (prefix_append _ _) rfl, unread, absent⟩

theorem startReader_triple :
    protocol.Triple 0 (Unread (Line.greeting ∉ ·)) .startReader fun _ _ => True := by
  refine .logged (unread_stable noGreeting_grows) fun w h ans answer w' inv before _ ran => ?_
  obtain ⟨unread, absent⟩ := before
  cases ran
  exact ⟨⟨inv.order, inv.answered, inv.slot, inv.fenced, fun _ => rfl, fun _ => absent⟩,
    frame_of_unread inv unread prefix_rfl rfl, trivial⟩

theorem handshake_safe (unread : Unread (Line.greeting ∉ ·) w) :
    Safe protocol 0 (fun result w => result.isOk → Unread (Line.greeting ∉ ·) w) handshake w := by
  have failed : ∀ (text : String) (w : World × History),
      Safe protocol 0 (fun result w => result.isOk → Unread (Line.greeting ∉ ·) w)
        (.done (.error text) : Owner Unit) w :=
    fun text w w' _ impossible => by simp [Except.isOk, Except.toBool] at impossible
  apply Safe.triple (handshake_write_triple _) unread
  rintro (text | _) w unread
  · exact failed _ w
  · apply Safe.triple (scan_triple (Q := (Line.greeting ∉ ·)) noGreeting_grows
      fun line lines absent mem => absent (mem_cons_of_mem line mem)) unread
    rintro (text | line) w scanned
    · cases text <;> exact failed _ w
    · obtain ⟨result, handled⟩ := handshakeResult_some line
      simp only [Prog.bind, handled]
      exact fun w' steps _ => (unread_stable noGreeting_grows).star (scanned rfl) steps

theorem newQMPOwner_safe (unread : Unread GreetingFirst w) : Keeps protocol 0 newQMPOwner w := by
  apply Safe.triple (scan_triple (Q := (Line.greeting ∉ ·)) greetingFirst_grows ?_) unread
  · rintro (text | line) w scanned
    · exact Keeps.ended _
    · apply Safe.bind (handshake_safe (scanned rfl))
      · exact fun _ _ _ => trivial
      · intro _ w unread
        apply Safe.triple startReader_triple (unread rfl)
        exact fun _ w _ => Keeps.ended _
  · rintro line lines ⟨rest, same, absent⟩
    cases same
    exact absent

theorem initially (requests : List QMPRequest) :
    SafePool protocol (fun i result w => ∀ request ∈ requests[i - 1]?, 0 < i →
      executeEnds i request result w) (connection requests) := by
  refine ⟨⟨rfl, Nat.le_refl 0, nofun, nofun, nofun, nofun⟩, ?_⟩
  intro i p found
  cases i with
  | zero =>
    cases found
    apply Safe.mono (newQMPOwner_safe ⟨rfl, [], rfl, by simp⟩)
    exact fun _ _ _ _ _ impossible => absurd impossible (Nat.lt_irrefl 0)
  | succ i =>
    simp only [connection, callers, getElem?_cons_succ, getElem?_map, map_eq_some_iff] at found
    obtain ⟨request, at_i, rfl⟩ := found
    apply Safe.mono (execute_safe (i + 1) request _)
    intro result w ends request' same _
    rw [Nat.add_sub_cancel, at_i] at same
    cases same
    exact ends

end OwnReplies

/-- If the reader reads no late reply, every `Execute` that returns a payload or a QMP
error returns the reply to its own command. -/
theorem execute_returns_own_reply (requests : List QMPRequest)
    {c : Config Call Call.Res Outcome (World × History)}
    (reached : Reach ownerHost noLateReply (connection requests) c) {i : Nat} {request : QMPRequest}
    (called : requests[i]? = some request) {outcome : Outcome}
    (ended : c.pool[i + 1]? = some (.done (.ok outcome))) (reply : answered outcome) :
    OwnReply (i + 1) request outcome c.world.1 := by
  have pool := Reach.safe (OwnReplies.initially requests) OwnReplies.hostKeeps reached
  have ends := pool.of_ended ended
  exact ends request (by simpa using called) (Nat.succ_pos i) outcome rfl reply

def statusThenPowerdown : List QMPRequest :=
  [{ execute := "query-status" }, { execute := "system_powerdown" }]

/-- `NewQMPOwner`, and the first of the callers until its time is out. -/
def firstTimesOut : List (Label Answer Event) :=
  List.replicate 2 (.run 0 {}) ++ [.env (.answer (.value (.other "{}")))] ++
    List.replicate 2 (.run 0 {}) ++ List.replicate 3 (.run 1 {}) ++
    [.run 1 { branch := none }, .run 1 {}]

/-- The late reply to the first call is read before the second one empties the channel. -/
theorem late_reply_drained : ∃ c, Reach ownerHost noLateReply (connection statusThenPowerdown) c ∧
      c.pool[2]?.bind Prog.result = some (.ok (.ok (some (.other "{}")))) ∧
      OwnReply 2 { execute := "system_powerdown" } (.ok (some (.other "{}"))) c.world.1 := by
  refine Reach.exists_of_runs
    (firstTimesOut ++ [.env (.answer (.value (.other "running"))), .env .read] ++
      replicate 3 (.run 2 {}) ++ [.env (.answer (.value (.other "{}"))), .env .read] ++
      replicate 2 (.run 2 {}))
    (fun c => c.pool[2]?.bind Prog.result = some (.ok (.ok (some (.other "{}"))))) (by decide) ?_
  intro c reached returned
  obtain ⟨p, at_two, ended⟩ := bind_eq_some_iff.mp returned
  rw [Prog.eq_done_of_result ended] at at_two
  exact ⟨returned, execute_returns_own_reply statusThenPowerdown reached (i := 1) rfl at_two rfl⟩

/-- The reply to a call that has timed out is returned by the next call, whose own
command QEMU has not answered. -/
theorem late_reply_crossed : ∃ c, Reach ownerHost (.none _) (connection statusThenPowerdown) c ∧
      c.pool[2]? = some (.done (.ok (.ok (some (.other "running"))))) ∧
      ∀ request, ¬ OwnReply 2 request (.ok (some (.other "running"))) c.world.1 := by
  refine Reach.exists_of_runs (firstTimesOut ++ replicate 2 (.run 2 {}) ++
      [.env (.answer (.value (.other "running"))), .env .read] ++ replicate 3 (.run 2 {}))
    (fun c => c.pool[2]?.bind Prog.result = some (.ok (.ok (some (.other "running")))) ∧
      c.world.1.answers = [.value (.other "{}"), .value (.other "running")] ∧
      c.world.1.sent.map (·.1) = [0, 1, 2]) (by decide) ?_
  rintro c - ⟨returned, answers, writers⟩
  obtain ⟨p, at_two, ended⟩ := bind_eq_some_iff.mp returned
  rw [Prog.eq_done_of_result ended] at at_two
  refine ⟨at_two, ?_⟩
  rintro request ⟨n, r, wrote, replied, -⟩
  have writer : (c.world.1.sent.map (·.1))[n]? = some 2 := by simp [wrote]
  rw [writers] at writer
  rw [answers] at replied
  -- only the command at position 2 is the caller's, and it has no answer
  rcases n with _ | _ | n
  · cases writer
  · cases writer
  · cases replied

end Vee.QMP
