import Vee.Misc.Sequential
import Vee.QMP.Owner

/-!
# The reply to `qmp_capabilities`

`handshake` means to skip the events that come before the reply. But an event decodes as an empty
response, which is taken for success. The reply itself is then left to the reader.
-/

namespace Vee.QMP

variable {w w' : World} {result : Except String Unit}

/-- The handshake fails, or it makes its result of the one line that it takes. -/
theorem handshake_ran (ran : Ran qmpHost handshake w result w') :
    (∃ text, result = .error text) ∨ ∃ line, w.stream = line :: w'.stream ∧
      w'.respCh = w.respCh ∧ handshakeResult line = some result := by
  rcases ran with _ | ⟨ran, rest⟩
  simp only [qmpHost, Call.exec] at ran
  split at ran <;> cases ran
  · cases rest
    exact .inl ⟨_, rfl⟩
  rcases rest with _ | ⟨ran, rest⟩
  rename_i ans _ _
  simp only [qmpHost, Call.exec] at ran
  split at ran
  · cases ran
    cases error : ans.error <;> rw [error] at rest <;> cases rest <;> exact .inl ⟨_, rfl⟩
  split at ran <;> cases ran
  rename_i line _ sent
  obtain ⟨result, handled⟩ := handshakeResult_some line
  simp only [Prog.bind, handled] at rest
  cases result with
  | ok =>
    cases rest
    exact .inr ⟨line, sent, rfl, handled⟩
  | error text =>
    cases rest
    exact .inl ⟨_, rfl⟩

/-- If the handshake succeeds, it has taken the reply and all before it, and the reader gets the
later lines only; and it fails if the reply is an error. -/
structure OwnsReply (reply : Reply) (later : List Line) (w w' : World)
    (result : Except String Unit) : Prop where
  consumed : result = .ok () → w'.stream = later ∧ w'.respCh = w.respCh
  refused : ∀ error, reply = .fault error → ∃ text, result = .error text

/-- The first line after the greeting has to be the reply. -/
theorem handshake_owns_reply_iff (w : World) (events : List EventName) (reply : Reply)
    (later : List Line) :
    (∀ result w', Ran qmpHost handshake
        { w with stream := events.map .event ++ .reply reply :: later } result w' →
        OwnsReply reply later w w' result) ↔
      events = [] := by
  constructor
  · intro owns
    cases events with
    | nil => rfl
    | cons event events =>
      -- the first event ends the handshake
      have ended := (owns _ _ (.of_play (M := qmpHost) [{}, {}] rfl)).consumed rfl
      have left := congrArg List.length ended.1
      simp at left
      omega
  · rintro rfl result w' ran
    rcases handshake_ran ran with ⟨text, rfl⟩ | ⟨line, first, same, handled⟩
    · exact ⟨nofun, fun _ _ => ⟨text, rfl⟩⟩
    · cases first
      refine ⟨fun _ => ⟨rfl, same⟩, ?_⟩
      rintro error rfl
      cases handled
      exact ⟨_, rfl⟩

/-- QEMU refuses the command after it sent an event: the handshake succeeds, and the refusal is
still to be read. -/
theorem event_ends_handshake : ∃ w', Ran qmpHost handshake
        { stream := [.event ⟨"RESUME", by decide⟩, .reply (.fault ⟨"GenericError", "no"⟩)] }
        (.ok ()) w' ∧
      w'.stream = [.reply (.fault ⟨"GenericError", "no"⟩)] :=
  ⟨_, .of_play (M := qmpHost) [{}, {}] rfl, rfl⟩

end Vee.QMP
