import Vee.QMP.SSHPort
import Vee.VM.Quiet

/-!
# State and QEMU agree on the SSH port

`SetSSHPort` takes the old forward away before it asks for the new one, and keeps the record as it
is if that fails.
-/

namespace Vee.SSHPort

/-- The recorded port is forwarded, or the error says that it could not be recorded; and a change
that was not made leaves every forward in place. -/
structure Agreed (w w' : Forwarding) (result : Bool × Option String) : Prop where
  recorded : w'.vm.state.sshPort = 0 ∨ w'.vm.state.sshPort ∈ w'.forwards ∨
    ∃ text, result.2 = some (unrecorded text)
  kept : result.1 = false → result.2 ≠ none → ∀ port ∈ w.forwards, port ∈ w'.forwards

def Forwarding.Agrees (w : Forwarding) : Prop :=
  w.vm.state.sshPort = 0 ∨ w.vm.state.sshPort ∈ w.forwards

def Forwarding.Lost (w : Forwarding) : Prop := w.withdrawn = true ∧ w.refused = true

section

variable {w v w' : Forwarding} {port : Int} {result : Bool × Option String}

structure Untouched (w v : Forwarding) : Prop where
  state : v.vm.state = w.vm.state
  forwards : v.forwards = w.forwards
  withdrawn : v.withdrawn = false
  refused : v.refused = false

variable {call : Call} {ans : PortAnswer} {answer : call.Res} {v' : Forwarding} {host : Platform}

theorem manager_exec (ran : portHost.exec 0 (.manager call) ans v = some (answer, v')) :
    ∃ vm, call.exec ans.manager v.vm = some (answer, vm) ∧ v' = { v with vm := vm } := by
  obtain ⟨⟨_, vm⟩, carried, same⟩ := Option.map_eq_some_iff.mp ran
  cases same
  exact ⟨vm, carried, rfl⟩

theorem addPort_ran {s : VMState} (ran : Ran portHost (addPort s port) v (.ok result) w') :
    ∃ ans : PortAnswer, w'.forwards = ((Command.add port).exec ans v).forwards ∧
      w'.withdrawn = v.withdrawn ∧ w'.refused = (v.refused || !accepted ans.reply) ∧
      if accepted ans.reply then result.1 = true ∧
          (w'.vm.state.sshPort = port ∨ ∃ text, result.2 = some (unrecorded text))
        else result.1 = false ∧ result.2 ≠ none ∧ w'.vm = v.vm := by
  rcases ran with _ | ⟨ran, rest⟩
  rename_i ans _ _
  cases ran
  refine ⟨ans, ?_⟩
  cases reply : ans.reply with
  | error text =>
    rw [reply] at rest
    cases rest
    simp [accepted, Command.exec, reply]
  | ok out =>
    rw [reply] at rest
    change Ran _ (if _ then _ else _) _ _ _ at rest
    split at rest
    · rename_i refusal
      cases rest
      simp [accepted, Command.exec, reply, refusal]
    · rename_i nothing
      rcases rest with _ | ⟨ran, rest⟩
      obtain ⟨vm, carried, rfl⟩ := manager_exec ran
      obtain ⟨rfl, -, rfl⟩ | ⟨text, rfl, -, rfl⟩ := Call.saveState_exec carried <;>
      · cases rest
        simp [accepted, Command.exec, reply, not_not.mp nothing]

theorem applyLive_agreed_iff (agrees : w.Agrees) (untouched : Untouched w v)
    (ran : Ran portHost (applyLive w.vm.state port) v (.ok result) w') :
    Agreed w w' result ↔ ¬ w'.Lost := by
  obtain ⟨state, forwards, withdrawn, refused⟩ := untouched
  unfold applyLive at ran
  split at ran
  · rename_i moves
    simp only [movesPort, Bool.and_eq_true, decide_eq_true_eq] at moves
    rcases ran with _ | ⟨ran, rest⟩
    cases ran
    obtain ⟨ans, added⟩ := addPort_ran rest
    constructor
    · rintro agreed lost
      have still := fun failed told => agreed.kept failed told w.vm.state.sshPort
      grind [Command.exec, Forwarding.Lost]
    · intro kept
      constructor <;> grind [Command.exec, Forwarding.Lost, Forwarding.Agrees]
  · obtain ⟨ans, added⟩ := addPort_ran ran
    refine iff_of_true ?_ ?_
    · constructor <;> grind [Command.exec, Forwarding.Agrees]
    · grind [Forwarding.Lost]

/-- The calls ahead of the commands leave everything as it is that matters. -/
theorem Untouched.manager (plain : call.saves = none) (untouched : Untouched w v)
    (ran : portHost.exec 0 (.manager call) ans v = some (answer, v')) : Untouched w v' := by
  obtain ⟨vm, carried, rfl⟩ := manager_exec ran
  exact { untouched with state := (Call.exec_frame plain carried).1.trans untouched.state }

theorem Untouched.isAlive {pid : Nat} {r : Except String Bool} (untouched : Untouched w v)
    (ran : Ran portHost ((isAlive pid).subst fun call => ask (.manager call)) v r v') :
    Untouched w v' := by
  unfold Vee.isAlive at ran
  split at ran
  · cases ran
    exact untouched
  · rcases ran with _ | ⟨ran, rest⟩
    cases rest
    exact untouched.manager (show (Call.processAlive pid).saves = none from rfl) ran

/-- A run either gets as far as the commands, or leaves everything as it is. -/
theorem applyPort_ran {cfg : VMConfig} (untouched : Untouched w v)
    (ran : Ran portHost (applyPort host cfg port) v (.ok result) w') :
    Untouched w w' ∨
      ∃ v', Untouched w v' ∧ Ran portHost (applyLive w.vm.state port) v' (.ok result) w' := by
  rcases ran with _ | ⟨ran, rest⟩
  have after := untouched.manager (show Call.loadState.saves = none from rfl) ran
  obtain ⟨vm, carried, rfl⟩ := manager_exec ran
  obtain ⟨rfl, ⟨rfl, -⟩ | ⟨text, rfl, -⟩⟩ := Call.loadState_exec carried
  · change Ran _ (if _ then _ else _) _ _ _ at rest
    rw [untouched.state] at rest
    split at rest
    · cases rest
      exact .inl after
    obtain ⟨text, -, impossible⟩ | ⟨alive, v', checked, rest⟩ := rest.bind_inv
    · cases impossible
    have now := after.isAlive checked
    split at rest
    · cases rest
      exact .inl now
    split at rest
    · cases rest
      exact .inl now
    rcases rest with _ | ⟨ran, rest⟩
    simp only [portHost] at ran
    split at ran <;> cases ran
    · cases rest
      exact .inl now
    · exact .inr ⟨_, now, rest⟩
  · cases rest
    exact .inl after

theorem setSSHPort_ran (untouched : Untouched w v)
    (ran : Ran portHost (setSSHPort host port) v (.ok result) w') :
    Untouched w w' ∨
      ∃ v', Untouched w v' ∧ Ran portHost (applyLive w.vm.state port) v' (.ok result) w' := by
  unfold setSSHPort at ran
  split at ran
  · cases ran
    exact .inl untouched
  rcases ran with _ | ⟨ran, rest⟩
  rename_i found
  have untouched := untouched.manager (show Call.loadConfig.saves = none from rfl) ran
  cases found with
  | error text =>
    cases rest
    exact .inl untouched
  | ok cfg =>
    change Ran _ (if _ then _ else _) _ _ _ at rest
    split at rest
    · cases rest
      exact .inl untouched
    rcases rest with _ | ⟨ran, rest⟩
    rename_i saved
    have untouched := untouched.manager (show (Call.saveConfig _).saves = none from rfl) ran
    cases saved with
    | error text =>
      cases rest
      exact .inl untouched
    | ok _ => exact applyPort_ran untouched rest

end

/-- Whatever the host and QEMU answer, the record and QEMU agree at the end exactly if no forward
was taken away for one that was then refused. -/
theorem ssh_port_agreed_iff (host : Platform) (port : Int) {w w' : Forwarding}
    {result : Bool × Option String} (agrees : w.Agrees)
    (fresh : w.withdrawn = false ∧ w.refused = false)
    (ran : Ran portHost (setSSHPort host port) w (.ok result) w') :
    Agreed w w' result ↔ ¬ w'.Lost := by
  rcases setSSHPort_ran ⟨rfl, rfl, fresh.1, fresh.2⟩ ran with untouched | ⟨v, untouched, commands⟩
  · obtain ⟨state, forwards, withdrawn, -⟩ := untouched
    refine iff_of_true ⟨?_, ?_⟩ fun lost => ?_
    · rw [state, forwards]
      exact agrees.imp_right .inl
    · exact fun _ _ port member => forwards ▸ member
    · cases withdrawn.symm.trans lost.1
  · exact applyLive_agreed_iff agrees untouched commands

/-! ### A port that is free, and one that is taken -/

def forwardedVM : Forwarding where
  vm :=
    { config := { name := "vm" }
      state := { pid := 1, qmpSocket := "qmp.sock", sshPort := 2222, running := true }
      alive := [1] }
  forwards := [2222]

/-- The SSH port is moved to a free one. -/
theorem moved_port_agreed :
    ∃ w', Ran portHost (setSSHPort linuxHost 2223) forwardedVM (.ok (true, none)) w' ∧
      Agreed forwardedVM w' (true, none) := by
  have ran : Ran portHost (setSSHPort linuxHost 2223) forwardedVM (.ok (true, none)) _ :=
    .of_play (M := portHost) (List.replicate 8 {}) rfl
  exact ⟨_, ran, (ssh_port_agreed_iff linuxHost 2223 (.inr (by decide)) ⟨rfl, rfl⟩ ran).mpr
    fun lost => by cases lost.2⟩

/-- The new port is taken: QEMU forwards nothing any more, and the record still says 2222. -/
theorem taken_port_loses_forward : forwardedVM.Agrees ∧ ∃ result w',
      Ran portHost (setSSHPort linuxHost 2223) forwardedVM (.ok result) w' ∧
      ¬ Agreed forwardedVM w' result := by
  have ran : Ran portHost (setSSHPort linuxHost 2223) forwardedVM (.ok (false, some _)) _ :=
    .of_play (M := portHost) [{}, {}, {}, {}, {}, {},
      { output := "could not set up host forwarding rule".toList, carried := false }] rfl
  refine ⟨.inr (by decide), _, _, ran, fun agreed => ?_⟩
  exact absurd (agreed.kept rfl nofun 2222 (by decide)) (by decide)

end Vee.SSHPort
