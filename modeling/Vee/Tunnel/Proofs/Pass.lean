import Vee.Tunnel.Proofs.RegistryMap

/-!
# A pass, call by call

`reconcileTunnels` takes the host's answers at once, and `reconcilePass` asks for them one by
one, so that others can come in between. If nobody does, the two leave the same registry.
-/

namespace Vee.Tunnel

open List

/-- What the host answers for a key: the port of the listener, and whether the registry can be
saved. -/
abbrev KeyAnswers := Text → Except String Nat × Bool

/-- The host that lists these VMs and gives these answers. -/
def Tick.giving (entries : List ListEntry) (answers : KeyAnswers) : Tick where
  entries := .ok entries
  listen key := (answers key).1
  saves key := (answers key).2

variable {want : Want} {free : Nat} {w w' : RegistryWorld} {result : Except String Unit}
  {d : Daemon} {entries : List ListEntry} {wanted : GoMap Text Want} {order : List Text}

theorem saveStarted_ran (sorted : w.file.Pairwise Before)
    (ran : Ran registryMachine (saveStarted want free) w result w') :
    result = .ok () ∧ w'.file.Pairwise Before ∧ ∃ saved : Bool, w'.file =
      if (want.portOf free ≠ want.spec.port ∨ want.spec.protocol ≠ want.protocol) ∧ saved then
        registryAdd (want.updated free) w.file
      else w.file := by
  unfold saveStarted at ran
  split at ran
  · rename_i changed
    rcases ran.bind_inv with ⟨text, failed, -⟩ | ⟨value, middle, ended, rest⟩
    · obtain ⟨_, impossible, -⟩ := failed.attempt_inv
      cases impossible
    · obtain ⟨updated, -, ended⟩ := ended.attempt_inv
      cases rest
      have after := update_meets sorted rfl ended
      cases updated with
      | error text =>
        change w'.file = w.file at after
        exact ⟨rfl, after ▸ sorted, false, by simpa using after⟩
      | ok value =>
        change w'.file = registryAdd _ _ at after
        exact ⟨rfl, after ▸ run_sorted (.add _) sorted, true, by simpa [changed] using after⟩
  · cases ran
    exact ⟨rfl, sorted, false, by simp⟩

theorem answers_cons {key : Text} {d' : Daemon} {registry : List TunnelSpec} (fresh : key ∉ order)
    (answer : Except String Nat × Bool)
    (first : startTunnel (.giving entries fun _ => answer) wanted d key = d')
    (later : ∃ answers,
      registry = (order.foldl (startTunnel (.giving entries answers) wanted) d').registry) :
    ∃ answers, registry =
      ((key :: order).foldl (startTunnel (.giving entries answers) wanted) d).registry := by
  obtain ⟨answers, rfl⟩ := later
  subst first
  refine ⟨Function.update answers key answer, ?_⟩
  -- What is started for a key depends on the answers for this key only.
  have one : ∀ (all : KeyAnswers) d key, startTunnel (.giving entries all) wanted d key =
      startTunnel (.giving entries fun _ => all key) wanted d key := fun _ _ _ => rfl
  rw [foldl_cons, one (Function.update answers key answer), Function.update_self]
  refine congrArg Daemon.registry (foldl_ext _ _ _ fun d other mem => ?_)
  rw [one, one (Function.update answers key answer),
    Function.update_of_ne (ne_of_mem_of_not_mem mem fresh)]

/-- The loop that starts tunnels leaves the registry that it leaves with the answers it got. -/
theorem startTunnels_ran (distinct : order.Nodup) (sorted : w.file.Pairwise Before)
    (same : w.file = d.registry)
    (ran : Ran registryMachine (startTunnels wanted order d.active) w result w') :
    ∃ answers,
      w'.file = (order.foldl (startTunnel (.giving entries answers) wanted) d).registry := by
  induction order generalizing d w with
  | nil =>
    cases ran
    exact ⟨fun _ => (.ok 0, true), same⟩
  | cons key rest ih =>
    obtain ⟨fresh, distinct⟩ := nodup_cons.mp distinct
    unfold startTunnels at ran
    split at ran
    · rename_i want absent isWanted
      obtain ⟨ans, answer, middle, asked, ran⟩ := ran.ask_inv
      obtain rfl : middle = w := exec_quiet (by trivial) asked
      cases answer with
      | error text =>
        refine answers_cons fresh (.error text, false) rfl (ih distinct sorted ?_ ?_)
        · simpa [startTunnel, absent, isWanted, Tick.giving] using same
        · simpa [startTunnel, absent, isWanted, Tick.giving] using ran
      | ok free =>
        rcases Ran.bind_inv ran with ⟨text, failed, -⟩ | ⟨_, middle, started, ran⟩
        · cases (saveStarted_ran sorted failed).1
        · obtain ⟨-, sorted, saved, after⟩ := saveStarted_ran sorted started
          rw [same] at after
          exact answers_cons fresh (.ok free, saved) (startTunnel_eq absent isWanted rfl)
            (ih distinct sorted after ran)
    · rename_i skipped
      refine answers_cons fresh (.ok 0, true) ?_ (ih distinct sorted same ran)
      unfold startTunnel
      split
      · rename_i want absent isWanted
        exact absurd isWanted (skipped want absent)
      · rfl

/-- Alone on the machine, with a registry in the order in which `save` writes it, a pass leaves the
registry that `reconcileTunnels` leaves with the answers and the order that the pass got. -/
theorem reconcilePass_ran (sorted : d.registry.Pairwise Before) (same : w.file = d.registry)
    (ran : Ran registryMachine (reconcilePass d.active) w result w') :
    ∃ tick order, order.Perm (wantedKeys tick d) ∧
      w'.file = (reconcileTunnels tick order d).registry := by
  have nothing : w'.file = d.registry → ∃ tick order, order.Perm (wantedKeys tick d) ∧
      w'.file = (reconcileTunnels tick order d).registry :=
    fun left => ⟨⟨none, .error "", fun _ => .ok 0, fun _ => true⟩, [], .refl _, left⟩
  rcases ran.bind_inv with ⟨text, failed, -⟩ | ⟨loaded, read, listed, ran⟩
  · obtain ⟨_, impossible, -⟩ := failed.attempt_inv
    cases impossible
  obtain ⟨_, ended, listed⟩ := listed.attempt_inv
  cases ended
  have loads := load_meets sorted same listed
  cases loaded with
  | error text =>
    cases ran
    exact nothing loads
  | ok specs =>
    obtain ⟨rfl, file⟩ := loads
    obtain ⟨_, vms, middle, asked, rest⟩ := Ran.ask_inv ran
    obtain rfl : middle = read := exec_quiet (by trivial) asked
    cases vms with
    | error text =>
      cases rest
      exact nothing file
    | ok entries =>
      obtain ⟨ans, order, world, chosen, started⟩ := Ran.ask_inv rest
      obtain rfl : world = middle := exec_quiet (by trivial) chosen
      have ranged : order.Perm (planTunnels d.registry entries).wanted.keys := by
        cases ans with
        | order keys =>
          obtain ⟨perm, chosen⟩ := Option.ite_none_right_eq_some.mp chosen
          cases chosen
          exact isPerm_iff.mp perm
        | _ => cases chosen
      obtain ⟨answers, left⟩ := startTunnels_ran (d := { d with
          active := stopUnwanted _ d.active, inactive := (planTunnels d.registry entries).reasons })
        (ranged.nodup_iff.mpr (AList.keys_nodup _)) (file ▸ sorted) file started
      exact ⟨.giving entries answers, order, ranged, left⟩

end Vee.Tunnel
