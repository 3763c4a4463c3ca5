import Mathlib.Logic.Function.Basic
import Vee.VM.Outline
import Vee.VM.Session
import Vee.VM.WaitReady

/-!
# Readiness by the lease

`StartDetached` notes the expiry of the guest's lease before it launches the helper, but no
operation stores it as `LeaseBaseline` of the record. So the wait for readiness always compares
with 0, and takes a lease that is older than the start for a new one.
-/

namespace Vee

/-- The operations of the interleavings: starts, stops, and what goes with them. -/
def Operation.startsOrStops : Operation → Bool
  | .tick => false
  | _ => true

/-- The lease expiry that was noted before a process was launched. -/
def noteBaseline (_ : Nat) (op : Call) (answer : op.Res) (_ : World) (launched : Nat → Nat) :
    Nat → Nat :=
  match op, answer with
  | .spawn _, .ok result => Function.update launched result.pid result.leaseBaseline
  | _, _ => launched

def leaseHost : Machine Call Call.Res (World × (Nat → Nat)) :=
  vmHost.withHistory noteBaseline fun _ _ launched => launched

def leasedOperations (host : Platform) (name : String) (rounds : Nat) (ops : List Operation)
    (w : World) : Pool (World × (Nat → Nat)) :=
  ⟨ops.map (·.prog host name rounds), (w, fun _ => 0)⟩

/-- A wait that finds the guest ready by its lease finds one that is newer than `noted`. -/
def ReadyByNewLease (name vmDir timeout : String) (w : World) (noted : Nat) : Prop :=
  ∀ rounds w' expiry,
    Ran readyHost (waitReadyVZ name vmDir timeout w.state rounds) (w, none) (.ok ()) w' →
    w'.2 = some (.lease expiry) → noted < expiry

namespace LeaseReady

/-! ## Nobody stores the baseline -/

def protocol : Protocol leaseHost where
  guard := .none _
  inv w := w.1.state.leaseBaseline = 0
  guar _ _ _ := True

variable {i : Nat} {w w' : World × (Nat → Nat)}

variable {op : Call} {ans : Answer} {answer : op.Res} {stage : Stage}

theorem exec (ran : leaseHost.exec i op ans w = some (answer, w')) :
    op.exec ans w.1 = some (answer, w'.1) :=
  (Machine.withHistory_exec ran).1

/-- A call keeps the field at 0 if the record that it saves has it at 0. -/
theorem keeps (inv : protocol.inv w) (zero : ∀ s, op.saves = some s → s.leaseBaseline = 0)
    (ran : leaseHost.exec i op ans w = some (answer, w')) : protocol.inv w' := by
  show w'.1.state.leaseBaseline = 0
  cases saved : op.saves with
  | none => rw [(Call.exec_frame saved (exec ran)).1, inv]
  | some s =>
    cases op with
    | saveState state =>
      cases saved
      rcases Call.saveState_exec (exec ran) with ⟨-, -, same⟩ | ⟨_, -, -, same⟩
      · rw [same]
        exact zero s rfl
      · rw [same, inv]
    | _ => cases saved

def stageHolds : Stage → World × (Nat → Nat) → Prop
  | .loaded s | .dead s | .chosen s | .prepared _ s | .launched _ s _ | .exited _ s _ | .recorded s
  | .leaving s => fun _ => s.leaseBaseline = 0
  | .entry | .ended | .failed => fun _ => True

theorem stageHolds_stable (stage : Stage) : protocol.Stable i (stageHolds stage) := by
  cases stage <;> exact protocol.const_stable i _

theorem stageHolds_move (holds : stageHolds stage w) : stageHolds stage w' := by
  cases stage <;> exact holds

def storing (i : Nat) : Outline protocol i where
  holds := stageHolds
  stable := stageHolds_stable
  quiet stage op quiet := by
    refine ⟨stageHolds_stable stage, fun w ans answer w' inv holds _ ran => ?_⟩
    refine ⟨keeps inv (fun s saved => ?_) ran, trivial, stageHolds_move holds⟩
    cases op with
    | saveState => exact quiet.elim
    | _ => cases saved

theorem pass (plain : op.saves = none) {after : op.Res → World × (Nat → Nat) → Prop}
    (ends : ∀ w ans answer w', protocol.inv w → stageHolds stage w →
      op.exec ans w.1 = some (answer, w'.1) → after answer w') :
    protocol.Triple i ((storing i).holds stage) op after := by
  refine ⟨stageHolds_stable stage, fun w ans answer w' inv holds _ ran => ?_⟩
  refine ⟨keeps inv (fun s saved => ?_) ran, trivial, ends w ans answer w' inv holds (exec ran)⟩
  rw [plain] at saved
  cases saved

theorem save (stage next : Stage) (s : VMState)
    (zero : ∀ w, stageHolds stage w → s.leaseBaseline = 0)
    (fine : ∀ w w', stageHolds stage w → stageHolds next w') :
    (storing i).Saves stage s next := by
  refine ⟨stageHolds_stable stage, fun w ans answer w' inv holds _ ran => ?_⟩
  refine ⟨keeps inv (fun s' saved => ?_) ran, trivial, ?_⟩
  · cases saved
    exact zero w holds
  · cases answer with
    | ok _ => exact fine w w' holds
    | error text => exact trivial

theorem storing_load : (storing i).Loads := by
  refine pass rfl fun w ans answer w' inv _ ran => ?_
  obtain ⟨-, ⟨rfl, -⟩ | ⟨text, rfl, -⟩⟩ := Call.loadState_exec ran
  · exact inv
  · exact trivial

theorem storing_cleans (s : VMState) (next : Stage) (fine : ∀ w, stageHolds next w) :
    (storing i).Cleans s next := by
  intro result
  have saved := save (i := i) (.dead s) next (s.stale result) (fun _ _ => rfl) fun _ w _ => fine w
  exact saved.weaken fun _ w _ => fine w

theorem storing_stops (reason : ShutdownReason) : (storing i).Stops reason where
  load := storing_load
  idle _ _ _ _ := trivial
  checks _ _ _ := .of_imp fun _ => id
  kill _ _ _ := pass rfl fun _ _ _ _ _ zero _ => zero
  save s _ _ := save (.dead s) .ended _ (fun _ _ => rfl) fun _ _ _ => trivial

theorem storing_lists : (storing i).Lists where
  load := storing_load
  checks _ _ := .of_imp fun _ => id
  cleans s _ := storing_cleans s .ended fun _ => trivial
  read _ _ _ := trivial
  missed _ := Iff.rfl
  idle _ := Iff.rfl

theorem storing_spawn (stage : Stage) (cfg cfg' : VMConfig) (s : VMState)
    (zero : ∀ w, stageHolds stage w → s.leaseBaseline = 0) :
    (storing i).Spawns stage cfg s cfg' := by
  refine pass rfl fun w ans answer w' _ holds _ => ?_
  cases answer with
  | ok built => exact zero w holds
  | error text => exact trivial

theorem storing_starts (cfg : VMConfig) : (storing i).Starts cfg where
  load := storing_load
  fails _ _ _ _ := trivial
  checks _ _ := .of_imp fun _ => id
  cleans s _ := storing_cleans s (.chosen {}) fun _ => rfl
  idle _ _ _ zero := zero
  skip s _ _ _ := save (.chosen s) (.chosen _) _ (fun _ => id) fun _ _ => id
  pend s _ _ _ := save (.chosen s) (.chosen _) _ (fun _ => id) fun _ _ => id
  prepare _ _ _ _ zero := zero
  build cfg s cfg' recovery _ := by
    refine pass rfl fun w ans answer w' _ zero ran => ?_
    cases answer with
    | error text => exact trivial
    | ok built =>
      have built : ans.orFail (cfg'.built ans, ans.pids) = .ok built :=
        (Prod.mk.inj (Option.some.inj ran)).1
      unfold Answer.orFail at built
      split at built <;> cases built
      exact ⟨rfl, zero⟩
  rebuild cfg s pid cfg' recovery _ := by
    refine pass rfl fun w ans answer w' _ zero _ => ?_
    cases answer with
    | ok built => exact zero
    | error text => exact trivial
  spawn cfg s cfg' := storing_spawn (.prepared cfg s) cfg cfg' s fun _ => id
  respawn cfg s pid cfg' := storing_spawn (.exited cfg s pid) cfg cfg' s fun _ => id
  finds _ _ _ := .of_imp fun _ => id
  exited _ _ _ _ zero := zero
  record _ cfg _ s result _ _ := save (.launched cfg s result.pid) (.recorded _) _ (fun _ _ => rfl)
    fun _ _ _ => rfl

theorem storing_blocks : (storing i).Blocks where
  fails _ _ := trivial
  select s := by
    refine pass rfl fun w ans cancelled w' _ zero _ => ?_
    cases cancelled <;> exact zero
  finds _ := .of_imp fun _ => id
  never s := pass rfl fun _ _ _ _ _ _ ran => by cases ran
  writeBack s := (save (.leaving s) .ended { s with running := false } (fun _ => id)
    fun _ _ _ => trivial).weaken fun _ _ _ => trivial

theorem operation_safe (host : Platform) (name : String) (rounds : Nat) {op : Operation}
    (known : op.startsOrStops) :
    (storing i).Runs (op.prog host name rounds) w := by
  have entry : (storing i).holds .entry w := trivial
  cases op with
  | start foreground recovery =>
    refine Outline.tryQuietly loadConfig_quiet entry (fun _ _ => trivial) fun cfg w _ entry => ?_
    cases foreground with
    | true => exact Outline.Blocks.foreground_safe (storing_starts cfg) storing_blocks entry
    | false => exact (storing_starts cfg).detached_safe (fun _ _ _ => trivial) entry
  | stop => exact (storing_stops .user).stop_safe name entry
  | forceStop => exact (storing_stops .user).forceStop_safe name entry
  | list =>
    refine (storing_lists.list_safe entry).bind (fun _ _ => id) fun _ w ended => ?_
    exact Outline.finish _ ended
  | guestPoweroff =>
    refine Outline.recordGuestShutdown_safe storing_load (fun s => ?_)
      (fun _ => Outline.finish _ trivial) entry
    exact (save (.loaded s) .ended s.guestShutdown (fun _ => id) fun _ _ _ => trivial).weaken
      fun _ _ _ => trivial
  | tick => cases known

theorem hostKeeps : protocol.HostKeeps := by
  intro event w w' inv _ happened
  obtain ⟨occurred, -⟩ := Machine.withHistory_env happened
  exact (congrArg VMState.leaseBaseline (HostEvent.occur_frame occurred).1).trans inv

theorem baseline_zero {host : Platform} {name : String} {rounds : Nat} {ops : List Operation}
    (known : ∀ op ∈ ops, op.startsOrStops) {w : World} (zero : w.state.leaseBaseline = 0)
    {c : Pool (World × (Nat → Nat))}
    (reached : Reach leaseHost (.none _) (leasedOperations host name rounds ops w) c) :
    c.world.1.state.leaseBaseline = 0 := by
  have initially : SafePool protocol (fun i => (storing i).post)
      (leasedOperations host name rounds ops w) := by
    refine ⟨zero, fun i p found => ?_⟩
    have found : (ops.map (·.prog host name rounds))[i]? = some p := found
    rw [List.getElem?_map] at found
    obtain ⟨op, here, rfl⟩ := Option.map_eq_some_iff.mp found
    exact operation_safe host name rounds (known op (List.mem_of_getElem? here))
  exact (Reach.safe initially hostKeeps reached).inv

/-! ## The wait -/

section

variable {name vmDir timeout : String} {state : VMState}

variable {α : Type} {p : VM α} {result : Except String α} {pid expiry : Nat}

/-- A part that calls the manager runs as it does there, and does not look at leases. -/
theorem ran_of_onManager {v v' : World × Option Probe}
    (ran : Ran readyHost (onManager p) v result v') :
    Ran vmHost p v.1 result v'.1 ∧ v'.2 = v.2 := by
  induction p generalizing v with
  | done ended =>
    cases ran
    exact ⟨.done, rfl⟩
  | call op next ih =>
    have ran :
        Ran readyHost (.call (.manager op) fun answer => onManager (next answer)) v result v' :=
      ran
    cases ran with
    | call ran rest =>
      obtain ⟨out, carried, same⟩ := Option.map_eq_some_iff.mp ran
      cases same
      obtain ⟨ran, seen⟩ := ih _ rest
      exact ⟨.call carried ran, seen⟩

theorem onManager_meets (seen : Option Probe → Prop) (p : VM α) :
    Meets readyHost (fun w => seen w.2) (onManager p) fun _ w => seen w.2 := by
  intro v result v' holds ran
  rw [(ran_of_onManager ran).2]
  exact holds

def Newer (baseline : Nat) (seen : Option Probe) : Prop :=
  ∀ expiry, seen = some (.lease expiry) → baseline < expiry

theorem probeVZ_meets (mac : String) (baseline : Nat) :
    Meets readyHost (fun w => Newer baseline w.2) (probeVZ mac baseline)
      fun _ w => Newer baseline w.2 := by
  refine Meets.call (fun exp w => w.2 = some (.lease exp)) ?_ fun exp => ?_
  · intro w ans answer w' _ ran
    cases ran
    rfl
  · show Meets readyHost _ (if exp > 0 ∧ exp > baseline then _ else _) _
    split
    · rename_i fresh
      refine Meets.done fun w seen expiry same => ?_
      rw [seen] at same
      cases same
      exact fresh.2
    · refine Meets.call (fun _ w => w.2 = some .ssh) ?_ fun answer => ?_
      · intro w ans answer w' _ ran
        cases ran
        rfl
      · refine Meets.done fun w seen expiry same => ?_
        rw [seen] at same
        cases same

theorem pollVZ_meets (mac : String) (rounds : Nat) :
    Meets readyHost (fun w => Newer state.leaseBaseline w.2)
      (pollVZ name vmDir timeout state mac rounds) fun _ w => Newer state.leaseBaseline w.2 := by
  induction rounds with
  | zero => exact onManager_meets (Newer _) _
  | succ rounds ih =>
    refine Meets.call (fun _ w => Newer state.leaseBaseline w.2) ?_ fun tick => ?_
    · intro w ans answer w' newer ran
      cases ran
      exact newer
    · cases tick with
      | done err => exact Meets.done fun _ => id
      | fired late =>
        refine (onManager_meets (Newer _) _).bind (fun _ _ => id) fun alive => ?_
        cases alive with
        | false => exact Meets.done fun _ => id
        | true =>
          refine (probeVZ_meets mac _).bind (fun _ _ => id) fun found => ?_
          cases found with
          | true => exact onManager_meets (Newer _) _
          | false =>
            cases late with
            | true => exact Meets.done fun _ => id
            | false => exact ih

/-- The wait takes a guest for ready by a lease only if it is newer than the stored baseline. -/
theorem waitReadyVZ_meets (rounds : Nat) : Meets readyHost (fun w => Newer state.leaseBaseline w.2)
      (waitReadyVZ name vmDir timeout state rounds) fun _ w => Newer state.leaseBaseline w.2 := by
  refine (onManager_meets (Newer _) _).bind (fun _ _ => id) fun alive => ?_
  cases alive with
  | false => exact Meets.done fun _ => id
  | true =>
    refine (onManager_meets (Newer _) _).bind (fun _ _ => id) fun answer => ?_
    cases answer with
    | error text => exact onManager_meets (Newer _) _
    | ok cfg =>
      show Meets readyHost _ (if cfg.nic.mac = "" then _ else _) _
      split
      · exact onManager_meets (Newer _) _
      · exact pollVZ_meets _ rounds

theorem onManager_ran {w w' : World} (ran : Ran vmHost p w result w') (seen : Option Probe) :
    Ran readyHost (onManager p) (w, seen) result (w', seen) := by
  induction ran with
  | done => exact .done
  | @call op next ans answer w w' w'' result ran _ ih =>
    have step : readyHost.exec 0 (.manager op) { manager := ans } (w, seen) =
        some (answer, w', seen) := by
      show (op.exec ans w).map _ = _
      rw [show op.exec ans w = some (answer, w') from ran]
      rfl
    exact .call step ih

theorem isAlive_ran {w : World} (alive : w.IsAlive pid) :
    Ran vmHost (isAlive pid) w (.ok true) w := by
  unfold isAlive
  rw [if_neg alive.1]
  have step : vmHost.exec 0 (.processAlive pid) {} w = some (true, w) :=
    congrArg (fun found => some (found, w)) (decide_eq_true alive.2)
  exact .call step .done

theorem isAlive_of_ran {w w' : World} (ran : Ran vmHost (isAlive pid) w (.ok true) w') :
    w' = w ∧ w.IsAlive pid := by
  unfold isAlive at ran
  split at ran
  · cases ran
  · rename_i given
    cases ran with
    | call ran rest =>
      cases rest
      obtain ⟨found, same⟩ := Prod.mk.inj (Option.some.inj ran)
      exact ⟨same.symm, given, of_decide_eq_true found⟩

theorem loadConfig_of_ran {w w' : World} {cfg : VMConfig}
    (ran : Ran vmHost (ask .loadConfig) w (.ok (.ok cfg)) w') : cfg = w.config := by
  cases ran with
  | @call _ _ ans _ _ _ _ _ ran rest =>
    cases rest
    have answer : Answer.orFail ans w.config = .ok cfg := (Prod.mk.inj (Option.some.inj ran)).1
    unfold Answer.orFail at answer
    split at answer <;> cases answer
    rfl

/-- A wait that looks at leases has a process and an address to look for. -/
theorem alive_of_ready_by_lease {w : World} {w' : World × Option Probe} {rounds : Nat}
    (ran : Ran readyHost (waitReadyVZ name vmDir timeout w.state rounds) (w, none) (.ok ()) w')
    (seen : w'.2 = some (.lease expiry)) : w.IsAlive w.state.pid ∧ w.config.nic.mac ≠ "" := by
  rcases ran.bind_inv with ⟨_, -, impossible⟩ | ⟨alive, v, checked, ran⟩
  · cases impossible
  obtain ⟨checked, unseen⟩ := ran_of_onManager checked
  cases alive with
  | false => cases ran
  | true =>
    obtain ⟨same, alive⟩ := isAlive_of_ran checked
    refine ⟨alive, fun mac => ?_⟩
    -- without an address the guest counts as ready at once
    have unlooked {v : World × Option Probe} (unseen : v.2 = none)
        (ran : Ran readyHost (onManager markReady) v (.ok ()) w') : False := by
      rw [(ran_of_onManager ran).2, unseen] at seen
      cases seen
    rcases ran.bind_inv with ⟨_, -, impossible⟩ | ⟨answer, v, asked, ran⟩
    · cases impossible
    obtain ⟨asked, still⟩ := ran_of_onManager asked
    have unseen := still.trans unseen
    cases answer with
    | error text => exact unlooked unseen ran
    | ok cfg =>
      have read := loadConfig_of_ran asked
      rw [same] at read
      rw [if_pos (read ▸ mac)] at ran
      exact unlooked unseen ran

theorem ready_by_any_lease {w : World} (zero : w.state.leaseBaseline = 0)
    (alive : w.IsAlive w.state.pid) (mac : w.config.nic.mac ≠ "") (given : expiry ≠ 0) :
    ∃ w', Ran readyHost (waitReadyVZ name vmDir timeout w.state 1) (w, none)
      (.ok ()) (w', some (.lease expiry)) := by
  have loaded : Ran vmHost (ask .loadConfig) w (.ok (.ok w.config)) w :=
    .of_play (M := vmHost) [{}] rfl
  obtain ⟨ready, marked⟩ : ∃ ready, Ran vmHost markReady w (.ok ()) ready :=
    ⟨_, .of_play (M := vmHost) [{}, {}, {}] rfl⟩
  have newer : expiry > 0 ∧ expiry > w.state.leaseBaseline := by omega
  have probed : Ran readyHost (probeVZ w.config.nic.mac w.state.leaseBaseline) (w, none) (.ok true)
      (w, some (.lease expiry)) := by
    have step : readyHost.exec 0 (.dhcpLeaseExpiry w.config.nic.mac) { expiry } (w, none) =
        some (expiry, w, some (.lease expiry)) := rfl
    refine .call step ?_
    show Ran readyHost (if expiry > 0 ∧ expiry > w.state.leaseBaseline then _ else _) _ _ _
    rw [if_pos newer]
    exact .done
  have polled : Ran readyHost (pollVZ name vmDir timeout w.state w.config.nic.mac 1) (w, none)
      (.ok ()) (ready, some (.lease expiry)) := by
    have fired : readyHost.exec 0 .select {} (w, none) = some (.fired false, w, none) := rfl
    refine .call fired ?_
    refine (onManager_ran (isAlive_ran alive) none).bind ?_
    exact probed.bind (onManager_ran marked _)
  refine ⟨ready, (onManager_ran (isAlive_ran alive) none).bind ?_⟩
  refine (onManager_ran loaded none).bind ?_
  rw [if_neg mac]
  exact polled

end

end LeaseReady

/-- After any starts and stops, the waits for a guest only go by leases that are newer than its
start exactly if it does not run, has no address, or had no lease when it was started. -/
theorem ready_by_new_lease_iff (host : Platform) (name vmDir timeout : String) (rounds : Nat)
    (ops : List Operation) (known : ∀ op ∈ ops, op.startsOrStops) (w : World)
    (zero : w.state.leaseBaseline = 0) {c : Pool (World × (Nat → Nat))}
    (reached : Reach leaseHost (.none _) (leasedOperations host name rounds ops w) c) :
    ReadyByNewLease name vmDir timeout c.world.1 (c.world.2 c.world.1.state.pid) ↔
      (c.world.1.IsAlive c.world.1.state.pid → c.world.1.config.nic.mac ≠ "" →
        c.world.2 c.world.1.state.pid = 0) := by
  have zero := LeaseReady.baseline_zero known zero reached
  constructor
  · intro ready alive mac
    by_contra some
    obtain ⟨w', ran⟩ := LeaseReady.ready_by_any_lease zero alive mac some
    exact Nat.lt_irrefl _ (ready 1 _ _ ran rfl)
  · intro none rounds w' expiry ran seen
    obtain ⟨alive, mac⟩ := LeaseReady.alive_of_ready_by_lease ran seen
    have newer := LeaseReady.waitReadyVZ_meets rounds (fun _ impossible => by cases impossible) ran
    rw [none alive mac, ← zero]
    exact newer expiry seen

def macHost : Platform := ⟨true, false⟩

def vzGuest : World where
  config := { name := "vm", backend := "vz", nic := { mac := "52:54:00:00:00:01" } }
  state := {}

/-- The guest runs, and this lease expiry was noted before it was launched. -/
abbrev startedWith (expiry : Nat) (c : Pool (World × (Nat → Nat))) : Prop :=
  c.world.1.IsAlive c.world.1.state.pid ∧ c.world.1.config.nic.mac ≠ "" ∧
    c.world.2 c.world.1.state.pid = expiry

/-- A guest that had no lease when it was started is found ready by a new one. -/
theorem first_start_ready_by_new_lease :
    ∃ c, Reach leaseHost (.none _)
      (leasedOperations macHost "vm" 0 [.start false false] vzGuest) c ∧
      c.world.1.IsAlive c.world.1.state.pid ∧
      ReadyByNewLease "vm" "/vms/vm" "2m0s" c.world.1 (c.world.2 c.world.1.state.pid) := by
  refine Reach.exists_of_runs (List.replicate 7 (.run 0 {})) (startedWith 0) (by decide) ?_
  rintro c reached ⟨alive, -, none⟩
  exact ⟨alive, (ready_by_new_lease_iff macHost "vm" "/vms/vm" "2m0s" 0 [.start false false]
    (by decide) vzGuest rfl reached).mpr fun _ _ => none⟩

/-- A guest with a lease from an earlier run is started, and the same lease makes it ready. -/
theorem old_lease_makes_ready : ∃ c, Reach leaseHost (.none _)
        (leasedOperations macHost "vm" 0 [.start false false] vzGuest) c ∧
      ¬ ReadyByNewLease "vm" "/vms/vm" "2m0s" c.world.1 (c.world.2 c.world.1.state.pid) := by
  refine Reach.exists_of_runs (List.replicate 4 (.run 0 {}) ++ [.run 0 { expiry := 7 }] ++
    List.replicate 2 (.run 0 {})) (fun c => startedWith 7 c ∧ c.world.1.state.leaseBaseline = 0)
    (by decide) ?_
  rintro c - ⟨⟨alive, mac, noted⟩, zero⟩ newLease
  obtain ⟨w', ran⟩ := LeaseReady.ready_by_any_lease zero alive mac (by decide : 7 ≠ 0)
  have newer := newLease 1 _ 7 ran rfl
  omega

end Vee
