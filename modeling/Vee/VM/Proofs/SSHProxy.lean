import Vee.VM.SSHProxy
import Vee.VM.WorkingHost

/-!
# The recorded SSH port and the proxy that serves it

A proxy is kept under the name of its VM and outlives a run, while `Start` writes a new record, in
bridge mode with no port at all. A VM that is restarted between two passes keeps its proxy, and
the pass that finds it does not enter the port again.
-/

namespace Vee

open List

/-- The VM runs: the record says so and its process is alive. -/
def World.Up (v : World) : Prop := v.state.running = true ∧ v.IsAlive v.state.pid

namespace SSHProxy

open Prog (forEach)

/-- The answers of a host on which the store works and every listener can be opened. -/
def Op.works : Op → Choice → Bool
  | .on _ call, ans => call.works ans.toAnswer
  | .listAllConfigs, ans => ans.error.isNone
  | .startProxy _ _, ans => ans.error.isNone
  | _, _ => true

abbrev workingFleet : Machine Op Op.Res Fleet := fleetHost.only Op.works

def Wanted (host : Platform) (w : Fleet) (name : String) : Prop :=
  name ∈ w.names ∧ (w.vm name).Up ∧ effectiveBridge host (w.vm name).config = true ∧
    0 < (w.vm name).config.sshPort

/-- The live proxies are those of the VMs that should have one, and each port is on record. -/
structure Served (host : Platform) (w : Fleet) : Prop where
  one : (w.proxies.map (·.1)).Nodup
  live : ∀ name, name ∈ w.proxies.map (·.1) ↔ Wanted host w name
  recorded : ∀ proxy ∈ w.proxies, (w.vm proxy.1).state.sshPort = proxy.2

/-- What has come of the VMs and the proxies since the daemon was started: operations on the VMs,
where they are allowed, and passes. -/
inductive Served.Run (host : Platform) (allowed : Change → String → Fleet → Prop) (w₀ : Fleet) :
    Fleet → Prop
  | refl : Run host allowed w₀ w₀
  | change {w : Fleet} {name : String} {change : Change} {v : World} :
      Run host allowed w₀ w → allowed change name w → Changes host name change (w.vm name) v →
      Run host allowed w₀ (w.set name v)
  | pass {w w' : Fleet} {result : Except String Unit} :
      Run host allowed w₀ w → Ran workingFleet (reconcileSSHProxies host) w result w' →
      Run host allowed w₀ w'

def startsUnproxied : Change → String → Fleet → Prop
  | .start _ _, name, w => name ∉ w.proxies.map (·.1)
  | _, _, _ => True

/-! ### One VM -/

section OneVM

abbrev workingVM : Machine Call Call.Res World := workingHost false

variable {v v' : World}

theorem loadState_call :
    Meets workingVM (· = v) (ask .loadState) (Ends fun found w => found = .ok v.state ∧ w = v) := by
  refine (Lasting.immortal _).loadState_call.ends ?_
  rintro found w ⟨loaded, rfl⟩
  exact ⟨loaded, rfl⟩

variable (port : Int) (s : VMState)

theorem saveState_call : Meets workingVM (· = v) (do let _ ← ask (.saveState s))
      (Ends fun _ w => w = { v with state := s }) := by
  refine ((Lasting.immortal _).saveState_last s).pre ?_
  rintro w rfl
  rfl

/-- Nothing that a pass asks for, beside the recorded port, has changed. -/
structure SameRun (v v' : World) : Prop where
  config : v'.config = v.config
  alive : v'.alive = v.alive
  running : v'.state.running = v.state.running
  pid : v'.state.pid = v.state.pid

theorem SameRun.up_iff (same : SameRun v v') : v'.Up ↔ v.Up := by
  simp only [World.Up, World.IsAlive, same.running, same.pid, same.alive]

theorem setStateSSHPort_meets : Meets workingVM (· = v) (setStateSSHPort port)
      (Ends fun _ v' => SameRun v v' ∧ v'.state.sshPort = port) := by
  refine .seq loadState_call fun found => ?_
  refine .given fun loaded => ?_
  subst loaded
  dsimp only
  split
  · rename_i recorded
    exact .done fun w same => by subst same; exact ⟨⟨rfl, rfl, rfl, rfl⟩, recorded⟩
  · refine (saveState_call _).ends ?_
    rintro _ w rfl
    exact ⟨⟨rfl, rfl, rfl, rfl⟩, rfl⟩

theorem clearStateSSHPort_meets :
    Meets workingVM (· = v) (clearStateSSHPort port) (Ends fun _ => SameRun v) := by
  refine .seq loadState_call fun found => ?_
  refine .given fun loaded => ?_
  subst loaded
  dsimp only
  split
  · exact .done fun w same => by subst same; exact ⟨rfl, rfl, rfl, rfl⟩
  · refine (saveState_call _).ends ?_
    rintro _ w rfl
    exact ⟨rfl, rfl, rfl, rfl⟩

/-- What a list reports of a VM: the record of one that runs, and of any other that it does not
run. The cleanup has changed the record of the latter at most. -/
def Listed (v v' : World) (s : VMState) : Prop :=
  (v.Up ∧ v' = v ∧ s = v.state) ∨
    (¬ v.Up ∧ s.running = false ∧ v'.config = v.config ∧ v'.state.running = false)

theorem staleResult_call : Meets workingVM (· = v) (staleResult s) (Ends fun _ w => w = v) := by
  have silent : (staleResult s).Completes Call.Silent := staleResult_quiet s
  refine (Meets.of_returns (fun op silent w ans res w' same ran => ?_) silent).ends
    fun _ _ ended => ended.2
  obtain ⟨-, immortal, ran⟩ := workingHost_exec ran
  rw [immortal rfl, World.lose_nil] at ran
  exact (silent.exec ran).trans same

theorem cleanupStaleVM_meets : Meets workingVM (· = v) (cleanupStaleVM s)
      (Ends fun _ w => w.config = v.config ∧ w.state.running = false) := by
  refine .seq (staleResult_call s) fun result => ?_
  refine (saveState_call (s.stale result)).ends ?_
  rintro _ w rfl
  exact ⟨rfl, rfl⟩

theorem listEntry_meets (cfg : VMConfig) :
    Meets workingVM (· = v) (listEntry cfg) (Ends fun e v' => e.1 = cfg ∧ Listed v v' e.2) := by
  refine .seq loadState_call fun found => ?_
  refine .given fun loaded => ?_
  subst loaded
  change Meets _ _ (if v.state.running then _ else _) _
  split
  · rename_i running
    refine .seq ((Lasting.immortal (· = v)).isAlive _) fun alive => ?_
    cases alive with
    | true =>
      refine .done fun w ⟨live, same⟩ => ⟨rfl, .inl ⟨⟨running, ?_⟩, same, rfl⟩⟩
      exact same ▸ live.mp rfl
    | false =>
      rintro w result w' ⟨dead, rfl⟩
      have down : ¬ w.Up := fun up => by cases dead.mpr up.2
      refine Meets.seq (cleanupStaleVM_meets _) (fun _ => .done fun w cleaned => ?_) rfl
      exact ⟨rfl, .inr ⟨down, rfl, cleaned⟩⟩
  · rename_i stopped
    refine .done fun w same => ⟨rfl, .inr ⟨fun up => stopped up.1, ?_, ?_, ?_⟩⟩
    · exact eq_false_of_ne_true stopped
    · rw [same]
    · rw [same]
      exact eq_false_of_ne_true stopped

end OneVM

/-! ### All VMs -/

section Lift

variable {w w' : Fleet} {name : String}

@[simp] theorem Fleet.set_same (w : Fleet) (name : String) (v : World) :
    (w.set name v).vm name = v := Function.update_self ..

theorem Fleet.set_other (w : Fleet) {name other : String} (v : World) (differs : other ≠ name) :
    (w.set name v).vm other = w.vm other := Function.update_of_ne differs ..

@[simp] theorem Fleet.set_self (w : Fleet) (name : String) : w.set name (w.vm name) = w := by
  rw [Fleet.set, Function.update_eq_self]

@[simp] theorem Fleet.set_set (w : Fleet) (name : String) (v v' : World) :
    (w.set name v).set name v' = w.set name v' := by
  simp only [Fleet.set, Function.update_idem]

variable {α : Type} {p : VM α}

/-- A run of an operation on one VM, seen from that VM. -/
theorem onVM_ran {result : Except String α} (ran : Ran workingFleet (onVM name p) w result w') :
    ∃ v, Ran workingVM p (w.vm name) result v ∧ w' = w.set name v := by
  induction p generalizing w with
  | done ended =>
    cases ran
    exact ⟨w'.vm name, .done, by simp⟩
  | call op next ih =>
    rcases ran with _ | ⟨executed, rest⟩
    obtain ⟨works, executed⟩ := Machine.only_exec executed
    obtain ⟨out, ran, same⟩ := Option.map_eq_some_iff.mp executed
    cases same
    obtain ⟨v, after, rfl⟩ := ih _ rest
    rw [Fleet.set_same] at after
    exact ⟨v, .call (exec_workingHost works ran) after, by simp⟩

/-- What a program of the daemon comes to, which does not fail. -/
abbrev Serves {α : Type} (before : Fleet → Prop) (p : Daemon α)
    (after : α → Fleet → Prop) : Prop := Meets workingFleet before p (Ends after)

theorem onVM_meets {before : Fleet → Prop} {after : α → Fleet → Prop}
    {post : World → α → World → Prop} (alone : ∀ v, Meets workingVM (· = v) p (Ends (post v)))
    (step : ∀ w value v, before w → post (w.vm name) value v → after value (w.set name v)) :
    Serves before (onVM name p) after := by
  intro w result w' now ran
  obtain ⟨v, here, rfl⟩ := onVM_ran ran
  have ended := alone _ rfl here
  cases result with
  | error text => exact ended
  | ok value => exact step w value v now ended

end Lift

/-! ### The VMs that want a proxy -/

section List

variable {host : Platform} {w w' : Fleet}

/-- A list leaves a running VM alone, and the config of every VM. -/
structure Passed (v v' : World) : Prop where
  config : v'.config = v.config
  up : v.Up → v' = v
  down : ¬ v.Up → v' = v ∨ v'.state.running = false

theorem Passed.refl (v : World) : Passed v v := ⟨rfl, fun _ => rfl, fun _ => .inl rfl⟩

variable {v v' : World} {entry : VMConfig × VMState}

theorem Passed.up_iff (passed : Passed v v') : v'.Up ↔ v.Up := by
  by_cases up : v.Up
  · rw [passed.up up]
  · rcases passed.down up with same | stopped
    · rw [same]
    · exact iff_of_false (fun up' => by simp [up'.1] at stopped) up

theorem Passed.trans {v'' : World} (first : Passed v v') (second : Passed v' v'') :
    Passed v v'' where
  config := second.config.trans first.config
  up up := (second.up (first.up_iff.mpr up)).trans (first.up up)
  down down := by
    rcases second.down (mt first.up_iff.mp down) with same | stopped
    · rw [same]
      exact first.down down
    · exact .inr stopped

theorem Listed.passed {s : VMState} (listed : Listed v v' s) : Passed v v' := by
  rcases listed with ⟨up, same, -⟩ | ⟨down, -, config, stopped⟩
  · rw [same]
    exact .refl v
  · exact ⟨config, fun up => absurd up down, fun _ => .inr stopped⟩

structure Fleet.Passed (w w' : Fleet) : Prop where
  names : w'.names = w.names
  proxies : w'.proxies = w.proxies
  each : ∀ name, SSHProxy.Passed (w.vm name) (w'.vm name)

theorem Fleet.Passed.configs (passed : Fleet.Passed w w') : w'.configs = w.configs := by
  unfold Fleet.configs
  rw [passed.names]
  refine map_congr_left fun name _ => ?_
  rw [(passed.each name).config]

structure Reported (v : World) (entry : VMConfig × VMState) : Prop where
  config : entry.1 = { v.config with name := entry.1.name }
  up : v.Up → entry.2 = v.state
  down : ¬ v.Up → entry.2.running = false

theorem Reported.passed (reported : Reported v entry) (passed : SSHProxy.Passed v v') :
    Reported v' entry where
  config := by rw [passed.config]; exact reported.config
  up up := by
    have before := passed.up_iff.mp up
    rw [passed.up before]
    exact reported.up before
  down down := reported.down (mt passed.up_iff.mpr down)

theorem Listed.reported (config : entry.1 = { v.config with name := entry.1.name })
    (listed : Listed v v' entry.2) : Reported v' entry := by
  have config' : entry.1 = { v'.config with name := entry.1.name } := by
    rw [listed.passed.config]
    exact config
  rcases listed with ⟨up, same, record⟩ | ⟨down, stopped, -, stopped'⟩
  · rw [same] at config' ⊢
    exact ⟨config', fun _ => record, fun down => absurd up down⟩
  · exact ⟨config', fun up => by simp [up.1] at stopped', fun _ => stopped⟩

def Reports (entries : List (VMConfig × VMState)) (w : Fleet) : Prop :=
  ∀ entry ∈ entries, Reported (w.vm entry.1.name) entry

variable (w₀ : Fleet)

theorem listEntry_step (cfg : VMConfig)
    (config : cfg = { (w₀.vm cfg.name).config with name := cfg.name })
    (out : List (VMConfig × VMState)) :
    Serves (fun w => Reports out w ∧ Fleet.Passed w₀ w) (onVM cfg.name (listEntry cfg))
      fun entry w => (entry.1 = cfg ∧ Reports (out ++ [entry]) w) ∧ Fleet.Passed w₀ w := by
  refine onVM_meets (fun v => listEntry_meets cfg) fun w entry v now ended => ?_
  obtain ⟨same, listed⟩ := ended
  obtain ⟨reports, passed⟩ := now
  have each : ∀ name, Passed (w.vm name) ((w.set cfg.name v).vm name) := by
    intro name
    by_cases here : name = cfg.name
    · rw [here, Fleet.set_same]
      exact listed.passed
    · rw [Fleet.set_other w v here]
      exact .refl _
  refine ⟨⟨same, ?_⟩, passed.names, passed.proxies,
    fun name => (passed.each name).trans (each name)⟩
  intro other mem
  rcases mem_append.mp mem with old | new
  · exact (reports other old).passed (each _)
  · rw [mem_singleton.mp new, same, Fleet.set_same]
    refine Listed.reported ?_ listed
    rw [same, (passed.each _).config]
    exact config

theorem listAllConfigs_call : Serves (· = w₀) (askDaemon .listAllConfigs)
      fun found w => found = .ok w₀.configs ∧ w = w₀ := by
  refine .ask_ends ?_
  rintro w ans found w' rfl ran
  obtain ⟨works, ran⟩ := Machine.only_exec ran
  cases ran
  exact ⟨Answer.orFail_works works, rfl⟩

theorem list_meets : Serves (· = w₀) list fun entries w =>
      entries.map (·.1) = w₀.configs ∧ Reports entries w ∧ Fleet.Passed w₀ w := by
  refine .seq (listAllConfigs_call w₀) fun found => .given fun loaded => ?_
  subst loaded
  refine .bind_value ?_
  refine (Meets.forEach (fun front out w =>
    out.map (·.1) = front ∧ Reports out w ∧ Fleet.Passed w₀ w) (fun _ => False) w₀.configs
    fun front cfg rest out split => .given fun names => ?_).pre ?_
  · have mem : cfg ∈ w₀.configs := by simp [split]
    obtain ⟨name, -, rfl⟩ := mem_map.mp mem
    exact (listEntry_step w₀ _ rfl out).ends fun entry w ⟨⟨same, reports⟩, passed⟩ =>
      ⟨by simp [names, same], reports, passed⟩
  · rintro w rfl
    exact ⟨rfl, forall_mem_nil _, rfl, rfl, fun name => .refl _⟩

def WantedVM (host : Platform) (v : World) : Prop :=
  v.Up ∧ effectiveBridge host v.config = true ∧ 0 < v.config.sshPort

theorem isWanted_meets (entry : VMConfig × VMState) :
    Serves (fun w => Reported (w.vm entry.1.name) entry ∧ w = w') (isWanted host entry)
      fun wanted w => (wanted = true ↔ WantedVM host (w'.vm entry.1.name)) ∧ w = w' := by
  have alive : Serves (fun w => Reported (w.vm entry.1.name) entry ∧ w = w')
      (onVM entry.1.name (recordedAlive entry.2))
      fun alive w => ((alive = true ↔ (w'.vm entry.1.name).Up) ∧
        Reported (w'.vm entry.1.name) entry) ∧ w = w' := by
    refine onVM_meets (fun v => (Lasting.immortal (· = v)).recordedAlive entry.2) ?_
    rintro w alive _ ⟨reported, rfl⟩ ⟨live, rfl⟩
    refine ⟨⟨live.trans ?_, reported⟩, w.set_self _⟩
    by_cases up : (w.vm entry.1.name).Up
    · rw [reported.up up]
      exact Iff.rfl
    · exact iff_of_false (fun run => by simp [reported.down up] at run) up
  refine .seq alive fun live => .given fun ⟨up, reported⟩ => ?_
  have bridge :
      effectiveBridge host entry.1 = effectiveBridge host (w'.vm entry.1.name).config := by
    rw [reported.config]
    rfl
  have port : entry.1.sshPort = (w'.vm entry.1.name).config.sshPort := by rw [reported.config]
  cases live with
  | true =>
    refine .done fun w same => ⟨?_, same⟩
    simp [WantedVM, up.mp rfl, bridge, port]
  | false =>
    refine .done fun w same => ⟨iff_of_false nofun fun wanted => ?_, same⟩
    cases up.mpr wanted.1

theorem mem_assign (wanted : List (String × VMConfig)) (cfg : VMConfig) (name : String) :
    name ∈ (assign wanted cfg).map (·.1) ↔ name ∈ wanted.map (·.1) ∨ name = cfg.name := by
  by_cases here : name = cfg.name
  · simp [assign, here]
  · simp [assign, here]

theorem mem_foldl_assign (cfgs : List VMConfig) (wanted : List (String × VMConfig))
    (name : String) : name ∈ (cfgs.foldl assign wanted).map (·.1) ↔
      name ∈ wanted.map (·.1) ∨ name ∈ cfgs.map (·.name) := by
  induction cfgs generalizing wanted with
  | nil => simp
  | cons cfg cfgs ih =>
    rw [foldl_cons, ih, mem_assign, map_cons, mem_cons, or_assoc]

theorem wantedVMs_meets (entries : List (VMConfig × VMState))
    (all : entries.map (·.1) = w'.configs) (reports : Reports entries w') :
    Serves (· = w') (wantedVMs host entries) fun wanted w =>
      (∀ name, name ∈ wanted.map (·.1) ↔ Wanted host w' name) ∧ w = w' := by
  have checks : Serves (· = w')
      (forEach (fun e => do return (e.1, ← isWanted host e)) entries)
      fun checked w => (checked.map (·.1) = entries.map (·.1) ∧
        ∀ c ∈ checked, (c.2 = true ↔ WantedVM host (w'.vm c.1.name))) ∧ w = w' := by
    refine .pre (.forEach (fun front (out : List (VMConfig × Bool)) w =>
      (out.map (·.1) = front.map (·.1) ∧ ∀ c ∈ out, (c.2 = true ↔ WantedVM host (w'.vm c.1.name))) ∧
        w = w') (fun _ => False) entries
      fun front entry rest out split => .given fun ⟨names, known⟩ => ?_)
        (fun w same => ⟨⟨rfl, forall_mem_nil _⟩, same⟩)
    have mem : entry ∈ entries := by simp [split]
    refine .seq ((isWanted_meets entry).pre (fun w same => ⟨?_, same⟩))
      fun wanted => .given fun decided => .done fun w same => ?_
    · rw [same]
      exact reports entry mem
    refine ⟨⟨by simp [names], ?_⟩, same⟩
    exact forall_mem_append.mpr ⟨known, forall_mem_singleton.mpr decided⟩
  refine .seq checks fun checked => .given fun ⟨names, known⟩ => .done fun w same => ?_
  refine ⟨fun name => ?_, same⟩
  have configs : checked.map (·.1) = w'.configs := names.trans all
  rw [mem_foldl_assign, map_nil, map_map]
  constructor
  · rintro (impossible | chosen)
    · cases impossible
    obtain ⟨c, kept, rfl⟩ := mem_map.mp chosen
    obtain ⟨mem, wanted⟩ := mem_filter.mp kept
    have stored : c.1 ∈ w'.configs := configs ▸ mem_map_of_mem mem
    obtain ⟨name, isName, same⟩ := mem_map.mp stored
    have here : c.1.name = name := by rw [← same]
    exact ⟨by rw [Function.comp_apply, here]; exact isName, (known c mem).mp wanted⟩
  · rintro ⟨isName, wanted⟩
    have stored : { (w'.vm name).config with name := name } ∈ w'.configs :=
      mem_map.mpr ⟨name, isName, rfl⟩
    rw [← configs] at stored
    obtain ⟨c, mem, same⟩ := mem_map.mp stored
    have here : c.1.name = name := by rw [same]
    refine .inr (mem_map.mpr ⟨c, mem_filter.mpr ⟨mem, ?_⟩, here⟩)
    exact (known c mem).mpr (by rw [here]; exact wanted)

end List

/-! ### The two loops -/

section Loops

variable {host : Platform} {w w' : Fleet} {wanted : List (String × VMConfig)}

/-- Of the VMs, only recorded ports have changed. -/
structure Fleet.SameRuns (w w' : Fleet) : Prop where
  names : w'.names = w.names
  each : ∀ name, SameRun (w.vm name) (w'.vm name)

theorem SameRun.refl (v : World) : SameRun v v := ⟨rfl, rfl, rfl, rfl⟩

theorem SameRun.trans {v v' v'' : World} (first : SameRun v v') (second : SameRun v' v'') :
    SameRun v v'' where
  config := second.config.trans first.config
  alive := second.alive.trans first.alive
  running := second.running.trans first.running
  pid := second.pid.trans first.pid

theorem Fleet.SameRuns.refl (w : Fleet) : Fleet.SameRuns w w := ⟨rfl, fun _ => .refl _⟩

theorem Fleet.SameRuns.set {w₀ : Fleet} (same : Fleet.SameRuns w₀ w) {name : String} {v : World}
    (here : SameRun (w.vm name) v) : Fleet.SameRuns w₀ (w.set name v) where
  names := same.names
  each other := by
    by_cases eq : other = name
    · rw [eq, Fleet.set_same]
      exact (same.each name).trans here
    · rw [Fleet.set_other w v eq]
      exact same.each other

theorem Fleet.SameRuns.wanted_iff (same : Fleet.SameRuns w w') (name : String) :
    Wanted host w' name ↔ Wanted host w name := by
  rw [Wanted, Wanted, (same.each name).up_iff, (same.each name).config, same.names]

theorem rangeProxies_call (before : Fleet → Prop) : Serves before (askDaemon .rangeProxies)
      fun found w => found.Perm w.proxies ∧ before w := by
  refine .ask_ends ?_
  intro w ans found w' now ran
  obtain ⟨-, ran⟩ := Machine.only_exec ran
  obtain ⟨order, same⟩ := Option.ite_none_right_eq_some.mp ran
  cases same
  exact ⟨isPerm_iff.mp order, now⟩

theorem rangeWanted_call (before : Fleet → Prop) : Serves before (askDaemon (.rangeWanted wanted))
      fun found w => found.Perm wanted ∧ before w := by
  refine .ask_ends ?_
  intro w ans found w' now ran
  obtain ⟨-, ran⟩ := Machine.only_exec ran
  obtain ⟨order, same⟩ := Option.ite_none_right_eq_some.mp ran
  cases same
  exact ⟨isPerm_iff.mp order, now⟩

/-- The first loop at work: of the proxies of `w₀` those in `front` are dealt with. -/
structure Closing (wanted : List (String × VMConfig)) (w₀ : Fleet) (front : List (String × Int))
    (w : Fleet) : Prop where
  same : Fleet.SameRuns w₀ w
  untouched : ∀ name ∈ wanted.map (·.1), w.vm name = w₀.vm name
  left : w.proxies.Sublist w₀.proxies
  gone : ∀ proxy ∈ front, proxy ∈ w.proxies → proxy.1 ∈ wanted.map (·.1)

theorem any_key {β : Type} (xs : List (String × β)) (name : String) :
    xs.any (·.1 = name) = true ↔ name ∈ xs.map (·.1) := by
  simp

theorem closeUnwanted_step (w₀ : Fleet) (front : List (String × Int)) (proxy : String × Int) :
    Serves (Closing wanted w₀ front) (closeUnwanted wanted proxy)
      fun _ => Closing wanted w₀ (front ++ [proxy]) := by
  unfold closeUnwanted
  split
  · rename_i isWanted
    refine .done fun w now => ⟨now.same, now.untouched, now.left, ?_⟩
    exact forall_mem_append.mpr
      ⟨now.gone, forall_mem_singleton.mpr fun _ => (any_key wanted proxy.1).mp isWanted⟩
  · rename_i unwanted
    have notWanted : proxy.1 ∉ wanted.map (·.1) := mt (any_key wanted proxy.1).mpr unwanted
    have closed : Serves (Closing wanted w₀ front) (askDaemon (.closeProxy proxy.1))
        fun _ => Closing wanted w₀ (front ++ [proxy]) := by
      refine .ask_ends ?_
      intro w ans res w' now ran
      obtain ⟨-, ran⟩ := Machine.only_exec ran
      cases ran
      refine ⟨⟨now.same.names, now.same.each⟩, now.untouched,
        filter_sublist.trans now.left, fun other mem stays => ?_⟩
      obtain ⟨stays, differs⟩ := mem_filter.mp stays
      rcases mem_append.mp mem with old | new
      · exact now.gone other old stays
      · simp [mem_singleton.mp new] at differs
    refine .seq closed fun _ => ?_
    refine onVM_meets (fun v => clearStateSSHPort_meets proxy.2) fun w _ v now ended => ?_
    refine ⟨now.same.set ended, fun name mem => ?_, now.left, now.gone⟩
    have other : name ≠ proxy.1 := fun eq => notWanted (eq ▸ mem)
    rw [Fleet.set_other w v other]
    exact now.untouched name mem

section

variable (host : Platform) (w₀ : Fleet) (front : List (String × VMConfig))

/-- The second loop at work: every proxy is wanted, and the VMs in `front` have one. -/
structure Needed (w : Fleet) : Prop where
  same : Fleet.SameRuns w₀ w
  one : (w.proxies.map (·.1)).Nodup
  needed : ∀ proxy ∈ w.proxies, Wanted host w₀ proxy.1
  opened : ∀ entry ∈ front, entry.1 ∈ w.proxies.map (·.1)

/-- Every proxy is on record. -/
structure Opening (w : Fleet) : Prop extends Needed host w₀ front w where
  recorded : ∀ proxy ∈ w.proxies, (w.vm proxy.1).state.sshPort = proxy.2

/-- Every proxy but the one that has just been started is on record. -/
structure Bound (name : String) (port : Int) (w : Fleet) : Prop extends
    Needed host w₀ front w where
  recorded : ∀ proxy ∈ w.proxies, proxy = (name, port) ∨
    (w.vm proxy.1).state.sshPort = proxy.2 ∧ proxy.1 ≠ name

end

inductive Op.AsksPort : Op → Prop
  | asked (port : Int) : AsksPort (.isPortFree port)

theorem availablePort_meets (before : Fleet → Prop) (preferred : Int) (first count : Nat) :
    Serves before (availablePort preferred first count) fun _ => before := by
  have tried : ∀ ports, (firstFree preferred ports).Completes Op.AsksPort := by
    intro ports
    induction ports with
    | nil => exact trivial
    | cons port ports ih =>
      unfold firstFree
      split
      · refine .bind (.ask (.asked port)) fun free _ => ?_
        split
        · exact trivial
        · exact ih
      · exact ih
  have does : (availablePort preferred first count).Completes Op.AsksPort := by
    refine .bind (.ask (.asked preferred)) fun free _ => ?_
    split
    · exact trivial
    · exact tried _
  refine (Meets.of_returns ?_ does).ends fun _ _ ended => ended.2
  rintro _ ⟨port⟩ w ans res w' now ran
  cases (Machine.only_exec ran).2
  exact now

section Start

variable (w₀ : Fleet) (front : List (String × VMConfig)) (entry : String × VMConfig)
  (isWanted : Wanted host w₀ entry.1)
include isWanted

theorem startProxy_binds {found : List (String × Int)} (unlisted : entry.1 ∉ found.map (·.1))
    (port : Int) : Serves (fun w => found.Perm w.proxies ∧ Opening host w₀ front w)
      (askDaemon (.startProxy entry.1 port)) fun outcome w => ∃ bound, outcome = .ok bound ∧
        Bound host w₀ (front ++ [entry]) entry.1 bound w := by
  refine .ask_ends ?_
  rintro w ans outcome w' ⟨order, now⟩ ran
  obtain ⟨works, ran⟩ := Machine.only_exec ran
  have noError : ans.error = none := Option.isNone_iff_eq_none.mp works
  simp only [fleetHost, Op.exec, noError] at ran
  cases ran
  have absent : entry.1 ∉ w.proxies.map (·.1) := mt (order.map _).mem_iff.mpr unlisted
  refine ⟨_, rfl, ⟨⟨now.same.names, now.same.each⟩, ?_, ?_, ?_⟩, ?_⟩
  · rw [map_append, map_singleton]
    refine nodup_append.mpr ⟨now.one, by simp, fun name mem new isNew same => ?_⟩
    exact absent (mem_singleton.mp isNew ▸ same ▸ mem)
  · exact forall_mem_append.mpr ⟨now.needed, forall_mem_singleton.mpr isWanted⟩
  · rw [map_append]
    refine forall_mem_append.mpr ⟨fun e mem => mem_append_left _ (now.opened e mem), ?_⟩
    simp
  · intro proxy mem
    rcases mem_append.mp mem with old | new
    · refine .inr ⟨now.recorded proxy old, fun eq => absent ?_⟩
      exact eq ▸ mem_map_of_mem old
    · exact .inl (mem_singleton.mp new)

theorem startWanted_step : Serves (Opening host w₀ front) (startWanted entry)
      fun _ => Opening host w₀ (front ++ [entry]) := by
  refine .seq (rangeProxies_call _) fun found => ?_
  split
  · rename_i listed
    refine .done fun w ⟨order, now⟩ => ⟨⟨now.same, now.one, now.needed, ?_⟩, now.recorded⟩
    have here : entry.1 ∈ w.proxies.map (·.1) :=
      (order.map _).mem_iff.mp ((any_key found entry.1).mp listed)
    exact forall_mem_append.mpr ⟨now.opened, forall_mem_singleton.mpr here⟩
  · rename_i unlisted
    refine .seq (availablePort_meets _ _ _ _) fun port => ?_
    have started := startProxy_binds w₀ front entry isWanted
      (mt (any_key found entry.1).mpr unlisted) port
    refine .seq started fun outcome => .of_exists fun bound => .given fun same => ?_
    subst same
    refine onVM_meets (fun v => setStateSSHPort_meets bound) fun w _ v now ended => ?_
    refine ⟨⟨now.same.set ended.1, now.one, now.needed, now.opened⟩, fun proxy mem => ?_⟩
    rcases now.recorded proxy mem with new | ⟨old, other⟩
    · rw [new, Fleet.set_same]
      exact ended.2
    · rw [Fleet.set_other w v other]
      exact old

end Start

end Loops

/-! ### The pass -/

section Pass

variable {host : Platform} {w w' : Fleet}

/-- Between two passes: a proxy is in the map once, and a record that says that its VM runs has
the port. -/
structure Kept (w : Fleet) : Prop where
  one : (w.proxies.map (·.1)).Nodup
  recorded : ∀ proxy ∈ w.proxies, (w.vm proxy.1).state.running = true →
    (w.vm proxy.1).state.sshPort = proxy.2

theorem Served.kept (served : Served host w) : Kept w :=
  ⟨served.one, fun proxy mem _ => served.recorded proxy mem⟩

theorem Fleet.Passed.kept (passed : Fleet.Passed w w') (kept : Kept w) : Kept w' := by
  refine ⟨by rw [passed.proxies]; exact kept.one, fun proxy mem running => ?_⟩
  rw [passed.proxies] at mem
  have each := passed.each proxy.1
  by_cases up : (w.vm proxy.1).Up
  · rw [each.up up] at running ⊢
    exact kept.recorded proxy mem running
  · rcases each.down up with same | stopped
    · rw [same] at running ⊢
      exact kept.recorded proxy mem running
    · rw [stopped] at running
      cases running

theorem loops_meet {wanted : List (String × VMConfig)} (w₀ : Fleet) (kept : Kept w₀)
    (keys : ∀ name, name ∈ wanted.map (·.1) ↔ Wanted host w₀ name) :
    Serves (· = w₀) (do
        let _ ← forEach (closeUnwanted wanted) (← askDaemon .rangeProxies)
        let _ ← forEach startWanted (← askDaemon (.rangeWanted wanted)))
      fun _ => Served host := by
  refine .seq (rangeProxies_call _) fun proxies => ?_
  have closing : Serves (fun w => proxies.Perm w.proxies ∧ w = w₀)
      (forEach (closeUnwanted wanted) proxies)
      fun _ w => proxies.Perm w₀.proxies ∧ Closing wanted w₀ proxies w := by
    refine (Meets.forEach (fun front _ w => proxies.Perm w₀.proxies ∧ Closing wanted w₀ front w)
      (fun _ => False) proxies fun front proxy rest out _ => .given fun order => ?_).pre ?_
    · exact (closeUnwanted_step w₀ front proxy).ends fun _ _ now => ⟨order, now⟩
    · rintro w ⟨order, rfl⟩
      exact ⟨order, .refl w, fun _ _ => rfl, .refl _, forall_mem_nil _⟩
  refine .seq closing fun _ => .given fun order => ?_
  refine .seq (rangeWanted_call _) fun entries => .given fun order' => ?_
  have opening : Serves (Closing wanted w₀ proxies) (forEach startWanted entries)
      fun _ => Opening host w₀ entries := by
    refine (Meets.forEach (fun front _ => Opening host w₀ front) (fun _ => False) entries
      fun front entry rest out split => startWanted_step w₀ front entry ?_).pre ?_
    · have mem : entry ∈ entries := by simp [split]
      exact (keys _).mp (mem_map_of_mem (order'.mem_iff.mp mem))
    · intro w closed
      have wantedOf : ∀ proxy ∈ w.proxies, proxy.1 ∈ wanted.map (·.1) := fun proxy mem =>
        closed.gone proxy (order.mem_iff.mpr (closed.left.subset mem)) mem
      refine ⟨⟨closed.same, kept.one.sublist (closed.left.map _),
        fun proxy mem => (keys _).mp (wantedOf proxy mem), forall_mem_nil _⟩, fun proxy mem => ?_⟩
      have needed := wantedOf proxy mem
      rw [closed.untouched _ needed]
      exact kept.recorded proxy (closed.left.subset mem) ((keys _).mp needed).2.1.1
  refine .seq opening fun _ => .done fun w opened => ?_
  refine ⟨opened.one, fun name => ⟨fun mem => ?_, fun needed => ?_⟩, opened.recorded⟩
  · obtain ⟨proxy, live, rfl⟩ := mem_map.mp mem
    exact (opened.same.wanted_iff _).mpr (opened.needed proxy live)
  · have key := (keys name).mpr ((opened.same.wanted_iff _).mp needed)
    obtain ⟨entry, mem, rfl⟩ := mem_map.mp key
    exact opened.opened entry (order'.mem_iff.mpr mem)

/-- A pass leaves the proxies that are wanted, if the ports were on record before. -/
theorem reconcileSSHProxies_meets :
    Meets workingFleet Kept (reconcileSSHProxies host) fun _ => Served host := by
  intro w₀ result w' kept ran
  have pass : Serves (· = w₀) (reconcileSSHProxies host) fun _ => Served host := by
    refine .bind_attempt (list_meets w₀) fun entries => ?_
    rintro w₁ result w' ⟨all, reports, passed⟩ ran
    refine Meets.seq (wantedVMs_meets entries (all.trans passed.configs.symm) reports)
      (fun wanted => .given fun keys => ?_) rfl ran
    exact loops_meet w₁ (passed.kept kept) keys
  have served : Meets _ _ _ fun _ => Served host := pass.of_ends fun _ _ => id
  exact served rfl ran

end Pass

/-! ### Between two passes -/

section Between

variable {host : Platform} {name : String} {v v' : World} {w₀ w w' : Fleet}

/-- An operation that starts nothing: a record that says that the VM runs said so before, with the
same port. -/
def StartsNothing (v v' : World) : Prop :=
  v'.state.running = true → v.state.running = true ∧ v'.state.sshPort = v.state.sshPort

def SavesStopped (op : Call) : Prop := ∀ s, op.saves = some s → s.running = false

instance : Permits SavesStopped where
  silent {op} silent s saved := by
    cases op with
    | saveState => exact silent.elim
    | _ => cases saved

theorem StartsNothing.of_does {α : Type} {p : VM α} {ends : Except String α → Prop}
    {result : Except String α} (does : p.Does SavesStopped ends)
    (ran : Ran vmHost p v result v') : StartsNothing v v' := by
  have keeps :
      Meets vmHost (StartsNothing v) p fun result u => ends result ∧ StartsNothing v u := by
    refine .of_does (fun op stopped u ans res u' now ran => ?_) does
    cases saved : op.saves with
    | none =>
      unfold StartsNothing
      rw [(Call.exec_frame saved ran).1]
      exact now
    | some s =>
      cases op with
      | saveState s' =>
        obtain ⟨-, -, rfl⟩ | ⟨text, -, -, rfl⟩ := Call.saveState_exec ran
        · exact fun running => absurd running (by simp [stopped s' rfl])
        · exact now
      | _ => cases saved
  exact (keeps (fun running => ⟨running, rfl⟩) ran).2

theorem finishStop_does (s : VMState) (reason : ShutdownReason) :
    (finishStop s reason).Makes SavesStopped := by
  refine .bind unregisterStoredHostname_quiet fun _ _ => ?_
  exact .bind (.ask fun s' saved => by cases saved; rfl) fun _ _ => .orThrow

theorem killIfAlive_does (pid : Nat) : (killIfAlive pid).Completes SavesStopped := by
  refine .bind (isAlive_quiet pid) fun alive _ => ?_
  split
  · exact .ask fun s saved => by cases saved
  · exact trivial

theorem loadState_does : loadState.Makes SavesStopped :=
  .bind (.ask fun s saved => by cases saved) fun _ _ => .orThrow

theorem stopWithReason_does (name : String) (reason : ShutdownReason) :
    (stopWithReason name reason).Makes SavesStopped := by
  refine .bind_throw loadState_does fun state _ => ?_
  split
  · exact trivial
  · refine .bind (perform_quiet _) fun _ _ => .bind (waitExit_quiet _ _) fun _ _ => ?_
    refine .bind (killIfAlive_does _) fun _ _ => .bind (signalHelpers_quiet _ _) fun _ _ => ?_
    exact finishStop_does _ _

theorem forceStopWithReason_does (name : String) (reason : ShutdownReason) :
    (forceStopWithReason name reason).Makes SavesStopped := by
  refine .bind_throw loadState_does fun state _ => ?_
  split
  · exact trivial
  · refine .bind (killIfAlive_does _) fun _ _ => .bind (signalHelpers_quiet _ _) fun _ _ => ?_
    exact finishStop_does _ _

theorem recordGuestShutdown_startsNothing :
    Meets vmHost (· = v) recordGuestShutdown fun _ v' => StartsNothing v v' := by
  refine .call (fun found u => u = v ∧ ∀ s, found = .ok s → s = v.state) ?_ fun found => ?_
  · rintro u ans found u' rfl ran
    obtain ⟨rfl, ⟨rfl, -⟩ | ⟨text, rfl, -⟩⟩ := Call.loadState_exec ran
    · exact ⟨rfl, fun s same => by cases same; rfl⟩
    · exact ⟨rfl, fun s same => by cases same⟩
  cases found with
  | error text => exact .done fun u same => by rw [same.1]; exact fun running => ⟨running, rfl⟩
  | ok s =>
    refine .call (fun _ => StartsNothing v) ?_ fun _ => .done fun _ => id
    rintro u ans res u' ⟨rfl, loaded⟩ ran
    obtain ⟨-, -, rfl⟩ | ⟨text, -, -, rfl⟩ := Call.saveState_exec ran
    · intro running
      rw [← loaded s rfl]
      exact ⟨running, rfl⟩
    · exact fun running => ⟨running, rfl⟩

theorem Changes.startsNothing {change : Change} (changes : Changes host name change v v')
    (noStart : ∀ foreground recovery, change ≠ .start foreground recovery) :
    StartsNothing v v' := by
  cases changes with
  | start ran => exact absurd rfl (noStart _ _)
  | stop ran => exact .of_does (stopWithReason_does _ _) ran
  | forceStop ran => exact .of_does (forceStopWithReason_does _ _) ran
  | guestPoweroff ran => exact recordGuestShutdown_startsNothing rfl ran
  | configure => exact fun running => ⟨running, rfl⟩
  | event happened =>
    unfold StartsNothing
    rw [(HostEvent.occur_frame happened).1]
    exact fun running => ⟨running, rfl⟩

theorem Kept.set (kept : Kept w)
    (fine : name ∈ w.proxies.map (·.1) → StartsNothing (w.vm name) v) : Kept (w.set name v) := by
  refine ⟨kept.one, fun proxy mem running => ?_⟩
  by_cases here : proxy.1 = name
  · rw [here, Fleet.set_same] at running ⊢
    obtain ⟨before, port⟩ := fine (here ▸ mem_map_of_mem mem) running
    rw [port, ← here]
    exact kept.recorded proxy mem (here ▸ before)
  · rw [Fleet.set_other w v here] at running ⊢
    exact kept.recorded proxy mem running

theorem Served.Run.kept (run : Served.Run host startsUnproxied w₀ w) (fresh : w₀.proxies = []) :
    Kept w := by
  induction run with
  | refl => exact ⟨by simp [fresh], by simp [fresh]⟩
  | @change w name change v _ allowed changes ih =>
    refine ih.set fun proxied => changes.startsNothing ?_
    rintro foreground recovery rfl
    exact allowed proxied
  | @pass w w' result _ ran ih =>
    exact (reconcileSSHProxies_meets ih ran).kept

/-- However the VMs have been used since the daemon came up, if none was started while it had a
proxy, a pass ends with exactly the proxies that are wanted, and each port is on record. -/
theorem recorded_ssh_port_served (host : Platform) (w₀ w w' : Fleet)
    (result : Except String Unit) (fresh : w₀.proxies = [])
    (run : Served.Run host startsUnproxied w₀ w)
    (ran : Ran workingFleet (reconcileSSHProxies host) w result w') : Served host w' := by
  exact reconcileSSHProxies_meets (run.kept fresh) ran

end Between

/-! ### A stop with a pass before the next start, and one without -/

def sshConfig : VMConfig := { name := "vm", nic := { mode := "bridge" }, sshPort := 2222 }

def sshFleet : Fleet where
  names := ["vm"]
  vm _ := { config := sshConfig, state := {} }

def Fleet.started (w : Fleet) : Fleet :=
  w.set "vm" (vmHost.after (start linuxHost "vm" false false 0) (List.replicate 7 {}) (w.vm "vm"))

def Fleet.stopped (w : Fleet) : Fleet :=
  w.set "vm" (vmHost.after (forceStopWithReason "vm" .user) (List.replicate 5 {}) (w.vm "vm"))

/-- A pass whose host answers every call in the same way. -/
def Fleet.passed (w : Fleet) (calls : Nat) (choice : Choice) : Fleet :=
  workingFleet.after (reconcileSSHProxies linuxHost) (List.replicate calls choice) w

def sshFleet.opened : Fleet :=
  sshFleet.started.passed 11 { flag := true, wanted := [("vm", sshConfig)] }

def sshFleet.closed : Fleet := sshFleet.opened.stopped.passed 6 { proxies := [("vm", 2222)] }

def sshFleet.restarted : Fleet := sshFleet.opened.stopped.started

section Runs

variable {allowed : Change → String → Fleet → Prop} {w₀ w : Fleet}

section

variable (run : Served.Run linuxHost allowed w₀ w)

include run

theorem Served.Run.started (guard : allowed (.start false false) "vm" w)
    (played : (vmHost.play (start linuxHost "vm" false false 0) (List.replicate 7 {})
      (w.vm "vm")).isSome = true) : Served.Run linuxHost allowed w₀ w.started := by
  obtain ⟨result, ran⟩ := Ran.after _ _ _ played
  exact run.change guard (.start ran)

theorem Served.Run.stopped (guard : allowed (.forceStop .user) "vm" w)
    (played : (vmHost.play (forceStopWithReason "vm" .user) (List.replicate 5 {})
      (w.vm "vm")).isSome = true) : Served.Run linuxHost allowed w₀ w.stopped := by
  obtain ⟨result, ran⟩ := Ran.after _ _ _ played
  exact run.change guard (.forceStop ran)

theorem Served.Run.passed {calls : Nat} {choice : Choice}
    (played : (workingFleet.play (reconcileSSHProxies linuxHost)
      (List.replicate calls choice) w).isSome = true) :
    Served.Run linuxHost allowed w₀ (w.passed calls choice) := by
  obtain ⟨result, ran⟩ := Ran.after _ _ _ played
  exact run.pass ran

end

theorem sshFleet.run_opened (guard : allowed (.start false false) "vm" sshFleet) :
    Served.Run linuxHost allowed sshFleet sshFleet.opened := by
  have started : Served.Run linuxHost allowed sshFleet sshFleet.started :=
    Served.Run.refl.started guard (by decide)
  exact started.passed (by decide)

/-- A VM that is stopped and, after a pass, started again is served. -/
theorem started_again_served : Served linuxHost
      (sshFleet.closed.started.passed 11 { flag := true, wanted := [("vm", sshConfig)] }) := by
  have opened : Served.Run linuxHost startsUnproxied sshFleet sshFleet.opened :=
    sshFleet.run_opened not_mem_nil
  have stopped : Served.Run linuxHost startsUnproxied sshFleet sshFleet.opened.stopped :=
    opened.stopped trivial (by decide)
  have closed : Served.Run linuxHost startsUnproxied sshFleet sshFleet.closed :=
    stopped.passed (by decide)
  have again : Served.Run linuxHost startsUnproxied sshFleet sshFleet.closed.started :=
    closed.started (by unfold startsUnproxied; decide) (by decide)
  obtain ⟨result, ran⟩ := Ran.after (M := workingFleet) (reconcileSSHProxies linuxHost)
    (replicate 11 { flag := true, wanted := [("vm", sshConfig)] }) sshFleet.closed.started
    (by decide)
  exact recorded_ssh_port_served linuxHost sshFleet _ _ result rfl again ran

/-- A VM that is restarted between two passes has a proxy on port 2222 and no port on record. -/
theorem restarted_port_lost : Served.Run linuxHost (fun _ _ _ => True) sshFleet sshFleet.restarted ∧
      ∃ result w', Ran workingFleet (reconcileSSHProxies linuxHost) sshFleet.restarted result w' ∧
        ("vm", 2222) ∈ w'.proxies ∧ (w'.vm "vm").state.sshPort = 0 := by
  have opened : Served.Run linuxHost (fun _ _ _ => True) sshFleet sshFleet.opened :=
    sshFleet.run_opened trivial
  have restarted := (opened.stopped trivial (by decide)).started trivial (by decide)
  exact ⟨restarted, Ran.exists_of_play (M := workingFleet)
    (replicate 7 { proxies := [("vm", 2222)], wanted := [("vm", sshConfig)] })
    _ _ _ (by decide)⟩

end Runs

end SSHProxy

end Vee
