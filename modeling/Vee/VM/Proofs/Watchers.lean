import Mathlib.Data.List.Nodup
import Vee.Misc.RelyGuarantee
import Vee.Misc.Sequential
import Vee.VM.Watchers

/-!
# Watchers accumulate

On every tick the daemon adopts the VMs that run. For a vz guest nothing tells it that it has done
so before, and each tick leaves one more watcher. For a QEMU guest the registry does, but a watcher
enters it only after its dial, which may take longer than a tick.
-/

namespace Vee.Watching

open List

open Prog (attempt forEach)

/-- The registry is consulted only when no watcher is still on its way into it. -/
def dialsFirst (pid : Nat) (backend : Backend) : Guard (oneRun pid backend) where
  run _ op _ s := op = .query .ownerRegistered →
    ∀ g ∈ s.watchers, g.stage ≠ .dialing ∧ g.stage ≠ .dialled

instance (op : Call) : Decidable (op = .query .ownerRegistered) := by
  cases op with
  | query q => exact decidable_of_iff (q = .ownerRegistered) (by simp)
  | _ => exact isFalse nofun

instance (pid : Nat) (backend : Backend) : (dialsFirst pid backend).Decides where
  run _ _ _ _ := inferInstanceAs (Decidable (_ → _))
  env _ _ := isTrue trivial

/-! ### The watchers -/

section Watchers

variable {s s' : Site} {id : Nat}

/-- At most one watcher is on the socket, and one that serves is in the registry. -/
structure Single (s : Site) : Prop where
  ids : (s.watchers.map (·.id)).Nodup
  fresh : ∀ g ∈ s.watchers, g.id < s.nextId
  qmp : ∀ g ∈ s.watchers, g.stage ≠ .waiting
  one : ∀ g ∈ s.watchers, ∀ g' ∈ s.watchers, g.stage.onSocket = true → g'.stage.onSocket = true →
    g.id = g'.id
  registered : ∀ g ∈ s.watchers, g.stage = .serving → s.registry = some g.id

variable {g : Goroutine} {stage : Stage} {progress : Progress}

theorem mem_enter (mem : g ∈ (s.enter id stage).watchers) : ∃ g₀ ∈ s.watchers, g.id = g₀.id ∧
      ((g₀.id = id ∧ g.stage = stage) ∨ (g₀.id ≠ id ∧ g.stage = g₀.stage)) := by
  obtain ⟨g₀, old, rfl⟩ := mem_map.mp mem
  refine ⟨g₀, old, ?_⟩
  split
  · rename_i here
    exact ⟨rfl, .inl ⟨here, rfl⟩⟩
  · rename_i other
    exact ⟨rfl, .inr ⟨other, rfl⟩⟩

theorem enter_ids (stage : Stage) :
    (s.enter id stage).watchers.map (·.id) = s.watchers.map (·.id) := by
  simp only [Site.enter, map_map]
  refine map_congr_left fun g _ => ?_
  simp only [Function.comp_apply]
  split <;> rfl

section

variable (single : Single s)

include single

theorem Single.unique {g' : Goroutine} (mem : g ∈ s.watchers) (member' : g' ∈ s.watchers)
    (same : g.id = g'.id) : g = g' :=
  inj_on_of_nodup_map single.ids mem member' same

theorem Single.blocked_le_one : s.blocked.length ≤ 1 := by
  match shape : s.blocked with
  | [] => simp
  | [_] => simp
  | g :: g' :: rest =>
    have sub : s.blocked.Sublist s.watchers := filter_sublist
    have ids := single.ids.sublist (sub.map (·.id))
    rw [shape] at ids
    have onSocket : ∀ h ∈ s.blocked, h ∈ s.watchers ∧ h.stage.onSocket = true :=
      fun _ => mem_filter.mp
    obtain ⟨mem, blocked⟩ := onSocket g (by simp [shape])
    obtain ⟨member', blocked'⟩ := onSocket g' (by simp [shape])
    have same := single.one g mem g' member' blocked blocked'
    simp [same] at ids

theorem Single.leave (id : Nat) : Single (s.leave id) := by
  have sub : ∀ g ∈ (s.leave id).watchers, g ∈ s.watchers := fun g mem =>
    (mem_filter.mp mem).1
  exact ⟨single.ids.sublist (filter_sublist.map _), fun g mem => single.fresh g (sub g mem),
    fun g mem => single.qmp g (sub g mem),
    fun g mem g' member' => single.one g (sub g mem) g' (sub g' member'),
    fun g mem => single.registered g (sub g mem)⟩

/-- A goroutine that comes further, and what the registry is then. -/
theorem Single.enter (mem : g ∈ s.watchers) (registry : Option Nat) (noVZ : stage ≠ .waiting)
    (stays : stage.onSocket = true → g.stage.onSocket = true)
    (serves : stage = .serving → registry = some g.id)
    (others : ∀ g' ∈ s.watchers, g'.id ≠ g.id → g'.stage = .serving → registry = some g'.id) :
    Single { s.enter g.id stage with registry := registry } := by
  have from_old : ∀ h ∈ (s.enter g.id stage).watchers, ∃ h₀ ∈ s.watchers, h.id = h₀.id ∧
      (h.stage.onSocket = true → h₀.stage.onSocket = true) := by
    intro h entered
    obtain ⟨h₀, old, same, ⟨here, now⟩ | ⟨-, kept⟩⟩ := mem_enter entered
    · refine ⟨h₀, old, same, fun on => ?_⟩
      rw [single.unique old mem here]
      exact stays (now ▸ on)
    · exact ⟨h₀, old, same, fun on => kept ▸ on⟩
  refine ⟨?_, fun h entered => ?_, fun h entered => ?_, ?_, fun h entered serving => ?_⟩
  · change ((s.enter g.id stage).watchers.map (·.id)).Nodup
    rw [enter_ids]
    exact single.ids
  · obtain ⟨h₀, old, same, -⟩ := from_old h entered
    rw [same]
    exact single.fresh h₀ old
  · obtain ⟨h₀, old, same, ⟨here, now⟩ | ⟨-, kept⟩⟩ := mem_enter entered
    · rw [now]
      exact noVZ
    · rw [kept]
      exact single.qmp h₀ old
  · intro h entered h' entered' on on'
    obtain ⟨h₀, old, same, was⟩ := from_old h entered
    obtain ⟨h₀', old', same', was'⟩ := from_old h' entered'
    rw [same, same']
    exact single.one h₀ old h₀' old' (was on) (was' on')
  · obtain ⟨h₀, old, same, ⟨here, now⟩ | ⟨other, kept⟩⟩ := mem_enter entered
    · rw [same, here]
      exact serves (now ▸ serving)
    · rw [same]
      exact others h₀ old other (kept ▸ serving)

theorem Single.alone (mem : g ∈ s.watchers) (on : g.stage.onSocket = true) :
    ∀ g' ∈ s.watchers, g'.id ≠ g.id → g'.stage ≠ .serving := by
  intro g' member' other serving
  exact other (single.one g' member' g mem (by simp [serving, Stage.onSocket]) on)

end

/-- A step of a watcher, by what it changes. -/
inductive Advances (s : Site) (g : Goroutine) : Progress → Site → Prop where
  | dialled (stage : g.stage = .dialing) : Advances s g (.dial true) (s.enter g.id .dialled)
  | refused (stage : g.stage = .dialing) : Advances s g (.dial false) (s.leave g.id)
  | registered (stage : g.stage = .dialled) :
    Advances s g .register { s.enter g.id .serving with registry := some g.id }
  | woken (stage : g.stage = .serving ∨ g.stage = .waiting) :
    Advances s g .wake (s.enter g.id .woken)
  | deregistered (stage : g.stage = .woken) :
    Advances s g .deregister ((s.enter g.id .closing).deleteIf g.id)
  | closed (stage : g.stage = .closing) : Advances s g .close (s.leave g.id)

theorem advances (advanced : s.advance g progress = some s') : Advances s g progress s' := by
  unfold Site.advance at advanced
  split at advanced <;> split at advanced <;> cases advanced <;> constructor <;> assumption

theorem Single.advance (single : Single s) (mem : g ∈ s.watchers)
    (advanced : s.advance g progress = some s') : Single s' := by
  have kept : ∀ g' ∈ s.watchers, g'.id ≠ g.id → g'.stage = .serving →
      s.registry = some g'.id := fun g' member' _ => single.registered g' member'
  cases advances advanced with
  | dialled stage =>
    exact single.enter mem s.registry (by decide) (fun _ => by rw [stage]; rfl) nofun kept
  | refused | closed => exact single.leave g.id
  | registered stage =>
    refine single.enter mem _ (by decide) (fun _ => by rw [stage]; rfl) (fun _ => rfl) ?_
    intro g' member' other serving
    exact absurd serving (single.alone mem (by rw [stage]; rfl) g' member' other)
  | woken => exact single.enter mem s.registry (by decide) nofun nofun kept
  | deregistered =>
    refine single.enter mem _ (by decide) nofun nofun fun g' member' other serving => ?_
    have own := single.registered g' member' serving
    change (if s.registry = some g.id then none else s.registry) = some g'.id
    rw [own, if_neg (by simpa using other)]

def Free (s : Site) : Prop := ∀ g ∈ s.watchers, g.stage.onSocket = false

theorem Single.free (single : Single s) (none : s.registry = none)
    (dialled : ∀ g ∈ s.watchers, g.stage ≠ .dialing ∧ g.stage ≠ .dialled) : Free s := by
  intro g mem
  have noVZ := single.qmp g mem
  obtain ⟨notDialing, notDialled⟩ := dialled g mem
  have notServing : g.stage ≠ .serving := fun serving => by
    have own := single.registered g mem serving
    rw [none] at own
    cases own
  cases stage : g.stage <;> simp_all [Stage.onSocket]

theorem Single.spawn (single : Single s) (free : Free s) (socket : String) :
    Single (s.spawn (.qmp socket)) := by
  have cases_mem : ∀ g ∈ (s.spawn (.qmp socket)).watchers,
      g ∈ s.watchers ∨ g = ⟨s.nextId, .qmp socket, .dialing⟩ := by
    intro g mem
    rcases mem_append.mp mem with old | new
    · exact .inl old
    · exact .inr (mem_singleton.mp new)
  have absent : s.nextId ∉ s.watchers.map (·.id) := by
    intro mem
    obtain ⟨g, old, same⟩ := mem_map.mp mem
    exact absurd (single.fresh g old) (by omega)
  refine ⟨?_, fun g mem => ?_, fun g mem => ?_, fun g mem g' member' on on' => ?_,
    fun g mem serving => ?_⟩
  · simp only [Site.spawn, map_append, map_singleton]
    refine nodup_append.mpr ⟨single.ids, by simp, fun i old j new same => ?_⟩
    exact absent (mem_singleton.mp new ▸ same ▸ old)
  · change g.id < s.nextId + 1
    rcases cases_mem g mem with old | rfl
    · exact Nat.lt_succ_of_lt (single.fresh g old)
    · exact Nat.lt_succ_self _
  · rcases cases_mem g mem with old | rfl
    · exact single.qmp g old
    · exact Stage.noConfusion
  · rcases cases_mem g mem with old | rfl
    · rw [free g old] at on
      cases on
    · rcases cases_mem g' member' with old | rfl
      · rw [free g' old] at on'
        cases on'
      · rfl
  · rcases cases_mem g mem with old | rfl
    · exact single.registered g old serving
    · cases serving

end Watchers

/-! ### The daemon -/

section Daemon

variable {pid : Nat} {backend : Backend} {s s' : Site}

/-- Nothing but the watchers and the daemon, which is program 0, changes a site. -/
def protocol (pid : Nat) (backend : Backend) : Protocol (oneRun pid backend) where
  guard := dialsFirst pid backend
  inv s := InRun pid backend s.world ∧ Single s
  guar i _ _ := i = 0

variable {g : Goroutine} {progress : Progress}

theorem advance_world (advanced : s.advance g progress = some s') : s'.world = s.world := by
  cases advances advanced <;> rfl

theorem hostKeeps : (protocol pid backend).HostKeeps := by
  rintro event s s' ⟨run, single⟩ - happened
  cases event with
  | watcher id progress =>
    obtain ⟨g, found, advanced⟩ := Option.bind_eq_some_iff.mp happened
    refine ⟨?_, single.advance (mem_of_find?_eq_some found) advanced⟩
    rw [advance_world advanced]
    exact run
  | other world =>
    obtain ⟨run', same⟩ := Option.ite_none_right_eq_some.mp happened
    cases same
    exact ⟨run', single.ids, single.fresh, single.qmp, single.one, single.registered⟩

/-- A watcher that is not on the socket does not come back to it. -/
theorem Free.advance (free : Free s) (mem : g ∈ s.watchers)
    (advanced : s.advance g progress = some s') : Free s' := by
  have off := free g mem
  have left : Free (s.leave g.id) := fun h entered => free h (mem_filter.mp entered).1
  have further : ∀ stage : Stage, stage.onSocket = false → Free (s.enter g.id stage) := by
    intro stage offStage h entered
    obtain ⟨h₀, old, -, ⟨-, now⟩ | ⟨-, kept⟩⟩ := mem_enter entered
    · rw [now]
      exact offStage
    · rw [kept]
      exact free h₀ old
  cases advances advanced with
  | dialled stage | registered stage =>
    rw [stage] at off
    cases off
  | refused | closed => exact left
  | woken => exact further .woken rfl
  | deregistered => exact further .closing rfl

theorem free_stable : (protocol pid backend).Stable 0 Free := by
  rintro s s' free ⟨-, -, ⟨j, other, promised⟩ | ⟨event, -, happened⟩⟩
  · exact absurd promised other
  · cases event with
    | watcher id progress =>
      obtain ⟨g, found, advanced⟩ := Option.bind_eq_some_iff.mp happened
      exact free.advance (mem_of_find?_eq_some found) advanced
    | other world =>
      obtain ⟨-, same⟩ := Option.ite_none_right_eq_some.mp happened
      cases same
      exact free

theorem read_call (op : Call) (after : op.Res → Prop)
    (reads : ∀ (s : Site) (ans : Answer) (res : op.Res) (s' : Site), InRun pid backend s.world →
      exec op ans s = some (res, s') → s' = s ∧ after res) :
    (protocol pid backend).Triple 0 (fun _ => True) op fun res _ => after res := by
  refine ⟨Protocol.const_stable _ 0 True, fun s ans res s' inv _ _ ran => ?_⟩
  obtain ⟨rfl, known⟩ := reads s ans res s' inv.1 ran
  exact ⟨inv, rfl, known⟩

theorem loadConfig_call :
    (protocol pid backend).Triple 0 (fun _ => True) .loadConfig fun _ _ => True := by
  refine read_call .loadConfig (fun _ => True) fun s ans res s' _ ran => ?_
  cases ran
  exact ⟨rfl, trivial⟩

theorem listAllConfigs_call :
    (protocol pid backend).Triple 0 (fun _ => True) .listAllConfigs fun _ _ => True := by
  refine read_call .listAllConfigs (fun _ => True) fun s ans res s' _ ran => ?_
  cases ran
  exact ⟨rfl, trivial⟩

structure OfRun (pid : Nat) (backend : Backend) (state : VMState) : Prop where
  running : state.running = true
  process : state.pid = pid
  backend : state.backendName = backend

theorem loadState_call : (protocol pid backend).Triple 0 (fun _ => True) .loadState
    fun found _ => ∀ state, found = .ok state → OfRun pid backend state := by
  refine read_call .loadState (fun found => ∀ state, found = .ok state → OfRun pid backend state)
    fun s ans res s' run ran => ?_
  cases ran
  refine ⟨rfl, fun state loaded => ?_⟩
  simp only [Answer.orFail] at loaded
  split at loaded <;> cases loaded
  exact ⟨run.running, run.process, run.backend⟩

theorem processAlive_call : (protocol pid backend).Triple 0 (fun _ => True) (.processAlive pid)
    fun alive _ => alive = true := by
  refine read_call (.processAlive pid) (fun alive => alive = true) fun s ans res s' run ran => ?_
  cases ran
  exact ⟨rfl, by simpa using run.alive.2⟩

/-- The end of a program, where nothing but its result matters. -/
theorem ends {α : Type} {result : Except String α} {fact : Except String α → Prop}
    (holds : fact result) : Safe (protocol pid backend) 0 (fun r _ => fact r) (.done result) s :=
  .done (Protocol.const_stable _ 0 _) holds

theorem isAlive_safe (positive : pid ≠ 0) :
    Safe (protocol pid backend) 0 (fun r _ => r = .ok true) (isAlive pid) s := by
  rw [isAlive, if_neg positive]
  refine Safe.triple processAlive_call trivial fun alive s live => ends ?_
  rw [live]

theorem start_safe (positive : pid ≠ 0) (host : Platform) (name : String) :
    Safe (protocol pid backend) 0 (fun r _ => ∃ text, r = .error text)
      (start host name false false 0) s := by
  refine Safe.triple loadConfig_call trivial fun found s _ => ?_
  cases found with
  | error text => exact ends ⟨_, rfl⟩
  | ok cfg =>
    refine Safe.triple loadState_call trivial fun found s loaded => ?_
    cases found with
    | error text => exact ends ⟨_, rfl⟩
    | ok state =>
      obtain ⟨running, rfl, -⟩ := loaded state rfl
      have refused : ∀ s, Safe (protocol state.pid backend) 0 (fun r _ => ∃ text, r = .error text)
          (checkNotRunning name cfg state) s := by
        intro s
        rw [checkNotRunning, if_pos running]
        refine (isAlive_safe positive).bind (fun _ _ => nofun) fun alive s live => ?_
        cases live
        exact ends ⟨_, rfl⟩
      exact (refused s).bind (fun text _ _ => ⟨text, rfl⟩)
        fun _ _ ⟨_, impossible⟩ => nomatch impossible

theorem startAutoStartVMs_safe (positive : pid ≠ 0) (host : Platform) :
    Keeps (protocol pid backend) 0 (startAutoStartVMs host) s := by
  have starts : ∀ cfg s, Keeps (protocol pid backend) 0 (daemonStart host cfg) s := by
    intro cfg s
    refine Safe.attempt_bind (start_safe positive host cfg.name) fun result s _ => ?_
    cases result <;> exact Keeps.ended _
  have each : ∀ cfg s, Keeps (protocol pid backend) 0 (autoStartVM host cfg) s := by
    intro cfg s
    refine Safe.triple loadState_call trivial fun found s loaded => ?_
    cases found with
    | error text => exact starts cfg s
    | ok state =>
      obtain ⟨running, rfl, -⟩ := loaded state rfl
      change Keeps _ 0 (recordedAlive state >>= _) s
      rw [recordedAlive, if_pos running]
      refine Safe.bind (isAlive_safe positive) (fun _ _ _ => trivial) fun alive s live => ?_
      cases live
      exact Keeps.ended _
  have listed : Keeps (protocol pid backend) 0 listAutoStart s := by
    refine Safe.triple listAllConfigs_call trivial fun found s _ => ?_
    cases found <;> exact Keeps.ended _
  refine Keeps.bind listed fun cfgs s => Keeps.bind (Keeps.forEach each _ s) fun errors s => ?_
  split <;> exact Keeps.ended _

def Reported (pid : Nat) (backend : Backend) (state : VMState) : Prop :=
  state.running = true → OfRun pid backend state

section

variable (positive : pid ≠ 0)

include positive

theorem list_safe : Safe (protocol pid backend) 0
      (fun r _ => ∀ entries, r = .ok entries → ∀ e ∈ entries, Reported pid backend e.2) list s := by
  have each : ∀ cfg s, Safe (protocol pid backend) 0
      (fun r _ => ∃ e, r = .ok e ∧ Reported pid backend e.2) (listEntry cfg) s := by
    intro cfg s
    refine Safe.triple loadState_call trivial fun found s loaded => ?_
    cases found with
    | error text => exact ends ⟨_, rfl, nofun⟩
    | ok state =>
      have recorded := loaded state rfl
      obtain ⟨running, rfl, -⟩ := recorded
      change Safe _ 0 _ (if state.running then _ else _) s
      rw [if_pos running]
      refine (isAlive_safe positive).bind (fun _ _ => nofun) fun alive s live => ?_
      cases live
      exact ends ⟨_, rfl, fun _ => loaded state rfl⟩
  have loop : ∀ cfgs s, Safe (protocol pid backend) 0
      (fun r _ => ∃ entries, r = .ok entries ∧ ∀ e ∈ entries, Reported pid backend e.2)
      (forEach listEntry cfgs) s := by
    intro cfgs
    induction cfgs with
    | nil => exact fun s => ends ⟨[], rfl, forall_mem_nil _⟩
    | cons cfg cfgs ih =>
      intro s
      refine (each cfg s).bind (fun _ _ ⟨_, impossible, _⟩ => nomatch impossible) ?_
      rintro entry s ⟨_, ⟨⟩, reported⟩
      refine (ih s).bind (fun _ _ ⟨_, impossible, _⟩ => nomatch impossible) ?_
      rintro entries s ⟨_, ⟨⟩, all⟩
      exact ends ⟨_, rfl, forall_mem_cons.mpr ⟨reported, all⟩⟩
  refine Safe.triple listAllConfigs_call trivial fun found s _ => ?_
  cases found with
  | error text => exact ends nofun
  | ok cfgs =>
    refine (loop cfgs s).mono ?_
    rintro result s ⟨entries, rfl, all⟩ _ ⟨⟩
    exact all

section

variable (qemu : backend ≠ .vz)

include qemu

/-- An adoption on QEMU: the registry is empty only if nobody watches. -/
theorem adoptVM_safe {state : VMState} (reported : Reported pid backend state) :
    Keeps (protocol pid backend) 0 (adoptVM state) s := by
  unfold adoptVM
  split
  · exact Keeps.ended _
  rename_i running
  obtain ⟨-, rfl, rfl⟩ := reported (by simpa using running)
  rw [if_neg qemu]
  split
  · exact Keeps.ended _
  refine Safe.bind (isAlive_safe positive) (fun _ _ _ => trivial) fun alive s live => ?_
  cases live
  refine Safe.call (fun _ => True) trivial (Protocol.const_stable _ 0 True) ?_
  intro s ans owned s' inv _ dialled ran
  cases ran
  refine ⟨inv, rfl, ?_⟩
  cases registry : s.registry with
  | some owner => exact Keeps.ended _
  | none =>
    refine Safe.call Free (inv.2.free registry (dialled rfl)) free_stable ?_
    intro s ans res s' inv free _ ran
    cases ran
    exact ⟨⟨inv.1, inv.2.spawn free _⟩, rfl, Keeps.ended _⟩

theorem adoptRunningVMs_safe : Keeps (protocol pid backend) 0 adoptRunningVMs s := by
  refine Safe.attempt_bind (list_safe positive) fun found s reported => ?_
  cases found with
  | error text => exact Keeps.ended _
  | ok entries =>
    have loop : ∀ left s, left ⊆ entries →
        Keeps (protocol pid backend) 0 (forEach (fun e => adoptVM e.2) left) s := by
      intro left
      induction left with
      | nil => exact fun s _ => Keeps.ended _
      | cons e left ih =>
        intro s among
        have here := reported entries rfl e (among mem_cons_self)
        refine Keeps.bind (adoptVM_safe positive qemu here) fun _ s => ?_
        refine Keeps.bind (ih s fun _ mem => among (mem_cons_of_mem _ mem)) fun _ s => ?_
        exact Keeps.ended _
    exact (loop entries s fun _ => id).bind fun _ s => Keeps.ended _

theorem tick_safe (host : Platform) : Keeps (protocol pid backend) 0 (tick host) s := by
  refine Keeps.attempt_bind (startAutoStartVMs_safe positive host) fun _ s => ?_
  refine Keeps.bind (adoptRunningVMs_safe positive qemu) fun _ s => ?_
  refine Safe.attempt_bind (list_safe positive) fun _ s _ => Keeps.ended _

theorem runDaemon_safe (host : Platform) (ticks : Nat) :
    Keeps (protocol pid backend) 0 (runDaemon host ticks) s := by
  refine Keeps.bind (adoptRunningVMs_safe positive qemu) fun _ s => ?_
  refine Keeps.attempt_bind (startAutoStartVMs_safe positive host) fun _ s => ?_
  refine Safe.attempt_bind (list_safe positive) fun _ s _ => ?_
  exact (Keeps.forEach (fun _ s => tick_safe positive qemu host) _ s).bind fun _ s => Keeps.ended _

end

end

theorem Site.Begins.single (begins : s.Begins pid backend) (qemu : backend ≠ .vz) : Single s := by
  have nextId := begins.nextId
  rcases begins.watchers with none | ⟨socket, started⟩
  · refine ⟨?_, ?_, ?_, ?_, ?_⟩ <;> simp [none]
  · rw [startWatcher, if_neg qemu] at started
    refine ⟨?_, ?_, ?_, ?_, ?_⟩ <;> simp [started, nextId]

end Daemon

/-- If no dial is under way whenever the registry is consulted, then after any number of ticks, and
at any time, a QEMU guest has one watcher at most. -/
theorem one_watcher_at_most (host : Platform) (ticks pid : Nat) (backend : Backend) (s : Site)
    (c : Pool Site) (qemu : backend ≠ .vz) (begins : s.Begins pid backend)
    (reached : Reach (oneRun pid backend) (dialsFirst pid backend) ⟨[runDaemon host ticks], s⟩ c) :
    c.world.blocked.length ≤ 1 := by
  have pool : SafePool (protocol pid backend) (fun _ _ _ => True) ⟨[runDaemon host ticks], s⟩ := by
    refine ⟨⟨begins.run, begins.single qemu⟩, fun i p found => ?_⟩
    obtain ⟨rfl, rfl⟩ : i = 0 ∧ p = runDaemon host ticks := by
      cases i with
      | zero => exact ⟨rfl, (Option.some.inj found).symm⟩
      | succ i => cases found
    exact runDaemon_safe begins.run.alive.1 qemu host ticks
  exact (Reach.safe pool hostKeeps reached).inv.2.blocked_le_one

/-! ### A QEMU guest that is adopted, and a vz guest that is adopted again and again -/

/-- A guest that was started by another process. -/
def adoptedVM (backend qmpSocket controlSocket : String) : World where
  config := { name := "vm", backend := backend }
  state :=
    { pid := 1, backend := backend, qmpSocket := qmpSocket, controlSocket := controlSocket,
      running := true, desiredState := .running }
  alive := [1]
  nextPid := 2

/-- A QEMU guest is adopted, its watcher dials, and the next tick finds it in the registry. -/
theorem adopted_once : ∃ c, Reach (oneRun 1 .qemu) (dialsFirst 1 .qemu)
        ⟨[runDaemon linuxHost 1], ⟨adoptedVM "qemu" "qmp.sock" "", [], none, 0⟩⟩ c ∧
      c.world.watchers ≠ [] ∧ c.world.blocked.length ≤ 1 := by
  refine Reach.exists_of_runs
    (replicate 6 (.run 0 {}) ++ [.env (.watcher 0 (.dial true)), .env (.watcher 0 .register)] ++
      replicate 10 (.run 0 {})) (fun c => c.world.watchers ≠ []) (by decide) ?_
  exact fun c reached watched => ⟨watched, one_watcher_at_most linuxHost 1 1 .qemu _ c (by decide)
    ⟨by decide, rfl, .inl rfl, rfl⟩ reached⟩

section Accumulate

def vzVM : World := adoptedVM "vz" "" "control.sock"

variable {s : Site}

/-- An adoption leaves one more watcher, however many there are. -/
theorem vzVM_adopted (here : s.world = vzVM) :
    Ran (oneRun 1 .vz) adoptRunningVMs s (.ok ()) (s.spawn (.vz "control.sock")) := by
  obtain ⟨world, watchers, registry, nextId⟩ := s
  cases here
  exact .of_play (replicate 5 ({} : Answer)) rfl

theorem vzVM_tick (host : Platform) (here : s.world = vzVM) :
    Ran (oneRun 1 .vz) (tick host) s (.ok ()) (s.spawn (.vz "control.sock")) := by
  obtain ⟨world, watchers, registry, nextId⟩ := s
  cases here
  exact .of_play (replicate 9 ({} : Answer)) rfl

theorem blocked_spawn (s : Site) (socket : String) :
    (s.spawn (.vz socket)).blocked.length = s.blocked.length + 1 := by
  simp [Site.blocked, Site.spawn, firstStage, Stage.onSocket]

theorem vzVM_ticks (host : Platform) (ticks : List Nat) : ∀ s : Site, s.world = vzVM →
    ∃ values s', Ran (oneRun 1 .vz) (forEach (fun _ => tick host) ticks) s (.ok values) s' ∧
      s'.blocked.length = s.blocked.length + ticks.length := by
  induction ticks with
  | nil => exact fun s _ => ⟨[], s, .done, rfl⟩
  | cons t ticks ih =>
    intro s here
    obtain ⟨values, s', ran, grown⟩ := ih (s.spawn (.vz "control.sock")) here
    refine ⟨_, s', (vzVM_tick host here).bind (ran.bind .done), ?_⟩
    rw [grown, blocked_spawn, length_cons]
    omega

theorem vzVM_daemon (host : Platform) (ticks : Nat) (here : s.world = vzVM) :
    ∃ s', Ran (oneRun 1 .vz) (runDaemon host ticks) s (.ok ()) s' ∧
      s'.blocked.length = s.blocked.length + 1 + ticks := by
  have unchanged : ∀ s : Site, s.world = vzVM →
      Ran (oneRun 1 .vz) (attempt (startAutoStartVMs host)) s (.ok (.ok ())) s ∧
        Ran (oneRun 1 .vz) (attempt list) s (.ok (.ok [(vzVM.config, vzVM.state)])) s := by
    rintro ⟨world, watchers, registry, nextId⟩ here
    cases here
    exact ⟨.of_play [({} : Answer)] rfl, .of_play (replicate 3 ({} : Answer)) rfl⟩
  obtain ⟨autostart, counted⟩ := unchanged (s.spawn (.vz "control.sock")) here
  obtain ⟨values, s', ran, grown⟩ :=
    vzVM_ticks host (range ticks) (s.spawn (.vz "control.sock")) here
  refine ⟨s', (vzVM_adopted here).bind (autostart.bind (counted.bind (ran.bind .done))), ?_⟩
  rw [grown, blocked_spawn, length_range]

end Accumulate

/-- The watchers of a vz guest grow with the number of ticks: no number bounds them. -/
theorem vz_watchers_accumulate :
    ¬ ∃ bound, ∀ (host : Platform) (ticks pid : Nat) (backend : Backend) (s : Site)
      (c : Pool Site), s.Begins pid backend →
      Reach (oneRun pid backend) (.none _) ⟨[runDaemon host ticks], s⟩ c →
      c.world.blocked.length ≤ bound := by
  rintro ⟨bound, all⟩
  have begins : Site.Begins 1 .vz ⟨vzVM, [], none, 0⟩ := ⟨by decide, rfl, .inl rfl, rfl⟩
  obtain ⟨s', ran, grown⟩ := vzVM_daemon (s := ⟨vzVM, [], none, 0⟩) linuxHost bound rfl
  have bounded := all linuxHost bound 1 .vz _ _ begins ran.reach
  rw [grown] at bounded
  omega

end Vee.Watching
