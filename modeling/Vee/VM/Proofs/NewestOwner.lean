import Vee.VM.Proofs.Watchers

/-!
# The owner of the newest run

The watcher of an old run may clean up at any time after a later run has registered its owner.
`deleteIf` leaves such an owner alone.
-/

namespace Vee.Watching

open List Option

/-- The watcher has registered its owner, and has not removed it. -/
def Stage.registered : Stage → Bool
  | .serving | .woken => true
  | _ => false

def Site.serves (s : Site) (id : Nat) : Bool :=
  (s.watchers.find? (·.id = id)).any (·.stage.registered)

section Steps

variable {s s' : Site} {past : List Nat} {g : Goroutine}

theorem serves_spawn (socket : String) : (s.spawn (.qmp socket)).serves = s.serves := by
  funext i
  simp only [Site.serves, Site.spawn, find?_append]
  cases s.watchers.find? (·.id = i) with
  | some g => rfl
  | none => by_cases same : s.nextId = i <;> simp [same, firstStage, Stage.registered]

theorem serves_enter (found : s.watchers.find? (·.id = g.id) = some g) (stage : Stage) :
    (s.enter g.id stage).serves = Function.update s.serves g.id stage.registered := by
  funext i
  have ids : ((fun h : Goroutine => decide (h.id = i)) ∘ fun h =>
      if h.id = g.id then { h with stage := stage } else h) = fun h => decide (h.id = i) := by
    funext h
    by_cases same : h.id = g.id <;> simp [same]
  simp only [Site.serves, Site.enter, find?_map, ids]
  by_cases same : i = g.id
  · simp [same, found]
  · cases there : s.watchers.find? (·.id = i) with
    | none => simp [same, Site.serves, there]
    | some h =>
      have own : h.id = i := by simpa using find?_some there
      simp [own, same, Site.serves, there]

theorem serves_leave (id : Nat) : (s.leave id).serves = Function.update s.serves id false := by
  funext i
  simp only [Site.serves, Site.leave, find?_filter]
  by_cases same : i = id
  · rw [find?_eq_none.mpr (by simp [same]), same, Function.update_self]
    rfl
  · rw [Function.update_of_ne same, Site.serves]
    congr 2
    funext h
    by_cases own : h.id = i <;> simp_all

/-- The entry is the owner that was registered last, while its watcher is alive. -/
structure Current (w : Site × List Nat) : Prop where
  qmp : ∀ g ∈ w.1.watchers, g.stage ≠ .waiting
  entry : w.1.registry = w.2.head?.filter w.1.serves

theorem Current.advance (current : Current (s, past))
    (found : s.watchers.find? (·.id = g.id) = some g) {progress : Progress}
    (advanced : s.advance g progress = some s') :
    Current (s', if progress = .register then g.id :: past else past) := by
  have own : s.serves g.id = g.stage.registered := by simp [Site.serves, found]
  have noVZ : ∀ stage, stage ≠ .waiting →
      ∀ h ∈ (s.enter g.id stage).watchers, h.stage ≠ .waiting := by
    intro stage other h entered
    obtain ⟨h₀, old, -, ⟨-, now⟩ | ⟨-, kept⟩⟩ := mem_enter entered
    · rw [now]
      exact other
    · rw [kept]
      exact current.qmp h₀ old
  have left : ∀ h ∈ (s.leave g.id).watchers, h.stage ≠ .waiting := fun h entered =>
    current.qmp h (mem_filter.mp entered).1
  have entry : s.registry = past.head?.filter s.serves := current.entry
  -- a stage that is registered just as the one before
  have kept : ∀ now, g.stage.registered = now → Function.update s.serves g.id now = s.serves := by
    rintro now rfl
    rw [← own, Function.update_eq_self]
  cases advances advanced with
  | dialled stage =>
    refine ⟨noVZ _ (by decide), ?_⟩
    rw [serves_enter found, kept _ (by rw [stage]; rfl)]
    exact entry
  | refused stage | closed stage =>
    refine ⟨left, ?_⟩
    rw [serves_leave, kept _ (by rw [stage]; rfl)]
    exact entry
  | registered stage =>
    refine ⟨noVZ _ (by decide), ?_⟩
    have serving : (s.enter g.id .serving).serves g.id = true := by
      simp [serves_enter found, Stage.registered]
    exact (filter_some_pos serving).symm
  | woken stage =>
    have serving : g.stage = .serving :=
      stage.resolve_right (current.qmp g (mem_of_find?_eq_some found))
    refine ⟨noVZ _ (by decide), ?_⟩
    rw [serves_enter found, kept _ (by rw [serving]; rfl)]
    exact entry
  | deregistered stage =>
    refine ⟨noVZ _ (by decide), ?_⟩
    have alive : s.serves g.id = true := own.trans (by rw [stage]; rfl)
    change (if s.registry = some g.id then none else s.registry) =
      past.head?.filter (s.enter g.id .closing).serves
    rw [serves_enter found]
    cases head : past.head? with
    | none => simp [entry, head]
    | some last =>
      by_cases same : last = g.id
      · simp [entry, head, same, alive, Stage.registered, filter_some]
      · simp [entry, head, same, filter_some]

theorem current_of_reach {world : World} {c : Pool (Site × List Nat)}
    (reached : Reach successiveRuns (.none _) ⟨[], { world := world }, []⟩ c) :
    Current c.world := by
  let P : Protocol successiveRuns := ⟨.none _, Current, fun _ _ _ => True⟩
  have keeps : P.HostKeeps := by
    rintro event ⟨s, past⟩ w' current - happened
    cases event with
    | launch socket =>
      cases happened
      refine ⟨fun g mem => ?_, ?_⟩
      · rcases mem_append.mp mem with old | new
        · exact current.qmp g old
        · rw [mem_singleton.mp new]
          exact Stage.noConfusion
      · exact current.entry.trans (by rw [serves_spawn])
    | watcher id progress =>
      obtain ⟨g, found, rest⟩ := bind_eq_some_iff.mp happened
      obtain ⟨s', advanced, rfl⟩ := map_eq_some_iff.mp rest
      have own : g.id = id := by simpa using find?_some found
      subst own
      exact current.advance found advanced
    | other world =>
      cases happened
      exact ⟨current.qmp, current.entry⟩
  have start : SafePool P (fun _ _ _ => True) (⟨[], { world := world }, []⟩ :
      Pool (Site × List Nat)) := ⟨⟨nofun, rfl⟩, nofun⟩
  exact (Reach.safe start keeps reached).inv

end Steps

/-- If the runs register their owners in their order, then the newest owner is the one that is
used until its own watcher ends; and when all watchers have ended, none is left. -/
theorem newest_owner_used {world : World} {c : Pool (Site × List Nat)}
    (reached : Reach successiveRuns (.none _) ⟨[], { world := world }, []⟩ c)
    (inOrder : c.world.2.Pairwise (· > ·)) :
    (∀ run ∈ c.world.2, (∀ other ∈ c.world.2, other ≤ run) → c.world.1.serves run = true →
      c.world.1.registry = some run ∧
        ∀ (α : Type) (execute : Nat → Except String α),
          c.world.1.executeQMP execute = execute run) ∧
    ((∀ g ∈ c.world.1.watchers, g.stage.registered = false) → c.world.1.registry = none) := by
  have entry := (current_of_reach reached).entry
  constructor
  · intro run member newest serves
    have registry : c.world.1.registry = some run := by
      rw [entry]
      cases past : c.world.2 with
      | nil => simp [past] at member
      | cons last rest =>
        rw [past] at member newest inOrder
        rcases mem_cons.mp member with rfl | earlier
        · exact filter_some_pos serves
        · have less := (pairwise_cons.mp inOrder).1 run earlier
          have most := newest last mem_cons_self
          omega
    refine ⟨registry, fun α execute => ?_⟩
    rw [Site.executeQMP, registry]
  · intro ended
    rw [entry, filter_eq_none_iff]
    intro last _ serves
    obtain ⟨g, found, alive⟩ := (any_eq_true _ _).mp serves
    rw [ended g (mem_of_find?_eq_some found)] at alive
    cases alive

/-- The guest reboots: the second run registers its owner before the watcher of the first one
cleans up, and is still the one that is used. -/
theorem rebooted_owner_used : ∃ c : Pool (Site × List Nat),
      Reach successiveRuns (.none _) ⟨[], { world := adoptedVM "qemu" "a.sock" "" }, []⟩ c ∧
        c.world.2 = [1, 0] ∧ c.world.1.registry = some 1 := by
  refine Reach.exists_of_runs
    (.map .env [.launch "a.sock", .watcher 0 (.dial true), .watcher 0 .register, .watcher 0 .wake,
      .launch "b.sock", .watcher 1 (.dial true), .watcher 1 .register, .watcher 0 .deregister])
    (fun c => c.world.2 = [1, 0] ∧ c.world.1.serves 1) (by decide) ?_
  rintro c reached ⟨past, serves⟩
  have used := newest_owner_used reached (by simp [past])
  exact ⟨past, (used.1 1 (by simp [past]) (by simp [past]) serves).1⟩

end Vee.Watching
