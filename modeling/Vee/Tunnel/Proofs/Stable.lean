import Mathlib.Data.Prod.Lex
import Vee.Misc.StableSort
import Vee.Tunnel.Proofs.HostBound

/-!
# An idle daemon

When nothing changes between two passes, the second one finds the listeners as it wants them,
except for a tunnel that was registered without a port: the first pass saves the port it got, and
the next one takes it for a change, closes the listener and opens it again.
-/

namespace Vee.Tunnel

open List

abbrev Daemon.wanted (d : Daemon) (entries : List ListEntry) : GoMap Text Want :=
  (planTunnels d.registry entries).wanted

/-! ## The registry by key -/

/-- The order of `sortSpecs`. -/
def specLE (a b : TunnelSpec) : Prop :=
  a.vm.toList < b.vm.toList ∨ a.vm = b.vm ∧ a.service.toList ≤ b.service.toList
deriving Decidable

variable (key : Text) (specs : List TunnelSpec)

theorem sortSpecs_eq : sortSpecs specs = specs.insertionSort specLE := rfl

theorem specLE_iff {a b : TunnelSpec} :
    specLE a b ↔ toLex (a.vm.toList, a.service.toList) ≤ toLex (b.vm.toList, b.service.toList) := by
  simp [specLE, Prod.Lex.toLex_le_toLex, String.toList_inj]

instance : Std.Total specLE := ⟨fun a b => by simp only [specLE_iff]; exact le_total _ _⟩

instance : IsTrans TunnelSpec specLE :=
  ⟨fun _ _ _ first second => specLE_iff.mpr ((specLE_iff.mp first).trans (specLE_iff.mp second))⟩

def entriesOf : List TunnelSpec :=
  sortSpecs (specs.filter (·.key = key))

theorem filter_sortSpecs : (sortSpecs specs).filter (·.key = key) = entriesOf key specs := by
  rw [sortSpecs_eq, filter_insertionSort]
  rfl

theorem entriesOf_sortSpecs : entriesOf key (sortSpecs specs) = entriesOf key specs := by
  unfold entriesOf
  rw [filter_sortSpecs, entriesOf]
  exact insertionSort_insertionSort (r := specLE) _

/-- Adding replaces the entries with the key of the spec, and no others. -/
theorem entriesOf_registryAdd (spec : TunnelSpec) (specs : List TunnelSpec) :
    entriesOf key (registryAdd spec specs) =
      if spec.key = key then [spec] else entriesOf key specs := by
  unfold registryAdd
  rw [entriesOf_sortSpecs, entriesOf, filter_append]
  split
  · rename_i same
    have none : (specs.filter (·.key ≠ spec.key)).filter (·.key = key) = [] := by
      simp [filter_filter, ← same]
    rw [none, nil_append, filter_cons_of_pos (by simp [same]), filter_nil]
    rfl
  · rename_i other
    have kept : (specs.filter (·.key ≠ spec.key)).filter (·.key = key) =
        specs.filter (·.key = key) := by
      rw [filter_filter]
      refine filter_congr fun s _ => ?_
      by_cases same : s.key = key
      · simp [same, Ne.symm other]
      · simp [same]
    rw [kept, filter_cons_of_neg (by simp [other]), filter_nil, append_nil, entriesOf]

/-! ## What is wanted -/

def lastWant (running : GoMap String ListEntry) (found : Option Want) (specs : List TunnelSpec) :
    Option Want :=
  specs.foldl (fun found spec => (wantTunnel running spec).toOption.or found) found

theorem Plan.add_lookup (running : GoMap String ListEntry) (plan : Plan) (spec : TunnelSpec)
    (key : Text) :
    (plan.add running spec).wanted.lookup key =
      if spec.key = key then (wantTunnel running spec).toOption.or (plan.wanted.lookup key)
      else plan.wanted.lookup key := by
  unfold Plan.add
  by_cases same : spec.key = key
  · subst same
    cases wantTunnel running spec <;> simp [Except.toOption]
  · cases wantTunnel running spec
    · simp [same]
    · simp [same, AList.lookup_insert_ne (Ne.symm same)]

theorem planTunnels_lookup (entries : List ListEntry) (key : Text) :
    (planTunnels specs entries).wanted.lookup key =
      lastWant (runningVMs entries) none (entriesOf key specs) := by
  have general : ∀ (specs : List TunnelSpec) (plan : Plan),
      (specs.foldl (Plan.add (runningVMs entries)) plan).wanted.lookup key =
        lastWant (runningVMs entries) (plan.wanted.lookup key) (specs.filter (·.key = key)) := by
    intro specs
    induction specs with
    | nil => exact fun plan => rfl
    | cons spec specs ih =>
      intro plan
      rw [foldl_cons, ih, Plan.add_lookup]
      by_cases same : spec.key = key
      · simp [same, lastWant]
      · simp [same]
  unfold planTunnels
  rw [general, filter_sortSpecs]
  rfl

/-! ## One pass -/

variable {tick : Tick} {wanted : GoMap Text Want} {active : GoMap Text ActiveTunnel}
  {d d' : Daemon} {key k : Text} {want : Want} {t : ActiveTunnel}

theorem eraseAll_lookup (test : (_ : Text) × ActiveTunnel → Bool)
    (entries : List ((_ : Text) × ActiveTunnel)) (m : GoMap Text ActiveTunnel) :
    (entries.foldl (fun kept e => if test e then kept else kept.erase e.1) m).lookup key =
      if entries.any fun e => e.1 = key && !test e then none else m.lookup key := by
  induction entries generalizing m with
  | nil => rfl
  | cons e entries ih =>
    rw [foldl_cons, ih, any_cons]
    cases kept : test e with
    | true => rw [if_pos rfl, Bool.not_true, Bool.and_false, Bool.false_or]
    | false =>
      rw [if_neg Bool.false_ne_true, Bool.not_false, Bool.and_true]
      by_cases same : e.1 = key
      · subst same
        simp
      · rw [decide_eq_false same, Bool.false_or, AList.lookup_erase_ne (Ne.symm same)]

/-- The listeners that stay are those that can honour what is wanted. -/
theorem stopUnwanted_lookup_eq : (stopUnwanted wanted active).lookup key =
      (active.lookup key).filter fun t => (wanted.lookup key).any (·.honours t) := by
  unfold stopUnwanted
  rw [eraseAll_lookup fun e => (wanted.lookup e.1).any (·.honours e.2)]
  have bad : (active.entries.any fun e => e.1 = key && !(wanted.lookup e.1).any (·.honours e.2)) =
      (active.lookup key).any fun t => !(wanted.lookup key).any (·.honours t) := by
    rw [Bool.eq_iff_iff, any_eq_true, Option.any_eq_true]
    constructor
    · rintro ⟨⟨other, u⟩, listed, test⟩
      simp only [Bool.and_eq_true, decide_eq_true_eq] at test
      obtain ⟨rfl, test⟩ := test
      exact ⟨u, AList.mem_lookup_iff.mpr listed, test⟩
    · rintro ⟨u, found, test⟩
      exact ⟨⟨key, u⟩, AList.mem_lookup_iff.mp found, by simpa using test⟩
  rw [bad]
  cases active.lookup key with
  | none => rfl
  | some t =>
    rw [Option.any_some, Option.filter_some]
    cases (wanted.lookup key).any (·.honours t) <;> rfl

structure AgreeAt (k : Text) (d d' : Daemon) : Prop where
  active : d.active.lookup k = d'.active.lookup k
  registry : entriesOf k d.registry = entriesOf k d'.registry

theorem AgreeAt.refl (k : Text) (d : Daemon) : AgreeAt k d d := ⟨rfl, rfl⟩

theorem AgreeAt.trans {d'' : Daemon} (first : AgreeAt k d d') (second : AgreeAt k d' d'') :
    AgreeAt k d d'' :=
  ⟨first.active.trans second.active, first.registry.trans second.registry⟩

theorem startTunnel_of_live (live : d.active.lookup key = some t) :
    startTunnel tick wanted d key = d := by
  simp [startTunnel, live]

theorem startTunnel_of_unwanted (unwanted : wanted.lookup key = none) :
    startTunnel tick wanted d key = d := by
  unfold startTunnel
  rw [unwanted]
  cases d.active.lookup key <;> rfl

variable {free : Nat} {order : List Text} {running : GoMap String ListEntry}

theorem startTunnel_eq (absent : d.active.lookup key = none)
    (isWanted : wanted.lookup key = some want) (bound : tick.listen key = .ok free) :
    startTunnel tick wanted d key = { d with
        active := d.active.insert key (want.started free)
        registry :=
          if (want.portOf free ≠ want.spec.port ∨ want.spec.protocol ≠ want.protocol) ∧
              tick.saves key then registryAdd (want.updated free) d.registry
          else d.registry } := by
  unfold startTunnel
  rw [absent, isWanted]
  simp only [bound]

theorem startTunnel_of_wanted (absent : d.active.lookup key = none)
    (isWanted : wanted.lookup key = some want) (keyed : want.spec.key = key)
    (bound : tick.listen key = .ok free) :
    (startTunnel tick wanted d key).active.lookup key = some (want.started free) ∧
      entriesOf key (startTunnel tick wanted d key).registry =
        if (want.portOf free ≠ want.spec.port ∨ want.spec.protocol ≠ want.protocol) ∧
            tick.saves key then [want.updated free]
        else entriesOf key d.registry := by
  rw [startTunnel_eq absent isWanted bound]
  refine ⟨AList.lookup_insert _, ?_⟩
  have updatedKey : (want.updated free).key = key := keyed
  split
  · rw [entriesOf_registryAdd, if_pos updatedKey]
  · rfl

section

variable (wantedKeyed : WantedKeyed wanted)

include wantedKeyed

theorem startTunnel_other (other : k ≠ key) : AgreeAt k (startTunnel tick wanted d key) d := by
  cases live : d.active.lookup key with
  | some t => rw [startTunnel_of_live live]; exact .refl k d
  | none =>
    cases isWanted : wanted.lookup key with
    | none => rw [startTunnel_of_unwanted isWanted]; exact .refl k d
    | some want =>
      cases bound : tick.listen key with
      | error text => simpa [startTunnel, live, isWanted, bound] using ⟨rfl, rfl⟩
      | ok free =>
        rw [startTunnel_eq live isWanted bound]
        refine ⟨AList.lookup_insert_ne other, ?_⟩
        have otherKey : (want.updated free).key ≠ k := by
          intro same
          exact other (same.symm.trans (wantedKeyed key want isWanted))
        split
        · rw [entriesOf_registryAdd, if_neg otherKey]
        · rfl

theorem startTunnel_congr (agree : AgreeAt k d d') :
    AgreeAt k (startTunnel tick wanted d k) (startTunnel tick wanted d' k) := by
  cases live : d.active.lookup k with
  | some t => rwa [startTunnel_of_live live, startTunnel_of_live (agree.active ▸ live)]
  | none =>
    have live' : d'.active.lookup k = none := agree.active ▸ live
    cases isWanted : wanted.lookup k with
    | none => rwa [startTunnel_of_unwanted isWanted, startTunnel_of_unwanted isWanted]
    | some want =>
      cases bound : tick.listen k with
      | error text => simpa [startTunnel, live, live', isWanted, bound] using ⟨agree.1, agree.2⟩
      | ok free =>
        have keyed := wantedKeyed k want isWanted
        obtain ⟨active, registry⟩ := startTunnel_of_wanted live isWanted keyed bound
        obtain ⟨active', registry'⟩ := startTunnel_of_wanted live' isWanted keyed bound
        exact ⟨active.trans active'.symm, by rw [registry, registry', agree.registry]⟩

theorem startAll_other (other : k ∉ order) :
    AgreeAt k (order.foldl (startTunnel tick wanted) d) d := by
  induction order generalizing d with
  | nil => exact .refl k d
  | cons key order ih =>
    simp only [mem_cons, not_or] at other
    exact (ih other.2).trans (startTunnel_other wantedKeyed other.1)

/-- For each key, the whole loop does what its own round does. -/
theorem startAll_mem (distinct : order.Nodup) (mem : k ∈ order) :
    AgreeAt k (order.foldl (startTunnel tick wanted) d) (startTunnel tick wanted d k) := by
  induction order generalizing d with
  | nil => cases mem
  | cons key order ih =>
    obtain ⟨first, rest⟩ := nodup_cons.mp distinct
    rcases mem_cons.mp mem with rfl | later
    · exact startAll_other wantedKeyed first
    · have other : k ≠ key := fun same => first (same ▸ later)
      exact (ih rest later).trans
        (startTunnel_congr wantedKeyed (startTunnel_other wantedKeyed other))

end

theorem wantTunnel_respec {spec spec' : TunnelSpec} (wants : wantTunnel running spec = .ok want)
    (vm : spec'.vm = spec.vm) (service : spec'.service = spec.service) :
    wantTunnel running spec' = .ok { want with spec := spec' } := by
  unfold wantTunnel at wants ⊢
  rw [vm, service]
  split at wants
  · cases wants
  split at wants
  · cases wants
  · split at wants
    · cases wants
    · rename_i positive
      cases wants
      simp [*]

theorem of_lastWant {P : Want → Prop} {found : Option Want} {specs : List TunnelSpec}
    (before : ∀ want, found = some want → P want)
    (each : ∀ spec ∈ specs, ∀ want, wantTunnel running spec = .ok want → P want)
    (last : lastWant running found specs = some want) : P want := by
  induction specs generalizing found with
  | nil => exact before want last
  | cons spec specs ih =>
    refine ih ?_ (fun other mem => each other (mem_cons_of_mem _ mem)) last
    intro other made
    dsimp only at made
    cases wants : wantTunnel running spec with
    | error text =>
      rw [wants] at made
      exact before other made
    | ok new =>
      rw [wants] at made
      obtain rfl : new = other := Option.some.inj made
      exact each spec mem_cons_self new wants

def wantedTunnels (tick : Tick) (d : Daemon) : GoMap Text Want :=
  match tick.registryError, tick.entries with
  | none, .ok entries => (planTunnels d.registry entries).wanted
  | _, _ => ∅

def Unserved (d : Daemon) (key : Text) (want : Want) : Prop :=
  ∀ t, d.active.lookup key = some t → want.honours t = false

def Starts (tick : Tick) (d : Daemon) (key : Text) (want : Want) : Prop :=
  (wantedTunnels tick d).lookup key = some want ∧ Unserved d key want

def AllBound (tick : Tick) (d : Daemon) : Prop :=
  ∀ key want, Starts tick d key want → ∃ port, 0 < port ∧ tick.listen key = .ok port

/-- What a pass does to the host. -/
inductive Effect where
  | close (key : Text)
  | listen (key : Text)
  | save (spec : TunnelSpec)
  deriving DecidableEq, Repr

def stopEffects (wanted : GoMap Text Want) (active : GoMap Text ActiveTunnel) :
    List Effect :=
  (active.entries.filter fun e => !(wanted.lookup e.1).any (·.honours e.2)).map (.close ·.1)

/-- The effects of one round of the loop that starts tunnels. -/
def startEffects (tick : Tick) (wanted : GoMap Text Want) (d : Daemon) (key : Text) :
    List Effect :=
  match d.active.lookup key, wanted.lookup key with
  | none, some want =>
    match tick.listen key with
    | .error _ => []
    | .ok free =>
      .listen key ::
        if want.portOf free ≠ want.spec.port ∨ want.spec.protocol ≠ want.protocol then
          [.save (want.updated free)]
        else []
  | _, _ => []

def startAllEffects (tick : Tick) (wanted : GoMap Text Want) :
    List Text → Daemon → List Effect
  | [], _ => []
  | key :: rest, d =>
    startEffects tick wanted d key ++
      startAllEffects tick wanted rest (startTunnel tick wanted d key)

/-- The effects of `reconcileTunnels`, in their order. -/
def effects (tick : Tick) (order : List Text) (d : Daemon) : List Effect :=
  match tick.registryError, tick.entries with
  | none, .ok entries =>
    let plan := planTunnels d.registry entries
    stopEffects plan.wanted d.active ++
      startAllEffects tick plan.wanted order
        { d with active := stopUnwanted plan.wanted d.active, inactive := plan.reasons }
  | _, _ => []

theorem startTunnel_of_quiet (quiet : startEffects tick wanted d key = []) :
    (startTunnel tick wanted d key).active = d.active ∧
      (startTunnel tick wanted d key).registry = d.registry := by
  unfold startEffects at quiet
  unfold startTunnel
  split at quiet
  · split at quiet
    · simp [*]
    · cases quiet
  · simp [*]

theorem startAll_of_quiet {order : List Text}
    (quiet : startAllEffects tick wanted order d = []) :
    (order.foldl (startTunnel tick wanted) d).active = d.active ∧
      (order.foldl (startTunnel tick wanted) d).registry = d.registry := by
  induction order generalizing d with
  | nil => exact ⟨rfl, rfl⟩
  | cons key order ih =>
    obtain ⟨first, rest⟩ := append_eq_nil_iff.mp quiet
    obtain ⟨active, registry⟩ := startTunnel_of_quiet first
    exact ⟨(ih rest).1.trans active, (ih rest).2.trans registry⟩

/-! ## Two passes -/

section Passes

variable {entries : List ListEntry} {order : List Text}

theorem planTunnels_wants (found : (d.wanted entries).lookup key = some want) :
    wantTunnel (runningVMs entries) want.spec = .ok want := by
  rw [planTunnels_lookup] at found
  refine of_lastWant (P := fun want => wantTunnel _ want.spec = .ok want) (by simp) ?_ found
  intro spec _ want wants
  rw [wantTunnel_spec wants, wants]

theorem Starts.mem_registry (starts : Starts tick d key want) : want.spec ∈ d.registry := by
  have isWanted := starts.1
  unfold wantedTunnels at isWanted
  split at isWanted
  · rw [planTunnels_lookup] at isWanted
    refine of_lastWant (P := fun want => want.spec ∈ d.registry) (by simp) ?_ isWanted
    intro spec mem want wants
    rw [wantTunnel_spec wants]
    exact mem_of_mem_filter ((mem_insertionSort _).mp mem)
  · cases isWanted

/-- The daemon when the loop that starts tunnels begins. -/
def stopped (d : Daemon) (entries : List ListEntry) : Daemon :=
  { d with
    active := stopUnwanted (planTunnels d.registry entries).wanted d.active
    inactive := (planTunnels d.registry entries).reasons }

structure Passed (tick : Tick) (entries : List ListEntry) (d d' : Daemon) : Prop where
  unwanted : ∀ k, (planTunnels d.registry entries).wanted.lookup k = none →
    d'.active.lookup k = none ∧ entriesOf k d'.registry = entriesOf k d.registry
  kept : ∀ k want t, (planTunnels d.registry entries).wanted.lookup k = some want →
    d.active.lookup k = some t → want.honours t = true →
    d'.active.lookup k = some t ∧ entriesOf k d'.registry = entriesOf k d.registry
  started : ∀ k want free, (planTunnels d.registry entries).wanted.lookup k = some want →
    Unserved d k want → tick.listen k = .ok free →
    d'.active.lookup k = some (want.started free) ∧
      entriesOf k d'.registry =
        if (want.portOf free ≠ want.spec.port ∨ want.spec.protocol ≠ want.protocol) ∧
            tick.saves k then [want.updated free]
        else entriesOf k d.registry

theorem startAll_passed (ranged : order.Perm (d.wanted entries).keys) :
    Passed tick entries d (order.foldl (startTunnel tick (d.wanted entries))
        (stopped d entries)) := by
  have keyed : WantedKeyed (d.wanted entries) := planTunnels_keyed _ _
  have distinct : order.Nodup := ranged.nodup_iff.mpr (AList.keys_nodup _)
  have inOrder : ∀ {k want}, (d.wanted entries).lookup k = some want →
      k ∈ order := by
    intro k want found
    rw [ranged.mem_iff, ← AList.mem_keys, ← AList.lookup_isSome, found]
    rfl
  have ownRound : ∀ {k}, k ∈ order →
      AgreeAt k (order.foldl (startTunnel tick (d.wanted entries))
          (stopped d entries))
        (startTunnel tick (d.wanted entries) (stopped d entries) k) :=
    fun mem => startAll_mem keyed distinct mem
  have live : ∀ k, (stopped d entries).active.lookup k = (d.active.lookup k).filter fun t =>
      ((d.wanted entries).lookup k).any (·.honours t) := fun k =>
    stopUnwanted_lookup_eq
  refine ⟨?_, ?_, ?_⟩
  · intro k unwanted
    have absent : k ∉ order := by
      rw [ranged.mem_iff, ← AList.mem_keys, ← AList.lookup_isSome, unwanted]
      simp
    have same : AgreeAt k (order.foldl (startTunnel tick _) (stopped d entries))
        (stopped d entries) := startAll_other keyed absent
    refine ⟨same.active.trans ?_, same.registry⟩
    rw [live, unwanted]
    cases d.active.lookup k <;> rfl
  · intro k want t isWanted found honoured
    have still : (stopped d entries).active.lookup k = some t := by
      rw [live, isWanted, found, Option.filter_some, Option.any_some, honoured]
      rfl
    have own := ownRound (inOrder isWanted)
    rw [startTunnel_of_live still] at own
    exact ⟨own.active.trans still, own.registry⟩
  · intro k want free isWanted old bound
    have gone : (stopped d entries).active.lookup k = none := by
      rw [live, isWanted]
      cases found : d.active.lookup k with
      | none => rfl
      | some t => rw [Option.filter_some, Option.any_some, old t found]; rfl
    have own := ownRound (inOrder isWanted)
    obtain ⟨active, registry⟩ := startTunnel_of_wanted gone isWanted (keyed k want isWanted) bound
    exact ⟨own.active.trans active, own.registry.trans registry⟩

theorem reconcile_passed (readable : tick.registryError = none)
    (listed : tick.entries = .ok entries) (ranged : order.Perm (wantedKeys tick d)) :
    Passed tick entries d (reconcileTunnels tick order d) := by
  have keys : wantedKeys tick d = (d.wanted entries).keys := by
    simp [wantedKeys, readable, listed]
  have result : reconcileTunnels tick order d =
      order.foldl (startTunnel tick (d.wanted entries))
        (stopped d entries) := by
    simp [reconcileTunnels, readable, listed, stopped]
  rw [result]
  exact startAll_passed (keys ▸ ranged)

/-- Under a key whose entries are as before, the next pass wants the same. -/
theorem wanted_of_same (same : entriesOf k d'.registry = entriesOf k d.registry) :
    (planTunnels d'.registry entries).wanted.lookup k =
      (d.wanted entries).lookup k := by
  rw [planTunnels_lookup, planTunnels_lookup, same]

/-- Under a key whose entry has been saved, the next pass wants the saved spec. -/
theorem wanted_of_saved (wants : wantTunnel (runningVMs entries) want.spec = .ok want)
    (saved : entriesOf k d'.registry = [want.updated free]) :
    (planTunnels d'.registry entries).wanted.lookup k =
      some { want with spec := want.updated free } := by
  rw [planTunnels_lookup, saved]
  have again : wantTunnel (runningVMs entries) (want.updated free) =
      .ok { want with spec := want.updated free } := wantTunnel_respec wants rfl rfl
  simp [lastWant, again, Except.toOption]

theorem honours_started (want : Want) (free : Nat) : want.honours (want.started free) = true := by
  simp [Want.honours, Want.started]

theorem honours_updated (want : Want) (free : Nat) :
    Want.honours { want with spec := want.updated free } (want.started free) =
      decide (want.portOf free = want.spec.port) := by
  have bind : (want.updated free).bindAddr = want.spec.bindAddr := rfl
  have port : (want.updated free).port = want.portOf free := rfl
  simp only [Want.honours, Want.started, bind, port, decide_true, Bool.true_and, Bool.and_true]

/-- A port that is given to a tunnel registered without one is a change. -/
theorem Want.portOf_eq_iff {want : Want} (positive : 0 < free) :
    want.portOf free = want.spec.port ↔ 0 < want.spec.port := by
  unfold Want.portOf
  split
  · constructor
    · intro same
      omega
    · intro port
      omega
  · constructor
    · intro _
      omega
    · exact fun _ => rfl

/-- After a pass each wanted tunnel is live, and the next pass is content with it unless it was
started without a port and has been saved with one. -/
theorem Passed.next (passed : Passed tick entries d d')
    (isWanted : (d.wanted entries).lookup k = some want)
    (bound : Unserved d k want → ∃ free, 0 < free ∧ tick.listen k = .ok free) :
    ∃ t want', d'.active.lookup k = some t ∧
      (planTunnels d'.registry entries).wanted.lookup k = some want' ∧
      (want'.honours t = true ↔
        (Unserved d k want → 0 < want.spec.port ∨ tick.saves k = false)) := by
  by_cases starts : Unserved d k want
  · obtain ⟨free, positive, got⟩ := bound starts
    obtain ⟨live, registry⟩ := passed.started k want free isWanted starts got
    by_cases saved : (want.portOf free ≠ want.spec.port ∨ want.spec.protocol ≠ want.protocol) ∧
        tick.saves k = true
    · rw [if_pos saved] at registry
      refine ⟨_, _, live, wanted_of_saved (planTunnels_wants isWanted) registry, ?_⟩
      rw [honours_updated, decide_eq_true_iff, Want.portOf_eq_iff positive]
      simp [starts, saved.2]
    · rw [if_neg saved] at registry
      refine ⟨_, want, live, (wanted_of_same registry).trans isWanted, ?_⟩
      simp only [honours_started, true_iff]
      intro _
      by_contra neither
      simp only [not_or, Bool.not_eq_false] at neither
      exact saved ⟨.inl fun same => neither.1 ((Want.portOf_eq_iff positive).mp same), neither.2⟩
  · have old : ∃ t, d.active.lookup k = some t ∧ want.honours t = true := by
      simpa [Unserved] using starts
    obtain ⟨t, found, honoured⟩ := old
    obtain ⟨live, registry⟩ := passed.kept k want t isWanted found honoured
    exact ⟨t, want, live, (wanted_of_same registry).trans isWanted, by simp [honoured, starts]⟩

theorem stopEffects_eq_nil : stopEffects wanted active = [] ↔
    ∀ k t, active.lookup k = some t → ∃ want, wanted.lookup k = some want ∧ want.honours t := by
  simp only [stopEffects, map_eq_nil_iff, filter_eq_nil_iff, Bool.not_eq_true',
    Bool.not_eq_false, Option.any_eq_true]
  constructor
  · exact fun all k t found => all ⟨k, t⟩ (AList.mem_lookup_iff.mp found)
  · exact fun all e mem => all e.1 e.2 (AList.mem_lookup_iff.mpr mem)

/-- The effects are all that a pass does: without any, the live tunnels and the registry are as
before. -/
theorem reconcile_of_quiet (quiet : effects tick order d = []) :
    (∀ k, (reconcileTunnels tick order d).active.lookup k = d.active.lookup k) ∧
      (reconcileTunnels tick order d).registry = d.registry := by
  unfold effects at quiet
  unfold reconcileTunnels
  cases fine : tick.registryError with
  | some err => exact ⟨fun _ => rfl, rfl⟩
  | none =>
    cases listed : tick.entries with
    | error err => exact ⟨fun _ => rfl, rfl⟩
    | ok entries =>
      rw [fine, listed] at quiet
      obtain ⟨noClose, noStart⟩ := append_eq_nil_iff.mp quiet
      obtain ⟨active, registry⟩ := startAll_of_quiet noStart
      refine ⟨fun k => ?_, registry⟩
      rw [active, stopUnwanted_lookup_eq]
      cases found : d.active.lookup k with
      | none => rfl
      | some t =>
        obtain ⟨want, isWanted, honoured⟩ := stopEffects_eq_nil.mp noClose k t found
        rw [isWanted, Option.filter_some, Option.any_some, honoured]
        rfl

theorem startAllEffects_eq_nil
    (live : ∀ k want, wanted.lookup k = some want → ∃ t, d.active.lookup k = some t)
    (order : List Text) : startAllEffects tick wanted order d = [] := by
  induction order with
  | nil => rfl
  | cons key order ih =>
    unfold startAllEffects
    cases isWanted : wanted.lookup key with
    | none =>
      rw [startTunnel_of_unwanted isWanted, ih, append_nil, startEffects, isWanted]
      cases d.active.lookup key <;> rfl
    | some want =>
      obtain ⟨t, found⟩ := live key want isWanted
      rw [startTunnel_of_live found, ih, append_nil, startEffects, found]

/-- A pass over a daemon whose live tunnels are just those that are wanted does nothing. -/
theorem effects_eq_nil (fine : tick.registryError = none) (listed : tick.entries = .ok entries)
    (honoured : ∀ k t, d.active.lookup k = some t →
      ∃ want, (d.wanted entries).lookup k = some want ∧ want.honours t)
    (live : ∀ k want, (d.wanted entries).lookup k = some want →
      ∃ t, d.active.lookup k = some t) (order : List Text) : effects tick order d = [] := by
  unfold effects
  rw [fine, listed]
  simp only
  rw [stopEffects_eq_nil.mpr honoured, nil_append]
  refine startAllEffects_eq_nil ?_ order
  intro k want isWanted
  obtain ⟨t, found⟩ := live k want isWanted
  obtain ⟨want', isWanted', keeps⟩ := honoured k t found
  refine ⟨t, ?_⟩
  rw [stopUnwanted_lookup_eq, found, isWanted', Option.filter_some, Option.any_some, keeps]
  rfl

end Passes

/-- The pass that follows one in which every bind succeeded closes no listener, opens none and
saves nothing, exactly if the first one saved no port for a tunnel that was registered
without. -/
theorem reconcile_stable_iff {tick next : Tick} {order order' : List Text} {d : Daemon}
    (ranged : order.Perm (wantedKeys tick d)) (bound : AllBound tick d)
    (sameRegistry : next.registryError = tick.registryError)
    (sameVMs : next.entries = tick.entries) :
    effects next order' (reconcileTunnels tick order d) = [] ↔
      ∀ key want, Starts tick d key want → 0 < want.spec.port ∨ tick.saves key = false := by
  cases unreadable : tick.registryError with
  | some text => simp [effects, Starts, wantedTunnels, sameRegistry, unreadable]
  | none =>
    cases listed : tick.entries with
    | error text => simp [effects, Starts, wantedTunnels, sameVMs, sameRegistry, unreadable, listed]
    | ok entries =>
      have wantedEq : wantedTunnels tick d = d.wanted entries := by
        simp [wantedTunnels, unreadable, listed]
      have passed := reconcile_passed unreadable listed ranged
      generalize reconcileTunnels tick order d = d' at passed ⊢
      have after : ∀ {k want}, (d.wanted entries).lookup k = some want →
          ∃ t want', d'.active.lookup k = some t ∧
            (planTunnels d'.registry entries).wanted.lookup k = some want' ∧
            (want'.honours t = true ↔
              (Unserved d k want → 0 < want.spec.port ∨ tick.saves k = false)) :=
        fun isWanted => passed.next isWanted fun starts => bound _ _ ⟨wantedEq ▸ isWanted, starts⟩
      constructor
      · rintro quiet key want ⟨isWanted, starts⟩
        obtain ⟨t, want', live, isWanted', content⟩ := after (wantedEq ▸ isWanted)
        unfold effects at quiet
        rw [sameRegistry, sameVMs, unreadable, listed] at quiet
        obtain ⟨want'', same, honoured⟩ :=
          stopEffects_eq_nil.mp (append_eq_nil_iff.mp quiet).1 key t live
        rw [isWanted'] at same
        exact content.mp (Option.some.inj same ▸ honoured) starts
      · intro condition
        refine effects_eq_nil (sameRegistry.trans unreadable) (sameVMs.trans listed) ?_ ?_ order'
        · intro k t found
          cases isWanted : (d.wanted entries).lookup k with
          | none => rw [(passed.unwanted k isWanted).1] at found; cases found
          | some want =>
            obtain ⟨t', want', live, isWanted', content⟩ := after isWanted
            obtain rfl : t' = t := Option.some.inj (live.symm.trans found)
            refine ⟨want', isWanted', content.mpr fun starts => condition k want ⟨?_, starts⟩⟩
            exact wantedEq ▸ isWanted
        · intro k want' isWanted'
          cases isWanted : (d.wanted entries).lookup k with
          | none =>
            rw [wanted_of_same (passed.unwanted k isWanted).2, isWanted] at isWanted'
            cases isWanted'
          | some want =>
            obtain ⟨t, _, live, _⟩ := after isWanted
            exact ⟨t, live⟩

/-- Go ranges over the wanted tunnels in any order. As long as the host answers alike for each of
them, every order leaves the same live tunnel and the same specs under each key. -/
theorem reconcile_order_irrelevant (tick : Tick) (d : Daemon) {order order' : List Text}
    (ranged : order.Perm (wantedKeys tick d)) (ranged' : order'.Perm (wantedKeys tick d))
    (k : Text) :
    AgreeAt k (reconcileTunnels tick order d) (reconcileTunnels tick order' d) := by
  unfold wantedKeys at ranged ranged'
  unfold reconcileTunnels
  split
  · rename_i entries readable listed
    simp only [readable, listed] at ranged ranged'
    have keyed : WantedKeyed (d.wanted entries) := planTunnels_keyed _ _
    have own : ∀ {order : List Text}, order.Perm (d.wanted entries).keys →
        AgreeAt k (order.foldl (startTunnel tick (d.wanted entries)) (stopped d entries))
          (if k ∈ (d.wanted entries).keys then
            startTunnel tick (d.wanted entries) (stopped d entries) k
          else stopped d entries) := by
      intro order ranged
      split
      · rename_i mem
        exact startAll_mem keyed (ranged.nodup_iff.mpr (AList.keys_nodup _))
          (ranged.mem_iff.mpr mem)
      · rename_i absent
        exact startAll_other keyed (mt ranged.mem_iff.mp absent)
    exact ⟨(own ranged).active.trans (own ranged').active.symm,
      (own ranged).registry.trans (own ranged').registry.symm⟩
  · exact .refl k d

/-- Two tunnels, started in either order. -/
theorem two_orders_agree :
    let d : Daemon := { registry := [mediaTunnel.spec, nasTunnel.spec] }
    let order := ["media/web".toList, "nas/web".toList]
    AgreeAt "nas/web".toList (reconcileTunnels bothRun order d)
      (reconcileTunnels bothRun order.reverse d) :=
  reconcile_order_irrelevant _ _ (by decide) (by decide) _

def webEntry : ListEntry where
  config := { name := "web", services := [⟨"http", 80, .http⟩] }
  state := { running := true, pid := 7 }
  alive := true

/-- A pass that finds the VM running, with port 2300 free. -/
def webTick : Tick where
  entries := .ok [webEntry]
  listen _ := .ok 2300

theorem webTick_bound (d : Daemon) : AllBound webTick d := fun _ _ _ => ⟨2300, by decide, rfl⟩

def webDaemon (port : Int) : Daemon where
  registry :=
    [{ vm := "web", service := "http", bind := bindLoopback, port := port, hostname := "http"
       protocol := .http }]

def webOrder : List Text := ["web/http".toList]

/-- A tunnel that was registered with its port stays up. -/
theorem ported_tunnel_stays :
    effects webTick webOrder (reconcileTunnels webTick webOrder (webDaemon 2300)) = [] := by
  refine (reconcile_stable_iff ?_ (webTick_bound _) rfl rfl).mpr ?_
  · decide
  · intro key want starts
    left
    rw [mem_singleton.mp starts.mem_registry]
    decide

/-- A tunnel that was registered without a port is closed by the next pass and opened again. -/
theorem portless_tunnel_reopened : Reachable (webDaemon 0) ∧
      webOrder.Perm (wantedKeys webTick (webDaemon 0)) ∧ AllBound webTick (webDaemon 0) ∧
      effects webTick webOrder (reconcileTunnels webTick webOrder (webDaemon 0)) =
        [.close "web/http".toList, .listen "web/http".toList] :=
  ⟨.start _, by decide, webTick_bound _, by decide⟩

end Vee.Tunnel
