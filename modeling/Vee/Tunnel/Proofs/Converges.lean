import Vee.Misc.Results
import Vee.Tunnel.Proofs.Stable

/-!
# The live tunnels and the registry

What a pass should bring about is stated without the pass. A pass compares the addresses and ports
of a tunnel that is live already, but neither its protocol nor its name, so that a tunnel whose
name has been changed stays routed under the old one.
-/

namespace Vee.Tunnel

open List

/-! ## The target -/

variable (entries : List ListEntry)

/-- The entry of a VM that runs; of several with the name, the last. -/
def runningEntry (vm : String) : Option ListEntry :=
  (entries.filter fun e => e.config.name = vm ∧ e.state.running ∧ e.alive).getLast?

/-- The service that a spec publishes: its VM runs and declares it, with a positive port. -/
def published (spec : TunnelSpec) : Option ServiceEntry :=
  (runningEntry entries spec.vm).bind fun e =>
    ((resolvedServices e.config e.state).find? (·.name = spec.service)).filter (0 < ·.port)

/-- The registered specs that should be live, with their services. -/
def target (registry : List TunnelSpec) : List (TunnelSpec × ServiceEntry) :=
  registry.filterMap fun spec => (published entries spec).map (spec, ·)

structure Serves (t : ActiveTunnel) (p : TunnelSpec × ServiceEntry) : Prop where
  vm : t.spec.vm = p.1.vm
  service : t.spec.service = p.1.service
  bind : t.proxy.bindAddr = p.1.bindAddr
  port : 0 < p.1.port → t.proxy.port = p.1.port
  guestPort : t.guestPort = p.2.port
  protocol : t.protocol = p.2.protocol
  hostname : t.spec.vhost = p.1.vhost

structure Converged (entries : List ListEntry) (registry : List TunnelSpec) (d : Daemon) :
    Prop where
  live : ∃ order, order.Perm d.live ∧ List.Forall₂ Serves order (target entries registry)
  routes : ∀ order, order.Perm d.live → ∀ label t, (activeRoutes order).lookup label = some t →
    ∃ p ∈ target entries registry, Serves t p ∧
      sanitizeHostname p.1.vhost.toList = label ∧ (p.2.protocol = .http ∨ p.2.protocol = .https)

/-- No two of the specs have one key, and a live tunnel that has the addresses and ports of the
spec with its key has the protocol and the name too. -/
structure Current (entries : List ListEntry) (d : Daemon) : Prop where
  distinct : ((target entries d.registry).map (·.1.key)).Nodup
  current : ∀ p ∈ target entries d.registry, ∀ t, d.active.lookup p.1.key = some t →
    t.spec.bindAddr = p.1.bindAddr → t.spec.port = p.1.port → t.guestPort = p.2.port →
    t.spec.vm = p.1.vm ∧ t.spec.service = p.1.service ∧ t.protocol = p.2.protocol ∧
      t.spec.vhost = p.1.vhost

/-! ## What a pass wants -/

theorem runningVMs_lookup (vm : String) :
    (runningVMs entries).lookup vm = runningEntry entries vm := by
  induction entries using reverseRecOn with
  | nil => rfl
  | append_singleton entries e ih =>
    unfold runningVMs runningEntry at ih ⊢
    rw [foldl_append, foldl_cons, foldl_nil, filter_append]
    by_cases runs : e.state.running ∧ e.alive
    · by_cases named : e.config.name = vm
      · subst named
        simp [runs]
      · rw [if_pos runs, AList.lookup_insert_ne (Ne.symm named), ih]
        simp [named]
    · rw [if_neg runs, ih]
      simp [runs]

def wantOf (p : TunnelSpec × ServiceEntry) : Want := ⟨p.1, p.2.port, p.2.protocol⟩

theorem wantTunnel_toOption (spec : TunnelSpec) : (wantTunnel (runningVMs entries) spec).toOption =
      (published entries spec).map fun svc => wantOf (spec, svc) := by
  unfold wantTunnel published
  rw [runningVMs_lookup]
  cases runningEntry entries spec.vm with
  | none => rfl
  | some e =>
    dsimp only [Option.bind_some]
    cases (resolvedServices e.config e.state).find? (·.name = spec.service) with
    | none => rfl
    | some svc =>
      dsimp only
      by_cases positive : 0 < svc.port
      · rw [if_neg (not_le.mpr positive), Option.filter_some, decide_eq_true positive]
        rfl
      · rw [if_pos (not_lt.mp positive), Option.filter_some, decide_eq_false positive]
        rfl

section Wanted

variable {entries : List ListEntry} {registry : List TunnelSpec} {key : Text} {want : Want}
  {p : TunnelSpec × ServiceEntry}

theorem mem_target : p ∈ target entries registry ↔
    p.1 ∈ registry ∧ published entries p.1 = some p.2 := by
  unfold target
  rw [mem_filterMap]
  constructor
  · rintro ⟨spec, mem, made⟩
    obtain ⟨svc, found, rfl⟩ := Option.map_eq_some_iff.mp made
    exact ⟨mem, found⟩
  · rintro ⟨mem, found⟩
    exact ⟨p.1, mem, by rw [found]; rfl⟩

theorem target_of_wanted (found : (planTunnels registry entries).wanted.lookup key = some want) :
    ∃ p ∈ target entries registry, p.1.key = key ∧ want = wantOf p := by
  rw [planTunnels_lookup] at found
  refine of_lastWant
    (P := fun want => ∃ p ∈ target entries registry, p.1.key = key ∧ want = wantOf p)
    (by simp) ?_ found
  intro spec mem want wants
  have both := mem_filter.mp ((mem_insertionSort _).mp mem)
  have publishes := wantTunnel_toOption entries spec
  rw [wants] at publishes
  obtain ⟨svc, found, same⟩ := Option.map_eq_some_iff.mp publishes.symm
  exact ⟨(spec, svc), mem_target.mpr ⟨both.1, found⟩, of_decide_eq_true both.2, same.symm⟩

theorem lastWant_isSome {running : GoMap String ListEntry} {found : Option Want}
    {specs : List TunnelSpec} (some' : found.isSome ∨
      ∃ spec ∈ specs, (wantTunnel running spec).toOption.isSome) :
    (lastWant running found specs).isSome := by
  induction specs generalizing found with
  | nil =>
    rcases some' with before | ⟨spec, mem, _⟩
    · exact before
    · cases mem
  | cons spec specs ih =>
    apply ih
    rw [Option.isSome_or, Bool.or_eq_true]
    rcases some' with before | ⟨other, mem, wants⟩
    · exact .inl (.inr before)
    · rcases mem_cons.mp mem with rfl | later
      · exact .inl (.inl wants)
      · exact .inr ⟨other, later, wants⟩

theorem wanted_of_target (mem : p ∈ target entries registry) :
    ∃ q ∈ target entries registry, q.1.key = p.1.key ∧
      (planTunnels registry entries).wanted.lookup p.1.key = some (wantOf q) := by
  obtain ⟨registered, found⟩ := mem_target.mp mem
  have wanted : ((planTunnels registry entries).wanted.lookup p.1.key).isSome := by
    rw [planTunnels_lookup]
    refine lastWant_isSome (.inr ⟨p.1, ?_, ?_⟩)
    · exact (mem_insertionSort _).mpr (mem_filter.mpr ⟨registered, by simp⟩)
    · rw [wantTunnel_toOption, found]
      rfl
  obtain ⟨want, isWanted⟩ := Option.isSome_iff_exists.mp wanted
  obtain ⟨q, inTarget, same, rfl⟩ := target_of_wanted isWanted
  exact ⟨q, inTarget, same, isWanted⟩

theorem wanted_of_distinct (distinct : ((target entries registry).map (·.1.key)).Nodup)
    (mem : p ∈ target entries registry) :
    (planTunnels registry entries).wanted.lookup p.1.key = some (wantOf p) := by
  obtain ⟨q, inTarget, same, isWanted⟩ := wanted_of_target mem
  obtain rfl : q = p := inj_on_of_nodup_map distinct inTarget mem same
  exact isWanted

end Wanted

/-! ## The live tunnels as a list -/

section Live

variable {d : Daemon}

theorem mem_live {t : ActiveTunnel} : t ∈ d.live ↔ ∃ key, d.active.lookup key = some t := by
  unfold Daemon.live
  rw [mem_map]
  constructor
  · rintro ⟨e, mem, rfl⟩
    exact ⟨e.1, AList.mem_lookup_iff.mpr mem⟩
  · rintro ⟨key, found⟩
    exact ⟨⟨key, t⟩, AList.mem_lookup_iff.mp found, rfl⟩

theorem live_keys (keyed : d.Keyed) : d.live.map (·.spec.key) = d.active.keys := by
  unfold Daemon.live AList.keys keys
  rw [map_map]
  apply map_congr_left
  intro e mem
  exact keyed e.1 e.2 (AList.mem_lookup_iff.mpr mem)

theorem filterMap_lookup_keys : d.active.keys.filterMap d.active.lookup = d.live := by
  unfold Daemon.live AList.keys keys
  rw [filterMap_map, ← filterMap_eq_map]
  apply filterMap_congr
  intro e mem
  exact AList.mem_lookup_iff.mpr mem

end Live

/-! ## One pass -/

def Listening (t : ActiveTunnel) : Prop :=
  t.proxy.bindAddr = t.spec.bindAddr ∧ (0 < t.spec.port → t.proxy.port = t.spec.port)

theorem Want.started_listening (want : Want) (free : Nat) : Listening (want.started free) := by
  refine ⟨rfl, fun positive => ?_⟩
  exact if_neg (not_le.mpr positive)

section Pass

variable {tick : Tick} {entries : List ListEntry} {d d' : Daemon}
  {p : TunnelSpec × ServiceEntry} {t : ActiveTunnel}

theorem honours_wantOf : (wantOf p).honours t = true ↔
    t.spec.bindAddr = p.1.bindAddr ∧ t.spec.port = p.1.port ∧ t.guestPort = p.2.port := by
  unfold Want.honours wantOf
  simp only [Bool.and_eq_true, decide_eq_true_eq, and_assoc]
  exact ⟨fun h => ⟨h.1.symm, h.2.1.symm, h.2.2.symm⟩, fun h => ⟨h.1.symm, h.2.1.symm, h.2.2.symm⟩⟩

theorem serves_started (p : TunnelSpec × ServiceEntry) (free : Nat) :
    Serves ((wantOf p).started free) p :=
  ⟨rfl, rfl, rfl, (Want.started_listening (wantOf p) free).2, rfl, rfl, rfl⟩

/-- After a pass over a current daemon, each spec of the target is served. -/
theorem Passed.serves (passed : Passed tick entries d d') (current : Current entries d)
    (listening : ∀ key t, d.active.lookup key = some t → Listening t)
    (bound : ∀ key want, (d.wanted entries).lookup key = some want →
      Unserved d key want → ∃ free, tick.listen key = .ok free)
    (mem : p ∈ target entries d.registry) :
    ∃ t, d'.active.lookup p.1.key = some t ∧ Serves t p := by
  have isWanted := wanted_of_distinct current.distinct mem
  by_cases starts : Unserved d p.1.key (wantOf p)
  · obtain ⟨free, got⟩ := bound _ _ isWanted starts
    exact ⟨_, (passed.started _ _ free isWanted starts got).1, serves_started p free⟩
  have old : ∃ t, d.active.lookup p.1.key = some t ∧ (wantOf p).honours t = true := by
    simpa [Unserved] using starts
  obtain ⟨t, found, honoured⟩ := old
  obtain ⟨bind, port, guestPort⟩ := honours_wantOf.mp honoured
  obtain ⟨vm, service, protocol, hostname⟩ := current.current p mem t found bind port guestPort
  obtain ⟨listensAt, listensOn⟩ := listening _ t found
  refine ⟨t, (passed.kept _ _ t isWanted found honoured).1, ?_⟩
  exact ⟨vm, service, listensAt.trans bind,
    fun positive => (listensOn (port ▸ positive)).trans port, guestPort, protocol, hostname⟩

theorem Passed.live_of_target (passed : Passed tick entries d d') {key : Text}
    (live : d'.active.lookup key = some t) : ∃ p ∈ target entries d.registry, p.1.key = key := by
  cases isWanted : (d.wanted entries).lookup key with
  | none =>
    rw [(passed.unwanted key isWanted).1] at live
    cases live
  | some want =>
    obtain ⟨p, mem, same, -⟩ := target_of_wanted isWanted
    exact ⟨p, mem, same⟩

theorem forall₂_lookup {ps : List (TunnelSpec × ServiceEntry)}
    (served : ∀ p ∈ ps, ∃ t, d.active.lookup p.1.key = some t ∧ Serves t p) :
    List.Forall₂ Serves ((ps.map (·.1.key)).filterMap d.active.lookup) ps := by
  induction ps with
  | nil => exact .nil
  | cons p ps ih =>
    obtain ⟨t, found, serves⟩ := served p mem_cons_self
    rw [map_cons, filterMap_cons, found]
    exact .cons serves (ih fun q later => served q (mem_cons_of_mem _ later))

theorem web_of_route {label : Text} (routed : t.route = some label) :
    t.protocol = .http ∨ t.protocol = .https := by
  unfold ActiveTunnel.route at routed
  split at routed
  · rename_i web
    exact web.1
  · cases routed

/-- If each spec of the target is served and nothing else is live, the daemon has converged. -/
theorem converged_of_served {registry : List TunnelSpec}
    (distinct : ((target entries registry).map (·.1.key)).Nodup)
    (served : ∀ p ∈ target entries registry, ∃ t, d.active.lookup p.1.key = some t ∧ Serves t p)
    (only : ∀ key t, d.active.lookup key = some t → ∃ p ∈ target entries registry, p.1.key = key) :
    Converged entries registry d := by
  have serving : ∀ {key t}, d.active.lookup key = some t →
      ∃ p ∈ target entries registry, Serves t p := by
    intro key t found
    obtain ⟨p, mem, rfl⟩ := only key t found
    obtain ⟨t', found', serves⟩ := served p mem
    obtain rfl : t' = t := Option.some.inj (found'.symm.trans found)
    exact ⟨p, mem, serves⟩
  refine ⟨⟨((target entries registry).map (·.1.key)).filterMap d.active.lookup, ?_, ?_⟩, ?_⟩
  · rw [← filterMap_lookup_keys]
    refine List.Perm.filterMap _ ((perm_ext_iff_of_nodup distinct d.active.keys_nodup).mpr ?_)
    intro key
    rw [mem_map, ← AList.mem_keys, ← AList.lookup_isSome, Option.isSome_iff_exists]
    constructor
    · rintro ⟨p, mem, rfl⟩
      obtain ⟨t, found, -⟩ := served p mem
      exact ⟨t, found⟩
    · rintro ⟨t, found⟩
      exact only key t found
  · exact forall₂_lookup served
  · intro order ranged label t routed
    have least := tableOf_foldl ActiveTunnel.route (·.spec.key) order label
    rw [← activeRoutes_eq, routed] at least
    obtain ⟨key, found⟩ := mem_live.mp (ranged.mem_iff.mp least.member)
    obtain ⟨p, mem, serves⟩ := serving found
    refine ⟨p, mem, serves, ?_, ?_⟩
    · rw [← serves.hostname]
      exact (route_eq_some least.labelled).1
    · rw [← serves.protocol]
      exact web_of_route least.labelled

theorem Converged.distinct {registry : List TunnelSpec} (converged : Converged entries registry d)
    (keyed : d.Keyed) : ((target entries registry).map (·.1.key)).Nodup := by
  obtain ⟨order, ranged, serves⟩ := converged.live
  have keys : (target entries registry).map (·.1.key) = order.map (·.spec.key) := by
    refine (forall₂_eq_eq_eq ▸ forall₂_map_right_iff.mpr
      (forall₂_map_left_iff.mpr (serves.imp ?_)) :
        order.map (·.spec.key) = (target entries registry).map (·.1.key)).symm
    intro t p serve
    simp only [TunnelSpec.key, serve.vm, serve.service]
  rw [keys, (ranged.map _).nodup_iff, live_keys keyed]
  exact d.active.keys_nodup

theorem Converged.serves {registry : List TunnelSpec} (converged : Converged entries registry d)
    (keyed : d.Keyed) (mem : p ∈ target entries registry)
    (found : d.active.lookup p.1.key = some t) : Serves t p := by
  obtain ⟨order, ranged, serves⟩ := converged.live
  have inOrder : t ∈ order := ranged.mem_iff.mpr (mem_live.mpr ⟨_, found⟩)
  obtain ⟨q, inTarget, serve⟩ := exists_of_mem_forall₂ serves.flip inOrder
  have same : q.1.key = p.1.key := by
    rw [← keyed _ t found]
    simp only [TunnelSpec.key, serve.vm, serve.service]
  obtain rfl : q = p := inj_on_of_nodup_map (converged.distinct keyed) inTarget mem same
  exact serve

end Pass

/-- Every pass in which every bind succeeds brings the live tunnels and the routes in line with
the registry exactly if the specs that should be live have distinct keys, and no live
tunnel has the addresses and ports of its spec but another protocol or name. -/
theorem reconcile_converges_iff {d : Daemon} (reachable : Reachable d) (entries : List ListEntry) :
    (∀ (tick : Tick) (order : List Text), tick.registryError = none →
        tick.entries = .ok entries → AllBound tick d → order.Perm (wantedKeys tick d) →
        Converged entries d.registry (reconcileTunnels tick order d)) ↔
      Current entries d := by
  have listening : ∀ key t, d.active.lookup key = some t → Listening t :=
    reachable.allLive fun want => want.started_listening
  constructor
  · intro converges
    -- one pass in which every bind succeeds tells all
    let tick : Tick := { entries := .ok entries, listen := fun _ => .ok 2300 }
    have passed : Passed tick entries d (reconcileTunnels tick (wantedKeys tick d) d) :=
      reconcile_passed rfl rfl (.refl _)
    have keyed := reconcileTunnels_keyed reachable.keyed tick (wantedKeys tick d)
    have converged := converges tick _ rfl rfl (fun _ _ _ => ⟨2300, by decide, rfl⟩) (.refl _)
    have distinct := converged.distinct keyed
    refine ⟨distinct, fun p member t found bind port guestPort => ?_⟩
    have kept := (passed.kept _ _ t (wanted_of_distinct distinct member) found
      (honours_wantOf.mpr ⟨bind, port, guestPort⟩)).1
    have serve := converged.serves keyed member kept
    exact ⟨serve.vm, serve.service, serve.protocol, serve.hostname⟩
  · intro current tick order readable listed bound ranged
    have passed := reconcile_passed readable listed ranged
    have wantedEq : wantedTunnels tick d = d.wanted entries := by
      simp [wantedTunnels, readable, listed]
    refine converged_of_served current.distinct ?_ fun _ _ => passed.live_of_target
    refine fun p member => passed.serves current listening ?_ member
    intro key want isWanted starts
    obtain ⟨free, -, got⟩ := bound key want ⟨wantedEq ▸ isWanted, starts⟩
    exact ⟨free, got⟩

/-- A tunnel that the daemon starts is as it was registered. -/
theorem started_tunnel_converges : Converged [webEntry] (webDaemon 2300).registry
      (reconcileTunnels webTick webOrder (webDaemon 2300)) := by
  have current : Current [webEntry] (webDaemon 2300) := by
    refine ⟨by decide, ?_⟩
    intro p _ t found
    cases found
  exact (reconcile_converges_iff (.start _) [webEntry]).mpr current webTick webOrder rfl rfl
    (webTick_bound _) (by decide)

/-- A daemon whose registered tunnel has been given another name while it was live. -/
def renamedDaemon : Daemon :=
  { reconcileTunnels webTick webOrder (webDaemon 2300) with
    registry :=
      [{ vm := "web", service := "http", bind := bindLoopback, port := 2300, hostname := "site"
         protocol := .http }] }

theorem renamedDaemon_reachable : Reachable renamedDaemon :=
  .edit _ (.reconcile webTick webOrder (.start _) (by decide))

/-- The tunnel stays routed under its old name. -/
theorem renamed_tunnel_keeps_route :
    Reachable renamedDaemon ∧ webOrder.Perm (wantedKeys webTick renamedDaemon) ∧
      AllBound webTick renamedDaemon ∧
      ¬ Converged [webEntry] renamedDaemon.registry
        (reconcileTunnels webTick webOrder renamedDaemon) := by
  refine ⟨renamedDaemon_reachable, by decide, webTick_bound _, fun converged => ?_⟩
  have routed : ((activeRoutes (reconcileTunnels webTick webOrder renamedDaemon).live).lookup
      "http".toList).isSome := by decide
  obtain ⟨t, found⟩ := Option.isSome_iff_exists.mp routed
  obtain ⟨p, member, -, named, -⟩ := converged.routes _ (.refl _) _ t found
  have only : p.1 ∈ renamedDaemon.registry := (mem_target.mp member).1
  rw [mem_singleton.mp only] at named
  exact absurd named (by decide)

end Vee.Tunnel
