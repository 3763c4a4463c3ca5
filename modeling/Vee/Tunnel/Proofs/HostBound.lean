import Mathlib
import Vee.Misc.LeastEntry
import Vee.Tunnel.Router

/-!
# What the router serves to the network

`activeRoutes` does not look at the address that a tunnel is bound to, so a tunnel that is
bound to the loopback address is served to the network under its label, and listed on the
index page.
-/

namespace Vee.Tunnel

open List

section Labels

theorem dropWhile_of_isPrefix {α : Type} {p : α → Bool} {text rest : List α}
    (front : rest <+: text.dropWhile p) : rest.dropWhile p = rest := by
  obtain ⟨after, whole⟩ := front
  cases rest with
  | nil => rfl
  | cons c rest =>
    have first := head?_dropWhile_not p text
    rw [← whole, cons_append, head?_cons] at first
    exact dropWhile_cons_of_neg (by simp [first])

theorem trimChar_eq (c : Char) (text : Text) :
    trimChar c text = (text.dropWhile (· = c)).rdropWhile (· = c) := rfl

theorem trimChar_idem (c : Char) (text : Text) :
    trimChar c (trimChar c text) = trimChar c text := by
  rw [trimChar_eq c text, trimChar_eq, dropWhile_of_isPrefix ( rdropWhile_prefix _ _),
    rdropWhile_idempotent]

variable {c d : Char} {text : Text}

theorem trimChar_of_notMem (absent : c ∉ text) : trimChar c text = text := by
  have keeps : ∀ rest : Text, c ∉ rest → rest.dropWhile (· = c) = rest := by
    intro rest absent
    cases rest with
    | nil => rfl
    | cons d rest =>
      have other : d ≠ c := fun same => absent (same ▸ mem_cons_self)
      exact dropWhile_cons_of_neg (by simpa using other)
  rw [trimChar, keeps text absent, keeps _ (by simpa using absent), reverse_reverse]

theorem mem_of_mem_trimChar (mem : d ∈ trimChar c text) : d ∈ text := by
  have inner := (dropWhile_suffix _).subset (mem_reverse.mp mem)
  exact (dropWhile_suffix _).subset (mem_reverse.mp inner)

def labelChar (c : Char) : Bool := ('a' ≤ c ∧ c ≤ 'z') ∨ ('0' ≤ c ∧ c ≤ '9') ∨ c = '-'

theorem sanitizeChar_labelChar (kept : sanitizeChar c = some d) : labelChar d = true := by
  unfold sanitizeChar at kept
  split at kept
  · rename_i letter
    cases kept
    simp only [labelChar, decide_eq_true_eq]
    tauto
  · split at kept
    · cases kept
      decide
    · cases kept

theorem sanitizeHostname_labelChar (mem : c ∈ sanitizeHostname text) : labelChar c = true := by
  obtain ⟨d, -, kept⟩ := mem_filterMap.mp (mem_of_mem_trimChar mem)
  exact sanitizeChar_labelChar kept

theorem sanitizeChar_of_labelChar (isLabel : labelChar c = true) : sanitizeChar c = some c := by
  simp only [labelChar, decide_eq_true_eq] at isLabel
  unfold sanitizeChar
  rcases isLabel with letter | digit | rfl
  · rw [if_pos (.inl letter)]
  · rw [if_pos (.inr digit)]
  · decide

theorem labelChar_toNat (isLabel : labelChar c = true) :
    (97 ≤ c.toNat ∧ c.toNat ≤ 122) ∨ (48 ≤ c.toNat ∧ c.toNat ≤ 57) ∨ c.toNat = 45 := by
  simp only [labelChar, decide_eq_true_eq] at isLabel
  rcases isLabel with ⟨low, high⟩ | ⟨low, high⟩ | rfl
  · exact .inl ⟨low, high⟩
  · exact .inr (.inl ⟨low, high⟩)
  · exact .inr (.inr rfl)

theorem toLowerChar_of_labelChar (isLabel : labelChar c = true) : toLowerChar c = c := by
  have range := labelChar_toNat isLabel
  have other : ∀ d : Char, 122 < d.toNat → c ≠ d := by
    rintro d large rfl
    omega
  rw [toLowerChar, if_neg (other _ (by decide)), if_neg (other _ (by decide)), Char.toLower,
    dif_neg]
  rintro ⟨low, high⟩
  have low : 65 ≤ c.toNat := low
  have high : c.toNat ≤ 90 := high
  omega

section Sanitized

variable {label : Text} (isLabel : ∀ c ∈ label, labelChar c = true)

include isLabel

theorem notMem_label (other : labelChar c = false) : c ∉ label := by
  intro mem
  rw [isLabel c mem] at other
  cases other

theorem toLowerText_label : toLowerText label = label := by
  conv_rhs => rw [← map_id label]
  exact map_congr_left fun c mem => toLowerChar_of_labelChar (isLabel c mem)

theorem filterMap_label : label.filterMap sanitizeChar = label := by
  have same : label.filterMap sanitizeChar = label.filterMap some :=
    filterMap_congr fun c mem => sanitizeChar_of_labelChar (isLabel c mem)
  rw [same, filterMap_some]

theorem splitHostPort_label : splitHostPort label = none := by
  have noColon : ∀ c ∈ label.reverse, decide (c ≠ ':') = true := by
    intro c mem
    have here := isLabel c (mem_reverse.mp mem)
    refine decide_eq_true ?_
    rintro rfl
    exact absurd here (by decide)
  have whole : label.reverse.takeWhile (· ≠ ':') = label.reverse :=
    takeWhile_eq_self_iff.mpr noColon
  unfold splitHostPort
  simp only [whole, reverse_reverse]
  rw [← length_reverse, drop_length]

end Sanitized

theorem sanitizeHostname_idem (text : Text) :
    sanitizeHostname (sanitizeHostname text) = sanitizeHostname text := by
  have isLabel : ∀ c ∈ sanitizeHostname text, labelChar c = true :=
    fun _ => sanitizeHostname_labelChar
  rw [sanitizeHostname, toLowerText_label isLabel, filterMap_label isLabel, sanitizeHostname,
    trimChar_idem]

theorem routerLabel_sanitizeHostname (text : Text) :
    routerLabel (sanitizeHostname text) = sanitizeHostname text := by
  have isLabel : ∀ c ∈ sanitizeHostname text, labelChar c = true :=
    fun _ => sanitizeHostname_labelChar
  have noDot : '.' ∉ sanitizeHostname text := notMem_label isLabel (by decide)
  have first : (sanitizeHostname text).takeWhile (· ≠ '.') = sanitizeHostname text := by
    refine takeWhile_eq_self_iff.mpr fun c mem => decide_eq_true ?_
    rintro rfl
    exact noDot mem
  unfold routerLabel
  simp only [splitHostPort_label isLabel, Option.getD_none, toLowerText_label isLabel,
    trimChar_of_notMem noDot, first, sanitizeHostname_idem]

end Labels

section Daemon

/-- Each live tunnel stands under the key of its spec. -/
def Daemon.Keyed (d : Daemon) : Prop := ∀ key t, d.active.lookup key = some t → t.spec.key = key

def WantedKeyed (wanted : GoMap Text Want) : Prop :=
  ∀ key want, wanted.lookup key = some want → want.spec.key = key

variable {running : GoMap String ListEntry} {d : Daemon}

theorem wantTunnel_spec {spec : TunnelSpec} {want : Want}
    (wanted : wantTunnel running spec = .ok want) : want.spec = spec := by
  unfold wantTunnel at wanted
  split at wanted
  · cases wanted
  · split at wanted
    · cases wanted
    · split at wanted <;> cases wanted
      rfl

theorem Plan.add_keyed {plan : Plan} (keyed : WantedKeyed plan.wanted) (spec : TunnelSpec) :
    WantedKeyed (plan.add running spec).wanted := by
  unfold Plan.add
  split
  · rename_i want wanted
    intro key other found
    by_cases same : key = spec.key
    · subst same
      rw [AList.lookup_insert] at found
      cases found
      rw [wantTunnel_spec wanted]
    · rw [AList.lookup_insert_ne same] at found
      exact keyed key other found
  · exact keyed

theorem planTunnels_keyed (specs : List TunnelSpec) (entries : List ListEntry) :
    WantedKeyed (planTunnels specs entries).wanted := by
  refine foldlRecOn (motive := fun plan : Plan => WantedKeyed plan.wanted) _ _ ?_ ?_
  · intro key want found
    cases found
  · exact fun plan keyed spec _ => Plan.add_keyed keyed spec

theorem stopUnwanted_lookup {wanted : GoMap Text Want}
    {active : GoMap Text ActiveTunnel} {key : Text} {t : ActiveTunnel}
    (found : (stopUnwanted wanted active).lookup key = some t) : active.lookup key = some t := by
  refine foldlRecOn (motive := fun kept : GoMap Text ActiveTunnel =>
      kept.lookup key = some t → active.lookup key = some t)
    active.entries _ (fun found => found) ?_ found
  intro kept ih e _ found
  apply ih
  by_cases wants : (wanted.lookup e.1).any (·.honours e.2) = true
  · rw [if_pos wants] at found
    exact found
  · rw [if_neg wants] at found
    by_cases same : key = e.1
    · rw [same, AList.lookup_erase] at found
      cases found
    · rw [AList.lookup_erase_ne same] at found
      exact found

/-- All live tunnels, with the keys that they stand under, have a property. -/
def Daemon.AllLive (P : Text → ActiveTunnel → Prop) (d : Daemon) : Prop :=
  ∀ key t, d.active.lookup key = some t → P key t

section AllLive

variable {P : Text → ActiveTunnel → Prop} {d : Daemon}
  (started : ∀ (want : Want) free, P want.spec.key (want.started free))

include started

theorem startTunnel_allLive {tick : Tick} {wanted : GoMap Text Want}
    (wantedKeyed : WantedKeyed wanted) (all : d.AllLive P) (key : Text) :
    (startTunnel tick wanted d key).AllLive P := by
  unfold startTunnel
  split
  · rename_i want absent isWanted
    split
    · exact all
    rename_i free _
    intro other t found
    by_cases same : other = key
    · subst same
      rw [AList.lookup_insert] at found
      obtain rfl := Option.some.inj found
      exact wantedKeyed other want isWanted ▸ started want free
    · change (d.active.insert key _).lookup other = some t at found
      rw [AList.lookup_insert_ne same] at found
      exact all other t found
  · exact all

theorem reconcileTunnels_allLive (all : d.AllLive P) (tick : Tick) (order : List Text) :
    (reconcileTunnels tick order d).AllLive P := by
  unfold reconcileTunnels
  split
  · refine foldlRecOn (motive := Daemon.AllLive P) order _ ?_ ?_
    · exact fun key t found => all key t (stopUnwanted_lookup found)
    · exact fun d' all key _ => startTunnel_allLive started (planTunnels_keyed _ _) all key
  · exact all

/-- What holds of every tunnel when it is started holds of the live ones. -/
theorem Reachable.allLive (reachable : Reachable d) : d.AllLive P := by
  induction reachable with
  | start registry => exact fun _ _ found => nomatch found
  | edit registry _ ih => exact ih
  | reconcile tick order _ _ ih => exact reconcileTunnels_allLive started ih tick order
  | stopAll _ _ => exact fun _ _ found => nomatch found

end AllLive

theorem reconcileTunnels_keyed (keyed : d.Keyed) (tick : Tick) (order : List Text) :
    (reconcileTunnels tick order d).Keyed :=
  reconcileTunnels_allLive (fun _ _ => rfl) keyed tick order

theorem Reachable.keyed (reachable : Reachable d) : d.Keyed := reachable.allLive fun _ _ => rfl

theorem Reachable.keysDistinct (reachable : Reachable d) :
    KeysDistinct (fun t : ActiveTunnel => t.spec.key) d.live := by
  intro a inLive b inLive' same
  obtain ⟨⟨keyA, _⟩, entryA, rfl⟩ := mem_map.mp inLive
  obtain ⟨⟨keyB, _⟩, entryB, rfl⟩ := mem_map.mp inLive'
  have foundA := AList.mem_lookup_iff.mpr entryA
  have foundB := AList.mem_lookup_iff.mpr entryB
  have keys : keyA = keyB := by
    rw [← reachable.keyed keyA _ foundA, ← reachable.keyed keyB _ foundB]
    exact same
  subst keys
  exact Option.some.inj (foundA.symm.trans foundB)

end Daemon

section Routes

def ActiveTunnel.route (t : ActiveTunnel) : Option Text :=
  if (t.protocol = .http ∨ t.protocol = .https) ∧ t.label ≠ [] then some t.label else none

def ActiveTunnel.hostBound (t : ActiveTunnel) : Bool := t.spec.bindAddr = bindHost

theorem addRoute_eq : addRoute = keepLeast ActiveTunnel.route (·.spec.key) := by
  funext out t
  unfold addRoute keepLeast ActiveTunnel.route
  by_cases web : t.protocol = .http ∨ t.protocol = .https
  · have passed : ¬ (t.protocol ≠ .http ∧ t.protocol ≠ .https) := by tauto
    rw [if_neg passed]
    by_cases named : t.label = []
    · simp [named]
    rw [if_neg named, if_pos ⟨web, named⟩]
    dsimp only
    cases out.lookup t.label with
    | none => rfl
    | some existing =>
      by_cases smaller : existing.spec.key < t.spec.key
      · simp only [if_pos smaller]
      · simp only [if_neg smaller]
  · have stopped : t.protocol ≠ .http ∧ t.protocol ≠ .https := by tauto
    rw [if_pos stopped]
    simp [web]

theorem activeRoutes_eq (order : List ActiveTunnel) :
    activeRoutes order = order.foldl (keepLeast ActiveTunnel.route (·.spec.key)) ∅ := by
  rw [activeRoutes, addRoute_eq]

theorem route_eq_some {t : ActiveTunnel} {label : Text} (routed : t.route = some label) :
    t.label = label ∧ label ≠ [] := by
  unfold ActiveTunnel.route at routed
  split at routed
  · rename_i web
    cases routed
    exact ⟨rfl, web.2⟩
  · cases routed

section Entries

variable {tunnels order : List ActiveTunnel} (ranged : order.Perm tunnels)

include ranged

theorem activeRoutes_lookup (distinct : KeysDistinct (fun t : ActiveTunnel => t.spec.key) tunnels)
    (label : Text) (t : ActiveTunnel) : (activeRoutes order).lookup label = some t ↔
      Least ActiveTunnel.route (·.spec.key) tunnels label t := by
  have distinct' : KeysDistinct (fun t : ActiveTunnel => t.spec.key) order := by
    intro a inOrder b inOrder'
    exact distinct a (ranged.mem_iff.mp inOrder) b (ranged.mem_iff.mp inOrder')
  rw [activeRoutes_eq, lookup_foldl_keepLeast distinct']
  exact least_congr fun _ => ranged.mem_iff

theorem exists_activeRoute {t : ActiveTunnel} {label : Text} (inLive : t ∈ tunnels)
    (routed : t.route = some label) : ∃ w, (activeRoutes order).lookup label = some w := by
  have entry := tableOf_foldl ActiveTunnel.route (·.spec.key) order label
  rw [← activeRoutes_eq] at entry
  cases winner : (activeRoutes order).lookup label with
  | none =>
    rw [winner] at entry
    exact absurd routed (entry t (ranged.mem_iff.mpr inLive))
  | some w => exact ⟨w, rfl⟩

end Entries

theorem writeRouterIndex_congr {hostname : Except String Text}
    {routes routes' : GoMap Text ActiveTunnel}
    (same : ∀ label, routes.lookup label = routes'.lookup label) (requested : Text) :
    writeRouterIndex hostname routes requested = writeRouterIndex hostname routes' requested := by
  have keys : routes.keys.Perm routes'.keys := by
    refine (perm_ext_iff_of_nodup routes.keys_nodup routes'.keys_nodup).mpr fun label => ?_
    rw [← AList.mem_keys, ← AList.mem_keys, ← AList.lookup_isSome, ← AList.lookup_isSome, same]
  have labels : routes.keys.insertionSort (· ≤ ·) = routes'.keys.insertionSort (· ≤ ·) := by
    refine List.Perm.eq_of_pairwise (fun _ _ _ _ => le_antisymm)
      (pairwise_insertionSort _ _) (pairwise_insertionSort _ _) ?_
    exact ((perm_insertionSort _ _).trans keys).trans (perm_insertionSort _ _).symm
  unfold writeRouterIndex
  simp only [labels, same]

section Handler

variable {order : List ActiveTunnel} {hostname : Except String Text}
  {host : Text}

theorem handler_none (absent : (activeRoutes order).lookup (routerLabel host) = none) :
    tunnelRouterHandler hostname order host =
      writeRouterIndex hostname (activeRoutes order) (routerLabel host) := by
  simp only [tunnelRouterHandler, absent]

theorem handler_some {t : ActiveTunnel}
    (found : (activeRoutes order).lookup (routerLabel host) = some t) :
    tunnelRouterHandler hostname order host = .forwarded t (tunnelTargetURL t) := by
  simp only [tunnelRouterHandler, found]

end Handler

theorem handler_congr {order order' : List ActiveTunnel}
    (same : ∀ label, (activeRoutes order).lookup label = (activeRoutes order').lookup label)
    (hostname : Except String Text) (host : Text) :
    tunnelRouterHandler hostname order host = tunnelRouterHandler hostname order' host := by
  cases found : (activeRoutes order).lookup (routerLabel host) with
  | none =>
    rw [handler_none found, handler_none ((same _).symm.trans found)]
    exact writeRouterIndex_congr same _
  | some t => rw [handler_some found, handler_some ((same _).symm.trans found)]

end Routes

/-- The response is the index, or comes from a tunnel that is bound to all addresses. -/
def Response.FromHostBound : Response → Prop
  | .index _ _ => True
  | .forwarded t _ => t.spec.bindAddr = bindHost

/-- Every response is the index or a tunnel's that is bound to all addresses, and the same
as if there were no other tunnels, exactly if each other tunnel loses its label to one
that is bound to all addresses. -/
theorem router_serves_host_bound_iff (hostname : Except String Text) {d : Daemon}
    (reachable : Reachable d) {order : List ActiveTunnel} (ranged : order.Perm d.live) :
    ((∀ host, (tunnelRouterHandler hostname order host).FromHostBound) ∧
      ∀ order', order'.Perm (d.live.filter (·.hostBound)) → ∀ host,
        tunnelRouterHandler hostname order host = tunnelRouterHandler hostname order' host) ↔
    ∀ t ∈ d.live, t.hostBound = false → ∀ label, t.route = some label →
      ∃ t' ∈ d.live, t'.hostBound = true ∧ t'.route = some label ∧ t'.spec.key < t.spec.key := by
  have found := activeRoutes_lookup ranged reachable.keysDistinct
  constructor
  · rintro ⟨served, -⟩ t inLive loopback label routed
    obtain ⟨w, winner⟩ := exists_activeRoute ranged inLive routed
    have least := (found label w).mp winner
    have asked : routerLabel label = label := by
      rw [← (route_eq_some routed).1]
      exact routerLabel_sanitizeHostname _
    have response := served label
    rw [handler_some (asked.symm ▸ winner)] at response
    have hostBound : w.hostBound = true := decide_eq_true response
    refine ⟨w, least.member, hostBound, least.labelled, ?_⟩
    refine lt_of_le_of_ne (least.least t inLive routed) fun same => ?_
    have equal := reachable.keysDistinct w least.member t inLive same
    rw [equal, loopback] at hostBound
    cases hostBound
  · intro beaten
    constructor
    · intro host
      cases winner : (activeRoutes order).lookup (routerLabel host) with
      | none =>
        rw [handler_none winner]
        trivial
      | some w =>
        rw [handler_some winner]
        have least := (found _ w).mp winner
        by_contra notHost
        obtain ⟨t', inLive, -, routed, smaller⟩ :=
          beaten w least.member (decide_eq_false notHost) _ least.labelled
        exact absurd (least.least t' inLive routed) (not_le.mpr smaller)
    · intro order' ranged' host
      refine handler_congr (fun label => ?_) hostname host
      have distinct' : KeysDistinct (fun t : ActiveTunnel => t.spec.key)
          (d.live.filter (·.hostBound)) := by
        intro a inLive b inLive'
        exact reachable.keysDistinct a (mem_of_mem_filter inLive) b (mem_of_mem_filter inLive')
      apply Option.ext
      intro t
      rw [found, activeRoutes_lookup ranged' distinct']
      exact (least_filter_iff fun a inLive loopback routed =>
        beaten a inLive loopback label routed).symm

def webVM (name : String) : ListEntry where
  config := { name := name, services := [⟨"web", 8080, .http⟩] }
  state := { pid := 1, running := true }
  alive := true

/-- The VMs `media` and `nas` run, and every listener gets the port it asks for. -/
def bothRun : Tick where
  entries := .ok [webVM "media", webVM "nas"]
  listen := fun _ => .ok 2300

def reconciled (registry : List TunnelSpec) : Daemon :=
  reconcileTunnels bothRun (wantedKeys bothRun { registry := registry }) { registry := registry }

theorem reconciled_reachable (registry : List TunnelSpec) : Reachable (reconciled registry) :=
  .reconcile bothRun _ (.start registry) (.refl _)

/-- The web service of `nas`, bound to the loopback address. -/
def nasTunnel : ActiveTunnel :=
  ⟨⟨"nas", "web", "127.0.0.1", 2302, "", .http⟩, ⟨"127.0.0.1", 2302⟩, 8080, .http⟩

/-- The web service of `media`, bound to all addresses. -/
def mediaTunnel : ActiveTunnel :=
  ⟨⟨"media", "web", "0.0.0.0", 2301, "", .http⟩, ⟨"0.0.0.0", 2301⟩, 8080, .http⟩

theorem outranked_tunnel_hidden :
    (reconciled [mediaTunnel.spec, nasTunnel.spec]).live = [mediaTunnel, nasTunnel] ∧
      (tunnelRouterHandler (.ok "host".toList) (reconciled [mediaTunnel.spec, nasTunnel.spec]).live
        "web.host".toList).FromHostBound := by
  have live : (reconciled [mediaTunnel.spec, nasTunnel.spec]).live = [mediaTunnel, nasTunnel] := by
    decide
  refine ⟨live, ((router_serves_host_bound_iff (.ok "host".toList) (reconciled_reachable _)
    (.refl _)).mpr ?_).1 _⟩
  rw [live]
  intro t inLive loopback label routed
  refine ⟨mediaTunnel, by simp, by decide, ?_⟩
  rcases mem_cons.mp inLive with rfl | last
  · exact absurd loopback (by decide)
  · rw [← routed, mem_singleton.mp last]
    decide

theorem loopback_tunnel_served : Reachable (reconciled [nasTunnel.spec]) ∧
      ¬ (tunnelRouterHandler (.ok "host".toList) (reconciled [nasTunnel.spec]).live
        "web.host".toList).FromHostBound := by
  refine ⟨reconciled_reachable [nasTunnel.spec], fun served => ?_⟩
  have found : (activeRoutes (reconciled [nasTunnel.spec]).live).lookup
      (routerLabel "web.host".toList) = some nasTunnel := by decide
  exact absurd served (by decide : ¬ nasTunnel.spec.bindAddr = bindHost)

end Vee.Tunnel
