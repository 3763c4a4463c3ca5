import Vee.Tunnel.Proofs.HostBound

/-!
# Published names

The router serves each label from the tunnel with the smallest key, in whatever order Go
ranges over the live tunnels, and a request for `label.suffix[:port]` gets there in any
letter case.
-/

namespace Vee.Tunnel

open List

def publishedHost (named suffix : Text) (port : Option Text) : Text :=
  named ++ '.' :: (suffix ++ port.elim [] (':' :: ·))

theorem splitHostPort_eq_some {hostport host : Text} (plain : hostport.head? ≠ some '[')
    (parsed : splitHostPort hostport = some host) : ∃ port, hostport = host ++ ':' :: port := by
  unfold splitHostPort at parsed
  simp only [List.length_reverse, drop_takeWhile] at parsed
  have whole := List.takeWhile_append_dropWhile (p := (· ≠ ':')) (l := hostport.reverse)
  have colon := List.head?_dropWhile_not (· ≠ ':') hostport.reverse
  split at parsed
  · cases parsed
  rename_i c before found
  rw [found] at colon whole
  have isColon : c = ':' := by simpa using colon
  split at parsed
  · exact absurd rfl plain
  split at parsed
  · cases parsed
  · cases parsed
    have whole := congrArg List.reverse whole
    rw [List.reverse_append, List.reverse_reverse, List.reverse_cons, isColon,
      List.append_assoc] at whole
    exact ⟨_, whole.symm⟩

theorem rdropWhile_append {α : Type} {p : α → Bool} {front : List α}
    (kept : front.rdropWhile p = front) (rest : List α) :
    (front ++ rest).rdropWhile p = front ++ rest.rdropWhile p := by
  induction rest using reverseRecOn with
  | nil => simpa using kept
  | append_singleton rest c ih =>
    rw [← append_assoc, rdropWhile_concat, rdropWhile_concat, ih]
    split
    · rfl
    · rw [append_assoc]

section Host

variable {named : Text} (isLabel : ∀ c ∈ toLowerText named, labelChar c = true)

include isLabel

theorem notMem_of_lower {c : Char} (kept : toLowerChar c = c) (other : labelChar c = false) :
    c ∉ named := by
  intro mem
  have lowered := isLabel _ (mem_map_of_mem mem)
  rw [kept, other] at lowered
  cases lowered

/-- With or without a port, the host begins with the name and its dot. -/
theorem host_starts (suffix : Text) :
    ∃ rest, (splitHostPort (named ++ '.' :: suffix)).getD (named ++ '.' :: suffix) =
      named ++ '.' :: rest := by
  cases split : splitHostPort (named ++ '.' :: suffix) with
  | none => exact ⟨suffix, rfl⟩
  | some host =>
    have plain : (named ++ '.' :: suffix).head? ≠ some '[' := by
      cases named with
      | nil => simp
      | cons c named =>
        have bracket := notMem_of_lower isLabel (c := '[') (by decide) (by decide)
        rintro ⟨⟩
        exact bracket mem_cons_self
    obtain ⟨port, whole⟩ := splitHostPort_eq_some plain split
    have colon := notMem_of_lower isLabel (c := ':') (by decide) (by decide)
    rcases append_eq_append_iff.mp whole with ⟨rest, rfl, dot⟩ | ⟨rest, rfl, short⟩
    · cases rest with
      | nil => cases dot
      | cons c rest =>
        cases dot
        exact ⟨rest, rfl⟩
    · cases rest with
      | nil => cases short
      | cons c rest =>
        cases short
        exact absurd (mem_append_right _ mem_cons_self) colon

end Host

theorem takeWhile_trimChar {label : Text} (named : label ≠ []) (noDot : '.' ∉ label)
    (rest : Text) :
    (trimChar '.' (label ++ '.' :: rest)).takeWhile (· ≠ '.') = label := by
  have allKept : ∀ c ∈ label, decide (c ≠ '.') = true := by
    intro c mem
    apply decide_eq_true
    rintro rfl
    exact noDot mem
  have front : (label ++ '.' :: rest).dropWhile (· = '.') = label ++ '.' :: rest := by
    cases label with
    | nil => exact absurd rfl named
    | cons c label =>
      refine dropWhile_cons_of_neg ?_
      simpa using allKept c mem_cons_self
  have back : label.rdropWhile (· = '.') = label := by
    refine rdropWhile_eq_self_iff.mpr fun named => ?_
    simpa using allKept _ (getLast_mem named)
  have start := rdropWhile_prefix (· = '.') ('.' :: rest)
  rw [trimChar_eq, front, rdropWhile_append back, takeWhile_append_of_pos allKept]
  cases trimmed : ('.' :: rest).rdropWhile (· = '.') with
  | nil => simp
  | cons c after =>
    rw [trimmed] at start
    obtain ⟨rfl, -⟩ := cons_prefix_cons.mp start
    simp

theorem routerLabel_publishedHost {named text : Text} (published : sanitizeHostname text ≠ [])
    (cased : toLowerText named = sanitizeHostname text) (suffix : Text)
    (port : Option Text) :
    routerLabel (publishedHost named suffix port) = sanitizeHostname text := by
  have isLabel : ∀ c ∈ sanitizeHostname text, labelChar c = true :=
    fun _ => sanitizeHostname_labelChar
  have noDot : '.' ∉ sanitizeHostname text := notMem_label isLabel (by decide)
  obtain ⟨rest, host⟩ := host_starts (cased.symm ▸ isLabel) (suffix ++ port.elim [] (':' :: ·))
  have lowered : toLowerText (named ++ '.' :: rest) =
      sanitizeHostname text ++ '.' :: toLowerText rest := by
    rw [← cased]
    exact map_append
  unfold routerLabel publishedHost
  simp only [host, lowered, takeWhile_trimChar published noDot, sanitizeHostname_idem]

/-- Each label of a web service is routed to the tunnel with the smallest key among those
that have it, and requests for the label in any host reach this tunnel. -/
theorem published_names_reached (hostname : Except String Text)
    {tunnels order : List ActiveTunnel} (distinct : (tunnels.map (·.spec.key)).Nodup)
    (ranged : order.Perm tunnels) :
    (∀ label t, (activeRoutes order).lookup label = some t ↔
      Least ActiveTunnel.route (·.spec.key) tunnels label t) ∧
    (∀ t ∈ tunnels, ∀ label, t.route = some label → label ∈ activeRoutes order) ∧
    ∀ label t, (activeRoutes order).lookup label = some t →
      ∀ named, toLowerText named = label → ∀ suffix port,
        routerLabel (publishedHost named suffix port) = label ∧
        tunnelRouterHandler hostname order (publishedHost named suffix port) =
          .forwarded t (tunnelTargetURL t) := by
  have keys : KeysDistinct (fun t : ActiveTunnel => t.spec.key) tunnels :=
    fun _ inLive _ inLive' same => inj_on_of_nodup_map distinct inLive inLive' same
  have least := activeRoutes_lookup ranged keys
  refine ⟨least, ?_, ?_⟩
  · intro t inLive label routed
    obtain ⟨w, winner⟩ := exists_activeRoute ranged inLive routed
    exact AList.lookup_isSome.mp (Option.isSome_iff_exists.mpr ⟨w, winner⟩)
  · intro label t winner named cased suffix port
    obtain ⟨rfl, published⟩ := route_eq_some ((least label t).mp winner).labelled
    have asked := routerLabel_publishedHost published cased suffix port
    exact ⟨asked, handler_some (asked.symm ▸ winner)⟩

theorem media_reached_in_capitals :
    tunnelRouterHandler (.ok "host".toList) [nasTunnel, mediaTunnel] "WEB.Host:80".toList =
      .forwarded mediaTunnel (tunnelTargetURL mediaTunnel) :=
  ((published_names_reached (.ok "host".toList) (by decide)
    (List.Perm.swap mediaTunnel nasTunnel [])).2.2 "web".toList mediaTunnel (by decide)
    "WEB".toList (by decide) "Host".toList (some "80".toList)).2

end Vee.Tunnel
