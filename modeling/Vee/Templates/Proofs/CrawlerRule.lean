import Vee.Misc.Results
import Vee.Templates.EndpointRefresh

/-!
# The crawler's own rule

The template for bitmagnet ends OUTPUT with a rule against the crawler's traffic outside
the tunnel. The rule stands behind the holes, so what a hole lets out never gets to it.
-/

namespace Vee.Templates

open Guest List

/-- The rules that are holes: handshake, SSH replies and DHCP. -/
inductive IsHole (port : Nat) : Rule → Prop where
  | endpoint (ip : IPv4) : IsHole port (endpointRule port ip)
  | ssh : IsHole port sshRule
  | dhcp : IsHole port dhcpRule

/-- An entry in place of another one: the same, or for a hole one that accepts at least
what the hole accepts. -/
inductive Widened (port : Nat) : Entry → Entry → Prop where
  | same (e : Entry) : Widened port e e
  | wider {r : Rule} {wide : Entry} (hole : IsHole port r)
      (accepts : ∀ p v, wide.decides p = some v → v = .accept)
      (superset : ∀ p, r.hits p → wide.decides p = some .accept) : Widened port (.rule r) wide

/-- No packet of the crawler gets out but through the tunnel and loopback. -/
def CrawlerConfined (g : Filter) : Prop :=
  ∀ p : Packet, p.group = some "bitmagnet" → p.outIface ≠ "wg0" → p.outIface ≠ "lo" →
    g.v4.output.judge p ≠ .accept

/-- The guest that the template builds, with other rules in OUTPUT. -/
def crawlerGuest (hosts : String → List Net) (resolved : List IPv4) (cfg : WireGuardConfig)
    (start : Filter) (rules : List Entry) : Filter :=
  (build hosts resolved (bitmagnetKillSwitchCmds (some cfg)) start).output
    fun c => { c with rules }

section

variable {p : Packet} {g : Filter} {port : Nat}

def Lenient (p : Packet) (e : Entry) : Prop :=
  e.decides p = none ∨ e.decides p = some .accept

theorem lenient_accept {r : Rule} (accept : r.target = .accept) : Lenient p (.rule r) := by
  by_cases hit : r.hits p
  · right
    simp [Entry.decides, hit, accept]
  · left
    simp [Entry.decides, hit]

theorem Widened.lenient {e e' : Entry} (w : Widened port e e') (h : Lenient p e) :
    Lenient p e' := by
  cases w with
  | same => exact h
  | wider hole accepts superset =>
    cases told : e'.decides p with
    | none => exact .inl told
    | some v =>
      rw [accepts p v told] at told
      exact .inr told

/-- Some entry accepts the packet, no entry ahead of it stops it, and no refresh run deletes
the entry. -/
structure LetOut (p : Packet) (g : Filter) : Prop where
  entry : ∃ ahead e behind, g.v4.output.rules = ahead ++ e :: behind ∧
    (∀ a ∈ ahead, Lenient p a) ∧ e.decides p = some .accept
  notUdp : p.transport ≠ .udp

section

variable (h : LetOut p g)

include h

theorem LetOut.accepted : g.v4.output.judge p = .accept := by
  obtain ⟨ahead, e, behind, rules, lenient, accepts⟩ := h.entry
  exact RuleChain.verdict_of_ahead rules lenient accepts

theorem LetOut.insert {r : Rule} (accept : r.target = .accept) :
    LetOut p (Step.exec g (.insert r)) := by
  obtain ⟨ahead, e, behind, rules, lenient, accepts⟩ := h.entry
  refine ⟨⟨.rule r :: ahead, e, behind, ?_, ?_, accepts⟩, h.notUdp⟩
  · simp [Step.exec, rules]
  · exact forall_mem_cons.mpr ⟨lenient_accept accept, lenient⟩

theorem LetOut.append (r : Rule) : LetOut p (Step.exec g (.append r)) := by
  obtain ⟨ahead, e, behind, rules, lenient, accepts⟩ := h.entry
  refine ⟨⟨ahead, e, behind ++ [.rule r], ?_, lenient, accepts⟩, h.notUdp⟩
  simp [Step.exec, rules]

/-- The entry that lets the packet out is not the rule of a handshake hole. -/
theorem LetOut.delete (ip : IPv4) : LetOut p (Step.exec g (.delete (endpointRule port ip))) := by
  obtain ⟨ahead, e, behind, rules, lenient, accepts⟩ := h.entry
  have other : ¬ e.is (endpointRule port ip) := by
    rw [Entry.is_iff]
    rintro rfl
    have hit : (endpointRule port ip).hits p := by
      by_contra miss
      simp [Entry.decides, miss] at accepts
    exact h.notUdp (endpointRule_hits hit).1
  have erased : (Step.exec g (.delete (endpointRule port ip))).v4.output.rules =
      (ahead ++ e :: behind).eraseP (Entry.is (endpointRule port ip)) := by
    simp [Step.exec, rules]
  rw [eraseP_append, eraseP_cons_of_neg other] at erased
  split at erased
  · refine ⟨⟨_, e, behind, erased, ?_, accepts⟩, h.notUdp⟩
    intro a mem
    exact lenient a (mem_of_mem_eraseP mem)
  · exact ⟨⟨ahead, e, _, erased, lenient, accepts⟩, h.notUdp⟩

/-- The refresh script adds rules that accept and deletes rules of handshake holes. -/
theorem LetOut.refresh (run : Refresh) : LetOut p (g.refresh port run) := by
  unfold Filter.refresh
  apply foldlRecOn _ _ h
  intro g' h' s mem
  cases scriptStep_of_mem mem with
  | allowDNS ns => exact h'.insert rfl
  | denyDNS ns => exact h'.delete ns
  | lookup => exact h'
  | allowEndpoint answered => exact h'.append _
  | writeAddrs => exact { h' with }
  | denyEndpoint ip => exact h'.delete ip
  | restartTunnel => exact h'

theorem LetOut.refreshes (runs : List Refresh) : LetOut p (runs.foldl (Filter.refresh port) g) := by
  apply foldlRecOn _ _ h
  intro g' h' run _
  exact h'.refresh run

end

end

variable (hosts : String → List Net) (resolved : List IPv4) (cfg : WireGuardConfig) (g : Filter)

/-- What the commands for OUTPUT, which both templates share, do to the chain. -/
theorem outbound_output :
    (build hosts resolved (outboundCmds cfg) g).v4.output.rules = g.v4.output.rules ++
      ([.rule ⟨[.outIface "lo"], .accept⟩, .rule ⟨[.outIface "wg0"], .accept⟩] ++
        (sortUnique resolved).map (fun ip => .rule (endpointRule (wireGuardEndpointPort cfg) ip)) ++
        [.rule sshRule, .rule dhcpRule]) := by
  simp [build, outboundCmds, wgResolveEndpointCmd, Command.exec, Filter.foldl_append,
    Filter.update, Table.update]

theorem bitmagnetTunnel_output :
    (build hosts resolved (bitmagnetTunnelCmds cfg ++ persistCmds) g).v4.output.rules =
      g.v4.output.rules ++ [.rule crawlerRule] := by
  have wiring : ∀ g, build hosts resolved (alpineWGEndpointRefreshCmds cfg) g = g := by
    intro g
    unfold alpineWGEndpointRefreshCmds
    split <;> rfl
  have hook : ∀ g, build hosts resolved
      (if alpineWGEndpointRefreshCmds cfg = [] then bootHookCmds else []) g = g := by
    intro g
    split <;> rfl
  simp only [bitmagnetTunnelCmds, build_append, wiring, hook]
  rfl

/-- The chain that the template builds: the crawler's rule stands at its end. -/
theorem bitmagnet_output (input forward : Chain) (v6 : Table) :
    (build hosts resolved (bitmagnetKillSwitchCmds (some cfg))
      (.image input forward v6)).v4.output.rules =
      [.rule ⟨[.outIface "lo"], .accept⟩, .rule ⟨[.outIface "wg0"], .accept⟩] ++
        (sortUnique resolved).map (fun ip => .rule (endpointRule (wireGuardEndpointPort cfg) ip)) ++
        [.rule sshRule, .rule dhcpRule, .rule crawlerRule] := by
  have parts : bitmagnetKillSwitchCmds (some cfg) = inboundCmds ++ wgDropIPv6Cmds ++
      outboundCmds cfg ++ (bitmagnetTunnelCmds cfg ++ persistCmds) := by
    simp [bitmagnetKillSwitchCmds]
  have inbound : (build hosts resolved (inboundCmds ++ wgDropIPv6Cmds)
      (.image input forward v6)).v4.output.rules = [] := rfl
  rw [parts, build_append, bitmagnetTunnel_output, build_append, outbound_output, inbound]
  simp

/-- The place of an element is the place of what stands for it. -/
theorem forall₂_middle {α β : Type} {R : α → β → Prop} {ahead behind : List α} {x : α}
    {ys : List β} (related : List.Forall₂ R (ahead ++ x :: behind) ys) :
    ∃ ahead' y behind', ys = ahead' ++ y :: behind' ∧ List.Forall₂ R ahead ahead' ∧ R x y := by
  induction ahead generalizing ys with
  | nil =>
    obtain ⟨y, behind', head, -, rfl⟩ := forall₂_cons_left_iff.mp related
    exact ⟨[], y, behind', rfl, .nil, head⟩
  | cons a ahead ih =>
    obtain ⟨b, rest, head, tail, rfl⟩ := forall₂_cons_left_iff.mp related
    obtain ⟨ahead', y, behind', rfl, before, middle⟩ := ih tail
    exact ⟨b :: ahead', y, behind', rfl, .cons head before, middle⟩

/-- A segment of an SSH session that belongs to the crawler's group. -/
def crawlerReply : Packet where
  outIface := "eth0"
  dst := .v4 (.ofOctets 192 168 1 20)
  transport := .tcp
  sport := 22
  ctstate := .established
  group := some "bitmagnet"

/-- However the holes are widened, and whatever refresh runs there are, the crawler is not
confined, also if the endpoint is plain: what the hole for SSH replies lets out does not get to the
crawler's rule. -/
theorem crawler_never_confined (hosts : String → List Net) (resolved : List IPv4)
    (cfg : WireGuardConfig) (input forward : Chain) (v6 : Table) {rules : List Entry}
    (widened : List.Forall₂ (Widened (wireGuardEndpointPort cfg))
      (build hosts resolved (bitmagnetKillSwitchCmds (some cfg))
        (.image input forward v6)).v4.output.rules rules)
    (runs : List Refresh) :
    ¬ CrawlerConfined (runs.foldl (Filter.refresh (wireGuardEndpointPort cfg))
      (crawlerGuest hosts resolved cfg (.image input forward v6) rules)) := by
  rw [bitmagnet_output] at widened
  obtain ⟨ahead, e, behind, same, before, ssh⟩ := forall₂_middle widened
  have lenient : ∀ a ∈ ahead, Lenient crawlerReply a := by
    intro a member
    obtain ⟨r, original, wide⟩ := exists_of_mem_forall₂ before member
    apply wide.lenient
    simp only [mem_append, mem_cons, mem_map, not_mem_nil, or_false] at original
    rcases original with (rfl | rfl) | ⟨ip, -, rfl⟩
    · exact lenient_accept rfl
    · exact lenient_accept rfl
    · exact lenient_accept rfl
  have accepts : e.decides crawlerReply = some .accept := by
    cases ssh with
    | same => decide
    | wider _ _ superset => exact superset crawlerReply (by decide)
  have out :
      LetOut crawlerReply (crawlerGuest hosts resolved cfg (.image input forward v6) rules) :=
    ⟨⟨ahead, e, behind, same, lenient, accepts⟩, by decide⟩
  intro confined
  exact confined crawlerReply rfl (by decide) (by decide) (out.refreshes runs).accepted

/-- Not even with the holes as the template has them. -/
theorem crawler_not_confined_as_built :
    let built := build (fun _ => []) [⟨198, 51, 100, 7⟩]
      (bitmagnetKillSwitchCmds (some someEndpoint)) openImage
    List.Forall₂ (Widened 51820) built.v4.output.rules built.v4.output.rules ∧
      ¬ CrawlerConfined ([{ answer := [⟨198, 51, 100, 8⟩] }].foldl (Filter.refresh 51820)
        (crawlerGuest (fun _ => []) [⟨198, 51, 100, 7⟩] someEndpoint openImage
          built.v4.output.rules)) := by
  intro built
  have same : List.Forall₂ (Widened 51820) built.v4.output.rules built.v4.output.rules :=
    forall₂_same.mpr fun e _ => .same e
  exact ⟨same, crawler_never_confined (fun _ => []) [⟨198, 51, 100, 7⟩] someEndpoint _ _ _ same _⟩

/-- With a handshake hole that is open to every address and port, the crawler's announces
leave through the LAN interface. -/
theorem widened_hole_lets_crawler_out :
    ∃ rules, List.Forall₂ (Widened 51820)
        (build (fun _ => []) [⟨198, 51, 100, 7⟩] (bitmagnetKillSwitchCmds (some someEndpoint))
          openImage).v4.output.rules rules ∧
      ¬ CrawlerConfined
        (crawlerGuest (fun _ => []) [⟨198, 51, 100, 7⟩] someEndpoint openImage rules) := by
  let wide : Rule := ⟨[.transport .udp], .accept⟩
  let announce : Packet :=
    { outIface := "eth0", dst := .v4 ⟨203, 0, 113, 5⟩, transport := .udp, sport := 3334,
      dport := 6881, group := some "bitmagnet" }
  refine ⟨[.rule ⟨[.outIface "lo"], .accept⟩, .rule ⟨[.outIface "wg0"], .accept⟩, .rule wide,
    .rule sshRule, .rule dhcpRule, .rule crawlerRule], ?_, ?_⟩
  · have wider : Widened 51820 (.rule (endpointRule 51820 ⟨198, 51, 100, 7⟩)) (.rule wide) := by
      apply Widened.wider (.endpoint _)
      · intro p v told
        by_cases hit : wide.hits p
        · simpa [Entry.decides, hit, wide, eq_comm] using told
        · simp [Entry.decides, hit] at told
      · intro p hit
        have udp : wide.hits p := by
          simp [wide, Rule.hits, Match.hits, (endpointRule_hits hit).1]
        simp [Entry.decides, udp, wide]
    exact .cons (.same _) (.cons (.same _) (.cons wider (forall₂_same.mpr fun e _ => .same e)))
  · intro confined
    exact absurd rfl (confined announce rfl (by decide) (by decide))

end Vee.Templates
