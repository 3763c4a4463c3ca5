import Mathlib.Data.List.Induction
import Vee.Templates.EndpointRefresh

/-!
# What gets out of a torrent guest

From the moment the OUTPUT policy is set, the guest lets out only what the kill switch is meant to
let out, if the names of the NFS servers and of the endpoint are plain. The commands do not quote a
server's name, and `%q` does not keep the shell from expanding the endpoint's.
-/

namespace Vee.Templates

open Guest List

/-! ## Names that the shell leaves alone -/

/-- A character that means nothing to the shell, quoted or not. -/
def plainChar (c : Char) : Bool := c.isAlphanum || ['.', '-', '_', ':', '/'].contains c

/-- A name of such characters: of a host, or an address with a prefix length. -/
def PlainHost (name : Text) : Prop := ∀ c ∈ name, plainChar c = true

section Plain

variable {c : Char} {name : Text}

/-- The other characters that `Shell.step` asks for. -/
def specialChars : Text :=
  ['\\', '\'', '"', '$', '\x60', ' ', '\t', '#', '*', '?', '[', '~']

theorem plainChar_ne (plain : plainChar c = true) : ∀ d ∈ specialChars, c ≠ d := by
  have special : specialChars.all (!plainChar ·) = true := by decide
  rintro d mem rfl
  simpa [plain] using all_eq_true.mp special c mem

theorem operator_plain (plain : plainChar c = true) : Shell.operator c = none := by
  unfold Shell.operator
  split <;> first | rfl | cases plain

theorem quoteChar_plain (plain : plainChar c = true) : quoteChar c = [c] := by
  unfold quoteChar
  split <;> first | rfl | cases plain

theorem step_plain (plain : plainChar c = true) (word : Option Text) :
    Shell.step (.plain word) c = some ([], .plain (some (word.getD [] ++ [c]))) ∧
      Shell.active c = false ∧ Shell.ordinary c = true := by
  have ne := plainChar_ne plain
  simp only [specialChars, mem_cons, forall_eq_or_imp, not_mem_nil, false_implies, implies_true,
    and_true] at ne
  simp [Shell.step, Shell.expands, Shell.active, Shell.ordinary, operator_plain plain, ne]

/-- Outside quotes, such a name goes on with a word. -/
theorem plain_leads (plain : PlainHost name) (word : Text) :
    Shell.Leads (.plain (some word)) name (.plain (some (word ++ name))) := by
  induction name generalizing word with
  | nil => simpa using Shell.Leads.refl
  | cons c name ih =>
    obtain ⟨stepped, quiet, -⟩ := step_plain (plain c mem_cons_self) (some word)
    refine .cons stepped (by simp [quiet]) ?_
    simpa using ih (fun d mem => plain d (mem_cons_of_mem c mem)) (word ++ [c])

/-- Such a name begins a word. -/
theorem plain_begins (plain : PlainHost name) (named : name ≠ []) :
    Shell.Leads (.plain none) name (.plain (some name)) := by
  obtain ⟨c, rest, rfl⟩ := exists_cons_of_ne_nil named
  obtain ⟨stepped, quiet, -⟩ := step_plain (plain c mem_cons_self) none
  exact .cons stepped (by simp [quiet])
    (plain_leads (fun d mem => plain d (mem_cons_of_mem c mem)) [c])

theorem readBack_plain (plain : PlainHost name) : readBack name = true := by
  have ordinary : ∀ c ∈ name, Shell.ordinary c = true :=
    fun c mem => (step_plain (plain c mem) none).2.2
  have read : Shell.lex (.plain none) ('"' :: (name ++ ['"'])) = some [.word name] := by
    change (Shell.lex (.double []) (name ++ '"' :: [])).map ([] ++ ·) = _
    rw [Shell.lex_quoted ordinary]
    rfl
  rw [readBack, goQuote_kept fun c mem => quoteChar_plain (plain c mem), read]
  exact decide_eq_true rfl

/-- With a plain name, the line is the one command that is meant. -/
theorem line_plain (sh : GuestShell) (plain : PlainHost name) (named : name ≠ []) (g : Filter) :
    sh.line (Command.acceptServer (String.ofList name)).text.toList g =
      g.accept (sh.hosts (String.ofList name)) := by
  have text : (Command.acceptServer (String.ofList name)).text.toList =
      "iptables -A OUTPUT -d ".toList ++ (name ++ " -j ACCEPT".toList) := by
    change ("iptables -A OUTPUT -d " ++ String.ofList name ++ " -j ACCEPT").toList = _
    rw [String.toList_append, String.toList_append, String.toList_ofList (l := name),
      append_assoc]
  have start : Shell.scan (.plain none) "iptables -A OUTPUT -d ".toList =
      some ((["iptables", "-A", "OUTPUT", "-d"].map fun w => .word w.toList), .plain none) := by
    decide
  obtain ⟨read, kept⟩ := plain_begins plain named " -j ACCEPT".toList
  have inert : Shell.inert (.plain none)
      ("iptables -A OUTPUT -d ".toList ++ (name ++ " -j ACCEPT".toList)) = true := kept
  have lexed : Shell.lex (.plain none)
      ("iptables -A OUTPUT -d ".toList ++ (name ++ " -j ACCEPT".toList)) =
      some (("iptables".toList :: (["-A", "OUTPUT", "-d"].map String.toList ++
        name :: ["-j", "ACCEPT"].map String.toList)).map .word) := by
    rw [Shell.lex_append start, read]
    rfl
  rw [GuestShell.line, text, inert, Shell.parse_words lexed]
  dsimp only [foldl_cons, foldl_nil]
  unfold GuestShell.simple
  exact if_pos rfl

end Plain

/-- The addresses that a command learns when the endpoint resolves to `resolved`. -/
def Command.learns (resolved : List IPv4) : Command → List IPv4
  | .resolveEndpoint _ => resolved
  | _ => []

/-- A guest on its way: the commands `done` of the build were executed, with refresh runs
anywhere between them and behind them, and the endpoint has resolved to the addresses
`seen` so far. -/
inductive Reached (sh : GuestShell) (cfg : WireGuardConfig) (start : Filter) :
    List Command → List IPv4 → Filter → Prop where
  | start : Reached sh cfg start [] [] start
  | command {done : List Command} {seen : List IPv4} {g : Filter}
      (before : Reached sh cfg start done seen g) (c : Command) (resolved : List IPv4) :
      Reached sh cfg start (done ++ [c]) (c.learns resolved ++ seen) (c.run sh resolved g)
  | refresh {done : List Command} {seen : List IPv4} {g : Filter}
      (before : Reached sh cfg start done seen g) (run : Refresh) :
      Reached sh cfg start done (run.answer ++ seen) (g.refreshIn sh cfg run)

/-- What the kill switch is meant to let out. -/
def Permitted (port : Nat) (servers : List Net) (seen : List IPv4) (p : Packet) : Prop :=
  p.outIface = "lo" ∨ p.outIface = "wg0" ∨
    (p.transport = .udp ∧ p.dport = port ∧ ∃ ip ∈ seen, p.dst = .v4 ip) ∨
    (p.transport = .tcp ∧ p.sport = 22 ∧ p.ctstate = .established) ∨
    (p.transport = .udp ∧ p.sport = 68 ∧ p.dport = 67 ∧ p.dst = .v4 .broadcast) ∨
    ∃ net ∈ servers, ∃ ip, p.dst = .v4 ip ∧ net.contains ip

/-- The networks of the NFS servers. -/
def serverNets (hosts : String → List Net) (mounts : List NFSMount) : List Net :=
  mounts.flatMap fun m => hosts m.server

variable {p : Packet} {sh : GuestShell} {cmds : List Command}

theorem Permitted.mono {port : Nat} {servers : List Net} {seen seen' : List IPv4}
    (more : seen ⊆ seen') (h : Permitted port servers seen p) : Permitted port servers seen' p := by
  refine h.imp_right (Or.imp_right (Or.imp_left ?_))
  rintro ⟨udp, dport, ip, mem, dst⟩
  exact ⟨udp, dport, ip, more mem, dst⟩

section Guard

variable (hosts : String → List Net) (cfg : WireGuardConfig) (mounts : List NFSMount)

/-- An entry that lets out nothing else. -/
def Narrow (seen : List IPv4) (e : Entry) : Prop := ∀ p, e.decides p = some .accept →
  Permitted (wireGuardEndpointPort cfg) (serverNets hosts mounts) seen p

/-- What holds once the commands `done` were executed. -/
structure Guarded (done : List Command) (seen : List IPv4) (g : Filter) : Prop where
  addrs : g.addrs ⊆ seen
  closed : .policy .v4 .output .drop ∈ done → g.v4.output.policy = .drop
  narrow : ∀ e ∈ g.v4.output.rules, Narrow hosts cfg mounts seen e

/-- The names of a command are plain, and it opens nothing else. -/
def Command.Keeps : Command → Prop
  | .policy .v4 .output target => target = .drop
  | .append .v4 .output rule => ∀ seen, Narrow hosts cfg mounts seen (.rule rule)
  | .pinEndpoint port => port = wireGuardEndpointPort cfg
  | .resolveEndpoint host => PlainHost host
  | .acceptServer server =>
    server ≠ "" ∧ PlainHost server.toList ∧ ∃ m ∈ mounts, m.server = server
  | _ => True

variable {hosts cfg mounts} {seen : List IPv4} {done : List Command} {g : Filter} {c : Command}

theorem narrow_rule {r : Rule} (permitted : ∀ p, r.hits p →
      Permitted (wireGuardEndpointPort cfg) (serverNets hosts mounts) seen p) :
    Narrow hosts cfg mounts seen (.rule r) := by
  intro p accepted
  by_cases hit : r.hits p
  · exact permitted p hit
  · simp [Entry.decides, hit] at accepted

theorem narrow_endpoint {ip : IPv4} (known : ip ∈ seen) :
    Narrow hosts cfg mounts seen (.rule (endpointRule (wireGuardEndpointPort cfg) ip)) := by
  apply narrow_rule
  intro p hit
  obtain ⟨udp, dport, dst⟩ := endpointRule_hits hit
  exact .inr (.inr (.inl ⟨udp, dport, ip, known, dst⟩))

theorem narrow_server {net : Net} (known : net ∈ serverNets hosts mounts) :
    Narrow hosts cfg mounts seen (.rule ⟨[.dst net], .accept⟩) := by
  apply narrow_rule
  intro p hit
  simp only [Rule.hits, all_cons, all_nil, Bool.and_true, Match.dst_hits_iff] at hit
  exact .inr (.inr (.inr (.inr (.inr ⟨net, known, hit⟩))))

/-- Such a command does what is meant. -/
theorem Command.Keeps.run {sh : GuestShell} (keeps : c.Keeps hosts cfg mounts)
    (resolved : List IPv4) (g : Filter) : c.run sh resolved g = c.exec sh.hosts resolved g := by
  cases c with
  | acceptServer server =>
    obtain ⟨named, plain, -⟩ : server ≠ "" ∧ PlainHost server.toList ∧ _ := keeps
    have line := line_plain sh plain (by simpa using named) g
    rw [String.ofList_toList] at line
    exact line
  | resolveEndpoint host => exact if_pos (readBack_plain keeps)
  | policy | append | flush | pinEndpoint | other => rfl

section

variable (h : Guarded hosts cfg mounts done seen g)

include h

theorem Guarded.mono {seen' : List IPv4} (more : seen ⊆ seen') :
    Guarded hosts cfg mounts done seen' g where
  addrs := List.Subset.trans h.addrs more
  closed := h.closed
  narrow e mem p accepted := (h.narrow e mem p accepted).mono more

theorem Guarded.behind (rules : List Entry)
    (narrow : ∀ e ∈ rules, Narrow hosts cfg mounts seen e) :
    Guarded hosts cfg mounts done seen (g.output (·.behind rules)) where
  addrs := h.addrs
  closed := h.closed
  narrow e mem := by
    rcases mem_append.mp mem with old | new
    · exact h.narrow e old
    · exact narrow e new

/-- A command other than the one that sets the policy adds nothing to what is to hold. -/
theorem Guarded.snoc (other : c ≠ .policy .v4 .output .drop) :
    Guarded hosts cfg mounts (done ++ [c]) seen g where
  addrs := h.addrs
  closed mem := by
    rcases mem_append.mp mem with old | new
    · exact h.closed old
    · exact absurd (mem_singleton.mp new).symm other
  narrow := h.narrow

theorem Guarded.command (keeps : c.Keeps hosts cfg mounts) (resolved : List IPv4) :
    Guarded hosts cfg mounts (done ++ [c]) (c.learns resolved ++ seen)
      (c.exec hosts resolved g) := by
  cases c with
  | policy family hook target =>
    match family, hook with
    | .v4, .output =>
      obtain rfl : target = .drop := keeps
      exact { addrs := h.addrs, closed := fun _ => rfl, narrow := h.narrow }
    | .v6, _ | .v4, .input | .v4, .forward => exact { h.snoc (by simp) with }
  | append family hook rule =>
    match family, hook with
    | .v4, .output =>
      apply (h.snoc (by simp)).behind [.rule rule]
      simpa using keeps seen
    | .v6, _ | .v4, .input | .v4, .forward => exact { h.snoc (by simp) with }
  | flush family =>
    cases family with
    | v6 => exact { h.snoc (by simp) with }
    | v4 =>
      exact { h.snoc (by simp) with
        narrow := by simp [Command.exec, Filter.update, Table.flush] }
  | resolveEndpoint host =>
    have more := (h.snoc (c := .resolveEndpoint host) (by simp)).mono
      (subset_append_right resolved seen)
    exact { more with addrs := by intro ip mem; simp_all [Command.exec, Command.learns] }
  | pinEndpoint port =>
    obtain rfl : port = wireGuardEndpointPort cfg := keeps
    simp only [Command.exec, Filter.foldl_append]
    apply (h.snoc (by simp)).behind
    intro e mem
    obtain ⟨ip, listed, rfl⟩ := mem_map.mp mem
    exact narrow_endpoint (h.addrs listed)
  | acceptServer server =>
    obtain ⟨-, -, m, mounted, rfl⟩ : server ≠ "" ∧ _ ∧ ∃ m ∈ mounts, m.server = server := keeps
    simp only [Command.exec, Filter.accept, Filter.foldl_append]
    apply (h.snoc (by simp)).behind
    intro e mem
    obtain ⟨net, listed, rfl⟩ := mem_map.mp mem
    exact narrow_server (mem_flatMap.mpr ⟨m, mounted, listed⟩)
  | other text => exact h.snoc (by simp)

theorem Guarded.repin {old : List IPv4} {run : Refresh} (known : run.answer ⊆ seen) :
    Guarded hosts cfg mounts done seen
      ((repinSteps (alpineFirewallCmds (wireGuardEndpointPort cfg)) old run.new).foldl
        Step.exec g) := by
  apply foldlRecOn _ _ h
  intro g' h' s mem
  rcases of_mem_repinSteps mem with ⟨ip, answered, rfl⟩ | rfl | ⟨ip, rfl⟩ | rfl
  · apply h'.behind [.rule (endpointRule _ ip)]
    simpa using narrow_endpoint (known answered)
  · exact { h' with addrs := fun ip listed => known (mem_sortUnique.mp listed) }
  · exact { h' with narrow := fun e kept => h'.narrow e (mem_of_mem_eraseP kept) }
  · exact h'

theorem Guarded.refresh (run : Refresh) : Guarded hosts cfg mounts done (run.answer ++ seen)
      (g.refresh (wireGuardEndpointPort cfg) run) := by
  have more := h.mono (subset_append_right run.answer seen)
  rw [Filter.refresh_eq]
  split
  · exact more
  · exact more.repin (subset_append_left run.answer seen)

end

end Guard

theorem nfsServers_mem {mounts : List NFSMount} {server : String}
    (mem : server ∈ nfsServers mounts) : server ≠ "" ∧ ∃ m ∈ mounts, m.server = server := by
  have all : ∀ name ∈ nfsServers mounts, name ≠ "" ∧ ∃ m ∈ mounts, m.server = name := by
    apply foldlRecOn (motive := fun out : List String =>
      ∀ name ∈ out, name ≠ "" ∧ ∃ m ∈ mounts, m.server = name)
    · simp
    · intro out known m mounted name mem
      split at mem
      · exact known name mem
      · rename_i new
        rcases mem_append.mp mem with old | last
        · exact known name old
        · obtain rfl := mem_singleton.mp last
          exact ⟨fun empty => new (.inl empty), m, mounted, rfl⟩
  exact all server mem

/-- With plain names, the commands of a build do what `build` has them do. -/
theorem build_plain (keeps : ∀ c ∈ cmds, c.Keeps sh.hosts cfg mounts) (resolved : List IPv4)
    (g : Filter) : cmds.foldl (Command.run sh resolved) g = build sh.hosts resolved cmds g :=
  foldl_ext _ _ _ fun g c mem => (keeps c mem).run resolved g

/-- The names that come from elsewhere mean nothing to the shell. -/
structure PlainNames (cfg : WireGuardConfig) (mounts : List NFSMount) : Prop where
  endpoint : PlainHost (wireGuardEndpointHost cfg)
  servers : ∀ m ∈ mounts, PlainHost m.server.toList

variable (hosts : String → List Net) {cfg : WireGuardConfig} {mounts : List NFSMount}

section Keeps

variable (plain : PlainNames cfg mounts)

include plain

theorem outbound_keeps : ∀ c ∈ outboundCmds cfg, c.Keeps hosts cfg mounts := by
  have narrow {r : Rule} (permitted : ∀ p, r.hits p → ∀ seen,
      Permitted (wireGuardEndpointPort cfg) (serverNets hosts mounts) seen p) (seen : List IPv4) :
      Narrow hosts cfg mounts seen (.rule r) :=
    narrow_rule fun p hit => permitted p hit seen
  have lo := narrow (r := ⟨[.outIface "lo"], .accept⟩) fun p hit seen =>
    .inl (by simpa [Rule.hits, Match.hits] using hit)
  have wg := narrow (r := ⟨[.outIface "wg0"], .accept⟩) fun p hit seen =>
    .inr (.inl (by simpa [Rule.hits, Match.hits] using hit))
  have ssh := narrow (r := sshRule) fun p hit seen =>
    .inr (.inr (.inr (.inl (by simpa [sshRule, Rule.hits, Match.hits] using hit))))
  have dhcp := narrow (r := dhcpRule) fun p hit seen => by
    simp only [dhcpRule, Rule.hits, all_cons, all_nil, Bool.and_true, Bool.and_eq_true,
      Match.dst_hits_iff, Net.contains_single] at hit
    obtain ⟨udp, sport, dport, ip, dst, rfl⟩ := hit
    refine .inr (.inr (.inr (.inr (.inl ⟨?_, ?_, ?_, dst⟩))))
    · simpa [Match.hits] using udp
    · simpa [Match.hits] using sport
    · simpa [Match.hits] using dport
  simp [outboundCmds, wgResolveEndpointCmd, Command.Keeps, plain.endpoint, lo, wg, ssh, dhcp]

theorem torrentTunnel_keeps : ∀ c ∈ torrentTunnelCmds cfg mounts, c.Keeps hosts cfg mounts := by
  intro c mem
  simp only [torrentTunnelCmds, mem_append, mem_map] at mem
  rcases mem with (((⟨server, listed, rfl⟩ | up) | hook) | local') | refresh
  · obtain ⟨named, m, mounted, rfl⟩ := nfsServers_mem listed
    exact ⟨named, plain.servers m mounted, m, mounted, rfl⟩
  · simp_all [Command.Keeps]
  · rcases (by simpa [bootHookCmds] using hook) with rfl | rfl <;> trivial
  · simp_all [Command.Keeps]
  · unfold alpineWGEndpointRefreshCmds at refresh
    split at refresh
    · simp at refresh
    · revert c
      simp [Command.Keeps]

/-- The commands of the template leave OUTPUT narrow. -/
theorem torrent_keeps :
    ∀ c ∈ torrentAlpineKillSwitchCmds (some cfg) mounts, c.Keeps hosts cfg mounts := by
  simp only [torrentAlpineKillSwitchCmds, forall_mem_append]
  refine ⟨⟨⟨?_, ?_⟩, outbound_keeps hosts plain, torrentTunnel_keeps hosts plain⟩, ?_⟩
  · simp [inboundCmds, Command.Keeps]
  · simp [wgDropIPv6Cmds, Command.Keeps]
  · simp [persistCmds, wgPersistIPv6Cmds, Command.Keeps]

end Keeps

/-! ## IPv6 -/

def Command.execV6 (t : Table) : Command → Table
  | .policy .v6 hook target => t.update (fun c => { c with policy := target }) hook
  | .append .v6 hook rule => t.update (·.append (.rule rule)) hook
  | .flush .v6 => t.flush
  | _ => t

theorem exec_v6 (resolved : List IPv4) (g : Filter) (c : Command) :
    (c.exec hosts resolved g).v6 = c.execV6 g.v6 := by
  cases c with
  | policy family => cases family <;> rfl
  | append family => cases family <;> rfl
  | flush family => cases family <;> rfl
  | pinEndpoint port => simp [Command.exec, Command.execV6, Filter.foldl_append]
  | acceptServer server => simp [Command.exec, Filter.accept, Command.execV6, Filter.foldl_append]
  | resolveEndpoint host => rfl
  | other text => rfl

theorem step_v6 (g : Filter) (s : Step) : (s.exec g).v6 = g.v6 := by
  cases s <;> rfl

theorem refresh_v6 (port : Nat) (g : Filter) (run : Refresh) : (g.refresh port run).v6 = g.v6 := by
  apply foldlRecOn (motive := fun g' : Filter => g'.v6 = g.v6)
  · rfl
  · intro g' same s _
    rw [step_v6, same]

theorem refreshIn_plain (plain : PlainHost (wireGuardEndpointHost cfg)) (g : Filter)
    (run : Refresh) : g.refreshIn sh cfg run = g.refresh (wireGuardEndpointPort cfg) run :=
  if_pos (readBack_plain plain)

theorem foldl_execV6_of_quiet (quiet : ∀ c ∈ cmds, ∀ t, c.execV6 t = t) (t : Table) :
    cmds.foldl Command.execV6 t = t := by
  apply foldlRecOn (motive := fun t' : Table => t' = t)
  · rfl
  · intro t' same c mem
    rw [quiet c mem, same]

/-- The IPv6 table that the template leaves: loopback, and nothing else. -/
def closedV6 : Table where
  input := { policy := .drop, rules := [.rule ⟨[.inIface "lo"], .accept⟩] }
  forward := { policy := .drop }
  output := { policy := .drop, rules := [.rule ⟨[.outIface "lo"], .accept⟩] }

theorem dropIPv6_closes (t : Table) :
    (inboundCmds ++ wgDropIPv6Cmds).foldl Command.execV6 t = closedV6 := rfl

/-- Behind the IPv6 commands nothing touches the IPv6 table. -/
theorem tunnel_quietV6 (cfg : WireGuardConfig) (mounts : List NFSMount) :
    ∀ c ∈ outboundCmds cfg ++ torrentTunnelCmds cfg mounts ++ persistCmds,
      ∀ t, c.execV6 t = t := by
  have refresh : ∀ c ∈ alpineWGEndpointRefreshCmds cfg, ∀ t, c.execV6 t = t := by
    unfold alpineWGEndpointRefreshCmds
    split <;> simp [Command.execV6]
  have servers : ∀ c ∈ (nfsServers mounts).map Command.acceptServer, ∀ t, c.execV6 t = t := by
    simp [Command.execV6]
  simp only [torrentTunnelCmds, forall_mem_append]
  refine ⟨⟨?_, ⟨⟨⟨servers, ?_⟩, ?_⟩, ?_⟩, refresh⟩, ?_⟩ <;>
    simp [outboundCmds, wgResolveEndpointCmd, bootHookCmds, persistCmds, wgPersistIPv6Cmds,
      Command.execV6]

theorem closedV6_accepts {hook : Hook} (accepted : (closedV6.chain hook).judge p = .accept) :
    (hook = .input ∧ p.inIface = "lo") ∨ (hook = .output ∧ p.outIface = "lo") := by
  rcases RuleChain.verdict_cases accepted with policy | ⟨e, mem, told⟩
  · cases hook <;> cases policy
  cases hook with
  | forward => cases mem
  | input =>
    obtain rfl := mem_singleton.mp mem
    simpa [Entry.decides, Rule.hits, Match.hits] using told
  | output =>
    obtain rfl := mem_singleton.mp mem
    simpa [Entry.decides, Rule.hits, Match.hits] using told

/-! ## The whole guest -/

section Guest

variable {sh : GuestShell} {input forward : Chain} {v6 : Table}
variable {done rest : List Command} {seen : List IPv4} {g : Filter}

theorem Reached.guarded (plain : PlainNames cfg mounts)
    (reached : Reached sh cfg (.image input forward v6) done seen g)
    (keeps : ∀ c ∈ done, c.Keeps sh.hosts cfg mounts) :
    Guarded sh.hosts cfg mounts done seen g ∧ g.v6 = done.foldl Command.execV6 v6 := by
  induction reached with
  | start => exact ⟨⟨by simp [Filter.image], by simp, by simp [Filter.image]⟩, rfl⟩
  | command before c resolved ih =>
    obtain ⟨earlier, last⟩ := forall_mem_append.mp keeps
    have here := last c mem_cons_self
    obtain ⟨guarded, closed⟩ := ih earlier
    rw [here.run, exec_v6, foldl_append, closed]
    exact ⟨guarded.command here resolved, rfl⟩
  | refresh before run ih =>
    obtain ⟨guarded, closed⟩ := ih keeps
    rw [refreshIn_plain plain.endpoint, refresh_v6]
    exact ⟨guarded.refresh run, closed⟩

/-- Once the policy command is done, the IPv6 table is closed. -/
theorem armed_closesV6 (program : torrentAlpineKillSwitchCmds (some cfg) mounts = done ++ rest)
    (armed : .policy .v4 .output .drop ∈ done) : done.foldl Command.execV6 v6 = closedV6 := by
  have parts : inboundCmds ++ wgDropIPv6Cmds ++
      (outboundCmds cfg ++ torrentTunnelCmds cfg mounts ++ persistCmds) = done ++ rest := by
    rw [← program]
    simp [torrentAlpineKillSwitchCmds]
  rcases append_eq_append_iff.mp parts with ⟨mid, rfl, behind⟩ | ⟨tail, ahead, -⟩
  · rw [foldl_append, dropIPv6_closes]
    apply foldl_execV6_of_quiet
    intro c mem
    apply tunnel_quietV6 cfg mounts c
    rw [behind]
    exact mem_append_left _ mem
  · -- The policy command stands behind the IPv6 commands.
    have early : Command.policy .v4 .output .drop ∈ inboundCmds ++ wgDropIPv6Cmds := by
      rw [ahead]
      exact mem_append_left _ armed
    exact absurd early (by decide)

/-- From the moment the policy for OUTPUT is set, a guest with plain names lets out the permitted
packets only, and over IPv6 nothing but loopback gets through. -/
theorem killSwitch_lets_out_permitted (plain : PlainNames cfg mounts)
    (program : torrentAlpineKillSwitchCmds (some cfg) mounts = done ++ rest)
    (armed : .policy .v4 .output .drop ∈ done)
    (reached : Reached sh cfg (.image input forward v6) done seen g) :
    (∀ p, g.v4.output.judge p = .accept →
      Permitted (wireGuardEndpointPort cfg) (serverNets sh.hosts mounts) seen p) ∧
    ∀ hook p, (g.v6.chain hook).judge p = .accept →
      (hook = .input ∧ p.inIface = "lo") ∨ (hook = .output ∧ p.outIface = "lo") := by
  have keeps : ∀ c ∈ done, c.Keeps sh.hosts cfg mounts := by
    intro c member
    apply torrent_keeps sh.hosts plain c
    rw [program]
    exact mem_append_left rest member
  obtain ⟨guarded, closed⟩ := reached.guarded plain keeps
  constructor
  · intro p accepted
    rcases RuleChain.verdict_cases accepted with policy | ⟨e, member, told⟩
    · rw [guarded.closed armed] at policy
      cases policy
    · exact guarded.narrow e member p told
  · intro hook p accepted
    rw [closed, armed_closesV6 program armed] at accepted
    exact closedV6_accepts accepted

theorem reached_run (sh : GuestShell) (cfg : WireGuardConfig) (start : Filter)
    (resolved : List IPv4) (cmds : List Command) :
    ∃ seen, Reached sh cfg start cmds seen (cmds.foldl (Command.run sh resolved) start) := by
  induction cmds using reverseRecOn with
  | nil => exact ⟨[], .start⟩
  | append_singleton cmds c ih =>
    obtain ⟨seen, before⟩ := ih
    rw [foldl_append]
    exact ⟨_, before.command c resolved⟩

/-- A guest in which every name is the address of one server, and nothing else happens. -/
def oneServer : GuestShell where
  hosts _ := [{ addr := .ofOctets 192 168 1 10 }]
  other _ g := g

/-- A guest that was built and whose endpoint then moved. -/
theorem moved_endpoint_lets_out_permitted :
    let cmds := torrentAlpineKillSwitchCmds (some someEndpoint) [⟨"nas"⟩]
    let g := (cmds.foldl (Command.run oneServer [⟨198, 51, 100, 7⟩]) openImage).refreshIn oneServer
      someEndpoint { answer := [⟨198, 51, 100, 8⟩] }
    ∃ seen, Reached oneServer someEndpoint openImage cmds seen g ∧
      ∀ p, g.v4.output.judge p = .accept →
        Permitted 51820 (serverNets oneServer.hosts [⟨"nas"⟩]) seen p := by
  intro cmds g
  obtain ⟨seen, built⟩ := reached_run oneServer someEndpoint openImage [⟨198, 51, 100, 7⟩] cmds
  have reached := built.refresh { answer := [⟨198, 51, 100, 8⟩] }
  have plain : PlainNames someEndpoint [⟨"nas"⟩] := by
    constructor
    · exact all_eq_true.mp (by decide)
    · exact forall_mem_singleton.mpr (all_eq_true.mp (by decide))
  exact ⟨_, reached,
    (killSwitch_lets_out_permitted plain (append_nil cmds).symm (by decide) reached).1⟩

/-- The name of a server that goes on with a command of its own. -/
def openingServer : NFSMount := ⟨"nas -j ACCEPT; iptables -P OUTPUT ACCEPT #"⟩

/-- The shell executes what stands behind the semicolon, and everything gets out. -/
theorem server_name_opens_output :
    let cmds := torrentAlpineKillSwitchCmds (some someEndpoint) [openingServer]
    ∃ seen g p, Reached oneServer someEndpoint openImage cmds seen g ∧
      g.v4.output.judge p = .accept ∧
      ¬ Permitted 51820 (serverNets oneServer.hosts [openingServer]) seen p := by
  intro cmds
  obtain ⟨seen, built⟩ := reached_run oneServer someEndpoint openImage [] cmds
  have outside : ¬ Net.contains { addr := .ofOctets 192 168 1 10 } ⟨203, 0, 113, 5⟩ := by decide
  refine ⟨seen, _, { outIface := "eth0", dst := .v4 ⟨203, 0, 113, 5⟩, transport := .tcp }, built,
    by decide, ?_⟩
  simp [Permitted, serverNets, oneServer, outside]

end Guest

end Vee.Templates
