import Mathlib.Data.List.DropRight
import Vee.Misc.Shell
import Vee.Templates.KillSwitch

/-!
# The guest behind a kill switch

What the commands of a build and the endpoint-refresh script do to a guest. Every `iptables`
call is taken to succeed, except that `-D` of a rule that is not there changes nothing.
-/

namespace Vee.Templates

open Guest List

/-- The filter tables and the content of `wgEndpointAddrsFile`. -/
structure Filter where
  v4 : Table
  v6 : Table
  addrs : List IPv4 := []

namespace Filter

def update (g : Filter) (f : Table → Table) : Family → Filter
  | .v4 => { g with v4 := f g.v4 }
  | .v6 => { g with v6 := f g.v6 }

/-- Change the IPv4 OUTPUT chain. -/
def output (g : Filter) (f : Chain → Chain) : Filter := g.update (·.update f .output) .v4

/-- A guest as the image leaves it: OUTPUT of IPv4 is open and empty. -/
def image (input forward : Chain) (v6 : Table) : Filter where
  v4 := { input, forward, output := { policy := .accept } }
  v6

end Filter

/-- Byte order of two texts. -/
def textLE : Text → Text → Bool
  | [], _ => true
  | _ :: _, [] => false
  | a :: as, b :: bs => a.val < b.val || (a = b && textLE as bs)

/-- `sort -u` on addresses, one on a line. -/
def sortUnique (ips : List IPv4) : List IPv4 :=
  ips.dedup.insertionSort fun a b => textLE a.text b.text

variable (port : Nat) (hosts : String → List Net) (resolved : List IPv4) (g : Filter)

/-- The rules for a server: one for each network that `iptables` takes its name for. -/
def Filter.accept (g : Filter) (nets : List Net) : Filter :=
  nets.foldl (fun g net => g.output (·.append (.rule ⟨[.dst net], .accept⟩))) g

/-- What a command does whose words are the ones that are meant (`Command.run` has the shell in
between). The resolver answers `resolved` to a lookup of the endpoint, and `hosts` gives the
networks that `iptables` takes a server's name for. -/
def Command.exec : Command → Filter
  | .policy family hook target =>
    g.update (·.update (fun c => { c with policy := target }) hook) family
  | .append family hook rule => g.update (·.update (·.append (.rule rule)) hook) family
  | .flush family => g.update Table.flush family
  | .resolveEndpoint _ => { g with addrs := sortUnique resolved }
  | .pinEndpoint port =>
    g.addrs.foldl (fun g ip => g.output (·.append (.rule (endpointRule port ip)))) g
  | .acceptServer server => g.accept (hosts server)
  | .other _ => g

/-- The guest that a build leaves behind. -/
def build (cmds : List Command) (start : Filter) : Filter :=
  cmds.foldl (Command.exec hosts resolved) start

theorem build_append (cmds cmds' : List Command) (g : Filter) :
    build hosts resolved (cmds ++ cmds') g =
      build hosts resolved cmds' (build hosts resolved cmds g) :=
  foldl_append

/-- A step of the refresh script. -/
inductive Step where
  /-- `iptables -I OUTPUT`. -/
  | insert (rule : Rule)
  /-- `iptables -A OUTPUT`. -/
  | append (rule : Rule)
  /-- `iptables -D OUTPUT`. -/
  | delete (rule : Rule)
  /-- The new content of the address file. -/
  | writeAddrs (ips : List IPv4)
  /-- The endpoint is looked up. -/
  | lookup
  /-- The rules are saved, and the tunnel reads its config again. -/
  | restartTunnel

structure WgFirewallCmds where
  allowDNS : IPv4 → Step
  denyDNS : IPv4 → Step
  allowEndpoint : IPv4 → Step
  denyEndpoint : IPv4 → Step
  restartTunnel : Step

def alpineFirewallCmds : WgFirewallCmds where
  allowDNS ns := .insert (endpointRule 53 ns)
  denyDNS ns := .delete (endpointRule 53 ns)
  allowEndpoint ip := .append (endpointRule port ip)
  denyEndpoint ip := .delete (endpointRule port ip)
  restartTunnel := .restartTunnel

/-- `grep -qx`: a dot of the pattern stands for any character. -/
def grepLine : Text → Text → Bool
  | [], [] => true
  | p :: ps, c :: cs => (p = '.' || p = c) && grepLine ps cs
  | _, _ => false

/-- What a run of the script meets. -/
structure Refresh where
  /-- The IPv4 nameservers of the guest. -/
  nameservers : List IPv4 := []
  /-- The resolver's answer; none if it is not reached. -/
  answer : List IPv4

/-- `NS` of the script: loopback resolvers are left out. -/
def Refresh.ns (run : Refresh) : List IPv4 := sortUnique (run.nameservers.filter (·.a.val ≠ 127))

/-- `NEW` of the script. -/
def Refresh.new (run : Refresh) : List IPv4 := sortUnique run.answer

/-- The part of the script that pins the hole again. -/
def repinSteps (fw : WgFirewallCmds) (old new : List IPv4) : List Step :=
  new.map fw.allowEndpoint ++ [.writeAddrs new] ++
    (old.filter fun ip => !new.any fun line => grepLine ip.text line.text).map fw.denyEndpoint ++
    [fw.restartTunnel]

/-- `wgRefreshEndpointScript`, for the old content of the address file. -/
def wgRefreshEndpointScript (fw : WgFirewallCmds) (old : List IPv4) (run : Refresh) : List Step :=
  run.ns.map fw.allowDNS ++ [.lookup] ++ run.ns.map fw.denyDNS ++
    if run.new = [] ∨ run.new = old then [] else repinSteps fw old run.new

def Step.exec : Step → Filter
  | .insert rule => g.output (·.insert (.rule rule))
  | .append rule => g.output (·.append (.rule rule))
  | .delete rule => g.output (·.delete (Entry.is rule))
  | .writeAddrs ips => { g with addrs := ips }
  | .lookup => g
  | .restartTunnel => g

/-- The steps that a run can take. -/
inductive ScriptStep (port : Nat) (run : Refresh) : Step → Prop where
  | allowDNS (ns : IPv4) : ScriptStep port run (.insert (endpointRule 53 ns))
  | denyDNS (ns : IPv4) : ScriptStep port run (.delete (endpointRule 53 ns))
  | lookup : ScriptStep port run .lookup
  | allowEndpoint {ip : IPv4} (answered : ip ∈ run.answer) :
    ScriptStep port run (.append (endpointRule port ip))
  | writeAddrs : ScriptStep port run (.writeAddrs run.new)
  | denyEndpoint (ip : IPv4) : ScriptStep port run (.delete (endpointRule port ip))
  | restartTunnel : ScriptStep port run .restartTunnel

/-- The steps of a run in a guest with an iptables base. -/
def Filter.refreshSteps (run : Refresh) : List Step :=
  wgRefreshEndpointScript (alpineFirewallCmds port) g.addrs run

/-- A whole run. -/
def Filter.refresh (run : Refresh) : Filter :=
  (g.refreshSteps port run).foldl Step.exec g

/-! ## The shell of the guest

The name of a server stands in its command as it is, and the endpoint's host between the double
quotes of `%q`. The shell reads both. -/

/-- What the commands meet beside the tables. -/
structure GuestShell where
  /-- The networks that `iptables` takes a name for. -/
  hosts : String → List Net
  /-- What a text does that is not read here. -/
  other : Text → Filter → Filter

/-- A simple command. Of `iptables`, the rule for a server and the policy that opens OUTPUT are
read. -/
def GuestShell.simple (sh : GuestShell) (line : Text) (c : Shell.Command) (g : Filter) :
    Filter :=
  match c.writes, c.words with
  | [], [tool, add, chain, dst, server, jump, target] =>
    if [tool, add, chain, dst, jump, target] =
        ["iptables", "-A", "OUTPUT", "-d", "-j", "ACCEPT"].map String.toList then
      g.accept (sh.hosts (String.ofList server))
    else sh.other line g
  | [], words =>
    if words = ["iptables", "-P", "OUTPUT", "ACCEPT"].map String.toList then
      g.output fun chain => { chain with policy := .accept }
    else sh.other line g
  | _, _ => sh.other line g

/-- A line that is a list of simple commands. -/
def GuestShell.line (sh : GuestShell) (line : Text) (g : Filter) : Filter :=
  match Shell.inert (.plain none) line, Shell.parse line with
  | true, some script =>
    script.foldl (fun g pipeline => match pipeline with
      | [c] => sh.simple line c g
      | _ => sh.other line g) g
  | _, _ => sh.other line g

/-- The shell reads the text of `%q` as the word that was quoted. -/
def readBack (word : Text) : Bool :=
  Shell.lex (.plain none) (goQuote (String.ofList word)).toList = some [.word word]

/-- What a command of the build does in the guest. -/
def Command.run (sh : GuestShell) (resolved : List IPv4) (g : Filter) (c : Command) : Filter :=
  match c with
  | .acceptServer _ => sh.line c.text.toList g
  | .resolveEndpoint host =>
    if readBack host then c.exec sh.hosts resolved g else sh.other c.text.toList g
  | c => c.exec sh.hosts resolved g

/-- A run of the script in the guest, which begins with `HOST=%q`. -/
def Filter.refreshIn (sh : GuestShell) (cfg : WireGuardConfig) (g : Filter) (run : Refresh) :
    Filter :=
  let host := wireGuardEndpointHost cfg
  if readBack host then g.refresh (wireGuardEndpointPort cfg) run
  else sh.other ("HOST=" ++ goQuote (String.ofList host)).toList g

/-! ## The script on any address file -/

/-- `$(...)`: the shell drops NUL characters and the newlines at the end. -/
def substituted (output : Text) : Text :=
  (output.filter (· ≠ '\x00')).rdropWhile (· = '\n')

/-- The output of `sort -u`, one address on a line. -/
def addrLines (ips : List IPv4) : Text := ips.flatMap fun ip => ip.text ++ ['\n']

/-- `$NEW` of the script. -/
def Refresh.newText (run : Refresh) : Text := substituted (addrLines run.new)

/-- `$OLD` of the script; there may be no file. -/
def oldText (file : Option Text) : Text := substituted (file.getD [])

/-- What becomes of a text that may be anything: the words of the unquoted `$OLD`, the lines
that `grep -qx` finds with a word, and the addresses that `iptables` takes it for. -/
structure Words where
  split : Text → List Text
  greps : Text → Text → Bool
  hosts : Text → List IPv4

/-- The lookup, with the hole for it. -/
def lookupSteps (fw : WgFirewallCmds) (run : Refresh) : List Step :=
  run.ns.map fw.allowDNS ++ [.lookup] ++ run.ns.map fw.denyDNS

/-- `wgRefreshEndpointScript`, for an address file with any text. -/
def wgRefreshEndpointText (fw : WgFirewallCmds) (words : Words) (file : Option Text)
    (run : Refresh) : List Step :=
  lookupSteps fw run ++
    if run.new = [] ∨ run.newText = oldText file then []
    else
      let withdrawn := (words.split (oldText file)).filter fun ip =>
        !run.new.any fun line => words.greps ip line.text
      run.new.map fw.allowEndpoint ++ [.writeAddrs run.new] ++
        (withdrawn.flatMap words.hosts).map fw.denyEndpoint ++ [fw.restartTunnel]

/-- What a step does to the tables and to the text of the address file. -/
def Step.execText (g : Filter × Option Text) (step : Step) : Filter × Option Text :=
  (step.exec g.1, match step with
    | .writeAddrs ips => some (substituted (addrLines ips) ++ ['\n'])
    | _ => g.2)

/-! ## Addresses and their texts -/

variable {ip : IPv4} {ips old : List IPv4} {port : Nat} {run : Refresh} {s : Step}

@[simp] theorem mem_sortUnique : ip ∈ sortUnique ips ↔ ip ∈ ips := by
  unfold sortUnique
  rw [mem_insertionSort, mem_dedup]

theorem nodup_sortUnique (ips : List IPv4) : (sortUnique ips).Nodup := by
  unfold sortUnique
  rw [(perm_insertionSort _ _).nodup_iff]
  exact nodup_dedup ips

@[simp] theorem sortUnique_eq_nil : sortUnique ips = [] ↔ ips = [] := by
  simp only [eq_nil_iff_forall_not_mem, mem_sortUnique]

variable (o : Fin 256)

theorem octet_value : digitsValue (IPv4.octet o) = some o.val := by
  revert o
  decide +kernel

theorem dot_not_mem_octet : '.' ∉ IPv4.octet o := by
  revert o
  decide +kernel

theorem octet_injective : Function.Injective IPv4.octet := by
  intro o o' same
  have values := octet_value o
  rw [same, octet_value o'] at values
  exact Fin.ext (Option.some.inj values).symm

theorem takeWhile_octet (rest : Text) :
    (IPv4.octet o ++ '.' :: rest).takeWhile (· ≠ '.') = IPv4.octet o := by
  rw [takeWhile_append_of_pos]
  · simp
  · intro c mem
    simpa using ne_of_mem_of_not_mem mem (dot_not_mem_octet o)

theorem octet_cons_inj {o o' : Fin 256} {rest rest' : Text}
    (same : IPv4.octet o ++ '.' :: rest = IPv4.octet o' ++ '.' :: rest') :
    o = o' ∧ rest = rest' := by
  have heads := congrArg (takeWhile (· ≠ '.')) same
  rw [takeWhile_octet, takeWhile_octet] at heads
  obtain rfl := octet_injective heads
  exact ⟨rfl, by simpa using same⟩

theorem text_injective : Function.Injective IPv4.text := by
  rintro ⟨a, b, c, d⟩ ⟨a', b', c', d'⟩ same
  simp only [IPv4.text, append_assoc, cons_append] at same
  obtain ⟨sameA, same⟩ := octet_cons_inj same
  obtain ⟨sameB, same⟩ := octet_cons_inj same
  obtain ⟨sameC, same⟩ := octet_cons_inj same
  rw [sameA, sameB, sameC, octet_injective same]

theorem count_dot_text (ip : IPv4) : ip.text.count '.' = 3 := by
  have none : ∀ o, (IPv4.octet o).count '.' = 0 := fun o =>
    count_eq_zero.mpr (dot_not_mem_octet o)
  simp [IPv4.text, none]

/-- Each dot of a matching line stands under a dot of the pattern. -/
theorem grepLine_spec {pattern line : Text} (hit : grepLine pattern line) :
    line.count '.' ≤ pattern.count '.' ∧
      (line.count '.' = pattern.count '.' → pattern = line) := by
  fun_induction grepLine pattern line with
  | case1 => simp
  | case2 p ps c cs ih =>
    simp only [Bool.and_eq_true, Bool.or_eq_true, decide_eq_true_eq] at hit
    obtain ⟨bound, same⟩ := ih hit.2
    by_cases dot : p = c
    · subst dot
      simpa [count_cons] using ⟨bound, same⟩
    have wild : p = '.' := hit.1.resolve_right dot
    subst wild
    have other : (c == '.') = false := by simpa using Ne.symm dot
    simp only [count_cons, other, beq_self_eq_true]
    constructor
    · simp only [Bool.false_eq_true, ↓reduceIte]
      omega
    · intro counts
      simp only [Bool.false_eq_true, ↓reduceIte] at counts
      omega
  | case3 => simp at hit

theorem grepLine_refl (line : Text) : grepLine line line := by
  induction line with
  | nil => rfl
  | cons c cs ih => simp [grepLine, ih]

/-- Among addresses, the pattern finds the address itself only. -/
@[simp] theorem grepLine_text {line : IPv4} : grepLine ip.text line.text ↔ ip = line := by
  constructor
  · intro hit
    apply text_injective
    apply (grepLine_spec hit).2
    rw [count_dot_text, count_dot_text]
  · rintro rfl
    exact grepLine_refl _

theorem withdrawn_eq (old new : List IPv4) :
    (old.filter fun ip => !new.any fun line => grepLine ip.text line.text) =
      old.filter (· ∉ new) := by
  apply filter_congr
  intro ip _
  have found : (new.any fun line => grepLine ip.text line.text) = decide (ip ∈ new) := by
    rw [Bool.eq_iff_iff, any_eq_true, decide_eq_true_iff]
    simp
  rw [found, decide_not]

theorem wgRefreshEndpointText_addrLines (fw : WgFirewallCmds) {words : Words}
    (split : ∀ ips, words.split (substituted (addrLines ips)) = ips.map IPv4.text)
    (hosts : ∀ ip, words.hosts ip.text = [ip]) (greps : words.greps = grepLine) (old : List IPv4)
    (run : Refresh) :
    wgRefreshEndpointText fw words (some (addrLines old)) run =
      wgRefreshEndpointScript fw old run := by
  have same : run.newText = oldText (some (addrLines old)) ↔ run.new = old := by
    constructor
    · intro texts
      have words := congrArg words.split texts
      rw [Refresh.newText, oldText, Option.getD_some, split, split] at words
      exact text_injective.list_map words
    · intro same
      rw [Refresh.newText, same]
      rfl
  simp only [wgRefreshEndpointText, wgRefreshEndpointScript, lookupSteps, repinSteps, same]
  simp [oldText, split, greps, hosts, filter_map, flatMap_map, Function.comp_def]

theorem of_mem_repinSteps (mem : s ∈ repinSteps (alpineFirewallCmds port) old run.new) :
    (∃ ip ∈ run.answer, s = (alpineFirewallCmds port).allowEndpoint ip) ∨
      s = .writeAddrs run.new ∨
      (∃ ip, s = (alpineFirewallCmds port).denyEndpoint ip) ∨
      s = (alpineFirewallCmds port).restartTunnel := by
  simp only [repinSteps, mem_append, mem_map, mem_singleton] at mem
  rcases mem with ((⟨ip, listed, rfl⟩ | rfl) | ⟨ip, -, rfl⟩) | rfl
  · exact .inl ⟨ip, mem_sortUnique.mp listed, rfl⟩
  · exact .inr (.inl rfl)
  · exact .inr (.inr (.inl ⟨ip, rfl⟩))
  · exact .inr (.inr (.inr rfl))

theorem scriptStep_of_repin (mem : s ∈ repinSteps (alpineFirewallCmds port) old run.new) :
    ScriptStep port run s := by
  rcases of_mem_repinSteps mem with ⟨ip, answered, rfl⟩ | rfl | ⟨ip, rfl⟩ | rfl
  · exact .allowEndpoint answered
  · exact .writeAddrs
  · exact .denyEndpoint ip
  · exact .restartTunnel

theorem scriptStep_of_mem {g : Filter} (mem : s ∈ g.refreshSteps port run) :
    ScriptStep port run s := by
  rcases mem_append.mp mem with phase | pin
  · simp only [alpineFirewallCmds, mem_append, mem_map, mem_singleton] at phase
    rcases phase with (⟨ns, -, rfl⟩ | rfl) | ⟨ns, -, rfl⟩
    · exact .allowDNS ns
    · exact .lookup
    · exact .denyDNS ns
  · split at pin
    · cases pin
    · exact scriptStep_of_repin pin

/-! ## The chain behind a run -/

theorem endpointRule_hits {p : Packet} (hit : (endpointRule port ip).hits p) :
    p.transport = .udp ∧ p.dport = port ∧ p.dst = .v4 ip := by
  simp only [endpointRule, Rule.hits, all_cons, all_nil, Bool.and_true,
    Bool.and_eq_true, Match.dst_hits_iff, Net.contains_single] at hit
  obtain ⟨⟨ip', dst, rfl⟩, transport, dport⟩ := hit
  exact ⟨by simpa [Match.hits] using transport, by simpa [Match.hits] using dport, dst⟩

namespace Filter

variable (g : Filter) (f : Chain → Chain)

@[simp] theorem output_addrs : (g.output f).addrs = g.addrs := rfl
@[simp] theorem output_v6 : (g.output f).v6 = g.v6 := rfl
@[simp] theorem output_chain : (g.output f).v4.output = f g.v4.output := rfl

@[simp] theorem output_id : (g.output fun c => c) = g := rfl
@[simp] theorem output_output (f' : Chain → Chain) :
    (g.output f).output f' = g.output (f' ∘ f) := rfl

theorem foldl_append {α : Type} (entry : α → Entry) (xs : List α) (g : Filter) :
    xs.foldl (fun g x => g.output (·.append (entry x))) g = g.output (·.behind (xs.map entry)) := by
  induction xs generalizing g with
  | nil => simp
  | cons x xs ih => simp [ih, Function.comp_def]

theorem insert_all (rule : IPv4 → Rule) (ns : List IPv4) (g : Filter) :
    (ns.map fun n => Step.insert (rule n)).foldl Step.exec g =
      g.output (·.before (ns.reverse.map fun n => .rule (rule n))) := by
  induction ns generalizing g with
  | nil => simp
  | cons n ns ih => simp [ih, Step.exec, Function.comp_def]

variable {rule : IPv4 → Rule} {ns : List IPv4}

/-- Of rules that were inserted, deleting the first one takes away just that one, also if a
copy of it was there before. -/
theorem delete_first_inserted (distinct : Function.Injective rule) {n : IPv4}
    (nodup : (n :: ns).Nodup) (g : Filter) :
    Step.exec (g.output (·.before ((n :: ns).reverse.map fun n => .rule (rule n))))
        (.delete (rule n)) =
      g.output (·.before (ns.reverse.map fun n => .rule (rule n))) := by
  have fresh : ∀ e ∈ ns.reverse.map fun n => Entry.rule (rule n), ¬ e.is (rule n) := by
    intro e mem same
    obtain ⟨m, listed, rfl⟩ := mem_map.mp mem
    rw [Entry.is_iff, Entry.rule.injEq] at same
    apply (nodup_cons.mp nodup).1
    rw [← distinct same]
    exact mem_reverse.mp listed
  simp only [Step.exec, output_output]
  congr 1
  funext c
  simp only [reverse_cons, map_append, map_cons, map_nil,
    Function.comp_apply, ← RuleChain.insert_before]
  rw [RuleChain.before_delete fresh, RuleChain.insert_delete (Entry.is_iff.mpr rfl)]

/-- Deleting all rules that were inserted, in the order in which they were inserted. -/
theorem delete_inserted (distinct : Function.Injective rule) (nodup : ns.Nodup) (g : Filter) :
    (ns.map fun n => Step.delete (rule n)).foldl Step.exec
        (g.output (·.before (ns.reverse.map fun n => .rule (rule n)))) = g := by
  induction ns with
  | nil => rfl
  | cons n ns ih =>
    rw [map_cons, foldl_cons, delete_first_inserted distinct nodup]
    exact ih nodup.of_cons

theorem endpointRule_injective (port : Nat) : Function.Injective (endpointRule port) := by
  intro ip ip' same
  simpa [endpointRule] using same

theorem lookup_phase (port : Nat) (run : Refresh) (g : Filter) :
    (lookupSteps (alpineFirewallCmds port) run).foldl Step.exec g = g := by
  rw [lookupSteps, List.foldl_append, List.foldl_append]
  simp only [alpineFirewallCmds, insert_all, foldl_cons, foldl_nil, Step.exec]
  exact delete_inserted (endpointRule_injective 53) (nodup_sortUnique _) g

theorem refresh_eq (port : Nat) (g : Filter) (run : Refresh) : g.refresh port run =
      if run.new = [] ∨ run.new = g.addrs then g
      else (repinSteps (alpineFirewallCmds port) g.addrs run.new).foldl Step.exec g := by
  unfold refresh refreshSteps wgRefreshEndpointScript
  rw [List.foldl_append, ← lookupSteps, lookup_phase]
  split <;> rfl

/-- The rules while the hole is pinned again: first the new ones are added. -/
theorem allowEndpoint_all (port : Nat) (new : List IPv4) (g : Filter) :
    (new.map (alpineFirewallCmds port).allowEndpoint).foldl Step.exec g =
      g.output (·.behind (new.map fun ip => .rule (endpointRule port ip))) := by
  rw [foldl_map]
  exact foldl_append _ new g

end Filter

/-- The endpoint of a guest. -/
def someEndpoint : WireGuardConfig := ⟨"vpn.example.net:51820".toList⟩

/-- The image, with all chains open. -/
def openImage : Filter :=
  .image { policy := .accept } { policy := .accept }
    ⟨{ policy := .accept }, { policy := .accept }, { policy := .accept }⟩

end Vee.Templates
