import Vee.Misc.GoText
import Vee.Misc.RuleChain

/-!
# Packets and iptables

The filter tables of a guest, as far as the kill switches use them: the options of a
rule, what they match, and the first-match verdict of a chain.
-/

namespace Vee.Guest

structure IPv4 where
  a : Fin 256
  b : Fin 256
  c : Fin 256
  d : Fin 256
  deriving DecidableEq, Repr

namespace IPv4

/-- The decimal digits of a byte. -/
def octet (o : Fin 256) : Text := Nat.toDigits 10 o.val

/-- The dotted form. -/
def text (ip : IPv4) : Text :=
  octet ip.a ++ '.' :: octet ip.b ++ '.' :: octet ip.c ++ '.' :: octet ip.d

def value (ip : IPv4) : Nat := ((ip.a.val * 256 + ip.b.val) * 256 + ip.c.val) * 256 + ip.d.val

def broadcast : IPv4 := ⟨255, 255, 255, 255⟩

/-- An address by its four numbers. -/
def ofOctets (a b c d : Nat) : IPv4 :=
  ⟨Fin.ofNat 256 a, Fin.ofNat 256 b, Fin.ofNat 256 c, Fin.ofNat 256 d⟩

theorem value_injective : Function.Injective value := by
  rintro ⟨a, b, c, d⟩ ⟨a', b', c', d'⟩ same
  simp only [value] at same
  simp only [mk.injEq, Fin.ext_iff]
  omega

end IPv4

/-- An address with a prefix length. -/
structure Net where
  addr : IPv4
  bits : Nat := 32
  deriving DecidableEq, Repr

/-- The form that iptables reads; the length of a single address is not written. -/
def Net.text (net : Net) : String :=
  String.ofList net.addr.text ++ if net.bits = 32 then "" else "/" ++ toString net.bits

/-- The addresses of a network. -/
def Net.contains (net : Net) (ip : IPv4) : Bool :=
  net.addr.value >>> (32 - net.bits) = ip.value >>> (32 - net.bits)

theorem Net.contains_single {ip ip' : IPv4} : ({ addr := ip } : Net).contains ip' ↔ ip = ip' := by
  simp [Net.contains, IPv4.value_injective.eq_iff]

inductive Address where
  | v4 (ip : IPv4)
  | v6 (value : BitVec 128)

inductive Transport where
  | tcp
  | udp
  | other (number : Nat)
  deriving DecidableEq, Repr

def Transport.text : Transport → String
  | .tcp => "tcp"
  | .udp => "udp"
  | .other number => toString number

/-- The state that conntrack gives a packet. -/
inductive CtState where
  | new
  | established
  | related
  | invalid
  deriving DecidableEq, Repr

def CtState.text : CtState → String
  | .new => "NEW"
  | .established => "ESTABLISHED"
  | .related => "RELATED"
  | .invalid => "INVALID"

/-- The built-in chains of the filter table. -/
inductive Hook where
  | input
  | forward
  | output
  deriving DecidableEq, Repr

def Hook.text : Hook → String
  | .input => "INPUT"
  | .forward => "FORWARD"
  | .output => "OUTPUT"

/-- A packet at a hook. -/
structure Packet where
  inIface : String := ""
  outIface : String := ""
  dst : Address
  transport : Transport
  sport : Nat := 0
  dport : Nat := 0
  ctstate : CtState := .new
  /-- The group of the socket that it comes from. -/
  group : Option String := none

inductive Verdict where
  | accept
  | drop
  | reject
  deriving DecidableEq, Repr

def Verdict.text : Verdict → String
  | .accept => "ACCEPT"
  | .drop => "DROP"
  | .reject => "REJECT"

/-- An option of a rule that restricts the packets it is about. -/
inductive Match where
  | inIface (name : String)
  | outIface (name : String)
  | notOutIface (name : String)
  | dst (net : Net)
  | transport (kind : Transport)
  | sport (port : Nat)
  | dport (port : Nat)
  | ctstate (states : List CtState)
  | gidOwner (group : String)
  deriving DecidableEq, Repr

/-- The option as it is written. -/
def Match.text : Match → String
  | .inIface name => "-i " ++ name
  | .outIface name => "-o " ++ name
  | .notOutIface name => "! -o " ++ name
  | .dst net => "-d " ++ net.text
  | .transport kind => "-p " ++ kind.text
  | .sport port => "--sport " ++ toString port
  | .dport port => "--dport " ++ toString port
  | .ctstate states =>
    "-m conntrack --ctstate " ++ String.intercalate "," (states.map CtState.text)
  | .gidOwner group => "-m owner --gid-owner " ++ group

/-- The packets that an option lets through. -/
def Match.hits (p : Packet) : Match → Bool
  | .inIface name => p.inIface = name
  | .outIface name => p.outIface = name
  | .notOutIface name => p.outIface ≠ name
  | .dst net =>
    match p.dst with
    | .v4 ip => net.contains ip
    | .v6 _ => false
  | .transport kind => p.transport = kind
  | .sport port => p.sport = port
  | .dport port => p.dport = port
  | .ctstate states => p.ctstate ∈ states
  | .gidOwner group => p.group = some group

theorem Match.dst_hits_iff {net : Net} {p : Packet} :
    (Match.dst net).hits p ↔ ∃ ip, p.dst = .v4 ip ∧ net.contains ip := by
  cases h : p.dst <;> simp [Match.hits, h]

/-- A rule as it is given on the command line, options in order. -/
structure Rule where
  options : List Match
  target : Verdict
  deriving DecidableEq, Repr

/-- The rule as it is written behind the name of the chain. -/
def Rule.text (r : Rule) : String :=
  String.intercalate " " (r.options.map Match.text ++ ["-j " ++ r.target.text])

/-- The rule is about the packet. -/
def Rule.hits (r : Rule) (p : Packet) : Bool := r.options.all (·.hits p)

/-- What stands in a chain: a rule, or anything else that has a verdict for some
packets. -/
inductive Entry where
  | rule (rule : Rule)
  | custom (decides : Packet → Option Verdict)

namespace Entry

/-- The verdict of an entry, for the packets that it is about. -/
def decides : Entry → Packet → Option Verdict
  | .rule r, p => if r.hits p then some r.target else none
  | .custom decides, p => decides p

/-- The entry is this rule. -/
def is (r : Rule) : Entry → Bool
  | .rule r' => r' = r
  | .custom _ => false

theorem is_iff {r : Rule} {e : Entry} : e.is r = true ↔ e = .rule r := by
  cases e <;> simp [is]

end Entry

/-- A chain of a filter table. -/
abbrev Chain := RuleChain Entry Verdict

def Chain.judge (c : Chain) (p : Packet) : Verdict := c.verdict Entry.decides p

/-- The filter table of one address family. -/
structure Table where
  input : Chain
  forward : Chain
  output : Chain

namespace Table

def chain (t : Table) : Hook → Chain
  | .input => t.input
  | .forward => t.forward
  | .output => t.output

/-- Change one chain. -/
def update (t : Table) (f : Chain → Chain) : Hook → Table
  | .input => { t with input := f t.input }
  | .forward => { t with forward := f t.forward }
  | .output => { t with output := f t.output }

/-- `-F`. -/
def flush (t : Table) : Table where
  input := { t.input with rules := [] }
  forward := { t.forward with rules := [] }
  output := { t.output with rules := [] }

end Table

end Vee.Guest
