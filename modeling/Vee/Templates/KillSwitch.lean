import Mathlib.Data.List.Dedup
import Mathlib.Data.List.Sort
import Vee.Guest.Iptables

/-!
# Kill switches

The firewall commands of the torrent and bitmagnet templates on Alpine
(`internal/templates/torrent_alpine.go`, `bitmagnet.go`) and the endpoint-refresh script
(`wgkillswitch.go`). Other commands stand with their text only.
-/

namespace Vee.Templates

open Guest

/-- `WireGuardConfig`, as far as the firewall looks at it. -/
structure WireGuardConfig where
  endpoint : Text

/-- `NFSMount`; the export and the mount point do not matter here. -/
structure NFSMount where
  server : String

def wgEndpointAddrsFile : String := "/etc/wireguard/endpoint-addrs"

def wgDefaultEndpointPort : Nat := 51820

def wgRefreshScriptPath : String := "/usr/local/sbin/vee-wg-refresh-endpoint"

variable (cfg : WireGuardConfig)

def wireGuardEndpointHost : Text :=
  let unbracketed := ((cutLast ':' cfg.endpoint).map (·.1)).getD cfg.endpoint
  match cfg.endpoint with
  | '[' :: rest => if ']' ∈ rest then rest.takeWhile (· ≠ ']') else unbracketed
  | _ => unbracketed

def wireGuardEndpointPort : Nat :=
  match (cutLast ':' cfg.endpoint).bind fun cut => scanInt cut.2 with
  | none => wgDefaultEndpointPort
  | some port => if port ≤ 0 ∨ 65535 < port then wgDefaultEndpointPort else port.toNat

/-- A dotted IPv4 literal; a byte has no leading zeros. -/
def isIPv4Literal (text : Text) : Bool :=
  let pieces := text.splitOn '.'
  pieces.length = 4 && pieces.all fun piece =>
    (digitsValue piece).any (· ≤ 255) && piece.length ≤ 3 && piece ≠ [] &&
      (piece.head? ≠ some '0' || piece.length = 1)

def isHexDigit (c : Char) : Bool :=
  c.isDigit || ('a' ≤ c && c ≤ 'f') || ('A' ≤ c && c ≤ 'F')

/-- The number of groups between colons; an IPv4 literal at the end stands for two. -/
def groupCount (mayEndIPv4 : Bool) (text : Text) : Option Nat :=
  if text = [] then some 0
  else
    let pieces := text.splitOn ':'
    let group (piece : Text) := piece ≠ [] ∧ piece.length ≤ 4 ∧ piece.all isHexDigit
    if pieces.all group then some pieces.length
    else if mayEndIPv4 && pieces.dropLast.all group && pieces.getLast?.any isIPv4Literal then
      some (pieces.length + 1)
    else none

/-- What stands before and behind the first double colon. -/
def cutDoubleColon : Text → Option (Text × Text)
  | ':' :: ':' :: rest => some ([], rest)
  | c :: rest => (cutDoubleColon rest).map fun cut => (c :: cut.1, cut.2)
  | [] => none

/-- `net.ParseIP` does not fail. -/
def isIPLiteral (text : Text) : Bool :=
  isIPv4Literal text ||
    match cutDoubleColon text with
    | none => groupCount true text = some 8
    | some (left, right) =>
      match groupCount false left, groupCount true right with
      | some m, some n => m + n ≤ 7
      | _, _ => false

def wgEndpointIsLiteralIP : Bool := isIPLiteral (wireGuardEndpointHost cfg)

/-- `nfsServers`: the servers, each once. -/
def nfsServers (mounts : List NFSMount) : List String :=
  mounts.foldl (fun out m =>
    if m.server = "" ∨ m.server ∈ out then out else out ++ [m.server]) []

inductive Family where
  | v4
  | v6
  deriving DecidableEq, Repr

/-- The command that edits the tables of a family. -/
def Family.tool : Family → String
  | .v4 => "iptables"
  | .v6 => "ip6tables"

/-- One command of the build. -/
inductive Command where
  /-- `-P`. -/
  | policy (family : Family) (hook : Hook) (target : Verdict)
  /-- `-A`. -/
  | append (family : Family) (hook : Hook) (rule : Rule)
  /-- `-F`. -/
  | flush (family : Family)
  /-- `wgResolveEndpointCmd`. -/
  | resolveEndpoint (host : Text)
  /-- The loop that opens the handshake holes. -/
  | pinEndpoint (port : Nat)
  /-- `-A OUTPUT -d`, for a server by name or address. -/
  | acceptServer (server : String)
  | other (text : String)
  deriving DecidableEq, Repr

/-- The command line. -/
def Command.text : Command → String
  | .policy family hook target =>
    family.tool ++ " -P " ++ hook.text ++ " " ++ target.text
  | .append family hook rule => family.tool ++ " -A " ++ hook.text ++ " " ++ rule.text
  | .flush family => family.tool ++ " -F"
  | .resolveEndpoint host =>
    "mkdir -p /etc/wireguard && getent ahostsv4 " ++ goQuote (String.ofList host) ++
      " | awk '\x7bprint $1\x7d' | sort -u > " ++ wgEndpointAddrsFile
  | .pinEndpoint port =>
    "for ip in $(cat " ++ wgEndpointAddrsFile ++
      "); do iptables -A OUTPUT -d \"$ip\" -p udp --dport " ++ toString port ++
      " -j ACCEPT; done"
  | .acceptServer server => "iptables -A OUTPUT -d " ++ server ++ " -j ACCEPT"
  | .other text => text

/-- The rule of a handshake hole. -/
def endpointRule (port : Nat) (ip : IPv4) : Rule :=
  ⟨[.dst { addr := ip }, .transport .udp, .dport port], .accept⟩

def wgResolveEndpointCmd : Command :=
  .resolveEndpoint (wireGuardEndpointHost cfg)

def wgDropIPv6Cmds : List Command :=
  [.policy .v6 .input .drop, .policy .v6 .output .drop, .policy .v6 .forward .drop, .flush .v6,
    .append .v6 .input ⟨[.inIface "lo"], .accept⟩, .append .v6 .output ⟨[.outIface "lo"], .accept⟩]

def wgPersistIPv6Cmds : List Command :=
  [.other "/etc/init.d/ip6tables save", .other "rc-update add ip6tables default"]

def alpineWGEndpointRefreshCmds : List Command :=
  if wgEndpointIsLiteralIP cfg then []
  else
    [.other ("printf '#!/bin/sh\\n" ++ wgRefreshScriptPath ++
        "\\nwg-quick up wg0\\n' > /etc/local.d/wg0.start"),
      .other "chmod 0755 /etc/local.d/wg0.start",
      .other "mkdir -p /etc/periodic/1min",
      .other ("printf '#!/bin/sh\\n" ++ wgRefreshScriptPath ++
        "\\n' > /etc/periodic/1min/vee-wg-refresh"),
      .other "chmod 0755 /etc/periodic/1min/vee-wg-refresh",
      .other ("grep -q '/etc/periodic/1min' /etc/crontabs/root || " ++
        "printf '* * * * * run-parts /etc/periodic/1min\\n' >> /etc/crontabs/root"),
      .other "rc-update add crond default",
      .other "rc-service crond restart"]

/-- The commands that both templates begin with. -/
def inboundCmds : List Command :=
  [.policy .v4 .input .drop, .policy .v4 .forward .drop,
    .append .v4 .input ⟨[.inIface "lo"], .accept⟩,
    .append .v4 .input ⟨[.ctstate [.established, .related]], .accept⟩,
    .append .v4 .input ⟨[.transport .tcp, .dport 22], .accept⟩]

/-- SSH replies. -/
def sshRule : Rule := ⟨[.transport .tcp, .sport 22, .ctstate [.established]], .accept⟩

/-- DHCP renewal. -/
def dhcpRule : Rule :=
  ⟨[.transport .udp, .sport 68, .dport 67, .dst { addr := .broadcast }], .accept⟩

/-- The policy for OUTPUT and the holes, as both templates have them. -/
def outboundCmds : List Command :=
  [wgResolveEndpointCmd cfg,
    .policy .v4 .output .drop,
    .append .v4 .output ⟨[.outIface "lo"], .accept⟩,
    .append .v4 .output ⟨[.outIface "wg0"], .accept⟩,
    .pinEndpoint (wireGuardEndpointPort cfg),
    .append .v4 .output sshRule,
    .append .v4 .output dhcpRule]

def persistCmds : List Command :=
  [.other "/etc/init.d/iptables save", .other "rc-update add iptables default"] ++ wgPersistIPv6Cmds

/-- The boot hook that brings the tunnel up. -/
def bootHookCmds : List Command :=
  [.other "printf '#!/bin/sh\\nwg-quick up wg0\\n' > /etc/local.d/wg0.start",
    .other "chmod 0755 /etc/local.d/wg0.start"]

/-- What the torrent template does behind the holes that both have. -/
def torrentTunnelCmds (nfsMounts : List NFSMount) : List Command :=
  (nfsServers nfsMounts).map .acceptServer ++ [.other "wg-quick up wg0"] ++ bootHookCmds ++
    [.other "rc-update add local default"] ++ alpineWGEndpointRefreshCmds cfg

def torrentAlpineKillSwitchCmds (wgConf : Option WireGuardConfig) (nfsMounts : List NFSMount) :
    List Command :=
  inboundCmds ++ wgDropIPv6Cmds ++
    (match wgConf with
      | some cfg => outboundCmds cfg ++ torrentTunnelCmds cfg nfsMounts
      | none => []) ++
    persistCmds

/-- The rule about the crawler's own traffic. -/
def crawlerRule : Rule := ⟨[.notOutIface "wg0", .gidOwner "bitmagnet"], .reject⟩

/-- What the bitmagnet template does behind the holes that both have. -/
def bitmagnetTunnelCmds : List Command :=
  let refresh := alpineWGEndpointRefreshCmds cfg
  [.append .v4 .output crawlerRule, .other "rc-update add wireguard default 2>/dev/null || true",
    .other "wg-quick up wg0"] ++ refresh ++ (if refresh = [] then bootHookCmds else []) ++
    [.other "rc-update add local default"]

def bitmagnetKillSwitchCmds (wgConf : Option WireGuardConfig) : List Command :=
  inboundCmds ++ wgDropIPv6Cmds ++
    (match wgConf with
      | some cfg => outboundCmds cfg ++ bitmagnetTunnelCmds cfg
      | none => []) ++
    persistCmds

end Vee.Templates
