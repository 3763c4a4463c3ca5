import Vee.Tunnel.Reconcile

/-!
# The vhost router

`activeRoutes` of `internal/vm/tunnel_daemon.go` and the handler of
`internal/vm/tunnel_router.go`, which listens on all addresses of the host. A request
counts by its Host header alone.
-/

namespace Vee.Tunnel

/-- A character of a DNS label. -/
def sanitizeChar (c : Char) : Option Char :=
  if ('a' ≤ c ∧ c ≤ 'z') ∨ ('0' ≤ c ∧ c ≤ '9') then some c
  else if c = '-' ∨ c = ' ' ∨ c = '_' ∨ c = '.' then some '-'
  else none

def sanitizeHostname (text : Text) : Text :=
  trimChar '-' ((toLowerText text).filterMap sanitizeChar)

/-- The label that a tunnel is routed under. -/
def ActiveTunnel.label (t : ActiveTunnel) : Text := sanitizeHostname t.spec.vhost.toList

/-- One round of `activeRoutes`. -/
def addRoute (out : GoMap Text ActiveTunnel) (t : ActiveTunnel) :
    GoMap Text ActiveTunnel :=
  if t.protocol ≠ .http ∧ t.protocol ≠ .https then out
  else if t.label = [] then out
  else
    match out.lookup t.label with
    | some existing =>
      if existing.spec.key < t.spec.key then out else out.insert t.label t
    | none => out.insert t.label t

/-- `activeRoutes`, for the order in which it ranges over the live tunnels. -/
def activeRoutes (order : List ActiveTunnel) : GoMap Text ActiveTunnel :=
  order.foldl addRoute ∅

def routerLabel (host : Text) : Text :=
  let host := (splitHostPort host).getD host
  let host := trimChar '.' (toLowerText host)
  sanitizeHostname (host.takeWhile (· ≠ '.'))

variable (hostname : Except String Text)

/-- `routerHostSuffix`, for what `os.Hostname` returns. -/
def routerHostSuffix : Text :=
  match hostname with
  | .error _ | .ok [] => "local".toList
  | .ok h => toLowerText (h.takeWhile (· ≠ '.'))

def htmlEscape (text : Text) : Text :=
  text.flatMap fun c =>
    if c = '&' then "&amp;".toList
    else if c = '<' then "&lt;".toList
    else if c = '>' then "&gt;".toList
    else if c = '"' then "&quot;".toList
    else if c = '\x27' then "&#39;".toList
    else [c]

/-- What a client gets: the index, or what the tunnel's listener answers at the target. -/
inductive Response where
  | index (status : Nat) (body : Text)
  | forwarded (t : ActiveTunnel) (target : Text)

def indexHead : Text :=
  ("<!DOCTYPE html><html><head><meta charset=\"utf-8\"><title>vee tunnels</title>" ++
    "<style>body\x7bfont-family:system-ui,monospace;background:#0d0d0d;color:#e0e0e0;" ++
    "padding:2rem\x7dh1\x7bcolor:#5af\x7da\x7bcolor:#5af\x7d" ++
    "li\x7bmargin:.3rem 0\x7dcode\x7bcolor:#888\x7d</style></head><body>" ++
    "<h1>vee tunnels</h1>").toList

/-- The line of the index page for one route. -/
def indexLine (suffix label : Text) (t : ActiveTunnel) : Text :=
  let host := htmlEscape (label ++ ".".toList ++ suffix)
  "<li><a href=\"http://".toList ++ host ++ "/\">".toList ++ host ++
    "</a> <code>&mdash; ".toList ++ htmlEscape t.spec.vm.toList ++ "/".toList ++
    htmlEscape t.spec.service.toList ++ " &rarr; guest:".toList ++ (toString t.guestPort).toList ++
    "</code></li>".toList

/-- `writeRouterIndex`, for what `os.Hostname` returns. -/
def writeRouterIndex (routes : GoMap Text ActiveTunnel) (requested : Text) : Response :=
  let labels := routes.keys.insertionSort (· ≤ ·)
  let suffix := routerHostSuffix hostname
  let status := if requested ≠ [] ∧ labels.length > 0 then 404 else 200
  let content :=
    if labels.length = 0 then
      ("<p>No HTTP tunnels are published.</p>" ++
        "<p><code>vee tunnel &lt;vm&gt; &lt;service&gt; --host --background</code></p>").toList
    else
      "<ul>".toList ++
        labels.flatMap (fun label => (routes.lookup label).elim [] (indexLine suffix label)) ++
        "</ul>".toList
  .index status (indexHead ++ content ++ "</body></html>".toList)

/-- `tunnelTargetURL`; a number makes a URL that parses. -/
def tunnelTargetURL (t : ActiveTunnel) : Text :=
  (if t.protocol = .https then "https".toList else "http".toList) ++ "://127.0.0.1:".toList ++
    (toString t.proxy.port).toList

/-- Forward by the label of the host name, or list the routes. -/
def tunnelRouterHandler (order : List ActiveTunnel) (host : Text) : Response :=
  let routes := activeRoutes order
  let label := routerLabel host
  match routes.lookup label with
  | none => writeRouterIndex hostname routes label
  | some t => .forwarded t (tunnelTargetURL t)

/-- The daemon's live tunnels, in one of the orders that Go may range over them. -/
def Daemon.live (d : Daemon) : List ActiveTunnel := d.active.entries.map (·.2)

end Vee.Tunnel
