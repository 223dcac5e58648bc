import Flextunnel.Model.Dial
import Flextunnel.Model.Server

/-!
# Tunnel streams

What a server does with one data stream: read the request header, then serve a reserved
name itself, refuse a target outside the routed set, forward the request over a bridge,
or dial the target.

`requestPath servers` is the way of one request through a set of servers. Its state is
the stream that waits to be handled, a step is one run of `handle_socks_stream`, and a
label holds what the environment decides: whether the bridge's connection takes a stream,
what the network answers, whether a dial runs into its deadline. Streams share nothing a
handler writes to, so one request's path does not depend on the others.

The content of the reserved pages is left out; the path ends where one is served.

Unnamed source lines are of `core/proxy/server.rs`.
-/

set_option autoImplicit false

namespace Flextunnel.Model

open Lib

variable {EndpointId PublicKey : Type}

/-! ## One stream -/

inductive Route (EndpointId : Type) where
  /-- Dial the target and pipe. -/
  | exit (target : Target)
  /-- A page of the reserved namespace, the status page or the 404. -/
  | reserved (isStatus : Bool)
  | refuse (rep : Rep)
  | bridge (upstream : BridgeUpstream EndpointId) (target : Target)

/-- SOURCE: 756-758 -/
def ProxyServer.bridgeFor (server : ProxyServer EndpointId PublicKey) (target : Target) :
    Option (BridgeUpstream EndpointId) :=
  server.bridges.find? fun b => b.routedSet.allows target

/-- A request for a reserved host.
SOURCE: 917-927 -/
def routeReserved (host : String) (port : UInt16) : Route EndpointId :=
  if isLocalhostHost host then .exit (.domain "localhost" port)
  else .reserved (isStatusHost host)

/-- A request for any other target.
SOURCE: 934-952 -/
def ProxyServer.routeRequested (server : ProxyServer EndpointId PublicKey) (fromBridge : Bool)
    (requested : Target) : Route EndpointId :=
  if !server.routedSet.allows requested then .refuse .notAllowed
  else
    match if fromBridge then none else server.bridgeFor requested with
    | some upstream => .bridge upstream requested
    | none => .exit (applyAlias requested server.hostAliases)

/-- SOURCE: 917-952 -/
def ProxyServer.route (server : ProxyServer EndpointId PublicKey) (fromBridge : Bool)
    (requested : Target) : Route EndpointId :=
  match requested with
  | .domain host port =>
    if isReservedHost host then routeReserved host port
    else server.routeRequested fromBridge requested
  | .ip _ => server.routeRequested fromBridge requested

/-- The route of a stream with these bytes, and the bytes after the request.
SOURCE: 903-953 -/
def handleSocksStream (server : ProxyServer EndpointId PublicKey) (fromBridge : Bool) :
    Reader StreamError (Route EndpointId) := do
  let requested ← readRequest
  return server.route fromBridge requested

/-- What is written on a stream of the bridge's connection: the request, then whatever the
client sends after it.
SOURCE: 1113-1122 -/
def bridgedBytes (target : Target) (rest : List UInt8) : Except StreamError (List UInt8) := do
  let request ← writeRequest target
  return request ++ rest

/-! ## The path of a request -/

/-- A stream at a server: the ALPN of the connection it was opened on, and what its
opener sends. -/
structure Visit (EndpointId : Type) where
  server : EndpointId
  alpn : Alpn
  bytes : List UInt8
deriving DecidableEq, Repr

inductive PathEvent (EndpointId : Type) where
  | handled (visit : Visit EndpointId)
  | dialed (server : EndpointId) (target : Target) (events : List DialEvent)
  | page (server : EndpointId) (isStatus : Bool)
  | replied (server : EndpointId) (rep : Rep)
  | forwarded (server upstream : EndpointId) (bytes : List UInt8)
deriving DecidableEq, Repr

structure PathLabel where
  /-- The bridge has a live connection, and a stream could be opened on it. -/
  bridgeUp : Bool
  net : Net
  deadline : Option Nat

/-- A stream handled by the server it is at. A bridge's connection is made with
`BRIDGE_ALPN` and to the endpoint id of its configuration.
SOURCE: 903-953, 1086-1123,
core/proxy/bridge.rs:177-189 -/
def ProxyServer.visit (server : ProxyServer EndpointId PublicKey) (v : Visit EndpointId)
    (l : PathLabel) : Option (Visit EndpointId) × List (PathEvent EndpointId) :=
  match (handleSocksStream server (v.alpn == .bridge)).run v.bytes with
  | .error _ => (none, [.handled v])
  | .ok (.exit target, _) =>
    let (events, rep) := connectAndPipe l.net l.deadline target server.dnsForwarder
    (none, [.handled v, .dialed v.server target events, .replied v.server rep])
  | .ok (.reserved isStatus, _) => (none, [.handled v, .page v.server isStatus])
  | .ok (.refuse rep, _) => (none, [.handled v, .replied v.server rep])
  | .ok (.bridge upstream target, rest) =>
    if l.bridgeUp then
      match bridgedBytes target rest with
      | .ok bytes =>
        (some ⟨upstream.endpointId, .bridge, bytes⟩,
          [.handled v, .forwarded v.server upstream.endpointId bytes])
      | .error _ => (none, [.handled v])
    else (none, [.handled v, .replied v.server .hostUnreachable])

def requestPath (servers : EndpointId → Option (ProxyServer EndpointId PublicKey)) :
    Machine (Option (Visit EndpointId)) PathLabel (PathEvent EndpointId) where
  init := fun s => s.isSome
  step := fun s l => s.bind fun v => (servers v.server).map fun server => server.visit v l

/-! ## What a visit does -/

def Requests (bytes : List UInt8) (requested : Target) : Prop :=
  ∃ rest, readRequest.run bytes = .ok (requested, rest)

inductive VisitStep (server : ProxyServer EndpointId PublicKey) (v : Visit EndpointId) :
    Option (Visit EndpointId) → List (PathEvent EndpointId) → Prop
  /-- No request could be read. -/
  | unread : VisitStep server v none [.handled v]
  | page {host : String} {port : UInt16} {isStatus : Bool}
      (hreq : Requests v.bytes (.domain host port)) (hres : isReservedHost host = true) :
      VisitStep server v none [.handled v, .page v.server isStatus]
  | loopback {host : String} {port : UInt16} {events : List DialEvent} {rep : Rep}
      (hreq : Requests v.bytes (.domain host port)) (hres : isReservedHost host = true)
      (hhost : isLocalhostHost host = true)
      (hevents : ∀ e ∈ events, ∃ addr ∈ loopbackAddrs port, e = .connect addr) :
      VisitStep server v none [.handled v, .dialed v.server (.domain "localhost" port) events,
        .replied v.server rep]
  | refused {requested : Target} {rep : Rep} (hreq : Requests v.bytes requested)
      (hres : requested.isReserved = false) :
      VisitStep server v none [.handled v, .replied v.server rep]
  | exit {requested : Target} {events : List DialEvent} {rep : Rep}
      (hreq : Requests v.bytes requested) (hres : requested.isReserved = false)
      (hallows : server.routedSet.allows requested = true) :
      VisitStep server v none [.handled v,
        .dialed v.server (applyAlias requested server.hostAliases) events, .replied v.server rep]
  | forward {requested : Target} {upstream : EndpointId} (hreq : Requests v.bytes requested)
      (hres : requested.isReserved = false)
      (hallows : server.routedSet.allows requested = true) (halpn : v.alpn ≠ .bridge) :
      VisitStep server v (some ⟨upstream, .bridge, v.bytes⟩)
        [.handled v, .forwarded v.server upstream v.bytes]

/-- An allowed target exits here or, if no bridge sent it, crosses one. -/
theorem ProxyServer.routeRequested_cases (server : ProxyServer EndpointId PublicKey)
    (fromBridge : Bool) (requested : Target) :
    server.routedSet.allows requested = false ∧
        server.routeRequested fromBridge requested = .refuse .notAllowed ∨
      server.routedSet.allows requested = true ∧
        (server.routeRequested fromBridge requested =
            .exit (applyAlias requested server.hostAliases) ∨
          fromBridge = false ∧ ∃ upstream,
            server.routeRequested fromBridge requested = .bridge upstream requested) := by
  unfold ProxyServer.routeRequested
  cases hallows : server.routedSet.allows requested with
  | false => exact .inl ⟨rfl, rfl⟩
  | true =>
    refine .inr ⟨rfl, ?_⟩
    cases fromBridge with
    | true => exact .inl rfl
    | false =>
      cases hbridge : server.bridgeFor requested with
      | none => exact .inl rfl
      | some upstream => exact .inr ⟨rfl, upstream, rfl⟩

theorem ProxyServer.route_of_not_reserved (server : ProxyServer EndpointId PublicKey)
    (fromBridge : Bool) {requested : Target} (hres : requested.isReserved = false) :
    server.route fromBridge requested = server.routeRequested fromBridge requested := by
  cases requested with
  | ip addr => rfl
  | domain host port =>
    have hhost : isReservedHost host = false := hres
    simp [ProxyServer.route, hhost]

/-- **A forwarded request is the one that was received**, byte for byte. -/
theorem bridgedBytes_of_read {bytes rest : List UInt8} {requested : Target}
    (hread : readRequest.run bytes = .ok (requested, rest)) :
    bridgedBytes requested rest = .ok bytes := by
  obtain ⟨header, hbytes, hwrite, -⟩ := took_readRequest bytes requested rest hread
  rw [bridgedBytes, hwrite, hbytes]
  rfl

section

variable {server : ProxyServer EndpointId PublicKey} {fromBridge : Bool} {bytes rest : List UInt8}
  {requested : Target}

theorem handleSocksStream_of_read (hread : readRequest.run bytes = .ok (requested, rest)) :
    (handleSocksStream server fromBridge).run bytes =
      .ok (server.route fromBridge requested, rest) := by
  rw [handleSocksStream, StateT.run_bind, hread]
  rfl

theorem handleSocksStream_of_error {e : StreamError} (hread : readRequest.run bytes = .error e) :
    (handleSocksStream server fromBridge).run bytes = .error e := by
  rw [handleSocksStream, StateT.run_bind, hread]
  rfl

end

/-- Every visit of a server is one of these. -/
theorem ProxyServer.visit_step (server : ProxyServer EndpointId PublicKey) (v : Visit EndpointId)
    (l : PathLabel) : VisitStep server v (server.visit v l).1 (server.visit v l).2 := by
  unfold ProxyServer.visit
  cases hread : readRequest.run v.bytes with
  | error e =>
    rw [handleSocksStream_of_error hread]
    exact .unread
  | ok r =>
    obtain ⟨requested, rest⟩ := r
    have hreq : Requests v.bytes requested := ⟨rest, hread⟩
    rw [handleSocksStream_of_read hread]
    cases hres : requested.isReserved with
    | false =>
      rw [server.route_of_not_reserved _ hres]
      rcases server.routeRequested_cases (v.alpn == .bridge) requested with
        ⟨-, hroute⟩ | ⟨hallows, hroute | ⟨hfrom, upstream, hroute⟩⟩
      · rw [hroute]
        exact .refused hreq hres
      · rw [hroute]
        exact .exit hreq hres hallows
      rw [hroute]
      dsimp only
      split
      · rw [bridgedBytes_of_read hread]
        exact .forward hreq hres hallows (by simpa using hfrom)
      · exact .refused hreq hres
    | true =>
      match requested, hres with
      | .domain host port, hres =>
        have hhost : isReservedHost host = true := hres
        have hroute : server.route (v.alpn == .bridge) (.domain host port) =
            routeReserved host port := if_pos hhost
        rw [hroute, routeReserved]
        cases hlocal : isLocalhostHost host with
        | true =>
          refine .loopback hreq hhost hlocal fun e he => ?_
          exact mem_events_connectAndPipe_loopback rfl he
        | false => exact .page hreq hhost

/-! ## Two servers bridged to each other -/

def bridgedTo (ownId peer : String) : ProxyServer String String where
  ownId
  serverInstanceNonce := 0
  authorizedKeys := []
  bridges := [⟨"peer", peer, [], { cidrs := [tenNetwork] }, [], ["10.0.0.0/8"]⟩]
  hostAliases := ∅
  routedSet := { cidrs := [tenNetwork] }
  routedDomains := []
  routedCidrs := ["10.0.0.0/8"]
  dnsForwarder := none

def twoServers (id : String) : Option (ProxyServer String String) :=
  if id = "a" then some (bridgedTo "a" "b")
  else if id = "b" then some (bridgedTo "b" "a")
  else none

/-- `10.0.0.7:80`. -/
def tenTarget : Target := .ip (.v4 ⟨[10, 0, 0, 7], rfl⟩ 80)

def tenVisit : Visit String := ⟨"a", .client, [1, 1, 10, 0, 0, 7, 0, 80, 42]⟩

def quietNet : Net where
  connect := fun _ => .ok ()
  lookupHost := fun _ _ => .ok []
  lookupIp := fun _ _ => none

end Flextunnel.Model
