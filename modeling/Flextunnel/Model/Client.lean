import Flextunnel.Lib.Machine
import Flextunnel.Model.Dial
import Flextunnel.Model.Frontends
import Flextunnel.Model.Registry

/-!
# The client

One run of a `ProxyClient`: the connection manager (connect, handshake, publish, maintain,
back off) interleaved with any number of local proxy connections. The two meet in two
slots, the route policy and the live connection; the manager writes them one after the
other, and a local connection reads them, possibly parked across several reconnects.

`proxyClient ctx` steps one await point at a time. A label says whose step it is and what
the environment decided: the outcome of a connect, the bytes of the server's response,
what a local application sent, the passing of time. Everything a request does is an event.

The policy slot belongs to the run and starts empty; the connection slot belongs to the
client and may still hold the connection of an earlier run. Heartbeats are left out (they
decide when `maintain` returns, which a label says), and so is the `Hello` but for its
advisory.

Unnamed source lines are of `core/proxy/client.rs`.
-/

set_option autoImplicit false

namespace Flextunnel.Model

open Lib

/-! ## Errors and configuration -/

/-- SOURCE: core/error.rs:34-60 -/
inductive ProxyError where
  | network (message : String)
  | config (message : String)
  | signaling (message : String)
  | authenticationFailed (message : String)
  | connectionLost (message : String)
  | duplicateServerId (message : String)
deriving DecidableEq, Repr

/-- SOURCE: core/error.rs:77-82 -/
def ProxyError.isRecoverable : ProxyError → Bool
  | .connectionLost _ | .network _ | .signaling _ => true
  | _ => false

/-- SOURCE: 47, 58, 60 -/
def rebuildEndpointAttempts : Nat := 3

@[inherit_doc rebuildEndpointAttempts]
def rebuildEndpointMinInterval : Nat := 30 * 60 * second

@[inherit_doc rebuildEndpointAttempts]
def reconnectJitterMaxMs : Nat := 500

/-- SOURCE: 38 -/
def reconnectBackoffMaxSecs : Nat := 60

/-- SOURCE: 141, 149 -/
def maxActiveLocalConns : Nat := 256

@[inherit_doc maxActiveLocalConns]
def maxHeldConns : Nat := 64

/-- SOURCE: 181-205 -/
structure ClientConfig where
  serverNodeId : String
  relayUrls : List String
  autoReconnect : Bool
  maxReconnectAttempts : Option { n : Nat // 0 < n ∧ n < 4294967296 }

structure ClientCtx where
  config : ClientConfig
  json : Json
  ipNetwork : IpNetworkCrate
  /-- `EndpointId::from_str` succeeds. -/
  validNodeId : String → Bool
  /-- `RelayUrl::from_str` succeeds. -/
  validRelayUrl : String → Bool
  /-- `{:?}` of a string. -/
  debug : String → String

/-- SOURCE: 968-989 -/
def ClientCtx.resolveServerAddr (ctx : ClientCtx) : Except ProxyError Unit :=
  if !ctx.validNodeId ctx.config.serverNodeId then
    .error (.config ("Invalid server node ID: " ++ ctx.config.serverNodeId))
  else
    match ctx.config.relayUrls.find? fun url => !ctx.validRelayUrl url with
    | some url => .error (.config ("Invalid relay URL: " ++ url))
    | none => .ok ()

/-! ## The server's nonce -/

/-- SOURCE: 336-341 -/
structure ServerNonceTracker where
  history : List Nonce := []
  last : Option Nonce := none
deriving DecidableEq, Repr

/-- The tracker and the duplicate flag after an observation, and whether it set the flag.
SOURCE: 434-463 -/
def observeServerNonce (t : ServerNonceTracker) (duplicate : Bool) (nonce : Nonce) :
    ServerNonceTracker × Bool × Bool :=
  match t.last with
  | some last =>
    if last = nonce then (t, duplicate, false)
    else if nonce ∈ t.history then ({ t with last := some nonce }, true, !duplicate)
    else ({ history := t.history ++ [nonce], last := some nonce }, duplicate, false)
  | none => ({ history := t.history ++ [nonce], last := some nonce }, duplicate, false)

/-! ## Backoff -/

/-- The delay before the given retry, with the jitter drawn for it.
SOURCE: 259-266 -/
def calculateBackoff (attempt jitterMs : Nat) : Nat :=
  min (2 ^ min (attempt - 1) 16) reconnectBackoffMaxSecs * second + jitterMs * (second / 1000)

/-- SOURCE: 272-275 -/
def rebuildDue (attempt : Nat) (lastRebuild : Option Nat) (now : Nat) : Bool :=
  rebuildEndpointAttempts ≤ attempt &&
    lastRebuild.all fun last => rebuildEndpointMinInterval ≤ now - last

/-- SOURCE: 289-299 -/
structure ReconnectStatus where
  failedAttempts : Nat := 0
  lastError : Option ProxyError := none
  nextAttemptAt : Option Nat := none
deriving DecidableEq, Repr

/-- SOURCE: 308-326 -/
structure TunnelRoutes where
  connected : Bool := false
  routes : AcceptedRoutes := {}
deriving DecidableEq, Repr

/-! ## Local connections -/

inductive Listener where
  | socks
  | http
  | unix
deriving DecidableEq, Repr

/-- SOURCE: 679-709, 1556-1557 -/
def Listener.proto : Listener → LocalProto
  | .socks | .unix => .socks5
  | .http => .http

inductive WaitFor where
  | policy
  | tunnel
deriving DecidableEq, Repr

inductive WaitPc where
  | borrow
  | acquire
  /-- No hold was free. -/
  | full
  | held
deriving DecidableEq, Repr

inductive LocalPc where
  | reading
  | policy (request : LocalRequest)
  | wait (purpose : WaitFor) (request : LocalRequest) (pc : WaitPc)
  /-- A connection appeared while the policy was unknown. -/
  | reread (request : LocalRequest)
  | route (request : LocalRequest) (routedSet : RoutedSet)
  | dialing (request : LocalRequest)
  | opening (request : LocalRequest) (conn : Nat)
  | relaying
  | done
deriving DecidableEq, Repr

structure LocalConn where
  listener : Listener
  pc : LocalPc
deriving DecidableEq, Repr

def LocalPc.isHeld : LocalPc → Bool
  | .wait _ _ .held => true
  | _ => false

/-! ## The run -/

inductive ManagerPc where
  /-- The head of the loop. -/
  | top
  /-- The slots are cleared; rebuild, nudge or neither. -/
  | repair
  | connecting
  | handshaking (conn : Nat)
  | publishing (conn : Nat) (routedSet : RoutedSet)
  | announcing (conn : Nat)
  | maintaining (conn : Nat)
  | waiting (backoff : Nat)
  /-- Asleep until then; `backgrounded` if the app was in the background when it began. -/
  | sleeping (wakeAt : Nat) (backgrounded : Bool)
  | parked
  | ended (error : Option ProxyError)
deriving DecidableEq, Repr

structure Client where
  pc : ManagerPc
  attempt : Nat
  lastRebuild : Option Nat
  pathReturned : Bool
  /-- The live connection, shared with the local connections. -/
  current : Option Nat
  /-- The route policy, shared with the local connections. -/
  policy : Option RoutedSet
  routes : TunnelRoutes
  tracker : ServerNonceTracker
  duplicateServer : Bool
  reconnect : ReconnectStatus
  background : Bool
  networkAvailable : Bool
  localClose : Bool
  now : Nat
  nextConn : Nat
  conns : List LocalConn
deriving DecidableEq, Repr

inductive ClientEvent where
  | rebuild (now : Nat)
  | nudge
  | connected (conn : Nat) (duplicateServerObserved : Bool)
  /-- A handshake was accepted and its rules parsed. -/
  | accepted (conn : Nat) (response : HelloResponse) (routedSet : RoutedSet)
  | policyPublished (routedSet : RoutedSet)
  | connPublished (conn : Nat)
  | failed (error : ProxyError)
  | ended (error : Option ProxyError)
  /-- Local connection `r` asked for this target. -/
  | received (r : Nat) (target : Target)
  | policyRead (r : Nat) (routedSet : RoutedSet)
  | dialed (r : Nat) (target : Target) (events : List DialEvent)
  /-- A stream was opened on the connection for this target. -/
  | tunneled (r conn : Nat) (target : Target)
  | replied (r : Nat) (rep : UInt8)
deriving DecidableEq, Repr

inductive OpenResult where
  | noStream
  | noReply
  | reply (rep : UInt8)
deriving DecidableEq, Repr

inductive LocalLabel where
  | read (bytes : List UInt8)
  | readTimeout
  | lockPolicy
  | borrow
  | acquire
  | recheck
  | wake
  | expire
  | relock
  | route
  | dial (net : Net) (deadline : Option Nat)
  | openTunnel (result : OpenResult)
  | finish

inductive ManagerLabel where
  | clear
  | repair
  | connect (outcome : Except String Unit) (jitterMs : Nat)
  /-- The handshake broke off before a response was read. -/
  | brokenOff (error : ProxyError) (jitterMs : Nat)
  /-- The server sent these bytes on the handshake stream. -/
  | response (bytes : List UInt8) (jitterMs : Nat)
  | publishPolicy
  | publishConn
  | maintained (result : Except ProxyError Unit) (jitterMs : Nat)
  | beginWait
  | timer
  | pathLost
  | foregrounded
  | pathReturned

inductive ClientLabel where
  | manager (label : ManagerLabel)
  | accept (listener : Listener)
  | conn (r : Nat) (label : LocalLabel)
  | tick (d : Nat)
  | setBackground (background : Bool)
  | setNetworkAvailable (available : Bool)
  | closeLocalListeners
  /-- The run is dropped, or an accept loop failed. -/
  | abort

/-! ## The manager -/

def ProxyError.ofStream : StreamError → ProxyError
  | .eof => .network "early eof"
  | .other message => .network message

/-- The response on the handshake stream.
SOURCE: 1025-1033 -/
def Json.readResponse (json : Json) : Reader StreamError HelloResponse := do
  let data ← readMessage maxHandshakeSize
  match json.decodeHelloResponse data with
  | .ok response => return response
  | .error message => throw (.other message)

/-- The end of the handshake: the nonce is observed whether or not the server accepts.
SOURCE: 1000-1079 -/
def Client.handshake (ctx : ClientCtx) (s : Client) (bytes : List UInt8) :
    Client × Except ProxyError (HelloResponse × RoutedSet) :=
  match (ctx.json.readResponse).run bytes with
  | .error e => (s, .error (.ofStream e))
  | .ok (response, _) =>
    let seen := observeServerNonce s.tracker s.duplicateServer response.serverInstanceNonce
    let s := { s with tracker := seen.1, duplicateServer := seen.2.1 }
    if !response.accepted then
      (s, .error (.authenticationFailed (response.rejectReason.getD "unknown")))
    else if seen.2.2 then
      (s, .error (.connectionLost
        "duplicate server id detected; reconnecting to advise the server to self-block"))
    else
      match RoutedSet.new ctx.ipNetwork response.routes.routedDomains
          response.routes.routedCidrs with
      | .error e =>
        (s, .error (.signaling ("server pushed an invalid routed set: " ++ e.message ctx.debug)))
      | .ok routedSet =>
        ({ s with routes := ⟨true, response.routes⟩ }, .ok (response, routedSet))

def Client.giveUp (s : Client) (e : ProxyError) : Client × List ClientEvent :=
  ({ s with pc := .ended (some e) }, [.failed e, .ended (some e)])

/-- SOURCE: 835-858 -/
def Client.handleFailure (ctx : ClientCtx) (s : Client) (e : ProxyError) (jitterMs : Nat) :
    Client × List ClientEvent :=
  if !ctx.config.autoReconnect || !e.isRecoverable then s.giveUp e
  else
    let attempt := (s.attempt + 1) % 4294967296
    if ctx.config.maxReconnectAttempts.any fun max => max.1 < attempt then
      { s with attempt }.giveUp e
    else
      let backoff := calculateBackoff attempt jitterMs
      let reconnect :=
        { failedAttempts := attempt, lastError := some e, nextAttemptAt := some (s.now + backoff) }
      ({ s with attempt, reconnect, pc := .waiting backoff }, [.failed e])

def Client.clear (s : Client) : Client :=
  { s with current := none, routes := { s.routes with connected := false } }

/-- A fresh backoff series, with an attempt due now.
SOURCE: 923-928 -/
def Client.resetBackoff (s : Client) : Client :=
  { s with
    attempt := 0
    reconnect := { s.reconnect with nextAttemptAt := some s.now }
    pathReturned := true
    pc := .top }

/-- What breaks off a handshake: the stream, the write or the timeout. -/
def ProxyError.breaksOff : ProxyError → Bool
  | .network _ | .signaling _ => true
  | _ => false

/-- SOURCE: 728-823, 860-928 -/
def Client.manage (ctx : ClientCtx) (s : Client) : ManagerLabel →
    Option (Client × List ClientEvent)
  | .clear => if s.pc = .top then some ({ s.clear with pc := .repair }, []) else none
  | .repair =>
    if s.pc = .repair then
      if rebuildDue s.attempt s.lastRebuild s.now then
        some ({ s with pc := .connecting, lastRebuild := some s.now }, [.rebuild s.now])
      else
        some ({ s with pc := .connecting },
          if 0 < s.attempt || s.pathReturned then [.nudge] else [])
    else none
  | .connect outcome jitterMs =>
    if s.pc = .connecting ∧ jitterMs ≤ reconnectJitterMaxMs then
      match ctx.resolveServerAddr, outcome with
      | .error e, _ => some (s.handleFailure ctx e jitterMs)
      | .ok (), .error message => some (s.handleFailure ctx (.signaling message) jitterMs)
      | .ok (), .ok () =>
        some ({ s with pc := .handshaking s.nextConn, nextConn := s.nextConn + 1 },
          [.connected s.nextConn s.duplicateServer])
    else none
  | .brokenOff e jitterMs =>
    match s.pc with
    | .handshaking _ =>
      if e.breaksOff ∧ jitterMs ≤ reconnectJitterMaxMs then some (s.handleFailure ctx e jitterMs)
      else none
    | _ => none
  | .response bytes jitterMs =>
    match s.pc with
    | .handshaking conn =>
      if jitterMs ≤ reconnectJitterMaxMs then
        match s.handshake ctx bytes with
        | (s, .error e) => some (s.handleFailure ctx e jitterMs)
        | (s, .ok (response, routedSet)) =>
          some ({ s with
              pc := .publishing conn routedSet
              attempt := 0
              lastRebuild := none
              reconnect := {} },
            [.accepted conn response routedSet])
      else none
    | _ => none
  | .publishPolicy =>
    match s.pc with
    | .publishing conn routedSet =>
      some ({ s with pc := .announcing conn, policy := some routedSet },
        [.policyPublished routedSet])
    | _ => none
  | .publishConn =>
    match s.pc with
    | .announcing conn =>
      some ({ s with pc := .maintaining conn, current := some conn }, [.connPublished conn])
    | _ => none
  | .maintained result jitterMs =>
    match s.pc with
    | .maintaining _ =>
      if jitterMs ≤ reconnectJitterMaxMs then
        match result with
        | .error e => some (s.clear.handleFailure ctx e jitterMs)
        | .ok () => some ({ s.clear with pc := .ended none }, [.ended none])
      else none
    | _ => none
  | .beginWait =>
    match s.pc with
    | .waiting backoff =>
      some ({ s with
        pc := if s.networkAvailable then .sleeping (s.now + backoff) s.background
          else .parked }, [])
    | _ => none
  | .timer =>
    match s.pc with
    | .sleeping wakeAt _ =>
      if wakeAt ≤ s.now then some ({ s with pc := .top, pathReturned := false }, []) else none
    | _ => none
  | .pathLost =>
    match s.pc with
    | .sleeping _ _ => if s.networkAvailable then none else some ({ s with pc := .parked }, [])
    | _ => none
  | .foregrounded =>
    match s.pc with
    | .sleeping _ backgrounded =>
      if backgrounded && !s.background then some (s.resetBackoff, []) else none
    | _ => none
  | .pathReturned =>
    if s.pc = .parked ∧ s.networkAvailable = true then some (s.resetBackoff, []) else none

/-! ## A local connection -/

inductive LocalRoute where
  | direct
  | tunnel
deriving DecidableEq, Repr

/-- SOURCE: 1626-1634 -/
def localRoute (routedSet : RoutedSet) (target : Target) : LocalRoute :=
  if !target.isReserved && !routedSet.allows target then .direct else .tunnel

/-- How `wait_for_tunnel` goes on from its result.
SOURCE: 1616-1621, 1642-1646, 1704-1716 -/
def waited (r : Nat) (purpose : WaitFor) (request : LocalRequest) (conn : Option Nat) :
    LocalPc × List ClientEvent :=
  match purpose, conn with
  | .policy, some _ => (.reread request, [])
  | .policy, none => (.done, [.replied r Rep.generalFailure.code])
  | .tunnel, some conn => (.opening request conn, [])
  | .tunnel, none => (.done, [.replied r Rep.netUnreachable.code])

/-- The reply that begins an exchange; a forward's reply is the origin's. -/
def successReply (r : Nat) (request : LocalRequest) : List ClientEvent :=
  if request.upstreamPreamble.isNone then [.replied r Rep.success.code] else []

/-- SOURCE: 1754-1782 -/
def directConnect (r : Nat) (request : LocalRequest) (net : Net) (deadline : Option Nat) :
    LocalPc × List ClientEvent :=
  let dial := (dialTarget net request.target none).within deadline
  match dial.2 with
  | some (.ok _) =>
    (.relaying, .dialed r request.target dial.1 :: successReply r request)
  | some (.error e) =>
    (.done, [.dialed r request.target dial.1, .replied r (mapIoErr e).code])
  | none =>
    (.done, [.dialed r request.target dial.1, .replied r Rep.hostUnreachable.code])

/-- SOURCE: 1652-1689, 1787-1796 -/
def openTunnel (r : Nat) (request : LocalRequest) (conn : Nat) (result : OpenResult) :
    LocalPc × List ClientEvent :=
  let failure := ClientEvent.replied r Rep.generalFailure.code
  match result, writeRequest request.target with
  | .noStream, _ => (.done, [failure])
  | _, .error _ | .noReply, .ok _ => (.done, [.tunneled r conn request.target, failure])
  | .reply rep, .ok _ =>
    if rep = Rep.success.code then
      (.relaying, .tunneled r conn request.target :: successReply r request)
    else (.done, [.tunneled r conn request.target, .replied r rep])

def Client.heldBy (s : Client) (listener : Listener) : Nat :=
  s.conns.countP fun c => c.listener = listener && c.pc.isHeld

def Client.activeBy (s : Client) (listener : Listener) : Nat :=
  s.conns.countP fun c => c.listener = listener && c.pc != .done

/-- A step of local connection `r`.
SOURCE: 1593-1746 -/
def LocalConn.step (s : Client) (r : Nat) (c : LocalConn) (l : LocalLabel) :
    Option (LocalPc × List ClientEvent) :=
  match l, c.pc with
  | .read bytes, .reading =>
    match c.listener.proto.readRequest.run bytes with
    | .ok (request, _) => some (.policy request, [.received r request.target])
    | .error _ => some (.done, [])
  | .readTimeout, .reading => some (.done, [])
  | .lockPolicy, .policy request =>
    match s.policy with
    | some routedSet => some (.route request routedSet, [.policyRead r routedSet])
    | none => some (.wait .policy request .borrow, [])
  | .borrow, .wait purpose request .borrow =>
    match s.current with
    | some conn => some (waited r purpose request (some conn))
    | none => some (.wait purpose request .acquire, [])
  | .acquire, .wait purpose request .acquire =>
    let next := if s.heldBy c.listener < maxHeldConns then .held else .full
    some (.wait purpose request next, [])
  | .recheck, .wait purpose request .full => some (waited r purpose request s.current)
  | .wake, .wait purpose request .held =>
    s.current.map fun conn => waited r purpose request (some conn)
  | .expire, .wait purpose request .held => some (waited r purpose request none)
  | .relock, .reread request =>
    match s.policy with
    | some routedSet => some (.route request routedSet, [.policyRead r routedSet])
    | none => some (.done, [.replied r Rep.generalFailure.code])
  | .route, .route request routedSet =>
    match localRoute routedSet request.target with
    | .direct => some (.dialing request, [])
    | .tunnel => some (.wait .tunnel request .borrow, [])
  | .dial net deadline, .dialing request => some (directConnect r request net deadline)
  | .openTunnel result, .opening request conn => some (openTunnel r request conn result)
  | .finish, .relaying => some (.done, [])
  | _, _ => none

/-! ## The machine -/

def Client.isRunning (s : Client) : Bool :=
  match s.pc with
  | .ended _ => false
  | _ => true

/-- SOURCE: 642-823, 1423-1491 -/
def Client.step (ctx : ClientCtx) (s : Client) : ClientLabel → Option (Client × List ClientEvent)
  | .manager l => s.manage ctx l
  | .accept listener =>
    if s.isRunning && !s.localClose && s.activeBy listener < maxActiveLocalConns then
      some ({ s with conns := s.conns ++ [⟨listener, .reading⟩] }, [])
    else none
  | .conn r l =>
    s.conns[r]?.bind fun c => (c.step s r l).map fun next =>
      ({ s with conns := s.conns.set r { c with pc := next.1 } }, next.2)
  | .tick d => some ({ s with now := s.now + d }, [])
  | .setBackground background => some ({ s with background }, [])
  | .setNetworkAvailable networkAvailable => some ({ s with networkAvailable }, [])
  | .closeLocalListeners => some ({ s with localClose := true }, [])
  | .abort => if s.isRunning then some ({ s with pc := .ended none }, [.ended none]) else none

/-- A run: its policy slot is empty and no local connection was accepted; what the client
keeps across runs (the connection slot, the nonce history, the status) is arbitrary. -/
def proxyClient (ctx : ClientCtx) : Machine Client ClientLabel ClientEvent where
  init := fun s => s.pc = .top ∧ s.attempt = 0 ∧ s.lastRebuild = none ∧
    s.pathReturned = false ∧ s.policy = none ∧ s.conns = []
  step := fun s l => s.step ctx l

/-! ## A client that can be run -/

def oneResponseJson (response : HelloResponse) : Json where
  helloFromJson := fun _ => .error "not a hello"
  bridgeHelloFromJson := fun _ => .error "not a bridge hello"
  responseToJson := fun r => if r = response then .ok [0] else .error "unknown response"
  responseFromJson := fun data => if data = [0] then .ok response else .error "unknown response"

/-- A client of a server that accepts with `response`; every CIDR is read as `network`. -/
def plainClient (response : HelloResponse) (network : IpNetwork) : ClientCtx where
  config := ⟨"server", [], true, none⟩
  json := oneResponseJson response
  ipNetwork := .parsing fun _ => some network
  validNodeId := fun _ => true
  validRelayUrl := fun _ => true
  debug := id

def startedClient (stale : Option Nat) : Client where
  pc := .top
  attempt := 0
  lastRebuild := none
  pathReturned := false
  current := stale
  policy := none
  routes := {}
  tracker := {}
  duplicateServer := false
  reconnect := {}
  background := false
  networkAvailable := true
  localClose := false
  now := 0
  nextConn := 1
  conns := []

end Flextunnel.Model
