import Flextunnel.Lib.Machine
import Flextunnel.Model.Registry
import Flextunnel.Model.Startup

/-!
# The server: accept loop and connection handlers

`ProxyServer::run` accepts connections and spawns a task for each; the tasks share the
registry of live connections, the blocklist and the shutdown signal, each behind its own
lock. The machine below interleaves the accept loop with any number of handlers, one
step per await point or lock of the source, with a clock (in nanoseconds) that advances
by `tick`.

Everything a peer or the network chooses is in the labels: the ALPN and the id the TLS
handshake authenticated, the bytes of the first stream, when streams are opened and
heartbeats arrive, whether a write goes through, when the connection goes away.

A response is an event from the moment it is written to an open connection, also when
the write fails half-way. A connection closed by the server's side (`closed`) no longer
accepts streams, delivers messages or takes writes.

Unnamed source lines are of `core/proxy/server.rs`.
-/

set_option autoImplicit false

namespace Flextunnel.Model

open Lib

/-! ## Constants -/

/-- SOURCE: 37 -/
def maxConcurrentConnections : Nat := 1024

/-- The close code of a failed authentication.
SOURCE: 588 -/
def closeRejected : Nat := 1

/-- SOURCE: 49 -/
def closeDuplicate : Nat := 2

/-- SOURCE: core/transport/endpoint.rs:34 -/
def closeNotAllowlisted : Nat := 3

/-- SOURCE: core/auth.rs:30 -/
def authContext : String := "flextunnel-client-auth-v1"

/-- The three protocols the server's endpoint offers.
SOURCE: core/transport/endpoint.rs:125-134 -/
inductive Alpn where
  | client
  | bridge
  | quick
deriving DecidableEq, Repr

/-! ## What a server serves from -/

section

variable {EndpointId PublicKey : Type}

/-- SOURCE: 226-234 -/
def ProxyServer.sortedHostAliases (server : ProxyServer EndpointId PublicKey) :
    List (String × String) :=
  server.hostAliases.toPairs.insertionSort fun a b => a.1 < b.1 ∨ (a.1 = b.1 ∧ ¬ b.2 < a.2)

/-- SOURCE: 240-245 -/
def ProxyServer.pushedDnsForwards (server : ProxyServer EndpointId PublicKey) :
    List (String × List String) :=
  (server.dnsForwarder.map DnsForwarder.pushed).getD []

/-- SOURCE: 251-261 -/
def ProxyServer.bridgeSummaries (crates : Crates EndpointId PublicKey)
    (server : ProxyServer EndpointId PublicKey) : List BridgeSummary :=
  server.bridges.map fun b =>
    { name := b.name, endpointId := crates.endpointIdText b.endpointId,
      domains := b.domains, cidrs := b.cidrs }

/-- SOURCE: 668-677 -/
def ProxyServer.acceptedRoutes (crates : Crates EndpointId PublicKey)
    (server : ProxyServer EndpointId PublicKey) : AcceptedRoutes where
  routedDomains := server.routedDomains
  routedCidrs := server.routedCidrs
  hostAliases := server.sortedHostAliases
  dnsForwards := server.pushedDnsForwards
  bridges := server.bridgeSummaries crates

/-- The allowlist of an ALPN with its two texts; the client ALPN has none.
SOURCE: core/transport/endpoint.rs:76-95 -/
def EndpointAllowlists.rule (lists : EndpointAllowlists EndpointId) :
    Alpn → Option (List EndpointId × String × String)
  | .bridge => some (lists.bridgeServers, "bridging is not enabled on this server",
      "server id is not on this server's bridge allowlist")
  | .quick => some (lists.quickClients, "quick mode is not enabled on this server",
      "client id is not on this server's quick-client allowlist")
  | .client => none

/-- The hook that runs when an inbound TLS handshake completes: `none` accepts, otherwise
the reason of the close.
SOURCE: core/transport/endpoint.rs:69-107 -/
def EndpointAllowlists.afterHandshake [DecidableEq EndpointId]
    (lists : EndpointAllowlists EndpointId) (alpn : Alpn) (remoteId : EndpointId) : Option String :=
  match lists.rule alpn with
  | none => none
  | some (allowed, disabledReason, rejectedReason) =>
    if remoteId ∈ allowed then none
    else some (if allowed.isEmpty then disabledReason else rejectedReason)

/-- SOURCE: 476-515 -/
def ProxyServer.verifyClientAuth [DecidableEq EndpointId] [DecidableEq PublicKey]
    (crates : Crates EndpointId PublicKey) (server : ProxyServer EndpointId PublicKey)
    (auth : ClientAuthPayload) (remoteId : EndpointId) : Bool :=
  match crates.parseEndpointId auth.endpointId with
  | .error _ => false
  | .ok claimed =>
    if claimed ≠ remoteId then false
    else
      match crates.parsePublicKey auth.publicKey with
      | .error _ => false
      | .ok key =>
        if key ∉ server.authorizedKeys then false
        else crates.verifyEndpointIdSignature key authContext remoteId auth.signature

end

/-! ## State -/

inductive Heartbeat where
  /-- Reading under the liveness timeout, since the given time. -/
  | reading (since : Nat)
  /-- Writing the acknowledgement; no timeout runs. -/
  | acking (seq : UInt64)
deriving DecidableEq, Repr

/-- The guard a registered handler drops when it returns: `ConnGuard` for a client,
`BridgeGuard` for a bridge. -/
inductive Guard where
  | conn
  | bridge
deriving DecidableEq, Repr

inductive Phase where
  /-- Waiting for the TLS handshake. -/
  | accepting
  | awaitHello
  | decoded (hello : Hello)
  /-- Not admitted: the rejection is about to be written. -/
  | rejecting (reason : String)
  /-- Authenticated, and not on the blocklist when that was checked. -/
  | admitted (hello : Hello)
  /-- The self-block is recorded, the accept loop not yet notified. -/
  | selfBlocked
  /-- The accept loop is notified: the rejection is about to be written. -/
  | stopping
  /-- `try_register` found live connections of another instance. -/
  | duplicate (dups : List Nat)
  /-- The client is on the blocklist; these connections are still to be closed. -/
  | tearingDown (dups : List Nat)
  /-- A rejection was written: after a pause the connection is closed. -/
  | closing (code : Nat) (reason : String)
  | bridgeAdmitted
  /-- The guard is held: the acceptance is about to be written. -/
  | registered (guard : Guard)
  | serving (guard : Guard) (heartbeat : Heartbeat)
  /-- Returning, with the guard that is about to be dropped. -/
  | exiting (guard : Option Guard)
  | done
deriving DecidableEq

/-- One connection and its handler task. `peer` is what the TLS handshake established,
`connSeq` the connection's number among the accepted ones. -/
structure Handler (EndpointId : Type) where
  phase : Phase := .accepting
  peer : Option (EndpointId × Alpn) := none
  connSeq : Nat := 0
  closed : Bool := false

structure Shared (EndpointId Doc : Type) where
  now : Nat := 0
  nextConnSeq : Nat := 0
  registry : Registry EndpointId := ∅
  bridgeRegistry : AList (fun _ : EndpointId => List Nat) := ∅
  blocklist : BlockList
  disk : Disk Doc
  /-- A stored permit of the shutdown signal. -/
  shutdown : Bool := false

/-- The accept loop.
SOURCE: 341-384 -/
inductive LoopPc where
  | acquiring
  | selecting
  | returned (duplicate : Bool)
deriving DecidableEq, Repr

structure Server (EndpointId Doc : Type) where
  loop : LoopPc := .acquiring
  /-- Permits of the connection semaphore in use. -/
  permits : Nat := 0
  handlers : List (Handler EndpointId) := []
  shared : Shared EndpointId Doc

inductive ServerEvent (EndpointId : Type) where
  | spawned (c : Nat)
  /-- The allowlist hook closed the connection. -/
  | hookRejected (c : Nat) (code : Nat) (reason : String)
  | connected (c : Nat) (remoteId : EndpointId) (alpn : Alpn)
  | helloRead (c : Nat) (hello : Hello)
  /-- The authentication and the blocklist check passed. -/
  | admitted (c : Nat) (remoteId : EndpointId)
  | registered (c : Nat) (remoteId : EndpointId)
  | blocked (c : Nat) (remoteId : EndpointId)
  | selfBlocked (c : Nat)
  | response (c : Nat) (resp : HelloResponse)
  | closed (c : Nat) (code : Nat) (reason : String)
  | stream (c : Nat) (fromBridge : Bool)
  | ack (c : Nat) (seq : UInt64)
  | loopReturned (duplicate : Bool)
deriving DecidableEq

/-! ## Labels -/

inductive Write where
  | unencoded
  | failed
  | sent
deriving DecidableEq, Repr

inductive HandlerLabel (EndpointId : Type) where
  | tls (remoteId : EndpointId) (alpn : Alpn)
  | tlsFail
  /-- The first stream was opened and these are its bytes. -/
  | hello (bytes : List UInt8)
  /-- No stream, a broken one, or the timeout. -/
  | helloFail
  | check
  | selfBlock (nowMs : Nat) (write : Except String Unit)
  | notify
  | tryRegister
  | blockClient (nowMs : Nat) (write : Except String Unit)
  | closeDup (d : Nat)
  | bridgeRegister
  | reply (write : Write)
  | close
  | stream
  | heartbeat (msg : ControlMsg)
  | ack (sent : Bool)
  | heartbeatError
  | heartbeatTimeout
  | serveEnd
  /-- The peer or the network ends the connection. -/
  | connLost
  | drop

inductive ServerLabel (EndpointId : Type) where
  | acquire
  | accept
  | endpointClosed
  | shutdown
  | handler (c : Nat) (l : HandlerLabel EndpointId)
  | tick (ns : Nat)

/-! ## Steps of a handler -/

structure ServerCtx (EndpointId PublicKey Doc : Type) where
  crates : Crates EndpointId PublicKey
  json : Json
  blocklistJson : BlocklistJson Doc
  server : ProxyServer EndpointId PublicKey
  allowlists : EndpointAllowlists EndpointId

/-- SOURCE: 575, 578 -/
def reasonBlocklisted : String := "node id is blocklisted (duplicate id previously detected)"

@[inherit_doc reasonBlocklisted]
def reasonAuthentication : String := "public-key authentication failed"

/-- A response that is about to be written, and where the handler goes when it was
written, when the write failed and when it could not be encoded. -/
structure Reply where
  resp : HelloResponse
  sent : Phase
  failed : Phase
  unencoded : Phase

def Reply.next (r : Reply) : Write → Phase
  | .sent => r.sent
  | .failed => r.failed
  | .unencoded => r.unencoded

section Steps

variable {EndpointId PublicKey Doc : Type} (ctx : ServerCtx EndpointId PublicKey Doc)

/-- The five responses of the source.
SOURCE: 572-592, 601-610, 648-663, 668-680, 738-741 -/
def Phase.reply (now : Nat) : Phase → Option Reply
  | .rejecting reason => some {
      resp := .rejected ctx.server.serverInstanceNonce reason
      sent := .closing closeRejected "authentication rejected"
      failed := .exiting none
      unencoded := .exiting none }
  | .stopping => some {
      resp := .rejected ctx.server.serverInstanceNonce
        "server is stopping: duplicate server id detected"
      sent := .closing closeDuplicate "duplicate server id"
      failed := .closing closeDuplicate "duplicate server id"
      unencoded := .exiting none }
  | .tearingDown [] => some {
      resp := .rejected ctx.server.serverInstanceNonce "duplicate client id detected"
      sent := .closing closeDuplicate "duplicate client id"
      failed := .closing closeDuplicate "duplicate client id"
      unencoded := .exiting none }
  | .registered .conn => some {
      resp := .acceptedWith ctx.server.serverInstanceNonce (ctx.server.acceptedRoutes ctx.crates)
      sent := .serving .conn (.reading now)
      failed := .exiting (some .conn)
      unencoded := .exiting (some .conn) }
  | .registered .bridge => some {
      resp := .acceptedWith ctx.server.serverInstanceNonce {}
      sent := .serving .bridge (.reading now)
      failed := .exiting (some .bridge)
      unencoded := .exiting (some .bridge) }
  | _ => none

variable [DecidableEq EndpointId] [DecidableEq PublicKey]

/-- SOURCE: 566-570 -/
def authOk (alpn : Alpn) (remoteId : EndpointId) (hello : Hello) : Bool :=
  alpn == .quick || (match hello.auth with
    | none => false
    | some auth => ctx.server.verifyClientAuth ctx.crates auth remoteId)

/-- The key a registered client authenticated with.
SOURCE: 619-624 -/
def clientKey (alpn : Alpn) (hello : Hello) : Option String :=
  match hello.auth with
  | none => none
  | some auth =>
    if alpn = .quick then none
    else
      match ctx.crates.parsePublicKey auth.publicKey with
      | .error _ => none
      | .ok key => some (ctx.crates.publicKeyToken key)

/-- The allowlist hook and the connection's number.
SOURCE: 519-525 -/
def Handler.tls (c : Nat) (sh : Shared EndpointId Doc) (h : Handler EndpointId)
    (remoteId : EndpointId) (alpn : Alpn) :
    Handler EndpointId × Shared EndpointId Doc × List (ServerEvent EndpointId) :=
  match ctx.allowlists.afterHandshake alpn remoteId with
  | some reason =>
    ({ h with phase := .exiting none }, sh, [.hookRejected c closeNotAllowlisted reason])
  | none =>
    ({ h with phase := .awaitHello, peer := some (remoteId, alpn), connSeq := sh.nextConnSeq },
      { sh with nextConnSeq := sh.nextConnSeq + 1 }, [.connected c remoteId alpn])

/-- What the handshake message is decoded to, by the ALPN.
SOURCE: 536-557 -/
def Handler.hello (c : Nat) (h : Handler EndpointId) (alpn : Alpn) (bytes : List UInt8) :
    Handler EndpointId × List (ServerEvent EndpointId) :=
  match readMessage maxHandshakeSize bytes with
  | .error _ => ({ h with phase := .exiting none }, [])
  | .ok (data, _) =>
    if alpn = .bridge then
      match ctx.json.decodeBridgeHello data with
      | .error _ => ({ h with phase := .exiting none }, [])
      | .ok _ => ({ h with phase := .bridgeAdmitted }, [])
    else
      match ctx.json.decodeHello data with
      | .error _ => ({ h with phase := .exiting none }, [])
      | .ok hello => ({ h with phase := .decoded hello }, [.helloRead c hello])

/-- SOURCE: 566-592 -/
def Handler.check (c : Nat) (sh : Shared EndpointId Doc) (h : Handler EndpointId)
    (remoteId : EndpointId) (alpn : Alpn) (hello : Hello) :
    Handler EndpointId × List (ServerEvent EndpointId) :=
  if sh.blocklist.isClientBlocked (ctx.crates.endpointIdText remoteId) then
    ({ h with phase := .rejecting reasonBlocklisted }, [])
  else if authOk ctx alpn remoteId hello then
    ({ h with phase := .admitted hello }, [.admitted c remoteId])
  else ({ h with phase := .rejecting reasonAuthentication }, [])

/-- A block: the changed list is persisted when the id is new on it.
SOURCE: 388-424 -/
def Shared.block (sh : Shared EndpointId Doc) (added : BlockList × Bool)
    (write : Except String Unit) : Shared EndpointId Doc :=
  match added with
  | (bl, true) =>
    { sh with blocklist := bl, disk := (persistBlocklist ctx.blocklistJson bl sh.disk write).1 }
  | (_, false) => sh

/-- SOURCE: 388-407, 600 -/
def Shared.selfBlock (sh : Shared EndpointId Doc) (remoteId : EndpointId) (nowMs : Nat)
    (write : Except String Unit) : Shared EndpointId Doc :=
  sh.block ctx (sh.blocklist.addConflictedServer (ctx.crates.endpointIdText ctx.server.ownId)
    ("client " ++ ctx.crates.endpointIdText remoteId ++ " reported a duplicate-server pattern")
    nowMs) write

/-- SOURCE: 410-424, 642 -/
def Shared.blockClient (sh : Shared EndpointId Doc) (remoteId : EndpointId) (nowMs : Nat)
    (write : Except String Unit) : Shared EndpointId Doc :=
  sh.block ctx (sh.blocklist.addBlockedClient (ctx.crates.endpointIdText remoteId)
    "duplicate client id (concurrent live connections)" nowMs) write

/-- A client's heartbeat refreshes its registry entry; a bridge has none.
SOURCE: 823-828 -/
def Shared.refresh (sh : Shared EndpointId Doc) (guard : Guard) (remoteId : EndpointId)
    (connSeq : Nat) : Shared EndpointId Doc :=
  match guard with
  | .conn => { sh with registry := sh.registry.refresh sh.now remoteId connSeq }
  | .bridge => sh

/-- SOURCE: 723-733 -/
def Shared.bridgeRegister (sh : Shared EndpointId Doc) (remoteId : EndpointId) (connSeq : Nat) :
    Shared EndpointId Doc :=
  let seqs := (sh.bridgeRegistry.lookup remoteId).getD []
  { sh with bridgeRegistry := sh.bridgeRegistry.insert remoteId (seqs.insert connSeq) }

/-- `BridgeGuard::drop`.
SOURCE: 113-124 -/
def bridgeDrop (reg : AList (fun _ : EndpointId => List Nat)) (remoteId : EndpointId)
    (connSeq : Nat) : AList (fun _ : EndpointId => List Nat) :=
  match reg.lookup remoteId with
  | none => reg
  | some per =>
    if (per.erase connSeq).isEmpty then reg.erase remoteId
    else reg.insert remoteId (per.erase connSeq)

/-- SOURCE: 85-124 -/
def Shared.drop (sh : Shared EndpointId Doc) (guard : Option Guard) (remoteId : EndpointId)
    (connSeq : Nat) : Shared EndpointId Doc :=
  match guard with
  | none => sh
  | some .conn => { sh with registry := sh.registry.drop remoteId connSeq }
  | some .bridge => { sh with bridgeRegistry := bridgeDrop sh.bridgeRegistry remoteId connSeq }

/-- The duplicate check and the registration.
SOURCE: 619-647 -/
def Handler.tryRegister (c : Nat) (sh : Shared EndpointId Doc) (h : Handler EndpointId)
    (remoteId : EndpointId) (alpn : Alpn) (hello : Hello) :
    Handler EndpointId × Shared EndpointId Doc × List (ServerEvent EndpointId) :=
  match sh.registry.tryRegister sh.now remoteId h.connSeq hello.clientInstanceNonce c
      (clientKey ctx alpn hello) with
  | (registry, .ok ()) =>
    ({ h with phase := .registered .conn }, { sh with registry }, [.registered c remoteId])
  | (registry, .error dups) => ({ h with phase := .duplicate dups }, { sh with registry }, [])

/-- One step of a handler: the handler, what it shares and the events after it; `none`
where the handler is not at the point the label names.
SOURCE: 519-844 -/
def Handler.step (c : Nat) (sh : Shared EndpointId Doc) (h : Handler EndpointId) :
    HandlerLabel EndpointId →
      Option (Handler EndpointId × Shared EndpointId Doc × List (ServerEvent EndpointId))
  | .tls remoteId alpn =>
    if h.phase = .accepting then some (h.tls ctx c sh remoteId alpn) else none
  | .tlsFail =>
    if h.phase = .accepting then some ({ h with phase := .exiting none }, sh, []) else none
  | .hello bytes =>
    match h.phase, h.peer with
    | .awaitHello, some (_, alpn) =>
      some ((h.hello ctx c alpn bytes).1, sh, (h.hello ctx c alpn bytes).2)
    | _, _ => none
  | .helloFail =>
    if h.phase = .awaitHello then some ({ h with phase := .exiting none }, sh, []) else none
  | .check =>
    match h.phase, h.peer with
    | .decoded hello, some (remoteId, alpn) =>
      some ((h.check ctx c sh remoteId alpn hello).1, sh, (h.check ctx c sh remoteId alpn hello).2)
    | _, _ => none
  | .selfBlock nowMs write =>
    match h.phase, h.peer with
    | .admitted hello, some (remoteId, _) =>
      if hello.duplicateServerObserved then
        some ({ h with phase := .selfBlocked }, sh.selfBlock ctx remoteId nowMs write,
          [.selfBlocked c])
      else none
    | _, _ => none
  | .notify =>
    if h.phase = .selfBlocked then
      some ({ h with phase := .stopping }, { sh with shutdown := true }, [])
    else none
  | .tryRegister =>
    match h.phase, h.peer with
    | .admitted hello, some (remoteId, alpn) =>
      if hello.duplicateServerObserved then none
      else some (h.tryRegister ctx c sh remoteId alpn hello)
    | _, _ => none
  | .blockClient nowMs write =>
    match h.phase, h.peer with
    | .duplicate dups, some (remoteId, _) =>
      some ({ h with phase := .tearingDown dups }, sh.blockClient ctx remoteId nowMs write,
        [.blocked c remoteId])
    | _, _ => none
  | .closeDup d =>
    match h.phase with
    | .tearingDown dups =>
      if d ∈ dups then
        some ({ h with phase := .tearingDown (dups.erase d) }, sh,
          [.closed d closeDuplicate "duplicate client id"])
      else none
    | _ => none
  | .bridgeRegister =>
    match h.phase, h.peer with
    | .bridgeAdmitted, some (remoteId, _) =>
      some ({ h with phase := .registered .bridge }, sh.bridgeRegister remoteId h.connSeq, [])
    | _, _ => none
  | .reply write =>
    match h.phase.reply ctx sh.now with
    | none => none
    | some r =>
      if h.closed ∧ write = .sent then none
      else some ({ h with phase := r.next write }, sh,
        if h.closed ∨ write = .unencoded then [] else [.response c r.resp])
  | .close =>
    match h.phase with
    | .closing code reason =>
      some ({ h with phase := .exiting none, closed := true }, sh, [.closed c code reason])
    | _ => none
  | .stream =>
    match h.phase with
    | .serving guard _ =>
      if h.closed then none else some (h, sh, [.stream c (guard == .bridge)])
    | _ => none
  | .heartbeat msg =>
    match h.phase, h.peer, msg with
    | .serving guard (.reading _), some (remoteId, _), .heartbeat seq =>
      if h.closed then none
      else some ({ h with phase := .serving guard (.acking seq) },
        sh.refresh guard remoteId h.connSeq, [])
    | .serving guard (.reading _), some _, .heartbeatAck _ =>
      if h.closed then none else some ({ h with phase := .exiting (some guard) }, sh, [])
    | _, _, _ => none
  | .ack sent =>
    match h.phase with
    | .serving guard (.acking seq) =>
      if sent then
        if h.closed then none
        else some ({ h with phase := .serving guard (.reading sh.now) }, sh, [.ack c seq])
      else some ({ h with phase := .exiting (some guard) }, sh, [])
    | _ => none
  | .heartbeatError =>
    match h.phase with
    | .serving guard (.reading _) => some ({ h with phase := .exiting (some guard) }, sh, [])
    | _ => none
  | .heartbeatTimeout =>
    match h.phase with
    | .serving guard (.reading since) =>
      if since + livenessWindow ≤ sh.now then
        some ({ h with phase := .exiting (some guard) }, sh, [])
      else none
    | _ => none
  | .serveEnd =>
    match h.phase with
    | .serving guard _ =>
      if h.closed then some ({ h with phase := .exiting (some guard) }, sh, []) else none
    | _ => none
  | .connLost => some ({ h with closed := true }, sh, [])
  | .drop =>
    match h.phase, h.peer with
    | .exiting guard, some (remoteId, _) =>
      some ({ h with phase := .done }, sh.drop guard remoteId h.connSeq, [])
    | .exiting none, none => some ({ h with phase := .done }, sh, [])
    | _, _ => none

end Steps

/-! ## The machine -/

section Machine

variable {EndpointId PublicKey Doc : Type}

def PreparedServer.ctx (p : PreparedServer EndpointId PublicKey)
    (crates : Crates EndpointId PublicKey) (json : Json) (blocklistJson : BlocklistJson Doc) :
    ServerCtx EndpointId PublicKey Doc where
  crates
  json
  blocklistJson
  server := p.server
  allowlists := p.allowlists

variable (ctx : ServerCtx EndpointId PublicKey Doc)

/-- A handler moved: a teardown also closes another connection, a return gives its permit
back. -/
def Server.moved (s : Server EndpointId Doc) (c : Nat) (h : Handler EndpointId)
    (sh : Shared EndpointId Doc) (l : HandlerLabel EndpointId) : Server EndpointId Doc where
  loop := s.loop
  permits := match l with
    | .drop => s.permits - 1
    | _ => s.permits
  handlers := match l with
    | .closeDup d => (s.handlers.set c h).modify d fun h' => { h' with closed := true }
    | _ => s.handlers.set c h
  shared := sh

/-- SOURCE: 329-384 -/
def Server.step [DecidableEq EndpointId] [DecidableEq PublicKey] (s : Server EndpointId Doc) :
    ServerLabel EndpointId → Option (Server EndpointId Doc × List (ServerEvent EndpointId))
  | .acquire =>
    if s.loop = .acquiring ∧ s.permits < maxConcurrentConnections then
      some ({ s with loop := .selecting, permits := s.permits + 1 }, [])
    else none
  | .accept =>
    if s.loop = .selecting then
      some ({ s with loop := .acquiring, handlers := s.handlers ++ [{}] },
        [.spawned s.handlers.length])
    else none
  | .endpointClosed =>
    if s.loop = .selecting then
      some ({ s with loop := .returned false, permits := s.permits - 1 }, [.loopReturned false])
    else none
  | .shutdown =>
    if s.loop = .selecting ∧ s.shared.shutdown = true then
      some ({ s with loop := .returned true, permits := s.permits - 1,
                     shared := { s.shared with shutdown := false } }, [.loopReturned true])
    else none
  | .handler c l =>
    match s.handlers[c]? with
    | none => none
    | some h =>
      match h.step ctx c s.shared l with
      | none => none
      | some (h', sh, es) => some (s.moved c h' sh l, es)
  | .tick ns => some ({ s with shared := { s.shared with now := s.shared.now + ns } }, [])

/-- A running server: it starts with no connection, on any clock, blocklist and file. -/
def proxyServer [DecidableEq EndpointId] [DecidableEq PublicKey] :
    Machine (Server EndpointId Doc) (ServerLabel EndpointId) (ServerEvent EndpointId) where
  init s := s.loop = .acquiring ∧ s.handlers = [] ∧ s.shared.registry = ∅ ∧
    s.shared.bridgeRegistry = ∅ ∧ s.shared.shutdown = false
  step := Server.step ctx

end Machine

/-! ## An instance that evaluates -/

def laptopHello (nonce : Nat) (observed : Bool) : Hello where
  version := protocolVersion
  auth := some {
    publicKey := "key", endpointId := "laptop"
    signature := "key/flextunnel-client-auth-v1/laptop" }
  clientInstanceNonce := BitVec.ofNat 128 nonce
  duplicateServerObserved := observed

/-- A `Hello` of the laptop in two bytes: its instance nonce and the duplicate-server flag.
The bytes of a bridge's `Hello` are empty. -/
def plainHelloJson : Json where
  helloFromJson
    | [nonce, observed] => .ok (laptopHello nonce.toNat (observed != 0))
    | _ => .error "not a hello"
  bridgeHelloFromJson
    | [] => .ok { version := protocolVersion }
    | _ => .error "not a hello"
  responseToJson _ := .error "not encoded"
  responseFromJson _ := .error "not decoded"

def plainPrepared : PreparedServer String String where
  server := {
    ownId := "server", serverInstanceNonce := 7, authorizedKeys := ["key"], bridges := []
    hostAliases := ∅, routedSet := { domainsAll := true }
    routedDomains := ["*"], routedCidrs := [], dnsForwarder := none }
  blocklist := {}
  relayUrls := []
  allowlists := { bridgeServers := [], quickClients := [] }

def plainServer : ServerCtx String String BlockList :=
  plainPrepared.ctx textCrates plainHelloJson plainJson

def plainStart : Server String BlockList where
  shared := { blocklist := {}, disk := .missing }

def laptopConnects (c : Nat) (nonce observed : UInt8) : List (ServerLabel String) :=
  [.acquire, .accept, .handler c (.tls "laptop" .client),
    .handler c (.hello [0, 0, 0, 2, nonce, observed]), .handler c .check]

end Flextunnel.Model
