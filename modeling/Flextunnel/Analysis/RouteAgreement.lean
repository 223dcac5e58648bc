import Flextunnel.Model.Client
import Flextunnel.Model.Streams

/-!
# The client and the server agree on what is tunneled

A client routes with the rules the server pushed, and the server enforces its own set. The two
sets are built by one function from the same lists, the targets of the front-ends survive the wire
format, and the server looks at the reserved namespace before its set, as the client does.
-/

set_option autoImplicit false

namespace Flextunnel.Analysis

open Lib Lib.Reader Model

section

variable {EndpointId PublicKey : Type}

/-! ## The policy is the server's set -/

def ResponseRoundTrips (json : Json) : Prop :=
  ∀ response data, json.responseToJson response = .ok data →
    json.responseFromJson data = .ok response

variable {data framed tail : List UInt8} {ctx : ClientCtx} {policy : RoutedSet}
    {response : HelloResponse} {s : Client} {server : ProxyServer EndpointId PublicKey}

theorem readMessage_of_write {maxSize : Nat} {data' rest : List UInt8}
    (hwrite : writeMessage data = .ok framed)
    (hread : (readMessage maxSize).run (framed ++ tail) = .ok (data', rest)) : data' = data := by
  by_cases hmax : data.length ≤ maxSize
  · have hreads := reads_readMessage hmax hwrite tail
    have hpair : (data, tail) = (data', rest) := Except.ok.inj (hreads.symm.trans hread)
    exact (Prod.mk.inj hpair).1.symm
  · rw [readMessage_too_large (by omega) hwrite tail] at hread
    cases hread

/-- A handshake that succeeds read an accepted response and built its policy from it. -/
theorem handshake_eq_ok {s' : Client} {bytes : List UInt8}
    (h : s.handshake ctx bytes = (s', .ok (response, policy))) :
    (∃ rest, ctx.json.readResponse.run bytes = .ok (response, rest)) ∧
      response.accepted = true ∧
      RoutedSet.new ctx.ipNetwork response.routes.routedDomains
        response.routes.routedCidrs = .ok policy := by
  unfold Client.handshake at h
  split at h
  · cases (Prod.mk.inj h).2
  next resp rest hread =>
    dsimp only at h
    split at h
    · cases (Prod.mk.inj h).2
    next haccepted =>
      split at h
      · cases (Prod.mk.inj h).2
      split at h
      · cases (Prod.mk.inj h).2
      next set hset =>
        cases (Prod.mk.inj h).2
        exact ⟨⟨rest, hread⟩, by simpa using haccepted, hset⟩

theorem responseFromJson_of_decode {json : Json}
    (h : json.decodeHelloResponse data = .ok response) :
    json.responseFromJson data = .ok response := by
  obtain ⟨decoded, hfrom, hcheck⟩ := bind_eq_ok.1 h
  unfold checkVersion at hcheck
  split at hcheck
  · cases hcheck
  · rw [hfrom, hcheck]

/-- A response that was written is the one that is read. -/
theorem readResponse_of_write {json : Json} (hjson : ResponseRoundTrips json) {sent : HelloResponse}
    {rest : List UInt8} (hencode : json.responseToJson sent = .ok data)
    (hframe : writeMessage data = .ok framed)
    (hread : json.readResponse.run (framed ++ tail) = .ok (response, rest)) : response = sent := by
  rw [Json.readResponse, StateT.run_bind] at hread
  obtain ⟨⟨data', rest'⟩, hmessage, hdecode⟩ := bind_eq_ok.1 hread
  obtain rfl := readMessage_of_write hframe hmessage
  dsimp only at hdecode
  split at hdecode <;> cases hdecode
  next decoded hdecoded =>
    have hfrom := responseFromJson_of_decode hdecoded
    exact Except.ok.inj (hfrom.symm.trans (hjson sent data' hencode))

/-- **The policy a client learns is the set the server enforces.** -/
theorem policy_of_handshake (hjson : ResponseRoundTrips ctx.json)
    {crates : Crates EndpointId PublicKey}
    (hset : RoutedSet.new ctx.ipNetwork server.routedDomains server.routedCidrs =
      .ok server.routedSet)
    (hencode : ctx.json.responseToJson (.acceptedWith server.serverInstanceNonce
      (server.acceptedRoutes crates)) = .ok data) (hframe : writeMessage data = .ok framed)
    {s' : Client} (hshake : s.handshake ctx (framed ++ tail) = (s', .ok (response, policy))) :
    policy = server.routedSet := by
  obtain ⟨⟨rest, hread⟩, -, hnew⟩ := handshake_eq_ok hshake
  obtain rfl := readResponse_of_write hjson hencode hframe hread
  exact Except.ok.inj (hnew.symm.trans hset)

/-! ## Both sides -/

theorem localRoute_eq_tunnel_iff (policy : RoutedSet) (target : Target) :
    localRoute policy target = .tunnel ↔
      target.isReserved = true ∨ policy.allows target = true := by
  unfold localRoute
  cases target.isReserved <;> cases policy.allows target <;> simp

/-- The server refuses no target that is reserved or that its set allows. -/
theorem route_ne_notAllowed {target : Target}
    (h : target.isReserved = true ∨ server.routedSet.allows target = true) (fromBridge : Bool) :
    server.route fromBridge target ≠ .refuse .notAllowed := by
  cases hres : target.isReserved with
  | false =>
    rw [server.route_of_not_reserved fromBridge hres]
    rcases server.routeRequested_cases fromBridge target with
      ⟨hno, -⟩ | ⟨-, hroute | ⟨-, upstream, hroute⟩⟩
    · simp [hres, hno] at h
    · simp [hroute]
    · simp [hroute]
  | true =>
    match target, hres with
    | .domain host port, hres =>
      have hhost : isReservedHost host = true := hres
      simp only [ProxyServer.route, hhost, if_true, routeReserved]
      split <;> simp

/-- A local connection that has read its policy, with a live connection and a server that
replies, opens a stream for its target. -/
def OpensStream (ctx : ClientCtx) (s : Client) (r conn : Nat) (target : Target) : Prop :=
  ∃ rep t log, (proxyClient ctx).run s
      [.conn r .route, .conn r .borrow, .conn r (.openTunnel (.reply rep))] = some (t, log) ∧
    ClientEvent.tunneled r conn target ∈ log

/-- A run that starts with a step of a local connection, taken apart. -/
theorem run_conn_cons {t : Client} {r : Nat} {c : LocalConn} {l : LocalLabel}
    {ls : List ClientLabel} {log : List ClientEvent} (hc : s.conns[r]? = some c) :
    (proxyClient ctx).run s (.conn r l :: ls) = some (t, log) ↔
      ∃ pc es log', c.step s r l = some (pc, es) ∧
        (proxyClient ctx).run { s with conns := s.conns.set r { c with pc } } ls =
          some (t, log') ∧ log = es ++ log' := by
  rw [(proxyClient ctx).run_cons_eq_some]
  have hstep : (proxyClient ctx).step s (.conn r l) = (c.step s r l).map fun next =>
      ({ s with conns := s.conns.set r { c with pc := next.1 } }, next.2) := by
    show Client.step ctx s (.conn r l) = _
    rw [Client.step, hc]
    rfl
  constructor
  · rintro ⟨u, es, log', hu, hrest, rfl⟩
    rw [hstep] at hu
    obtain ⟨⟨pc, es'⟩, hpc, ⟨⟩⟩ := Option.map_eq_some_iff.1 hu
    exact ⟨pc, es', log', hpc, hrest, rfl⟩
  · rintro ⟨pc, es, log', hpc, hrest, rfl⟩
    exact ⟨_, es, log', by rw [hstep, hpc]; rfl, hrest, rfl⟩

/-- A routed connection opens its stream exactly when the policy says so. -/
theorem opensStream_iff {r conn : Nat} {listener : Listener} {request : LocalRequest}
    (hc : s.conns[r]? = some ⟨listener, .route request policy⟩) (hconn : s.current = some conn) :
    OpensStream ctx s r conn request.target ↔ localRoute policy request.target = .tunnel := by
  have hlt := (List.getElem?_eq_some_iff.1 hc).1
  constructor
  · rintro ⟨rep, t, log, hrun, -⟩
    obtain ⟨pc, es, log', hpc, hrest, -⟩ := (run_conn_cons hc).1 hrun
    cases hroute : localRoute policy request.target with
    | tunnel => rfl
    | direct =>
      -- a direct request does not wait for the tunnel
      simp only [LocalConn.step, hroute] at hpc
      cases hpc
      obtain ⟨_, _, _, hborrow, -⟩ :=
        (run_conn_cons (List.getElem?_set_self hlt)).1 hrest
      cases hborrow
  intro hroute
  have hlt' : r < (s.conns.set r ⟨listener, .wait .tunnel request .borrow⟩).length := by
    simpa using hlt
  have htunneled : ClientEvent.tunneled r conn request.target ∈
      (openTunnel r request conn (.reply Rep.success.code)).2 := by
    cases hwrite : writeRequest request.target <;> simp [openTunnel, hwrite]
  -- the state after each of the first two steps
  let s₁ := { s with conns := s.conns.set r ⟨listener, .wait .tunnel request .borrow⟩ }
  let s₂ := { s₁ with conns := s₁.conns.set r ⟨listener, .opening request conn⟩ }
  have hopen : ∃ t, (proxyClient ctx).run s₂ [.conn r (.openTunnel (.reply Rep.success.code))] =
      some (t, (openTunnel r request conn (.reply Rep.success.code)).2 ++ []) :=
    ⟨_, (run_conn_cons (List.getElem?_set_self hlt')).2
      ⟨_, _, [], rfl, (proxyClient ctx).run_nil _, rfl⟩⟩
  obtain ⟨t, hopen⟩ := hopen
  have hborrow : (⟨listener, .wait .tunnel request .borrow⟩ : LocalConn).step s₁ r .borrow =
      some (.opening request conn, []) := by
    simp only [LocalConn.step, s₁, hconn, waited]
  have hfirst : (⟨listener, .route request policy⟩ : LocalConn).step s r .route =
      some (.wait .tunnel request .borrow, []) := by
    simp only [LocalConn.step, hroute]
  have hrun₁ := (run_conn_cons (s := s₁) (List.getElem?_set_self hlt)).2
    ⟨_, _, _, hborrow, hopen, rfl⟩
  exact ⟨Rep.success.code, t, _, (run_conn_cons hc).2 ⟨_, _, _, hfirst, hrun₁, rfl⟩,
    by simpa using htunneled⟩

/-- **The client and the server agree.** A client that routes by the response it was accepted with
tunnels a front-end's target exactly when it is reserved or the server's own set allows it; and a
tunneled target that can be encoded is decoded unchanged and not refused by that set. -/
theorem client_and_server_agree (ctx : ClientCtx) (hjson : ResponseRoundTrips ctx.json)
    (crates : Crates EndpointId PublicKey) (server : ProxyServer EndpointId PublicKey)
    (hset : RoutedSet.new ctx.ipNetwork server.routedDomains server.routedCidrs =
      .ok server.routedSet)
    {data framed tail : List UInt8}
    (hencode : ctx.json.responseToJson (.acceptedWith server.serverInstanceNonce
      (server.acceptedRoutes crates)) = .ok data)
    (hframe : writeMessage data = .ok framed)
    {s₀ s₀' : Client} {response : HelloResponse} {policy : RoutedSet}
    (hshake : s₀.handshake ctx (framed ++ tail) = (s₀', .ok (response, policy)))
    {proto : LocalProto} {bytes rest : List UInt8} {request : LocalRequest}
    (hread : proto.readRequest.run bytes = .ok (request, rest)) :
    (∀ s r conn listener, s.conns[r]? = some ⟨listener, .route request policy⟩ →
      s.current = some conn →
      (OpensStream ctx s r conn request.target ↔
        request.target.isReserved = true ∨ server.routedSet.allows request.target = true)) ∧
    (localRoute policy request.target = .tunnel →
      ∀ header, writeRequest request.target = .ok header → ∀ fromBridge payload,
        readRequest.run (header ++ payload) = .ok (request.target, payload) ∧
        (handleSocksStream server fromBridge).run (header ++ payload) =
          .ok (server.route fromBridge request.target, payload) ∧
        server.route fromBridge request.target ≠ .refuse .notAllowed) := by
  obtain rfl := policy_of_handshake hjson hset hencode hframe hshake
  refine ⟨?_, ?_⟩
  · intro s r conn listener hc hconn
    rw [opensStream_iff hc hconn, localRoute_eq_tunnel_iff]
  intro hroute header hwrite fromBridge payload
  have hplain := LocalProto.plain_of_readRequest hread
  have hdecode := reads_readRequest hplain hwrite payload
  refine ⟨hdecode, handleSocksStream_of_read hdecode, ?_⟩
  exact route_ne_notAllowed ((localRoute_eq_tunnel_iff _ _).1 hroute) fromBridge

def tenResponse : HelloResponse :=
  .acceptedWith 0 ((bridgedTo "a" "b").acceptedRoutes textCrates)

def tenSocks : List UInt8 := [5, 1, 0, 5, 1, 0, 1, 10, 0, 0, 7, 0, 80]

theorem responseRoundTrips_oneResponse (response : HelloResponse) :
    ResponseRoundTrips (oneResponseJson response) := by
  intro r data hdata
  simp only [oneResponseJson] at hdata ⊢
  split at hdata <;> cases hdata
  next hr => simp [hr]

/-- A SOCKS5 request inside the pushed network is tunneled, and the server it reaches
decodes it and does not refuse it. -/
theorem client_and_server_agree_socks :
    ∃ s' response policy request rest,
      (startedClient none).handshake (plainClient tenResponse tenNetwork) [0, 0, 0, 1, 0] =
        (s', .ok (response, policy)) ∧
      LocalProto.socks5.readRequest.run tenSocks = .ok (request, rest) ∧
      localRoute policy request.target = .tunnel ∧
      readRequest.run ([1, 1, 10, 0, 0, 7, 0, 80] ++ [42]) = .ok (request.target, [42]) ∧
      (bridgedTo "a" "b").route false request.target ≠ .refuse .notAllowed := by
  have hread : LocalProto.socks5.readRequest.run tenSocks = .ok (⟨tenTarget, none⟩, []) := rfl
  have haccepted : ((startedClient none).handshake (plainClient tenResponse tenNetwork)
      [0, 0, 0, 1, 0]).2 = .ok (tenResponse, { cidrs := [tenNetwork] }) := by rfl
  obtain ⟨s', hshake⟩ : ∃ s', (startedClient none).handshake (plainClient tenResponse tenNetwork)
      [0, 0, 0, 1, 0] = (s', .ok (tenResponse, { cidrs := [tenNetwork] })) := by
    rw [← haccepted]
    exact ⟨_, Prod.mk.eta.symm⟩
  have hroute : localRoute { cidrs := [tenNetwork] } tenTarget = .tunnel := by decide
  obtain ⟨-, hserver⟩ := client_and_server_agree (plainClient tenResponse tenNetwork)
    (responseRoundTrips_oneResponse tenResponse) textCrates (bridgedTo "a" "b") rfl rfl rfl
    ((congrArg _ (List.append_nil _)).trans hshake) hread
  obtain ⟨hdecode, -, hroute'⟩ := hserver hroute [1, 1, 10, 0, 0, 7, 0, 80] rfl false [42]
  exact ⟨s', _, _, _, _, hshake, hread, hroute, hdecode, hroute'⟩

end

end Flextunnel.Analysis
