import Flextunnel.Analysis.HandlerChecks

/-!
# Who is served, and what the others learn

A peer is served, or told a route, only if it is authorized: by a verified key on the
client ALPN, by its id on the quick and the bridge ALPN, and off the blocklist when a
client's handler checked. `AuthInv` gives this as the checks of the code; here they are
read back as conditions on the options `prepare` was given.

What an unauthorized peer is sent does not depend on the routing configuration. That is
a statement about two servers with the same identity and credentials and any other routes.
-/

set_option autoImplicit false

namespace Flextunnel.Analysis

open Lib Model

section

variable {EndpointId PublicKey Doc : Type} [DecidableEq EndpointId] [DecidableEq PublicKey]

/-! ## Authorization, in terms of the options -/

/-- The `Hello` of peer `id` carries a payload for that id whose key is authorized and
whose signature verifies.
SOURCE: core/proxy/server.rs:471-515 -/
def KeyVerified (crates : Crates EndpointId PublicKey) (opts : ServerOptions EndpointId PublicKey)
    (id : EndpointId) (hello : Hello) (key : PublicKey) : Prop :=
  ∃ auth, hello.auth = some auth ∧ crates.parseEndpointId auth.endpointId = .ok id ∧
    crates.parsePublicKey auth.publicKey = .ok key ∧ key ∈ opts.authorizedKeys ∧
    crates.verifyEndpointIdSignature key authContext id auth.signature = true

def UnblockedWhenChecked (ctx : ServerCtx EndpointId PublicKey Doc) (s₀ : Server EndpointId Doc)
    (ls : List (ServerLabel EndpointId)) (c : Nat) (id : EndpointId) : Prop :=
  ∃ pre post t log, ls = pre ++ .handler c .check :: post ∧
    (proxyServer ctx).run s₀ pre = some (t, log) ∧
    t.shared.blocklist.isClientBlocked (ctx.crates.endpointIdText id) = false

def Authorized (ctx : ServerCtx EndpointId PublicKey Doc)
    (opts : ServerOptions EndpointId PublicKey) (s₀ : Server EndpointId Doc)
    (ls : List (ServerLabel EndpointId)) (log : List (ServerEvent EndpointId)) (c : Nat) :
    EndpointId × Alpn → Prop
  | (id, .client) =>
    (∃ hello key, ServerEvent.helloRead c hello ∈ log ∧
      KeyVerified ctx.crates opts id hello key) ∧ UnblockedWhenChecked ctx s₀ ls c id
  | (id, .quick) => opts.quickClient = some id ∧ UnblockedWhenChecked ctx s₀ ls c id
  | (id, .bridge) => ∃ raw ∈ opts.allowedBridgeServers, ctx.crates.parseEndpointId raw = .ok id

/-- An event that serves a stream of connection `c`, or sends it a routed rule, an alias,
a DNS forward or a bridge. -/
def Serves (c : Nat) : ServerEvent EndpointId → Prop
  | .stream d _ => d = c
  | .response d resp => d = c ∧ resp.routes ≠ {}
  | _ => False

structure SameCredentials (opts opts' : ServerOptions EndpointId PublicKey) : Prop where
  secretKey : opts'.secretKey = opts.secretKey
  authorizedKeys : opts'.authorizedKeys = opts.authorizedKeys
  quickClient : opts'.quickClient = opts.quickClient
  allowedBridgeServers : opts'.allowedBridgeServers = opts.allowedBridgeServers

variable {ctx ctx' : ServerCtx EndpointId PublicKey Doc}

variable {crates : Crates EndpointId PublicKey} {id : EndpointId}
    {es : List (ServerEvent EndpointId)}

/-- What a client that passes has shown. -/
theorem verifyClientAuth_eq_true {server : ProxyServer EndpointId PublicKey}
    {auth : ClientAuthPayload} (h : server.verifyClientAuth crates auth id = true) :
    crates.parseEndpointId auth.endpointId = .ok id ∧
      ∃ key, crates.parsePublicKey auth.publicKey = .ok key ∧ key ∈ server.authorizedKeys ∧
        crates.verifyEndpointIdSignature key authContext id auth.signature = true := by
  unfold ProxyServer.verifyClientAuth at h
  split at h
  · cases h
  next claimed hclaimed =>
  split at h
  · cases h
  next hid =>
  split at h
  · cases h
  next key hkey =>
  split at h
  · cases h
  next hmem =>
  obtain rfl : claimed = id := by simpa using hid
  exact ⟨hclaimed, key, hkey, by simpa using hmem, h⟩

theorem authOk_client {hello : Hello} (h : authOk ctx .client id hello = true) :
    ∃ auth, hello.auth = some auth ∧ ctx.crates.parseEndpointId auth.endpointId = .ok id ∧
      ∃ key, ctx.crates.parsePublicKey auth.publicKey = .ok key ∧
        key ∈ ctx.server.authorizedKeys ∧
        ctx.crates.verifyEndpointIdSignature key authContext id auth.signature = true := by
  unfold authOk at h
  split at h
  · cases h
  next auth hauth => exact ⟨auth, hauth, verifyClientAuth_eq_true (by simpa using h)⟩

/-- A peer the hook lets through is on the list of its ALPN. -/
theorem mem_of_afterHandshake {lists : EndpointAllowlists EndpointId} {alpn : Alpn}
    (h : lists.afterHandshake alpn id = none) {allowed : List EndpointId}
    {disabled rejected : String} (hrule : lists.rule alpn = some (allowed, disabled, rejected)) :
    id ∈ allowed := by
  unfold EndpointAllowlists.afterHandshake at h
  rw [hrule] at h
  by_contra hmem
  simp [hmem] at h

omit [DecidableEq PublicKey] in
theorem mem_parseAllowedBridges {raws : List String} {ownId : EndpointId} {ids : List EndpointId}
    (h : parseAllowedBridges crates raws ownId = .ok ids) (hid : id ∈ ids) :
    ∃ raw ∈ raws, crates.parseEndpointId raw = .ok id := by
  obtain ⟨ids', hids, hrest⟩ := bind_eq_ok.1 h
  obtain rfl : ids' = ids := by
    split at hrest
    · cases hrest
    · exact Except.ok.inj hrest
  obtain ⟨raw, hraw, hparse⟩ := (mem_iff_of_mapM_eq_ok hids).1 hid
  exact ⟨raw, hraw, mapError_eq_ok.1 hparse⟩

/-! ## The same server with other routes -/

structure Reconfigured (ctx ctx' : ServerCtx EndpointId PublicKey Doc) : Prop where
  crates : ctx'.crates = ctx.crates
  json : ctx'.json = ctx.json
  blocklistJson : ctx'.blocklistJson = ctx.blocklistJson
  allowlists : ctx'.allowlists = ctx.allowlists
  ownId : ctx'.server.ownId = ctx.server.ownId
  serverInstanceNonce : ctx'.server.serverInstanceNonce = ctx.server.serverInstanceNonce
  authorizedKeys : ctx'.server.authorizedKeys = ctx.server.authorizedKeys

def SameButRoutes (e e' : ServerEvent EndpointId) : Prop :=
  e' = e ∨ ∃ c nonce routes routes', e = .response c (.acceptedWith nonce routes) ∧
    e' = .response c (.acceptedWith nonce routes')

omit [DecidableEq EndpointId] in
theorem forall₂_sameButRoutes_refl (es : List (ServerEvent EndpointId)) :
    List.Forall₂ SameButRoutes es es :=
  List.forall₂_same.2 fun _ _ => .inl rfl

omit [DecidableEq EndpointId] [DecidableEq PublicKey] in
/-- A reply differs in the routes of an acceptance at most. -/
theorem reply_reconfigured (hre : Reconfigured ctx ctx') {now : Nat} {phase : Phase} {r : Reply}
    (h : phase.reply ctx now = some r) :
    ∃ r', phase.reply ctx' now = some r' ∧ (∀ write, r'.next write = r.next write) ∧
      ∀ c, SameButRoutes (.response c r.resp : ServerEvent EndpointId) (.response c r'.resp) := by
  unfold Phase.reply at h ⊢
  rw [hre.serverInstanceNonce]
  split at h
  all_goals first
    | (cases h; exact ⟨_, rfl, fun write => by cases write <;> rfl, fun _ => .inl rfl⟩)
    | (cases h
       exact ⟨_, rfl, fun write => by cases write <;> rfl, fun c => .inr ⟨c, _, _, _, rfl, rfl⟩⟩)
    | cases h

theorem authOk_reconfigured (hre : Reconfigured ctx ctx') (alpn : Alpn) (id : EndpointId)
    (hello : Hello) : authOk ctx' alpn id hello = authOk ctx alpn id hello := by
  unfold authOk ProxyServer.verifyClientAuth
  rw [hre.crates, hre.authorizedKeys]

/-- With other routes a handler takes the same step. -/
theorem handler_step_reconfigured (hre : Reconfigured ctx ctx') {c : Nat}
    {sh sh' : Shared EndpointId Doc} {h h' : Handler EndpointId} {l : HandlerLabel EndpointId}
    (hstep : h.step ctx c sh l = some (h', sh', es)) :
    ∃ es', h.step ctx' c sh l = some (h', sh', es') ∧ List.Forall₂ SameButRoutes es es' := by
  have hsame (hstep' : h.step ctx' c sh l = some (h', sh', es)) :
      ∃ es', h.step ctx' c sh l = some (h', sh', es') ∧ List.Forall₂ SameButRoutes es es' :=
    ⟨es, hstep', forall₂_sameButRoutes_refl es⟩
  cases l with
  | reply write =>
    simp only [Handler.step] at hstep ⊢
    split at hstep
    · cases hstep
    next r hr =>
      obtain ⟨r', hr', hnext, hresp⟩ := reply_reconfigured hre hr
      rw [hr']
      split at hstep <;> cases hstep
      next hsent =>
        simp only [if_neg hsent, hnext]
        refine ⟨_, rfl, ?_⟩
        split
        · exact .nil
        · exact .cons (hresp c) .nil
  | tls =>
    exact hsame (by simpa only [Handler.step, Handler.tls, hre.allowlists] using hstep)
  | hello =>
    exact hsame (by simpa only [Handler.step, Handler.hello, hre.json] using hstep)
  | check =>
    exact hsame (by
      simpa only [Handler.step, Handler.check, hre.crates, authOk_reconfigured hre] using hstep)
  | selfBlock =>
    exact hsame (by
      simpa only [Handler.step, Shared.selfBlock, Shared.block, hre.crates, hre.blocklistJson,
        hre.ownId] using hstep)
  | tryRegister =>
    exact hsame (by
      simpa only [Handler.step, Handler.tryRegister, clientKey, hre.crates] using hstep)
  | blockClient =>
    exact hsame (by
      simpa only [Handler.step, Shared.blockClient, Shared.block, hre.crates, hre.blocklistJson]
        using hstep)
  | _ => exact ⟨es, hstep, forall₂_sameButRoutes_refl es⟩

/-- With other routes the server takes the same step. -/
theorem step_reconfigured (hre : Reconfigured ctx ctx') {s t : Server EndpointId Doc}
    {l : ServerLabel EndpointId} (hstep : s.step ctx l = some (t, es)) :
    ∃ es', s.step ctx' l = some (t, es') ∧ List.Forall₂ SameButRoutes es es' := by
  cases l with
  | handler c hl =>
    simp only [Server.step] at hstep ⊢
    split at hstep
    · cases hstep
    next h hh =>
      split at hstep <;> cases hstep
      next h' sh es₁ hmove =>
        obtain ⟨es', hmove', hes⟩ := handler_step_reconfigured hre hmove
        exact ⟨es', by simp [hmove'], hes⟩
  | _ => exact ⟨es, hstep, forall₂_sameButRoutes_refl es⟩

omit [DecidableEq EndpointId] in
/-- What is sent to a peer that is rejected only is the same. -/
theorem filter_sentTo_eq {log log' : List (ServerEvent EndpointId)} {c : Nat}
    (hsame : List.Forall₂ SameButRoutes log log')
    (hrej : ∀ e ∈ log, sentTo e = some c → Rejection e) :
    log'.filter (fun e => sentTo e = some c) = log.filter (fun e => sentTo e = some c) := by
  induction hsame with
  | nil => rfl
  | @cons e e' log log' he hrest ih =>
    have ih' := ih fun e he => hrej e (List.mem_cons_of_mem _ he)
    rcases he with rfl | ⟨d, nonce, routes, routes', rfl, rfl⟩
    · simp only [List.filter_cons, ih']
    have hne : d ≠ c := by
      rintro rfl
      obtain ⟨nonce', reason, heq⟩ := hrej _ List.mem_cons_self rfl
      simp [HelloResponse.acceptedWith, HelloResponse.rejected] at heq
    rw [List.filter_cons_of_neg (by simpa [sentTo] using hne),
      List.filter_cons_of_neg (by simpa [sentTo] using hne), ih']

/-! ## The checks, read back -/

variable {s₀ s : Server EndpointId Doc} {ls : List (ServerLabel EndpointId)}
  {log : List (ServerEvent EndpointId)} {c : Nat} {id : EndpointId} {alpn : Alpn}
  {hello : Hello} {crates : Crates EndpointId PublicKey} {json : Json}
  {blocklistJson : BlocklistJson Doc} {disk : Disk Doc} {nonce : Nonce}
  {opts : ServerOptions EndpointId PublicKey} {p : PreparedServer EndpointId PublicKey}

/-- An admitted client was off the blocklist at its check. -/
theorem unblockedWhenChecked_of_admitted (hrun : (proxyServer ctx).run s₀ ls = some (s, log))
    (h : ServerEvent.admitted c id ∈ log) : UnblockedWhenChecked ctx s₀ ls c id := by
  obtain ⟨pre, l, post, t, t', log₁, es, rfl, hpre, hstep, he⟩ :=
    (proxyServer ctx).exists_step_of_mem hrun h
  rcases Server.step_cases hstep with hloop | ⟨d, hl, k, k', sh, rfl, hk, hmove, rfl⟩
  · cases hloop <;> simp at he
  cases hmove with
  | admitted hphase hpeer hblocked hauth =>
    obtain ⟨rfl, rfl⟩ : c = d ∧ id = _ := by simpa using he
    exact ⟨pre, post, t, log₁, rfl, hpre, hblocked⟩
  | reply => split at he <;> simp at he
  | _ => simp at he

theorem AdmittedWith.keyVerified (hprep : Prepared crates blocklistJson disk opts p)
    (ha : AdmittedWith (p.ctx crates json blocklistJson) log c id .client hello) :
    ∃ key, KeyVerified crates opts id hello key := by
  obtain ⟨auth, hauth, hclaimed, key, hkey, hmem, hsig⟩ := authOk_client ha.authOk
  exact ⟨key, auth, hauth, hclaimed, hkey, hprep.authorizedKeys ▸ hmem, hsig⟩

/-- Who passed the checks of the code is authorized by the options. -/
theorem authorized_of_entitled (hprep : Prepared crates blocklistJson disk opts p)
    (hrun : (proxyServer (p.ctx crates json blocklistJson)).run s₀ ls = some (s, log))
    (h : Entitled (p.ctx crates json blocklistJson) log c (id, alpn)) :
    Authorized (p.ctx crates json blocklistJson) opts s₀ ls log c (id, alpn) := by
  obtain ⟨hhook, hchecks⟩ := h
  cases alpn with
  | client =>
    obtain ⟨hello, ha⟩ := hchecks.resolve_left nofun
    obtain ⟨key, hkey⟩ := ha.keyVerified hprep
    exact ⟨⟨hello, key, ha.helloRead, hkey⟩, unblockedWhenChecked_of_admitted hrun ha.admitted⟩
  | quick =>
    obtain ⟨hello, ha⟩ := hchecks.resolve_left nofun
    refine ⟨?_, unblockedWhenChecked_of_admitted hrun ha.admitted⟩
    have hmem : id ∈ p.allowlists.quickClients := mem_of_afterHandshake hhook rfl
    rw [hprep.quickClients] at hmem
    exact Option.mem_toList.1 hmem
  | bridge =>
    have hmem : id ∈ p.allowlists.bridgeServers := mem_of_afterHandshake hhook rfl
    exact mem_parseAllowedBridges hprep.bridgeServers hmem

/-- A key that is registered was verified. -/
theorem AdmittedWith.clientKey_verified (hprep : Prepared crates blocklistJson disk opts p)
    (ha : AdmittedWith (p.ctx crates json blocklistJson) log c id alpn hello) {token : String}
    (hkey : clientKey (p.ctx crates json blocklistJson) alpn hello = some token) :
    alpn = .client ∧ ∃ key, KeyVerified crates opts id hello key ∧
      crates.publicKeyToken key = token := by
  unfold clientKey at hkey
  split at hkey
  · cases hkey
  next auth hauth =>
  split at hkey
  · cases hkey
  next hquick =>
  obtain rfl : alpn = .client := by
    cases alpn with
    | client => rfl
    | quick => exact absurd rfl hquick
    | bridge => exact absurd rfl ha.notBridge
  obtain ⟨key, auth', hauth', hclaimed, hparse, hmem, hsig⟩ := ha.keyVerified hprep
  cases hauth.symm.trans hauth'
  refine ⟨rfl, key, ⟨auth, hauth, hclaimed, hparse, hmem, hsig⟩, ?_⟩
  split at hkey
  · cases hkey
  next key' hparse' =>
    cases hparse.symm.trans hparse'
    exact Option.some.inj hkey

omit [DecidableEq PublicKey] in
/-- Options with the same credentials prepare the same server up to its routes. -/
theorem reconfigured_of_prepare {opts' : ServerOptions EndpointId PublicKey}
    {p' : PreparedServer EndpointId PublicKey}
    (hprep : prepare crates blocklistJson disk nonce opts = .ok p)
    (hprep' : prepare crates blocklistJson disk nonce opts' = .ok p')
    (hsame : SameCredentials opts opts') :
    Reconfigured (p.ctx crates json blocklistJson) (p'.ctx crates json blocklistJson) := by
  obtain ⟨hp, hnonce⟩ := prepared_of_prepare hprep
  obtain ⟨hp', hnonce'⟩ := prepared_of_prepare hprep'
  have hownId : p'.server.ownId = p.server.ownId := by
    rw [hp.ownId, hp'.ownId, hsame.secretKey]
  have hbridges : p'.allowlists.bridgeServers = p.allowlists.bridgeServers := by
    have h := hp'.bridgeServers
    rw [hsame.allowedBridgeServers, hownId, hp.bridgeServers] at h
    exact (Except.ok.inj h).symm
  have hquick : p'.allowlists.quickClients = p.allowlists.quickClients := by
    rw [hp.quickClients, hp'.quickClients, hsame.quickClient]
  have hlists : p'.allowlists = p.allowlists := by
    cases hl : p.allowlists
    cases hl' : p'.allowlists
    simp_all
  exact ⟨rfl, rfl, rfl, hlists, hownId, hnonce'.trans hnonce.symm,
    by rw [PreparedServer.ctx, PreparedServer.ctx, hp.authorizedKeys, hp'.authorizedKeys,
      hsame.authorizedKeys]⟩

omit [DecidableEq EndpointId] in
theorem Serves.not_rejection {e : ServerEvent EndpointId} (h : Serves c e) :
    sentTo e = some c ∧ ¬ Rejection e := by
  unfold Serves at h
  split at h
  · subst h
    exact ⟨rfl, id⟩
  · obtain ⟨rfl, hroutes⟩ := h
    refine ⟨rfl, ?_⟩
    rintro ⟨nonce, reason, rfl⟩
    exact hroutes rfl
  · exact h.elim

/-- Whatever else than a rejection was sent went to an authorized peer. -/
theorem authorized_of_sent (hprep : Prepared crates blocklistJson disk opts p)
    (hrun : (proxyServer (p.ctx crates json blocklistJson)).run s₀ ls = some (s, log))
    (hinv : AuthInv (p.ctx crates json blocklistJson) log s) {e : ServerEvent EndpointId}
    (he : e ∈ log) (hto : sentTo e = some c) (hnot : ¬ Rejection e) :
    ∃ q, s.peerOf c = some q ∧
      Authorized (p.ctx crates json blocklistJson) opts s₀ ls log c q := by
  obtain ⟨d, q, hto', hq, hen⟩ := (hinv.sent e he).resolve_left hnot
  cases hto'.symm.trans hto
  exact ⟨q, hq, authorized_of_entitled hprep hrun hen⟩

/-- **Only authorized peers are served, the others learn nothing about the routing, and the
connected keys are verified ones.** For every configuration `prepare` accepts and every run: a
stream is served, or a route sent, only to an authorized peer; any other connection gets rejections
and closes only, the same under any other routing; and every key `connected_client_keys` returns is
the verified key of a registered client. -/
theorem only_authorized_peers_served
    (hprep : prepare crates blocklistJson disk nonce opts = .ok p)
    (hinit : (proxyServer (p.ctx crates json blocklistJson)).init s₀)
    (hrun : (proxyServer (p.ctx crates json blocklistJson)).run s₀ ls = some (s, log)) :
    (∀ e ∈ log, ∀ c, Serves c e → ∃ q, s.peerOf c = some q ∧
      Authorized (p.ctx crates json blocklistJson) opts s₀ ls log c q) ∧
    (∀ c, (∀ q, s.peerOf c = some q →
        ¬ Authorized (p.ctx crates json blocklistJson) opts s₀ ls log c q) →
      (∀ e ∈ log, sentTo e = some c → Rejection e) ∧
      ∀ opts' p', prepare crates blocklistJson disk nonce opts' = .ok p' →
        SameCredentials opts opts' →
        ∃ log', (proxyServer (p'.ctx crates json blocklistJson)).run s₀ ls = some (s, log') ∧
          log'.filter (fun e => sentTo e = some c) = log.filter (fun e => sentTo e = some c)) ∧
    ∀ token ∈ s.shared.registry.connectedClientKeys, ∃ id, ∃ e ∈ s.shared.registry.entriesOf id,
      e.clientKey = some token ∧ s.peerOf e.connection = some (id, .client) ∧
      ∃ hello key, ServerEvent.helloRead e.connection hello ∈ log ∧
        KeyVerified crates opts id hello key ∧ crates.publicKeyToken key = token := by
  obtain ⟨hp, -⟩ := prepared_of_prepare hprep
  have hinv := authInv_run hinit hrun
  refine ⟨?_, ?_, ?_⟩
  · intro e he c hserves
    obtain ⟨hto, hnot⟩ := hserves.not_rejection
    exact authorized_of_sent hp hrun hinv he hto hnot
  · intro c hunauthorized
    have hrej : ∀ e ∈ log, sentTo e = some c → Rejection e := by
      intro e he hto
      by_contra hnot
      obtain ⟨q, hq, hauth⟩ := authorized_of_sent hp hrun hinv he hto hnot
      exact hunauthorized q hq hauth
    refine ⟨hrej, ?_⟩
    intro opts' p' hprep' hsame
    have hre : Reconfigured (p.ctx crates json blocklistJson) (p'.ctx crates json blocklistJson) :=
      reconfigured_of_prepare hprep hprep' hsame
    have hlockstep : ∀ s l t es,
        (proxyServer (p.ctx crates json blocklistJson)).step s l = some (t, es) →
        ∃ es', (proxyServer (p'.ctx crates json blocklistJson)).step s l = some (t, es') ∧
          List.Forall₂ SameButRoutes es es' :=
      fun s l t es hstep => step_reconfigured hre hstep
    obtain ⟨log', hrun', hlogs⟩ := Machine.run_lockstep hlockstep hrun
    exact ⟨log', hrun', filter_sentTo_eq hlogs hrej⟩
  · intro token htoken
    obtain ⟨id, e, he, hkey⟩ := Registry.mem_connectedClientKeys htoken
    obtain ⟨h, alpn, hello, hh, hpeer, -, -, ha, hclientKey⟩ := hinv.registry id e he
    obtain ⟨rfl, key, hverified, htok⟩ :=
      ha.clientKey_verified hp (hclientKey.symm.trans hkey)
    exact ⟨id, e, he, hkey, (Server.peerOf_eq hh).trans hpeer, hello, key, ha.helloRead,
      hverified, htok⟩

end

/-! ## One laptop and one stranger -/

/-- The laptop is accepted and opens a stream; a stranger on the quick ALPN is not. -/
def laptopAndStranger : List (ServerLabel String) :=
  laptopConnects 0 1 0 ++
    [.handler 0 .tryRegister, .handler 0 (.reply .sent), .handler 0 .stream, .acquire, .accept,
      .handler 1 (.tls "stranger" .quick)]

/-- The laptop's stream is served and its key listed; the stranger is turned away by the
hook, and would be by a server with any other routes. -/
theorem only_authorized_peers_served_laptop :
    ∃ s log, (proxyServer plainServer).run plainStart laptopAndStranger = some (s, log) ∧
      ServerEvent.stream 0 false ∈ log ∧ s.shared.registry.connectedClientKeys = ["key"] ∧
      (∃ q, s.peerOf 0 = some q ∧
        Authorized plainServer (plainOptions "server") plainStart laptopAndStranger log 0 q) ∧
      ∀ e ∈ log, sentTo e = some 1 → Rejection e := by
  have heval : ((proxyServer plainServer).run plainStart laptopAndStranger).map (fun r =>
      (r.1.shared.registry.connectedClientKeys, decide (ServerEvent.stream 0 false ∈ r.2),
        r.1.peerOf 1)) = some (["key"], true, none) := by decide
  obtain ⟨⟨s, log⟩, hrun, hs⟩ := Option.map_eq_some_iff.1 heval
  obtain ⟨hkeys, hstream, hpeer⟩ : s.shared.registry.connectedClientKeys = ["key"] ∧
      ServerEvent.stream 0 false ∈ log ∧ s.peerOf 1 = none := by simpa using hs
  have hprep : prepare textCrates plainJson .missing 7 (plainOptions "server") =
    .ok plainPrepared := rfl
  have hrun' : (proxyServer (plainPrepared.ctx textCrates plainHelloJson plainJson)).run
      plainStart laptopAndStranger = some (s, log) := hrun
  obtain ⟨hserved, hothers, -⟩ :=
    only_authorized_peers_served hprep ⟨rfl, rfl, rfl, rfl, rfl⟩ hrun'
  refine ⟨s, log, hrun, hstream, hkeys, hserved _ hstream 0 rfl, (hothers 1 ?_).1⟩
  intro q hq
  rw [hpeer] at hq
  cases hq

end Flextunnel.Analysis
