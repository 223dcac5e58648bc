import Flextunnel.Analysis.AliasChoice
import Flextunnel.Analysis.ForwardChoice
import Flextunnel.Analysis.ReachableRules

/-!
# Forwards the routed set does not cover

`prepare` refuses a DNS forward whose suffix the routed set does not cover, because it "would
never be used". That holds of requests looked up under the names they ask for. But the routed set
is asked before an alias is applied and the forwarder after, so an alias of a routed name can lead
to the refused suffix.
-/

set_option autoImplicit false

namespace Flextunnel.Analysis

open Lib Model Model.Config

variable {EndpointId PublicKey Doc : Type}

/-! ## Lookups through a forward -/

/-- A server with these options, whose forwards were not checked against its routed set.
SOURCE: core/server.rs:181-251 -/
structure Unchecked [DecidableEq EndpointId] (crates : Crates EndpointId PublicKey)
    (opts : ServerOptions EndpointId PublicKey) (server : ProxyServer EndpointId PublicKey) :
    Prop where
  hostAliases : server.hostAliases = opts.hostAliases
  routedSet :
    RoutedSet.new crates.ipNetwork opts.routedDomains opts.routedCidrs = .ok server.routedSet
  dnsForwarder :
    DnsForwarder.new crates.buildResolver opts.dnsForwards = .ok server.dnsForwarder
  bridges : ∃ relayUrls bridges, server.bridges = sortBridges bridges ∧
    opts.bridges.toPairs.mapM (fun e =>
      prepareBridge crates server.ownId server.routedSet relayUrls e.1 e.2) = .ok bridges

/-- The forward of this suffix is the one a name is looked up through. -/
def SelectsForward (server : ProxyServer EndpointId PublicKey) (suffix host : String)
    (resolver : List (IpAddr × UInt16)) : Prop :=
  ∃ f e, server.dnsForwarder = some f ∧
    f.forwards.find? (fun e => DnsForwarder.suffixMatches (Text.toAsciiLowercase host) e.suffix) =
      some e ∧ e.suffix = suffix ∧ e.resolver = resolver

def LooksUpThrough (server : ProxyServer EndpointId PublicKey) (suffix : String)
    (event : DialEvent) : Prop :=
  ∃ host resolver, SelectsForward server suffix host resolver ∧
    event = .lookup (some resolver) host

/-- A request for `host` makes the server look `dialed` up: the request fits its header, the host
is routed by this server itself, and `dialed` is its alias or, without one, the host. -/
structure Reaches (server : ProxyServer EndpointId PublicKey) (host dialed : String) : Prop where
  fits : Target.HostFits (.domain host 0)
  unreserved : isReservedHost host = false
  routed : server.routedSet.allowsHost host = true
  unbridged : ∀ b ∈ server.bridges, b.routedSet.allowsHost host = false
  aliased : (resolveAlias server.hostAliases host).getD host = dialed
  foreign : loopbackPort (.domain dialed 0) = none

variable {host : String} {server : ProxyServer EndpointId PublicKey}
    {forwarder : Option DnsForwarder} {resolver : Option (List (IpAddr × UInt16))} {target : Target}

theorem SelectsForward.resolver_eq {suffix : String} {resolver : List (IpAddr × UInt16)}
    (h : SelectsForward server suffix host resolver) :
    (server.dnsForwarder.bind fun f => f.resolverFor host) = some resolver := by
  obtain ⟨f, e, hf, hfind, -, rfl⟩ := h
  rw [hf, Option.bind_some, DnsForwarder.resolverFor, hfind, Option.map_some]

theorem loopbackPort_domain_eq_none_iff {port port' : UInt16} :
    loopbackPort (.domain host port) = none ↔ loopbackPort (.domain host port') = none := by
  simp only [loopbackPort]
  split <;> simp

/-- A lookup is of the domain the server dials. -/
theorem target_of_lookup {net : Net} {deadline : Option Nat}
    (h : .lookup resolver host ∈ (connectAndPipe net deadline target forwarder).1) :
    loopbackPort target = none ∧ ∃ port, target = .domain host port := by
  rw [connectAndPipe_events] at h
  have hdial := Dial.mem_events_within h
  unfold dialTarget at hdial
  split at hdial
  · obtain ⟨addr, -, ⟨⟩⟩ := mem_events_connectAny hdial
  next hport =>
    refine ⟨hport, ?_⟩
    cases target with
    | ip addr => simp at hdial
    | domain host' port =>
      obtain ⟨es, hes, hconnect⟩ := connectResolved_events
      rcases List.mem_cons.1 (hes ▸ hdial) with heq | he
      · exact ⟨port, by rw [(DialEvent.lookup.inj heq).2]⟩
      · cases (hconnect _ he).choose_spec

theorem lookup_mem_events {net : Net} {port : UInt16}
    (h : loopbackPort (.domain host port) = none) :
    .lookup (forwarder.bind fun f => f.resolverFor host) host ∈
      (connectAndPipe net none (.domain host port) forwarder).1 := by
  rw [connectAndPipe_events, Dial.within, dialTarget, h]
  obtain ⟨es, hes, -⟩ := @connectResolved_events net forwarder host port
  simp [hes]

/-- A dialed target is the exit of the route the request took. -/
theorem exit_of_dialed {v : Visit EndpointId} {l : PathLabel} {a : EndpointId}
    {events : List DialEvent} (h : .dialed a target events ∈ (server.visit v l).2) :
    ∃ requested, Requests v.bytes requested ∧
      server.route (v.alpn == .bridge) requested = .exit target ∧
      events = (connectAndPipe l.net l.deadline target server.dnsForwarder).1 := by
  unfold ProxyServer.visit at h
  cases hread : readRequest.run v.bytes with
  | error e =>
    rw [handleSocksStream_of_error hread] at h
    simp at h
  | ok r =>
    obtain ⟨requested, rest⟩ := r
    rw [handleSocksStream_of_read hread] at h
    cases hroute : server.route (v.alpn == .bridge) requested with
    | exit dialed =>
      rw [hroute] at h
      simp only [List.mem_cons, reduceCtorEq, PathEvent.dialed.injEq, List.not_mem_nil,
        or_false, false_or] at h
      obtain ⟨-, rfl, rfl⟩ := h
      exact ⟨requested, ⟨rest, hread⟩, hroute, rfl⟩
    | reserved | refuse =>
      rw [hroute] at h
      simp at h
    | bridge upstream forwarded =>
      rw [hroute] at h
      dsimp only at h
      split at h
      · split at h <;> simp at h
      · simp at h

theorem not_reserved_of_exit {fromBridge : Bool} {requested : Target}
    (hroute : server.route fromBridge requested = .exit target)
    (hport : loopbackPort target = none) : requested.isReserved = false := by
  cases hres : requested.isReserved with
  | false => rfl
  | true =>
    cases requested with
    | ip addr => cases hres
    | domain host port =>
      have hreserved : server.route fromBridge (.domain host port) = routeReserved host port :=
        if_pos hres
      rw [hreserved, routeReserved] at hroute
      split at hroute
      · obtain rfl := Route.exit.inj hroute
        cases hport
      · cases hroute

/-- A client's request goes out here when the set allows it and no bridge does. -/
theorem route_eq_exit_iff {requested : Target} (hres : requested.isReserved = false) :
    server.route false requested = .exit target ↔
      server.routedSet.allows requested = true ∧
        (∀ b ∈ server.bridges, b.routedSet.allows requested = false) ∧
        applyAlias requested server.hostAliases = target := by
  rw [server.route_of_not_reserved false hres]
  have hnone : server.bridgeFor requested = none ↔
      ∀ b ∈ server.bridges, b.routedSet.allows requested = false := by
    simp [ProxyServer.bridgeFor, List.find?_eq_none]
  rw [← hnone]
  unfold ProxyServer.routeRequested
  cases server.routedSet.allows requested with
  | false => simp
  | true => cases server.bridgeFor requested <;> simp

theorem applyAlias_domain (host : String) (port : UInt16) (aliases : Table String) :
    applyAlias (.domain host port) aliases =
      .domain ((resolveAlias aliases host).getD host) port := by
  simp only [applyAlias]
  cases resolveAlias aliases host <;> rfl

/-- Every lookup for a client is of a name that some host reaches. -/
theorem reaches_of_lookup {v : Visit EndpointId} {l : PathLabel} (hclient : v.alpn ≠ .bridge)
    {a : EndpointId} {events : List DialEvent} (h : .dialed a target events ∈ (server.visit v l).2)
    {dialed : String} (he : .lookup resolver dialed ∈ events) :
    ∃ host, Reaches server host dialed := by
  obtain ⟨requested, ⟨rest, hread⟩, hroute, rfl⟩ := exit_of_dialed h
  obtain ⟨hport, port, rfl⟩ := target_of_lookup he
  have hres := not_reserved_of_exit hroute hport
  rw [beq_eq_false_iff_ne.2 hclient, route_eq_exit_iff hres] at hroute
  obtain ⟨hallows, hunbridged, htarget⟩ := hroute
  cases requested with
  | ip addr => cases htarget
  | domain host port' =>
    rw [applyAlias_domain] at htarget
    obtain ⟨header, -, hwrite, -⟩ := took_readRequest _ _ _ hread
    exact ⟨host, (writeRequest_eq_ok_iff.1 hwrite).1, hres, hallows, hunbridged,
      (Target.domain.inj htarget).1, loopbackPort_domain_eq_none_iff.1 hport⟩

/-- Every name that a host reaches is looked up for some client's request. -/
theorem Reaches.exists_lookup {dialed : String} (h : Reaches server host dialed) (id : EndpointId) :
    ∃ (v : Visit EndpointId) (l : PathLabel), v.alpn ≠ .bridge ∧
      ∃ a target events, .dialed a target events ∈ (server.visit v l).2 ∧
        .lookup (server.dnsForwarder.bind fun f => f.resolverFor dialed) dialed ∈ events := by
  obtain ⟨bytes, hbytes⟩ : ∃ bytes, writeRequest (.domain host 0) = .ok bytes :=
    ⟨_, writeRequest_eq_ok_iff.2 ⟨h.fits, rfl⟩⟩
  have hplain : Target.Plain (.domain host 0) := trivial
  have hres : Target.isReserved (.domain host 0) = false := h.unreserved
  have hread : readRequest.run (bytes ++ []) = .ok (.domain host 0, []) :=
    reads_readRequest hplain hbytes []
  rw [List.append_nil] at hread
  have hroute : server.route false (.domain host 0) = .exit (.domain dialed 0) :=
    (route_eq_exit_iff hres).2 ⟨h.routed, h.unbridged, by rw [applyAlias_domain, h.aliased]⟩
  refine ⟨⟨id, .client, bytes⟩, ⟨false, quietNet, none⟩, Alpn.noConfusion, id, .domain dialed 0,
    (connectAndPipe quietNet none (.domain dialed 0) server.dnsForwarder).1, ?_,
    lookup_mem_events h.foreign⟩
  have hhandled : (handleSocksStream server (Alpn.client == .bridge)).run bytes =
      .ok (.exit (.domain dialed 0), []) := by
    rw [handleSocksStream_of_read hread]
    exact congrArg (fun route => Except.ok (route, [])) hroute
  simp only [ProxyServer.visit, hhandled]
  exact List.mem_cons_of_mem _ List.mem_cons_self

/-! ## Names the routed set covers -/

theorem endsWith_append (before s : String) : Text.endsWith s (before ++ s) = true := by
  rw [Text.endsWith_iff_toList, String.toList_append]
  exact List.suffix_append _ _

/-- A set that allows a name covers every suffix of that name. -/
theorem coversSuffix_of_matchesHost {set : RoutedSet} (hset : Prepared set) {suffix : String}
    (hmatches : MatchesHost set host) (hsuffix : HasSuffix (Text.toAsciiLowercase host) suffix) :
    set.coversSuffix suffix = true := by
  rw [coversSuffix_iff hset]
  rcases hmatches with hall | hexact | ⟨d, hd, hends⟩
  · exact .inl hall
  · refine .inr (.inr ⟨_, hexact, hsuffix.imp_right ?_⟩)
    rintro ⟨before, hbefore⟩
    rw [hbefore, String.append_assoc]
    exact endsWith_append _ _
  refine .inr (.inl ⟨d, hd, ?_⟩)
  rcases hsuffix with heq | ⟨before, heq⟩
  · rw [heq, Text.endsWith_iff_toList] at hends
    exact .inl (hends.trans ⟨['.'], by simp⟩)
  · refine overlaps_of_endsWith hends ?_
    rw [heq, String.append_assoc]
    exact endsWith_append _ _

/-! ## The refusal -/

section Refusal

variable {crates : Crates EndpointId PublicKey} {json : BlocklistJson Doc} {disk : Disk Doc}
  {nonce : Nonce} {opts : ServerOptions EndpointId PublicKey} {suffix : String}

/-- The check names a suffix that the set does not cover. -/
theorem uncovered_of_prepareDns {forwards : Table (List String)} {set : RoutedSet}
    (h : prepareDns crates forwards set = .error (.dnsUncovered suffix)) :
    set.coversSuffix suffix = false := by
  rcases bind_eq_error.1 h with h | ⟨forwarder, -, h⟩
  · exact (mapError_ne_error nofun h).elim
  split at h
  · cases h
  rcases bind_eq_error.1 h with h | ⟨_, -, h⟩
  · obtain ⟨other, -, hother⟩ := exists_of_forM_eq_error h
    split at hother
    · cases hother
    next hcovers =>
      obtain rfl := PrepareError.dnsUncovered.inj (Except.error.inj hother)
      simpa using hcovers
  · cases h

variable [DecidableEq EndpointId]

theorem prepareBridge_ne_uncovered {ownId : EndpointId} {set : RoutedSet} {relayUrls : List String}
    {name : String} {b : BridgeConfig} :
    prepareBridge crates ownId set relayUrls name b ≠ .error (.dnsUncovered suffix) := by
  intro h
  rcases bind_eq_error.1 h with h | ⟨endpointId, -, h⟩
  · exact (mapError_ne_error nofun h).elim
  split at h
  · cases h
  rcases bind_eq_error.1 h with h | ⟨bridgeSet, -, h⟩
  · exact (mapError_ne_error nofun h).elim
  · rcases bind_eq_error.1 h with h | ⟨_, -, h⟩
    · exact (mapError_ne_error nofun h).elim
    · cases h

/-- No other check of `prepare` fails with this error. -/
theorem uncovered_of_prepare
    (h : prepare crates json disk nonce opts = .error (.dnsUncovered suffix)) :
    ∃ set, RoutedSet.new crates.ipNetwork opts.routedDomains opts.routedCidrs = .ok set ∧
      set.coversSuffix suffix = false := by
  rcases bind_eq_error.1 h with h | ⟨_, -, h⟩
  · unfold checkCredentials at h
    split at h <;> cases h
  rcases bind_eq_error.1 h with h | ⟨blocklist, -, h⟩
  · rcases bind_eq_error.1 h with h | ⟨_, -, h⟩
    · exact (mapError_ne_error nofun h).elim
    · split at h <;> cases h
  rcases bind_eq_error.1 h with h | ⟨set, hset, h⟩
  · exact (mapError_ne_error nofun h).elim
  rcases bind_eq_error.1 h with h | ⟨forwarder, -, h⟩
  · exact ⟨set, mapError_eq_ok.1 hset, uncovered_of_prepareDns h⟩
  rcases bind_eq_error.1 h with h | ⟨bridgeServers, -, h⟩
  · rcases bind_eq_error.1 h with h | ⟨ids, -, h⟩
    · obtain ⟨raw, -, hraw⟩ := exists_of_mapM_eq_error h
      exact (mapError_ne_error nofun hraw).elim
    · split at h <;> cases h
  rcases bind_eq_error.1 h with h | ⟨relayUrls, -, h⟩
  · exact (mapError_ne_error nofun h).elim
  rcases bind_eq_error.1 h with h | ⟨bridges, -, h⟩
  · obtain ⟨e, -, he⟩ := exists_of_mapM_eq_error h
    exact absurd he prepareBridge_ne_uncovered
  · cases h

/-- A routed name does not select the refused forward. -/
theorem not_selectsForward_of_routed {server : ProxyServer EndpointId PublicKey}
    (hrefused : prepare crates json disk nonce opts = .error (.dnsUncovered suffix))
    (hserver : Unchecked crates opts server) {host : String} (hname : IsName host)
    (hallows : server.routedSet.allowsHost host = true) (resolver : List (IpAddr × UInt16)) :
    ¬ SelectsForward server suffix host resolver := by
  rintro ⟨f, e, -, hfind, rfl, -⟩
  have hmatches := List.find?_some hfind
  obtain ⟨set, hset, huncovered⟩ := uncovered_of_prepare hrefused
  cases hset.symm.trans hserver.routedSet
  have hcovers := coversSuffix_of_matchesHost (prepared_of_new hset)
    ((allowsHost_iff_of_none hname).1 hallows) (suffixMatches_iff.1 hmatches)
  rw [huncovered] at hcovers
  cases hcovers

/-- **A refused forward is never used where, and only where, no alias and no address literal
leads to it.** -/
theorem uncovered_forward_unused_iff {server : ProxyServer EndpointId PublicKey}
    (hrefused : prepare crates json disk nonce opts = .error (.dnsUncovered suffix))
    (hserver : Unchecked crates opts server) :
    (∀ (v : Visit EndpointId) (l : PathLabel), v.alpn ≠ .bridge →
      ∀ a target events, .dialed a target events ∈ (server.visit v l).2 →
        ∀ e ∈ events, ¬ LooksUpThrough server suffix e) ↔
    ∀ host dialed, (resolveAlias server.hostAliases host).isSome = true ∨ ¬ IsName host →
      Reaches server host dialed → ∀ resolver, ¬ SelectsForward server suffix dialed resolver := by
  constructor
  · intro hunused host dialed _ hreaches resolver hselects
    obtain ⟨v, l, hclient, a, target, events, hdialed, he⟩ := hreaches.exists_lookup server.ownId
    rw [hselects.resolver_eq] at he
    exact hunused v l hclient a target events hdialed _ he ⟨dialed, resolver, hselects, rfl⟩
  rintro hleads v l hclient a target events hdialed _ he ⟨dialed, resolver, hselects, rfl⟩
  obtain ⟨host, hreaches⟩ := reaches_of_lookup hclient hdialed he
  by_cases hastray : (resolveAlias server.hostAliases host).isSome = true ∨ ¬ IsName host
  · exact hleads host dialed hastray hreaches resolver hselects
  obtain ⟨hnone, hname⟩ := not_or.1 hastray
  rw [Bool.not_eq_true, Option.isSome_eq_false_iff, Option.isNone_iff_eq_none] at hnone
  have hdialed := hreaches.aliased
  rw [hnone, Option.getD_none] at hdialed
  subst hdialed
  exact not_selectsForward_of_routed hrefused hserver (not_not.1 hname) hreaches.routed
    resolver hselects

end Refusal

/-- Only `web.example` is routed; it may be an alias of a name under the forward's suffix. -/
def aliasedFile (aliases : List (String × String)) : Config.ServerConfig where
  routedDomains := some ["web.example"]
  hostAliases := some (Table.collect aliases)
  dnsForwards := some (Table.collect [("corp", ["10.0.0.53"])])

def aliasedServer (aliases : List (String × String)) : ProxyServer String String where
  ownId := "server"
  serverInstanceNonce := 7
  authorizedKeys := ["key"]
  bridges := []
  hostAliases := Table.collect aliases
  routedSet := { domainsExact := ["web.example"] }
  routedDomains := ["web.example"]
  routedCidrs := []
  dnsForwarder := some ⟨[corpForward "10.0.0.53" 53]⟩

def webVisit : Visit String :=
  ⟨"server", .client, [1, 3, 11] ++ Reader.utf8 "web.example" ++ [0, 80]⟩

theorem aliasedFile_resolved (value : String) (hvalue : value ∈ ["db.corp", "10.0.0.7"]) :
    ∃ r, Resolves (some "/home") {} (some (aliasedFile [("web.example", value)])) r ∧
      prepare textCrates plainJson .missing 7 (r.options (Reader.utf8 "server") ["key"] none) =
        .error (.dnsUncovered "corp") ∧
      Unchecked textCrates (r.options (Reader.utf8 "server") ["key"] none)
        (aliasedServer [("web.example", value)]) := by
  obtain rfl | rfl : value = "db.corp" ∨ value = "10.0.0.7" := by simpa using hvalue
  all_goals
    refine ⟨_, ⟨_, _, _, .refl _, .some (.refl _), rfl, .refl _⟩, rfl, ?_⟩
    exact ⟨rfl, rfl, rfl, [], [], rfl, rfl⟩

/-- `web.example` is routed and an alias of `db.corp`: the forward for `corp` is refused as one
that would never be used, yet the request would be looked up through it. -/
theorem refused_forward_used :
    ∃ r, Resolves (some "/home") {} (some (aliasedFile [("web.example", "db.corp")])) r ∧
      prepare textCrates plainJson .missing 7 (r.options (Reader.utf8 "server") ["key"] none) =
        .error (.dnsUncovered "corp") ∧
      Unchecked textCrates (r.options (Reader.utf8 "server") ["key"] none)
        (aliasedServer [("web.example", "db.corp")]) ∧
      ∃ l a target events, .dialed a target events ∈
          ((aliasedServer [("web.example", "db.corp")]).visit webVisit l).2 ∧
        ∃ e ∈ events, LooksUpThrough (aliasedServer [("web.example", "db.corp")]) "corp" e := by
  obtain ⟨r, hr, hprep, hserver⟩ := aliasedFile_resolved "db.corp" (by simp)
  exact ⟨r, hr, hprep, hserver,
    ⟨false, quietNet, none⟩, _, _, _, List.mem_cons_of_mem _ List.mem_cons_self, _,
    List.mem_cons_self, "db.corp", _,
    ⟨_, corpForward "10.0.0.53" 53, rfl, by decide, rfl, rfl⟩, rfl⟩

theorem uncovered_forward_unused_iff_instance :
    ∃ r, Resolves (some "/home") {} (some (aliasedFile [("web.example", "10.0.0.7")])) r ∧
      prepare textCrates plainJson .missing 7 (r.options (Reader.utf8 "server") ["key"] none) =
        .error (.dnsUncovered "corp") ∧
      ∀ v l, v.alpn ≠ .bridge → ∀ a target events, .dialed a target events ∈
          ((aliasedServer [("web.example", "10.0.0.7")]).visit v l).2 →
        ∀ e ∈ events, ¬ LooksUpThrough (aliasedServer [("web.example", "10.0.0.7")]) "corp" e := by
  obtain ⟨r, hr, hprep, hserver⟩ := aliasedFile_resolved "10.0.0.7" (by simp)
  refine ⟨r, hr, hprep, (uncovered_forward_unused_iff hprep hserver).2 ?_⟩
  rintro host dialed (halias | hliteral) hreaches resolver ⟨f, e, hf, hfind, -, -⟩
  · -- the only alias leads to an address
    obtain ⟨value, hvalue⟩ := Option.isSome_iff_exists.1 halias
    obtain ⟨key, hkey⟩ := AliasOf.exists_key (resolveAlias_eq_some_iff.1 hvalue)
    obtain rfl : "10.0.0.7" = value := by
      by_cases hname : key = "web.example"
      · subst hname
        exact Option.some.inj hkey
      · have hnone : (Table.collect [("web.example", "10.0.0.7")]).lookup key = none :=
          Table.lookup_collect_eq_none (by simpa using hname)
        cases hkey.symm.trans hnone
    have hdialed := hreaches.aliased
    rw [hvalue, Option.getD_some] at hdialed
    subst hdialed
    cases hf
    have hnone : [corpForward "10.0.0.53" 53].find? (fun e =>
        DnsForwarder.suffixMatches (Text.toAsciiLowercase "10.0.0.7") e.suffix) = none := by decide
    cases hfind.symm.trans hnone
  · -- no network is routed, so no literal is
    have hallows := hreaches.routed
    obtain ⟨ip, hip⟩ := Option.ne_none_iff_exists'.1 hliteral
    rw [allowsHost_of_some hip] at hallows
    cases hallows

end Flextunnel.Analysis
