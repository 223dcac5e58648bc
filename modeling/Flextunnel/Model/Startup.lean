import Flextunnel.Model.Blocklist
import Flextunnel.Model.Routing
import Flextunnel.Model.Signaling

/-!
# Server startup

`prepare` validates the options and builds the server, in the order of the source: every
check that needs no network. Its result is what the endpoint is bound with (the
allowlists) and what every connection is served from (`ProxyServer`).

What other crates decide (`iroh`'s endpoint ids, `flexaccess_keys`' public keys and
signatures, `ipnetwork`'s parser, relay URLs, resolvers) is a field of `Crates`. The two
kinds of identity are type parameters.

Unnamed source lines are of `core/server.rs`.
-/

set_option autoImplicit false

namespace Flextunnel.Model

open Lib

structure Crates (EndpointId PublicKey : Type) where
  /-- `EndpointId::to_string`. -/
  endpointIdText : EndpointId → String
  parseEndpointId : String → Except String EndpointId
  secretToEndpointId : List UInt8 → EndpointId
  parsePublicKey : String → Except String PublicKey
  /-- `PublicKey::to_token`. -/
  publicKeyToken : PublicKey → String
  /-- Verify a signature over an endpoint id, under a domain-separation context. -/
  verifyEndpointIdSignature : PublicKey → String → EndpointId → String → Bool
  ipNetwork : IpNetworkCrate
  buildResolver : List (IpAddr × UInt16) → Bool
  /-- `RelayConfig::from_urls_with_token`, as the custom URLs it holds. -/
  relayConfig : List String → Option String → Except String (List String)

/-- SOURCE: core/config.rs:29-41 -/
structure BridgeConfig where
  endpointId : String
  domains : List String
  cidrs : List String
deriving DecidableEq, Repr

/-- SOURCE: 33-62 -/
structure ServerOptions (EndpointId PublicKey : Type) where
  secretKey : List UInt8
  authorizedKeys : List PublicKey
  quickClient : Option EndpointId
  relayUrls : List String
  relayAuthToken : Option String
  hostAliases : Table String
  routedDomains : List String
  routedCidrs : List String
  dnsForwards : Table (List String)
  bridges : Table BridgeConfig
  allowedBridgeServers : List String

/-- SOURCE: core/proxy/bridge.rs:41-57 -/
structure BridgeUpstream (EndpointId : Type) where
  name : String
  endpointId : EndpointId
  relayUrls : List String
  routedSet : RoutedSet
  domains : List String
  cidrs : List String

/-- What a server serves from; its mutable parts are the state of the server machine.
SOURCE: core/proxy/server.rs:126-176 -/
structure ProxyServer (EndpointId PublicKey : Type) where
  ownId : EndpointId
  serverInstanceNonce : Nonce
  authorizedKeys : List PublicKey
  bridges : List (BridgeUpstream EndpointId)
  hostAliases : Table String
  routedSet : RoutedSet
  routedDomains : List String
  routedCidrs : List String
  dnsForwarder : Option DnsForwarder

/-- SOURCE: core/transport/endpoint.rs:40-46 -/
structure EndpointAllowlists (EndpointId : Type) where
  bridgeServers : List EndpointId
  quickClients : List EndpointId

/-- SOURCE: 120-126 -/
structure PreparedServer (EndpointId PublicKey : Type) where
  server : ProxyServer EndpointId PublicKey
  blocklist : BlockList
  relayUrls : List String
  allowlists : EndpointAllowlists EndpointId

inductive PrepareError where
  | noAuthorizedKeys
  | blocklist (error : LoadError)
  | conflicted (ownId : String)
  | routedSet (error : RouteError)
  | dnsForwards (error : DnsError)
  | dnsUncovered (suffix : String)
  | allowedBridge (raw error : String)
  | allowedBridgeSelf (ownId : String)
  | relay (error : String)
  | bridgeEndpointId (name raw error : String)
  | bridgeSelf (name ownId : String)
  | bridgeRules (name : String) (error : RouteError)
  | bridgeUnreachable (name : String) (error : RouteError)
deriving DecidableEq, Repr

/-- The outermost text of a refusal.
SOURCE: 105-117, 149-243 -/
def PrepareError.message (debug : String → String) (blocklistFile : String) :
    PrepareError → String
  | .noAuthorizedKeys =>
    "The server requires at least one authorized client public key.\n" ++
    "Each client generates a keypair with: flexaccess-keys generate-auth-key -o <FILE>\n" ++
    "Put each key's authorized-key entry (one `ed25519-pub:...` per line, from " ++
    "`flexaccess-keys show-auth-key --private-key-file <FILE>`) in the server's " ++
    "authorized keys."
  | .blocklist _ => "Failed to load blocklist " ++ blocklistFile
  | .conflicted ownId =>
    "Refusing to start: server id " ++ ownId ++ " is recorded as a duplicate-id conflict in " ++
    blocklistFile ++ ".\nAnother server was detected sharing this identity. Stop the other " ++
    "server, then remove the entry from the blocklist to start again."
  | .routedSet _ => "Invalid routed-set configuration"
  | .dnsForwards _ => "Invalid dns_forwards configuration"
  | .dnsUncovered suffix =>
    "[dns_forwards] suffix " ++ debug suffix ++ " is not covered by the routed set, so it " ++
    "would never be used: the server rejects off-list targets before resolving them. Add \"*." ++
    suffix ++ "\" (and/or \"" ++ suffix ++ "\") to routed_domains, or remove the forward."
  | .allowedBridge raw e => "invalid allowed_bridge_servers entry " ++ debug raw ++ ": " ++ e
  | .allowedBridgeSelf ownId =>
    "allowed_bridge_servers contains this server's own id (" ++ ownId ++ "); a server " ++
    "cannot bridge to itself — this is likely a copy-paste mistake"
  | .relay _ => "Invalid relay configuration"
  | .bridgeEndpointId name raw e =>
    "bridge '" ++ name ++ "' has an invalid endpoint_id " ++ debug raw ++ ": " ++ e
  | .bridgeSelf name ownId => "bridge '" ++ name ++ "' targets this server itself (" ++ ownId ++ ")"
  | .bridgeRules name _ => "bridge '" ++ name ++ "' has invalid route rules"
  | .bridgeUnreachable name _ =>
    "bridge '" ++ name ++ "' has a rule the routed set never reaches, so it would never be " ++
    "used: the server rejects off-list targets before bridge routing. Add matching " ++
    "routed_domains/routed_cidrs, or remove the rule"

section Prepare

variable {EndpointId PublicKey Doc : Type} [DecidableEq EndpointId]

/-- SOURCE: 147-157 -/
def checkCredentials (opts : ServerOptions EndpointId PublicKey) : Except PrepareError Unit :=
  if opts.authorizedKeys.isEmpty && opts.quickClient.isNone then .error .noAuthorizedKeys
  else .ok ()

/-- Load the blocklist and refuse an identity recorded as conflicted.
SOURCE: 170-179 -/
def loadBlocklist (crates : Crates EndpointId PublicKey) (json : BlocklistJson Doc)
    (disk : Disk Doc) (ownId : EndpointId) : Except PrepareError BlockList := do
  let blocklist ← (BlockList.load json disk).mapError .blocklist
  if blocklist.isServerConflicted (crates.endpointIdText ownId) then
    .error (.conflicted (crates.endpointIdText ownId))
  else return blocklist

/-- SOURCE: 105-117, 187-191 -/
def prepareDns (crates : Crates EndpointId PublicKey) (forwards : Table (List String))
    (routedSet : RoutedSet) : Except PrepareError (Option DnsForwarder) := do
  let forwarder ← (DnsForwarder.new crates.buildResolver forwards).mapError .dnsForwards
  match forwarder with
  | none => return none
  | some f =>
    f.suffixes.forM fun suffix =>
      if routedSet.coversSuffix suffix then .ok () else .error (.dnsUncovered suffix)
    return some f

/-- SOURCE: 195-207 -/
def parseAllowedBridges (crates : Crates EndpointId PublicKey) (raws : List String)
    (ownId : EndpointId) : Except PrepareError (List EndpointId) := do
  let ids ← raws.mapM fun raw => (crates.parseEndpointId raw).mapError (.allowedBridge raw)
  if ownId ∈ ids then .error (.allowedBridgeSelf (crates.endpointIdText ownId))
  else return ids

/-- One outbound bridge.
SOURCE: 227-251 -/
def prepareBridge (crates : Crates EndpointId PublicKey) (ownId : EndpointId)
    (routedSet : RoutedSet) (relayUrls : List String) (name : String) (b : BridgeConfig) :
    Except PrepareError (BridgeUpstream EndpointId) := do
  let endpointId ←
    (crates.parseEndpointId b.endpointId).mapError (.bridgeEndpointId name b.endpointId)
  if endpointId = ownId then .error (.bridgeSelf name (crates.endpointIdText ownId))
  else
    let bridgeSet ← (RoutedSet.new crates.ipNetwork b.domains b.cidrs).mapError (.bridgeRules name)
    (routedSet.validateRulesReachable crates.ipNetwork b.domains b.cidrs).mapError
      (.bridgeUnreachable name)
    return { name, endpointId, relayUrls, routedSet := bridgeSet,
             domains := b.domains, cidrs := b.cidrs }

/-- `ProxyServer::new` sorts the bridges by name. -/
def sortBridges (bridges : List (BridgeUpstream EndpointId)) : List (BridgeUpstream EndpointId) :=
  bridges.insertionSort fun a b => ¬ b.name < a.name

/-- SOURCE: 130-298 -/
def prepare (crates : Crates EndpointId PublicKey) (json : BlocklistJson Doc) (disk : Disk Doc)
    (serverInstanceNonce : Nonce) (opts : ServerOptions EndpointId PublicKey) :
    Except PrepareError (PreparedServer EndpointId PublicKey) := do
  checkCredentials opts
  let ownId := crates.secretToEndpointId opts.secretKey
  let blocklist ← loadBlocklist crates json disk ownId
  let routedSet ←
    (RoutedSet.new crates.ipNetwork opts.routedDomains opts.routedCidrs).mapError .routedSet
  let dnsForwarder ← prepareDns crates opts.dnsForwards routedSet
  let bridgeServers ← parseAllowedBridges crates opts.allowedBridgeServers ownId
  let relayUrls ← (crates.relayConfig opts.relayUrls opts.relayAuthToken).mapError .relay
  let bridges ← opts.bridges.toPairs.mapM fun e =>
    prepareBridge crates ownId routedSet relayUrls e.1 e.2
  return {
    server := {
      ownId, serverInstanceNonce
      authorizedKeys := opts.authorizedKeys
      bridges := sortBridges bridges
      hostAliases := opts.hostAliases
      routedSet
      routedDomains := opts.routedDomains
      routedCidrs := opts.routedCidrs
      dnsForwarder }
    blocklist, relayUrls
    allowlists := { bridgeServers, quickClients := opts.quickClient.toList } }

structure Prepared (crates : Crates EndpointId PublicKey) (json : BlocklistJson Doc)
    (disk : Disk Doc) (opts : ServerOptions EndpointId PublicKey)
    (p : PreparedServer EndpointId PublicKey) : Prop where
  ownId : p.server.ownId = crates.secretToEndpointId opts.secretKey
  authorizedKeys : p.server.authorizedKeys = opts.authorizedKeys
  hostAliases : p.server.hostAliases = opts.hostAliases
  routedDomains : p.server.routedDomains = opts.routedDomains
  routedCidrs : p.server.routedCidrs = opts.routedCidrs
  routedSet :
    RoutedSet.new crates.ipNetwork opts.routedDomains opts.routedCidrs = .ok p.server.routedSet
  quickClients : p.allowlists.quickClients = opts.quickClient.toList
  bridgeServers :
    parseAllowedBridges crates opts.allowedBridgeServers p.server.ownId =
      .ok p.allowlists.bridgeServers
  blocklist : loadBlocklist crates json disk p.server.ownId = .ok p.blocklist
  relayUrls : crates.relayConfig opts.relayUrls opts.relayAuthToken = .ok p.relayUrls
  dnsForwarder :
    prepareDns crates opts.dnsForwards p.server.routedSet = .ok p.server.dnsForwarder
  bridges : ∃ bridges, p.server.bridges = sortBridges bridges ∧
    opts.bridges.toPairs.mapM (fun e =>
      prepareBridge crates p.server.ownId p.server.routedSet p.relayUrls e.1 e.2) = .ok bridges

variable {disk : Disk Doc} {json : BlocklistJson Doc} {nonce : Nonce}
    {crates : Crates EndpointId PublicKey} {opts : ServerOptions EndpointId PublicKey}
    {p : PreparedServer EndpointId PublicKey}

/-- What `prepare` returns has passed every check. -/
theorem prepared_of_prepare (h : prepare crates json disk nonce opts = .ok p) :
    Prepared crates json disk opts p ∧ p.server.serverInstanceNonce = nonce := by
  obtain ⟨_, -, h⟩ := bind_eq_ok.1 h
  obtain ⟨blocklist, hblocklist, h⟩ := bind_eq_ok.1 h
  obtain ⟨routedSet, hroutedSet, h⟩ := bind_eq_ok.1 h
  obtain ⟨dnsForwarder, hdns, h⟩ := bind_eq_ok.1 h
  obtain ⟨bridgeServers, hbridgeServers, h⟩ := bind_eq_ok.1 h
  obtain ⟨relayUrls, hrelay, h⟩ := bind_eq_ok.1 h
  obtain ⟨bridges, hbridges, h⟩ := bind_eq_ok.1 h
  cases h
  exact ⟨⟨rfl, rfl, rfl, rfl, rfl, mapError_eq_ok.1 hroutedSet, rfl, hbridgeServers, hblocklist,
    mapError_eq_ok.1 hrelay, hdns, bridges, rfl, hbridges⟩, rfl⟩

theorem prepareBridge_eq_ok {ownId : EndpointId} {routedSet : RoutedSet} {relayUrls : List String}
    {name : String} {b : BridgeConfig} {up : BridgeUpstream EndpointId}
    (h : prepareBridge crates ownId routedSet relayUrls name b = .ok up) :
    ∃ endpointId bridgeSet, crates.parseEndpointId b.endpointId = .ok endpointId ∧
      RoutedSet.new crates.ipNetwork b.domains b.cidrs = .ok bridgeSet ∧
      up = { name, endpointId, relayUrls, routedSet := bridgeSet,
             domains := b.domains, cidrs := b.cidrs } := by
  obtain ⟨endpointId, hid, h⟩ := bind_eq_ok.1 h
  split at h
  · cases h
  obtain ⟨bridgeSet, hset, h⟩ := bind_eq_ok.1 h
  obtain ⟨_, -, h⟩ := bind_eq_ok.1 h
  exact ⟨endpointId, bridgeSet, mapError_eq_ok.1 hid, mapError_eq_ok.1 hset, (Except.ok.inj h).symm⟩

/-- A server whose own id is listed as conflicted does not start. -/
theorem prepare_conflicted {bl : BlockList} (hload : BlockList.load json disk = .ok bl)
    (hconflicted : bl.isServerConflicted
      (crates.endpointIdText (crates.secretToEndpointId opts.secretKey)) = true) :
    ∃ e, prepare crates json disk nonce opts = .error e := by
  cases hprep : prepare crates json disk nonce opts with
  | error e => exact ⟨e, rfl⟩
  | ok p =>
    obtain ⟨hp, -⟩ := prepared_of_prepare hprep
    have hblocklist := hp.blocklist
    simp only [loadBlocklist, hp.ownId, hload, Except.mapError] at hblocklist
    obtain ⟨bl', hbl', hif⟩ := bind_eq_ok.1 hblocklist
    cases hbl'
    rw [if_pos hconflicted] at hif
    cases hif

end Prepare

/-! ## An instance that evaluates -/

/-- Identities and keys are their own text, and a signature names the key and the id it
was made over. -/
def textCrates : Crates String String where
  endpointIdText id := id
  parseEndpointId text := .ok text
  secretToEndpointId bytes := (Reader.ofUtf8 bytes).getD ""
  parsePublicKey text := .ok text
  publicKeyToken key := key
  verifyEndpointIdSignature key context id signature :=
    signature == key ++ "/" ++ context ++ "/" ++ id
  ipNetwork := .parsing fun _ => none
  buildResolver _ := true
  relayConfig urls _ := .ok urls

def plainJson : BlocklistJson BlockList where
  toJson bl := .ok bl
  fromJson bl := .ok bl
  fromJson_toJson _ _ h := h.symm

def plainOptions (ownId : String) : ServerOptions String String where
  secretKey := Reader.utf8 ownId
  authorizedKeys := ["key"]
  quickClient := none
  relayUrls := []
  relayAuthToken := none
  hostAliases := ∅
  routedDomains := ["*"]
  routedCidrs := []
  dnsForwards := ∅
  bridges := ∅
  allowedBridgeServers := []

end Flextunnel.Model
