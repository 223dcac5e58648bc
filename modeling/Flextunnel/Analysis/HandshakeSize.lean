import Flextunnel.Model.HelloJson
import Flextunnel.Model.Server

/-!
# The size of an accepted response

The server pushes its whole configuration in the response to a handshake, and the client
reads that response under a limit, which `prepare` does not look at. `responseSize`
computes the size of the text from the configuration.
-/

set_option autoImplicit false

namespace Flextunnel.Analysis

open Lib Lib.Reader Lib.JsonText Model

section

variable {EndpointId PublicKey : Type}

/-! ## The size of the text, from the configuration -/

def textsSize (texts : List String) : Nat := arraySize (texts.map stringSize)

def aliasSize (e : String × String) : Nat := 3 + stringSize e.1 + stringSize e.2

/-- A conditional forward: the suffix as it is matched, and the servers without blanks. -/
def forwardSize (e : String × List String) : Nat :=
  3 + stringSize (Text.toAsciiLowercase (Text.trimMatches '.' (Text.trim e.1))) +
    textsSize (e.2.map Text.trim)

def bridgeSize (crates : Crates EndpointId PublicKey) (e : String × BridgeConfig) : Nat :=
  44 + stringSize e.1 +
    ((crates.parseEndpointId e.2.endpointId).toOption.elim 0 fun id =>
      stringSize (crates.endpointIdText id)) +
    textsSize e.2.domains + textsSize e.2.cidrs

/-- The size of the response a client is accepted with: the keys, the version and the
flag, the digits of the nonce, and the five lists of the configuration. -/
def responseSize (crates : Crates EndpointId PublicKey) (nonce : Nonce)
    (opts : ServerOptions EndpointId PublicKey) : Nat :=
  132 + (number nonce.toNat).length + textsSize opts.routedDomains + textsSize opts.routedCidrs +
    arraySize (opts.hostAliases.toPairs.map aliasSize) +
    arraySize (opts.dnsForwards.toPairs.map forwardSize) +
    arraySize (opts.bridges.toPairs.map (bridgeSize crates))

/-! ## The size of the text, as it is written -/

theorem length_texts (texts : List String) :
    (array (texts.map string)).length = textsSize texts := by
  simp only [length_array_map, length_string, textsSize]

theorem length_hostAliases (server : ProxyServer EndpointId PublicKey) :
    (array (server.sortedHostAliases.map fun a => array [string a.1, string a.2])).length =
      arraySize (server.hostAliases.toPairs.map aliasSize) := by
  simp only [length_array_map, length_array_pair, length_string]
  apply arraySize_perm
  exact (List.perm_insertionSort _ _).map _

variable {build : List (IpAddr × UInt16) → Bool} {table : Table (List String)}
    {crates : Crates EndpointId PublicKey} {server : ProxyServer EndpointId PublicKey}

theorem forwardSize_of_addForward {e : String × List String} {f : Forward}
    (h : DnsForwarder.addForward build e.1 e.2 = .ok f) :
    3 + stringSize f.suffix + textsSize f.servers = forwardSize e := by
  unfold DnsForwarder.addForward at h
  dsimp only at h
  split at h
  · cases h
  split at h
  · cases h
  obtain ⟨resolver, -, h⟩ := bind_eq_ok.1 h
  split at h
  · obtain rfl := Except.ok.inj h
    rfl
  · cases h

/-- The pushed forwards have the size of the table, whatever their order. -/
theorem arraySize_pushed {f : DnsForwarder} (h : DnsForwarder.new build table = .ok (some f)) :
    arraySize (f.pushed.map fun d => 3 + stringSize d.1 + textsSize d.2) =
      arraySize (table.toPairs.map forwardSize) := by
  unfold DnsForwarder.new at h
  split at h
  · cases Except.ok.inj h
  obtain ⟨entries, hentries, h⟩ := bind_eq_ok.1 h
  cases Except.ok.inj h
  have hsizes := map_eq_map_of_mapM_eq_ok hentries fun e f => forwardSize_of_addForward
  rw [← hsizes]
  apply arraySize_perm
  have hsorted := (List.perm_insertionSort DnsForwarder.moreSpecific entries).map
    fun f => 3 + stringSize f.suffix + textsSize f.servers
  have hpushed := (List.perm_insertionSort (fun a b => ¬ b.1 < a.1)
    ((entries.insertionSort DnsForwarder.moreSpecific).map fun e => (e.suffix, e.servers))).map
      fun d => 3 + stringSize d.1 + textsSize d.2
  rw [List.map_map] at hpushed
  exact hpushed.trans hsorted

theorem length_dnsForwards
    (h : prepareDns crates table server.routedSet = .ok server.dnsForwarder) :
    (array (server.pushedDnsForwards.map fun d =>
        array [string d.1, array (d.2.map string)])).length =
      arraySize (table.toPairs.map forwardSize) := by
  simp only [length_array_map, length_array_pair, length_string]
  unfold ProxyServer.pushedDnsForwards
  obtain ⟨forwarder, hnew, h⟩ := bind_eq_ok.1 h
  have hnew := mapError_eq_ok.1 hnew
  cases forwarder with
  | none =>
    rw [← Except.ok.inj h]
    unfold DnsForwarder.new at hnew
    split at hnew
    next hempty =>
      have hnil : table.toPairs = [] := by
        rw [Table.toPairs, List.isEmpty_iff.1 hempty, List.map_nil]
      simp only [hnil, Option.map_none, Option.getD_none, List.map_nil]
    · obtain ⟨entries, -, hnew⟩ := bind_eq_ok.1 hnew
      cases Except.ok.inj hnew
  | some f =>
    obtain ⟨_, -, h⟩ := bind_eq_ok.1 h
    rw [← Except.ok.inj h]
    exact arraySize_pushed hnew

variable {Doc : Type} [DecidableEq EndpointId]

/-- A bridge is pushed at the size of its configuration. -/
theorem length_bridgeSummary {ownId : EndpointId} {routedSet : RoutedSet} {relayUrls : List String}
    {e : String × BridgeConfig} {b : BridgeUpstream EndpointId}
    (h : prepareBridge crates ownId routedSet relayUrls e.1 e.2 = .ok b) :
    (BridgeSummary.toJson ⟨b.name, crates.endpointIdText b.endpointId, b.domains, b.cidrs⟩).length =
      bridgeSize crates e := by
  have hkeys : stringSize "name" = 6 ∧ stringSize "endpoint_id" = 13 ∧ stringSize "domains" = 9 ∧
      stringSize "cidrs" = 7 := by decide
  obtain ⟨hname, hid, hdomains, hcidrs⟩ := hkeys
  obtain ⟨id, bridgeSet, hparse, -, rfl⟩ := prepareBridge_eq_ok h
  simp only [BridgeSummary.toJson, length_object, List.map_cons, List.map_nil, length_string,
    length_texts, hname, hid, hdomains, hcidrs, bridgeSize, hparse, Except.toOption,
    Option.elim_some]
  simp only [arraySize, List.sum_cons, List.sum_nil, List.length_cons, List.length_nil]
  omega

theorem length_bridges {routedSet : RoutedSet} {ownId : EndpointId} {relayUrls : List String}
    {table : Table BridgeConfig} {bridges : List (BridgeUpstream EndpointId)}
    (hbridges : table.toPairs.mapM
      (fun e => prepareBridge crates ownId routedSet relayUrls e.1 e.2) = .ok bridges)
    (hserver : server.bridges = sortBridges bridges) :
    (array ((server.bridgeSummaries crates).map BridgeSummary.toJson)).length =
      arraySize (table.toPairs.map (bridgeSize crates)) := by
  have hsizes := map_eq_map_of_mapM_eq_ok hbridges fun e b => length_bridgeSummary
  rw [← hsizes, ProxyServer.bridgeSummaries, List.map_map, length_array_map, hserver]
  apply arraySize_perm
  exact (List.perm_insertionSort _ _).map _

section

variable {crates : Crates EndpointId PublicKey} {json : BlocklistJson Doc} {disk : Disk Doc}
  {nonce : Nonce} {opts : ServerOptions EndpointId PublicKey}
  {p : PreparedServer EndpointId PublicKey}

/-- The text of the response has the size computed from the configuration. -/
theorem length_acceptedResponse (hprep : prepare crates json disk nonce opts = .ok p) :
    (HelloResponse.acceptedWith nonce (p.server.acceptedRoutes crates)).toJson.length =
      responseSize crates nonce opts := by
  have hprepared := (prepared_of_prepare hprep).1
  obtain ⟨bridges, hserver, hbridges⟩ := hprepared.bridges
  have hkeys : stringSize "version" = 9 ∧ stringSize "accepted" = 10 ∧
      stringSize "server_instance_nonce" = 23 ∧ stringSize "routed_domains" = 16 ∧
      stringSize "routed_cidrs" = 14 ∧ stringSize "host_aliases" = 14 ∧
      stringSize "dns_forwards" = 14 ∧ stringSize "bridges" = 9 := by decide
  obtain ⟨h₁, h₂, h₃, h₄, h₅, h₆, h₇, h₈⟩ := hkeys
  have hversion : (number protocolVersion.toNat).length = 2 := by decide
  have haccepted : (bool true).length = 4 := by decide
  simp only [HelloResponse.toJson, HelloResponse.acceptedWith, ProxyServer.acceptedRoutes,
    length_object, Option.map_none, Option.toList_none, List.append_nil, List.cons_append,
    List.nil_append, List.map_cons, List.map_nil, h₁, h₂, h₃, h₄, h₅, h₆, h₇, h₈, hversion,
    haccepted, length_texts, length_hostAliases, length_dnsForwards hprepared.dnsForwarder,
    length_bridges hbridges hserver, hprepared.routedDomains, hprepared.routedCidrs,
    hprepared.hostAliases]
  rw [arraySize, responseSize]
  simp only [List.sum_cons, List.sum_nil, List.length_cons, List.length_nil]
  omega

/-! ## Reading the response under the limit -/

/-- A response is written, and the client's reader takes what was written.
SOURCE: core/proxy/signaling.rs:302-327, 347-349 -/
def Delivered (codec : Json) (response : HelloResponse) : Prop :=
  ∃ data framed, codec.responseToJson response = .ok data ∧ writeMessage data = .ok framed ∧
    ∀ rest, (readMessage maxHandshakeSize).run (framed ++ rest) = .ok (data, rest)

/-- A response reaches the client when its text is within the limit. -/
theorem delivered_iff {codec : Json} (hcodec : codec.EncodesResponses) (response : HelloResponse) :
    Delivered codec response ↔ response.toJson.length ≤ maxHandshakeSize := by
  constructor
  · rintro ⟨data, framed, hdata, hwrite, hread⟩
    cases (hcodec response).symm.trans hdata
    by_contra hlarge
    have herror := readMessage_too_large (Nat.lt_of_not_le hlarge) hwrite []
    cases (hread []).symm.trans herror
  intro hsize
  have hfits : response.toJson.length < 4294967296 := by
    unfold maxHandshakeSize at hsize
    omega
  have hwrite : writeMessage response.toJson = .ok _ := if_pos hfits
  exact ⟨_, _, hcodec response, hwrite, reads_readMessage hsize hwrite⟩

/-- **A server that starts completes a handshake when its configuration fits the limit**: the
client's `read_message` takes the response exactly when its size, computed from the configuration,
is at most `MAX_HANDSHAKE_SIZE`. -/
theorem acceptedResponse_delivered_iff {codec : Json} (hcodec : codec.EncodesResponses)
    (hprep : prepare crates json disk nonce opts = .ok p) :
    Delivered codec (.acceptedWith nonce (p.server.acceptedRoutes crates)) ↔
      responseSize crates nonce opts ≤ maxHandshakeSize := by
  rw [delivered_iff hcodec, length_acceptedResponse hprep]

end

end

/-! ## Two configurations -/

def printingCodec : Json where
  helloFromJson _ := .error "not a hello"
  bridgeHelloFromJson _ := .error "not a hello"
  responseToJson r := .ok r.toJson
  responseFromJson _ := .error "not a response"

/-- The server that routes every host. -/
theorem acceptedResponse_delivered_instance :
    ∃ p, prepare textCrates plainJson .missing 7 (plainOptions "server") = .ok p ∧
      Delivered printingCodec (.acceptedWith 7 (p.server.acceptedRoutes textCrates)) := by
  have hcodec : printingCodec.EncodesResponses := fun _ => rfl
  have hsize : responseSize textCrates 7 (plainOptions "server") ≤ maxHandshakeSize := by decide
  obtain ⟨p, hprep⟩ : ∃ p, prepare textCrates plainJson .missing 7 (plainOptions "server") =
    .ok p := ⟨_, rfl⟩
  exact ⟨p, hprep, (acceptedResponse_delivered_iff hcodec hprep).2 hsize⟩

def manyRules (count : Nat) : ServerOptions String String :=
  { plainOptions "server" with routedDomains := List.replicate count "db.corp.example" }

theorem foldlM_addDomain_replicate {set : RoutedSet} {rule : String}
    (h : set.addDomain rule = .ok set) (count : Nat) :
    (List.replicate count rule).foldlM RoutedSet.addDomain set = .ok set := by
  induction count with
  | zero => rfl
  | succ count ih =>
    rw [List.replicate_succ, List.foldlM_cons, h]
    exact ih

theorem prepare_manyRules (count : Nat) :
    ∃ p, prepare textCrates plainJson .missing 7 (manyRules (count + 1)) = .ok p := by
  have hfirst : RoutedSet.addDomain {} "db.corp.example" =
    .ok { domainsExact := ["db.corp.example"] } := by decide
  have hagain : RoutedSet.addDomain { domainsExact := ["db.corp.example"] } "db.corp.example" =
    .ok { domainsExact := ["db.corp.example"] } := by decide
  have hrules : RoutedSet.new textCrates.ipNetwork (manyRules (count + 1)).routedDomains
      (manyRules (count + 1)).routedCidrs = .ok { domainsExact := ["db.corp.example"] } := by
    rw [RoutedSet.new, manyRules, List.replicate_succ, List.foldlM_cons, hfirst]
    show (List.replicate count "db.corp.example").foldlM RoutedSet.addDomain _ >>= _ = _
    rw [foldlM_addDomain_replicate hagain]
    rfl
  unfold prepare
  rw [hrules]
  exact ⟨_, rfl⟩

theorem responseSize_manyRules (count : Nat) :
    responseSize textCrates 7 (manyRules (count + 1)) = 160 + 18 * count := by
  have hrule : stringSize "db.corp.example" = 17 := by decide
  have hnonce : (number (7 : Nonce).toNat).length = 1 := by decide
  have hrules : textsSize (manyRules (count + 1)).routedDomains = 19 + 18 * count := by
    simp only [textsSize, manyRules, List.map_replicate, hrule, arraySize,
      List.sum_replicate_nat, List.length_replicate]
    omega
  have hrest : textsSize (manyRules (count + 1)).routedCidrs = 2 ∧
      arraySize ((manyRules (count + 1)).hostAliases.toPairs.map aliasSize) = 2 ∧
      arraySize ((manyRules (count + 1)).dnsForwards.toPairs.map forwardSize) = 2 ∧
      arraySize ((manyRules (count + 1)).bridges.toPairs.map (bridgeSize textCrates)) = 2 :=
    ⟨rfl, rfl, rfl, rfl⟩
  obtain ⟨hcidrs, haliases, hforwards, hbridges⟩ := hrest
  rw [responseSize, hrules, hnonce, hcidrs, haliases, hforwards, hbridges]
  omega

/-- 4,000 rules for a host start a server whose response no client reads. -/
theorem acceptedResponse_too_large :
    ∃ p, prepare textCrates plainJson .missing 7 (manyRules 4000) = .ok p ∧
      ¬ Delivered printingCodec (.acceptedWith 7 (p.server.acceptedRoutes textCrates)) ∧
      ∀ framed rest, writeMessage
          (HelloResponse.acceptedWith 7 (p.server.acceptedRoutes textCrates)).toJson = .ok framed →
        (readMessage maxHandshakeSize).run (framed ++ rest) =
          .error (.other "Message too large: 72142 > 65536") := by
  obtain ⟨p, hprep⟩ := prepare_manyRules 3999
  have hcodec : printingCodec.EncodesResponses := fun _ => rfl
  have hlength := (length_acceptedResponse hprep).trans (responseSize_manyRules 3999)
  refine ⟨p, hprep, ?_, ?_⟩
  · rw [delivered_iff hcodec, hlength]
    decide
  intro framed rest hwrite
  have hlarge : maxHandshakeSize < 160 + 18 * 3999 := by decide
  rw [← hlength] at hlarge
  rw [readMessage_too_large hlarge hwrite rest, hlength]
  rfl

end Flextunnel.Analysis
