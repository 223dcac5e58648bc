import Flextunnel.Lib.Words
import Flextunnel.Analysis.ConfigOrder
import Flextunnel.Analysis.RoutingRules
import Flextunnel.Model.Streams

/-!
# Which alias and which bridge

A request is rewritten by at most one alias and forwarded over at most one bridge. `AliasOf` says
which alias in the terms of the configuration: an exact key, or else the one wildcard whose labels
are the last labels of the host and end in those of every other such wildcard. The bridge is the
matching one with the least name. Neither depends on the order in which a map iterates.
-/

set_option autoImplicit false

namespace Flextunnel.Analysis

open Lib Model Model.Config

/-! ## Aliases -/

/-- The labels of `base` are the last labels of `host`, and not all of them. -/
def Under (base host : String) : Prop :=
  Text.splitChar '.' base <:+ Text.splitChar '.' host ∧
    Text.splitChar '.' base ≠ Text.splitChar '.' host

def AliasOf (aliases : Table String) (host value : String) : Prop :=
  aliases.lookup (Text.toAsciiLowercase host) = some value ∨
    aliases.lookup (Text.toAsciiLowercase host) = none ∧
      ∃ base, aliases.lookup ("*." ++ base) = some value ∧
        Under base (Text.toAsciiLowercase host) ∧
        ∀ base', (aliases.lookup ("*." ++ base')).isSome = true →
          Under base' (Text.toAsciiLowercase host) → base' = base ∨ Under base' base

variable {aliases : Table String} {host value base : String}

theorem AliasOf.exists_key (h : AliasOf aliases host value) :
    ∃ key, aliases.lookup key = some value := by
  rcases h with hexact | ⟨-, base, hwild, -⟩
  · exact ⟨_, hexact⟩
  · exact ⟨_, hwild⟩

theorem endsWith_dot_iff_under : Text.endsWith ("." ++ base) host = true ↔ Under base host := by
  have hdot : "." ++ base = String.ofList ('.' :: base.toList) := by
    apply String.toList_inj.1
    simp
  rw [hdot]
  exact endsWith_cons_iff_splitChar

def wildcardFor (host : String) (e : String × String) : Option (String × String) :=
  (Text.stripPrefix "*." e.1).bind fun base =>
    if Text.endsWith ("." ++ base) host then some (base, e.2) else none

theorem mem_wildcards_iff {pairs : List (String × String)} :
    (base, value) ∈ pairs.filterMap (wildcardFor host) ↔
      ("*." ++ base, value) ∈ pairs ∧ Under base host := by
  simp only [List.mem_filterMap, wildcardFor, Option.bind_eq_some_iff,
    Text.stripPrefix_eq_some_iff, Option.ite_none_right_eq_some, endsWith_dot_iff_under,
    Option.some.injEq, Prod.mk.injEq]
  constructor
  · rintro ⟨⟨key, _⟩, hin, _, rfl, hunder, rfl, rfl⟩
    exact ⟨hin, hunder⟩
  · rintro ⟨hin, hunder⟩
    exact ⟨_, hin, base, rfl, hunder, rfl, rfl⟩

/-- The loop over the pairs finds the last of the longest wildcards. -/
theorem longestWildcard_eq (pairs : List (String × String)) (host : String) :
    longestWildcard pairs host =
      (lastMax (fun e : String × String => Text.byteLen e.1)
        (pairs.filterMap (wildcardFor host))).map fun e => (Text.byteLen e.1, e.2) := by
  induction pairs using List.reverseRecOn with
  | nil => rfl
  | append_singleton pairs e ih =>
    rw [longestWildcard, List.foldl_concat, ← longestWildcard, ih, List.filterMap_append]
    cases hstrip : Text.stripPrefix "*." e.1 with
    | none => simp [wildcardFor, hstrip]
    | some base =>
      cases hends : Text.endsWith ("." ++ base) host with
      | false => simp [wildcardFor, hstrip, hends]
      | true =>
        have hone : [e].filterMap (wildcardFor host) = [(base, e.2)] := by
          simp [wildcardFor, hstrip, hends]
        rw [hone, lastMax_concat]
        cases lastMax (fun e : String × String => Text.byteLen e.1)
          (pairs.filterMap (wildcardFor host)) with
        | none => simp [hends]
        | some best =>
          simp only [hends, Option.map_some, Option.all_some, Bool.true_and]
          split <;> rfl

theorem Under.byteLen_lt (h : Under base host) : Text.byteLen base < Text.byteLen host := by
  rw [← endsWith_dot_iff_under, Text.endsWith_iff_toList] at h
  have hle := Text.byteLen_le_of_suffix h
  have hdot : Text.byteLen "." = 1 := by decide
  rw [Text.byteLen_append] at hle
  omega

/-- Of two wildcards above a host, the shorter one is above the longer one. -/
theorem byteLen_le_iff_under {base' : String} (h : Under base host) (h' : Under base' host) :
    Text.byteLen base' ≤ Text.byteLen base ↔ base' = base ∨ Under base' base := by
  constructor
  · intro hle
    have hdot (s : String) : ("." ++ s).toList = '.' :: s.toList := by simp
    rw [← endsWith_dot_iff_under, Text.endsWith_iff_toList] at h h' ⊢
    have hsuffix := Text.suffix_of_byteLen_le h' h (by
      rw [Text.byteLen_append, Text.byteLen_append]
      omega)
    rw [hdot base, List.suffix_cons_iff, hdot base', List.cons.injEq] at hsuffix
    rcases hsuffix with ⟨-, heq⟩ | hsuffix
    · exact .inl (String.toList_inj.1 heq)
    · rw [hdot]
      exact .inr hsuffix
  · rintro (rfl | hunder)
    · exact le_rfl
    · exact hunder.byteLen_lt.le

/-- The wildcard found is above every other that matches. -/
theorem longestWildcard_eq_some_iff :
    (longestWildcard aliases.toPairs host).map Prod.snd = some value ↔
      ∃ base, aliases.lookup ("*." ++ base) = some value ∧ Under base host ∧
        ∀ base', (aliases.lookup ("*." ++ base')).isSome = true → Under base' host →
          base' = base ∨ Under base' base := by
  have hmem {base value : String} :
      (base, value) ∈ aliases.toPairs.filterMap (wildcardFor host) ↔
        aliases.lookup ("*." ++ base) = some value ∧ Under base host := by
    rw [mem_wildcards_iff, Table.mem_toPairs_iff]
  have hinj : ∀ y ∈ aliases.toPairs.filterMap (wildcardFor host),
      ∀ z ∈ aliases.toPairs.filterMap (wildcardFor host),
        Text.byteLen y.1 = Text.byteLen z.1 → y = z := by
    rintro ⟨base, v⟩ hy ⟨base', v'⟩ hz hlen
    obtain ⟨hv, hunder⟩ := hmem.1 hy
    obtain ⟨hv', hunder'⟩ := hmem.1 hz
    rcases (byteLen_le_iff_under hunder hunder').1 hlen.ge with rfl | habove
    · rw [Option.some.inj (hv.symm.trans hv')]
    · exact absurd hlen habove.byteLen_lt.ne'
  rw [longestWildcard_eq, Option.map_map, Option.map_eq_some_iff]
  simp only [lastMax_eq_some_iff hinj, Prod.exists, Prod.forall, hmem, Function.comp_apply]
  constructor
  · rintro ⟨base, _, ⟨⟨hv, hunder⟩, hmax⟩, rfl⟩
    refine ⟨base, hv, hunder, fun base' hsome hunder' => ?_⟩
    obtain ⟨v', hv'⟩ := Option.isSome_iff_exists.1 hsome
    exact (byteLen_le_iff_under hunder hunder').1 (hmax base' v' ⟨hv', hunder'⟩)
  · rintro ⟨base, hv, hunder, hall⟩
    refine ⟨base, value, ⟨⟨hv, hunder⟩, fun base' v' ⟨hv', hunder'⟩ => ?_⟩, rfl⟩
    exact (byteLen_le_iff_under hunder hunder').2 (hall base' (by rw [hv']; rfl) hunder')

/-- **An exact key is chosen before every wildcard, and of the wildcards the longest.** -/
theorem resolveAlias_eq_some_iff :
    resolveAlias aliases host = some value ↔ AliasOf aliases host value := by
  unfold resolveAlias AliasOf
  dsimp only
  cases aliases.lookup (Text.toAsciiLowercase host) with
  | some exact => simp
  | none =>
    simp only [longestWildcard_eq_some_iff, true_and, reduceCtorEq, false_or]

/-- The alias does not depend on the order of the table. -/
theorem resolveAlias_same {aliases' : Table String} (h : aliases.Same aliases') (host : String) :
    resolveAlias aliases host = resolveAlias aliases' host := by
  refine Option.ext fun value => ?_
  rw [resolveAlias_eq_some_iff, resolveAlias_eq_some_iff]
  simp only [AliasOf, h.lookup]

/-- What a request is dialed as: the value of its alias, or the host itself. -/
theorem exit_of_route {EndpointId PublicKey : Type} {server : ProxyServer EndpointId PublicKey}
    (haliases : server.hostAliases = aliases) {fromBridge : Bool} {port : UInt16} {target : Target}
    (hres : isReservedHost host = false)
    (hroute : server.route fromBridge (.domain host port) = .exit target) :
    ∃ dialed, target = .domain dialed port ∧
      (AliasOf aliases host dialed ∨ (∀ value, ¬ AliasOf aliases host value) ∧ dialed = host) := by
  have hres : Target.isReserved (.domain host port) = false := hres
  rw [server.route_of_not_reserved fromBridge hres] at hroute
  rcases server.routeRequested_cases fromBridge (.domain host port) with
    ⟨-, hcase⟩ | ⟨-, hcase | ⟨-, upstream, hcase⟩⟩
  · rw [hcase] at hroute
    cases hroute
  · rw [hcase, haliases] at hroute
    obtain rfl := Route.exit.inj hroute
    unfold applyAlias
    simp only [← resolveAlias_eq_some_iff]
    cases resolveAlias aliases host with
    | some value => exact ⟨value, rfl, .inl rfl⟩
    | none => exact ⟨host, rfl, .inr ⟨by simp, rfl⟩⟩
  · rw [hcase] at hroute
    cases hroute

/-! ## Bridges -/

section Bridges

variable {EndpointId PublicKey Doc : Type} [DecidableEq EndpointId]
  {crates : Crates EndpointId PublicKey} {json : BlocklistJson Doc} {disk : Disk Doc}
  {nonce : Nonce} {opts opts' : ServerOptions EndpointId PublicKey}
  {p p' : PreparedServer EndpointId PublicKey}

def BridgeMatches (crates : Crates EndpointId PublicKey) (bridges : Table BridgeConfig)
    (target : Target) (name : String) : Prop :=
  ∃ b set, bridges.lookup name = some b ∧
    RoutedSet.new crates.ipNetwork b.domains b.cidrs = .ok set ∧ set.allows target = true

theorem nodup_names {ownId : EndpointId} {routedSet : RoutedSet} {relayUrls : List String}
    {table : Table BridgeConfig} {bridges : List (BridgeUpstream EndpointId)}
    (h : table.toPairs.mapM (fun e => prepareBridge crates ownId routedSet relayUrls e.1 e.2) =
      .ok bridges) : (bridges.map BridgeUpstream.name).Nodup := by
  have hnames : bridges.map BridgeUpstream.name = table.toPairs.map Prod.fst := by
    apply map_eq_map_of_mapM_eq_ok h
    intro e up hup
    obtain ⟨_, _, -, -, rfl⟩ := prepareBridge_eq_ok hup
    rfl
  rw [hnames]
  exact table.nodup_keys_toPairs

/-- The bridges of a prepared server that match are those of its options. -/
theorem exists_bridge_iff (h : prepare crates json disk nonce opts = .ok p) {target : Target}
    {name : String} :
    (∃ b ∈ p.server.bridges, b.routedSet.allows target = true ∧ b.name = name) ↔
      BridgeMatches crates opts.bridges target name := by
  obtain ⟨bridges, hserver, hbridges⟩ := (prepared_of_prepare h).1.bridges
  rw [hserver]
  constructor
  · rintro ⟨b, hb, hallows, rfl⟩
    obtain ⟨⟨name, cfg⟩, hcfg, hup⟩ :=
      (mem_iff_of_mapM_eq_ok hbridges).1 ((List.mem_insertionSort _).1 hb)
    obtain ⟨_, set, -, hset, rfl⟩ := prepareBridge_eq_ok hup
    exact ⟨cfg, set, Table.mem_toPairs_iff.1 hcfg, hset, hallows⟩
  rintro ⟨cfg, set, hcfg, hset, hallows⟩
  have hin : (name, cfg) ∈ opts.bridges.toPairs := Table.mem_toPairs_iff.2 hcfg
  obtain ⟨b, hb⟩ := exists_mapM_eq_ok_iff.1 ⟨bridges, hbridges⟩ _ hin
  have hmem : b ∈ bridges := (mem_iff_of_mapM_eq_ok hbridges).2 ⟨_, hin, hb⟩
  obtain ⟨_, set', -, hset', rfl⟩ := prepareBridge_eq_ok hb
  cases hset.symm.trans hset'
  exact ⟨_, (List.mem_insertionSort _).2 hmem, hallows, rfl⟩

/-- **The bridge of a target is the matching one with the least name.** -/
theorem bridgeFor_name_eq_some_iff (h : prepare crates json disk nonce opts = .ok p)
    {target : Target} {name : String} :
    (p.server.bridgeFor target).map BridgeUpstream.name = some name ↔
      BridgeMatches crates opts.bridges target name ∧
        ∀ name', BridgeMatches crates opts.bridges target name' → name ≤ name' := by
  obtain ⟨bridges, hserver, hbridges⟩ := (prepared_of_prepare h).1.bridges
  have hsorted : p.server.bridges.Pairwise fun a b => a.name ≤ b.name := by
    rw [hserver]
    exact pairwise_insertionSort_key BridgeUpstream.name bridges
  have hanti : ∀ a ∈ p.server.bridges, ∀ b ∈ p.server.bridges,
      a.name ≤ b.name → b.name ≤ a.name → a = b := by
    rw [hserver]
    intro a ha b hb hab hba
    exact List.inj_on_of_nodup_map (nodup_names hbridges) ((List.mem_insertionSort _).1 ha)
      ((List.mem_insertionSort _).1 hb) (le_antisymm hab hba)
  rw [ProxyServer.bridgeFor, Option.map_eq_some_iff]
  simp only [find?_eq_some_iff_of_pairwise hsorted (fun a => le_refl a.name) hanti,
    ← exists_bridge_iff h]
  constructor
  · rintro ⟨b, ⟨hb, hallows, hleast⟩, rfl⟩
    refine ⟨⟨b, hb, hallows, rfl⟩, ?_⟩
    rintro _ ⟨b', hb', hallows', rfl⟩
    exact hleast b' hb' hallows'
  · rintro ⟨⟨b, hb, hallows, rfl⟩, hleast⟩
    exact ⟨b, ⟨hb, hallows, fun b' hb' hallows' => hleast _ ⟨b', hb', hallows', rfl⟩⟩, rfl⟩

/-- Prepared from tables in any order, the bridges come in one order. -/
theorem bridges_eq_of_same {r r' : ResolvedServer} (hsame : SameResolved r r')
    {secretKey : List UInt8} {authorizedKeys : List PublicKey} {quickClient : Option EndpointId}
    (h : prepare crates json disk nonce (r.options secretKey authorizedKeys quickClient) = .ok p)
    (h' : prepare crates json disk nonce (r'.options secretKey authorizedKeys quickClient) =
      .ok p') :
    p.server.bridges = p'.server.bridges := by
  have hothers := hsame.others
  obtain ⟨hp, -⟩ := prepared_of_prepare h
  obtain ⟨hp', -⟩ := prepared_of_prepare h'
  obtain ⟨bridges, hserver, hbridges⟩ := hp.bridges
  obtain ⟨bridges', hserver', hbridges'⟩ := hp'.bridges
  have hid : p.server.ownId = p'.server.ownId := by
    rw [hp.ownId, hp'.ownId]
    rfl
  have hset : p.server.routedSet = p'.server.routedSet := by
    have hdomains : r.routedDomains = r'.routedDomains := congrArg (·.routedDomains) hothers
    have hcidrs : r.routedCidrs = r'.routedCidrs := congrArg (·.routedCidrs) hothers
    have hnew := hp.routedSet
    have hnew' := hp'.routedSet
    simp only [ResolvedServer.options, hdomains, hcidrs] at hnew hnew'
    exact Except.ok.inj (hnew.symm.trans hnew')
  have hrelay : p.relayUrls = p'.relayUrls := by
    have hurls : r.relayUrls = r'.relayUrls := congrArg (·.relayUrls) hothers
    have htoken : r.relayAuthToken = r'.relayAuthToken := congrArg (·.relayAuthToken) hothers
    have hconfig := hp.relayUrls
    have hconfig' := hp'.relayUrls
    simp only [ResolvedServer.options, hurls, htoken] at hconfig hconfig'
    exact Except.ok.inj (hconfig.symm.trans hconfig')
  rw [hid, hset, hrelay] at hbridges
  obtain ⟨zs, hzs, hperm⟩ := mapM_perm hsame.bridges.toPairs hbridges
  cases hzs.symm.trans hbridges'
  rw [hserver, hserver', sortBridges, sortBridges,
    insertionSort_key_eq_of_perm BridgeUpstream.name (nodup_names hbridges) hperm]

/-! ## The choices -/

/-- **The alias and the bridge of a request do not depend on the order of any map.** An exact
alias key is chosen before every wildcard, else the longest wildcard; what is dialed is the value
of that alias, not looked up again; the bridge is the matching one with the least name. -/
theorem alias_and_bridge_ignore_order {home : Option String} {cli : Config.ServerConfig}
    {file : Option Config.ServerConfig} {r : ResolvedServer} (hr : Resolves home cli file r)
    {secretKey : List UInt8} {authorizedKeys : List PublicKey} {quickClient : Option EndpointId}
    (hp : prepare crates json disk nonce (r.options secretKey authorizedKeys quickClient) = .ok p) :
    (∀ host value, resolveAlias p.server.hostAliases host = some value ↔
      AliasOf r.hostAliases host value) ∧
    (∀ fromBridge host port target, isReservedHost host = false →
      p.server.route fromBridge (.domain host port) = .exit target →
        ∃ dialed, target = .domain dialed port ∧
          (AliasOf r.hostAliases host dialed ∨
            (∀ value, ¬ AliasOf r.hostAliases host value) ∧ dialed = host)) ∧
    (∀ target name, (p.server.bridgeFor target).map BridgeUpstream.name = some name ↔
      BridgeMatches crates r.bridges target name ∧
        ∀ name', BridgeMatches crates r.bridges target name' → name ≤ name') ∧
    ∀ r' p', Resolves home cli file r' →
      prepare crates json disk nonce (r'.options secretKey authorizedKeys quickClient) = .ok p' →
        (∀ host, resolveAlias p'.server.hostAliases host = resolveAlias p.server.hostAliases host) ∧
          ∀ target, p'.server.bridgeFor target = p.server.bridgeFor target := by
  have hsameAliases {q : PreparedServer EndpointId PublicKey} {s : ResolvedServer}
      (hq : prepare crates json disk nonce (s.options secretKey authorizedKeys quickClient) =
        .ok q) :
      q.server.hostAliases = s.hostAliases := (prepared_of_prepare hq).1.hostAliases
  have halias := hsameAliases hp
  refine ⟨fun host value => ?_, fun fromBridge host port target hres hroute => ?_,
    fun target name => bridgeFor_name_eq_some_iff hp, fun r' p' hr' hp' => ⟨fun host => ?_,
      fun target => ?_⟩⟩
  · rw [halias]
    exact resolveAlias_eq_some_iff
  · exact exit_of_route halias hres hroute
  · rw [hsameAliases hp', halias]
    exact (resolveAlias_same (hr.same hr').hostAliases host).symm
  · rw [ProxyServer.bridgeFor, ProxyServer.bridgeFor, bridges_eq_of_same (hr.same hr') hp hp']

end Bridges

/-- A file with an exact alias, a wildcard above it and two bridges that overlap. -/
def labFile : Config.ServerConfig where
  routedDomains := some ["*"]
  hostAliases := some (Table.collect [("Web.Corp", "127.0.0.1"), ("*.corp", "db.lab")])
  bridges := some (Table.collect [("two", ⟨"peer", ["*.lab"], []⟩), ("one", ⟨"other", ["*"], []⟩)])

theorem alias_and_bridge_ignore_order_instance :
    ∃ r p, Resolves (some "/home") {} (some labFile) r ∧
      prepare textCrates plainJson .missing 7
        (r.options (Reader.utf8 "server") ["key"] none) = .ok p ∧
      AliasOf r.hostAliases "WEB.corp" "127.0.0.1" ∧
      BridgeMatches textCrates r.bridges (.domain "db.lab" 80) "one" := by
  obtain ⟨r, p, hr, hp, halias, hbridge⟩ : ∃ r p, Resolves (some "/home") {} (some labFile) r ∧
      prepare textCrates plainJson .missing 7
        (r.options (Reader.utf8 "server") ["key"] none) = .ok p ∧
      resolveAlias p.server.hostAliases "WEB.corp" = some "127.0.0.1" ∧
      (p.server.bridgeFor (.domain "db.lab" 80)).map BridgeUpstream.name = some "one" :=
    ⟨_, _, ⟨_, _, _, .refl _, .some (.refl _), rfl, .refl _⟩, rfl, by decide, by decide⟩
  obtain ⟨haliases, -, hbridges, -⟩ := alias_and_bridge_ignore_order hr hp
  exact ⟨r, p, hr, hp, (haliases _ _).1 halias, ((hbridges _ _).1 hbridge).1⟩

end Flextunnel.Analysis
