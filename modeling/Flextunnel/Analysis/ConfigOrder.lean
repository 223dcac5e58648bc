import Mathlib.Data.String.Basic
import Flextunnel.Lib.Choice
import Flextunnel.Model.Config

/-!
# Configuration maps in any order

The maps of a configuration iterate in an order nobody chose: `resolve_server` reads them in one
order and builds maps that iterate in another. `Resolves` is `resolve_server` on a configuration
whose maps come, and are left, in any order.
-/

set_option autoImplicit false

namespace Flextunnel.Analysis

open Lib Model Model.Config

/-! ## Reordered configurations -/

def withoutMaps (c : Config.ServerConfig) : Config.ServerConfig :=
  { c with hostAliases := none, dnsForwards := none, bridges := none }

structure SameConfig (c c' : Config.ServerConfig) : Prop where
  hostAliases : Option.Rel Table.Same c.hostAliases c'.hostAliases
  dnsForwards : Option.Rel Table.Same c.dnsForwards c'.dnsForwards
  bridges : Option.Rel Table.Same c.bridges c'.bridges
  others : withoutMaps c = withoutMaps c'

structure SameResolved (r r' : ResolvedServer) : Prop where
  hostAliases : r.hostAliases.Same r'.hostAliases
  dnsForwards : r.dnsForwards.Same r'.dnsForwards
  bridges : r.bridges.Same r'.bridges
  others : { r with hostAliases := ∅, dnsForwards := ∅, bridges := ∅ } =
    { r' with hostAliases := ∅, dnsForwards := ∅, bridges := ∅ }

/-- `resolve_server` over the maps in some order, its own maps left in some order. -/
def Resolves (home : Option String) (cli : Config.ServerConfig) (file : Option Config.ServerConfig)
    (r : ResolvedServer) : Prop :=
  ∃ cli' file' r', SameConfig cli cli' ∧ Option.Rel SameConfig file file' ∧
    resolveServer home cli' file' = .ok r' ∧ SameResolved r' r

/-! ## Lowercased keys -/

section Lowercased

variable {ν : Type} {what : String}

variable {out t : Table ν} {pairs : List (String × ν)}

theorem insertLowercased_eq_ok {out' : Table ν} {e : String × ν}
    (h : insertLowercased what out e = .ok out') :
    out.lookup (Text.toAsciiLowercase e.1) = none ∧
      out' = out.insert (Text.toAsciiLowercase e.1) e.2 := by
  unfold insertLowercased at h
  dsimp only at h
  split at h
  · cases h
  next hfree => exact ⟨by simpa using hfree, (Except.ok.inj h).symm⟩

/-- A table built from lowercased keys has just the entries it was built from. -/
theorem foldlM_insertLowercased_lookup {out' : Table ν}
    (h : pairs.foldlM (insertLowercased what) out = .ok out') (k : String) (v : ν) :
    out'.lookup k = some v ↔ out.lookup k = some v ∨
      ∃ raw, (raw, v) ∈ pairs ∧ Text.toAsciiLowercase raw = k := by
  induction pairs generalizing out with
  | nil =>
    cases h
    simp
  | cons e pairs ih =>
    rw [List.foldlM_cons] at h
    obtain ⟨mid, hmid, hrest⟩ := bind_eq_ok.1 h
    obtain ⟨hfree, rfl⟩ := insertLowercased_eq_ok hmid
    have hinsert : (out.insert (Text.toAsciiLowercase e.1) e.2).lookup k = some v ↔
        out.lookup k = some v ∨ (Text.toAsciiLowercase e.1 = k ∧ e.2 = v) := by
      by_cases hk : k = Text.toAsciiLowercase e.1
      · subst hk
        simp [hfree]
      · simp [AList.lookup_insert_ne hk, Ne.symm hk]
    have hcons : (∃ raw, (raw, v) ∈ e :: pairs ∧ Text.toAsciiLowercase raw = k) ↔
        (Text.toAsciiLowercase e.1 = k ∧ e.2 = v) ∨
          ∃ raw, (raw, v) ∈ pairs ∧ Text.toAsciiLowercase raw = k := by
      simp only [List.mem_cons, or_and_right, exists_or]
      refine or_congr_left ⟨?_, fun ⟨hk, hv⟩ => ⟨e.1, by rw [← hv], hk⟩⟩
      rintro ⟨raw, rfl, hk⟩
      exact ⟨hk, rfl⟩
    rw [ih hrest, hinsert, hcons, or_assoc]

theorem collectLowercased_lookup (h : collectLowercased t what = .ok out) (k : String) (v : ν) :
    out.lookup k = some v ↔ ∃ raw, (raw, v) ∈ t.toPairs ∧ Text.toAsciiLowercase raw = k := by
  rw [foldlM_insertLowercased_lookup h k v]
  simp

/-- It can be built when no two keys are one but for case. -/
theorem foldlM_insertLowercased_isOk_iff :
    (∃ out', pairs.foldlM (insertLowercased what) out = .ok out') ↔
      (pairs.map fun e => Text.toAsciiLowercase e.1).Nodup ∧
        ∀ e ∈ pairs, out.lookup (Text.toAsciiLowercase e.1) = none := by
  induction pairs generalizing out with
  | nil => simp [pure, Except.pure]
  | cons e pairs ih =>
    rw [List.map_cons, List.nodup_cons, List.forall_mem_cons]
    constructor
    · rintro ⟨out', h⟩
      rw [List.foldlM_cons] at h
      obtain ⟨mid, hmid, hrest⟩ := bind_eq_ok.1 h
      obtain ⟨hfree, rfl⟩ := insertLowercased_eq_ok hmid
      obtain ⟨hnodup, hothers⟩ := ih.1 ⟨out', hrest⟩
      have hne (f : String × ν) (hf : f ∈ pairs) :
          Text.toAsciiLowercase f.1 ≠ Text.toAsciiLowercase e.1 := by
        intro heq
        have := hothers f hf
        rw [heq, AList.lookup_insert] at this
        cases this
      refine ⟨⟨?_, hnodup⟩, hfree, fun f hf => ?_⟩
      · intro hin
        obtain ⟨f, hf, heq⟩ := List.mem_map.1 hin
        exact hne f hf heq
      · rw [← hothers f hf, AList.lookup_insert_ne (hne f hf)]
    · rintro ⟨⟨hnew, hnodup⟩, hfree, hothers⟩
      have hstep : insertLowercased what out e =
          .ok (out.insert (Text.toAsciiLowercase e.1) e.2) := by
        simp [insertLowercased, hfree]
      rw [List.foldlM_cons, hstep]
      refine ih.2 ⟨hnodup, fun f hf => ?_⟩
      have hne : Text.toAsciiLowercase f.1 ≠ Text.toAsciiLowercase e.1 := fun heq =>
        hnew (List.mem_map.2 ⟨f, hf, heq⟩)
      rw [AList.lookup_insert_ne hne]
      exact hothers f hf

theorem collectLowercased_isOk_iff :
    (∃ out, collectLowercased t what = .ok out) ↔
      (t.toPairs.map fun e => Text.toAsciiLowercase e.1).Nodup := by
  rw [collectLowercased, foldlM_insertLowercased_isOk_iff]
  simp

/-- Lowercasing the keys keeps tables the same up to order. -/
theorem collectLowercased_same {t' : Table ν} (hsame : t.Same t')
    (h : collectLowercased t what = .ok out) :
    ∃ out', collectLowercased t' what = .ok out' ∧ out.Same out' := by
  obtain ⟨out', hout'⟩ : ∃ out', collectLowercased t' what = .ok out' := by
    rw [collectLowercased_isOk_iff]
    exact (hsame.toPairs.map _).nodup_iff.1 (collectLowercased_isOk_iff.1 ⟨out, h⟩)
  refine ⟨out', hout', Table.same_of_lookup fun k => Option.ext fun v => ?_⟩
  rw [collectLowercased_lookup h, collectLowercased_lookup hout']
  simp only [hsame.toPairs.mem_iff]

end Lowercased

/-! ## The whole configuration -/

def merged {ν : Type} (map : Config.ServerConfig → Option (Table ν)) (cli : Config.ServerConfig)
    (file : Option Config.ServerConfig) : Table ν :=
  ((map cli).or (map (file.getD {}))).getD ∅

structure Resolved (home : Option String) (cli : Config.ServerConfig)
    (file : Option Config.ServerConfig) (r : ResolvedServer) : Prop where
  hostAliases :
    collectLowercased (merged (·.hostAliases) cli file) "host_aliases" = .ok r.hostAliases
  dnsForwards :
    collectLowercased (merged (·.dnsForwards) cli file) "dns_forwards" = .ok r.dnsForwards
  aliasKeys : ∀ key ∈ r.hostAliases.keys,
    validateAliasKey key "host_aliases" = .ok () ∧ checkReservedAlias key = .ok ()
  bridges : r.bridges = merged (·.bridges) cli file
  bridgeShapes : ∃ seen, checkBridges r.bridges = .ok seen
  blocklistFile : defaultBlocklistPath home = some r.blocklistFile
  secretFile : r.secretFile = (cli.secretFile.or (file.getD {}).secretFile).map (expandTilde home)
  authorizedKeysFile : r.authorizedKeysFile =
    (cli.authorizedKeysFile.or (file.getD {}).authorizedKeysFile).map (expandTilde home)
  relayUrls : r.relayUrls = (cli.relayUrls.or (file.getD {}).relayUrls).getD []
  relayAuthToken : r.relayAuthToken = cli.relayAuthToken.or (file.getD {}).relayAuthToken
  routedDomains : r.routedDomains = (cli.routedDomains.or (file.getD {}).routedDomains).getD []
  routedCidrs : r.routedCidrs = (cli.routedCidrs.or (file.getD {}).routedCidrs).getD []
  allowedBridgeServers : r.allowedBridgeServers =
    (cli.allowedBridgeServers.or (file.getD {}).allowedBridgeServers).getD []

/-- `resolve_server` returns just the results that are resolved. -/
theorem resolveServer_eq_ok_iff {home : Option String} {cli : Config.ServerConfig}
    {file : Option Config.ServerConfig} {r : ResolvedServer} :
    resolveServer home cli file = .ok r ↔ Resolved home cli file r := by
  constructor
  · intro h
    obtain ⟨hostAliases, haliases, h⟩ := bind_eq_ok.1 h
    obtain ⟨dnsForwards, hdns, h⟩ := bind_eq_ok.1 h
    obtain ⟨⟨⟩, hkeys, h⟩ := bind_eq_ok.1 h
    obtain ⟨⟨⟩, hreserved, h⟩ := bind_eq_ok.1 h
    obtain ⟨seen, hbridges, h⟩ := bind_eq_ok.1 h
    split at h
    next path hpath =>
      cases h
      exact ⟨haliases, hdns, fun key hkey => ⟨forM_eq_ok_iff.1 hkeys key hkey,
        forM_eq_ok_iff.1 hreserved key hkey⟩, rfl, ⟨seen, hbridges⟩, hpath, rfl, rfl, rfl, rfl,
        rfl, rfl, rfl⟩
    · cases h
  · intro h
    obtain ⟨seen, hseen⟩ := h.bridgeShapes
    rw [h.bridges] at hseen
    refine bind_eq_ok.2 ⟨_, h.hostAliases, bind_eq_ok.2 ⟨_, h.dnsForwards, bind_eq_ok.2 ⟨(),
      forM_eq_ok_iff.2 fun key hkey => (h.aliasKeys key hkey).1, bind_eq_ok.2 ⟨(),
      forM_eq_ok_iff.2 fun key hkey => (h.aliasKeys key hkey).2, bind_eq_ok.2 ⟨seen, hseen, ?_⟩⟩⟩⟩⟩
    rw [h.blocklistFile]
    refine congrArg Except.ok ?_
    cases r
    simp only [ResolvedServer.mk.injEq, true_and, and_true]
    exact ⟨h.secretFile.symm, h.authorizedKeysFile.symm, h.relayUrls.symm, h.relayAuthToken.symm,
      h.routedDomains.symm, h.routedCidrs.symm, h.bridges.symm, h.allowedBridgeServers.symm⟩

section Order

variable {home : Option String} {cli cli' : Config.ServerConfig}
  {file file' : Option Config.ServerConfig}
  {r r' : ResolvedServer}

theorem same_or {ν : Type} {a a' b b' : Option (Table ν)} (ha : Option.Rel Table.Same a a')
    (hb : Option.Rel Table.Same b b') : ((a.or b).getD ∅).Same ((a'.or b').getD ∅) := by
  cases ha with
  | some ha => exact ha
  | none =>
    cases hb with
    | some hb => exact hb
    | none => exact .refl _

theorem SameConfig.refl (c : Config.ServerConfig) : SameConfig c c := by
  have hrel {ν : Type} (m : Option (Table ν)) : Option.Rel Table.Same m m := by
    cases m with
    | none => exact .none
    | some t => exact .some (.refl t)
  exact ⟨hrel _, hrel _, hrel _, rfl⟩

theorem sameConfig_getD (h : Option.Rel SameConfig file file') :
    SameConfig (file.getD {}) (file'.getD {}) := by
  cases h with
  | none => exact .refl _
  | some h => exact h

theorem checkBridges_same {t t' : Table BridgeConfig} (h : t.Same t') :
    checkBridges t = checkBridges t' := by
  rw [checkBridges, checkBridges,
    insertionSort_key_eq_of_perm Prod.fst t.nodup_keys_toPairs h.toPairs]

/-- Reordered maps of a configuration give reordered maps of the result. -/
theorem resolved_same (hcli : SameConfig cli cli') (hfile : Option.Rel SameConfig file file')
    (h : Resolved home cli file r) : ∃ r', Resolved home cli' file' r' ∧ SameResolved r r' := by
  have hf := sameConfig_getD hfile
  obtain ⟨hostAliases, haliases, hsameAliases⟩ :=
    collectLowercased_same (same_or hcli.hostAliases hf.hostAliases) h.hostAliases
  obtain ⟨dnsForwards, hdns, hsameDns⟩ :=
    collectLowercased_same (same_or hcli.dnsForwards hf.dnsForwards) h.dnsForwards
  have hbridges : r.bridges.Same (merged (·.bridges) cli' file') := by
    rw [h.bridges]
    exact same_or hcli.bridges hf.bridges
  have hfield {β : Type} (field : Config.ServerConfig → Option β)
      (hmaps : ∀ c, field c = field (withoutMaps c)) :
      (field cli).or (field (file.getD {})) = (field cli').or (field (file'.getD {})) := by
    rw [hmaps cli, hmaps (file.getD {}), hcli.others, hf.others, ← hmaps, ← hmaps]
  have hkeys (key : String) (hkey : key ∈ hostAliases.keys) : key ∈ r.hostAliases.keys :=
    (hsameAliases.map Sigma.fst).mem_iff.2 hkey
  obtain ⟨seen, hseen⟩ := h.bridgeShapes
  refine ⟨{ r with hostAliases, dnsForwards, bridges := merged (·.bridges) cli' file' },
    ?_, hsameAliases, hsameDns, hbridges, rfl⟩
  exact {
    hostAliases := haliases
    dnsForwards := hdns
    aliasKeys := fun key hkey => h.aliasKeys key (hkeys key hkey)
    bridges := rfl
    bridgeShapes := ⟨seen, by rw [← hseen, checkBridges_same hbridges]⟩
    blocklistFile := h.blocklistFile
    secretFile := by rw [h.secretFile, hfield (·.secretFile) fun _ => rfl]
    authorizedKeysFile := by
      rw [h.authorizedKeysFile, hfield (·.authorizedKeysFile) fun _ => rfl]
    relayUrls := by rw [h.relayUrls, hfield (·.relayUrls) fun _ => rfl]
    relayAuthToken := by rw [h.relayAuthToken, hfield (·.relayAuthToken) fun _ => rfl]
    routedDomains := by rw [h.routedDomains, hfield (·.routedDomains) fun _ => rfl]
    routedCidrs := by rw [h.routedCidrs, hfield (·.routedCidrs) fun _ => rfl]
    allowedBridgeServers := by
      rw [h.allowedBridgeServers, hfield (·.allowedBridgeServers) fun _ => rfl] }

theorem rel_symm {α : Type} {R : α → α → Prop} (hR : ∀ {a b}, R a b → R b a) {m m' : Option α}
    (h : Option.Rel R m m') : Option.Rel R m' m := by
  cases h with
  | none => exact .none
  | some h => exact .some (hR h)

theorem SameConfig.symm (h : SameConfig cli cli') : SameConfig cli' cli :=
  ⟨rel_symm .symm h.hostAliases, rel_symm .symm h.dnsForwards, rel_symm .symm h.bridges,
    h.others.symm⟩

theorem SameResolved.refl (r : ResolvedServer) : SameResolved r r :=
  ⟨.refl _, .refl _, .refl _, rfl⟩

theorem SameResolved.symm (h : SameResolved r r') : SameResolved r' r :=
  ⟨h.hostAliases.symm, h.dnsForwards.symm, h.bridges.symm, h.others.symm⟩

theorem SameResolved.trans {r'' : ResolvedServer} (h : SameResolved r r')
    (h' : SameResolved r' r'') : SameResolved r r'' :=
  ⟨h.hostAliases.trans h'.hostAliases, h.dnsForwards.trans h'.dnsForwards,
    h.bridges.trans h'.bridges, h.others.trans h'.others⟩

theorem Resolves.exists_resolved (h : Resolves home cli file r) :
    ∃ r', Resolved home cli file r' ∧ SameResolved r' r := by
  obtain ⟨cli', file', r', hcli, hfile, hr, hsame⟩ := h
  obtain ⟨r'', hr'', hsame'⟩ :=
    resolved_same hcli.symm (rel_symm .symm hfile) (resolveServer_eq_ok_iff.1 hr)
  exact ⟨r'', hr'', hsame'.symm.trans hsame⟩

/-- **One configuration resolves to one result**, up to the order of its maps. -/
theorem Resolves.same (h : Resolves home cli file r) (h' : Resolves home cli file r') :
    SameResolved r r' := by
  obtain ⟨s, hs, hsame⟩ := h.exists_resolved
  obtain ⟨s', hs', hsame'⟩ := h'.exists_resolved
  obtain rfl : s = s' := Except.ok.inj
    ((resolveServer_eq_ok_iff.2 hs).symm.trans (resolveServer_eq_ok_iff.2 hs'))
  exact hsame.symm.trans hsame'

end Order

end Flextunnel.Analysis
