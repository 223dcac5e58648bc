import Mathlib.Data.Countable.Basic
import Mathlib.Logic.Equiv.List
import Mathlib.Tactic.DeriveCountable
import Flextunnel.Model.Store

/-!
# What a save writes, a load returns

A saved store loads as it was, secrets included, whichever backend holds it. The secrets
leave the records, go through one flat map under ids derived from three kinds of records, and
come back by id.
-/

set_option autoImplicit false

namespace Flextunnel.Analysis

open Lib Model

variable {crates : StoreCrates} {platform platform' : Platform} {w w' : World}
  {keys : List AuthKey} {profiles : List Profile} {server : Option ServerConfig}
  {loginItemSetUp mock : Bool}

/-! ## The ids of the sealed map -/

theorem profileRelaySecretId_inj {a b : String} :
    profileRelaySecretId a = profileRelaySecretId b ↔ a = b := by
  simp [profileRelaySecretId, String.append_right_inj]

theorem isReservedSecretId_profileRelaySecretId (id : String) :
    isReservedSecretId (profileRelaySecretId id) = true := by
  simp [isReservedSecretId, profileRelaySecretId, Text.stripPrefix_eq_some_iff,
    Option.isSome_iff_exists]

theorem profileRelaySecretId_ne (id : String) :
    profileRelaySecretId id ≠ serverSecretId ∧ profileRelaySecretId id ≠ serverRelaySecretId := by
  have h : ∀ s, profileRelaySecretId id = s → s.toList.head? = some 'r' := by
    rintro s rfl
    simp [profileRelaySecretId]
  constructor <;>
  · intro hs
    exact absurd (h _ hs) (by decide)

/-- No two entries of the sealed map share an id. -/
theorem nodup_secretIds (hkeys : dropInvalidKeys keys = keys)
    (hprofiles : dropInvalid profiles = profiles) :
    ((secretEntries keys profiles server).map Prod.fst).Nodup := by
  obtain ⟨hwf, hkclash⟩ := dropInvalidKeys_eq_self_iff.1 hkeys
  obtain ⟨-, hpclash⟩ := dropInvalid_eq_self_iff.1 hprofiles
  have hids : (keys.map (·.id)).Nodup :=
    List.pairwise_map.2 (hkclash.imp fun hc heq => hc (.inl heq))
  have hrelays : (profiles.map fun p => profileRelaySecretId p.id).Nodup :=
    List.pairwise_map.2 (hpclash.imp fun hc heq => hc (.inl (profileRelaySecretId_inj.1 heq)))
  have hserver : ((server.toList.flatMap fun s =>
      [(serverSecretId, s.secret), (serverRelaySecretId, s.relayAuthToken.getD "")]).map
        Prod.fst).Nodup := by
    cases server with
    | none => simp
    | some s => simp [serverSecretId, serverRelaySecretId]
  -- a key id is not reserved, every other id of the map is
  have hreserved : ∀ k ∈ keys, ∀ id, isReservedSecretId id = true → k.id ≠ id := by
    rintro k hk id hid rfl
    rw [(hwf k hk).2.1] at hid
    cases hid
  simp only [secretEntries, List.map_append, List.map_map, List.append_assoc]
  refine List.nodup_append.2 ⟨hids, List.nodup_append.2 ⟨hrelays, hserver, ?_⟩, ?_⟩
  · intro id hid id' hid'
    obtain ⟨p, -, rfl⟩ := List.mem_map.1 hid
    obtain rfl | rfl : id' = serverSecretId ∨ id' = serverRelaySecretId := by
      cases server <;> simp_all
    · exact (profileRelaySecretId_ne p.id).1
    · exact (profileRelaySecretId_ne p.id).2
  intro id hid id' hid'
  obtain ⟨k, hk, rfl⟩ := List.mem_map.1 hid
  apply hreserved k hk
  obtain hid' | hid' := List.mem_append.1 hid'
  · obtain ⟨p, -, rfl⟩ := List.mem_map.1 hid'
    exact isReservedSecretId_profileRelaySecretId p.id
  obtain rfl | rfl : id' = serverSecretId ∨ id' = serverRelaySecretId := by
    cases server <;> simp_all
  · rfl
  · rfl

def sealedMap (entries : List (String × String)) : Table String :=
  Table.collect (entries.filter fun e => e.2 ≠ "")

variable {entries : List (String × String)} {key : MasterKey} {u : World} {path : String}

/-- The sealed map is read back by id. -/
theorem lookup_sealedMap {id secret : String} (hnodup : (entries.map Prod.fst).Nodup)
    (h : (id, secret) ∈ entries) :
    (sealedMap entries).lookup id = if secret = "" then none else some secret := by
  have hfilter : ((entries.filter fun e => e.2 ≠ "").map Prod.fst).Nodup :=
    hnodup.sublist (List.filter_sublist.map _)
  split
  next hempty =>
    apply Table.lookup_collect_eq_none
    intro hid
    obtain ⟨e, he, rfl⟩ := List.mem_map.1 hid
    obtain ⟨hmem, hne⟩ := List.mem_filter.1 he
    have heq : e = (e.1, secret) := List.inj_on_of_nodup_map hnodup hmem h rfl
    rw [heq] at hne
    simp [hempty] at hne
  next hne =>
    apply Table.lookup_collect_of_mem hfilter
    simp [h, hne]

/-! ## The keychain -/

def KeychainAgrees (crates : StoreCrates) (w : World) : Prop :=
  ∀ key, w.cache = some key → ∃ text, w.entry = .password text ∧ crates.decode text = .ok key.1

def relaunched (w : World) : World := { w with cache := none }

/-- The key that was read is cached, and the keychain has it if it had the last one. -/
theorem safeStorageKey_ok (h : safeStorageKey crates platform w = (.ok key, w')) :
    w'.cache = some key ∧ (KeychainAgrees crates w → KeychainAgrees crates w') := by
  unfold safeStorageKey at h
  split at h
  next hcache =>
    cases h
    exact ⟨hcache, id⟩
  split at h
  · cases h
  split at h
  next text hentry =>
    split at h
    next bytes hbytes =>
      split at h <;> cases h
      refine ⟨rfl, fun _ key hkey => ⟨text, hentry, ?_⟩⟩
      cases hkey
      exact hbytes
    · cases h
  · split at h
    · cases h
      refine ⟨rfl, fun _ key hkey => ⟨_, rfl, ?_⟩⟩
      cases hkey
      exact crates.decode_encode _
    · cases h
  · cases h

theorem safeStorageKey_error {e : String}
    (h : safeStorageKey crates platform w = (.error e, w')) : w' = w := by
  unfold safeStorageKey at h
  grind

section KeychainAgrees

variable (h : KeychainAgrees crates w)
include h

theorem KeychainAgrees.safeStorageKey :
    KeychainAgrees crates (safeStorageKey crates platform w).2 := by
  rcases hkey : Model.safeStorageKey crates platform w with ⟨e | key, w'⟩
  · rw [safeStorageKey_error hkey]
    exact h
  · exact (safeStorageKey_ok hkey).2 h

theorem KeychainAgrees.writeJson {α : Type} {toVec : α → Except String (List UInt8)}
    {path : String} {value : α} :
    KeychainAgrees crates (writeJson toVec platform path value w).2 := by
  unfold Model.writeJson
  split <;> exact h

theorem KeychainAgrees.sealStore :
    KeychainAgrees crates (sealStore crates platform keys profiles server w).2 := by
  have hkey : KeychainAgrees crates (Model.safeStorageKey crates platform w).2 :=
    h.safeStorageKey
  simp only [Model.sealStore]
  split
  · exact h
  · split <;> simp_all

theorem KeychainAgrees.saveStore (backend : Option Backend) :
    KeychainAgrees crates
      (saveStore crates platform backend keys profiles server loginItemSetUp w).2 := by
  have hsealed : ∀ mock, KeychainAgrees crates
      (saveSealed crates platform mock keys profiles server loginItemSetUp w).2 := by
    intro mock
    have hseal : KeychainAgrees crates
        (Model.sealStore crates platform keys profiles server w).2 := h.sealStore
    unfold saveSealed
    split
    · simp_all
    split
    · simp_all
    · apply KeychainAgrees.writeJson
      simp_all
  cases backend with
  | none => exact h
  | some b =>
    cases b with
    | devFile path => exact h.writeJson
    | keychain => exact hsealed false
    | mockKeychain => exact hsealed true

theorem KeychainAgrees.loadStore (backend : Option Backend) :
    KeychainAgrees crates (loadStore crates platform backend w).2 := by
  have hunseal : ∀ store, KeychainAgrees crates (unsealStore crates platform store w).2 := by
    intro store
    have hkey : KeychainAgrees crates (Model.safeStorageKey crates platform w).2 :=
      h.safeStorageKey
    unfold unsealStore
    split
    · exact h
    split
    · exact h
    · split
      · simp_all
      · split <;> simp_all
  have hsealed : ∀ mock, KeychainAgrees crates (loadSealed crates platform mock w).2 := by
    intro mock
    unfold loadSealed
    split
    · exact h
    split
    · exact h
    next doc _ =>
      have hstore := hunseal { doc.getD {} with keys := dropInvalidKeys (doc.getD {}).keys }
      dsimp only
      split <;> simp_all
  cases backend with
  | none => exact h
  | some b =>
    cases b with
    | devFile path => exact h
    | keychain => exact hsealed false
    | mockKeychain => exact hsealed true

end KeychainAgrees

/-- A process that goes on after `w`: the same one, or a later one, which reads the keychain
again and so depends on the entry being what `w₀` had cached. -/
def Continues (crates : StoreCrates) (w₀ w u : World) : Prop :=
  u = w ∨ KeychainAgrees crates w₀ ∧ u = relaunched w

/-- A process that goes on reads the same key. -/
theorem exists_safeStorageKey (hcache : w.cache = some key) (hopen : platform.openEntry = .ok ())
    (hu : Continues crates w w u) : ∃ u', safeStorageKey crates platform u = (.ok key, u') := by
  obtain rfl | ⟨hw, rfl⟩ := hu
  · exact ⟨u, by simp [safeStorageKey, hcache]⟩
  obtain ⟨text, hentry, hdecode⟩ := hw key hcache
  have hlen : key.1.length = 32 := key.2
  refine ⟨{ w with cache := some key }, ?_⟩
  simp [safeStorageKey, relaunched, hopen, hentry, hdecode, hlen]

/-! ## Sealing and opening -/

/-- What was sealed opens under the same key. -/
theorem openSecrets_sealSecrets {blob : String} (hne : ∃ e ∈ entries, e.2 ≠ "")
    (h : sealSecrets crates platform key entries = .ok blob) :
    blob ≠ "" ∧ ∃ secrets, openSecrets crates key blob = .ok secrets ∧
      ∀ id, secrets.lookup id = (sealedMap entries).lookup id := by
  have hmap : (sealedMap entries).entries.isEmpty = false := by
    obtain ⟨e, he, hsecret⟩ := hne
    have hmem : e ∈ (entries.filter fun e => e.2 ≠ "").filter (·.1 == e.1) := by
      simp [he, hsecret]
    rw [Bool.eq_false_iff]
    intro hempty
    have hnone := Table.lookup_collect (entries.filter fun e => e.2 ≠ "") e.1
    rw [← sealedMap, show sealedMap entries = ∅ from AList.ext (List.isEmpty_iff.1 hempty),
      AList.lookup_empty, eq_comm, Option.map_eq_none_iff, List.getLast?_eq_none_iff] at hnone
    rw [hnone] at hmem
    cases hmem
  simp only [sealSecrets] at h
  rw [← sealedMap, hmap] at h
  simp only [Bool.false_eq_true, if_false] at h
  obtain ⟨plain, hplain, h⟩ := bind_eq_ok.1 h
  split at h <;> cases h
  next ciphertext hct =>
    have hnonce : platform.nonce.1.length = 12 := platform.nonce.2
    have htake : (platform.nonce.1 ++ ciphertext).take 12 = platform.nonce.1 :=
      List.take_left' hnonce
    have hdrop : (platform.nonce.1 ++ ciphertext).drop 12 = ciphertext :=
      List.drop_left' hnonce
    obtain ⟨secrets, hsecrets, hlookup⟩ := crates.secretsJson.fromSlice_toVec _ _ hplain
    refine ⟨crates.encode_ne_empty _ ?_, secrets, ?_, hlookup⟩
    · intro hnil
      have := congrArg List.length hnil
      simp [hnonce] at this
    · have hdec := crates.decrypt_encrypt _ _ _ _ hct
      simp [openSecrets, crates.decode_encode, htake, hdrop, hnonce, hdec, hsecrets, bind,
        Except.bind, Except.mapError]

/-- Every unsealing of the blob gives the secrets of the map. -/
def Unseals (crates : StoreCrates) (w : World) (blob : String) (map : Table String) : Prop :=
  ∀ (platform : Platform) (store : Store), platform.openEntry = .ok () →
    store.sealedKeys = blob → store.sealedVersion = sealedVersion →
    ∃ secrets w', unsealStore crates platform store w = (.ok (secrets, store), w') ∧
      ∀ id, secrets.lookup id = map.lookup id

/-- The blob of a save opens in this process and in a later one. -/
theorem unseals_of_sealStore {blob : String}
    (h : sealStore crates platform keys profiles server w = (.ok blob, w')) {v : World}
    (hv : v.cache = w'.cache ∧ v.entry = w'.entry) (hu : Continues crates w v u) :
    Unseals crates u blob (sealedMap (secretEntries keys profiles server)) := by
  intro platform' store hopen hblob hversion
  simp only [sealStore] at h
  split at h
  next hall =>
    -- without a secret there is no blob, and no entry in the map
    cases h
    refine ⟨∅, u, by simp [unsealStore, hblob], fun id => ?_⟩
    have hnil : (secretEntries keys profiles server).filter (fun e => e.2 ≠ "") = [] := by
      simpa using hall
    rw [sealedMap, hnil]
    rfl
  next hall =>
    split at h
    · cases h
    next master w'' hkey =>
      obtain ⟨hseal, rfl⟩ :
          sealSecrets crates platform master (secretEntries keys profiles server) =
            .ok blob ∧ w'' = w' := by simpa using h
      obtain ⟨hcache, hagrees⟩ := safeStorageKey_ok hkey
      obtain ⟨hne, secrets, hopened, hlookup⟩ :=
        openSecrets_sealSecrets (by simpa using hall) hseal
      have hu' : Continues crates v v u := by
        refine hu.imp id fun ⟨hw, hrel⟩ => ⟨fun key hk => ?_, hrel⟩
        rw [hv.2]
        exact hagrees hw key (hv.1 ▸ hk)
      obtain ⟨u', hread⟩ := exists_safeStorageKey (hv.1.trans hcache) hopen hu'
      exact ⟨secrets, u', by simp [unsealStore, hblob, hne, hversion, hread, hopened], hlookup⟩

/-! ## Documents -/

/-- The file of a sealed backend holds this document. -/
structure OnDisk (crates : StoreCrates) (mock : Bool) (doc : StoreRef) (w : World) : Prop where
  exists_path : ∃ path bytes, sealedPath w mock = .ok path ∧ w.files path = .present bytes ∧
    crates.storeJson.toVec doc = .ok bytes

/-- A sealed save leaves its document on disk and a blob that opens. -/
theorem onDisk_of_saveSealed
    (h : saveSealed crates platform mock keys profiles server loginItemSetUp w = (.ok (), w')) :
    ∃ sealedKeys,
      OnDisk crates mock { keys, profiles, server, loginItemSetUp, sealedKeys, sealedVersion } w' ∧
      ∀ u, Continues crates w w' u →
        Unseals crates u sealedKeys (sealedMap (secretEntries keys profiles server)) := by
  unfold saveSealed at h
  split at h
  · cases h
  next blob v hseal =>
    split at h
    · cases h
    next path hpath =>
      unfold writeJson at h
      split at h <;> cases h
      next bytes hbytes hwrite =>
        refine ⟨blob, ⟨path, bytes, hpath, by simp, hbytes⟩, fun u hu => ?_⟩
        exact unseals_of_sealStore hseal (by exact ⟨rfl, rfl⟩) hu

/-- A document on disk loads with the secrets of its blob. -/
theorem loadSealed_of_onDisk {doc : StoreRef} {map : Table String}
    (hdisk : OnDisk crates mock doc w) (hunseals : Unseals crates w doc.sealedKeys map)
    (hversion : doc.sealedVersion = sealedVersion) (hopen : platform.openEntry = .ok ()) :
    ∃ secrets, (∀ id, secrets.lookup id = map.lookup id) ∧
      (loadSealed crates platform mock w).1 =
        .ok ({ doc.persisted with keys := dropInvalidKeys doc.persisted.keys }.fill secrets) := by
  obtain ⟨path, bytes, hpath, hfile, hbytes⟩ := hdisk.exists_path
  obtain ⟨store, hread, rfl⟩ := crates.storeJson.fromSlice_toVec _ _ hbytes
  obtain ⟨secrets, w', hunseal, hlookup⟩ := hunseals platform
    { doc.persisted with keys := dropInvalidKeys doc.persisted.keys } hopen rfl hversion
  refine ⟨secrets, hlookup, ?_⟩
  simp [loadSealed, hpath, readJson, hfile, hread, hunseal]

theorem loadSealed_after_saveSealed
    (h : saveSealed crates platform mock keys profiles server loginItemSetUp w = (.ok (), w'))
    (hu : Continues crates w w' u) (hopen : platform'.openEntry = .ok ()) :
    ∃ (doc : StoreRef) (secrets : Table String),
      (doc.keys = keys ∧ doc.profiles = profiles ∧ doc.server = server ∧
        doc.loginItemSetUp = loginItemSetUp) ∧
      (∀ id, secrets.lookup id = (sealedMap (secretEntries keys profiles server)).lookup id) ∧
      (loadSealed crates platform' mock u).1 =
        .ok ({ doc.persisted with keys := dropInvalidKeys doc.persisted.keys }.fill secrets) := by
  obtain ⟨blob, hdisk, hunseals⟩ := onDisk_of_saveSealed h
  have hdisk' : OnDisk crates mock
      { keys, profiles, server, loginItemSetUp, sealedKeys := blob, sealedVersion } u := by
    obtain rfl | ⟨-, rfl⟩ := hu
    · exact hdisk
    · exact ⟨hdisk.exists_path⟩
  obtain ⟨secrets, hlookup, hload⟩ := loadSealed_of_onDisk hdisk' (hunseals u hu) rfl hopen
  exact ⟨_, secrets, ⟨rfl, rfl, rfl, rfl⟩, hlookup, hload⟩

theorem dropInvalidKeys_map_persisted (keys : List AuthKey) :
    dropInvalidKeys (keys.map AuthKey.persisted) = (dropInvalidKeys keys).map AuthKey.persisted :=
  sieve_map (g := AuthKey.persisted) (fun _ _ => rfl) _ _

def forwardsOff (p : Profile) : Profile :=
  { p with forwards := p.forwards.map PortForward.persisted }

theorem dropInvalid_map_forwardsOff (profiles : List Profile) :
    dropInvalid (profiles.map forwardsOff) = (dropInvalid profiles).map forwardsOff :=
  sieve_map (g := forwardsOff) (fun _ _ => rfl) _ _

/-! ## The round trip -/

structure Loadable (crates : StoreCrates) (keys : List AuthKey) (profiles : List Profile)
    (server : Option ServerConfig) : Prop where
  keys_eq : dropInvalidKeys keys = keys
  profiles_eq : dropInvalid profiles = profiles
  clients_eq : ∀ s ∈ server,
    dropInvalidClients crates.parsePublicKey s.authorizedClients = s.authorizedClients
  profile_token : ∀ p ∈ profiles, p.relayAuthToken ≠ some ""
  server_token : ∀ s ∈ server, s.relayAuthToken ≠ some ""

theorem ite_getD_eq_self {token : Option String} (h : token ≠ some "") :
    (if token.getD "" = "" then none else some (token.getD "")) = token := by
  cases token with
  | none => rfl
  | some t =>
    have ht : t ≠ "" := fun ht => h (by rw [ht])
    simp [ht]

theorem getD_ite_eq_self (secret : String) :
    (if secret = "" then none else some secret).getD "" = secret := by
  by_cases h : secret = "" <;> simp [h]

/-- The secrets go back into the records they came from. -/
theorem fill_persisted (hl : Loadable crates keys profiles server) {secrets : Table String}
    (hlookup : ∀ id, secrets.lookup id = (sealedMap (secretEntries keys profiles server)).lookup id)
    {doc : StoreRef} (hdoc : doc.keys = keys ∧ doc.profiles = profiles ∧ doc.server = server) :
    { doc.persisted with keys := dropInvalidKeys doc.persisted.keys }.fill secrets =
      { doc.persisted with keys := keys, profiles := profiles.map forwardsOff
                           server := server } := by
  obtain ⟨rfl, rfl, rfl⟩ := hdoc
  have hentry : ∀ id secret, (id, secret) ∈ secretEntries doc.keys doc.profiles doc.server →
      secrets.lookup id = if secret = "" then none else some secret := fun id secret hmem =>
    (hlookup id).trans (lookup_sealedMap (nodup_secretIds hl.keys_eq hl.profiles_eq) hmem)
  have hkey : ∀ k ∈ doc.keys, (secrets.lookup k.id).getD "" = k.secret := by
    intro k hk
    rw [hentry k.id k.secret (by simp only [secretEntries, List.mem_append]; grind)]
    exact getD_ite_eq_self _
  have hprofile : ∀ p ∈ doc.profiles,
      secrets.lookup (profileRelaySecretId p.id) = p.relayAuthToken := by
    intro p hp
    rw [hentry _ (p.relayAuthToken.getD "") (by
      simp only [secretEntries, List.mem_append]; grind)]
    exact ite_getD_eq_self (hl.profile_token p hp)
  simp only [Store.fill, StoreRef.persisted, Store.mk.injEq, and_true]
  refine ⟨?_, ?_, ?_⟩
  · rw [dropInvalidKeys_map_persisted, hl.keys_eq, List.map_map]
    refine (List.map_congr_left (g := id) fun k hk => ?_).trans (List.map_id _)
    simp [AuthKey.persisted, hkey k hk]
  · rw [List.map_map]
    apply List.map_congr_left
    intro p hp
    simp [Profile.persisted, forwardsOff, hprofile p hp]
  cases hserver : doc.server with
  | none => rfl
  | some s =>
    have hsecret : (secrets.lookup serverSecretId).getD "" = s.secret := by
      rw [hentry _ s.secret (by simp [secretEntries, hserver])]
      exact getD_ite_eq_self _
    have htoken : secrets.lookup serverRelaySecretId = s.relayAuthToken := by
      rw [hentry _ (s.relayAuthToken.getD "") (by simp [secretEntries, hserver])]
      exact ite_getD_eq_self (hl.server_token s hserver)
    simp [ServerConfig.persisted, hsecret, htoken]

/-- The load-time filters leave a loadable store alone. -/
theorem screened_eq (hl : Loadable crates keys profiles server) {store : Store}
    (hprofiles : store.profiles = profiles.map forwardsOff) (hserver : store.server = server) :
    store.screened crates = store := by
  have hp : dropInvalid store.profiles = store.profiles := by
    rw [hprofiles, dropInvalid_map_forwardsOff, hl.profiles_eq]
  have hs : (store.server.map fun s => { s with
      authorizedClients := dropInvalidClients crates.parsePublicKey s.authorizedClients }) =
        store.server := by
    cases h : store.server with
    | none => rfl
    | some s => simp [hl.clients_eq s (hserver.symm.trans h)]
  simp only [Store.screened, hp, hs]

/-- What a load shows of the store; the blob and its version stay private to it. -/
def visible (store : Store) : Store := { store with sealedKeys := "", sealedVersion := 0 }

theorem loadSealed_of_saveSealed (hl : Loadable crates keys profiles server)
    (h : saveSealed crates platform mock keys profiles server loginItemSetUp w = (.ok (), w'))
    (hu : Continues crates w w' u) (hopen : platform'.openEntry = .ok ()) :
    ∃ store, ((loadSealed crates platform' mock u).1.map (Store.screened crates)) = .ok store ∧
      visible store = { keys, profiles := profiles.map forwardsOff, server, loginItemSetUp } := by
  obtain ⟨doc, secrets, ⟨hk, hp, hs, rfl⟩, hlookup, hload⟩ :=
    loadSealed_after_saveSealed h hu hopen
  rw [hload, fill_persisted hl hlookup ⟨hk, hp, hs⟩]
  exact ⟨_, rfl, by rw [screened_eq hl rfl rfl]; rfl⟩

theorem loadDevFile_after_saveDevFile
    (h : saveDevFile crates platform path keys profiles server loginItemSetUp w = (.ok (), w'))
    (hu : Continues crates w w' u) :
    loadDevFile crates path u =
      .ok { keys, profiles := profiles.map forwardsOff, server, loginItemSetUp } := by
  unfold saveDevFile writeJson at h
  split at h <;> cases h
  next bytes hbytes hwrite =>
    obtain ⟨doc, hread, rfl⟩ := crates.devJson.fromSlice_toVec _ _ hbytes
    have hfile : u.files path = .present bytes := by
      obtain rfl | ⟨-, rfl⟩ := hu <;> simp [relaunched]
    simp only [loadDevFile, readJson, hfile, hread, DevFile.persisted, bind, Except.bind,
      pure, Except.pure, Option.getD_some, List.map_map]
    congr 2
    · exact List.map_id _
    · cases server <;> rfl

theorem loadDevFile_of_saveDevFile (hl : Loadable crates keys profiles server)
    (h : saveDevFile crates platform path keys profiles server loginItemSetUp w = (.ok (), w'))
    (hu : Continues crates w w' u) :
    ∃ store, ((loadDevFile crates path u).map fun store =>
        Store.screened crates { store with keys := dropInvalidKeys store.keys }) = .ok store ∧
      visible store = { keys, profiles := profiles.map forwardsOff, server, loginItemSetUp } := by
  refine ⟨_, by rw [loadDevFile_after_saveDevFile h hu]; rfl, ?_⟩
  dsimp only
  rw [hl.keys_eq, screened_eq hl rfl rfl]
  rfl

/-- Every backend loads what it saved. -/
theorem load_of_save (hl : Loadable crates keys profiles server) {b : Backend}
    (h : saveStore crates platform (some b) keys profiles server loginItemSetUp w = (.ok (), w'))
    (hu : Continues crates w w' u) (hopen : platform'.openEntry = .ok ()) :
    ∃ store, (loadStore crates platform' (some b) u).1 = .ok store ∧
      visible store = { keys, profiles := profiles.map forwardsOff, server, loginItemSetUp } := by
  cases b with
  | devFile path =>
    obtain ⟨store, hload, hstore⟩ := loadDevFile_of_saveDevFile hl h hu
    refine ⟨store, ?_, hstore⟩
    rw [← hload]
    cases hd : loadDevFile crates path u <;> simp [loadStore, loadBackend, hd, Except.map]
  | keychain | mockKeychain => exact loadSealed_of_saveSealed hl h hu hopen

/-! ## When a save succeeds -/

/-- Nothing outside the program gets in the way of a save: the keychain opens and its entry
is a master key or can be made, the directory exists and the write goes through, and the
crates serialize and encrypt. -/
structure SaveWorks (crates : StoreCrates) (platform : Platform) (w : World) : Prop where
  openEntry : platform.openEntry = .ok ()
  setPassword : platform.setPassword = .ok ()
  write : platform.write = .ok ()
  dataLocalDir : w.dataLocalDir.isSome
  entry : w.entry = .absent ∨
    ∃ text, ∃ key : MasterKey, w.entry = .password text ∧ crates.decode text = .ok key.1
  encrypts : ∀ key plain, (crates.encrypt key platform.nonce plain).isSome
  storeJson : ∀ doc, ∃ bytes, crates.storeJson.toVec doc = .ok bytes
  devJson : ∀ doc, ∃ bytes, crates.devJson.toVec doc = .ok bytes
  secretsJson : ∀ map, ∃ bytes, crates.secretsJson.toVec map = .ok bytes

theorem SaveWorks.safeStorageKey (h : SaveWorks crates platform w) :
    ∃ key w', safeStorageKey crates platform w = (.ok key, w') ∧
      w'.dataLocalDir = w.dataLocalDir := by
  unfold Model.safeStorageKey
  cases hcache : w.cache with
  | some key => exact ⟨key, w, rfl, rfl⟩
  | none =>
    obtain hentry | ⟨text, key, hentry, hdecode⟩ := h.entry
    · refine ⟨platform.freshKey,
        { w with entry := .password (crates.encode platform.freshKey.1)
                 cache := some platform.freshKey }, ?_, rfl⟩
      simp only [h.openEntry, hentry, h.setPassword]
    · have hlen : key.1.length = 32 := key.2
      refine ⟨key, { w with cache := some key }, ?_, rfl⟩
      simp only [h.openEntry, hentry, hdecode, hlen, dite_true]

theorem SaveWorks.sealStore (h : SaveWorks crates platform w) :
    ∃ blob w', sealStore crates platform keys profiles server w = (.ok blob, w') ∧
      w'.dataLocalDir = w.dataLocalDir := by
  simp only [Model.sealStore]
  split
  · exact ⟨"", w, rfl, rfl⟩
  obtain ⟨key, w', hkey, hdir⟩ := h.safeStorageKey
  have hseal : ∃ blob,
      sealSecrets crates platform key (secretEntries keys profiles server) = .ok blob := by
    simp only [sealSecrets]
    split
    · exact ⟨"", rfl⟩
    obtain ⟨plain, hplain⟩ := h.secretsJson
      (Table.collect ((secretEntries keys profiles server).filter fun e => e.2 ≠ ""))
    obtain ⟨ciphertext, hct⟩ := Option.isSome_iff_exists.1 (h.encrypts key plain)
    exact ⟨crates.encode (platform.nonce.1 ++ ciphertext), by
      simp only [hplain, hct, bind, Except.bind]; rfl⟩
  obtain ⟨blob, hblob⟩ := hseal
  exact ⟨blob, w', by simp only [hkey, hblob], hdir⟩

theorem SaveWorks.writeJson (h : SaveWorks crates platform w) {α : Type}
    {toVec : α → Except String (List UInt8)} {value : α} (hvec : ∃ bytes, toVec value = .ok bytes)
    (v : World) : (writeJson toVec platform path value v).1 = .ok () := by
  obtain ⟨bytes, hbytes⟩ := hvec
  simp [Model.writeJson, hbytes, h.write]

/-- A save that nothing gets in the way of succeeds. -/
theorem SaveWorks.saveStore (h : SaveWorks crates platform w) (b : Backend) :
    (saveStore crates platform (some b) keys profiles server loginItemSetUp w).1 = .ok () := by
  have hsealed : ∀ mock,
      (saveSealed crates platform mock keys profiles server loginItemSetUp w).1 = .ok () := by
    intro mock
    obtain ⟨blob, w', hseal, hdir⟩ :
        ∃ blob w', Model.sealStore crates platform keys profiles server w = (.ok blob, w') ∧ _ :=
      h.sealStore
    obtain ⟨dir, hdir'⟩ := Option.isSome_iff_exists.1 h.dataLocalDir
    simp only [saveSealed, hseal, sealedPath, hdir, hdir']
    exact h.writeJson (h.storeJson _) w'
  cases b with
  | devFile path => exact h.writeJson (h.devJson _) w
  | keychain => exact hsealed false
  | mockKeychain => exact hsealed true

/-! ## The theorem -/

/-- **A saved store loads as it was saved.** For every store the load-time filters leave alone and
that holds no empty relay token: no two entries of the sealed map share an id; a save that nothing
outside gets in the way of succeeds; and after one that succeeded, a load, in this process or a
later one, returns the same records, secrets included, every forward switched off, with any backend.
-/
theorem store_round_trip (crates : StoreCrates) (keys : List AuthKey) (profiles : List Profile)
    (server : Option ServerConfig) (loginItemSetUp : Bool)
    (hkeys : dropInvalidKeys keys = keys) (hprofiles : dropInvalid profiles = profiles)
    (hclients : ∀ s ∈ server,
      dropInvalidClients crates.parsePublicKey s.authorizedClients = s.authorizedClients)
    (hprofileTokens : ∀ p ∈ profiles, p.relayAuthToken ≠ some "")
    (hserverToken : ∀ s ∈ server, s.relayAuthToken ≠ some "") :
    ((secretEntries keys profiles server).map Prod.fst).Nodup ∧
      ∀ (b : Backend) (platform platform' : Platform) (w w' u : World),
        (SaveWorks crates platform w →
          (saveStore crates platform (some b) keys profiles server loginItemSetUp w).1 = .ok ()) ∧
        (saveStore crates platform (some b) keys profiles server loginItemSetUp w = (.ok (), w') →
          Continues crates w w' u → platform'.openEntry = .ok () →
          (loadStore crates platform' (some b) u).1.map visible =
            .ok { keys, profiles := profiles.map forwardsOff, server, loginItemSetUp
                  unsealFailed := false, sealedResetFrom := none }) := by
  have hl : Loadable crates keys profiles server :=
    ⟨hkeys, hprofiles, hclients, hprofileTokens, hserverToken⟩
  refine ⟨nodup_secretIds hkeys hprofiles, fun b platform platform' w w' u => ⟨?_, ?_⟩⟩
  · intro hworks
    exact hworks.saveStore b
  · intro hsave hu hopen
    obtain ⟨store, hload, hstore⟩ := load_of_save hl hsave hu hopen
    rw [hload, Except.map, hstore]

/-! ## Crates that meet their laws -/

instance countableChar : Countable Char := ⟨Char.toNat, fun _ _ h => Char.toNat_inj.1 h⟩

instance countableString : Countable String :=
  Function.Injective.countable (f := String.toList) fun _ _ h => String.toList_inj.1 h

instance countableUInt16 : Countable UInt16 := ⟨UInt16.toNat, fun _ _ h => UInt16.toNat_inj.1 h⟩

instance countableTable : Countable (Table String) :=
  Function.Injective.countable (f := AList.entries) fun _ _ h => AList.ext h

deriving instance Countable for
  PortForward, AuthKey, Profile, AuthorizedClient, ServerConfig, StoreRef, StoredKey,
  StoredProfile, StoredServer, DevFile, PortableForward, PortableProfile

/-- A format for any countable type of documents: the document numbered `n` is `n` zeros. -/
noncomputable def countableFormat {α β : Type} [Countable α] (kept : α → β) :
    JsonFormat α β fun a b => b = kept a :=
  let number := (Countable.exists_injective_nat α).choose
  have hnumber : number.Injective := (Countable.exists_injective_nat α).choose_spec
  { toVec := fun a => .ok (List.replicate (number a) 0)
    fromSlice := fun doc =>
      open Classical in
      if h : ∃ a, number a = doc.length then .ok (kept h.choose) else .error "no such document"
    fromSlice_toVec := by
      intro a doc hdoc
      cases hdoc
      have hex : ∃ b, number b = (List.replicate (number a) (0 : UInt8)).length := ⟨a, by simp⟩
      have ha : hex.choose = a := hnumber (hex.choose_spec.trans List.length_replicate)
      exact ⟨kept hex.choose, by rw [dif_pos hex], by rw [ha]⟩ }

def latin1 (bytes : List UInt8) : String :=
  String.ofList (bytes.map fun b => Char.ofNat b.toNat)

theorem latin1_inverse (bytes : List UInt8) :
    (latin1 bytes).toList.map (fun c => UInt8.ofNat c.toNat) = bytes := by
  rw [latin1, String.toList_ofList, List.map_map]
  refine (List.map_congr_left (g := id) fun b _ => ?_).trans (List.map_id _)
  have hb : b.toNat < 256 := b.toNat_lt
  have htoNat : (Char.ofNat b.toNat).toNat = b.toNat := by
    unfold Char.ofNat
    rw [dif_pos (show b.toNat.isValidChar from .inl (by omega))]
    unfold Char.ofNatAux Char.toNat
    simp
  simp [htoNat]

/-- Crates that meet their laws: the cipher leaves the text as it is, and a public key is
its own token. -/
noncomputable def plainCrates : StoreCrates where
  encrypt _ _ plain := some plain
  decrypt _ _ sealed := some sealed
  decrypt_encrypt _ _ _ _ h := h.symm
  encode := latin1
  decode s := .ok (s.toList.map fun c => UInt8.ofNat c.toNat)
  decode_encode bytes := congrArg Except.ok (latin1_inverse bytes)
  encode_ne_empty bytes hne h := by
    have := latin1_inverse bytes
    rw [h] at this
    exact hne this.symm
  storeJson := countableFormat StoreRef.persisted
  devJson := countableFormat DevFile.persisted
  secretsJson :=
    { countableFormat id with
      fromSlice_toVec := by
        intro map doc h
        obtain ⟨read, hread, rfl⟩ := (countableFormat id).fromSlice_toVec map doc h
        exact ⟨_, hread, fun _ => rfl⟩ }
  profilesJson := countableFormat id
  parsePublicKey := .ok

def workingPlatform : Platform where
  freshKey := ⟨List.replicate 32 0, rfl⟩
  nonce := ⟨List.replicate 12 0, rfl⟩

theorem saveWorks_plainCrates : SaveWorks plainCrates workingPlatform {} where
  openEntry := rfl
  setPassword := rfl
  write := rfl
  dataLocalDir := rfl
  entry := .inl rfl
  encrypts _ _ := rfl
  storeJson _ := ⟨_, rfl⟩
  devJson _ := ⟨_, rfl⟩
  secretsJson _ := ⟨_, rfl⟩

def sampleKey : AuthKey :=
  { id := "00000000deadbeef", name := "work laptop", publicKey := "pub", secret := "sec" }

def sampleProfile : Profile :=
  { id := "0", name := "prod", serverNodeId := "node", authKeyId := "00000000deadbeef"
    socksPort := some 1085, httpPort := none, relayUrls := ["https://relay.example"]
    relayAuthToken := some "psk"
    forwards := [{ id := "f", label := "db", localPort := 5432, remoteHost := "db.internal"
                   remotePort := 5432, enabled := true }] }

def sampleServer : ServerConfig :=
  { endpointId := "endpoint", secret := "identity"
    authorizedClients := [{ name := "work laptop", publicKey := "pub" }]
    routedDomains := [], routedCidrs := [], relayUrls := ["https://relay.example"]
    relayAuthToken := some "psk", enabled := true }

/-- A store with a secret of each kind, saved to the keychain backend of an empty world and
loaded by the next process. -/
theorem store_round_trip_instance :
    ∃ w', saveStore plainCrates workingPlatform (some .keychain) [sampleKey] [sampleProfile]
        (some sampleServer) true {} = (.ok (), w') ∧
      (loadStore plainCrates workingPlatform (some .keychain) (relaunched w')).1.map visible =
        .ok { keys := [sampleKey], profiles := [forwardsOff sampleProfile]
              server := some sampleServer, loginItemSetUp := true } := by
  obtain ⟨-, h⟩ := store_round_trip plainCrates [sampleKey] [sampleProfile] (some sampleServer)
    true (by decide) (by decide) (by rintro s ⟨⟩; decide) (by decide) (by rintro s ⟨⟩; decide)
  have hsave := (h .keychain workingPlatform workingPlatform {} {} {}).1 saveWorks_plainCrates
  refine ⟨_, Prod.ext hsave rfl, ?_⟩
  exact (h .keychain workingPlatform workingPlatform {} _ _).2 (Prod.ext hsave rfl)
    (.inr ⟨by rintro key ⟨⟩, rfl⟩) rfl

end Flextunnel.Analysis
