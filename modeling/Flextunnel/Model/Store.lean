import Flextunnel.Lib.Sieve
import Flextunnel.Model.Blocklist
import Flextunnel.Model.Forwards
import Flextunnel.Model.ServerSession

/-!
# The desktop app's store

What the app keeps across launches: the auth keys, the profiles that refer to them, the
server, and whether the login item was set up. One JSON document holds everything but the
secrets. These leave the records on a save, travel in one id → secret map that is sealed
under a master key of the platform keychain, and are put back by id on a load; the
development backend writes them inline instead.

The file system, the keychain entry and the cached master key are the `World` the two
operations work on. A failed save can still have made and cached a master key, so they
return the world next to their result. What the platform answers in one operation (whether
the keychain opens, whether a write goes through, which random bytes are drawn) is a
`Platform`.

`serde_json`, `base64` and AES-GCM are `StoreCrates`, with the one fact about each that a
round trip rests on. A `#[serde(skip)]` field is neither written nor read: `persisted`
says what is left of a value.

Unnamed source lines are of `desktop/config.rs`.
-/

set_option autoImplicit false

namespace Flextunnel.Model

open Lib

/-! ## What is stored -/

/-- SOURCE: 95-108 -/
structure AuthKey where
  id : String
  name : String
  publicKey : String
  secret : String
deriving DecidableEq, Repr

/-- SOURCE: 106-107 -/
def AuthKey.persisted (k : AuthKey) : AuthKey := { k with secret := "" }

/-- SOURCE: 117-119 -/
def findKey (keys : List AuthKey) (id : String) : Option AuthKey :=
  keys.find? fun k => k.id == id

/-- The text of a random 64-bit number.
SOURCE: 121-123 -/
def randomId (n : UInt64) : String := Text.hex16 n

/-- SOURCE: 129-136 -/
def isValidName (name : String) : Bool :=
  let cs := name.toList
  !cs.isEmpty && cs.length ≤ 64 && cs.head? != some ' ' && cs.getLast? != some ' ' &&
    !Text.containsText "  " name && !cs.any fun c => Text.isWhitespace c && c != ' '

/-- SOURCE: 142-167 -/
structure Profile where
  id : String
  name : String
  serverNodeId : String
  authKeyId : String
  socksPort : Option UInt16
  httpPort : Option UInt16
  relayUrls : List String
  relayAuthToken : Option String
  forwards : List PortForward
deriving DecidableEq, Repr

/-- SOURCE: 163-166 -/
def Profile.persisted (p : Profile) : Profile :=
  { p with relayAuthToken := none, forwards := p.forwards.map PortForward.persisted }

/-- SOURCE: 224-225, 241-242 -/
def ServerConfig.persisted (s : ServerConfig) : ServerConfig :=
  { s with secret := "", relayAuthToken := none }

/-- Why the server cannot start.
SOURCE: 254-265 -/
def ServerConfig.startBlocker (s : ServerConfig) : Option String :=
  if s.secret = "" then
    some ("The identity key is missing from the keychain — import it, or generate a new " ++
      "identity, under Endpoint ID.")
  else if s.authorizedClients = [] then
    some "Authorize at least one client to start the server."
  else none

/-- SOURCE: 267-269 -/
def ServerConfig.isReady (s : ServerConfig) : Bool := s.startBlocker.isNone

/-! ## The ids of the sealed map -/

/-- SOURCE: 186 -/
def serverSecretId : String := "server"

/-- SOURCE: 188 -/
def serverRelaySecretId : String := "server-relay"

/-- SOURCE: 193-195 -/
def profileRelaySecretId (profileId : String) : String := "relay:" ++ profileId

/-- SOURCE: 198-200 -/
def isReservedSecretId (id : String) : Bool :=
  id == serverSecretId || id == serverRelaySecretId || (Text.stripPrefix "relay:" id).isSome

/-- The pairs sealed on a save. A relay token that is not set counts as the empty text.
SOURCE: 554-573 -/
def secretEntries (keys : List AuthKey) (profiles : List Profile) (server : Option ServerConfig) :
    List (String × String) :=
  keys.map (fun k => (k.id, k.secret)) ++
    profiles.map (fun p => (profileRelaySecretId p.id, p.relayAuthToken.getD "")) ++
    server.toList.flatMap fun s =>
      [(serverSecretId, s.secret), (serverRelaySecretId, s.relayAuthToken.getD "")]

/-! ## The load-time filters -/

structure SeenKeys where
  ids : List String := []
  names : List String := []
  publics : List String := []

/-- The predicate of the key filter: an id and a name count as seen even when a later check
refuses the key.
SOURCE: 628-664 -/
def SeenKeys.check (seen : SeenKeys) (k : AuthKey) : SeenKeys × Bool :=
  if k.id = "" then (seen, false)
  else if k.id ∈ seen.ids then (seen, false)
  else
    let seen := { seen with ids := k.id :: seen.ids }
    if isReservedSecretId k.id then (seen, false)
    else if !isValidName k.name then (seen, false)
    else if k.name ∈ seen.names then (seen, false)
    else
      let seen := { seen with names := k.name :: seen.names }
      if k.publicKey ∈ seen.publics then (seen, false)
      else ({ seen with publics := k.publicKey :: seen.publics }, true)

/-- SOURCE: 623-666 -/
def dropInvalidKeys (keys : List AuthKey) : List AuthKey := sieve SeenKeys.check {} keys

structure SeenProfiles where
  ids : List String := []
  names : List String := []
  servers : List String := []

/-- The predicate of the profile filter.
SOURCE: 680-706 -/
def SeenProfiles.check (seen : SeenProfiles) (p : Profile) : SeenProfiles × Bool :=
  if p.id ∈ seen.ids then (seen, false)
  else
    let seen := { seen with ids := p.id :: seen.ids }
    if !isValidName p.name then (seen, false)
    else if p.name ∈ seen.names then (seen, false)
    else
      let seen := { seen with names := p.name :: seen.names }
      if p.serverNodeId ∈ seen.servers then (seen, false)
      else ({ seen with servers := p.serverNodeId :: seen.servers }, true)

/-- SOURCE: 674-708 -/
def dropInvalid (profiles : List Profile) : List Profile := sieve SeenProfiles.check {} profiles

/-- The canonical token of a client's public key; `parseKey` is the key crate's parser
followed by its `to_token`.
SOURCE: 274-280 -/
def parseClientPublicKey (parseKey : String → Except String String) (value : String) :
    Except String String :=
  (parseKey (Text.trim value)).mapError ("Invalid public key: " ++ ·)

structure SeenClients where
  names : List String := []
  publics : List String := []

/-- The predicate of the client filter: only a client that passes is recorded.
SOURCE: 292-320 -/
def SeenClients.check (parseKey : String → Except String String) (seen : SeenClients)
    (c : AuthorizedClient) : SeenClients × Bool :=
  if !isValidName c.name then (seen, false)
  else if (parseClientPublicKey parseKey c.publicKey).toOption ≠ some c.publicKey then
    (seen, false)
  else if c.name ∈ seen.names then (seen, false)
  else if c.publicKey ∈ seen.publics then (seen, false)
  else ({ names := c.name :: seen.names, publics := c.publicKey :: seen.publics }, true)

/-- SOURCE: 287-322 -/
def dropInvalidClients (parseKey : String → Except String String)
    (clients : List AuthorizedClient) : List AuthorizedClient :=
  sieve (SeenClients.check parseKey) {} clients

/-! ## The documents -/

/-- A loaded store.
SOURCE: 328-362 -/
structure Store where
  keys : List AuthKey := []
  profiles : List Profile := []
  server : Option ServerConfig := none
  loginItemSetUp : Bool := false
  unsealFailed : Bool := false
  sealedResetFrom : Option Nat := none
  sealedKeys : String := ""
  sealedVersion : Nat := 0
deriving DecidableEq

/-- What a save writes.
SOURCE: 366-374 -/
structure StoreRef where
  keys : List AuthKey
  profiles : List Profile
  server : Option ServerConfig
  loginItemSetUp : Bool
  sealedKeys : String
  sealedVersion : Nat
deriving DecidableEq

def StoreRef.persisted (doc : StoreRef) : Store where
  keys := doc.keys.map AuthKey.persisted
  profiles := doc.profiles.map Profile.persisted
  server := doc.server.map ServerConfig.persisted
  loginItemSetUp := doc.loginItemSetUp
  sealedKeys := doc.sealedKeys
  sealedVersion := doc.sealedVersion

/-- SOURCE: 379-384 -/
structure StoredKey where
  secret : String
  key : AuthKey
deriving DecidableEq

/-- SOURCE: 388-393 -/
structure StoredProfile where
  relayAuthToken : Option String
  profile : Profile
deriving DecidableEq

/-- SOURCE: 398-405 -/
structure StoredServer where
  secret : String
  relayAuthToken : Option String
  server : ServerConfig
deriving DecidableEq

/-- SOURCE: 409-418 -/
structure DevFile where
  keys : List StoredKey := []
  profiles : List StoredProfile := []
  server : Option StoredServer := none
  loginItemSetUp : Bool := false
deriving DecidableEq

def DevFile.persisted (doc : DevFile) : DevFile where
  keys := doc.keys.map fun s => { s with key := s.key.persisted }
  profiles := doc.profiles.map fun s => { s with profile := s.profile.persisted }
  server := doc.server.map fun s => { s with server := s.server.persisted }
  loginItemSetUp := doc.loginItemSetUp

structure PortableForward where
  id : Option String
  label : String
  localPort : UInt16
  remoteHost : String
  remotePort : UInt16
deriving DecidableEq

/-- A profile of an export file: no key reference, no relay token, and an id in a
hand-written file only.
SOURCE: 844-856 -/
structure PortableProfile where
  id : Option String
  name : String
  serverNodeId : String
  socksPort : Option UInt16
  httpPort : Option UInt16
  relayUrls : List String
  forwards : List PortableForward
deriving DecidableEq

/-! ## Other crates and the platform -/

abbrev MasterKey := { bytes : List UInt8 // bytes.length = 32 }

abbrev SealNonce := { bytes : List UInt8 // bytes.length = 12 }

/-- `serde_json` on one type of document: what was written is read back, up to `Kept`. -/
structure JsonFormat (α β : Type) (Kept : α → β → Prop) where
  toVec : α → Except String (List UInt8)
  fromSlice : List UInt8 → Except String β
  fromSlice_toVec : ∀ a doc, toVec a = .ok doc → ∃ b, fromSlice doc = .ok b ∧ Kept a b

structure StoreCrates where
  /-- AES-256-GCM. -/
  encrypt : MasterKey → SealNonce → List UInt8 → Option (List UInt8)
  decrypt : MasterKey → SealNonce → List UInt8 → Option (List UInt8)
  decrypt_encrypt : ∀ key nonce plain sealed, encrypt key nonce plain = some sealed →
    decrypt key nonce sealed = some plain
  /-- Base64. -/
  encode : List UInt8 → String
  decode : String → Except String (List UInt8)
  decode_encode : ∀ bytes, decode (encode bytes) = .ok bytes
  encode_ne_empty : ∀ bytes, bytes ≠ [] → encode bytes ≠ ""
  storeJson : JsonFormat StoreRef Store fun doc store => store = doc.persisted
  devJson : JsonFormat DevFile DevFile fun doc read => read = doc.persisted
  /-- The id → secret map; the map read back iterates in an order of its own. -/
  secretsJson : JsonFormat (Table String) (Table String) fun map read =>
    ∀ id, read.lookup id = map.lookup id
  profilesJson : JsonFormat (List PortableProfile) (List PortableProfile) fun doc read =>
    read = doc
  /-- `flexaccess_keys::PublicKey`'s parser, followed by `to_token`. -/
  parsePublicKey : String → Except String String

inductive KeychainEntry where
  | absent
  | password (text : String)
  | unreadable (error : String)
deriving DecidableEq

/-- What outlives a call: the files, the keychain entry, and the master key cached for the
life of the process. -/
structure World where
  files : String → Disk (List UInt8) := fun _ => .missing
  entry : KeychainEntry := .absent
  cache : Option MasterKey := none
  dataLocalDir : Option String := some "data"

structure Platform where
  openEntry : Except String Unit := .ok ()
  setPassword : Except String Unit := .ok ()
  /-- What replacing the file by a sibling returns, with its context. -/
  write : Except String Unit := .ok ()
  freshKey : MasterKey
  nonce : SealNonce

/-- SOURCE: 80-89 -/
inductive Backend where
  | keychain
  | mockKeychain
  | devFile (path : String)
deriving DecidableEq

/-- SOURCE: 449-454 -/
def sealedPath (w : World) (mock : Bool) : Except String String :=
  match w.dataLocalDir with
  | some dir =>
    .ok (dir ++ "/flextunnel/" ++ if mock then "mock-profiles.json" else "profiles.json")
  | none => .error "no local data directory to store profiles in"

/-! ## Files -/

/-- SOURCE: 963-972 -/
def readJson {β : Type} (fromSlice : List UInt8 → Except String β) (w : World) (path : String) :
    Except String (Option β) :=
  match w.files path with
  | .missing => .ok none
  | .unreadable e => .error s!"Failed to read {path}: {e}"
  | .present raw =>
    match fromSlice raw with
    | .ok value => .ok (some value)
    | .error e => .error s!"Failed to parse {path}: {e}"

/-- The file is replaced by a rename, so a failed write leaves the old contents.
SOURCE: 975-987 -/
def writeJson {α : Type} (toVec : α → Except String (List UInt8)) (platform : Platform)
    (path : String) (value : α) (w : World) : Except String Unit × World :=
  match toVec value, platform.write with
  | .ok bytes, .ok () => (.ok (), { w with files := Function.update w.files path (.present bytes) })
  | .error e, _ => (.error e, w)
  | .ok _, .error e => (.error e, w)

/-! ## Sealing -/

section

variable (crates : StoreCrates) (platform : Platform)

/-- SOURCE: 521-548 -/
def safeStorageKey (w : World) : Except String MasterKey × World :=
  match w.cache with
  | some key => (.ok key, w)
  | none =>
    match platform.openEntry with
    | .error e => (.error s!"Failed to open the Safe Storage keychain entry: {e}", w)
    | .ok () =>
      match w.entry with
      | .password text =>
        match crates.decode text with
        | .ok bytes =>
          if h : bytes.length = 32 then (.ok ⟨bytes, h⟩, { w with cache := some ⟨bytes, h⟩ })
          else (.error "The Flextunnel Safe Storage entry is not a base64 32-byte key", w)
        | .error _ =>
          (.error "The Flextunnel Safe Storage entry is not a base64 32-byte key", w)
      | .absent =>
        match platform.setPassword with
        | .ok () =>
          (.ok platform.freshKey,
            { w with entry := .password (crates.encode platform.freshKey.1)
                     cache := some platform.freshKey })
        | .error e => (.error s!"Failed to store the Safe Storage key in the keychain: {e}", w)
      | .unreadable e => (.error s!"Failed to read the Safe Storage key from the keychain: {e}", w)

/-- SOURCE: 580-595 -/
def sealSecrets (master : MasterKey) (entries : List (String × String)) : Except String String :=
  let map := Table.collect (entries.filter fun e => e.2 ≠ "")
  if map.entries.isEmpty then .ok ""
  else do
    let plain ← crates.secretsJson.toVec map
    match crates.encrypt master platform.nonce plain with
    | some ciphertext => return crates.encode (platform.nonce.1 ++ ciphertext)
    | none => .error "Failed to encrypt the secrets"

/-- SOURCE: 600-615 -/
def openSecrets (master : MasterKey) (blob : String) : Except String (Table String) := do
  let blob ← (crates.decode blob).mapError ("The sealed_keys blob is not base64: " ++ ·)
  if h : (blob.take 12).length = 12 then
    match crates.decrypt master ⟨blob.take 12, h⟩ (blob.drop 12) with
    | some plain =>
      (crates.secretsJson.fromSlice plain).mapError ("Failed to parse the unsealed secrets: " ++ ·)
    | none => .error "Failed to decrypt the sealed secrets"
  else .error "The sealed_keys blob is too short"

/-- SOURCE: 64 -/
def sealedVersion : Nat := 1

/-- The secrets of a loaded document, and the store with the flag that says why there are
none.
SOURCE: 715-739 -/
def unsealStore (store : Store) (w : World) : Except String (Table String × Store) × World :=
  if store.sealedKeys = "" then (.ok (∅, store), w)
  else if store.sealedVersion ≠ sealedVersion then
    (.ok (∅, { store with sealedResetFrom := some store.sealedVersion }), w)
  else
    match safeStorageKey crates platform w with
    | (.error e, w) => (.error e, w)
    | (.ok master, w) =>
      match openSecrets crates master store.sealedKeys with
      | .ok secrets => (.ok (secrets, store), w)
      | .error _ => (.ok (∅, { store with unsealFailed := true }), w)

/-! ## Load and save -/

/-- The records with their secrets put back.
SOURCE: 761-783 -/
def Store.fill (store : Store) (secrets : Table String) : Store :=
  { store with
    keys := store.keys.map fun k => { k with secret := (secrets.lookup k.id).getD k.secret }
    profiles := store.profiles.map fun p =>
      { p with relayAuthToken := secrets.lookup (profileRelaySecretId p.id) }
    server := store.server.map fun s =>
      { s with secret := (secrets.lookup serverSecretId).getD s.secret
               relayAuthToken := secrets.lookup serverRelaySecretId } }

/-- SOURCE: 757-784 -/
def loadSealed (mock : Bool) (w : World) : Except String Store × World :=
  match sealedPath w mock with
  | .error e => (.error e, w)
  | .ok path =>
    match readJson crates.storeJson.fromSlice w path with
    | .error e => (.error e, w)
    | .ok doc =>
      let store := doc.getD {}
      match unsealStore crates platform { store with keys := dropInvalidKeys store.keys } w with
      | (.error e, w) => (.error e, w)
      | (.ok (secrets, store), w) => (.ok (store.fill secrets), w)

/-- SOURCE: 899-929 -/
def loadDevFile (path : String) (w : World) : Except String Store := do
  let stored := (← readJson crates.devJson.fromSlice w path).getD {}
  return { keys := stored.keys.map fun s => { s.key with secret := s.secret }
           profiles := stored.profiles.map fun s =>
             { s.profile with relayAuthToken := s.relayAuthToken }
           server := stored.server.map fun s =>
             { s.server with secret := s.secret, relayAuthToken := s.relayAuthToken }
           loginItemSetUp := stored.loginItemSetUp }

/-- The filters every load ends with.
SOURCE: 787-791 -/
def Store.screened (store : Store) : Store :=
  { store with
    profiles := dropInvalid store.profiles
    server := store.server.map fun s =>
      { s with authorizedClients := dropInvalidClients crates.parsePublicKey s.authorizedClients } }

/-- What the backend holds, its keys filtered and its secrets put back.
SOURCE: 750-786 -/
def loadBackend (backend : Option Backend) (w : World) : Except String Store × World :=
  match backend with
  | none => (.error "No settings store: see the startup error in the log", w)
  | some (.devFile path) =>
    ((loadDevFile crates path w).map fun store =>
      { store with keys := dropInvalidKeys store.keys }, w)
  | some .keychain => loadSealed crates platform false w
  | some .mockKeychain => loadSealed crates platform true w

/-- SOURCE: 749-802 -/
def loadStore (backend : Option Backend) (w : World) : Except String Store × World :=
  let r := loadBackend crates platform backend w
  (r.1.map (Store.screened crates), r.2)

/-- SOURCE: 818-823 -/
def sealStore (keys : List AuthKey) (profiles : List Profile) (server : Option ServerConfig)
    (w : World) : Except String String × World :=
  let entries := secretEntries keys profiles server
  if entries.all fun e => e.2 = "" then (.ok "", w)
  else
    match safeStorageKey crates platform w with
    | (.error e, w) => (.error e, w)
    | (.ok master, w) => (sealSecrets crates platform master entries, w)

/-- SOURCE: 818-834 -/
def saveSealed (mock : Bool) (keys : List AuthKey) (profiles : List Profile)
    (server : Option ServerConfig) (loginItemSetUp : Bool) (w : World) :
    Except String Unit × World :=
  match sealStore crates platform keys profiles server w with
  | (.error e, w) => (.error e, w)
  | (.ok sealedKeys, w) =>
    match sealedPath w mock with
    | .error e => (.error e, w)
    | .ok path =>
      writeJson crates.storeJson.toVec platform path
        { keys, profiles, server, loginItemSetUp, sealedKeys, sealedVersion } w

/-- SOURCE: 931-961 -/
def saveDevFile (path : String) (keys : List AuthKey) (profiles : List Profile)
    (server : Option ServerConfig) (loginItemSetUp : Bool) (w : World) :
    Except String Unit × World :=
  writeJson crates.devJson.toVec platform path
    { keys := keys.map fun k => { secret := k.secret, key := k }
      profiles := profiles.map fun p => { relayAuthToken := p.relayAuthToken, profile := p }
      server := server.map fun s =>
        { secret := s.secret, relayAuthToken := s.relayAuthToken, server := s }
      loginItemSetUp } w

/-- SOURCE: 809-837 -/
def saveStore (backend : Option Backend) (keys : List AuthKey) (profiles : List Profile)
    (server : Option ServerConfig) (loginItemSetUp : Bool) (w : World) :
    Except String Unit × World :=
  match backend with
  | none => (.error "No settings store: see the startup error in the log", w)
  | some (.devFile path) =>
    saveDevFile crates platform path keys profiles server loginItemSetUp w
  | some .keychain => saveSealed crates platform false keys profiles server loginItemSetUp w
  | some .mockKeychain => saveSealed crates platform true keys profiles server loginItemSetUp w

/-! ## Export and import -/

/-- A profile as an export file holds it: ids, the key reference and the token are left out.
SOURCE: 845-854 -/
def Profile.portable (p : Profile) : PortableProfile where
  id := none
  name := p.name
  serverNodeId := p.serverNodeId
  socksPort := p.socksPort
  httpPort := p.httpPort
  relayUrls := p.relayUrls
  forwards := p.forwards.map fun f =>
    { id := none, label := f.label, localPort := f.localPort, remoteHost := f.remoteHost
      remotePort := f.remotePort }

/-- SOURCE: 844-856 -/
def exportProfiles (path : String) (profiles : List Profile) (w : World) :
    Except String Unit × World :=
  writeJson crates.profilesJson.toVec platform path (profiles.map Profile.portable) w

/-- The random ids given to the entries of an import file that have none: one per profile,
and one per forward of it. -/
structure PlaceholderIds where
  profile : Nat → UInt64
  forward : Nat → Nat → UInt64

/-- Entry `i` of an import file as a profile.
SOURCE: 869-881 -/
def PortableProfile.toProfile (ids : PlaceholderIds) (i : Nat) (p : PortableProfile) :
    Profile where
  id := p.id.getD (randomId (ids.profile i))
  name := p.name
  serverNodeId := p.serverNodeId
  authKeyId := ""
  socksPort := p.socksPort
  httpPort := p.httpPort
  relayUrls := p.relayUrls
  relayAuthToken := none
  forwards := p.forwards.mapIdx fun j f =>
    { id := f.id.getD (randomId (ids.forward i j)), label := f.label, localPort := f.localPort
      remoteHost := f.remoteHost, remotePort := f.remotePort, enabled := false }

/-- SOURCE: 866-885 -/
def importProfiles (ids : PlaceholderIds) (path : String) (w : World) :
    Except String (List Profile) := do
  match ← readJson crates.profilesJson.fromSlice w path with
  | none => .error s!"{path} does not exist"
  | some doc => return dropInvalid (doc.mapIdx (PortableProfile.toProfile ids))

end

/-! ## What the filters check -/

def AuthKey.WellFormed (k : AuthKey) : Prop :=
  k.id ≠ "" ∧ isReservedSecretId k.id = false ∧ isValidName k.name = true

def AuthKey.Clash (k k' : AuthKey) : Prop :=
  k.id = k'.id ∨ k.name = k'.name ∨ k.publicKey = k'.publicKey

theorem SeenKeys.check_passed {seen : SeenKeys} {k : AuthKey} (h : (seen.check k).2 = true) :
    (seen.check k).1 =
      { ids := k.id :: seen.ids, names := k.name :: seen.names
        publics := k.publicKey :: seen.publics } := by
  grind [SeenKeys.check]

theorem SeenKeys.isSieve :
    IsSieve SeenKeys.check AuthKey.WellFormed AuthKey.Clash fun seen k =>
      k.id ∈ seen.ids ∨ k.name ∈ seen.names ∨ k.publicKey ∈ seen.publics where
  passes_iff seen k := by grind [SeenKeys.check, AuthKey.WellFormed]
  seen_passed seen k k' h := by
    simp only [SeenKeys.check_passed h, List.mem_cons, AuthKey.Clash, eq_comm]
    tauto
  seen_mono seen k k' h := by grind [SeenKeys.check]

def Profile.Clash (p p' : Profile) : Prop :=
  p.id = p'.id ∨ p.name = p'.name ∨ p.serverNodeId = p'.serverNodeId

theorem SeenProfiles.check_passed {seen : SeenProfiles} {p : Profile}
    (h : (seen.check p).2 = true) :
    (seen.check p).1 =
      { ids := p.id :: seen.ids, names := p.name :: seen.names
        servers := p.serverNodeId :: seen.servers } := by
  grind [SeenProfiles.check]

theorem SeenProfiles.isSieve :
    IsSieve SeenProfiles.check (fun p => isValidName p.name = true) Profile.Clash fun seen p =>
      p.id ∈ seen.ids ∨ p.name ∈ seen.names ∨ p.serverNodeId ∈ seen.servers where
  passes_iff seen p := by grind [SeenProfiles.check]
  seen_passed seen p p' h := by
    simp only [SeenProfiles.check_passed h, List.mem_cons, Profile.Clash, eq_comm]
    tauto
  seen_mono seen p p' h := by grind [SeenProfiles.check]

def AuthorizedClient.WellFormed (parseKey : String → Except String String)
    (c : AuthorizedClient) : Prop :=
  isValidName c.name = true ∧
    (parseClientPublicKey parseKey c.publicKey).toOption = some c.publicKey

def AuthorizedClient.Clash (c c' : AuthorizedClient) : Prop :=
  c.name = c'.name ∨ c.publicKey = c'.publicKey

theorem SeenClients.isSieve (parseKey : String → Except String String) :
    IsSieve (SeenClients.check parseKey) (AuthorizedClient.WellFormed parseKey)
      AuthorizedClient.Clash fun seen c => c.name ∈ seen.names ∨ c.publicKey ∈ seen.publics where
  passes_iff seen c := by grind [SeenClients.check, AuthorizedClient.WellFormed]
  seen_passed seen c c' h := by grind [SeenClients.check, AuthorizedClient.Clash]
  seen_mono seen c c' h := by grind [SeenClients.check]

/-- The filter drops no key exactly if all are well formed and no two clash. -/
theorem dropInvalidKeys_eq_self_iff {keys : List AuthKey} :
    dropInvalidKeys keys = keys ↔
      (∀ k ∈ keys, k.WellFormed) ∧ keys.Pairwise fun k k' => ¬k.Clash k' :=
  SeenKeys.isSieve.eq_self_iff (by simp)

theorem dropInvalid_eq_self_iff {profiles : List Profile} :
    dropInvalid profiles = profiles ↔
      (∀ p ∈ profiles, isValidName p.name = true) ∧
        profiles.Pairwise fun p p' => ¬p.Clash p' :=
  SeenProfiles.isSieve.eq_self_iff (by simp)

theorem dropInvalidClients_eq_self_iff {parseKey : String → Except String String}
    {clients : List AuthorizedClient} :
    dropInvalidClients parseKey clients = clients ↔
      (∀ c ∈ clients, c.WellFormed parseKey) ∧ clients.Pairwise fun c c' => ¬c.Clash c' :=
  (SeenClients.isSieve parseKey).eq_self_iff (by simp)

@[simp] theorem dropInvalidKeys_dropInvalidKeys (keys : List AuthKey) :
    dropInvalidKeys (dropInvalidKeys keys) = dropInvalidKeys keys :=
  SeenKeys.isSieve.sieve_sieve (by simp)

@[simp] theorem dropInvalid_dropInvalid (profiles : List Profile) :
    dropInvalid (dropInvalid profiles) = dropInvalid profiles :=
  SeenProfiles.isSieve.sieve_sieve (by simp)

@[simp] theorem dropInvalidClients_dropInvalidClients (parseKey : String → Except String String)
    (clients : List AuthorizedClient) :
    dropInvalidClients parseKey (dropInvalidClients parseKey clients) =
      dropInvalidClients parseKey clients :=
  (SeenClients.isSieve parseKey).sieve_sieve (by simp)

end Flextunnel.Model
