import Flextunnel.Model.Routing
import Flextunnel.Model.Store

/-!
# The desktop app's forms and its import merge

What the app checks before it changes the store: the form of each kind of entry, with the
buffers a user types into and the `validate` that turns them into an entry or says why not;
and the merge of an import file, which takes any list the load-time filter lets through and
finds each entry an id and a free name.

`split_whitespace`, `trim` and the name rules work on all of Unicode. Lengths are counted
in bytes by the profile form and by `unique_name`, in characters by the other two forms.

Unnamed source lines are of `desktop/app.rs`.
-/

set_option autoImplicit false

namespace Flextunnel.Model

open Lib

structure AppCrates extends StoreCrates where
  /-- A token parses as itself. -/
  parsePublicKey_token : ∀ value token, parsePublicKey value = .ok token →
    parsePublicKey (Text.trim token) = .ok token
  /-- `ClientKey::from_secret_str`, followed by `public_str`. -/
  clientKeyPublic : String → Except String String
  /-- `load_secret_from_string`, followed by `public().to_string()`. -/
  endpointId : String → Except String String
  ipNetwork : IpNetworkCrate
  /-- How an error of the routed set prints. -/
  routeErrorText : RouteError → String

/-- SOURCE: 237-244 -/
def splitList (value : String) : List String :=
  ((Text.splitChar ',' value).map Text.trim).filter (· ≠ "")

/-- What holds a local port, over all profiles.
SOURCE: 250-279 -/
def portOwner (profiles : List Profile) (port : UInt16)
    (excludeProfile excludeForward : Option String) : Option String :=
  profiles.findSome? fun p =>
    let ofProxy :=
      if some p.id = excludeProfile then none
      else if p.socksPort = some port then some s!"the SOCKS5 port of profile \"{p.name}\""
      else if p.httpPort = some port then some s!"the HTTP port of profile \"{p.name}\""
      else none
    ofProxy.or (p.forwards.findSome? fun f =>
      if some f.id = excludeForward then none
      else if f.localPort = port then
        some s!"forward \"{f.displayName}\" in profile \"{p.name}\""
      else none)

/-! ## The import merge -/

/-- `base.pop()` while the name would be longer than 64 bytes; the characters come last one
first. -/
def shorten (suffixLen : Nat) : List Char → List Char
  | [] => []
  | c :: rest =>
    if Text.byteLen (String.ofList (c :: rest).reverse) + suffixLen > 64 then
      shorten suffixLen rest
    else c :: rest

/-- The name numbered `n`.
SOURCE: 289-296 -/
def numberedName (desired : String) (n : Nat) : String :=
  let suffix := s!" - {n}"
  let base := String.ofList (shorten (Text.byteLen suffix) desired.toList.reverse).reverse
  Text.trimEnd base ++ suffix

def firstFree (desired : String) (taken : String → Bool) : (tries n : Nat) → Except String String
  | 0, _ => .error "attempt to add with overflow"
  | tries + 1, n =>
    if taken (numberedName desired n) then firstFree desired taken tries (n + 1)
    else .ok (numberedName desired n)

/-- The counter is an `i32` that starts at two, and moving on from a number computes the
next one first: there are 2³¹ - 3 numbers to try.
SOURCE: 284-299 -/
def uniqueName (desired : String) (taken : String → Bool) : Except String String :=
  if !taken desired then .ok desired else firstFree desired taken 2147483645 2

structure MergeIds where
  profile : Nat → UInt64
  forward : Nat → Nat → UInt64

/-- SOURCE: 314-318 -/
def profileNameTaken (profiles : List Profile) (ownId : Option String) (name : String) : Bool :=
  profiles.any fun p => p.name == name && some p.id != ownId

structure Merged where
  profiles : List Profile
  added : Nat := 0
  replaced : List String := []

/-- Entry `i` of the imported list.
SOURCE: 319-348 -/
def mergeOne (ids : MergeIds) (m : Merged) (entry : Profile × Nat) : Except String Merged :=
  let incoming := { entry.1 with
    forwards := entry.1.forwards.mapIdx fun j f =>
      { f with id := randomId (ids.forward entry.2 j) } }
  match m.profiles.findIdx? fun p => p.serverNodeId == incoming.serverNodeId with
  | some pos => do
    let old := m.profiles.getD pos incoming
    let name ← uniqueName incoming.name (profileNameTaken m.profiles (some old.id))
    return { m with
      profiles := m.profiles.set pos { incoming with
        id := old.id, authKeyId := old.authKeyId, relayAuthToken := old.relayAuthToken, name }
      replaced := m.replaced ++ [old.id] }
  | none => do
    let name ← uniqueName incoming.name (profileNameTaken m.profiles none)
    return { m with
      profiles := m.profiles ++ [{ incoming with
        id := randomId (ids.profile entry.2), authKeyId := "", relayAuthToken := none, name }]
      added := m.added + 1 }

/-- SOURCE: 308-350 -/
def mergeImported (ids : MergeIds) (profiles imported : List Profile) : Except String Merged :=
  imported.zipIdx.foldlM (mergeOne ids) { profiles }

/-! ## Names -/

/-- SOURCE: 596-598 -/
def normalizeName (name : String) : String := Text.join " " (Text.splitWhitespace name)

/-- SOURCE: 573-592 -/
def validateKeyName (name : String) (keys : List AuthKey) (ownId : Option String) :
    Except String String :=
  let name := normalizeName name
  if name = "" then .error "Key name is required"
  else if name.length > 64 then .error "Key name must be 64 characters or fewer"
  else if keys.any fun k => k.name == name && some k.id != ownId then
    .error s!"Another key is already named \"{name}\""
  else .ok name

/-! ## The forms -/

/-- SOURCE: desktop/config.rs:44 -/
def defaultSocksPort : UInt16 := 1080

/-- SOURCE: desktop/config.rs:48 -/
def defaultHttpPort : UInt16 := 18080

/-- The first free port at or after `port`; `tries` is how many there are up to the last. -/
def freePortFrom (profiles : List Profile) : (tries : Nat) → (port : UInt16) → UInt16
  | 0, port => port
  | tries + 1, port =>
    if (portOwner profiles port none none).isSome then freePortFrom profiles tries (port + 1)
    else port

/-- SOURCE: 354-360 -/
def nextFreePort (profiles : List Profile) : UInt16 :=
  freePortFrom profiles (65535 - defaultSocksPort.toNat) defaultSocksPort

/-- SOURCE: 365-379 -/
structure ProfileForm where
  editingId : Option String := none
  name : String := ""
  serverNodeId : String := ""
  authKeyId : String := ""
  newKeyName : Option String := none
  socksEnabled : Bool := false
  socksPort : String := ""
  httpEnabled : Bool := false
  httpPort : String := ""
  relayUrls : String := ""
  relayAuthToken : String := ""
deriving DecidableEq

def tokenField (value : String) : Option String :=
  let token := Text.trim value
  if token = "" then none else some token

/-- The relay fields of the profile and the server form.
SOURCE: 475-484, 712-719 -/
def validateRelays (relayUrls relayAuthToken : String) :
    Except String (List String × Option String) :=
  let urls := splitList relayUrls
  let token := tokenField relayAuthToken
  if token.isSome && urls.isEmpty then
    .error "A relay auth token requires at least one relay URL"
  else .ok (urls, token)

namespace ProfileForm

/-- SOURCE: 386-393 -/
def add (profiles : List Profile) : ProfileForm :=
  { socksEnabled := true
    socksPort := toString (nextFreePort profiles).toNat
    httpPort := toString defaultHttpPort.toNat }

/-- SOURCE: 395-415 -/
def edit (p : Profile) : ProfileForm :=
  { editingId := some p.id
    name := p.name
    serverNodeId := p.serverNodeId
    authKeyId := p.authKeyId
    newKeyName := none
    socksEnabled := p.socksPort.isSome
    socksPort := toString (p.socksPort.getD defaultSocksPort).toNat
    httpEnabled := p.httpPort.isSome
    httpPort := toString (p.httpPort.getD defaultHttpPort).toNat
    relayUrls := Text.join ", " p.relayUrls
    relayAuthToken := p.relayAuthToken.getD "" }

/-- The name and server checks.
SOURCE: 418-452 -/
def validateNames (form : ProfileForm) (profiles : List Profile) (keys : List AuthKey) :
    Except String (String × String) :=
  let name := normalizeName form.name
  if name = "" then .error "Profile name is required"
  else if Text.byteLen name > 64 then .error "Profile name must be 64 characters or fewer"
  else if profiles.any fun p => p.name == name && some p.id != form.editingId then
    .error s!"Another profile is already named \"{name}\""
  else
    let serverNodeId := Text.trim form.serverNodeId
    if serverNodeId = "" then .error "Server node id is required"
    else
      match profiles.find? fun p =>
        p.serverNodeId == serverNodeId && some p.id != form.editingId with
      | some other => .error s!"Profile \"{other.name}\" already connects to this server"
      | none =>
        if (findKey keys form.authKeyId).isNone then
          .error "Pick an auth key (or create one with New key)"
        else .ok (name, serverNodeId)

/-- SOURCE: 454-462 -/
def validateSocksPort (form : ProfileForm) (profiles : List Profile) :
    Except String (Option UInt16) :=
  if form.socksEnabled then do
    let port ← parsePort form.socksPort "SOCKS5 port"
    match portOwner profiles port form.editingId none with
    | some owner => .error s!"SOCKS5 port {port.toNat} is already used by {owner}"
    | none => .ok (some port)
  else .ok none

/-- SOURCE: 463-474 -/
def validateHttpPort (form : ProfileForm) (profiles : List Profile) (socksPort : Option UInt16) :
    Except String (Option UInt16) :=
  if form.httpEnabled then do
    let port ← parsePort form.httpPort "HTTP port"
    if socksPort = some port then .error "HTTP port must differ from the SOCKS5 port"
    else
      match portOwner profiles port form.editingId none with
      | some owner => .error s!"HTTP port {port.toNat} is already used by {owner}"
      | none => .ok (some port)
  else .ok none

/-- The profile the form describes; `newId` is the id of an added one.
SOURCE: 417-501 -/
def validate (form : ProfileForm) (profiles : List Profile) (keys : List AuthKey)
    (newId : UInt64) : Except String Profile := do
  let (name, serverNodeId) ← form.validateNames profiles keys
  let socksPort ← form.validateSocksPort profiles
  let httpPort ← form.validateHttpPort profiles socksPort
  let (relayUrls, relayAuthToken) ← validateRelays form.relayUrls form.relayAuthToken
  -- editing keeps the profile's forwards
  let forwards := (form.editingId.bind fun id => profiles.find? fun p => p.id == id).elim []
    Profile.forwards
  return { id := form.editingId.getD (randomId newId), name, serverNodeId
           authKeyId := form.authKeyId, socksPort, httpPort, relayUrls, relayAuthToken, forwards }

end ProfileForm

/-- SOURCE: 507-511 -/
structure KeyForm where
  editingId : Option String := none
  name : String := ""
  secret : String := ""
deriving DecidableEq

namespace KeyForm

/-- SOURCE: 524-530 -/
def edit (k : AuthKey) : KeyForm :=
  { editingId := some k.id, name := k.name, secret := k.secret }

/-- SOURCE: 541-566 -/
def validate (crates : AppCrates) (form : KeyForm) (keys : List AuthKey) (newId : UInt64) :
    Except String AuthKey := do
  let name ← validateKeyName form.name keys form.editingId
  let secret := Text.trim form.secret
  if secret = "" then
    .error "Secret key is required (generate one, or paste an ed25519-sec: key)"
  else
    let publicKey ← (crates.clientKeyPublic secret).mapError ("Invalid secret key: " ++ ·)
    match keys.find? fun k => k.publicKey == publicKey && some k.id != form.editingId with
    | some other => .error s!"Key \"{other.name}\" already holds this secret"
    | none => .ok { id := form.editingId.getD (randomId newId), name, publicKey, secret }

end KeyForm

/-- An identity being chosen: a generated key unless an existing one is imported.
SOURCE: 611-615 -/
structure IdentityChoice where
  generated : String
  imported : Option String := none
deriving DecidableEq

namespace IdentityChoice

/-- SOURCE: 637-639 -/
def secret (choice : IdentityChoice) : String :=
  Text.trim (choice.imported.getD choice.generated)

/-- The secret and the endpoint id it gives.
SOURCE: 643-653 -/
def resolve (crates : AppCrates) (choice : IdentityChoice) : Except String (String × String) :=
  if choice.secret = "" then .error "Paste the identity key to import"
  else do
    let endpointId ← (crates.endpointId choice.secret).mapError ("Invalid identity key: " ++ ·)
    return (choice.secret, endpointId)

end IdentityChoice

/-- SOURCE: 663-671 -/
structure ServerForm where
  identity : Option IdentityChoice := none
  routedDomains : String := ""
  routedCidrs : String := ""
  relayUrls : String := ""
  relayAuthToken : String := ""
deriving DecidableEq

namespace ServerForm

/-- SOURCE: 681-689 -/
def edit (s : ServerConfig) : ServerForm :=
  { identity := none
    routedDomains := Text.join ", " s.routedDomains
    routedCidrs := Text.join ", " s.routedCidrs
    relayUrls := Text.join ", " s.relayUrls
    relayAuthToken := s.relayAuthToken.getD "" }

/-- A new server when setting up, otherwise the current one.
SOURCE: 694-707 -/
def base (crates : AppCrates) (form : ServerForm) (current : Option ServerConfig) :
    Except String ServerConfig :=
  match form.identity, current with
  | some identity, _ => do
    let (secret, endpointId) ← identity.resolve crates
    return { endpointId, secret, authorizedClients := [], routedDomains := [], routedCidrs := []
             relayUrls := [], relayAuthToken := none, enabled := true }
  | none, some current => .ok current
  | none, none => .error "The server was deleted"

/-- SOURCE: 693-730 -/
def validate (crates : AppCrates) (form : ServerForm) (current : Option ServerConfig) :
    Except String ServerConfig := do
  let base ← form.base crates current
  let routedDomains := splitList form.routedDomains
  let routedCidrs := splitList form.routedCidrs
  let _ ← (RoutedSet.new crates.ipNetwork routedDomains routedCidrs).mapError fun e =>
    "Invalid tunnel set: " ++ crates.routeErrorText e
  let (relayUrls, relayAuthToken) ← validateRelays form.relayUrls form.relayAuthToken
  return { base with routedDomains, routedCidrs, relayUrls, relayAuthToken }

end ServerForm

/-- SOURCE: 736-739 -/
structure ClientForm where
  name : String := ""
  publicKey : String := ""
deriving DecidableEq

namespace ClientForm

/-- A whole authorized-key entry is split into the key and its comment.
SOURCE: 746-756 -/
def setPublicKey (form : ClientForm) (value : String) : ClientForm :=
  let cs := (Text.trim value).toList
  match cs.dropWhile (!Text.isWhitespace ·) with
  | _ :: comment =>
    { name :=
        if Text.trim form.name = "" then normalizeName (String.ofList comment) else form.name
      publicKey := String.ofList (cs.takeWhile (!Text.isWhitespace ·)) }
  | [] => { form with publicKey := value }

/-- SOURCE: 758-777 -/
def validate (crates : AppCrates) (form : ClientForm) (clients : List AuthorizedClient) :
    Except String AuthorizedClient :=
  let name := normalizeName form.name
  if name = "" then .error "Name the client (e.g. the device it runs on)"
  else if name.length > 64 then .error "Client name must be 64 characters or fewer"
  else if clients.any fun c => c.name == name then
    .error s!"Another client is already named \"{name}\""
  else if Text.trim form.publicKey = "" then
    .error "Paste the client's public key (ed25519-pub:…)"
  else do
    let publicKey ← parseClientPublicKey crates.parsePublicKey form.publicKey
    match clients.find? fun c => c.publicKey == publicKey with
    | some other => .error s!"Client \"{other.name}\" already has this key"
    | none => .ok { name, publicKey }

end ClientForm

/-- SOURCE: 782-789 -/
structure ForwardForm where
  editingId : Option String := none
  label : String := ""
  localPort : String := ""
  remoteHost : String := ""
  remotePort : String := ""
  enabled : Bool := true
deriving DecidableEq

namespace ForwardForm

/-- SOURCE: 807-816 -/
def edit (f : PortForward) : ForwardForm :=
  { editingId := some f.id
    label := f.label
    localPort := toString f.localPort.toNat
    remoteHost := f.remoteHost
    remotePort := toString f.remotePort.toNat
    enabled := f.enabled }

/-- SOURCE: 820-841 -/
def validate (form : ForwardForm) (profiles : List Profile) (newId : UInt64) :
    Except String PortForward := do
  let label ← validateLabel form.label
  let localPort ← parsePort form.localPort "Local port"
  let remoteHost ← validateRemoteHost form.remoteHost
  let remotePort ← parsePort form.remotePort "Remote port"
  match portOwner profiles localPort none form.editingId with
  | some owner => .error s!"Local port {localPort.toNat} is already used by {owner}"
  | none =>
    .ok { id := form.editingId.getD (randomId newId), label, localPort, remoteHost, remotePort
          enabled := form.enabled }

end ForwardForm

end Flextunnel.Model
