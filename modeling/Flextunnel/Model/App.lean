import Flextunnel.Model.Forms

/-!
# The desktop app

`App::boot` and `App::update`: the state of the UI and what each message does to it. An
update that reaches outside (a command for the supervisor, a save of the store) records it
in `effects`, in order, and the machine at the end emits them.

What an update finds outside is its `Surroundings`: the snapshots of the sessions, what the
platform answers to a save, and the random ids and keys it draws. `Except.error` stands for
a panic.

The fields nothing here reads are left out, and the messages that touch only these are one
message, `viewOnly`. `edited` and `deleted` in the effects are bookkeeping: they name the entries of
the sealed map whose secret a saved form edits or whose record is deleted.

Unnamed source lines are of `desktop/app.rs`.
-/

set_option autoImplicit false

namespace Flextunnel.Model

open Lib

/-- The ids of the secrets a server form sets: the identity at setup only. -/
def ServerForm.editedSecrets (form : ServerForm) : List String :=
  if form.identity.isSome then [serverSecretId, serverRelaySecretId] else [serverRelaySecretId]

/-! ## State -/

/-- SOURCE: 37-49 -/
inductive StoreReset where
  | version (sealedUnder : Nat)
  | unsealable
  | unreadable (error : String)
deriving DecidableEq

/-- SOURCE: 53-63 -/
inductive Selection where
  | empty
  | profile (id : String)
  | server
  | keys
  | logs
deriving DecidableEq

/-- SOURCE: desktop/tunnel.rs:35-41 -/
inductive TunnelPhase where
  | idle
  | connecting
  | connected
  | reconnecting
  | failed
deriving DecidableEq

/-- What the app reads of a profile's snapshot.
SOURCE: desktop/tunnel.rs:44-54 -/
structure TunnelSnapshot where
  phase : TunnelPhase
  forwards : List ForwardStatus
deriving DecidableEq

/-- The methods of the controller that send a command.
SOURCE: desktop/tunnel.rs:182-243 -/
inductive ControllerCall where
  | startServer (config : ServerConfig)
  | restartServer (config : ServerConfig)
  | stopServer
  | removeServer
  | connect (profile : Profile) (authKey : String)
  | disconnect (id : String)
  | setForwards (id : String) (forwards : List PortForward)
  | removeProfile (id : String)
  | queryConnPath (id : String)
  | shutdown
deriving DecidableEq

inductive AppEffect where
  | call (c : ControllerCall)
  /-- The store was saved, with this content; whether it worked. -/
  | saved (keys : List AuthKey) (profiles : List Profile) (server : Option ServerConfig)
      (loginItemSetUp : Bool) (ok : Bool)
  /-- A saved form sets the secret under this id of the sealed map. -/
  | edited (secretId : String)
  /-- The record whose secret is under this id was deleted. -/
  | deleted (secretId : String)
deriving DecidableEq

/-- SOURCE: 911-988 -/
structure App where
  world : World
  profiles : List Profile := []
  keys : List AuthKey := []
  server : Option ServerConfig := none
  selection : Selection := .empty
  profileForm : Option ProfileForm := none
  keyForm : Option KeyForm := none
  serverForm : Option ServerForm := none
  clientForm : Option ClientForm := none
  identityForm : Option IdentityChoice := none
  confirmRemoveClient : Option String := none
  confirmExportServerSecret : Bool := false
  serverApplied : Option ServerConfig := none
  forwardForm : Option (String × ForwardForm) := none
  confirmDelete : Option String := none
  confirmDeleteKey : Option String := none
  confirmDeleteServer : Bool := false
  confirmExportKey : Option String := none
  notice : Option String := none
  storeReset : Option StoreReset := none
  snapshots : Table TunnelSnapshot := ∅
  serverSnapshot : ServerSnapshot := {}
  loginItemSetUp : Bool := false
  /-- `iced::exit` was asked for. -/
  exited : Bool := false
  effects : List AppEffect := []

structure AppContext where
  crates : AppCrates
  backend : Option Backend

structure Surroundings where
  platform : Platform
  /-- The live snapshots, as the controller returns them. -/
  serverSnapshot : ServerSnapshot
  snapshots : Table TunnelSnapshot
  /-- The random id of an entry a form adds. -/
  newId : UInt64
  placeholders : PlaceholderIds
  mergeIds : MergeIds
  /-- A generated client key, as its secret and its public text; `none` without a random
  number generator. -/
  clientKey : Option (String × String)
  /-- A generated server identity. -/
  identity : String
  /-- Whether the clipboard takes a text. -/
  clipboard : Bool
  /-- What registering the login item returns. -/
  loginItem : Except String Unit

/-- The tray menu's items that reach the modelled state.
SOURCE: desktop/tray.rs:19-25 -/
inductive TrayItem where
  | quit
  | toggleServer
  | setUpServer
  | other
deriving DecidableEq

/-- SOURCE: 81-214 -/
inductive Message where
  | tick
  | setupTray
  | trayMenu (item : TrayItem)
  | select (selection : Selection)
  | showConnPath
  | storeResetQuit
  | storeResetContinue
  -- profiles
  | addProfile
  | editProfile (id : String)
  | deleteProfile (id : String)
  | connect (id : String)
  | disconnect (id : String)
  | exportPicked (path : Option String)
  | importPicked (path : Option String)
  -- the profile form
  | profileNameChanged (value : String)
  | serverNodeIdChanged (value : String)
  | authKeyPicked (id : String)
  | newKeyPrompt
  | newKeyNameChanged (value : String)
  | newKeyCreate
  | newKeyCancel
  -- auth keys
  | addKey
  | editKey (id : String)
  | deleteKey (id : String)
  | exportKey (id : String)
  | keyNameChanged (value : String)
  | keySecretChanged (value : String)
  | keyGenerateSecret
  | keyFormSave
  | keyFormCancel
  | socksEnabledToggled (enabled : Bool)
  | socksPortChanged (value : String)
  | httpEnabledToggled (enabled : Bool)
  | httpPortChanged (value : String)
  | relayUrlsChanged (value : String)
  | relayAuthTokenChanged (value : String)
  | profileFormSave
  | profileFormCancel
  -- forwards
  | addForward (profileId : String)
  | editForward (profileId forwardId : String)
  | deleteForward (profileId forwardId : String)
  | toggleForward (profileId forwardId : String) (enabled : Bool)
  | formLabelChanged (value : String)
  | formLocalPortChanged (value : String)
  | formRemoteHostChanged (value : String)
  | formRemotePortChanged (value : String)
  | formEnabledToggled (enabled : Bool)
  | formSave
  | formCancel
  -- the server
  | setUpServer
  | beginServerSetup
  | editServer
  | deleteServer
  | setServerEnabled (enabled : Bool)
  | restartServer
  | serverImportToggled (importing : Bool)
  | serverImportSecretChanged (value : String)
  | serverRegenerateIdentity
  | serverRoutedDomainsChanged (value : String)
  | serverRoutedCidrsChanged (value : String)
  | serverRelayUrlsChanged (value : String)
  | serverRelayAuthTokenChanged (value : String)
  | serverFormSave
  | serverFormCancel
  -- authorized clients
  | authorizeClient
  | clientNameChanged (value : String)
  | clientPublicKeyChanged (value : String)
  | clientUseOwnKey (id : String)
  | clientFormSave
  | clientFormCancel
  | removeClient (publicKey : String)
  -- the server's identity
  | exportServerSecret
  | replaceIdentity (importing : Bool)
  | identityImportToggled (importing : Bool)
  | identitySecretChanged (value : String)
  | identityRegenerate
  | identityFormSave
  | identityFormCancel
  | viewOnly

namespace App

/-- SOURCE: 1687-1689 -/
def profile (a : App) (id : String) : Option Profile :=
  a.profiles.find? fun p => p.id == id

def call (a : App) (c : ControllerCall) : App := { a with effects := a.effects ++ [.call c] }

def noteEdited (a : App) (ids : List String) : App :=
  { a with effects := a.effects ++ ids.map AppEffect.edited }

def noteDeleted (a : App) (ids : List String) : App :=
  { a with effects := a.effects ++ ids.map AppEffect.deleted }

def orNotice (a : App) (text : String) : App :=
  if a.notice.isNone then { a with notice := some text } else a

/-- SOURCE: 1787-1801 -/
def closeForms (a : App) : App :=
  { a with
    profileForm := none, keyForm := none, serverForm := none, clientForm := none
    identityForm := none, forwardForm := none, confirmDelete := none, confirmDeleteKey := none
    confirmDeleteServer := false, confirmExportKey := none, confirmRemoveClient := none
    confirmExportServerSecret := false, notice := none }

def onProfileForm (a : App) (f : ProfileForm → ProfileForm) : App :=
  { a with profileForm := a.profileForm.map f }

def onKeyForm (a : App) (f : KeyForm → KeyForm) : App := { a with keyForm := a.keyForm.map f }

def onServerForm (a : App) (f : ServerForm → ServerForm) : App :=
  { a with serverForm := a.serverForm.map f }

def onServerIdentity (a : App) (f : IdentityChoice → IdentityChoice) : App :=
  a.onServerForm fun form => { form with identity := form.identity.map f }

def onClientForm (a : App) (f : ClientForm → ClientForm) : App :=
  { a with clientForm := a.clientForm.map f }

def onIdentityForm (a : App) (f : IdentityChoice → IdentityChoice) : App :=
  { a with identityForm := a.identityForm.map f }

def onForwardForm (a : App) (f : ForwardForm → ForwardForm) : App :=
  { a with forwardForm := a.forwardForm.map fun (id, form) => (id, f form) }

/-- SOURCE: 1817-1824 -/
def serverNeedsRestart (a : App) : Bool :=
  (a.serverSnapshot.phase == .starting || a.serverSnapshot.phase == .running) &&
    a.server.any (·.enabled) && a.serverApplied != a.server

section

variable (ctx : AppContext) (env : Surroundings)

/-! ## The store -/

/-- SOURCE: 2366-2382 -/
def persistStore (a : App) : App :=
  if a.storeReset.isSome then a
  else
    let r := saveStore ctx.crates.toStoreCrates env.platform ctx.backend a.keys a.profiles
      a.server a.loginItemSetUp a.world
    match r.1 with
    | .ok () =>
      { a with
        world := r.2
        effects := a.effects ++ [.saved a.keys a.profiles a.server a.loginItemSetUp true] }
    | .error e =>
      { a with
        world := r.2
        effects := a.effects ++ [.saved a.keys a.profiles a.server a.loginItemSetUp false]
        notice := some s!"Failed to save profiles: {e}" }

/-! ## The server -/

/-- SOURCE: 1830-1844 -/
def resumeServer (a : App) : App :=
  let down :=
    match env.serverSnapshot.phase with
    | .stopped | .failed | .stopping => true
    | .starting | .running => false
  match down, a.server with
  | true, some server =>
    if server.enabled && server.isReady then
      { a.call (.startServer server) with serverApplied := some server }
    else a
  | _, _ => a

/-- What follows a change of the switch: stop, start, or show what is missing.
SOURCE: 1858-1879 -/
def applyEnabled (a : App) (server : ServerConfig) : App :=
  if !server.enabled then a.call .stopServer
  else if server.isReady then
    { a.call (.startServer server) with serverApplied := some server }
  else
    { { a with selection := .server }.closeForms with
      clientForm := if server.secret ≠ "" then some {} else none
      notice := server.startBlocker }

/-- SOURCE: 1849-1880 -/
def setServerEnabled (a : App) (enabled : Bool) : App :=
  match a.server with
  | none => a
  | some server =>
    let changed := { server with enabled }
    if server.enabled != enabled then
      ({ a with server := some changed, notice := none }.persistStore ctx env).applyEnabled changed
    else a.applyEnabled changed

/-- SOURCE: 1882-1909 -/
def deleteServer (a : App) : App :=
  if !a.confirmDeleteServer then { a with confirmDeleteServer := true }
  else
    let a := { a with confirmDeleteServer := false }
    match a.server with
    | none => a
    | some _ =>
      let a := { a with server := none }.noteDeleted [serverSecretId, serverRelaySecretId]
      let a := { a.call .removeServer with serverSnapshot := {}, serverApplied := none }
      let a := a.closeForms.persistStore ctx env
      if a.selection == .server then
        { a with selection := a.profiles.head?.elim .logs fun p => .profile p.id }
      else a

/-- SOURCE: 1916-1943 -/
def saveServerForm (a : App) : App :=
  match a.serverForm with
  | none => a
  | some form =>
    match form.validate ctx.crates a.server with
    | .error _ => a
    | .ok server =>
      let settingUp := a.server.isNone
      let a := { a with server := some server, notice := none }.noteEdited form.editedSecrets
      let a := { a.persistStore ctx env with selection := .server, serverForm := none }
      if a.notice.isSome then a
      else if server.authorizedClients = [] then
        { a with
          clientForm := some {}
          notice := some (if settingUp then
            "Server created. Authorize the first client to start it."
            else "Saved. Authorize a client to start the server.") }
      else { a with notice := some "Saved." }

/-- SOURCE: 1945-1961 -/
def saveClientForm (a : App) : App :=
  match a.clientForm, a.server with
  | some form, some server =>
    match form.validate ctx.crates server.authorizedClients with
    | .error _ => a
    | .ok client =>
      let server := { server with authorizedClients := server.authorizedClients ++ [client] }
      let a := { a with server := some server, clientForm := none, notice := none }
      let a := (a.persistStore ctx env).orNotice s!"Authorized \"{client.name}\"."
      a.resumeServer env
  | _, _ => a

/-- The running server still lets a removed client in: it is restarted without the client, or
stopped when none is left.
SOURCE: 1985-1992 -/
def applyRevocation (a : App) (server : ServerConfig) : App :=
  if !server.enabled then a
  else if server.isReady then
    { a.call (.restartServer server) with serverApplied := some server }
  else a.call .stopServer

/-- SOURCE: 1963-1993 -/
def removeClient (a : App) (publicKey : String) : App :=
  let a := { a with confirmExportServerSecret := false }
  if a.confirmRemoveClient ≠ some publicKey then
    { a with confirmRemoveClient := some publicKey }
  else
    let a := { a with confirmRemoveClient := none }
    match a.server with
    | none => a
    | some server =>
      let clients := server.authorizedClients.filter fun c => c.publicKey != publicKey
      if clients.length = server.authorizedClients.length then a
      else
        let server := { server with authorizedClients := clients }
        let a := { a with server := some server, notice := none }.persistStore ctx env
        a.applyRevocation server

/-- SOURCE: 1999-2019 -/
def exportServerSecret (a : App) : App :=
  let a := { a with confirmRemoveClient := none }
  if !a.confirmExportServerSecret then { a with confirmExportServerSecret := true }
  else
    let a := { a with confirmExportServerSecret := false }
    match a.server with
    | none => a
    | some server =>
      if server.secret = "" then a
      else
        { a with notice := some (if env.clipboard then
            "Identity key copied — import it on the other computer, then delete the " ++
              "server here: one identity must run on one server only."
            else "Clipboard unavailable — the identity key was not copied.") }

/-- SOURCE: 2021-2043 -/
def saveIdentityForm (a : App) : App :=
  match a.identityForm, a.server with
  | some identity, some server =>
    match identity.resolve ctx.crates with
    | .error _ => a
    | .ok (secret, endpointId) =>
      let changed := endpointId != server.endpointId
      let a := { a with
        server := some { server with secret, endpointId }
        identityForm := none, notice := none }.noteEdited [serverSecretId]
      let a := (a.persistStore ctx env).orNotice (if changed then
        "New identity saved — every client must switch to the new endpoint id."
        else "Identity key restored.")
      a.resumeServer env
  | _, _ => a

/-- SOURCE: 1516-1533 -/
def restartServer (a : App) : App :=
  match a.server with
  | none => a
  | some server =>
    match server.startBlocker with
    | none => { a.call (.restartServer server) with serverApplied := some server }
    | some blocker => { a.call .stopServer with notice := some blocker }

/-- SOURCE: 1806-1813 -/
def setUpServer (a : App) : App :=
  let a :=
    if a.selection ≠ .server ∨ a.profileForm.isSome then a.closeForms else a
  { a with selection := .server }

/-! ## Profiles, keys and forwards -/

/-- SOURCE: 1714-1751 -/
def connectProfile (a : App) (id : String) : App :=
  match a.profile id with
  | none => a
  | some p =>
    match findKey a.keys p.authKeyId with
    | some key =>
      if key.secret ≠ "" ∧ p.serverNodeId ≠ "" then a.call (.connect p key.secret)
      else if key.secret = "" then
        { a with
          selection := .keys, profileForm := none, keyForm := some (.edit key)
          notice := some s!"Re-enter the secret of key \"{key.name}\" to connect." }
      else
        { a with
          selection := .profile p.id, profileForm := some (.edit p)
          notice := some "Enter the server node id to connect." }
    | none =>
      { a with
        selection := .profile p.id, profileForm := some (.edit p)
        notice := some "Pick an auth key to connect." }

/-- SOURCE: 1753-1784 -/
def deleteProfile (a : App) (id : String) : App :=
  if a.confirmDelete ≠ some id then { a with confirmDelete := some id }
  else
    let a := { a with confirmDelete := none }
    match a.profiles.findIdx? fun p => p.id == id with
    | none => a
    | some pos =>
      let a := (a.noteDeleted [profileRelaySecretId id]).call (.removeProfile id)
      let a := { a with
        profiles := a.profiles.eraseIdx pos
        snapshots := a.snapshots.erase id, forwardForm := none }
      let a := a.persistStore ctx env
      if a.selection = .profile id then
        { a with selection :=
          match a.profiles[min pos (a.profiles.length - 1)]? with
          | some p => .profile p.id
          | none => if a.server.isSome then .server else .logs }
      else a

/-- SOURCE: 2130-2166 -/
def saveProfileForm (a : App) : App :=
  match a.profileForm with
  | none => a
  | some form =>
    match form.validate a.profiles a.keys env.newId with
    | .error _ => a
    | .ok p =>
      let running := (a.snapshots.lookup p.id).any fun s =>
        s.phase == .connecting || s.phase == .connected || s.phase == .reconnecting
      let a := { a with profiles := upsert Profile.id p a.profiles }.noteEdited
        [profileRelaySecretId p.id]
      let a := (a.persistStore ctx env).orNotice
        (if running then "Saved — reconnect to apply." else "Saved.")
      { a with selection := .profile p.id, profileForm := none }

/-- SOURCE: 2172-2194 -/
def createKeyForProfileForm (a : App) : Except String App :=
  match a.profileForm.bind ProfileForm.newKeyName with
  | none => .ok a
  | some name =>
    match validateKeyName name a.keys none with
    | .error _ => .ok a
    | .ok name =>
      match env.clientKey with
      | none => .error "system RNG unavailable"
      | some (secret, publicKey) =>
        let key : AuthKey := { id := randomId env.newId, name, publicKey, secret }
        let a := { a with keys := a.keys ++ [key] }.noteEdited [key.id]
        let a := a.persistStore ctx env
        .ok (a.onProfileForm fun form => { form with authKeyId := key.id, newKeyName := none })

/-- SOURCE: 2196-2213 -/
def saveKeyForm (a : App) : App :=
  match a.keyForm with
  | none => a
  | some form =>
    match form.validate ctx.crates a.keys env.newId with
    | .error _ => a
    | .ok key =>
      let a := { a with keys := upsert AuthKey.id key a.keys }.noteEdited [key.id]
      let a := (a.persistStore ctx env).orNotice
        "Saved — profiles using this key apply it on reconnect."
      { a with keyForm := none }

/-- SOURCE: 2215-2237 -/
def deleteKey (a : App) (id : String) : App :=
  let a := { a with confirmExportKey := none }
  match a.profiles.find? fun p => p.authKeyId == id with
  | some user =>
    { a with
      notice := some (s!"This key is used by profile \"{user.name}\" — " ++
        "repoint or delete that profile first.")
      confirmDeleteKey := none }
  | none =>
    if a.confirmDeleteKey ≠ some id then { a with confirmDeleteKey := some id }
    else
      let a := { a with
        confirmDeleteKey := none
        keys := a.keys.filter fun k => k.id != id
        keyForm := none }.noteDeleted [id]
      a.persistStore ctx env

/-- SOURCE: 2243-2263 -/
def exportKey (a : App) (id : String) : App :=
  let a := { a with confirmDeleteKey := none }
  if a.confirmExportKey ≠ some id then { a with confirmExportKey := some id }
  else
    let a := { a with confirmExportKey := none }
    match findKey a.keys id with
    | none => a
    | some key =>
      if key.secret = "" then a
      else
        { a with notice := some (if env.clipboard then
            s!"Secret key of \"{key.name}\" copied — " ++
              "paste it into the key form of another install."
            else "Clipboard unavailable — the secret key was not copied.") }

/-- SOURCE: 2291-2297 -/
def commitForwards (a : App) (profileId : String) : App :=
  let a := a.persistStore ctx env
  match a.profile profileId with
  | some p => a.call (.setForwards profileId p.forwards)
  | none => a

def withForwards (a : App) (profileId : String) (f : List PortForward → List PortForward) : App :=
  match a.profiles.findIdx? fun p => p.id == profileId with
  | some pos =>
    { a with profiles := a.profiles.modify pos fun p => { p with forwards := f p.forwards } }
  | none => a

/-- SOURCE: 1426-1436 -/
def deleteForward (a : App) (profileId forwardId : String) : App :=
  match a.profile profileId with
  | none => a
  | some p =>
    let kept := p.forwards.filter fun f => f.id != forwardId
    let a := a.withForwards profileId fun _ => kept
    if kept.length ≠ p.forwards.length then a.commitForwards ctx env profileId else a

/-- SOURCE: 1437-1455 -/
def toggleForward (a : App) (profileId forwardId : String) (enabled : Bool) : App :=
  match (a.profile profileId).bind fun p => p.forwards.findIdx? fun f => f.id == forwardId with
  | some i =>
    (a.withForwards profileId fun fs => fs.modify i fun f => { f with enabled }).commitForwards
      ctx env profileId
  | none => a

/-- SOURCE: 2265-2287 -/
def saveForwardForm (a : App) : App :=
  match a.forwardForm with
  | none => a
  | some (profileId, form) =>
    match form.validate a.profiles env.newId, a.profile profileId with
    | .ok forward, some _ =>
      let a := a.withForwards profileId (upsert PortForward.id forward)
      { a.commitForwards ctx env profileId with forwardForm := none }
    | _, _ => a

def sendForwards (a : App) (ids : List String) : App :=
  ids.foldl
    (fun a id =>
      match a.profile id with
      | some p => a.call (.setForwards id p.forwards)
      | none => a) a

/-- SOURCE: 2299-2329 -/
def importProfiles (a : App) (path : String) : Except String App :=
  match Model.importProfiles ctx.crates.toStoreCrates env.placeholders path a.world with
  | .error _ => .ok a
  | .ok imported => do
    let m ← mergeImported env.mergeIds a.profiles imported
    let a := ({ a with profiles := m.profiles }.sendForwards m.replaced).persistStore ctx env
    let selected :=
      match a.selection with
      | .profile id => (a.profile id).isSome
      | _ => false
    let a :=
      match selected, a.profiles.head? with
      | false, some p => { a with selection := .profile p.id }
      | _, _ => a
    return { a with profileForm := none }

/-- The snapshots as the controller returns them.
SOURCE: 2084-2085 -/
def polled (a : App) : App :=
  { a with snapshots := env.snapshots, serverSnapshot := env.serverSnapshot }

def switchOffFailed (a : App) (p : Profile) : Profile × Bool :=
  match a.snapshots.lookup p.id with
  | some snapshot =>
    let r := disableFailedForwards p.forwards snapshot.forwards
    ({ p with forwards := r.1 }, !r.2.isEmpty)
  | none => (p, false)

/-- The profiles with a forward that failed.
SOURCE: 2090-2104 -/
def failedIn (a : App) : List String :=
  ((a.profiles.map a.switchOffFailed).filter Prod.snd).map fun r => r.1.id

def switchedOff (a : App) : App :=
  { a with profiles := (a.profiles.map a.switchOffFailed).map Prod.fst }

/-- SOURCE: 2083-2128 -/
def refresh (a : App) : App :=
  let polled := a.polled env
  let a := polled.switchedOff.sendForwards polled.failedIn
  if polled.failedIn.isEmpty then a else a.persistStore ctx env

/-! ## Updates -/

/-- SOURCE: 2045-2079 -/
def handleMenuEvent (a : App) : TrayItem → App
  | .quit => { a.call .shutdown with exited := true }
  | .toggleServer =>
    match a.server with
    | some server => a.setServerEnabled ctx env (!server.enabled)
    | none => a
  | .setUpServer => a.setUpServer
  | .other => a

/-- SOURCE: 1130-1685 -/
def update (a : App) : Message → Except String App
  | .tick | .setupTray => .ok (a.refresh ctx env)
  | .trayMenu item => .ok (a.handleMenuEvent ctx env item)
  | .select selection => .ok { a with selection := selection }.closeForms
  | .showConnPath =>
    .ok (match a.selection with
      | .profile id => a.call (.queryConnPath id)
      | _ => a)
  | .storeResetQuit => .ok { a.call .shutdown with exited := true }
  | .storeResetContinue => .ok ({ a with storeReset := none }.persistStore ctx env)
  | .addProfile => .ok { a.closeForms with profileForm := some (.add a.profiles) }
  | .editProfile id =>
    .ok (match a.profile id with
      | some p => { a.closeForms with profileForm := some (.edit p) }
      | none => a)
  | .deleteProfile id => .ok (a.deleteProfile ctx env id)
  | .connect id => .ok (a.connectProfile id)
  | .disconnect id => .ok (a.call (.disconnect id))
  | .exportPicked path =>
    .ok (match path with
      | some path =>
        { a with world :=
          (exportProfiles ctx.crates.toStoreCrates env.platform path a.profiles a.world).2 }
      | none => a)
  | .importPicked path =>
    match path with
    | some path => a.importProfiles ctx env path
    | none => .ok a
  | .profileNameChanged value => .ok (a.onProfileForm fun f => { f with name := value })
  | .serverNodeIdChanged value => .ok (a.onProfileForm fun f => { f with serverNodeId := value })
  | .authKeyPicked id => .ok (a.onProfileForm fun f => { f with authKeyId := id })
  | .newKeyPrompt =>
    .ok (a.onProfileForm fun f => { f with newKeyName := some (f.newKeyName.getD "") })
  | .newKeyNameChanged value =>
    .ok (a.onProfileForm fun f => { f with newKeyName := f.newKeyName.map fun _ => value })
  | .newKeyCreate => a.createKeyForProfileForm ctx env
  | .newKeyCancel => .ok (a.onProfileForm fun f => { f with newKeyName := none })
  | .addKey =>
    .ok { a with keyForm := some {}, confirmDeleteKey := none, confirmExportKey := none
                 notice := none }
  | .editKey id =>
    .ok (match findKey a.keys id with
      | some key =>
        { a with keyForm := some (.edit key), confirmDeleteKey := none, confirmExportKey := none
                 notice := none }
      | none => a)
  | .deleteKey id => .ok (a.deleteKey ctx env id)
  | .exportKey id => .ok (a.exportKey env id)
  | .keyNameChanged value => .ok (a.onKeyForm fun f => { f with name := value })
  | .keySecretChanged value => .ok (a.onKeyForm fun f => { f with secret := value })
  | .keyGenerateSecret =>
    match a.keyForm, env.clientKey with
    | some form, some (secret, _) => .ok { a with keyForm := some { form with secret } }
    | some _, none => .error "system RNG unavailable"
    | none, _ => .ok a
  | .keyFormSave => .ok (a.saveKeyForm ctx env)
  | .keyFormCancel => .ok { a with keyForm := none }
  | .socksEnabledToggled enabled =>
    .ok (a.onProfileForm fun f => { f with socksEnabled := enabled })
  | .socksPortChanged value => .ok (a.onProfileForm fun f => { f with socksPort := value })
  | .httpEnabledToggled enabled => .ok (a.onProfileForm fun f => { f with httpEnabled := enabled })
  | .httpPortChanged value => .ok (a.onProfileForm fun f => { f with httpPort := value })
  | .relayUrlsChanged value => .ok (a.onProfileForm fun f => { f with relayUrls := value })
  | .relayAuthTokenChanged value =>
    .ok (a.onProfileForm fun f => { f with relayAuthToken := value })
  | .profileFormSave => .ok (a.saveProfileForm ctx env)
  | .profileFormCancel => .ok { a with profileForm := none }
  | .addForward profileId => .ok { a with forwardForm := some (profileId, {}) }
  | .editForward profileId forwardId =>
    .ok (match (a.profile profileId).bind fun p => p.forwards.find? fun f => f.id == forwardId with
      | some f => { a with forwardForm := some (profileId, .edit f) }
      | none => a)
  | .deleteForward profileId forwardId => .ok (a.deleteForward ctx env profileId forwardId)
  | .toggleForward profileId forwardId enabled =>
    .ok (a.toggleForward ctx env profileId forwardId enabled)
  | .formLabelChanged value => .ok (a.onForwardForm fun f => { f with label := value })
  | .formLocalPortChanged value => .ok (a.onForwardForm fun f => { f with localPort := value })
  | .formRemoteHostChanged value => .ok (a.onForwardForm fun f => { f with remoteHost := value })
  | .formRemotePortChanged value => .ok (a.onForwardForm fun f => { f with remotePort := value })
  | .formEnabledToggled enabled => .ok (a.onForwardForm fun f => { f with enabled := enabled })
  | .formSave => .ok (a.saveForwardForm ctx env)
  | .formCancel => .ok { a with forwardForm := none }
  | .setUpServer => .ok a.setUpServer
  | .beginServerSetup =>
    .ok (if a.server.isNone then
      { a.closeForms with
        selection := .server
        serverForm := some { identity := some { generated := env.identity } } }
      else a)
  | .editServer =>
    .ok (match a.server with
      | some server => { a.closeForms with serverForm := some (.edit server) }
      | none => a)
  | .deleteServer => .ok (a.deleteServer ctx env)
  | .setServerEnabled enabled => .ok (a.setServerEnabled ctx env enabled)
  | .restartServer => .ok a.restartServer
  | .serverImportToggled importing =>
    .ok (a.onServerIdentity fun i => { i with imported := if importing then some "" else none })
  | .serverImportSecretChanged value =>
    .ok (a.onServerIdentity fun i => { i with imported := i.imported.map fun _ => value })
  | .serverRegenerateIdentity =>
    .ok (a.onServerIdentity fun i => { i with generated := env.identity })
  | .serverRoutedDomainsChanged value =>
    .ok (a.onServerForm fun f => { f with routedDomains := value })
  | .serverRoutedCidrsChanged value => .ok (a.onServerForm fun f => { f with routedCidrs := value })
  | .serverRelayUrlsChanged value => .ok (a.onServerForm fun f => { f with relayUrls := value })
  | .serverRelayAuthTokenChanged value =>
    .ok (a.onServerForm fun f => { f with relayAuthToken := value })
  | .serverFormSave => .ok (a.saveServerForm ctx env)
  | .serverFormCancel => .ok { a with serverForm := none }
  | .authorizeClient =>
    .ok { a with clientForm := some {}, identityForm := none, confirmRemoveClient := none
                 notice := none }
  | .clientNameChanged value => .ok (a.onClientForm fun f => { f with name := value })
  | .clientPublicKeyChanged value => .ok (a.onClientForm fun f => f.setPublicKey value)
  | .clientUseOwnKey id =>
    .ok (match findKey a.keys id with
      | some key => a.onClientForm fun _ => { name := key.name, publicKey := key.publicKey }
      | none => a)
  | .clientFormSave => .ok (a.saveClientForm ctx env)
  | .clientFormCancel => .ok { a with clientForm := none }
  | .removeClient publicKey => .ok (a.removeClient ctx env publicKey)
  | .exportServerSecret => .ok (a.exportServerSecret env)
  | .replaceIdentity importing =>
    .ok { a with
      identityForm := some { generated := env.identity
                             imported := if importing then some "" else none }
      clientForm := none, confirmExportServerSecret := false, notice := none }
  | .identityImportToggled importing =>
    .ok (a.onIdentityForm fun i => { i with imported := if importing then some "" else none })
  | .identityRegenerate => .ok (a.onIdentityForm fun i => { i with generated := env.identity })
  | .identitySecretChanged value =>
    .ok (a.onIdentityForm fun i => { i with imported := i.imported.map fun _ => value })
  | .identityFormSave => .ok (a.saveIdentityForm ctx env)
  | .identityFormCancel => .ok { a with identityForm := none }
  | .viewOnly => .ok a

/-! ## Launch -/

/-- Why a loaded store is not what is on disk.
SOURCE: 1001-1005 -/
def resetOf (store : Store) : Option StoreReset :=
  match store.sealedResetFrom, store.unsealFailed with
  | some version, _ => some (.version version)
  | none, true => some .unsealable
  | none, false => none

/-- The store the app runs on, and the warning that goes with it.
SOURCE: 999-1012 -/
def loadedAs : Except String Store → Store × Option StoreReset
  | .ok store => (store, resetOf store)
  | .error e => ({}, some (.unreadable e))

/-- The login item of a first launch.
SOURCE: 1065-1085 -/
def setUpLoginItem (a : App) : App :=
  match ctx.backend with
  | some .keychain =>
    if !a.loginItemSetUp && a.storeReset.isNone then
      match env.loginItem with
      | .ok () => { a with loginItemSetUp := true }.persistStore ctx env
      | .error _ => a
    else a
  | _ => a

/-- SOURCE: 991-1106 -/
def boot (w : World) : App :=
  let r := loadStore ctx.crates.toStoreCrates env.platform ctx.backend w
  let (store, storeReset) := loadedAs r.1
  let a : App := {
    world := r.2
    profiles := store.profiles
    keys := store.keys
    server := store.server
    selection :=
      match store.profiles.head?, store.server with
      | some p, _ => .profile p.id
      | none, some _ => .server
      | none, none => .empty
    storeReset
    loginItemSetUp := store.loginItemSetUp }
  let a := a.setUpLoginItem ctx env
  if a.server.isSome then a.resumeServer env else a

end

end App

inductive AppState where
  | launching (w : World)
  | running (a : App)

inductive AppLabel where
  | boot (env : Surroundings)
  | update (env : Surroundings) (msg : Message)

def AppState.step (ctx : AppContext) : AppState → AppLabel → Option (AppState × List AppEffect)
  | .launching w, .boot env =>
    let a := App.boot ctx env w
    some (.running { a with effects := [] }, a.effects)
  | .running a, .update env msg =>
    if a.exited then none
    else
      match a.update ctx env msg with
      | .ok b => some (.running { b with effects := [] }, b.effects)
      | .error _ => none
  | _, _ => none

def app (ctx : AppContext) : Machine AppState AppLabel AppEffect where
  init s := ∃ w : World, w.cache = none ∧ s = .launching w
  step := AppState.step ctx

end Flextunnel.Model
