import Flextunnel.Model.App

/-!
# What an update of the desktop app can do

Most of an update is about forms and notices. `Core` is the rest: the records, what decides
whether they are saved, and what reached the outside. `Change` lists how an update can
change the records, each with what the code checked before; `update_shape` says that every
update is at most one such change, then commands, then at most one save, then commands.
Invariants over the records are proved from these two and never look at a message.
-/

set_option autoImplicit false

namespace Flextunnel.Model

open Lib

structure Records where
  keys : List AuthKey
  profiles : List Profile
  server : Option ServerConfig

/-- The part of the app a save or a command depends on or reports to, and the open key form,
whose save is the one that trusts an id it was opened with. -/
structure Core where
  records : Records
  keyForm : Option KeyForm
  /-- The config the app takes the server session to run. -/
  applied : Option ServerConfig
  loginItemSetUp : Bool
  storeReset : Option StoreReset
  world : World
  effects : List AppEffect

/-- The config the app takes the session to run once it has sent a command. -/
def ControllerCall.appliedAfter (applied : Option ServerConfig) :
    ControllerCall → Option ServerConfig
  | .startServer config | .restartServer config => some config
  | .removeServer => none
  | _ => applied

namespace Core

/-- Commands for the supervisor, with what the app concludes from having sent them. -/
def calls (c : Core) (cs : List ControllerCall) : Core :=
  { c with
    applied := cs.foldl ControllerCall.appliedAfter c.applied
    effects := c.effects ++ cs.map AppEffect.call }

def note (c : Core) (notes : List AppEffect) : Core := { c with effects := c.effects ++ notes }

def store (c : Core) (r : Records) : Core := { c with records := r }

def form (c : Core) (f : Option KeyForm) : Core := { c with keyForm := f }

def saveResult (ctx : AppContext) (env : Surroundings) (c : Core) : Except String Unit × World :=
  saveStore ctx.crates.toStoreCrates env.platform ctx.backend c.records.keys c.records.profiles
    c.records.server c.loginItemSetUp c.world

def savedAs (c : Core) (r : Except String Unit) : AppEffect :=
  .saved c.records.keys c.records.profiles c.records.server c.loginItemSetUp r.toBool

def persist (ctx : AppContext) (env : Surroundings) (c : Core) : Core :=
  if c.storeReset.isSome then c
  else
    { c with
      world := (c.saveResult ctx env).2
      effects := c.effects ++ [c.savedAs (c.saveResult ctx env).1] }

@[simp] theorem calls_nil (c : Core) : c.calls [] = c := by simp [calls]

@[simp] theorem calls_calls (c : Core) (cs ds : List ControllerCall) :
    (c.calls cs).calls ds = c.calls (cs ++ ds) := by
  simp [calls, List.foldl_append]

@[simp] theorem note_nil (c : Core) : c.note [] = c := by simp [note]

theorem keyForm_persist (ctx : AppContext) (env : Surroundings) (c : Core) :
    (c.persist ctx env).keyForm = c.keyForm := by
  unfold persist
  split <;> rfl

theorem persist_form (ctx : AppContext) (env : Surroundings) (c : Core) (f : Option KeyForm) :
    (c.form f).persist ctx env = (c.persist ctx env).form f := by
  unfold persist form
  dsimp only
  split <;> rfl

end Core

namespace App

def records (a : App) : Records := ⟨a.keys, a.profiles, a.server⟩

def core (a : App) : Core where
  records := a.records
  keyForm := a.keyForm
  applied := a.serverApplied
  loginItemSetUp := a.loginItemSetUp
  storeReset := a.storeReset
  world := a.world
  effects := a.effects

section

variable (ctx : AppContext) (env : Surroundings) (a : App)

theorem core_setForwards (id : String) (forwards : List PortForward) :
    (a.call (.setForwards id forwards)).core = a.core.calls [.setForwards id forwards] := rfl

theorem keyForm_persistStore : (a.persistStore ctx env).keyForm = a.keyForm := by
  unfold persistStore
  split
  · rfl
  · dsimp only
    split <;> rfl

/-- The app's save is the save of its core. -/
theorem core_persistStore : (a.persistStore ctx env).core = a.core.persist ctx env := by
  unfold persistStore Core.persist
  by_cases h : a.storeReset.isSome
  · simp [h, core]
  · simp only [h, core, Core.saveResult, Core.savedAs, records, Bool.false_eq_true, if_false]
    split <;> simp_all [Except.toBool]

theorem core_persistStore_form {f : Option KeyForm} (h : a.keyForm = f) :
    (a.persistStore ctx env).core = (a.persistStore ctx env).core.form f := by
  rw [← h, ← keyForm_persistStore ctx env a]
  rfl

theorem core_resumeServer : ∃ cs, (a.resumeServer env).core = a.core.calls cs := by
  unfold resumeServer
  dsimp only
  split
  · split
    · exact ⟨[.startServer _], rfl⟩
    · exact ⟨[], by simp⟩
  · exact ⟨[], by simp⟩

theorem core_sendForwards (ids : List String) :
    ∃ cs, (a.sendForwards ids).core = a.core.calls cs := by
  unfold sendForwards
  induction ids generalizing a with
  | nil => exact ⟨[], by simp⟩
  | cons id ids ih =>
    rw [List.foldl_cons]
    split
    next p _ =>
      obtain ⟨cs, hcs⟩ := ih (a.call (.setForwards id p.forwards))
      refine ⟨.setForwards id p.forwards :: cs, ?_⟩
      rw [hcs, core_setForwards, Core.calls_calls]
      rfl
    · exact ih a

theorem core_applyEnabled (server : ServerConfig) :
    ∃ cs f, (f = a.keyForm ∨ f = none) ∧
      (a.applyEnabled server).core = (a.core.calls cs).form f := by
  unfold applyEnabled
  split
  · exact ⟨[.stopServer], a.keyForm, .inl rfl, rfl⟩
  · split
    · exact ⟨[.startServer server], a.keyForm, .inl rfl, rfl⟩
    · exact ⟨[], none, .inr rfl, by rw [Core.calls_nil]; rfl⟩

theorem core_applyRevocation (server : ServerConfig) :
    ∃ cs, (a.applyRevocation server).core = a.core.calls cs := by
  unfold applyRevocation
  split
  · exact ⟨[], by rw [Core.calls_nil]⟩
  · split
    · exact ⟨[.restartServer server], rfl⟩
    · exact ⟨[.stopServer], rfl⟩

theorem core_orNotice (text : String) : (a.orNotice text).core = a.core := by
  unfold orNotice
  split <;> rfl

end

end App

/-! ## Changes of the records -/

def Profile.withoutForwards (p : Profile) : Profile := { p with forwards := [] }

/-- How an update changes the forwards of the profiles: some are dropped or switched, or the
forward form is saved into the profile it was opened for. -/
inductive ForwardChange (env : Surroundings) (a : App) (msg : Message) (profiles : List Profile) :
    Prop where
  | fewer : (∀ p' ∈ profiles, ∃ p ∈ a.profiles, p'.withoutForwards = p.withoutForwards ∧
      (p'.forwards.map PortForward.off).Sublist (p.forwards.map PortForward.off)) →
      ForwardChange env a msg profiles
  | saved (profileId : String) (form : ForwardForm) (forward : PortForward) (p : Profile) :
      msg = .formSave → a.forwardForm = some (profileId, form) →
      form.validate a.profiles env.newId = .ok forward → p ∈ a.profiles → p.id = profileId →
      (∀ p' ∈ profiles, p' ∈ a.profiles ∨
        p' = { p with forwards := upsert PortForward.id forward p.forwards }) →
      ForwardChange env a msg profiles

/-- How an update changes the records, what it checked before, and what it notes about
secrets. -/
inductive Change (ctx : AppContext) (env : Surroundings) (a : App) (msg : Message) :
    List AppEffect → Records → Prop where
  | none : Change ctx env a msg [] a.records
  | profileSaved (form : ProfileForm) (p : Profile) : a.profileForm = some form →
      form.validate a.profiles a.keys env.newId = .ok p →
      Change ctx env a msg [.edited (profileRelaySecretId p.id)]
        { a.records with profiles := upsert Profile.id p a.profiles }
  | keySaved (form : KeyForm) (key : AuthKey) : a.keyForm = some form →
      form.validate ctx.crates a.keys env.newId = .ok key →
      Change ctx env a msg [.edited key.id] { a.records with keys := upsert AuthKey.id key a.keys }
  | keyCreated (prompt name secret publicKey : String) : msg = .newKeyCreate →
      validateKeyName prompt a.keys none = .ok name → env.clientKey = some (secret, publicKey) →
      Change ctx env a msg [.edited (randomId env.newId)]
        { a.records with
          keys := a.keys ++ [{ id := randomId env.newId, name, publicKey, secret }] }
  | keyDeleted (id : String) : (∀ p ∈ a.profiles, p.authKeyId ≠ id) →
      Change ctx env a msg [.deleted id]
        { a.records with keys := a.keys.filter fun k => k.id != id }
  | profileDeleted (id : String) (pos : Nat) :
      (a.profiles.findIdx? fun p => p.id == id) = some pos →
      Change ctx env a msg [.deleted (profileRelaySecretId id)]
        { a.records with profiles := a.profiles.eraseIdx pos }
  | forwards (profiles : List Profile) :
      profiles.map Profile.withoutForwards = a.profiles.map Profile.withoutForwards →
      ForwardChange env a msg profiles →
      Change ctx env a msg [] { a.records with profiles }
  | merged (path : String) (imported : List Profile) (m : Merged) :
      msg = .importPicked (some path) →
      importProfiles ctx.crates.toStoreCrates env.placeholders path a.world = .ok imported →
      mergeImported env.mergeIds a.profiles imported = .ok m →
      Change ctx env a msg [] { a.records with profiles := m.profiles }
  | serverSaved (form : ServerForm) (server : ServerConfig) : a.serverForm = some form →
      form.validate ctx.crates a.server = .ok server →
      Change ctx env a msg (form.editedSecrets.map .edited)
        { a.records with server := some server }
  | serverDeleted (server : ServerConfig) : a.server = some server →
      Change ctx env a msg [.deleted serverSecretId, .deleted serverRelaySecretId]
        { a.records with server := Option.none }
  | serverEnabled (server : ServerConfig) (enabled : Bool) : a.server = some server →
      Change ctx env a msg [] { a.records with server := some { server with enabled } }
  | clientAdded (form : ClientForm) (server : ServerConfig) (client : AuthorizedClient) :
      a.server = some server →
      form.validate ctx.crates server.authorizedClients = .ok client →
      Change ctx env a msg []
        { a.records with
          server := some { server with authorizedClients := server.authorizedClients ++ [client] } }
  | clientsRemoved (server : ServerConfig) (publicKey : String) : a.server = some server →
      Change ctx env a msg []
        { a.records with
          server := some
            { server with
              authorizedClients :=
                server.authorizedClients.filter fun c => c.publicKey != publicKey } }
  | identitySaved (server : ServerConfig) (identity : IdentityChoice)
      (secret endpointId : String) : a.server = some server →
      identity.resolve ctx.crates = .ok (secret, endpointId) →
      Change ctx env a msg [.edited serverSecretId]
        { a.records with server := some { server with secret, endpointId } }

/-- The notes of a change are about secrets that were edited or deleted. -/
theorem Change.mem_notes {ctx : AppContext} {env : Surroundings} {a : App} {msg : Message}
    {notes : List AppEffect} {r : Records} (h : Change ctx env a msg notes r) {e : AppEffect}
    (he : e ∈ notes) : ∃ id, e = .edited id ∨ e = .deleted id := by
  cases h with
  | none | forwards | merged | serverEnabled | clientAdded | clientsRemoved => cases he
  | profileSaved | keySaved | keyCreated | identitySaved =>
    exact ⟨_, .inl (List.mem_singleton.1 he)⟩
  | keyDeleted | profileDeleted => exact ⟨_, .inr (List.mem_singleton.1 he)⟩
  | serverSaved =>
    obtain ⟨id, -, rfl⟩ := List.mem_map.1 he
    exact ⟨id, .inl rfl⟩
  | serverDeleted =>
    rcases List.mem_cons.1 he with rfl | he
    · exact ⟨_, .inr rfl⟩
    · exact ⟨_, .inr (List.mem_singleton.1 he)⟩

namespace App

variable {a : App}

/-- A key form that is open after `a` edits the key it edited before, or one of the keys. -/
def KeyFormFrom (a : App) (form : Option KeyForm) : Prop :=
  ∀ f ∈ form, ∀ id ∈ f.editingId,
    (∃ f₀ ∈ a.keyForm, f₀.editingId = some id) ∨ ∃ k ∈ a.keys, k.id = id

theorem KeyFormFrom.same : KeyFormFrom a a.keyForm := fun f hf _ hid => .inl ⟨f, hf, hid⟩

theorem KeyFormFrom.closed : KeyFormFrom a none := fun _ hf => nomatch hf

theorem KeyFormFrom.added : KeyFormFrom a (some {}) := by
  intro f hf id hid
  cases hf
  cases hid

theorem KeyFormFrom.editing {id : String} {k : AuthKey} (h : findKey a.keys id = some k) :
    KeyFormFrom a (some (.edit k)) := by
  intro f hf id hid
  cases hf
  cases hid
  exact .inr ⟨k, List.mem_of_find?_eq_some h, rfl⟩

theorem KeyFormFrom.changed {g : KeyForm → KeyForm} (hg : ∀ f, (g f).editingId = f.editingId) :
    KeyFormFrom a (a.keyForm.map g) := by
  intro f hf id hid
  obtain ⟨f₀, hf₀, rfl⟩ := Option.map_eq_some_iff.1 hf
  rw [hg] at hid
  exact .inl ⟨f₀, hf₀, hid⟩

end App

/-- One change of the records, then commands, then at most one save, then commands. -/
inductive Shape (ctx : AppContext) (env : Surroundings) (a : App) (msg : Message) (b : App) :
    Prop where
  | unsaved (r : Records) (notes : List AppEffect) (cs : List ControllerCall)
      (f : Option KeyForm) : Change ctx env a msg notes r → a.KeyFormFrom f →
      b.core = (((a.core.store r).note notes).calls cs).form f → Shape ctx env a msg b
  | saved (r : Records) (notes : List AppEffect) (cs ds : List ControllerCall)
      (f : Option KeyForm) : Change ctx env a msg notes r → a.KeyFormFrom f →
      b.core = (((((a.core.store r).note notes).calls cs).persist ctx env).calls ds).form f →
      Shape ctx env a msg b

namespace Shape

variable {ctx : AppContext} {env : Surroundings} {a b x : App} {msg : Message}

theorem commands (cs : List ControllerCall) (h : b.core = a.core.calls cs) :
    Shape ctx env a msg b :=
  .unsaved a.records [] cs a.keyForm .none .same (by rw [h, Core.note_nil]; rfl)

theorem quiet (h : b.core = a.core) : Shape ctx env a msg b :=
  commands [] (by rw [h, Core.calls_nil])

theorem forms {f : Option KeyForm} (hf : a.KeyFormFrom f) (h : b.core = a.core.form f) :
    Shape ctx env a msg b :=
  .unsaved a.records [] [] f .none hf (by rw [h, Core.calls_nil, Core.note_nil]; rfl)

theorem persistedForms {r : Records} {notes : List AppEffect} {f g : Option KeyForm}
    (cs ds : List ControllerCall) (hr : Change ctx env a msg notes r) (hf : a.KeyFormFrom f)
    (hx : x.core = (((a.core.store r).note notes).calls cs).form g)
    (hb : b.core = ((x.persistStore ctx env).core.calls ds).form f) : Shape ctx env a msg b :=
  .saved r notes cs ds f hr hf (by rw [hb, App.core_persistStore, hx, Core.persist_form]; rfl)

theorem persisted {r : Records} {notes : List AppEffect} (cs ds : List ControllerCall)
    (hr : Change ctx env a msg notes r) (hx : x.core = ((a.core.store r).note notes).calls cs)
    (hb : b.core = (x.persistStore ctx env).core.calls ds) : Shape ctx env a msg b := by
  have hkeyForm : (x.persistStore ctx env).core.keyForm = a.keyForm := by
    rw [App.core_persistStore, hx, Core.keyForm_persist]
    rfl
  refine .persistedForms (f := a.keyForm) (g := a.keyForm) cs ds hr .same (hx.trans rfl) ?_
  rw [hb, ← hkeyForm]
  rfl

end Shape

/-! ## The operations -/

theorem map_withoutForwards_modify (profiles : List Profile) (pos : Nat)
    (f : List PortForward → List PortForward) :
    (profiles.modify pos fun p => { p with forwards := f p.forwards }).map
      Profile.withoutForwards = profiles.map Profile.withoutForwards := by
  apply List.ext_getElem?
  intro i
  simp only [List.getElem?_map, List.getElem?_modify]
  cases profiles[i]? with
  | none => rfl
  | some p =>
    simp only [Option.map_some]
    split <;> rfl

theorem mem_modify_forwards {profiles : List Profile} {pos : Nat}
    {f : List PortForward → List PortForward} {p' : Profile}
    (h : p' ∈ profiles.modify pos fun p => { p with forwards := f p.forwards }) :
    p' ∈ profiles ∨ ∃ p, profiles[pos]? = some p ∧ p' = { p with forwards := f p.forwards } := by
  obtain ⟨i, hi⟩ := List.mem_iff_getElem?.1 h
  rw [List.getElem?_modify] at hi
  cases hp : profiles[i]? with
  | none =>
    rw [hp] at hi
    cases hi
  | some p =>
    rw [hp] at hi
    split at hi
    next heq => exact .inr ⟨p, heq ▸ hp, (Option.some.inj hi).symm⟩
    · cases hi
      exact .inl (List.mem_of_getElem? hp)

namespace App

variable (ctx : AppContext) (env : Surroundings) (a : App) {msg : Message}

/-- Changing a profile's forwards touches no other profile. -/
theorem core_withForwards (profileId : String) (f : List PortForward → List PortForward) :
    ∃ profiles, profiles.map Profile.withoutForwards = a.profiles.map Profile.withoutForwards ∧
      (∀ p' ∈ profiles, p' ∈ a.profiles ∨ ∃ p, a.profile profileId = some p ∧
        p' = { p with forwards := f p.forwards }) ∧
      (a.withForwards profileId f).core = a.core.store { a.records with profiles } := by
  unfold withForwards
  split
  next pos hpos =>
    refine ⟨_, map_withoutForwards_modify a.profiles pos f, fun p' hp' => ?_, rfl⟩
    obtain hp' | ⟨p, hp, rfl⟩ := mem_modify_forwards hp'
    · exact .inl hp'
    -- the profile at that place is the one a lookup finds
    refine .inr ⟨p, ?_, rfl⟩
    obtain ⟨hlt, hid, hbefore⟩ := List.findIdx?_eq_some_iff_getElem.1 hpos
    rw [List.getElem?_eq_getElem hlt] at hp
    rw [App.profile, ← hp]
    refine List.find?_eq_some_iff_getElem.2 ⟨hid, pos, hlt, rfl, fun j hj => ?_⟩
    simpa using hbefore j hj
  · exact ⟨a.profiles, rfl, fun _ hp' => .inl hp', rfl⟩

theorem core_commitForwards (profileId : String) :
    ∃ ds, (a.commitForwards ctx env profileId).core = (a.persistStore ctx env).core.calls ds := by
  unfold commitForwards
  dsimp only
  split
  next p _ => exact ⟨[.setForwards profileId p.forwards], rfl⟩
  · exact ⟨[], by simp⟩

theorem shape_commitForwards (profileId : String) (f : List PortForward → List PortForward)
    (hf : ∀ profiles : List Profile, (∀ p' ∈ profiles, p' ∈ a.profiles ∨
      ∃ p, a.profile profileId = some p ∧ p' = { p with forwards := f p.forwards }) →
        ForwardChange env a msg profiles)
    {b : App} (hb : b.core = ((a.withForwards profileId f).commitForwards ctx env profileId).core) :
    Shape ctx env a msg b := by
  obtain ⟨profiles, hprofiles, hmem, hx⟩ := a.core_withForwards profileId f
  obtain ⟨ds, hds⟩ := (a.withForwards profileId f).core_commitForwards ctx env profileId
  refine .persisted [] ds (.forwards profiles hprofiles (hf profiles hmem)) ?_ (hb.trans hds)
  rw [hx, Core.note_nil, Core.calls_nil]

theorem forwardChange_fewer (profileId : String) (f : List PortForward → List PortForward)
    (hf : ∀ p, a.profile profileId = some p →
      ((f p.forwards).map PortForward.off).Sublist (p.forwards.map PortForward.off))
    (profiles : List Profile) (h : ∀ p' ∈ profiles, p' ∈ a.profiles ∨
      ∃ p, a.profile profileId = some p ∧ p' = { p with forwards := f p.forwards }) :
    ForwardChange env a msg profiles := by
  refine .fewer fun p' hp' => ?_
  obtain hp' | ⟨p, hp, rfl⟩ := h p' hp'
  · exact ⟨p', hp', rfl, List.Sublist.refl _⟩
  · exact ⟨p, List.mem_of_find?_eq_some hp, rfl, hf p hp⟩

theorem shape_deleteForward (profileId forwardId : String) :
    Shape ctx env a msg (a.deleteForward ctx env profileId forwardId) := by
  unfold deleteForward
  split
  · exact .quiet rfl
  next p hp =>
    have hfewer : ∀ q, a.profile profileId = some q →
        ((p.forwards.filter fun f => f.id != forwardId).map PortForward.off).Sublist
          (q.forwards.map PortForward.off) := by
      intro q hq
      cases hp.symm.trans hq
      exact List.filter_sublist.map _
    dsimp only
    split
    · exact a.shape_commitForwards ctx env profileId _ (a.forwardChange_fewer env _ _ hfewer) rfl
    obtain ⟨profiles, hprofiles, hmem, hx⟩ := a.core_withForwards profileId fun _ =>
      p.forwards.filter fun f => f.id != forwardId
    have hchange : ForwardChange env a msg profiles := a.forwardChange_fewer env profileId
      (fun _ => p.forwards.filter fun f => f.id != forwardId) hfewer profiles hmem
    refine .unsaved _ [] [] a.keyForm (.forwards profiles hprofiles hchange) .same ?_
    rw [hx, Core.note_nil, Core.calls_nil]
    rfl

theorem shape_toggleForward (profileId forwardId : String) (enabled : Bool) :
    Shape ctx env a msg (a.toggleForward ctx env profileId forwardId enabled) := by
  unfold toggleForward
  split
  · refine a.shape_commitForwards ctx env profileId _ (a.forwardChange_fewer env _ _ fun p _ => ?_)
      rfl
    rw [map_off_modify (g := fun f => { f with enabled }) fun _ => rfl]
  · exact .quiet rfl

theorem shape_saveForwardForm (hmsg : msg = .formSave) :
    Shape ctx env a msg (a.saveForwardForm ctx env) := by
  unfold saveForwardForm
  split
  · exact .quiet rfl
  next profileId form hform =>
    split
    next forward p hforward hp =>
      refine a.shape_commitForwards ctx env _ _ (fun profiles hmem => ?_) rfl
      refine .saved profileId form forward p hmsg hform hforward (List.mem_of_find?_eq_some hp)
        (by simpa using List.find?_some hp) fun p' hp' => ?_
      obtain hp' | ⟨q, hq, rfl⟩ := hmem p' hp'
      · exact .inl hp'
      · cases hp.symm.trans hq
        exact .inr rfl
    · exact .quiet rfl

theorem shape_setServerEnabled (enabled : Bool) :
    Shape ctx env a msg (a.setServerEnabled ctx env enabled) := by
  unfold setServerEnabled
  split
  · exact .quiet rfl
  next server hserver =>
    dsimp only
    split
    · obtain ⟨ds, f, hf, hds⟩ := core_applyEnabled (persistStore ctx env _) _
      refine .persistedForms (g := a.keyForm) [] ds (.serverEnabled server enabled hserver) ?_ ?_
        hds
      · obtain rfl | rfl := hf
        · rw [keyForm_persistStore]
          exact .same
        · exact .closed
      · rw [Core.note_nil, Core.calls_nil]
        rfl
    · obtain ⟨ds, f, hf, hds⟩ := a.core_applyEnabled _
      refine .unsaved a.records [] ds f .none ?_ (hds.trans (by rw [Core.note_nil]; rfl))
      obtain rfl | rfl := hf
      · exact .same
      · exact .closed

theorem shape_deleteServer : Shape ctx env a msg (a.deleteServer ctx env) := by
  unfold deleteServer
  split
  · exact .quiet rfl
  dsimp only
  split
  · exact .quiet rfl
  next server hserver =>
    refine .persistedForms [.removeServer] [] (.serverDeleted server hserver) .closed
      (x := { ({ { a with confirmDeleteServer := false } with server := none }.noteDeleted
        [serverSecretId, serverRelaySecretId]).call .removeServer with
          serverSnapshot := {}, serverApplied := none }.closeForms) rfl ?_
    rw [Core.calls_nil]
    split <;> exact core_persistStore_form ctx env _ rfl

theorem shape_saveServerForm : Shape ctx env a msg (a.saveServerForm ctx env) := by
  unfold saveServerForm
  split
  · exact .quiet rfl
  next form hform =>
    split
    · exact .quiet rfl
    next server hserver =>
      refine .persisted [] [] (.serverSaved form server hform hserver)
        (x := { a with server := some server, notice := none }.noteEdited form.editedSecrets)
        (by rw [Core.calls_nil]; rfl) ?_
      rw [Core.calls_nil]
      dsimp only
      split
      · rfl
      · split <;> rfl

theorem shape_saveClientForm : Shape ctx env a msg (a.saveClientForm ctx env) := by
  unfold saveClientForm
  split
  next form server hform hserver =>
    split
    · exact .quiet rfl
    next client hclient =>
      obtain ⟨ds, hds⟩ := core_resumeServer env _
      refine .persisted [] ds (.clientAdded form server client hserver hclient) ?_
        (hds.trans (by rw [core_orNotice]))
      rw [Core.note_nil, Core.calls_nil]
      rfl
  · exact .quiet rfl

theorem shape_saveIdentityForm : Shape ctx env a msg (a.saveIdentityForm ctx env) := by
  unfold saveIdentityForm
  split
  next identity server hform hserver =>
    split
    · exact .quiet rfl
    next secret endpointId hresolve =>
      obtain ⟨ds, hds⟩ := core_resumeServer env _
      refine .persisted [] ds (.identitySaved server identity secret endpointId hserver hresolve) ?_
        (hds.trans (by rw [core_orNotice]))
      rw [Core.calls_nil]
      rfl
  · exact .quiet rfl

theorem shape_removeClient (publicKey : String) :
    Shape ctx env a msg (a.removeClient ctx env publicKey) := by
  unfold removeClient
  dsimp only
  split
  · exact .quiet rfl
  split
  · exact .quiet rfl
  next server hserver =>
    split
    · exact .quiet rfl
    obtain ⟨ds, hds⟩ := core_applyRevocation (persistStore ctx env _) _
    refine .persisted [] ds (.clientsRemoved server publicKey hserver) ?_ hds
    rw [Core.note_nil, Core.calls_nil]
    rfl

theorem shape_deleteProfile (id : String) : Shape ctx env a msg (a.deleteProfile ctx env id) := by
  unfold deleteProfile
  split
  · exact .quiet rfl
  dsimp only
  split
  · exact .quiet rfl
  next pos hpos =>
    refine .persisted [.removeProfile id] [] (.profileDeleted id pos hpos)
      (x := { (({ a with confirmDelete := none } : App).noteDeleted
        [profileRelaySecretId id]).call (.removeProfile id) with
          profiles := a.profiles.eraseIdx pos
          snapshots := a.snapshots.erase id, forwardForm := none }) rfl ?_
    rw [Core.calls_nil]
    split <;> rfl

theorem shape_saveProfileForm : Shape ctx env a msg (a.saveProfileForm ctx env) := by
  unfold saveProfileForm
  split
  · exact .quiet rfl
  next form hform =>
    split
    · exact .quiet rfl
    next p hp =>
      refine .persisted [] [] (.profileSaved form p hform hp)
        (x := { a with profiles := upsert Profile.id p a.profiles }.noteEdited
          [profileRelaySecretId p.id]) (by rw [Core.calls_nil]; rfl) ?_
      rw [Core.calls_nil]
      exact core_orNotice _ _

theorem shape_createKeyForProfileForm {b : App} (hmsg : msg = .newKeyCreate)
    (h : a.createKeyForProfileForm ctx env = .ok b) : Shape ctx env a msg b := by
  unfold createKeyForProfileForm at h
  split at h
  · cases h
    exact .quiet rfl
  next prompt _ =>
    split at h
    · cases h
      exact .quiet rfl
    next name hname =>
      split at h <;> cases h
      next secret publicKey hkey =>
        refine .persisted [] []
          (.keyCreated prompt name secret publicKey hmsg hname hkey) ?_
          (by rw [Core.calls_nil]; rfl)
        rw [Core.calls_nil]
        rfl

theorem shape_saveKeyForm : Shape ctx env a msg (a.saveKeyForm ctx env) := by
  unfold saveKeyForm
  split
  · exact .quiet rfl
  next form hform =>
    split
    · exact .quiet rfl
    next key hkey =>
      refine .persistedForms [] [] (.keySaved form key hform hkey) .closed
        (x := { a with keys := upsert AuthKey.id key a.keys }.noteEdited [key.id])
        (by rw [Core.calls_nil]; rfl) ?_
      rw [Core.calls_nil]
      exact congrArg (Core.form · none) (core_orNotice _ _)

theorem shape_deleteKey (id : String) : Shape ctx env a msg (a.deleteKey ctx env id) := by
  unfold deleteKey
  dsimp only
  split
  · exact .quiet rfl
  next hunused =>
    split
    · exact .quiet rfl
    have hprofiles : ∀ p ∈ a.profiles, p.authKeyId ≠ id := by
      simpa using List.find?_eq_none.1 hunused
    refine .persistedForms [] [] (.keyDeleted id hprofiles) .closed
      (x := { a with
        confirmExportKey := none, confirmDeleteKey := none
        keys := a.keys.filter fun k => k.id != id, keyForm := none }.noteDeleted [id])
      (by rw [Core.calls_nil]; rfl) ?_
    rw [Core.calls_nil]
    exact core_persistStore_form ctx env _ rfl

theorem shape_importProfiles {path : String} {b : App} (hmsg : msg = .importPicked (some path))
    (h : a.importProfiles ctx env path = .ok b) : Shape ctx env a msg b := by
  unfold importProfiles at h
  split at h
  · cases h
    exact .quiet rfl
  next imported himported =>
    obtain ⟨m, hm, h⟩ := bind_eq_ok.1 h
    cases h
    obtain ⟨cs, hcs⟩ := core_sendForwards { a with profiles := m.profiles } m.replaced
    refine .persisted cs [] (.merged path imported m hmsg himported hm)
      (hcs.trans (by rw [Core.note_nil]; rfl)) ?_
    rw [Core.calls_nil]
    split <;> rfl

theorem map_withoutForwards_switchOffFailed :
    ((a.profiles.map a.switchOffFailed).map Prod.fst).map Profile.withoutForwards =
      a.profiles.map Profile.withoutForwards := by
  rw [List.map_map, List.map_map]
  apply List.map_congr_left
  intro p _
  simp only [Function.comp, switchOffFailed]
  split <;> rfl

theorem forwardChange_switchedOff :
    ForwardChange env a msg (a.polled env).switchedOff.profiles := by
  refine .fewer fun p' hp' => ?_
  obtain ⟨r, hr, rfl⟩ := List.mem_map.1 hp'
  obtain ⟨p, hp, rfl⟩ := List.mem_map.1 hr
  refine ⟨p, hp, ?_⟩
  unfold switchOffFailed
  split
  · exact ⟨rfl, by rw [map_off_disableFailedForwards]⟩
  · exact ⟨rfl, List.Sublist.refl _⟩

/-- A refresh switches failed forwards off, and saves if it did. -/
theorem shape_refresh : Shape ctx env a msg (a.refresh ctx env) := by
  have hchange : Change ctx env a msg []
      { a.records with profiles := (a.polled env).switchedOff.profiles } :=
    .forwards _ (a.polled env).map_withoutForwards_switchOffFailed
      (a.forwardChange_switchedOff env)
  obtain ⟨cs, hcs⟩ := (a.polled env).switchedOff.core_sendForwards (a.polled env).failedIn
  have hcore := hcs.trans (show _ = ((a.core.store _).note []).calls cs by rw [Core.note_nil]; rfl)
  unfold refresh
  dsimp only
  split
  · exact .unsaved _ [] cs a.keyForm hchange .same hcore
  · exact .persisted cs [] hchange hcore (by rw [Core.calls_nil])

theorem shape_onKeyForm {g : KeyForm → KeyForm} (hg : ∀ f, (g f).editingId = f.editingId) :
    Shape ctx env a msg (a.onKeyForm g) :=
  .forms (.changed hg) rfl

theorem shape_setUpServer : Shape ctx env a msg a.setUpServer := by
  unfold setUpServer
  dsimp only
  split
  · exact .forms .closed rfl
  · exact .quiet rfl

theorem shape_handleMenuEvent (item : TrayItem) :
    Shape ctx env a msg (a.handleMenuEvent ctx env item) := by
  cases item with
  | quit => exact .commands [.shutdown] rfl
  | toggleServer =>
    unfold handleMenuEvent
    dsimp only
    split
    · exact a.shape_setServerEnabled ctx env _
    · exact .quiet rfl
  | setUpServer => exact a.shape_setUpServer ctx env
  | other => exact .quiet rfl

/-! ## Every update -/

/-- **What an update can do.** Two messages are apart: the answer to the reset warning,
which saves the records as they are, and an export, which writes a file. -/
theorem update_shape {b : App} (h : a.update ctx env msg = .ok b) :
    Shape ctx env a msg b ∨
      (msg = .storeResetContinue ∧
        b.core = ({ a.core with storeReset := none } : Core).persist ctx env) ∨
      ∃ path, b.core = { a.core with
        world := (exportProfiles ctx.crates.toStoreCrates env.platform path a.profiles
          a.world).2 } := by
  cases msg with
  | tick | setupTray =>
    cases h
    exact .inl (a.shape_refresh ctx env)
  | trayMenu item =>
    cases h
    exact .inl (a.shape_handleMenuEvent ctx env item)
  | showConnPath =>
    cases h
    dsimp only
    split
    next id _ => exact .inl (.commands [.queryConnPath id] rfl)
    · exact .inl (.quiet rfl)
  | storeResetQuit =>
    cases h
    exact .inl (.commands [.shutdown] rfl)
  | storeResetContinue =>
    cases h
    exact .inr (.inl ⟨rfl, core_persistStore ctx env _⟩)
  | deleteProfile id =>
    cases h
    exact .inl (a.shape_deleteProfile ctx env id)
  | connect id =>
    cases h
    unfold connectProfile
    split
    · exact .inl (.quiet rfl)
    next p _ =>
      split
      next key hkey =>
        split
        · exact .inl (.commands [.connect p key.secret] rfl)
        · split
          · exact .inl (.forms (.editing hkey) rfl)
          · exact .inl (.quiet rfl)
      · exact .inl (.quiet rfl)
  | disconnect id =>
    cases h
    exact .inl (.commands [.disconnect id] rfl)
  | exportPicked path =>
    cases h
    dsimp only
    split
    next path => exact .inr (.inr ⟨path, rfl⟩)
    · exact .inl (.quiet rfl)
  | importPicked path =>
    cases path with
    | none =>
      cases h
      exact .inl (.quiet rfl)
    | some path => exact .inl (a.shape_importProfiles ctx env rfl h)
  | newKeyCreate => exact .inl (a.shape_createKeyForProfileForm ctx env rfl h)
  | deleteKey id =>
    cases h
    exact .inl (a.shape_deleteKey ctx env id)
  | keyGenerateSecret =>
    simp only [update] at h
    split at h <;> cases h
    next form secret _ hform _ =>
      have hf := KeyFormFrom.changed (a := a) (g := fun f => { f with secret }) fun _ => rfl
      rw [hform] at hf
      exact .inl (.forms hf rfl)
    · exact .inl (.quiet rfl)
  | keyFormSave =>
    cases h
    exact .inl (a.shape_saveKeyForm ctx env)
  | profileFormSave =>
    cases h
    exact .inl (a.shape_saveProfileForm ctx env)
  | deleteForward profileId forwardId =>
    cases h
    exact .inl (a.shape_deleteForward ctx env profileId forwardId)
  | toggleForward profileId forwardId enabled =>
    cases h
    exact .inl (a.shape_toggleForward ctx env profileId forwardId enabled)
  | formSave =>
    cases h
    exact .inl (a.shape_saveForwardForm ctx env rfl)
  | deleteServer =>
    cases h
    exact .inl (a.shape_deleteServer ctx env)
  | setServerEnabled enabled =>
    cases h
    exact .inl (a.shape_setServerEnabled ctx env enabled)
  | restartServer =>
    cases h
    unfold restartServer
    split
    · exact .inl (.quiet rfl)
    next server _ =>
      split
      · exact .inl (.commands [.restartServer server] rfl)
      · exact .inl (.commands [.stopServer] rfl)
  | serverFormSave =>
    cases h
    exact .inl (a.shape_saveServerForm ctx env)
  | clientFormSave =>
    cases h
    exact .inl (a.shape_saveClientForm ctx env)
  | removeClient publicKey =>
    cases h
    exact .inl (a.shape_removeClient ctx env publicKey)
  | identityFormSave =>
    cases h
    exact .inl (a.shape_saveIdentityForm ctx env)
  | editForward | clientUseOwnKey =>
    cases h
    dsimp only
    split <;> exact .inl (.quiet rfl)
  | editProfile | beginServerSetup | editServer =>
    cases h
    dsimp only
    split
    · exact .inl (.forms .closed rfl)
    · exact .inl (.quiet rfl)
  | editKey id =>
    cases h
    dsimp only
    split
    next hkey => exact .inl (.forms (.editing hkey) rfl)
    · exact .inl (.quiet rfl)
  | addKey =>
    cases h
    exact .inl (.forms .added rfl)
  | keyNameChanged | keySecretChanged =>
    cases h
    exact .inl (a.shape_onKeyForm ctx env fun _ => rfl)
  | select | addProfile | keyFormCancel =>
    cases h
    exact .inl (.forms .closed rfl)
  | setUpServer =>
    cases h
    exact .inl (a.shape_setUpServer ctx env)
  | exportKey id =>
    cases h
    refine .inl (.quiet ?_)
    unfold exportKey
    dsimp only
    repeat' split
    all_goals rfl
  | exportServerSecret =>
    cases h
    refine .inl (.quiet ?_)
    unfold exportServerSecret
    dsimp only
    repeat' split
    all_goals rfl
  | _ =>
    -- the rest open, edit or close another form
    cases h
    exact .inl (.quiet rfl)

end App

/-! ## Effects -/

namespace Core

variable {ctx : AppContext} {env : Surroundings} {c d : Core}

/-- `e` reports the save of the records of `c`, which found the world `w` and left the one of
`c`. -/
def SavedBy (ctx : AppContext) (env : Surroundings) (w : World) (c : Core) (e : AppEffect) :
    Prop :=
  ∃ result, ({ c with world := w } : Core).saveResult ctx env = (result, c.world) ∧
    e = c.savedAs result

theorem exists_of_mem_calls {cs : List ControllerCall} {e : AppEffect}
    (h : e ∈ cs.map AppEffect.call) : ∃ c, e = .call c := by
  obtain ⟨c, -, rfl⟩ := List.mem_map.1 h
  exact ⟨c, rfl⟩

/-- A save changes nothing but the world, and reports itself. -/
theorem persist_effects (ctx : AppContext) (env : Surroundings) (c : Core) :
    (c.persist ctx env).records = c.records ∧ (c.persist ctx env).storeReset = c.storeReset ∧
      ∃ saves, (c.persist ctx env).effects = c.effects ++ saves ∧
        ∀ e ∈ saves, c.storeReset = none ∧ SavedBy ctx env c.world (c.persist ctx env) e := by
  unfold persist
  split
  · exact ⟨rfl, rfl, [], by simp, by simp⟩
  next h =>
    refine ⟨rfl, rfl, [_], rfl, fun e he => ?_⟩
    rw [List.mem_singleton] at he
    exact ⟨by simpa using h, _, rfl, he⟩

theorem persist_world {P : World → Prop}
    (hsave : ∀ c : Core, P c.world → P (c.saveResult ctx env).2)
    (c : Core) (hc : P c.world) : P (c.persist ctx env).world := by
  unfold persist
  split
  · exact hc
  · exact hsave c hc

end Core

namespace App

variable {ctx : AppContext} {env : Surroundings} {a b : App} {msg : Message}

/-- **The effects of an update.** It notes what it changes first; the rest of its effects
are commands and saves of the records it ends with, and a save finds no unanswered reset
warning. -/
theorem update_effects (h : a.update ctx env msg = .ok b) :
    ∃ notes rest, Change ctx env a msg notes b.records ∧ a.KeyFormFrom b.keyForm ∧
      b.effects = a.effects ++ notes ++ rest ∧
      (b.storeReset = a.storeReset ∨ msg = .storeResetContinue) ∧
      ∀ e ∈ rest, (∃ c, e = .call c) ∨
        ((a.storeReset = none ∨ msg = .storeResetContinue) ∧
          b.core.SavedBy ctx env a.world e) := by
  obtain hshape | ⟨hmsg, hb⟩ | ⟨path, hb⟩ := a.update_shape ctx env h
  · cases hshape with
    | unsaved r notes cs f hr hf hb =>
      have hrecords : b.records = r := congrArg Core.records hb
      have hkeyForm : b.keyForm = f := congrArg Core.keyForm hb
      refine ⟨notes, cs.map .call, hrecords ▸ hr, hkeyForm ▸ hf, congrArg Core.effects hb,
        .inl (congrArg Core.storeReset hb), fun e he => .inl (Core.exists_of_mem_calls he)⟩
    | saved r notes cs ds f hr hf hb =>
      obtain ⟨hrecords, hreset, saves, heffects, hsaves⟩ :=
        Core.persist_effects ctx env (((a.core.store r).note notes).calls cs)
      have hr' : b.records = r := (congrArg Core.records hb).trans hrecords
      have hkeyForm : b.keyForm = f := congrArg Core.keyForm hb
      refine ⟨notes, cs.map .call ++ (saves ++ ds.map .call), hr' ▸ hr, hkeyForm ▸ hf, ?_,
        .inl ((congrArg Core.storeReset hb).trans hreset), fun e he => ?_⟩
      · have hb' : b.effects = _ ++ ds.map .call := congrArg Core.effects hb
        rw [hb', heffects]
        simp [Core.calls, Core.note, Core.store, core]
      rcases List.mem_append.1 he with he | he
      · exact .inl (Core.exists_of_mem_calls he)
      rcases List.mem_append.1 he with he | he
      · obtain ⟨hnone, result, hsave, rfl⟩ := hsaves e he
        rw [hb]
        exact .inr ⟨.inl hnone, result, hsave, rfl⟩
      · exact .inl (Core.exists_of_mem_calls he)
  · obtain ⟨hrecords, -, saves, heffects, hsaves⟩ :=
      Core.persist_effects ctx env { a.core with storeReset := none }
    have hr : b.records = a.records := (congrArg Core.records hb).trans hrecords
    have hkeyForm : b.keyForm = a.keyForm :=
      (congrArg Core.keyForm hb).trans (Core.keyForm_persist ctx env _)
    refine ⟨[], saves, hr ▸ .none, hkeyForm ▸ .same, ?_, .inr hmsg,
      fun e he => .inr ⟨.inr hmsg, ?_⟩⟩
    · rw [show b.effects = _ from congrArg Core.effects hb, heffects, List.append_nil]
      rfl
    · rw [hb]
      exact (hsaves e he).2
  · have hr : b.records = a.records := congrArg Core.records hb
    have heffects : b.effects = a.effects := congrArg Core.effects hb
    have hkeyForm : b.keyForm = a.keyForm := congrArg Core.keyForm hb
    exact ⟨[], [], hr ▸ .none, hkeyForm ▸ .same, by simp [heffects],
      .inl (congrArg Core.storeReset hb), by simp⟩

/-- What every save and every export keeps of the world, every update keeps. -/
theorem update_world {P : World → Prop} (hsave : ∀ c : Core, P c.world → P (c.saveResult ctx env).2)
    (hexport : ∀ path, P a.world →
      P (exportProfiles ctx.crates.toStoreCrates env.platform path a.profiles a.world).2)
    (h : a.update ctx env msg = .ok b) (ha : P a.world) : P b.world := by
  have hpersist := Core.persist_world hsave
  obtain hshape | ⟨-, hb⟩ | ⟨path, hb⟩ := a.update_shape ctx env h
  · cases hshape with
    | unsaved r notes cs f hr hf hb =>
      have hworld : b.world = a.world := congrArg Core.world hb
      rwa [hworld]
    | saved r notes cs ds f hr hf hb =>
      rw [show b.world = _ from congrArg Core.world hb]
      exact hpersist _ ha
  · rw [show b.world = _ from congrArg Core.world hb]
    exact hpersist _ ha
  · rw [show b.world = _ from congrArg Core.world hb]
    exact hexport path ha

/-! ## Launch -/

def loadedCore (ctx : AppContext) (env : Surroundings) (w : World) : Core :=
  let r := loadStore ctx.crates.toStoreCrates env.platform ctx.backend w
  let (store, storeReset) := loadedAs r.1
  { records := ⟨store.keys, store.profiles, store.server⟩
    keyForm := none
    applied := none
    loginItemSetUp := store.loginItemSetUp
    storeReset
    world := r.2
    effects := [] }

/-- A launch loads the records, and saves them only to note the login item. -/
theorem core_boot (ctx : AppContext) (env : Surroundings) (w : World) :
    ∃ cs, (boot ctx env w).core = (loadedCore ctx env w).calls cs ∨
      (loadedCore ctx env w).storeReset = none ∧
        (boot ctx env w).core =
          (({ loadedCore ctx env w with loginItemSetUp := true } : Core).persist ctx env).calls
            cs := by
  have hlogin : ∀ a : App, (a.setUpLoginItem ctx env).core = a.core ∨
      a.storeReset = none ∧ (a.setUpLoginItem ctx env).core =
        ({ a.core with loginItemSetUp := true } : Core).persist ctx env := by
    intro a
    unfold setUpLoginItem
    split
    · split
      next hnone =>
        split
        · refine .inr ⟨?_, core_persistStore ctx env _⟩
          simp only [Bool.and_eq_true, Option.isNone_iff_eq_none] at hnone
          exact hnone.2
        · exact .inl rfl
      · exact .inl rfl
    · exact .inl rfl
  have hresume : ∀ a : App, ∃ cs,
      (if a.server.isSome then a.resumeServer env else a).core = a.core.calls cs := by
    intro a
    split
    · exact a.core_resumeServer env
    · exact ⟨[], by rw [Core.calls_nil]⟩
  unfold boot
  dsimp only
  obtain ⟨cs, hcs⟩ := hresume (setUpLoginItem ctx env _)
  refine ⟨cs, ?_⟩
  obtain h | ⟨hnone, h⟩ := hlogin _
  · exact .inl (hcs.trans (by rw [h]; rfl))
  · exact .inr ⟨hnone, hcs.trans (by rw [h]; rfl)⟩

/-- **The effects of a launch**: commands, and a save if the store loaded whole. -/
theorem boot_effects (ctx : AppContext) (env : Surroundings) (w : World) :
    (boot ctx env w).records = (loadedCore ctx env w).records ∧
      (boot ctx env w).keyForm = none ∧
      (boot ctx env w).storeReset = (loadedCore ctx env w).storeReset ∧
      ∀ e ∈ (boot ctx env w).effects, (∃ c, e = .call c) ∨
        ((loadedCore ctx env w).storeReset = none ∧
          (boot ctx env w).core.SavedBy ctx env (loadedCore ctx env w).world e) := by
  obtain ⟨cs, hb | ⟨hnone, hb⟩⟩ := core_boot ctx env w
  · refine ⟨congrArg Core.records hb, congrArg Core.keyForm hb, congrArg Core.storeReset hb,
      fun e he => .inl ?_⟩
    have heffects : (boot ctx env w).effects = [] ++ cs.map .call := congrArg Core.effects hb
    rw [heffects, List.nil_append] at he
    exact Core.exists_of_mem_calls he
  obtain ⟨hrecords, hreset, saves, heffects, hsaves⟩ := Core.persist_effects ctx env
    { loadedCore ctx env w with loginItemSetUp := true }
  refine ⟨(congrArg Core.records hb).trans hrecords,
    (congrArg Core.keyForm hb).trans (Core.keyForm_persist ctx env _),
    (congrArg Core.storeReset hb).trans hreset, fun e he => ?_⟩
  have hb' : (boot ctx env w).effects = _ ++ cs.map .call := congrArg Core.effects hb
  rw [hb', heffects] at he
  rcases List.mem_append.1 he with he | he
  · obtain ⟨-, result, hsave, rfl⟩ := hsaves e (by simpa [loadedCore] using he)
    rw [hb]
    exact .inr ⟨hnone, result, hsave, rfl⟩
  · exact .inl (Core.exists_of_mem_calls he)

/-- What the load and every save keep of the world, a launch keeps. -/
theorem boot_world {ctx : AppContext} {env : Surroundings} {w : World} {P : World → Prop}
    (hsave : ∀ c : Core, P c.world → P (c.saveResult ctx env).2)
    (hload : P (loadedCore ctx env w).world) : P (boot ctx env w).world := by
  obtain ⟨cs, hb | ⟨-, hb⟩⟩ := core_boot ctx env w
  · rw [show (boot ctx env w).world = _ from congrArg Core.world hb]
    exact hload
  · rw [show (boot ctx env w).world = _ from congrArg Core.world hb]
    exact Core.persist_world hsave _ hload

end App

/-! ## Steps -/

/-- A step of the app: the launch or an update. -/
inductive AppStep (ctx : AppContext) :
    AppState → AppLabel → AppState → List AppEffect → Prop
  | boot (w : World) (env : Surroundings) :
      AppStep ctx (.launching w) (.boot env) (.running { App.boot ctx env w with effects := [] })
        (App.boot ctx env w).effects
  | update (a : App) (env : Surroundings) (msg : Message) (b : App)
      (h : a.update ctx env msg = .ok b) :
      AppStep ctx (.running a) (.update env msg) (.running { b with effects := [] }) b.effects

/-- Every step of the app is one of these. -/
theorem app_step_cases {ctx : AppContext} {s t : AppState} {l : AppLabel} {es : List AppEffect}
    (h : (app ctx).step s l = some (t, es)) : AppStep ctx s l t es := by
  cases s with
  | launching w =>
    cases l with
    | boot env =>
      cases h
      exact .boot w env
    | update env msg => cases h
  | running a =>
    cases l with
    | boot env => cases h
    | update env msg =>
      simp only [app, AppState.step] at h
      split at h
      · cases h
      split at h <;> cases h
      next b hb => exact .update a env msg b hb

end Flextunnel.Model
