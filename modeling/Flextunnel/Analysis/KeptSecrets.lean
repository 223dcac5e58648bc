import Flextunnel.Analysis.LoadFilters

/-!
# A save keeps the secrets a load brought

A store that could not be loaded whole must not be overwritten before the user says so, and
one that was loaded whole must not lose a secret on a later save.
-/

set_option autoImplicit false

namespace Flextunnel.Analysis

open Lib Model

/-! ## The secrets under one id -/

def isUnder (id : String) (e : String × String) : Bool := e.1 == id && e.2 != ""

def keyEntries (keys : List AuthKey) : List (String × String) :=
  keys.map fun k => (k.id, k.secret)

def profileEntries (profiles : List Profile) : List (String × String) :=
  profiles.map fun p => (profileRelaySecretId p.id, p.relayAuthToken.getD "")

def serverEntries (server : Option ServerConfig) : List (String × String) :=
  server.toList.flatMap fun s =>
    [(serverSecretId, s.secret), (serverRelaySecretId, s.relayAuthToken.getD "")]

/-- What a save finds under one id of the sealed map. -/
def secretsUnder (id : String) (r : Records) : List (String × String) :=
  (keyEntries r.keys).filter (isUnder id) ++ (profileEntries r.profiles).filter (isUnder id) ++
    (serverEntries r.server).filter (isUnder id)

theorem secretsUnder_eq (id : String) (r : Records) :
    secretsUnder id r = (secretEntries r.keys r.profiles r.server).filter (isUnder id) := by
  simp only [secretsUnder, secretEntries, List.filter_append]
  rfl

variable {id secret : String} {profiles : List Profile} {w : World}
    {es log : List (AppLabel ⊕ AppEffect)} {l : AppLabel} {s : AppState}
    {secrets : List (String × String)} {env : Surroundings}

theorem isUnder_eq_false {e : String × String} (h : e.1 ≠ id) : isUnder id e = false := by
  simp [isUnder, h]

/-! ## One change of the records -/

theorem filter_entries_upsert {α : Type} {key : α → String} {entry : α → String × String} {x : α}
    {xs : List α} (h : ∀ y, key y = key x → (entry y).1 ≠ id) :
    ((upsert key x xs).map entry).filter (isUnder id) = (xs.map entry).filter (isUnder id) := by
  rw [List.filter_map, List.filter_map, filter_upsert]
  exact fun y hy => isUnder_eq_false (h y hy)

theorem filter_keyEntries_filter {id' : String} {keys : List AuthKey} (h : id' ≠ id) :
    (keyEntries (keys.filter fun k => k.id != id')).filter (isUnder id) =
      (keyEntries keys).filter (isUnder id) := by
  unfold keyEntries
  rw [List.filter_map, List.filter_map, List.filter_filter]
  apply congrArg
  apply List.filter_congr
  intro k _
  by_cases hk : k.id = id'
  · simp [isUnder, hk, h]
  · simp [hk]

theorem filter_profileEntries_eraseIdx {pos : Nat} {p : Profile} (hpos : profiles[pos]? = some p)
    (h : profileRelaySecretId p.id ≠ id) :
    (profileEntries (profiles.eraseIdx pos)).filter (isUnder id) =
      (profileEntries profiles).filter (isUnder id) := by
  obtain ⟨hlt, hp⟩ := List.getElem?_eq_some_iff.1 hpos
  have hsplit : profiles = profiles.take pos ++ p :: profiles.drop (pos + 1) := by
    rw [← hp, List.getElem_cons_drop, List.take_append_drop]
  rw [List.eraseIdx_eq_take_drop_succ]
  conv_rhs => rw [hsplit]
  have hnone : isUnder id (profileRelaySecretId p.id, p.relayAuthToken.getD "") = false :=
    isUnder_eq_false h
  simp [profileEntries, hnone]

theorem filter_profileEntries_merged {ids : MergeIds} {imported : List Profile} {m : Merged}
    (h : mergeImported ids profiles imported = .ok m) :
    (profileEntries m.profiles).filter (isUnder id) =
      (profileEntries profiles).filter (isUnder id) := by
  refine foldlM_invariant (P := fun m : Merged => (profileEntries m.profiles).filter (isUnder id) =
    (profileEntries profiles).filter (isUnder id)) ?_ rfl h
  intro m entry m' hm hone
  rw [← hm]
  obtain ⟨pos, old, p, hold, hprofiles, hid, -, htoken, -⟩ | ⟨p, hprofiles, -, -, htoken, -⟩ :=
    mergeOne_cases hone
  · congr 1
    rw [hprofiles]
    unfold profileEntries
    rw [List.map_set, hid, htoken]
    obtain ⟨hlt, rfl⟩ := List.getElem?_eq_some_iff.1 hold
    apply List.ext_getElem?
    intro i
    rw [List.getElem?_set]
    split
    next heq =>
      subst heq
      simp [hlt]
    · rfl
  · rw [hprofiles]
    simp [profileEntries, htoken, isUnder]

theorem filter_serverEntries_congr {s s' : ServerConfig}
    (hsecret : id = serverSecretId → s.secret = s'.secret)
    (htoken : id = serverRelaySecretId → s.relayAuthToken = s'.relayAuthToken) :
    (serverEntries (some s)).filter (isUnder id) =
      (serverEntries (some s')).filter (isUnder id) := by
  have hentry : ∀ name secret secret' : String, (id = name → secret = secret') →
      [(name, secret)].filter (isUnder id) = [(name, secret')].filter (isUnder id) := by
    intro name secret secret' hsame
    by_cases h : id = name
    · rw [hsame h]
    · simp [isUnder, Ne.symm h]
  show ([(serverSecretId, s.secret)] ++ [(serverRelaySecretId, s.relayAuthToken.getD "")]).filter
      (isUnder id) =
    ([(serverSecretId, s'.secret)] ++ [(serverRelaySecretId, s'.relayAuthToken.getD "")]).filter
      (isUnder id)
  rw [List.filter_append, List.filter_append, hentry _ _ _ hsecret,
    hentry _ _ _ fun h => congrArg (Option.getD · "") (htoken h)]

theorem filter_serverEntries_eq_nil (h : id ≠ serverSecretId) (h' : id ≠ serverRelaySecretId)
    (server : Option ServerConfig) : (serverEntries server).filter (isUnder id) = [] := by
  cases server with
  | none => rfl
  | some s => simp [serverEntries, isUnder, Ne.symm h, Ne.symm h']

theorem ServerForm.validate_secret {crates : AppCrates} {form : ServerForm}
    {current : Option ServerConfig} {server : ServerConfig} (hform : form.identity = none)
    (h : form.validate crates current = .ok server) :
    ∃ s, current = some s ∧ server.secret = s.secret := by
  obtain ⟨base, hbase, hsecret, -⟩ := ServerForm.exists_base h
  unfold ServerForm.base at hbase
  rw [hform] at hbase
  cases current with
  | none => cases hbase
  | some s =>
    cases hbase
    exact ⟨base, rfl, hsecret⟩

variable {ctx : AppContext} {env : Surroundings} {a b : App} {msg : Message}
  {notes : List AppEffect} {r : Records} {id : String}

def Unnoted (id : String) (es : List AppEffect) : Prop :=
  AppEffect.edited id ∉ es ∧ AppEffect.deleted id ∉ es

/-- A change that notes an id neither as edited nor as deleted leaves the secrets under it. -/
theorem secretsUnder_of_change (h : Change ctx env a msg notes r) (hid : Unnoted id notes) :
    secretsUnder id r = secretsUnder id a.records := by
  obtain ⟨hedited, hdeleted⟩ := hid
  unfold secretsUnder
  cases h with
  | none => rfl
  | profileSaved form p _ _ | keySaved form key _ _ =>
    unfold profileEntries keyEntries
    rw [filter_entries_upsert]
    · rfl
    · rintro x hx rfl
      simp [hx] at hedited
  | keyCreated prompt name secret publicKey _ _ _ =>
    have hnone : isUnder id (randomId env.newId, secret) = false := by
      apply isUnder_eq_false
      rintro rfl
      exact hedited (List.mem_singleton_self _)
    simp [keyEntries, hnone, App.records]
  | keyDeleted id' _ =>
    rw [filter_keyEntries_filter]
    · rfl
    · rintro rfl
      exact hdeleted (List.mem_singleton_self _)
  | profileDeleted id' pos hpos =>
    obtain ⟨hlt, hp, -⟩ := List.findIdx?_eq_some_iff_getElem.1 hpos
    have hp : a.profiles[pos].id = id' := by simpa using hp
    rw [filter_profileEntries_eraseIdx (List.getElem?_eq_getElem hlt)]
    · rfl
    · rw [hp]
      rintro rfl
      exact hdeleted (List.mem_singleton_self _)
  | forwards profiles hsame _ =>
    -- the ids and tokens are those of the profiles without their forwards
    have hentries : ∀ ps : List Profile,
        profileEntries ps = profileEntries (ps.map Profile.withoutForwards) := by
      intro ps
      unfold profileEntries
      rw [List.map_map]
      rfl
    rw [hentries profiles, hsame, ← hentries]
    rfl
  | merged path imported m _ _ hm =>
    rw [filter_profileEntries_merged hm]
    rfl
  | serverSaved form server _ hvalid =>
    have hrelay : id ≠ serverRelaySecretId := by
      rintro rfl
      apply hedited
      unfold ServerForm.editedSecrets
      split <;> simp
    refine (List.append_right_inj _).2 ?_
    cases hform : form.identity with
    | none =>
      obtain ⟨s, hs, hsecret⟩ := ServerForm.validate_secret hform hvalid
      rw [show a.records.server = some s from hs]
      exact filter_serverEntries_congr (fun _ => hsecret) fun h => absurd h hrelay
    | some identity =>
      have hsecret : id ≠ serverSecretId := by
        rintro rfl
        apply hedited
        simp [ServerForm.editedSecrets, hform]
      rw [filter_serverEntries_eq_nil hsecret hrelay, filter_serverEntries_eq_nil hsecret hrelay]
  | serverDeleted server _ =>
    have h : id ≠ serverSecretId := by
      rintro rfl
      exact hdeleted List.mem_cons_self
    have h' : id ≠ serverRelaySecretId := by
      rintro rfl
      exact hdeleted (List.mem_cons_of_mem _ List.mem_cons_self)
    rw [filter_serverEntries_eq_nil h h', filter_serverEntries_eq_nil h h']
  | serverEnabled server enabled hserver | clientAdded form server client hserver _
  | clientsRemoved server publicKey hserver =>
    rw [show a.records.server = some server from hserver]
    rfl
  | identitySaved server identity secret endpointId hserver _ =>
    rw [show a.records.server = some server from hserver]
    refine (List.append_right_inj _).2 (filter_serverEntries_congr (fun h => ?_) fun _ => rfl)
    rw [h] at hedited
    exact absurd List.mem_cons_self hedited

/-! ## What a save writes -/

def devEntries (doc : DevFile) : List (String × String) :=
  doc.keys.map (fun s => (s.key.id, s.secret)) ++
    doc.profiles.map (fun s => (profileRelaySecretId s.profile.id, s.relayAuthToken.getD "")) ++
    doc.server.toList.flatMap fun s =>
      [(serverSecretId, s.secret), (serverRelaySecretId, s.relayAuthToken.getD "")]

/-- The document of a sealed backend is on disk, and the blob in it opens as a map that holds
this secret under this id. -/
def SealedHolds (crates : StoreCrates) (mock : Bool) (w : World) (id secret : String) : Prop :=
  ∃ path bytes store map, sealedPath w mock = .ok path ∧ w.files path = .present bytes ∧
    crates.storeJson.fromSlice bytes = .ok store ∧ store.sealedVersion = sealedVersion ∧
    Unseals crates w store.sealedKeys map ∧ map.lookup id = some secret

def StoreHolds (crates : StoreCrates) (backend : Option Backend) (w : World)
    (id secret : String) : Prop :=
  match backend with
  | none => False
  | some (.devFile path) => ∃ bytes doc, w.files path = .present bytes ∧
      crates.devJson.fromSlice bytes = .ok doc ∧ (id, secret) ∈ devEntries doc
  | some .keychain => SealedHolds crates false w id secret
  | some .mockKeychain => SealedHolds crates true w id secret

/-- The sealed map has the one secret under an id. -/
theorem lookup_of_secretsUnder (h : secretsUnder id r = [(id, secret)]) :
    (sealedMap (secretEntries r.keys r.profiles r.server)).lookup id = some secret := by
  rw [sealedMap, Table.lookup_collect, List.filter_filter]
  have hfilter : (secretEntries r.keys r.profiles r.server).filter
      (fun e => e.1 == id && decide (e.2 ≠ "")) = [(id, secret)] := by
    rw [← h, secretsUnder_eq]
    apply List.filter_congr
    intro e _
    by_cases he : e.2 = "" <;> simp [isUnder, he]
  rw [hfilter]
  rfl

theorem devEntries_persisted (r : Records) (loginItemSetUp : Bool) :
    devEntries (DevFile.persisted
      { keys := r.keys.map fun k => { secret := k.secret, key := k }
        profiles := r.profiles.map fun p => { relayAuthToken := p.relayAuthToken, profile := p }
        server := r.server.map fun s =>
          { secret := s.secret, relayAuthToken := s.relayAuthToken, server := s }
        loginItemSetUp }) = secretEntries r.keys r.profiles r.server := by
  simp only [devEntries, DevFile.persisted, secretEntries, List.map_map]
  cases r.server <;> rfl

/-- A save that succeeds leaves the secret in the store. -/
theorem storeHolds_of_save {crates : StoreCrates} {platform : Platform} {backend : Option Backend}
    {loginItemSetUp : Bool} {w' : World} (h : secretsUnder id r = [(id, secret)])
    (hsave : saveStore crates platform backend r.keys r.profiles r.server loginItemSetUp w =
      (.ok (), w')) : StoreHolds crates backend w' id secret := by
  have hsealed : ∀ mock,
      saveSealed crates platform mock r.keys r.profiles r.server loginItemSetUp w = (.ok (), w') →
      SealedHolds crates mock w' id secret := by
    intro mock hsave
    obtain ⟨blob, hdisk, hunseals⟩ := onDisk_of_saveSealed hsave
    obtain ⟨path, bytes, hpath, hfile, hbytes⟩ := hdisk.exists_path
    obtain ⟨store, hread, rfl⟩ := crates.storeJson.fromSlice_toVec _ _ hbytes
    exact ⟨path, bytes, _, _, hpath, hfile, hread, rfl, hunseals w' (.inl rfl),
      lookup_of_secretsUnder h⟩
  cases backend with
  | none => cases hsave
  | some b =>
    cases b with
    | devFile path =>
      unfold saveStore saveDevFile writeJson at hsave
      dsimp only at hsave
      split at hsave <;> cases hsave
      next bytes hbytes _ =>
        obtain ⟨doc, hread, rfl⟩ := crates.devJson.fromSlice_toVec _ _ hbytes
        refine ⟨bytes, _, by simp, hread, ?_⟩
        have hmem : (id, secret) ∈ secretEntries r.keys r.profiles r.server := by
          have : (id, secret) ∈ secretsUnder id r := h ▸ List.mem_singleton_self _
          rw [secretsUnder_eq] at this
          exact List.mem_of_mem_filter this
        rw [devEntries_persisted]
        exact hmem
    | keychain => exact hsealed false hsave
    | mockKeychain => exact hsealed true hsave

/-! ## Before the reset warning is answered -/

def IsSave (e : AppLabel ⊕ AppEffect) : Prop :=
  ∃ keys profiles server loginItemSetUp ok, e = .inr (.saved keys profiles server loginItemSetUp ok)

def IsContinue (e : AppLabel ⊕ AppEffect) : Prop :=
  ∃ env, e = .inl (.update env .storeResetContinue)

/-- A step of a running app logs its label, its notes and then its saves. -/
theorem logged_step_cases {a : App} (h : (app ctx).logged.step (.running a) l = some (s, es))
    (ha : a.effects = []) :
    ∃ (env : Surroundings) (msg : Message) (b : App) (notes rest : List AppEffect),
      l = .update env msg ∧ s = .running { b with effects := [] } ∧
      es = .inl l :: (notes.map .inr ++ rest.map .inr) ∧
      Change ctx env a msg notes b.records ∧
      (b.storeReset = a.storeReset ∨ msg = .storeResetContinue) ∧
      ∀ e ∈ rest, (∃ c, e = .call c) ∨
        ((a.storeReset = none ∨ msg = .storeResetContinue) ∧
          b.core.SavedBy ctx env a.world e) := by
  obtain ⟨es', hstep, rfl⟩ := (app ctx).logged_step_eq_some.1 h
  obtain _ | ⟨_, env, msg, b, hb⟩ := app_step_cases hstep
  obtain ⟨notes, rest, hchange, -, heffects, hreset, hrest⟩ := App.update_effects hb
  refine ⟨env, msg, b, notes, rest, rfl, rfl, ?_, hchange, hreset, hrest⟩
  rw [heffects, ha, List.nil_append, List.map_append]

/-- Nothing is saved before the warning is answered, and while it is not the flag stays. -/
structure Waits (log : List (AppLabel ⊕ AppEffect)) (s : AppState) : Prop where
  running : ∃ a, s = .running a ∧ a.effects = [] ∧
    (a.storeReset = none → ∃ e ∈ log, IsContinue e)
  preceded : Preceded IsSave (fun e _ => IsContinue e) log

/-- No step saves before the warning is answered. -/
theorem waits_step {t : AppState} (hs : Waits log s)
    (h : (app ctx).logged.step s l = some (t, es)) : Waits (log ++ es) t := by
  obtain ⟨⟨a, rfl, ha, hflag⟩, hlog⟩ := hs
  obtain ⟨env, msg, b, notes, rest, rfl, rfl, rfl, hchange, hreset, hrest⟩ :=
    logged_step_cases h ha
  -- either the flag was down, or this message answers the warning
  have hopen : a.storeReset = none ∨ msg = .storeResetContinue →
      ∃ e ∈ log ++ [.inl (.update env msg)], IsContinue e := by
    rintro (hnone | rfl)
    · obtain ⟨e, he, hcont⟩ := hflag hnone
      exact ⟨e, List.mem_append_left _ he, hcont⟩
    · exact ⟨_, List.mem_append_right _ (List.mem_singleton_self _), env, rfl⟩
  rw [List.append_cons]
  refine ⟨⟨_, rfl, rfl, fun hnone => ?_⟩, ?_⟩
  · obtain ⟨e, he, hcont⟩ := hopen (hreset.imp_left fun hsame => hsame.symm.trans hnone)
    exact ⟨e, List.mem_append_left _ he, hcont⟩
  have hlabel : Preceded IsSave (fun e _ => IsContinue e) (log ++ [.inl (.update env msg)]) :=
    hlog.append fun e he hsave => by
      obtain rfl := List.mem_singleton.1 he
      obtain ⟨_, _, _, _, _, hno⟩ := hsave
      cases hno
  refine hlabel.append fun e he hsave => ?_
  obtain ⟨_, _, _, _, _, rfl⟩ := hsave
  rcases List.mem_append.1 he with he | he
  · obtain ⟨e, he, heq⟩ := List.mem_map.1 he
    obtain ⟨id, rfl | rfl⟩ := hchange.mem_notes he <;> cases heq
  obtain ⟨e, he, heq⟩ := List.mem_map.1 he
  obtain rfl := Sum.inr.inj heq
  obtain ⟨c, hno⟩ | ⟨hdown, -⟩ := hrest _ he
  · cases hno
  · exact hopen hdown

/-! ## After a load of the whole store -/

/-- Every save before which the id was not noted finds `secrets` under it. -/
def SavesFind (id : String) (secrets : List (String × String))
    (log : List (AppLabel ⊕ AppEffect)) : Prop :=
  ∀ pre keys profiles server loginItemSetUp ok post,
    log = pre ++ .inr (.saved keys profiles server loginItemSetUp ok) :: post →
    .inr (.edited id) ∉ pre → .inr (.deleted id) ∉ pre →
    secretsUnder id ⟨keys, profiles, server⟩ = secrets

theorem SavesFind.append (h : SavesFind id secrets log)
    (hes : ∀ keys profiles server loginItemSetUp ok,
      .inr (.saved keys profiles server loginItemSetUp ok) ∈ es →
      .inr (.edited id) ∉ log → .inr (.deleted id) ∉ log →
      secretsUnder id ⟨keys, profiles, server⟩ = secrets) : SavesFind id secrets (log ++ es) := by
  intro pre keys profiles server loginItemSetUp ok post heq hedited hdeleted
  rcases split_append heq with ⟨post', -, hlog⟩ | ⟨mid, rfl, hmid⟩
  · exact h pre keys profiles server loginItemSetUp ok post' hlog hedited hdeleted
  · exact hes keys profiles server loginItemSetUp ok (by rw [hmid]; simp)
      (fun hmem => hedited (List.mem_append_left _ hmem))
      (fun hmem => hdeleted (List.mem_append_left _ hmem))

/-- The records have `secrets` under the id as long as it was not noted, and so had every
save. -/
structure KeepsUnder (id : String) (secrets : List (String × String))
    (log : List (AppLabel ⊕ AppEffect)) (s : AppState) : Prop where
  running : ∃ a, s = .running a ∧ a.effects = [] ∧
    (.inr (.edited id) ∉ log → .inr (.deleted id) ∉ log → secretsUnder id a.records = secrets)
  saves : SavesFind id secrets log

/-- Every step saves what is under an id that was not noted. -/
theorem keepsUnder_step {t : AppState} (hs : KeepsUnder id secrets log s)
    (h : (app ctx).logged.step s l = some (t, es)) : KeepsUnder id secrets (log ++ es) t := by
  obtain ⟨⟨a, rfl, ha, hrecords⟩, hsaves⟩ := hs
  obtain ⟨env, msg, b, notes, rest, rfl, rfl, rfl, hchange, -, hrest⟩ := logged_step_cases h ha
  rw [← List.cons_append, ← List.append_assoc]
  generalize hlog' : log ++ .inl (.update env msg) :: notes.map Sum.inr = log'
  -- the notes come before what the update saves
  have hb : .inr (.edited id) ∉ log' → .inr (.deleted id) ∉ log' →
      secretsUnder id b.records = secrets := by
    subst hlog'
    intro hedited hdeleted
    simp only [List.mem_append, List.mem_cons, List.mem_map, not_or] at hedited hdeleted
    rw [secretsUnder_of_change hchange
      ⟨fun hmem => hedited.2.2 ⟨_, hmem, rfl⟩, fun hmem => hdeleted.2.2 ⟨_, hmem, rfl⟩⟩]
    exact hrecords hedited.1 hdeleted.1
  have hsaves' : SavesFind id secrets log' := by
    subst hlog'
    refine hsaves.append fun _ _ _ _ _ hmem => ?_
    simp only [List.mem_cons, List.mem_map, reduceCtorEq, false_or] at hmem
    obtain ⟨e, he, heq⟩ := hmem
    obtain ⟨id, rfl | rfl⟩ := hchange.mem_notes he <;> cases heq
  refine ⟨⟨_, rfl, rfl, fun hedited hdeleted => ?_⟩, hsaves'.append fun _ _ _ _ _ hmem => ?_⟩
  · exact hb (fun hmem => hedited (List.mem_append_left _ hmem))
      (fun hmem => hdeleted (List.mem_append_left _ hmem))
  obtain ⟨e, he, heq⟩ := List.mem_map.1 hmem
  obtain rfl := Sum.inr.inj heq
  obtain ⟨c, hno⟩ | ⟨-, result, -, hsaved⟩ := hrest _ he
  · cases hno
  · obtain ⟨rfl, rfl, rfl, -⟩ := AppEffect.saved.inj hsaved
    exact hb

/-! ## Whole sessions -/

theorem logged_boot (h : (app ctx).logged.step (.launching w) (.boot env) = some (s, es)) :
    s = .running { App.boot ctx env w with effects := [] } ∧
      es = .inl (.boot env) :: (App.boot ctx env w).effects.map .inr := by
  obtain ⟨es', hstep, rfl⟩ := (app ctx).logged_step_eq_some.1 h
  cases app_step_cases hstep
  exact ⟨rfl, rfl⟩

structure LoadedWhole (load : Except String Store) (store : Store) : Prop where
  ok : load = .ok store
  unsealed : store.unsealFailed = false
  version : store.sealedResetFrom = none

theorem exists_loadedWhole {load : Except String Store} (h : (App.loadedAs load).2 = none) :
    ∃ store, LoadedWhole load store := by
  cases load with
  | error e => cases h
  | ok store =>
    refine ⟨store, rfl, ?_, ?_⟩
    · cases hfailed : store.unsealFailed with
      | false => rfl
      | true =>
        rw [App.loadedAs, App.resetOf, hfailed] at h
        split at h <;> simp_all
    · cases hversion : store.sealedResetFrom with
      | none => rfl
      | some v => simp [App.loadedAs, App.resetOf, hversion] at h

theorem mem_effects_of_boot {es : List AppEffect} {e : AppEffect}
    {pre post : List (AppLabel ⊕ AppEffect)}
    (h : .inl (.boot env) :: es.map .inr = pre ++ .inr e :: post) : e ∈ es := by
  have hmem : (.inr e : AppLabel ⊕ AppEffect) ∈ .inl (.boot env) :: es.map .inr := by
    rw [h]
    exact List.mem_append_right _ List.mem_cons_self
  simpa using hmem

/-- The launch on a store that was not loaded whole saves nothing. -/
theorem waits_boot (h : ¬∃ store, LoadedWhole
      (loadStore ctx.crates.toStoreCrates env.platform ctx.backend w).1 store) :
    Waits (.inl (.boot env) :: (App.boot ctx env w).effects.map .inr)
      (.running { App.boot ctx env w with effects := [] }) := by
  obtain ⟨-, -, hreset, heffects⟩ := App.boot_effects ctx env w
  have hflag : (App.loadedCore ctx env w).storeReset ≠ none := fun hnone =>
    h (exists_loadedWhole hnone)
  refine ⟨⟨_, rfl, rfl, fun hnone => absurd (hreset.symm.trans hnone) hflag⟩, ?_⟩
  rintro pre e post heq ⟨_, _, _, _, _, rfl⟩
  obtain ⟨c, hno⟩ | ⟨hnone, -⟩ := heffects _ (mem_effects_of_boot heq)
  · cases hno
  · exact absurd hnone hflag

/-- The launch keeps what the load brought. -/
theorem keepsUnder_boot (id : String) :
    KeepsUnder id (secretsUnder id (App.loadedCore ctx env w).records)
      (.inl (.boot env) :: (App.boot ctx env w).effects.map .inr)
      (.running { App.boot ctx env w with effects := [] }) := by
  obtain ⟨hrecords, -, -, heffects⟩ := App.boot_effects ctx env w
  refine ⟨⟨_, rfl, rfl, fun _ _ => congrArg (secretsUnder id) hrecords⟩, ?_⟩
  intro pre keys profiles server loginItemSetUp ok post heq _ _
  obtain ⟨c, hno⟩ | ⟨-, result, -, hsaved⟩ := heffects _ (mem_effects_of_boot heq)
  · cases hno
  · obtain ⟨rfl, rfl, rfl, -⟩ := AppEffect.saved.inj hsaved
    exact congrArg (secretsUnder id) hrecords

/-- Loaded entries have distinct ids. -/
theorem secretsUnder_of_filtered {crates : StoreCrates} (hr : Filtered crates r)
    (hmem : (id, secret) ∈ secretEntries r.keys r.profiles r.server) (hne : secret ≠ "") :
    secretsUnder id r = [(id, secret)] := by
  have hnodup : ((secretEntries r.keys r.profiles r.server).map Prod.fst).Nodup :=
    nodup_secretIds hr.keys hr.profiles
  have hunder : ((secretsUnder id r).map Prod.fst).Nodup := by
    rw [secretsUnder_eq]
    exact hnodup.sublist (List.filter_sublist.map _)
  have hids : ∀ e ∈ secretsUnder id r, e.1 = id := by
    intro e he
    rw [secretsUnder_eq] at he
    have hp := (List.mem_filter.1 he).2
    simp only [isUnder, Bool.and_eq_true, beq_iff_eq] at hp
    exact hp.1
  have hsecret : (id, secret) ∈ secretsUnder id r := by
    rw [secretsUnder_eq]
    exact List.mem_filter.2 ⟨hmem, by simp [isUnder, hne]⟩
  generalize secretsUnder id r = found at *
  -- two entries would share the id
  cases found with
  | nil => cases hsecret
  | cons e found =>
    cases found with
    | nil => rw [List.mem_singleton.1 hsecret]
    | cons e' found =>
      have he : e.1 = id := hids e (by simp)
      have he' : e'.1 = id := hids e' (by simp)
      simp [he, he'] at hunder

/-- **A save loses no secret a load brought.** Until the warning of a store that was not loaded
whole is answered, nothing is saved; if it was, every save writes each secret the load kept under
its id, unless the id was edited or deleted before. -/
theorem saves_keep_secrets (ctx : AppContext) (env : Surroundings) (w : World)
    (ls : List AppLabel) (s : AppState) (log : List (AppLabel ⊕ AppEffect))
    (hrun : (app ctx).logged.run (.launching w) (.boot env :: ls) = some (s, log)) :
    ((¬∃ store, LoadedWhole
        (loadStore ctx.crates.toStoreCrates env.platform ctx.backend w).1 store) →
      Preceded IsSave (fun e _ => IsContinue e) log) ∧
    ∀ store, LoadedWhole (loadStore ctx.crates.toStoreCrates env.platform ctx.backend w).1 store →
      ∀ id secret, (id, secret) ∈ secretEntries store.keys store.profiles store.server →
        secret ≠ "" →
        ∀ pre keys profiles server loginItemSetUp ok post,
          log = pre ++ .inr (.saved keys profiles server loginItemSetUp ok) :: post →
          .inr (.edited id) ∉ pre → .inr (.deleted id) ∉ pre →
          ∀ (platform : Platform) (v v' : World),
            saveStore ctx.crates.toStoreCrates platform ctx.backend keys profiles server
              loginItemSetUp v = (.ok (), v') →
            StoreHolds ctx.crates.toStoreCrates ctx.backend v' id secret := by
  obtain ⟨t, es, rest, hboot, hrest, rfl⟩ := (app ctx).logged.run_cons_eq_some.1 hrun
  obtain ⟨rfl, rfl⟩ := logged_boot hboot
  have hguard := (app ctx).logged.guarded_of_forall (C := fun _ _ => True) (fun _ _ => trivial)
  refine ⟨fun hreset => ?_, fun store hload id secret hmem hne => ?_⟩
  · exact ((app ctx).logged.history_rule (fun _ _ _ _ _ _ hP h => waits_step hP h)
      (waits_boot hreset) (hguard _ ls) hrest).preceded
  intro pre keys profiles server loginItemSetUp ok post heq hedited hdeleted platform v v' hsave
  have hkeeps := (app ctx).logged.history_rule (fun _ _ _ _ _ _ hP h => keepsUnder_step hP h)
    (keepsUnder_boot id) (hguard _ ls) hrest
  have hfound := hkeeps.saves pre keys profiles server loginItemSetUp ok post heq hedited hdeleted
  have hrecords : (App.loadedCore ctx env w).records = recordsOf store := by
    simp [App.loadedCore, App.loadedAs, hload.ok, recordsOf]
  rw [hrecords, secretsUnder_of_filtered (filtered_of_loadStore hload.ok) hmem hne] at hfound
  exact storeHolds_of_save hfound hsave

/-! ## A session -/

def sampleFile : DevFile where
  keys := [{ secret := "sec", key := sampleKey.persisted }]
  profiles := [{ relayAuthToken := some "psk", profile := sampleProfile.persisted }]
  server := some { secret := "identity", relayAuthToken := some "psk"
                   server := sampleServer.persisted }

/-- Crates whose dev files all hold the same document. -/
noncomputable def oneFileCrates : AppCrates :=
  { sampleCrates with
    devJson :=
      { toVec := fun doc => if doc.persisted = sampleFile then .ok [] else .error "disk full"
        fromSlice := fun _ => .ok sampleFile
        fromSlice_toVec := by
          intro doc bytes h
          split at h
          next heq => exact ⟨sampleFile, rfl, heq.symm⟩
          · cases h } }

noncomputable def devContext : AppContext where
  crates := oneFileCrates
  backend := some (.devFile "dev.json")

def devWorld : World := { files := fun _ => .present [] }

def toggleSession : List AppLabel :=
  [.boot sampleSurroundings, .update sampleSurroundings (.toggleForward "0" "f" true)]

theorem saves_keep_secrets_instance :
    ∃ s pre keys profiles server loginItemSetUp ok post v',
      (app devContext).logged.run (.launching devWorld) toggleSession =
        some (s, pre ++ .inr (.saved keys profiles server loginItemSetUp ok) :: post) ∧
      saveStore devContext.crates.toStoreCrates workingPlatform devContext.backend keys profiles
        server loginItemSetUp devWorld = (.ok (), v') ∧
      StoreHolds devContext.crates.toStoreCrates devContext.backend v' "00000000deadbeef"
        "sec" := by
  have hrun : ∃ s pre keys profiles server loginItemSetUp ok post v',
      (app devContext).logged.run (.launching devWorld) toggleSession =
        some (s, pre ++ .inr (.saved keys profiles server loginItemSetUp ok) :: post) ∧
      saveStore devContext.crates.toStoreCrates workingPlatform devContext.backend keys profiles
        server loginItemSetUp devWorld = (.ok (), v') ∧
      .inr (.edited "00000000deadbeef") ∉ pre ∧ .inr (.deleted "00000000deadbeef") ∉ pre := by
    refine ⟨_, [_, _, _], _, _, _, _, _, _, _, rfl, rfl, ?_, ?_⟩ <;> simp
  obtain ⟨s, pre, keys, profiles, server, loginItemSetUp, ok, post, v', hrun, hsave, hedited,
    hdeleted⟩ := hrun
  have h := (saves_keep_secrets devContext sampleSurroundings devWorld _ s _ hrun).2 _
    ⟨rfl, rfl, rfl⟩ "00000000deadbeef" "sec" (by decide) (by decide)
  exact ⟨s, pre, keys, profiles, server, loginItemSetUp, ok, post, v', hrun, hsave,
    h pre keys profiles server loginItemSetUp ok post rfl hedited hdeleted workingPlatform
      devWorld v' hsave⟩

end Flextunnel.Analysis
