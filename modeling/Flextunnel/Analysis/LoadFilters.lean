import Flextunnel.Analysis.Names
import Flextunnel.Analysis.StoreRoundTrip
import Flextunnel.Model.AppSteps

/-!
# Nothing the app saves is dropped by a load

The load-time filters refuse a record with a bad name or id, and a record with a value that
another one has. The app never makes such a record: each form checks, in its own words, what
the filters check, and the import merge finds every entry an id and a name. What an update draws at
random is assumed to be new (`Drawn`) where nothing is checked.
-/

set_option autoImplicit false

namespace Flextunnel.Analysis

open Lib Model

structure Filtered (crates : StoreCrates) (r : Records) : Prop where
  keys : dropInvalidKeys r.keys = r.keys
  profiles : dropInvalid r.profiles = r.profiles
  clients : ∀ s ∈ r.server,
    dropInvalidClients crates.parsePublicKey s.authorizedClients = s.authorizedClients

/-! ## One more record -/

variable {keys : List AuthKey} {profiles imported : List Profile} {clients : List AuthorizedClient}
    {newId : UInt64} {name : String} {ownId : Option String} {crates : AppCrates}
    {current server : Option ServerConfig} {ids : MergeIds} {m : Merged}

/-- A key that clashes with no other one passes with the others. -/
theorem dropInvalidKeys_upsert {k : AuthKey} (hkeys : dropInvalidKeys keys = keys)
    (hk : k.WellFormed)
    (hclash : ∀ k' ∈ keys, k'.id ≠ k.id → k'.name ≠ k.name ∧ k'.publicKey ≠ k.publicKey) :
    dropInvalidKeys (upsert AuthKey.id k keys) = upsert AuthKey.id k keys := by
  refine SeenKeys.isSieve.eq_self_upsert (by simp) ?_ (fun _ _ => .inl) hkeys hk ?_
  · grind [AuthKey.Clash]
  · grind [AuthKey.Clash]

theorem dropInvalid_upsert {p : Profile} (hprofiles : dropInvalid profiles = profiles)
    (hp : isValidName p.name = true)
    (hclash : ∀ q ∈ profiles, q.id ≠ p.id → q.name ≠ p.name ∧ q.serverNodeId ≠ p.serverNodeId) :
    dropInvalid (upsert Profile.id p profiles) = upsert Profile.id p profiles := by
  refine SeenProfiles.isSieve.eq_self_upsert (by simp) ?_ (fun _ _ => .inl) hprofiles hp ?_
  · grind [Profile.Clash]
  · grind [Profile.Clash]

theorem dropInvalidClients_concat {parseKey : String → Except String String} {c : AuthorizedClient}
    (hclients : dropInvalidClients parseKey clients = clients) (hc : c.WellFormed parseKey)
    (hclash : ∀ d ∈ clients, d.name ≠ c.name ∧ d.publicKey ≠ c.publicKey) :
    dropInvalidClients parseKey (clients ++ [c]) = clients ++ [c] := by
  have happend : upsert AuthorizedClient.name c clients = clients ++ [c] :=
    upsert_eq_concat fun d hd => (hclash d hd).1
  rw [← happend]
  refine (SeenClients.isSieve parseKey).eq_self_upsert (by simp) ?_ (fun _ _ => .inl) hclients hc ?_
  · grind [AuthorizedClient.Clash]
  · grind [AuthorizedClient.Clash]

theorem nodup_of_dropInvalid (h : dropInvalid profiles = profiles) {f : Profile → String}
    (hf : ∀ p q, f p = f q → p.Clash q) : (profiles.map f).Nodup :=
  List.pairwise_map.2 ((dropInvalid_eq_self_iff.1 h).2.imp fun hc heq => hc (hf _ _ heq))

/-! ## What the forms let through -/

theorem ne_editingId {editingId : Option String} {id new : String}
    (h : id ≠ editingId.getD new) : some id ≠ editingId := by
  rintro rfl
  exact h rfl

theorem not_any_other {α : Type} {xs : List α} {value name : α → String} {n : String}
    {own : Option String} :
    ¬(xs.any fun x => value x == n && some (name x) != own) = true ↔
      ∀ x ∈ xs, some (name x) ≠ own → value x ≠ n := by
  simp only [List.any_eq_true, Bool.and_eq_true, beq_iff_eq, bne_iff_ne, not_exists, not_and]
  exact ⟨fun h x hx hother heq => h x hx heq hother, fun h x hx heq hother => h x hx hother heq⟩

theorem find?_other_eq_none {α : Type} {xs : List α} {value name : α → String} {n : String}
    {own : Option String} :
    (xs.find? fun x => value x == n && some (name x) != own) = none ↔
      ∀ x ∈ xs, some (name x) ≠ own → value x ≠ n := by
  rw [← not_any_other, Bool.not_eq_true, List.any_eq_false, List.find?_eq_none]

theorem ProfileForm.validateNames_ok_iff {form : ProfileForm} {names : String × String} :
    form.validateNames profiles keys = .ok names ↔
      (normalizeName form.name ≠ "" ∧ Text.byteLen (normalizeName form.name) ≤ 64 ∧
        ∀ p ∈ profiles, some p.id ≠ form.editingId → p.name ≠ normalizeName form.name) ∧
      (Text.trim form.serverNodeId ≠ "" ∧
        (∀ p ∈ profiles, some p.id ≠ form.editingId →
          p.serverNodeId ≠ Text.trim form.serverNodeId) ∧
        findKey keys form.authKeyId ≠ none) ∧
      names = (normalizeName form.name, Text.trim form.serverNodeId) := by
  simp only [ProfileForm.validateNames, ite_error_eq_ok, not_lt, gt_iff_lt, not_any_other]
  split
  next other hother =>
    constructor
    · rintro ⟨-, -, -, -, h⟩
      cases h
    · rintro ⟨-, ⟨-, hnode, -⟩, -⟩
      rw [find?_other_eq_none.2 hnode] at hother
      cases hother
  next hnode =>
    rw [ite_error_eq_ok, Option.isNone_iff_eq_none]
    constructor
    · rintro ⟨hne, hlen, hname, hserver, hkey, h⟩
      exact ⟨⟨hne, hlen, hname⟩, ⟨hserver, find?_other_eq_none.1 hnode, hkey⟩,
        (Except.ok.inj h).symm⟩
    · rintro ⟨⟨hne, hlen, hname⟩, ⟨hserver, -, hkey⟩, h⟩
      exact ⟨hne, hlen, hname, hserver, hkey, by rw [h]⟩

/-- What the profile form lets through. -/
theorem ProfileForm.validate_ok {form : ProfileForm} {p : Profile}
    (h : form.validate profiles keys newId = .ok p) :
    isValidName p.name = true ∧ (∃ k ∈ keys, k.id = p.authKeyId) ∧
      ∀ q ∈ profiles, q.id ≠ p.id → q.name ≠ p.name ∧ q.serverNodeId ≠ p.serverNodeId := by
  unfold ProfileForm.validate at h
  obtain ⟨⟨name, node⟩, hnames, h⟩ := bind_eq_ok.1 h
  obtain ⟨socks, -, h⟩ := bind_eq_ok.1 h
  obtain ⟨http, -, h⟩ := bind_eq_ok.1 h
  obtain ⟨⟨urls, token⟩, -, h⟩ := bind_eq_ok.1 h
  cases h
  obtain ⟨⟨hne, hlen, hname⟩, ⟨-, hnode, hkey⟩, hpair⟩ :=
    ProfileForm.validateNames_ok_iff.1 hnames
  cases hpair
  have hbytes := (Text.byteLen_bounds (normalizeName form.name)).1
  refine ⟨isValidName_normalizeName hne (by omega), ?_, fun q hq hid => ?_⟩
  · obtain ⟨k, hk⟩ := Option.ne_none_iff_exists'.1 hkey
    exact ⟨k, List.mem_of_find?_eq_some hk, by simpa using List.find?_some hk⟩
  · have hother := ne_editingId hid
    exact ⟨hname q hq hother, hnode q hq hother⟩

theorem validateKeyName_ok_iff {prompt : String} :
    validateKeyName prompt keys ownId = .ok name ↔
      (normalizeName prompt ≠ "" ∧ (normalizeName prompt).length ≤ 64 ∧
        ∀ k ∈ keys, some k.id ≠ ownId → k.name ≠ normalizeName prompt) ∧
      name = normalizeName prompt := by
  simp only [validateKeyName, ite_error_eq_ok, not_lt, gt_iff_lt, not_any_other,
    Except.ok.injEq, and_assoc, eq_comm (a := name)]

theorem validateKeyName_ok {prompt : String} (h : validateKeyName prompt keys ownId = .ok name) :
    isValidName name = true ∧ ∀ k ∈ keys, some k.id ≠ ownId → k.name ≠ name := by
  obtain ⟨⟨hne, hlen, hfree⟩, rfl⟩ := validateKeyName_ok_iff.1 h
  exact ⟨isValidName_normalizeName hne (by rwa [String.length_toList]), hfree⟩

theorem KeyForm.validate_ok_iff {form : KeyForm} {key : AuthKey} :
    form.validate crates keys newId = .ok key ↔
      validateKeyName form.name keys form.editingId = .ok key.name ∧
      Text.trim form.secret ≠ "" ∧
      crates.clientKeyPublic (Text.trim form.secret) = .ok key.publicKey ∧
      (∀ k ∈ keys, some k.id ≠ form.editingId → k.publicKey ≠ key.publicKey) ∧
      key.id = form.editingId.getD (randomId newId) ∧ key.secret = Text.trim form.secret := by
  constructor
  · intro h
    unfold KeyForm.validate at h
    obtain ⟨name, hname, h⟩ := bind_eq_ok.1 h
    obtain ⟨hsecret, h⟩ := ite_error_eq_ok.1 h
    obtain ⟨publicKey, hpublicKey, h⟩ := bind_eq_ok.1 h
    split at h
    · cases h
    next hfree =>
      cases h
      exact ⟨hname, hsecret, mapError_eq_ok.1 hpublicKey, find?_other_eq_none.1 hfree, rfl, rfl⟩
  · rintro ⟨hname, hsecret, hpublicKey, hfree, hid, hkeySecret⟩
    unfold KeyForm.validate
    refine bind_eq_ok.2 ⟨_, hname, ite_error_eq_ok.2 ⟨hsecret, bind_eq_ok.2 ⟨_,
      mapError_eq_ok.2 hpublicKey, ?_⟩⟩⟩
    rw [find?_other_eq_none.2 hfree, ← hid, ← hkeySecret]

/-- What the key form lets through. -/
theorem KeyForm.validate_ok {form : KeyForm} {key : AuthKey}
    (h : form.validate crates keys newId = .ok key) :
    key.id = form.editingId.getD (randomId newId) ∧ isValidName key.name = true ∧
      ∀ k ∈ keys, k.id ≠ key.id → k.name ≠ key.name ∧ k.publicKey ≠ key.publicKey := by
  obtain ⟨hname, -, -, hpublic, hid, -⟩ := KeyForm.validate_ok_iff.1 h
  obtain ⟨hvalid, hfree⟩ := validateKeyName_ok hname
  refine ⟨hid, hvalid, fun k hk hne => ?_⟩
  have hother := ne_editingId (hid ▸ hne)
  exact ⟨hfree k hk hother, hpublic k hk hother⟩

theorem ClientForm.validate_ok_iff {form : ClientForm} {client : AuthorizedClient} :
    form.validate crates clients = .ok client ↔
      (normalizeName form.name ≠ "" ∧ (normalizeName form.name).length ≤ 64 ∧
        ∀ c ∈ clients, c.name ≠ normalizeName form.name) ∧
      (Text.trim form.publicKey ≠ "" ∧
        parseClientPublicKey crates.parsePublicKey form.publicKey = .ok client.publicKey ∧
        ∀ c ∈ clients, c.publicKey ≠ client.publicKey) ∧
      client.name = normalizeName form.name := by
  have hfree : ∀ n, ¬(clients.any fun c => c.name == n) = true ↔ ∀ c ∈ clients, c.name ≠ n := by
    simp
  simp only [ClientForm.validate, ite_error_eq_ok, not_lt, gt_iff_lt, hfree, bind_eq_ok]
  constructor
  · rintro ⟨hne, hlen, hname, hkey, publicKey, hparse, h⟩
    split at h <;> cases h
    next hpublic => exact ⟨⟨hne, hlen, hname⟩, ⟨hkey, hparse, by simpa using hpublic⟩, rfl⟩
  · rintro ⟨⟨hne, hlen, hname⟩, ⟨hkey, hparse, hpublic⟩, hclient⟩
    refine ⟨hne, hlen, hname, hkey, _, hparse, ?_⟩
    have hnone : (clients.find? fun c => c.publicKey == client.publicKey) = none := by
      simpa using hpublic
    rw [hnone, ← hclient]

/-- What the client form lets through. -/
theorem ClientForm.validate_ok {form : ClientForm} {client : AuthorizedClient}
    (h : form.validate crates clients = .ok client) :
    client.WellFormed crates.parsePublicKey ∧
      ∀ c ∈ clients, c.name ≠ client.name ∧ c.publicKey ≠ client.publicKey := by
  obtain ⟨⟨hne, hlen, hname⟩, ⟨-, hkey, hpublic⟩, heq⟩ := ClientForm.validate_ok_iff.1 h
  rw [← heq] at hname
  refine ⟨⟨?_, ?_⟩, fun c hc => ⟨hname c hc, hpublic c hc⟩⟩
  · rw [heq]
    exact isValidName_normalizeName hne (by rwa [String.length_toList])
  · -- the form stores the token, and a token parses as itself
    have htoken := crates.parsePublicKey_token _ _ (mapError_eq_ok.1 hkey)
    simp [parseClientPublicKey, htoken, Except.mapError, Except.toOption]

theorem ServerForm.exists_base {form : ServerForm} {server : ServerConfig}
    (h : form.validate crates current = .ok server) :
    ∃ base, form.base crates current = .ok base ∧ server.secret = base.secret ∧
      server.authorizedClients = base.authorizedClients := by
  unfold ServerForm.validate at h
  obtain ⟨base, hbase, h⟩ := bind_eq_ok.1 h
  obtain ⟨_, -, h⟩ := bind_eq_ok.1 h
  obtain ⟨⟨urls, token⟩, -, h⟩ := bind_eq_ok.1 h
  cases h
  exact ⟨base, hbase, rfl, rfl⟩

theorem ServerForm.validate_ok {form : ServerForm} {server : ServerConfig}
    (h : form.validate crates current = .ok server) :
    server.authorizedClients = [] ∨
      ∃ s, current = some s ∧ server.authorizedClients = s.authorizedClients := by
  obtain ⟨base, hbase, -, hclients⟩ := ServerForm.exists_base h
  rw [hclients]
  unfold ServerForm.base at hbase
  split at hbase
  · obtain ⟨⟨secret, endpointId⟩, -, hbase⟩ := bind_eq_ok.1 hbase
    cases hbase
    exact .inl rfl
  next current _ =>
    cases hbase
    exact .inr ⟨base, rfl, rfl⟩
  · cases hbase

/-! ## The import merge -/

def incoming (ids : MergeIds) (entry : Profile × Nat) : Profile :=
  { entry.1 with forwards := entry.1.forwards.mapIdx fun j f =>
      { f with id := randomId (ids.forward entry.2 j) } }

theorem mergeOne_shape {m' : Merged} {entry : Profile × Nat} (h : mergeOne ids m entry = .ok m') :
    (∃ pos old name, m.profiles[pos]? = some old ∧ old.serverNodeId = entry.1.serverNodeId ∧
      uniqueName entry.1.name (profileNameTaken m.profiles (some old.id)) = .ok name ∧
      m'.profiles = m.profiles.set pos { incoming ids entry with
        id := old.id, authKeyId := old.authKeyId, relayAuthToken := old.relayAuthToken, name }) ∨
    ∃ name, (∀ q ∈ m.profiles, q.serverNodeId ≠ entry.1.serverNodeId) ∧
      uniqueName entry.1.name (profileNameTaken m.profiles none) = .ok name ∧
      m'.profiles = m.profiles ++ [{ incoming ids entry with
        id := randomId (ids.profile entry.2), authKeyId := "", relayAuthToken := none, name }] := by
  unfold mergeOne at h
  dsimp only at h
  split at h
  next pos hpos =>
    obtain ⟨name, hname, h⟩ := bind_eq_ok.1 h
    cases h
    obtain ⟨hlt, hnode, -⟩ := List.findIdx?_eq_some_iff_getElem.1 hpos
    have hold : m.profiles[pos]? = some m.profiles[pos] := List.getElem?_eq_getElem hlt
    rw [List.getD_eq_getElem?_getD, hold, Option.getD_some] at hname ⊢
    exact .inl ⟨pos, _, name, hold, beq_iff_eq.1 hnode, hname, rfl⟩
  next hnone =>
    obtain ⟨name, hname, h⟩ := bind_eq_ok.1 h
    cases h
    refine .inr ⟨name, fun q hq => ?_, hname, rfl⟩
    simpa using List.findIdx?_eq_none_iff.1 hnone q hq

/-- An imported entry replaces the profile of its server, or is added. -/
theorem mergeOne_cases {m' : Merged} {entry : Profile × Nat} (h : mergeOne ids m entry = .ok m') :
    (∃ pos old p, m.profiles[pos]? = some old ∧ m'.profiles = m.profiles.set pos p ∧
      p.id = old.id ∧ p.authKeyId = old.authKeyId ∧ p.relayAuthToken = old.relayAuthToken ∧
      p.serverNodeId = old.serverNodeId ∧
      uniqueName entry.1.name (profileNameTaken m.profiles (some old.id)) = .ok p.name) ∨
    ∃ p, m'.profiles = m.profiles ++ [p] ∧
      p.id = randomId (ids.profile entry.2) ∧ p.authKeyId = "" ∧ p.relayAuthToken = none ∧
      (∀ q ∈ m.profiles, q.serverNodeId ≠ p.serverNodeId) ∧
      uniqueName entry.1.name (profileNameTaken m.profiles none) = .ok p.name := by
  obtain ⟨pos, old, name, hold, hnode, hname, hm'⟩ | ⟨name, hnode, hname, hm'⟩ := mergeOne_shape h
  · exact .inl ⟨pos, old, _, hold, hm', rfl, rfl, rfl, hnode.symm, hname⟩
  · exact .inr ⟨_, hm', rfl, rfl, rfl, hnode, hname⟩

/-- The ids numbered `lo` to `hi` are new to these profiles, and all different. -/
structure NewIds (ids : Nat → UInt64) (lo hi : Nat) (profiles : List Profile) : Prop where
  unused : ∀ i, lo ≤ i → i < hi → ∀ p ∈ profiles, p.id ≠ randomId (ids i)
  apart : ∀ i j, lo ≤ j → j < i → i < hi → randomId (ids i) ≠ randomId (ids j)

theorem name_ne_of_not_taken (h : profileNameTaken profiles ownId name = false) {q : Profile}
    (hq : q ∈ profiles) (hid : some q.id ≠ ownId) : q.name ≠ name := by
  simp only [profileNameTaken, List.any_eq_false, Bool.and_eq_true, beq_iff_eq, bne_iff_ne,
    not_and] at h
  exact fun heq => h q hq heq hid

/-- One merged entry keeps the profiles such that the filter leaves them alone. -/
theorem mergeOne_filtered {m' : Merged} {p : Profile} {i hi : Nat}
    (h : mergeOne ids m (p, i) = .ok m') (hm : dropInvalid m.profiles = m.profiles)
    (hname : isValidName p.name = true) (hlt : i < hi) (hids : NewIds ids.profile i hi m.profiles) :
    dropInvalid m'.profiles = m'.profiles ∧ NewIds ids.profile (i + 1) hi m'.profiles := by
  obtain ⟨pos, old, q, hold, hprofiles, hid, -, -, hnode, hfree⟩ |
    ⟨q, hprofiles, hid, -, -, hnode, hfree⟩ := mergeOne_cases h
  · obtain ⟨hfree, hvalid⟩ := uniqueName_ok hfree hname
    rw [hprofiles]
    refine ⟨?_, fun j hj hjhi r hr => ?_, fun j k hk => hids.apart j k (by omega)⟩
    · rw [← upsert_eq_set (nodup_of_dropInvalid hm fun _ _ => .inl) hold hid.symm]
      refine dropInvalid_upsert hm hvalid fun r hr hne => ⟨?_, fun hsame => ?_⟩
      · exact name_ne_of_not_taken hfree hr (by rw [← hid]; simpa using hne)
      -- the profile of this server is the replaced one
      have hservers := nodup_of_dropInvalid hm fun p q (h : p.serverNodeId = q.serverNodeId) =>
        .inr (.inr h)
      have hrold : r = old := List.inj_on_of_nodup_map hservers hr (List.mem_of_getElem? hold)
        (hsame.trans hnode)
      exact hne (hrold ▸ hid.symm)
    · rcases List.mem_or_eq_of_mem_set hr with hr | rfl
      · exact hids.unused j (by omega) hjhi r hr
      · rw [hid]
        exact hids.unused j (by omega) hjhi old (List.mem_of_getElem? hold)
  · obtain ⟨hfree, hvalid⟩ := uniqueName_ok hfree hname
    have hnew : ∀ r ∈ m.profiles, r.id ≠ q.id := by
      rw [hid]
      exact hids.unused i (le_refl i) hlt
    rw [hprofiles]
    refine ⟨?_, fun j hj hjhi r hr => ?_, fun j k hk => hids.apart j k (by omega)⟩
    · rw [← upsert_eq_concat hnew]
      exact dropInvalid_upsert hm hvalid fun r hr _ =>
        ⟨name_ne_of_not_taken hfree hr (by simp), hnode r hr⟩
    rcases List.mem_append.1 hr with hr | hr
    · exact hids.unused j (by omega) hjhi r hr
    · obtain rfl := List.mem_singleton.1 hr
      rw [hid]
      exact (hids.apart j i (le_refl i) (by omega) hjhi).symm

/-- Induction over the entries of a merge, in the order it takes them. -/
theorem mergeImported_induction {P : List Profile → Merged → Prop}
    (h : mergeImported ids profiles imported = .ok m) (hinit : P [] { profiles })
    (hstep : ∀ done p m m', done ++ [p] <+: imported → P done m →
      mergeOne ids m (p, done.length) = .ok m' → P (done ++ [p]) m') : P imported m := by
  have hfold : ∀ (rest done : List Profile) (m₀ : Merged), imported = done ++ rest → P done m₀ →
      (rest.zipIdx done.length).foldlM (mergeOne ids) m₀ = .ok m → P imported m := by
    intro rest
    induction rest with
    | nil =>
      intro done m₀ himported hm₀ hm
      cases hm
      rwa [himported, List.append_nil]
    | cons p rest ih =>
      intro done m₀ himported hm₀ hm
      rw [List.zipIdx_cons, List.foldlM_cons] at hm
      obtain ⟨m₁, hone, hrest⟩ := bind_eq_ok.1 hm
      have hsplit : imported = (done ++ [p]) ++ rest := by simp [himported]
      refine ih (done ++ [p]) m₁ hsplit (hstep done p m₀ m₁ ⟨rest, hsplit.symm⟩ hm₀ hone) ?_
      rwa [List.length_append, List.length_singleton]
  exact hfold imported [] { profiles } rfl hinit h

theorem mergeImported_filtered (h : mergeImported ids profiles imported = .ok m)
    (hprofiles : dropInvalid profiles = profiles)
    (himported : ∀ p ∈ imported, isValidName p.name = true)
    (hids : NewIds ids.profile 0 imported.length profiles) :
    dropInvalid m.profiles = m.profiles := by
  refine (mergeImported_induction (P := fun done m => dropInvalid m.profiles = m.profiles ∧
    NewIds ids.profile done.length imported.length m.profiles) h ⟨hprofiles, hids⟩ ?_).1
  rintro done p m m' hpre ⟨hm, hnew⟩ hone
  have hp : p ∈ imported := hpre.subset (by simp)
  have hlt := hpre.length_le
  rw [List.length_append, List.length_singleton] at hlt ⊢
  exact mergeOne_filtered hone hm (himported p hp) (by omega) hnew

theorem isValidName_of_mem_imported {crates : StoreCrates} {ids : PlaceholderIds} {path : String}
    {w : World} (h : importProfiles crates ids path w = .ok imported) :
    ∀ p ∈ imported, isValidName p.name = true := by
  unfold importProfiles at h
  obtain ⟨doc, -, h⟩ := bind_eq_ok.1 h
  split at h <;> cases h
  exact (dropInvalid_eq_self_iff.1 (dropInvalid_dropInvalid _)).1

/-! ## One change of the records -/

/-- What an update draws at random is new, where nothing checks it: the id and the public key
of a key made from the profile form, and the ids of imported profiles. -/
structure Drawn (ctx : AppContext) (env : Surroundings) (a : App) (msg : Message) : Prop where
  keyId : msg = .newKeyCreate → ∀ k ∈ a.keys, k.id ≠ randomId env.newId
  publicKey : msg = .newKeyCreate → ∀ key ∈ env.clientKey, ∀ k ∈ a.keys, k.publicKey ≠ key.2
  profileIds : ∀ path imported, msg = .importPicked (some path) →
    importProfiles ctx.crates.toStoreCrates env.placeholders path a.world = .ok imported →
    NewIds env.mergeIds.profile 0 imported.length a.profiles

def EditsValidKey (form : Option KeyForm) : Prop :=
  ∀ f ∈ form, ∀ id ∈ f.editingId, id ≠ "" ∧ isReservedSecretId id = false

variable {ctx : AppContext} {env : Surroundings} {a b : App} {msg : Message}
  {notes : List AppEffect} {r : Records}

/-- **No change of the records makes one that a load would drop.** -/
theorem filtered_of_change (h : Change ctx env a msg notes r)
    (ha : Filtered ctx.crates.toStoreCrates a.records) (hform : EditsValidKey a.keyForm)
    (hdrawn : Drawn ctx env a msg) : Filtered ctx.crates.toStoreCrates r := by
  cases h with
  | none => exact ha
  | profileSaved form p _ hp =>
    obtain ⟨hname, -, hclash⟩ := ProfileForm.validate_ok hp
    exact { ha with profiles := dropInvalid_upsert ha.profiles hname hclash }
  | keySaved form key hkey hvalid =>
    obtain ⟨hid, hname, hclash⟩ := KeyForm.validate_ok hvalid
    refine { ha with keys := dropInvalidKeys_upsert ha.keys ?_ hclash }
    cases hediting : form.editingId with
    | none =>
      rw [hediting, Option.getD_none] at hid
      obtain ⟨hne, hreserved⟩ := randomId_wellFormed env.newId
      exact ⟨hid ▸ hne, hid ▸ hreserved, hname⟩
    | some id =>
      rw [hediting, Option.getD_some] at hid
      obtain ⟨hne, hreserved⟩ := hform form hkey id hediting
      exact ⟨hid ▸ hne, hid ▸ hreserved, hname⟩
  | keyCreated prompt name secret publicKey hmsg hname hkey =>
    obtain ⟨hvalid, hfree⟩ := validateKeyName_ok hname
    obtain ⟨hne, hreserved⟩ := randomId_wellFormed env.newId
    refine { ha with keys := ?_ }
    dsimp only
    rw [← upsert_eq_concat (hdrawn.keyId hmsg)]
    exact dropInvalidKeys_upsert ha.keys ⟨hne, hreserved, hvalid⟩ fun k hk _ =>
      ⟨hfree k hk (by simp), hdrawn.publicKey hmsg _ hkey k hk⟩
  | keyDeleted id _ =>
    exact { ha with
      keys := SeenKeys.isSieve.eq_self_sublist (by simp) ha.keys List.filter_sublist }
  | profileDeleted id pos _ =>
    exact { ha with
      profiles := SeenProfiles.isSieve.eq_self_sublist (by simp) ha.profiles
        (List.eraseIdx_sublist _ _) }
  | forwards profiles hsame _ =>
    refine { ha with profiles := ?_ }
    -- the filter does not look at the forwards
    have hblind : ∀ ps : List Profile, dropInvalid (ps.map Profile.withoutForwards) =
        ps.map Profile.withoutForwards ↔ dropInvalid ps = ps := fun _ =>
      sieve_map_eq_self_iff (g := Profile.withoutForwards) fun _ _ => rfl
    exact (hblind profiles).1 (hsame ▸ (hblind a.profiles).2 ha.profiles)
  | merged path imported m hmsg himported hm =>
    have hnames := isValidName_of_mem_imported himported
    have hids := hdrawn.profileIds path imported hmsg himported
    exact { ha with profiles := mergeImported_filtered hm ha.profiles hnames hids }
  | serverSaved form server _ hvalid =>
    refine { ha with clients := ?_ }
    rintro s ⟨⟩
    obtain hnil | ⟨s₀, hs₀, hsame⟩ := ServerForm.validate_ok hvalid
    · rw [hnil]
      rfl
    · rw [hsame]
      exact ha.clients s₀ hs₀
  | serverDeleted server _ => exact { ha with clients := by rintro s ⟨⟩ }
  | clientAdded form server client hserver hclient =>
    refine { ha with clients := ?_ }
    rintro s ⟨⟩
    obtain ⟨hwf, hclash⟩ := ClientForm.validate_ok hclient
    exact dropInvalidClients_concat (ha.clients server hserver) hwf hclash
  | clientsRemoved server publicKey hserver =>
    refine { ha with clients := ?_ }
    rintro s ⟨⟩
    exact (SeenClients.isSieve _).eq_self_sublist (by simp) (ha.clients server hserver)
      List.filter_sublist
  | serverEnabled server _ hserver | identitySaved server _ _ _ hserver _ =>
    exact { ha with clients := by rintro s ⟨⟩; exact ha.clients server hserver }

/-! ## References to keys -/

/-- A profile that refers to a key that does not exist. No reference is the empty id. -/
def Dangling (keys : List AuthKey) (p : Profile) : Prop :=
  p.authKeyId ≠ "" ∧ findKey keys p.authKeyId = none

def NoNewDangling (before after : Records) : Prop :=
  ∀ p ∈ after.profiles, Dangling after.keys p →
    ∃ p₀ ∈ before.profiles, p₀.id = p.id ∧ p₀.authKeyId = p.authKeyId ∧ Dangling before.keys p₀

theorem findKey_eq_none_iff {id : String} : findKey keys id = none ↔ ∀ k ∈ keys, k.id ≠ id := by
  simp [findKey]

theorem NoNewDangling.of_kept {before after : Records}
    (hprofiles : ∀ p ∈ after.profiles, p.authKeyId ≠ "" →
      (∃ k ∈ after.keys, k.id = p.authKeyId) ∨
        ∃ p₀ ∈ before.profiles, p₀.id = p.id ∧ p₀.authKeyId = p.authKeyId)
    (hkeys : ∀ p ∈ after.profiles, ∀ k ∈ before.keys, k.id = p.authKeyId →
      ∃ k' ∈ after.keys, k'.id = p.authKeyId) : NoNewDangling before after := by
  rintro p hp ⟨hne, hnone⟩
  rw [findKey_eq_none_iff] at hnone
  obtain ⟨k, hk, hid⟩ | ⟨p₀, hp₀, hid, href⟩ := hprofiles p hp hne
  · exact absurd hid (hnone k hk)
  · refine ⟨p₀, hp₀, hid, href, href ▸ hne, findKey_eq_none_iff.2 fun k hk hkey => ?_⟩
    obtain ⟨k', hk', hid'⟩ := hkeys p hp k hk (hkey.trans href)
    exact hnone k' hk' hid'

theorem mergeImported_references (h : mergeImported ids profiles imported = .ok m) :
    ∀ p ∈ m.profiles, p.authKeyId ≠ "" →
      ∃ p₀ ∈ profiles, p₀.id = p.id ∧ p₀.authKeyId = p.authKeyId := by
  refine foldlM_invariant (P := fun m : Merged => ∀ p ∈ m.profiles, p.authKeyId ≠ "" →
    ∃ p₀ ∈ profiles, p₀.id = p.id ∧ p₀.authKeyId = p.authKeyId) ?_
    (fun p hp _ => ⟨p, hp, rfl, rfl⟩) h
  intro m entry m' hm hone p hp hne
  obtain ⟨pos, old, q, hold, hprofiles, hid, href, -⟩ | ⟨q, hprofiles, -, hempty, -⟩ :=
    mergeOne_cases hone
  · rw [hprofiles] at hp
    rcases List.mem_or_eq_of_mem_set hp with hp | rfl
    · exact hm p hp hne
    · obtain ⟨p₀, hp₀, hid₀, href₀⟩ := hm old (List.mem_of_getElem? hold) (href ▸ hne)
      exact ⟨p₀, hp₀, hid₀.trans hid.symm, href₀.trans href.symm⟩
  · rw [hprofiles] at hp
    rcases List.mem_append.1 hp with hp | hp
    · exact hm p hp hne
    · obtain rfl := List.mem_singleton.1 hp
      exact absurd hempty hne

/-- No change of the records makes a reference dangle. -/
theorem noNewDangling_of_change (h : Change ctx env a msg notes r) : NoNewDangling a.records r := by
  cases h with
  | profileSaved form p _ hp =>
    obtain ⟨-, ⟨k, hk, hid⟩, -⟩ := ProfileForm.validate_ok hp
    refine .of_kept (fun q hq _ => ?_) fun q _ k hk hid => ⟨k, hk, hid⟩
    rcases mem_of_mem_upsert hq with rfl | hq
    · exact .inl ⟨k, hk, hid⟩
    · exact .inr ⟨q, hq, rfl, rfl⟩
  | keySaved form key _ _ =>
    refine .of_kept (fun q hq _ => .inr ⟨q, hq, rfl, rfl⟩) fun q _ k hk hid => ?_
    obtain ⟨k', hk', hid'⟩ : ∃ k' ∈ upsert AuthKey.id key a.keys, k'.id = k.id :=
      exists_mem_upsert hk
    exact ⟨k', hk', hid'.trans hid⟩
  | keyCreated prompt name secret publicKey _ _ _ =>
    exact .of_kept (fun q hq _ => .inr ⟨q, hq, rfl, rfl⟩) fun q _ k hk hid =>
      ⟨k, List.mem_append_left _ hk, hid⟩
  | keyDeleted id hunused =>
    refine .of_kept (fun q hq _ => .inr ⟨q, hq, rfl, rfl⟩) fun q hq k hk hid => ⟨k, ?_, hid⟩
    refine List.mem_filter.2 ⟨hk, ?_⟩
    simpa [hid] using hunused q hq
  | profileDeleted id pos _ =>
    exact .of_kept (fun q hq _ => .inr ⟨q, (List.eraseIdx_sublist _ _).subset hq, rfl, rfl⟩)
      fun q _ k hk hid => ⟨k, hk, hid⟩
  | forwards profiles hsame _ =>
    refine .of_kept (fun q hq _ => .inr ?_) fun q _ k hk hid => ⟨k, hk, hid⟩
    have hmem : q.withoutForwards ∈ a.profiles.map Profile.withoutForwards :=
      hsame ▸ List.mem_map_of_mem hq
    obtain ⟨p, hp, heq⟩ := List.mem_map.1 hmem
    have hid : p.withoutForwards.id = q.withoutForwards.id := by rw [heq]
    have href : p.withoutForwards.authKeyId = q.withoutForwards.authKeyId := by rw [heq]
    exact ⟨p, hp, hid, href⟩
  | merged path imported m _ _ hm =>
    exact .of_kept (fun q hq hne => .inr (mergeImported_references hm q hq hne))
      fun q _ k hk hid => ⟨k, hk, hid⟩
  | none | serverSaved | serverDeleted | serverEnabled | clientAdded | clientsRemoved
  | identitySaved =>
    exact .of_kept (fun q hq _ => .inr ⟨q, hq, rfl, rfl⟩) fun q _ k hk hid => ⟨k, hk, hid⟩

/-! ## The next launch -/

def recordsOf (store : Store) : Records := ⟨store.keys, store.profiles, store.server⟩

/-- The records as a document holds them: without secrets, every forward off. -/
def persistedRecords (r : Records) : Records :=
  ⟨r.keys.map AuthKey.persisted, r.profiles.map Profile.persisted,
    r.server.map ServerConfig.persisted⟩

section

variable {crates : StoreCrates} {platform platform' : Platform} {w w' u : World} {store : Store}
  {loginItemSetUp : Bool}

/-- What a load returns passes the filters. -/
theorem filtered_of_loadStore {backend : Option Backend}
    (h : (loadStore crates platform backend w).1 = .ok store) :
    Filtered crates (recordsOf store) := by
  obtain ⟨raw, hraw, rfl⟩ := map_eq_ok.1 h
  refine ⟨?_, dropInvalid_dropInvalid _, ?_⟩
  · show dropInvalidKeys raw.keys = raw.keys
    have hsealed : ∀ mock, (loadSealed crates platform mock w).1 = .ok raw →
        dropInvalidKeys raw.keys = raw.keys := by
      intro mock hload
      unfold loadSealed at hload
      split at hload
      · cases hload
      split at hload
      · cases hload
      next doc _ =>
        dsimp only at hload
        split at hload <;> cases hload
        next secrets read w' hunseal =>
          have hkeys : read.keys = dropInvalidKeys (doc.getD {}).keys := by
            unfold unsealStore at hunseal
            grind
          refine (sieve_map_eq_self_iff (g := fun k : AuthKey =>
            { k with secret := (secrets.lookup k.id).getD k.secret }) fun _ _ => rfl).2 ?_
          rw [hkeys]
          exact dropInvalidKeys_dropInvalidKeys _
    cases backend with
    | none => cases hraw
    | some b =>
      cases b with
      | devFile path =>
        obtain ⟨read, -, rfl⟩ := map_eq_ok.1 hraw
        exact dropInvalidKeys_dropInvalidKeys _
      | keychain => exact hsealed false hraw
      | mockKeychain => exact hsealed true hraw
  · intro s hs
    obtain ⟨s₀, -, rfl⟩ := Option.map_eq_some_iff.1 hs
    exact dropInvalidClients_dropInvalidClients _ _

theorem persisted_withToken (p : Profile) (token : Option String) :
    ({ p.persisted with relayAuthToken := token } : Profile).persisted = p.persisted := by
  simp only [Profile.persisted, List.map_map]
  rfl

theorem persistedRecords_screened (hr : Filtered crates r)
    (hstore : persistedRecords (recordsOf store) = persistedRecords r) :
    persistedRecords (recordsOf (store.screened crates)) = persistedRecords r := by
  have hprofiles : store.profiles.map Profile.persisted = r.profiles.map Profile.persisted :=
    congrArg Records.profiles hstore
  have hserver : store.server.map ServerConfig.persisted = r.server.map ServerConfig.persisted :=
    congrArg Records.server hstore
  -- the profile filter looks at what is in the document only
  have hblind : ∀ ps : List Profile, dropInvalid (ps.map Profile.persisted) =
      ps.map Profile.persisted ↔ dropInvalid ps = ps := fun _ =>
    sieve_map_eq_self_iff (g := Profile.persisted) fun _ _ => rfl
  have hp : dropInvalid store.profiles = store.profiles :=
    (hblind _).1 (hprofiles ▸ (hblind _).2 hr.profiles)
  have hs : ∀ s ∈ store.server,
      dropInvalidClients crates.parsePublicKey s.authorizedClients = s.authorizedClients := by
    intro s hs
    rw [Option.mem_def.1 hs, Option.map_some, eq_comm, Option.map_eq_some_iff] at hserver
    obtain ⟨s₀, hs₀, heq⟩ := hserver
    have hclients : s₀.persisted.authorizedClients = s.persisted.authorizedClients := by rw [heq]
    rw [show s.authorizedClients = s₀.authorizedClients from hclients.symm]
    exact hr.clients s₀ hs₀
  have hscreened : recordsOf (store.screened crates) = recordsOf store := by
    unfold recordsOf Store.screened
    rw [hp]
    cases hserver : store.server with
    | none => rfl
    | some s => simp [hs s hserver]
  rw [hscreened, hstore]

/-- **The next launch drops nothing.** A save of filtered records that worked is read back
whole, by this process or a later one. -/
theorem load_of_filtered_save (hr : Filtered crates r) {b : Backend}
    (h : saveStore crates platform (some b) r.keys r.profiles r.server loginItemSetUp w =
      (.ok (), w'))
    (hu : Continues crates w w' u) (hopen : platform'.openEntry = .ok ()) :
    ∃ store, (loadStore crates platform' (some b) u).1 = .ok store ∧
      persistedRecords (recordsOf store) = persistedRecords r := by
  have hkeys : dropInvalidKeys (r.keys.map AuthKey.persisted) = r.keys.map AuthKey.persisted :=
    (sieve_map_eq_self_iff (g := AuthKey.persisted) fun _ _ => rfl).2 hr.keys
  have hsealed : ∀ mock,
      saveSealed crates platform mock r.keys r.profiles r.server loginItemSetUp w = (.ok (), w') →
      ∃ store, (loadSealed crates platform' mock u).1.map (Store.screened crates) = .ok store ∧
        persistedRecords (recordsOf store) = persistedRecords r := by
    intro mock hsave
    obtain ⟨doc, secrets, ⟨hk, hp, hs, -⟩, -, hload⟩ :=
      loadSealed_after_saveSealed hsave hu hopen
    refine ⟨_, by rw [hload]; rfl, persistedRecords_screened hr ?_⟩
    simp only [recordsOf, persistedRecords, Store.fill, StoreRef.persisted, hk, hp, hs, hkeys,
      List.map_map, Option.map_map, Records.mk.injEq]
    exact ⟨rfl, List.map_congr_left fun p _ => persisted_withToken p _, rfl⟩
  cases b with
  | devFile path =>
    simp only [loadStore, loadBackend, loadDevFile_after_saveDevFile h hu, Except.map]
    refine ⟨_, rfl, persistedRecords_screened hr ?_⟩
    simp only [recordsOf, persistedRecords, hr.keys, List.map_map, Records.mk.injEq, true_and,
      and_true]
    exact List.map_congr_left fun p _ => persisted_withToken p p.relayAuthToken
  | keychain => exact hsealed false h
  | mockKeychain => exact hsealed true h

end

/-! ## Whole sessions -/

structure Kept (ctx : AppContext) (a : App) : Prop where
  filtered : Filtered ctx.crates.toStoreCrates a.records
  keyForm : EditsValidKey a.keyForm
  keychain : KeychainAgrees ctx.crates.toStoreCrates a.world

/-- A process that has not loaded anything has cached no key; between two updates the effects
of the last one are gone. -/
def StateKept (ctx : AppContext) : AppState → Prop
  | .launching w => w.cache = none
  | .running a => Kept ctx a ∧ a.effects = []

def FreshStep (ctx : AppContext) : AppState → AppLabel → Prop
  | .running a, .update env msg => Drawn ctx env a msg
  | _, _ => True

theorem keychainAgrees_saveResult (c : Core)
    (h : KeychainAgrees ctx.crates.toStoreCrates c.world) :
    KeychainAgrees ctx.crates.toStoreCrates (c.saveResult ctx env).2 :=
  h.saveStore ctx.backend

theorem kept_boot {w : World} (h : w.cache = none) : Kept ctx (App.boot ctx env w) := by
  obtain ⟨hrecords, hkeyForm, -, -⟩ := App.boot_effects ctx env w
  refine ⟨?_, ?_, ?_⟩
  · rw [hrecords]
    show Filtered _ (recordsOf (App.loadedAs _).1)
    cases hload : (loadStore ctx.crates.toStoreCrates env.platform ctx.backend w).1 with
    | error e => exact ⟨rfl, rfl, by rintro s ⟨⟩⟩
    | ok store => exact filtered_of_loadStore hload
  · rw [hkeyForm]
    exact fun _ hf => nomatch hf
  · have hw : KeychainAgrees ctx.crates.toStoreCrates w := fun key hkey => by simp [h] at hkey
    exact App.boot_world keychainAgrees_saveResult (hw.loadStore ctx.backend)

/-- An update keeps the records such that a load drops none. -/
theorem kept_update (h : a.update ctx env msg = .ok b) (ha : Kept ctx a)
    (hdrawn : Drawn ctx env a msg) : Kept ctx b := by
  obtain ⟨notes, rest, hchange, hform, -⟩ := App.update_effects h
  refine ⟨filtered_of_change hchange ha.filtered ha.keyForm hdrawn, fun f hf id hid => ?_, ?_⟩
  · obtain ⟨f₀, hf₀, hid₀⟩ | ⟨k, hk, rfl⟩ := hform f hf id hid
    · exact ha.keyForm f₀ hf₀ id hid₀
    · obtain ⟨hne, hreserved, -⟩ := (dropInvalidKeys_eq_self_iff.1 ha.filtered.keys).1 k hk
      exact ⟨hne, hreserved⟩
  · exact App.update_world keychainAgrees_saveResult (fun _ hw => hw.writeJson) h ha.keychain

/-- Every step with fresh draws keeps the records such that a load drops none. -/
theorem stateKept_step {s t : AppState} {l : AppLabel} {es : List AppEffect}
    (hfresh : FreshStep ctx s l) (hs : StateKept ctx s)
    (h : (app ctx).step s l = some (t, es)) : StateKept ctx t := by
  cases app_step_cases h with
  | boot w env =>
    obtain ⟨hf, hk, hw⟩ : Kept ctx (App.boot ctx env w) := kept_boot hs
    exact ⟨⟨hf, hk, hw⟩, rfl⟩
  | update a env msg b hb =>
    obtain ⟨hf, hk, hw⟩ := kept_update hb hs.1 hfresh
    exact ⟨⟨hf, hk, hw⟩, rfl⟩

theorem load_of_savedBy {c : Core} {w : World} {loginItemSetUp : Bool}
    (hr : Filtered ctx.crates.toStoreCrates c.records)
    (hw : KeychainAgrees ctx.crates.toStoreCrates w)
    (h : c.SavedBy ctx env w (.saved keys profiles server loginItemSetUp true))
    {platform : Platform} (hopen : platform.openEntry = .ok ()) :
    ∃ store, (loadStore ctx.crates.toStoreCrates platform ctx.backend (relaunched c.world)).1 =
        .ok store ∧
      persistedRecords (recordsOf store) = persistedRecords ⟨keys, profiles, server⟩ := by
  obtain ⟨result, hsave, heffect⟩ := h
  obtain ⟨rfl, rfl, rfl, rfl, hok⟩ : keys = c.records.keys ∧ profiles = c.records.profiles ∧
      server = c.records.server ∧ loginItemSetUp = c.loginItemSetUp ∧ true = result.toBool := by
    simpa [Core.savedAs] using heffect
  obtain rfl : result = .ok () := by
    cases result with
    | error e => cases hok
    | ok u => rfl
  unfold Core.saveResult at hsave
  cases hbackend : ctx.backend with
  | none =>
    rw [hbackend] at hsave
    cases hsave
  | some backend =>
    rw [hbackend] at hsave
    exact load_of_filtered_save hr hsave (.inr ⟨hw, rfl⟩) hopen

/-- A save among the effects of a step is one of the records it ends with. -/
theorem exists_savedBy_of_mem {s : AppState} {l : AppLabel} {es : List AppEffect}
    (hs : StateKept ctx s) (h : (app ctx).step s l = some (.running b, es))
    {loginItemSetUp ok : Bool} (he : AppEffect.saved keys profiles server loginItemSetUp ok ∈ es) :
    ∃ env w, KeychainAgrees ctx.crates.toStoreCrates w ∧
      b.core.SavedBy ctx env w (.saved keys profiles server loginItemSetUp ok) := by
  cases app_step_cases h with
  | boot w env =>
    obtain ⟨-, -, -, heffects⟩ := App.boot_effects ctx env w
    obtain ⟨c, hno⟩ | ⟨-, hsave⟩ := heffects _ he
    · cases hno
    have hw : KeychainAgrees ctx.crates.toStoreCrates w := fun key hkey => by
      rw [show w.cache = none from hs] at hkey
      cases hkey
    exact ⟨env, _, hw.loadStore ctx.backend, hsave⟩
  | update a env msg b hb =>
    obtain ⟨notes, rest, hchange, -, heffects, -, hrest⟩ := App.update_effects hb
    rw [heffects, hs.2, List.nil_append] at he
    rcases List.mem_append.1 he with he | he
    · obtain ⟨id, hno | hno⟩ := hchange.mem_notes he <;> cases hno
    · obtain ⟨c, hno⟩ | ⟨-, hsave⟩ := hrest _ he
      · cases hno
      · exact ⟨env, a.world, hs.1.keychain, hsave⟩

/-- **Nothing the app saves is dropped by a load.** In every state the app reaches the load-time
filters leave the records alone; a reference to a key that does not exist dangled before; and after
every step that saved the store, the next launch, if the keychain opens, loads all of it. -/
theorem load_filters_drop_nothing (ctx : AppContext) (w₀ : World) (hcache : w₀.cache = none)
    (ls : List AppLabel) (s : AppState) (log : List AppEffect)
    (hfresh : (app ctx).Guarded (FreshStep ctx) (.launching w₀) ls)
    (hrun : (app ctx).run (.launching w₀) ls = some (s, log)) :
    (∀ a, s = .running a →
      dropInvalidKeys a.keys = a.keys ∧ dropInvalid a.profiles = a.profiles ∧
      ∀ server ∈ a.server, dropInvalidClients ctx.crates.parsePublicKey server.authorizedClients =
        server.authorizedClients) ∧
    ∀ l b es, FreshStep ctx s l → (app ctx).step s l = some (.running b, es) →
      (∀ a, s = .running a → NoNewDangling a.records b.records) ∧
      ∀ keys profiles server loginItemSetUp,
        AppEffect.saved keys profiles server loginItemSetUp true ∈ es →
        ∀ platform : Platform, platform.openEntry = .ok () →
          ∃ store, (loadStore ctx.crates.toStoreCrates platform ctx.backend
              (relaunched b.world)).1 = .ok store ∧
            persistedRecords (recordsOf store) = persistedRecords ⟨keys, profiles, server⟩ := by
  have hinit : StateKept ctx (.launching w₀) := hcache
  have hs : StateKept ctx s := (app ctx).guarded_invariant
    (fun _ _ _ _ hC hP h => stateKept_step hC hP h) hinit hfresh hrun
  refine ⟨?_, fun l b es hl hstep => ⟨?_, ?_⟩⟩
  · rintro a rfl
    exact ⟨hs.1.filtered.keys, hs.1.filtered.profiles, hs.1.filtered.clients⟩
  · rintro a rfl
    obtain _ | ⟨_, env, msg, b, hb⟩ := app_step_cases hstep
    obtain ⟨notes, rest, hchange, -⟩ := App.update_effects hb
    exact noNewDangling_of_change hchange
  · intro keys profiles server loginItemSetUp hsaved platform hopen
    obtain ⟨hb, -⟩ : StateKept ctx (.running b) := stateKept_step hl hs hstep
    obtain ⟨env, w, hw, hsave⟩ := exists_savedBy_of_mem hs hstep hsaved
    exact load_of_savedBy hb.filtered hw hsave hopen

/-! ## A session -/

/-- Crates that meet their laws: the only public key is `pub`. -/
noncomputable def sampleCrates : AppCrates where
  toStoreCrates :=
    { plainCrates with
      parsePublicKey := fun s => if s = "pub" then .ok "pub" else .error "not a key" }
  parsePublicKey_token := by
    intro value token h
    dsimp only at h ⊢
    split at h <;> cases h
    rfl
  clientKeyPublic secret := .ok ("public " ++ secret)
  endpointId secret := .ok ("endpoint " ++ secret)
  ipNetwork := .parsing fun _ => none
  routeErrorText _ := ""

noncomputable def sampleContext : AppContext where
  crates := sampleCrates
  backend := some .keychain

def sampleSurroundings : Surroundings where
  platform := workingPlatform
  serverSnapshot := {}
  snapshots := ∅
  newId := 1
  placeholders := { profile := fun i => i.toUInt64, forward := fun _ j => j.toUInt64 }
  mergeIds := { profile := fun i => i.toUInt64, forward := fun _ j => j.toUInt64 }
  clientKey := some ("sec", "pub")
  identity := "identity"
  clipboard := true
  loginItem := .ok ()

/-- The files of an earlier process, which saved one key. -/
noncomputable def storedWorld : World :=
  relaunched (saveStore sampleCrates.toStoreCrates workingPlatform (some .keychain) [sampleKey] []
    none true {}).2

/-- The app that loaded them. -/
def storedApp (w : World) (profileForm : Option ProfileForm) : App :=
  { world := w, keys := [sampleKey], loginItemSetUp := true, profileForm }

def homeSurroundings : Surroundings :=
  { sampleSurroundings with clientKey := some ("sec 2", "pub 2") }

def promptSession : List AppLabel :=
  [.addProfile, .newKeyPrompt, .newKeyNameChanged " home  laptop"].map (.update homeSurroundings)

def storedSession : List AppLabel :=
  .boot homeSurroundings :: promptSession ++ [.update homeSurroundings .newKeyCreate]

theorem boot_storedWorld :
    ∃ w, App.boot sampleContext homeSurroundings storedWorld = storedApp w none := by
  have hsave : saveStore sampleCrates.toStoreCrates workingPlatform (some .keychain) [sampleKey]
      [] none true {} = (.ok (), _) := rfl
  obtain ⟨⟨⟩, hload, hstore⟩ := load_of_save
    ⟨by decide, by decide, by simp, by simp, by simp⟩ hsave (.inr ⟨by rintro key ⟨⟩, rfl⟩)
    (show homeSurroundings.platform.openEntry = .ok () from rfl)
  cases hstore
  have hpair : loadStore sampleContext.crates.toStoreCrates homeSurroundings.platform
    sampleContext.backend storedWorld = (_, _) := Prod.ext hload rfl
  unfold App.boot
  rw [hpair]
  exact ⟨_, rfl⟩

theorem keys_persistStore : (a.persistStore ctx env).keys = a.keys := by
  have hrecords := (Core.persist_effects ctx env a.core).1
  rw [← App.core_persistStore] at hrecords
  exact congrArg Records.keys hrecords

/-- Whether or not the save goes through, the key is in the list. -/
theorem keys_newKeyCreate {prompt name secret publicKey : String}
    (hprompt : a.profileForm.bind ProfileForm.newKeyName = some prompt)
    (hname : validateKeyName prompt a.keys none = .ok name)
    (hkey : env.clientKey = some (secret, publicKey)) :
    ∃ b, a.update ctx env .newKeyCreate = .ok b ∧
      b.keys = a.keys ++ [{ id := randomId env.newId, name, publicKey, secret }] := by
  simp only [App.update, App.createKeyForProfileForm, hprompt, hname, hkey]
  exact ⟨_, rfl, keys_persistStore⟩

theorem drawn_home (hkeys : a.keys = [sampleKey])
    (hmsg : ∀ path, msg ≠ .importPicked (some path)) :
    Drawn sampleContext homeSurroundings a msg where
  keyId _ := by
    rw [hkeys]
    decide
  publicKey _ := by
    rw [hkeys]
    rintro _ ⟨⟩
    decide
  profileIds path _ h := absurd h (hmsg path)

theorem load_filters_drop_nothing_instance :
    ∃ a log, (app sampleContext).run (.launching storedWorld) storedSession =
        some (.running a, log) ∧
      a.keys.map AuthKey.name = ["work laptop", "home laptop"] ∧
      dropInvalidKeys a.keys = a.keys := by
  obtain ⟨w, hw⟩ := boot_storedWorld
  have hboot : (app sampleContext).step (.launching storedWorld) (.boot homeSurroundings) =
      some (.running (storedApp w none), []) := by
    simp only [app, AppState.step, hw]
    rfl
  let prompted :=
    storedApp w (some { ProfileForm.add [] with newKeyName := some " home  laptop" })
  have hprompt : (app sampleContext).run (.running (storedApp w none)) promptSession =
      some (.running prompted, []) := rfl
  obtain ⟨b, hb, hkeys⟩ : ∃ b, prompted.update sampleContext homeSurroundings .newKeyCreate =
      .ok b ∧ b.keys = _ := keys_newKeyCreate rfl rfl rfl
  have hcreate : (app sampleContext).step (.running prompted)
      (.update homeSurroundings .newKeyCreate) =
        some (.running { b with effects := [] }, b.effects) := by
    simp only [app, AppState.step, hb]
    rfl
  have hfresh : (app sampleContext).Guarded (FreshStep sampleContext) (.launching storedWorld)
      storedSession := by
    refine .cons hboot trivial (.cons rfl ?_ (.cons rfl ?_ (.cons (t := .running prompted) rfl ?_
      (.cons hcreate ?_ trivial))))
    all_goals exact drawn_home rfl (by simp)
  have hcreated := (app sampleContext).run_cons_eq_some.2
    ⟨_, _, _, hcreate, (app sampleContext).run_nil _, rfl⟩
  have hrun := (app sampleContext).run_cons_eq_some.2
    ⟨_, _, _, hboot, (app sampleContext).run_append hprompt hcreated, rfl⟩
  have h := load_filters_drop_nothing sampleContext storedWorld rfl storedSession _ _ hfresh hrun
  refine ⟨_, _, hrun, ?_, (h.1 _ rfl).1⟩
  rw [show ({ b with effects := [] } : App).keys = b.keys from rfl, hkeys]
  rfl

end Flextunnel.Analysis
