import Flextunnel.Analysis.LoadFilters

/-!
# The name rule of the forms

The loader has one rule for names, `is_valid_name`, and three forms check names as they are
typed. The key form and the client form count characters, as the loader does. The profile form
counts bytes, although its message speaks of characters, so it refuses names the loader keeps.
-/

set_option autoImplicit false

namespace Flextunnel.Analysis

open Lib Lib.Text Model

/-! ## Names that are valid already -/

theorem normalizeName_of_isValidName {name : String} (h : isValidName name = true) :
    normalizeName name = name :=
  join_splitWhitespace (isValidName_iff.1 h).2.2

theorem isValidName_normalizeName_iff {name : String} :
    isValidName (normalizeName name) = true ↔
      normalizeName name ≠ "" ∧ (normalizeName name).length ≤ 64 := by
  constructor
  · intro h
    obtain ⟨hne, hlen, -⟩ := isValidName_iff.1 h
    refine ⟨fun hempty => hne (by rw [hempty]; rfl), ?_⟩
    rwa [String.length_toList] at hlen
  · rintro ⟨hne, hlen⟩
    exact isValidName_normalizeName hne (by rwa [String.length_toList])

inductive ProducedName (crates : StoreCrates) : String → Prop where
  | loadedKey {keys : List AuthKey} {k : AuthKey} (h : k ∈ dropInvalidKeys keys) :
      ProducedName crates k.name
  | loadedProfile {profiles : List Profile} {p : Profile} (h : p ∈ dropInvalid profiles) :
      ProducedName crates p.name
  | loadedClient {clients : List AuthorizedClient} {c : AuthorizedClient}
      (h : c ∈ dropInvalidClients crates.parsePublicKey clients) : ProducedName crates c.name
  | imported {ids : PlaceholderIds} {path : String} {w : World} {profiles : List Profile}
      {p : Profile} (h : importProfiles crates ids path w = .ok profiles) (hp : p ∈ profiles) :
      ProducedName crates p.name
  | unique {desired name : String} {taken : String → Bool} (hdesired : ProducedName crates desired)
      (h : uniqueName desired taken = .ok name) : ProducedName crates name

theorem dropInvalid_of_importProfiles {crates : StoreCrates} {ids : PlaceholderIds} {path : String}
    {w : World} {profiles : List Profile}
    (h : importProfiles crates ids path w = .ok profiles) : dropInvalid profiles = profiles := by
  unfold importProfiles at h
  obtain ⟨doc, -, h⟩ := bind_eq_ok.1 h
  cases doc with
  | none => cases h
  | some doc =>
    cases h
    exact dropInvalid_dropInvalid _

/-- All of them are valid. -/
theorem ProducedName.isValidName {crates : StoreCrates} {name : String}
    (h : ProducedName crates name) : Model.isValidName name = true := by
  induction h with
  | @loadedKey keys k h =>
    exact ((dropInvalidKeys_eq_self_iff.1 (dropInvalidKeys_dropInvalidKeys keys)).1 k h).2.2
  | @loadedProfile profiles p h =>
    exact (dropInvalid_eq_self_iff.1 (dropInvalid_dropInvalid profiles)).1 p h
  | @loadedClient clients c h =>
    exact ((dropInvalidClients_eq_self_iff.1
      (dropInvalidClients_dropInvalidClients crates.parsePublicKey clients)).1 c h).1
  | @imported ids path w profiles p h hp =>
    exact (dropInvalid_eq_self_iff.1 (dropInvalid_of_importProfiles h)).1 p hp
  | @unique desired name taken _ h ih => exact (uniqueName_ok h ih).2

/-! ## The forms -/

/-- A profile form whose name no other profile has, and whose other fields would pass with some
name. -/
structure ProfileOtherwiseValid (form : ProfileForm) (profiles : List Profile)
    (keys : List AuthKey) (newId : UInt64) : Prop where
  others : ∃ name p, { form with name := name }.validate profiles keys newId = .ok p
  free : ∀ p ∈ profiles, some p.id ≠ form.editingId → p.name ≠ normalizeName form.name

/-- A key form whose name no other key has, and whose secret would pass with some name. -/
structure KeyOtherwiseValid (crates : AppCrates) (form : KeyForm) (keys : List AuthKey)
    (newId : UInt64) : Prop where
  others : ∃ name k, { form with name := name }.validate crates keys newId = .ok k
  free : ∀ k ∈ keys, some k.id ≠ form.editingId → k.name ≠ normalizeName form.name

/-- A client form whose name no client has, and whose key would pass with some name. -/
structure ClientOtherwiseValid (crates : AppCrates) (form : ClientForm)
    (clients : List AuthorizedClient) : Prop where
  others : ∃ name c, { form with name := name }.validate crates clients = .ok c
  free : ∀ c ∈ clients, c.name ≠ normalizeName form.name

/-- The form is accepted, and what it describes is named as typed, whitespace normalized. -/
def ProfileSaved (form : ProfileForm) (profiles : List Profile) (keys : List AuthKey)
    (newId : UInt64) : Prop :=
  ∃ p, form.validate profiles keys newId = .ok p ∧ p.name = normalizeName form.name

@[inherit_doc ProfileSaved]
def KeySaved (crates : AppCrates) (form : KeyForm) (keys : List AuthKey) (newId : UInt64) : Prop :=
  ∃ k, form.validate crates keys newId = .ok k ∧ k.name = normalizeName form.name

@[inherit_doc ProfileSaved]
def ClientSaved (crates : AppCrates) (form : ClientForm) (clients : List AuthorizedClient) : Prop :=
  ∃ c, form.validate crates clients = .ok c ∧ c.name = normalizeName form.name

/-- The profile form counts the bytes of a name. -/
theorem profileSaved_iff {form : ProfileForm} {profiles : List Profile} {keys : List AuthKey}
    {newId : UInt64} (h : ProfileOtherwiseValid form profiles keys newId) :
    ProfileSaved form profiles keys newId ↔
      normalizeName form.name ≠ "" ∧ byteLen (normalizeName form.name) ≤ 64 := by
  constructor
  · rintro ⟨p, hp, -⟩
    obtain ⟨names, hnames, -⟩ := bind_eq_ok.1 hp
    obtain ⟨⟨hne, hlen, -⟩, -⟩ := ProfileForm.validateNames_ok_iff.1 hnames
    exact ⟨hne, hlen⟩
  rintro ⟨hne, hlen⟩
  obtain ⟨other, p, hp⟩ := h.others
  obtain ⟨names, hnames, hp⟩ := bind_eq_ok.1 hp
  obtain ⟨-, hserver, rfl⟩ := ProfileForm.validateNames_ok_iff.1 hnames
  -- no later check looks at the name
  obtain ⟨socks, hsocks, hp⟩ := bind_eq_ok.1 hp
  obtain ⟨http, hhttp, hp⟩ := bind_eq_ok.1 hp
  obtain ⟨relays, hrelays, -⟩ := bind_eq_ok.1 hp
  have hnamed := ProfileForm.validateNames_ok_iff.2 ⟨⟨hne, hlen, h.free⟩, hserver, rfl⟩
  exact ⟨_, bind_eq_ok.2 ⟨_, hnamed, bind_eq_ok.2 ⟨socks, hsocks,
    bind_eq_ok.2 ⟨http, hhttp, bind_eq_ok.2 ⟨relays, hrelays, rfl⟩⟩⟩⟩, rfl⟩

theorem keySaved_iff {crates : AppCrates} {form : KeyForm} {keys : List AuthKey} {newId : UInt64}
    (h : KeyOtherwiseValid crates form keys newId) :
    KeySaved crates form keys newId ↔
      normalizeName form.name ≠ "" ∧ (normalizeName form.name).length ≤ 64 := by
  constructor
  · rintro ⟨k, hk, -⟩
    obtain ⟨hname, -⟩ := KeyForm.validate_ok_iff.1 hk
    obtain ⟨⟨hne, hlen, -⟩, -⟩ := validateKeyName_ok_iff.1 hname
    exact ⟨hne, hlen⟩
  rintro ⟨hne, hlen⟩
  obtain ⟨other, k, hk⟩ := h.others
  obtain ⟨-, hsecret⟩ := KeyForm.validate_ok_iff.1 hk
  have hname := validateKeyName_ok_iff.2 ⟨⟨hne, hlen, h.free⟩, rfl⟩
  exact ⟨{ k with name := normalizeName form.name }, KeyForm.validate_ok_iff.2 ⟨hname, hsecret⟩,
    rfl⟩

theorem clientSaved_iff {crates : AppCrates} {form : ClientForm} {clients : List AuthorizedClient}
    (h : ClientOtherwiseValid crates form clients) :
    ClientSaved crates form clients ↔
      normalizeName form.name ≠ "" ∧ (normalizeName form.name).length ≤ 64 := by
  constructor
  · rintro ⟨c, hc, -⟩
    obtain ⟨⟨hne, hlen, -⟩, -⟩ := ClientForm.validate_ok_iff.1 hc
    exact ⟨hne, hlen⟩
  rintro ⟨hne, hlen⟩
  obtain ⟨other, c, hc⟩ := h.others
  obtain ⟨-, hkey, -⟩ := ClientForm.validate_ok_iff.1 hc
  exact ⟨{ c with name := normalizeName form.name },
    ClientForm.validate_ok_iff.2 ⟨⟨hne, hlen, h.free⟩, hkey, rfl⟩, rfl⟩

/-! ## One rule for all names -/

/-- **The forms have the name rule of the loader exactly for the names that have no more than 64
bytes once they have no more than 64 characters**: then each form, its other fields being valid,
saves a name iff its normal form is valid, and every name that is in the store can be saved
unchanged. -/
theorem forms_follow_name_rule_iff (crates : AppCrates) (name : String) (profileForm : ProfileForm)
    (keyForm : KeyForm) (clientForm : ClientForm) (profiles : List Profile) (keys : List AuthKey)
    (clients : List AuthorizedClient) (profileId keyId : UInt64)
    (hprofileName : profileForm.name = name) (hkeyName : keyForm.name = name)
    (hclientName : clientForm.name = name)
    (hprofile : ProfileOtherwiseValid profileForm profiles keys profileId)
    (hkey : KeyOtherwiseValid crates keyForm keys keyId)
    (hclient : ClientOtherwiseValid crates clientForm clients) :
    ((ProfileSaved profileForm profiles keys profileId ↔ isValidName (normalizeName name) = true) ∧
        (KeySaved crates keyForm keys keyId ↔ isValidName (normalizeName name) = true) ∧
        (ClientSaved crates clientForm clients ↔ isValidName (normalizeName name) = true) ∧
        (ProducedName crates.toStoreCrates name →
          (∃ p, profileForm.validate profiles keys profileId = .ok p ∧ p.name = name) ∧
            (∃ k, keyForm.validate crates keys keyId = .ok k ∧ k.name = name) ∧
            ∃ c, clientForm.validate crates clients = .ok c ∧ c.name = name)) ↔
      ((normalizeName name).length ≤ 64 → byteLen (normalizeName name) ≤ 64) := by
  have hkeySaved := keySaved_iff hkey
  have hclientSaved := clientSaved_iff hclient
  have hprofileSaved := profileSaved_iff hprofile
  rw [hkeyName, ← isValidName_normalizeName_iff] at hkeySaved
  rw [hclientName, ← isValidName_normalizeName_iff] at hclientSaved
  rw [hprofileName] at hprofileSaved
  constructor
  · rintro ⟨hrule, -⟩ hlen
    rw [hprofileSaved, isValidName_normalizeName_iff] at hrule
    by_cases hempty : normalizeName name = ""
    · rw [hempty]
      decide
    · exact (hrule.2 ⟨hempty, hlen⟩).2
  intro hfits
  have hrule : ProfileSaved profileForm profiles keys profileId ↔
      isValidName (normalizeName name) = true := by
    rw [hprofileSaved, isValidName_normalizeName_iff]
    have hbytes := (byteLen_bounds (normalizeName name)).1
    rw [String.length_toList] at hbytes
    exact and_congr_right fun _ => ⟨fun h => hbytes.trans h, hfits⟩
  refine ⟨hrule, hkeySaved, hclientSaved, fun hproduced => ?_⟩
  -- the name is its own normal form
  have hvalid := hproduced.isValidName
  have hnormal := normalizeName_of_isValidName hvalid
  rw [hnormal] at hrule hkeySaved hclientSaved
  obtain ⟨p, hp, hpname⟩ := hrule.2 hvalid
  obtain ⟨k, hk, hkname⟩ := hkeySaved.2 hvalid
  obtain ⟨c, hc, hcname⟩ := hclientSaved.2 hvalid
  refine ⟨⟨p, hp, ?_⟩, ⟨k, hk, ?_⟩, ⟨c, hc, ?_⟩⟩
  · rw [hpname, hprofileName, hnormal]
  · rw [hkname, hkeyName, hnormal]
  · rw [hcname, hclientName, hnormal]

def officeName : String := " Büro  Süd"

theorem forms_follow_name_rule_office :
    (∃ p, { ProfileForm.edit sampleProfile with name := officeName }.validate [sampleProfile]
        [sampleKey] 0 = .ok p ∧ p.name = "Büro Süd") ∧
      (∃ k, ({ name := officeName, secret := "sec 2" } : KeyForm).validate sampleCrates
        [sampleKey] 1 = .ok k ∧ k.name = "Büro Süd") ∧
      ∃ c, ({ name := officeName, publicKey := "pub" } : ClientForm).validate sampleCrates [] =
        .ok c ∧ c.name = "Büro Süd" := by
  obtain ⟨hprofile, hkey, hclient, -⟩ := (forms_follow_name_rule_iff sampleCrates officeName
    { ProfileForm.edit sampleProfile with name := officeName }
    { name := officeName, secret := "sec 2" } { name := officeName, publicKey := "pub" }
    [sampleProfile] [sampleKey] [] 0 1 rfl rfl rfl ⟨⟨"office", _, rfl⟩, by decide⟩
    ⟨⟨"office", _, rfl⟩, by decide⟩ ⟨⟨"office", _, rfl⟩, by decide⟩).2 (fun _ => by decide)
  have hvalid : isValidName (normalizeName officeName) = true := by decide
  exact ⟨hprofile.2 hvalid, hkey.2 hvalid, hclient.2 hvalid⟩

def accentedProfile : Profile :=
  { sampleProfile with name := String.ofList (List.replicate 33 'é') }

/-- The loader keeps the profile, and a key may have its name; but its own form, opened and saved
with nothing changed, refuses it, with a message that speaks of characters. -/
theorem accented_name_refused :
    dropInvalid [accentedProfile] = [accentedProfile] ∧
      accentedProfile.name.length = 33 ∧
      ProfileOtherwiseValid (.edit accentedProfile) [accentedProfile] [sampleKey] 0 ∧
      (ProfileForm.edit accentedProfile).validate [accentedProfile] [sampleKey] 0 =
        .error "Profile name must be 64 characters or fewer" ∧
      validateKeyName accentedProfile.name [] none = .ok accentedProfile.name :=
  ⟨by decide +kernel, by decide, ⟨⟨"office", _, rfl⟩, by decide⟩, rfl, rfl⟩

end Flextunnel.Analysis
