import Flextunnel.Model.Store

/-!
# The load-time filters, entry by entry

Each filter is meant to keep the first of several entries that clash, and to drop what is not
well formed. The client filter does. The other two record an id before they look at the name, and a
name before they look at the last value: an entry that is dropped can take a later one with it.
-/

set_option autoImplicit false

namespace Flextunnel.Analysis

open Lib Model

instance decidableKeyWellFormed : DecidablePred AuthKey.WellFormed :=
  fun k => inferInstanceAs (Decidable (k.id ≠ "" ∧ isReservedSecretId k.id = false ∧
    isValidName k.name = true))

instance decidableKeyClash : DecidableRel AuthKey.Clash :=
  fun k k' => inferInstanceAs (Decidable (k.id = k'.id ∨ k.name = k'.name ∨
    k.publicKey = k'.publicKey))

def ProfileWellFormed (p : Profile) : Prop := isValidName p.name = true

instance decidableProfileWellFormed : DecidablePred ProfileWellFormed :=
  fun p => inferInstanceAs (Decidable (isValidName p.name = true))

instance decidableProfileClash : DecidableRel Profile.Clash :=
  fun p p' => inferInstanceAs (Decidable (p.id = p'.id ∨ p.name = p'.name ∨
    p.serverNodeId = p'.serverNodeId))

instance decidableClientWellFormed (parseKey : String → Except String String) :
    DecidablePred (AuthorizedClient.WellFormed parseKey) :=
  fun c => inferInstanceAs (Decidable (isValidName c.name = true ∧
    (parseClientPublicKey parseKey c.publicKey).toOption = some c.publicKey))

instance decidableClientClash : DecidableRel AuthorizedClient.Clash :=
  fun c c' => inferInstanceAs (Decidable (c.name = c'.name ∨ c.publicKey = c'.publicKey))

/-! ## The clients -/

/-- The client filter records a client only once it has passed all checks. -/
theorem dropInvalidClients_eq_greedy (parseKey : String → Except String String)
    (clients : List AuthorizedClient) :
    dropInvalidClients parseKey clients =
      greedy (AuthorizedClient.WellFormed parseKey) AuthorizedClient.Clash clients := by
  refine (SeenClients.isSieve parseKey).eq_greedy_of_refused (by simp) fun seen c hrefused => ?_
  grind [SeenClients.check]

/-! ## The keys and the profiles -/

theorem SeenKeys.recordsEarly :
    RecordsEarly SeenKeys.check AuthKey.WellFormed AuthKey.id AuthKey.name AuthKey.publicKey
      SeenKeys.ids SeenKeys.names SeenKeys.publics where
  ids_iff seen k k' hk' := by grind [SeenKeys.check, AuthKey.WellFormed]
  names_iff seen k n := by grind [SeenKeys.check, AuthKey.WellFormed]
  thirds_iff seen k t := by grind [SeenKeys.check]

theorem SeenProfiles.recordsEarly :
    RecordsEarly SeenProfiles.check ProfileWellFormed Profile.id Profile.name Profile.serverNodeId
      SeenProfiles.ids SeenProfiles.names SeenProfiles.servers where
  ids_iff seen p p' _ := by grind [SeenProfiles.check]
  names_iff seen p n := by grind [SeenProfiles.check, ProfileWellFormed]
  thirds_iff seen p t := by grind [SeenProfiles.check]

/-- **The load-time filters keep exactly the well-formed entries that clash with no kept one,
unless a dropped key or profile shadows an entry that ought to be kept**: one with its id, or one
with its name if the dropped entry got as far as its name. -/
theorem load_filters_greedy_iff (parseKey : String → Except String String) (keys : List AuthKey)
    (profiles : List Profile) (clients : List AuthorizedClient) :
    (dropInvalidKeys keys = greedy AuthKey.WellFormed AuthKey.Clash keys ∧
        dropInvalid profiles = greedy ProfileWellFormed Profile.Clash profiles ∧
        dropInvalidClients parseKey clients =
          greedy (AuthorizedClient.WellFormed parseKey) AuthorizedClient.Clash clients) ↔
      (∀ pre k post, keys = pre ++ k :: post → k.WellFormed →
          (∀ j ∈ greedy AuthKey.WellFormed AuthKey.Clash pre, ¬ j.Clash k) →
            ¬ Shadowed AuthKey.WellFormed AuthKey.id AuthKey.name pre k) ∧
        ∀ pre p post, profiles = pre ++ p :: post → ProfileWellFormed p →
          (∀ q ∈ greedy ProfileWellFormed Profile.Clash pre, ¬ q.Clash p) →
            ¬ Shadowed ProfileWellFormed Profile.id Profile.name pre p := by
  have hkeys := SeenKeys.recordsEarly.eq_greedy_iff (s := {}) SeenKeys.isSieve
    (fun _ _ h => .inr (.inr h)) rfl rfl rfl keys
  have hprofiles := SeenProfiles.recordsEarly.eq_greedy_iff (s := {}) SeenProfiles.isSieve
    (fun _ _ h => .inr (.inr h)) rfl rfl rfl profiles
  rw [← hkeys, ← hprofiles]
  constructor
  · rintro ⟨hk, hp, -⟩
    exact ⟨hk, hp⟩
  · rintro ⟨hk, hp⟩
    exact ⟨hk, hp, dropInvalidClients_eq_greedy parseKey clients⟩

/-- A key with a bad name in front of a valid one with the same id. -/
theorem dropped_entry_shadows :
    dropInvalidKeys [⟨"k", " work", "pub-1", ""⟩, ⟨"k", "work", "pub-2", ""⟩] = [] ∧
      greedy AuthKey.WellFormed AuthKey.Clash
        [⟨"k", " work", "pub-1", ""⟩, ⟨"k", "work", "pub-2", ""⟩] = [⟨"k", "work", "pub-2", ""⟩] :=
  ⟨by decide, by decide⟩

end Flextunnel.Analysis
