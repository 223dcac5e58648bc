import Flextunnel.Lib.Apart
import Flextunnel.Analysis.ForwardForms
import Flextunnel.Analysis.ImportMerge

/-!
# The local ports

Profiles can run at the same time, so all local listeners share one port namespace: the SOCKS5 port,
the HTTP port and the forwards of every profile. The profile form and the forward form ask
`port_owner` before they save, each leaving out the entry it edits. The import merge asks nothing:
a file can bring ports that clash with each other or with a profile it leaves alone.

An edited forward is left out of its own check by its id, so the ids of the forwards must be apart
as well; they are random, and no load checks them.
-/

set_option autoImplicit false

namespace Flextunnel.Analysis

open Lib Model

/-! ## Who owns a port -/

def localPorts (p : Profile) : List UInt16 :=
  p.socksPort.toList ++ (p.httpPort.toList ++ p.forwards.map PortForward.localPort)

def forwardIds (p : Profile) : List String := p.forwards.map PortForward.id

variable {p : Profile} {port : UInt16} {profiles imported : List Profile} {form : ProfileForm}
    {newId : UInt64} {forward : PortForward} {ids : MergeIds} {m : Merged}

theorem mem_localPorts :
    port ∈ localPorts p ↔
      p.socksPort = some port ∨ p.httpPort = some port ∨
        ∃ f ∈ p.forwards, f.localPort = port := by
  simp [localPorts]

theorem nodup_localPorts_iff :
    (localPorts p).Nodup ↔ (p.forwards.map PortForward.localPort).Nodup ∧
      (∀ port, p.socksPort = some port → p.httpPort ≠ some port) ∧
      ∀ f ∈ p.forwards, p.socksPort ≠ some f.localPort ∧ p.httpPort ≠ some f.localPort := by
  have hone : ∀ o : Option UInt16, o.toList.Nodup := fun o => by cases o <;> simp
  simp only [localPorts, List.nodup_append', hone, true_and, List.disjoint_left, List.mem_append,
    Option.mem_toList, List.mem_map, not_or, not_exists, not_and]
  constructor
  · rintro ⟨⟨hforwards, hhttp⟩, hsocks⟩
    refine ⟨hforwards, fun port hport => (hsocks hport).1, fun f hf => ⟨?_, ?_⟩⟩
    · exact fun h => (hsocks h).2 f hf rfl
    · exact fun h => hhttp h f hf rfl
  rintro ⟨hforwards, hproxies, hf⟩
  refine ⟨⟨hforwards, ?_⟩, ?_⟩
  · rintro port hport f hmem rfl
    exact (hf f hmem).2 hport
  intro port hport
  refine ⟨hproxies port hport, ?_⟩
  rintro f hmem rfl
  exact (hf f hmem).1 hport

/-- A port without an owner, leaving out what is excluded. -/
theorem portOwner_eq_none_iff {excludeProfile excludeForward : Option String} :
    portOwner profiles port excludeProfile excludeForward = none ↔
      ∀ p ∈ profiles,
        (some p.id ≠ excludeProfile → p.socksPort ≠ some port ∧ p.httpPort ≠ some port) ∧
        ∀ f ∈ p.forwards, some f.id ≠ excludeForward → f.localPort ≠ port := by
  unfold portOwner
  rw [List.findSome?_eq_none_iff]
  refine forall₂_congr fun p _ => ?_
  dsimp only
  rw [Option.or_eq_none_iff, List.findSome?_eq_none_iff]
  refine and_congr ?_ (forall₂_congr fun f _ => ?_) <;> grind

/-! ## What the forms let through -/

theorem ProfileForm.validateSocksPort_ok {socks : Option UInt16}
    (h : form.validateSocksPort profiles = .ok socks) (hport : socks = some port) :
    portOwner profiles port form.editingId none = none := by
  unfold ProfileForm.validateSocksPort at h
  split at h
  · obtain ⟨parsed, -, h⟩ := bind_eq_ok.1 h
    split at h <;> cases h
    next hnone =>
      cases hport
      exact hnone
  · cases h
    cases hport

theorem ProfileForm.validateHttpPort_ok {socks http : Option UInt16}
    (h : form.validateHttpPort profiles socks = .ok http) (hport : http = some port) :
    socks ≠ some port ∧ portOwner profiles port form.editingId none = none := by
  unfold ProfileForm.validateHttpPort at h
  split at h
  · obtain ⟨parsed, -, h⟩ := bind_eq_ok.1 h
    obtain ⟨hne, h⟩ := ite_error_eq_ok.1 h
    split at h
    · cases h
    next hnone =>
      cases h
      cases hport
      exact ⟨hne, hnone⟩
  · cases h
    cases hport

theorem ProfileForm.validate_fields {keys : List AuthKey}
    (h : form.validate profiles keys newId = .ok p) :
    p.id = form.editingId.getD (randomId newId) ∧
      (∀ port, p.socksPort = some port → p.httpPort ≠ some port) ∧
      (∀ port, p.socksPort = some port ∨ p.httpPort = some port →
        portOwner profiles port form.editingId none = none) ∧
      (p.forwards = [] ∨ ∃ old ∈ profiles, old.id = p.id ∧ p.forwards = old.forwards) := by
  unfold ProfileForm.validate at h
  obtain ⟨⟨name, node⟩, -, h⟩ := bind_eq_ok.1 h
  obtain ⟨socks, hsocks, h⟩ := bind_eq_ok.1 h
  obtain ⟨http, hhttp, h⟩ := bind_eq_ok.1 h
  obtain ⟨⟨urls, token⟩, -, h⟩ := bind_eq_ok.1 h
  cases h
  refine ⟨rfl, fun port hport hsame => ?_, ?_, ?_⟩
  · exact (ProfileForm.validateHttpPort_ok hhttp hsame).1 hport
  · rintro port (hport | hport)
    · exact ProfileForm.validateSocksPort_ok hsocks hport
    · exact (ProfileForm.validateHttpPort_ok hhttp hport).2
  cases hediting : form.editingId with
  | none => exact .inl rfl
  | some id =>
    cases hfind : profiles.find? fun p => p.id == id with
    | none =>
      left
      simp [hfind]
    | some old =>
      refine .inr ⟨old, List.mem_of_find?_eq_some hfind, ?_, by simp [hfind]⟩
      simpa using List.find?_some hfind

/-- A profile the form lets through shares no port with the others. -/
theorem ProfileForm.validate_ports {keys : List AuthKey}
    (h : form.validate profiles keys newId = .ok p)
    (happart : Apart Profile.id localPorts profiles) :
    (localPorts p).Nodup ∧
      ∀ q ∈ profiles, q.id ≠ p.id → (localPorts p).Disjoint (localPorts q) := by
  obtain ⟨hid, hproxies, howner, hforwards⟩ := ProfileForm.validate_fields h
  -- its forwards are those it had
  have hold : ∀ f ∈ p.forwards, ∃ old ∈ profiles, old.id = p.id ∧ f ∈ old.forwards := by
    intro f hf
    rcases hforwards with hnil | ⟨old, hmem, hid, hsame⟩
    · rw [hnil] at hf
      cases hf
    · exact ⟨old, hmem, hid, hsame ▸ hf⟩
  refine ⟨nodup_localPorts_iff.2 ⟨?_, hproxies, fun f hf => ?_⟩, ?_⟩
  · rcases hforwards with hnil | ⟨old, hmem, -, hsame⟩
    · simp [hnil]
    · rw [hsame]
      exact (nodup_localPorts_iff.1 (happart.nodup old hmem)).1
  · obtain ⟨old, hmem, -, hf⟩ := hold f hf
    constructor
    · intro hport
      exact ((portOwner_eq_none_iff.1 (howner _ (.inl hport))) old hmem).2 f hf (by simp) rfl
    · intro hport
      exact ((portOwner_eq_none_iff.1 (howner _ (.inr hport))) old hmem).2 f hf (by simp) rfl
  intro q hq hne port hport hport'
  have hfree : p.socksPort = some port ∨ p.httpPort = some port → False := by
    intro hport
    obtain ⟨hq₁, hq₂⟩ := portOwner_eq_none_iff.1 (howner port hport) q hq
    obtain ⟨hsocks, hhttp⟩ := hq₁ (ne_editingId (hid ▸ hne))
    rcases mem_localPorts.1 hport' with h | h | ⟨f, hf, h⟩
    · exact hsocks h
    · exact hhttp h
    · exact hq₂ f hf (by simp) h
  rcases mem_localPorts.1 hport with h | h | ⟨f, hf, h⟩
  · exact hfree (.inl h)
  · exact hfree (.inr h)
  · obtain ⟨old, hmem, hold, hf⟩ := hold f hf
    refine happart.disjoint old hmem q hq (by rw [hold]; exact hne.symm) ?_ hport'
    exact mem_localPorts.2 (.inr (.inr ⟨f, hf, h⟩))

/-- A forward the form lets through shares no port. -/
theorem ForwardForm.validate_ok {form : ForwardForm}
    (h : form.validate profiles newId = .ok forward) :
    forward.id = form.editingId.getD (randomId newId) ∧
      ∀ p ∈ profiles, p.socksPort ≠ some forward.localPort ∧
        p.httpPort ≠ some forward.localPort ∧
        ∀ f ∈ p.forwards, f.id ≠ forward.id → f.localPort ≠ forward.localPort := by
  unfold ForwardForm.validate at h
  obtain ⟨label, -, h⟩ := bind_eq_ok.1 h
  obtain ⟨localPort, -, h⟩ := bind_eq_ok.1 h
  obtain ⟨remoteHost, -, h⟩ := bind_eq_ok.1 h
  obtain ⟨remotePort, -, h⟩ := bind_eq_ok.1 h
  split at h
  · cases h
  next hnone =>
    cases h
    refine ⟨rfl, fun p hp => ?_⟩
    obtain ⟨hproxies, hforwards⟩ := portOwner_eq_none_iff.1 hnone p hp
    obtain ⟨hsocks, hhttp⟩ := hproxies (by simp)
    exact ⟨hsocks, hhttp, fun f hf hne => hforwards f hf (ne_editingId hne)⟩

def withForward (p : Profile) (forward : PortForward) : Profile :=
  { p with forwards := upsert PortForward.id forward p.forwards }

theorem nodup_map_upsert {α β : Type} {key : α → String} {value : α → β} {x : α} {xs : List α}
    (hkeys : (xs.map key).Nodup) (hvalues : (xs.map value).Nodup)
    (hx : ∀ y ∈ xs, key y ≠ key x → value x ≠ value y) :
    ((upsert key x xs).map value).Nodup := by
  rw [List.Nodup, List.pairwise_map] at hkeys hvalues ⊢
  have hboth : xs.Pairwise fun a b => key a ≠ key b ∧ value a ≠ value b := hkeys.and hvalues
  refine (pairwise_upsert (fun _ _ h => ⟨h.1.symm, h.2.symm⟩) hboth (fun _ _ h => h.1) ?_).imp
    And.right
  exact fun y hy hne => ⟨hne.symm, hx y hy hne⟩

theorem mem_forwards_withForward {f : PortForward} (h : f ∈ (withForward p forward).forwards) :
    f = forward ∨ f ∈ p.forwards :=
  mem_of_mem_upsert h

theorem localPorts_withForward (hports : Apart Profile.id localPorts profiles)
    (hids : Apart Profile.id forwardIds profiles) (hp : p ∈ profiles)
    (hforward : ∀ p ∈ profiles, p.socksPort ≠ some forward.localPort ∧
        p.httpPort ≠ some forward.localPort ∧
        ∀ f ∈ p.forwards, f.id ≠ forward.id → f.localPort ≠ forward.localPort)
    (hnew : ∀ q ∈ profiles, q.id ≠ p.id → forward.id ∉ forwardIds q) :
    (localPorts (withForward p forward)).Nodup ∧
      ∀ q ∈ profiles, q.id ≠ p.id →
        (localPorts (withForward p forward)).Disjoint (localPorts q) := by
  obtain ⟨hnodup, hproxies, hown⟩ := nodup_localPorts_iff.1 (hports.nodup p hp)
  obtain ⟨hsocks, hhttp, hothers⟩ := hforward p hp
  refine ⟨nodup_localPorts_iff.2 ⟨?_, hproxies, fun f hf => ?_⟩, ?_⟩
  · exact nodup_map_upsert (hids.nodup p hp) hnodup fun f hf hne => (hothers f hf hne).symm
  · rcases mem_forwards_withForward hf with rfl | hf
    · exact ⟨hsocks, hhttp⟩
    · exact hown f hf
  intro q hq hne port hport hport'
  have hold : port ∈ localPorts p → False := fun h => hports.disjoint p hp q hq hne.symm h hport'
  rcases mem_localPorts.1 hport with h | h | ⟨f, hf, h⟩
  · exact hold (mem_localPorts.2 (.inl h))
  · exact hold (mem_localPorts.2 (.inr (.inl h)))
  rcases mem_forwards_withForward hf with rfl | hf
  · obtain ⟨hqsocks, hqhttp, hqothers⟩ := hforward q hq
    rcases mem_localPorts.1 hport' with h' | h' | ⟨g, hg, h'⟩
    · exact hqsocks (h'.trans (congrArg some h.symm))
    · exact hqhttp (h'.trans (congrArg some h.symm))
    · -- a forward of another profile is not the one being edited
      refine hqothers g hg (fun hid => hnew q hq hne ?_) (h'.trans h.symm)
      exact List.mem_map.2 ⟨g, hg, hid⟩
  · exact hold (mem_localPorts.2 (.inr (.inr ⟨f, hf, h⟩)))

theorem forwardIds_withForward (hids : Apart Profile.id forwardIds profiles) (hp : p ∈ profiles)
    (hnew : ∀ q ∈ profiles, q.id ≠ p.id → forward.id ∉ forwardIds q) :
    (forwardIds (withForward p forward)).Nodup ∧
      ∀ q ∈ profiles, q.id ≠ p.id →
        (forwardIds (withForward p forward)).Disjoint (forwardIds q) := by
  refine ⟨?_, fun q hq hne id hid hid' => ?_⟩
  · exact nodup_map_upsert (hids.nodup p hp) (hids.nodup p hp) fun f hf hne => hne.symm
  obtain ⟨f, hf, rfl⟩ := List.mem_map.1 hid
  rcases mem_forwards_withForward hf with rfl | hf
  · exact hnew q hq hne hid'
  · exact hids.disjoint p hp q hq hne.symm (List.mem_map.2 ⟨f, hf, rfl⟩) hid'

/-! ## The import merge -/

def MadeFrom (ids : MergeIds) (imported : List Profile) (p : Profile) : Prop :=
  ∃ k entry, imported[k]? = some entry ∧ p.serverNodeId = entry.serverNodeId ∧
    localPorts p = localPorts entry ∧
    forwardIds p = (List.range entry.forwards.length).map fun j => randomId (ids.forward k j)

theorem MadeFrom.append {done : List Profile} (h : MadeFrom ids done p) (rest : List Profile) :
    MadeFrom ids (done ++ rest) p := by
  obtain ⟨k, entry, hk, hmade⟩ := h
  obtain ⟨hlt, -⟩ := List.getElem?_eq_some_iff.1 hk
  exact ⟨k, entry, by rwa [List.getElem?_append_left hlt], hmade⟩

theorem madeFrom_incoming {done : List Profile} {entry : Profile}
    (hserver : p.serverNodeId = entry.serverNodeId) (hsocks : p.socksPort = entry.socksPort)
    (hhttp : p.httpPort = entry.httpPort)
    (hforwards : p.forwards = (incoming ids (entry, done.length)).forwards) :
    MadeFrom ids (done ++ [entry]) p := by
  refine ⟨done.length, entry, by simp, hserver, ?_, ?_⟩
  · unfold localPorts
    rw [hsocks, hhttp, hforwards]
    congr 2
    apply List.ext_getElem (by simp [incoming])
    simp [incoming]
  · unfold forwardIds
    rw [hforwards]
    apply List.ext_getElem (by simp [incoming])
    simp [incoming]

/-- A merged profile is an old one the file does not replace, or made from an entry. -/
theorem mergeImported_members (h : mergeImported ids profiles imported = .ok m)
    (hservers : (profiles.map Profile.serverNodeId).Nodup) :
    (m.profiles.map Profile.serverNodeId).Nodup ∧ ∀ p ∈ m.profiles,
      (p ∈ profiles ∧ ∀ q ∈ imported, q.serverNodeId ≠ p.serverNodeId) ∨
        MadeFrom ids imported p := by
  refine mergeImported_induction (P := fun done m =>
    (m.profiles.map Profile.serverNodeId).Nodup ∧ ∀ p ∈ m.profiles,
      (p ∈ profiles ∧ ∀ q ∈ done, q.serverNodeId ≠ p.serverNodeId) ∨ MadeFrom ids done p)
    h ⟨hservers, fun p hp => .inl ⟨hp, by simp⟩⟩ ?_
  rintro done entry m m' - ⟨hnodup, hmembers⟩ hone
  -- a profile of another server is what it was
  have hother : ∀ p ∈ m.profiles, p.serverNodeId ≠ entry.serverNodeId →
      (p ∈ profiles ∧ ∀ q ∈ done ++ [entry], q.serverNodeId ≠ p.serverNodeId) ∨
        MadeFrom ids (done ++ [entry]) p := by
    intro p hp hne
    rcases hmembers p hp with ⟨hmem, hq⟩ | hmade
    · refine .inl ⟨hmem, fun q hq' => ?_⟩
      rcases List.mem_append.1 hq' with hq' | hq'
      · exact hq q hq'
      · rw [List.mem_singleton.1 hq']
        exact hne.symm
    · exact .inr (hmade.append _)
  obtain ⟨pos, old, name, hold, hserver, -, hm'⟩ | ⟨name, hnew, -, hm'⟩ := mergeOne_shape hone
  · obtain ⟨hlt, rfl⟩ := List.getElem?_eq_some_iff.1 hold
    refine ⟨?_, fun p hp => ?_⟩
    · rw [hm', List.map_set]
      have hsame : (m.profiles.map Profile.serverNodeId).set pos entry.serverNodeId =
          m.profiles.map Profile.serverNodeId := by
        rw [← hserver, ← List.getElem_map Profile.serverNodeId (h := by simpa using hlt),
          List.set_getElem_self]
      exact hsame.symm ▸ hnodup
    rw [hm'] at hp
    obtain ⟨j, hj⟩ := List.mem_iff_getElem?.1 hp
    obtain ⟨rfl, rfl⟩ | ⟨hne, hj⟩ := getElem?_set_cases hj
    · exact .inr (madeFrom_incoming rfl rfl rfl rfl)
    refine hother p (List.mem_of_getElem? hj) fun heq => hne ?_
    have hlt' := (List.getElem?_eq_some_iff.1 hj).1
    refine (List.getElem?_inj (by simpa using hlt') hnodup).1 ?_
    rw [List.getElem?_map, List.getElem?_map, hj, hold, Option.map_some, Option.map_some, heq,
      hserver]
  · refine ⟨?_, fun p hp => ?_⟩
    · rw [hm', List.map_append, List.nodup_append']
      refine ⟨hnodup, by simp, fun server hs hs' => ?_⟩
      obtain ⟨q, hq, rfl⟩ := List.mem_map.1 hs
      exact hnew q hq (by simpa [incoming] using hs')
    rw [hm'] at hp
    rcases List.mem_append.1 hp with hp | hp
    · exact hother p hp (hnew p hp)
    · rw [List.mem_singleton] at hp
      subst hp
      exact .inr (madeFrom_incoming rfl rfl rfl rfl)

/-- The ports of the file share nothing with each other, nor with the profiles it does not replace.
-/
structure PortsFit (profiles imported : List Profile) : Prop where
  nodup : (imported.flatMap localPorts).Nodup
  apart : ∀ p ∈ profiles, (∀ q ∈ imported, q.serverNodeId ≠ p.serverNodeId) →
    ∀ q ∈ imported, (localPorts p).Disjoint (localPorts q)

structure NewForwardIds (ids : Nat → Nat → UInt64) (imported : List Profile) (used : List String) :
    Prop where
  unused : ∀ k entry j, imported[k]? = some entry → j < entry.forwards.length →
    randomId (ids k j) ∉ used
  apart : ∀ k entry j k' entry' j', imported[k]? = some entry → j < entry.forwards.length →
    imported[k']? = some entry' → j' < entry'.forwards.length →
    randomId (ids k j) = randomId (ids k' j') → k = k' ∧ j = j'

theorem MadeFrom.mem_forwardIds (h : MadeFrom ids imported p) {id : String}
    (hid : id ∈ forwardIds p) :
    ∃ k entry j, imported[k]? = some entry ∧ j < entry.forwards.length ∧
      p.serverNodeId = entry.serverNodeId ∧ id = randomId (ids.forward k j) := by
  obtain ⟨k, entry, hk, hserver, -, hids⟩ := h
  rw [hids] at hid
  obtain ⟨j, hj, rfl⟩ := List.mem_map.1 hid
  exact ⟨k, entry, j, hk, List.mem_range.1 hj, hserver, rfl⟩

/-- What the old profiles hold apart stays apart in a merge, if what it makes is apart from what it
leaves alone and from each other. -/
theorem mergeImported_apart {β : Type} {held : Profile → List β}
    (h : mergeImported ids profiles imported = .ok m)
    (hservers : (profiles.map Profile.serverNodeId).Nodup) (hheld : Apart Profile.id held profiles)
    (hmade : ∀ p, MadeFrom ids imported p → (held p).Nodup)
    (hcross : ∀ p ∈ profiles, (∀ q ∈ imported, q.serverNodeId ≠ p.serverNodeId) →
      ∀ q, MadeFrom ids imported q → (held p).Disjoint (held q))
    (hnew : ∀ p q, MadeFrom ids imported p → MadeFrom ids imported q →
      p.serverNodeId ≠ q.serverNodeId → (held p).Disjoint (held q)) :
    Apart Profile.id held m.profiles := by
  obtain ⟨hnodup, hmembers⟩ := mergeImported_members h hservers
  refine ⟨fun p hp => ?_, fun p hp q hq hne => ?_⟩
  · exact (hmembers p hp).elim (fun hold => hheld.nodup p hold.1) (hmade p)
  rcases hmembers p hp with ⟨hold, hp'⟩ | hp'
  · rcases hmembers q hq with ⟨hold', -⟩ | hq'
    · exact hheld.disjoint p hold q hold' hne
    · exact hcross p hold hp' q hq'
  rcases hmembers q hq with ⟨hold', hq'⟩ | hq'
  · exact List.disjoint_symm (hcross q hold' hq' p hp')
  · exact hnew p q hp' hq' fun heq =>
      hne (congrArg Profile.id (List.inj_on_of_nodup_map hnodup hp hq heq))

theorem mergeImported_ports (h : mergeImported ids profiles imported = .ok m)
    (hservers : (profiles.map Profile.serverNodeId).Nodup) (hfit : PortsFit profiles imported)
    (hports : Apart Profile.id localPorts profiles) : Apart Profile.id localPorts m.profiles := by
  refine mergeImported_apart h hservers hports ?_ ?_ ?_
  · rintro p ⟨k, entry, hk, -, hsame, -⟩
    rw [hsame]
    exact (List.nodup_flatMap.1 hfit.nodup).1 entry (List.mem_of_getElem? hk)
  · rintro p hp hothers q ⟨k, entry, hk, -, hsame, -⟩
    rw [hsame]
    exact hfit.apart p hp hothers entry (List.mem_of_getElem? hk)
  rintro p q ⟨k, entry, hk, hentry, hsame, -⟩ ⟨k', entry', hk', hentry', hsame', -⟩ hserver
  rw [hsame, hsame']
  refine disjoint_of_nodup_flatMap hfit.nodup (List.mem_of_getElem? hk)
    (List.mem_of_getElem? hk') ?_
  rintro rfl
  exact hserver (hentry.trans hentry'.symm)

theorem mergeImported_forwardIds (h : mergeImported ids profiles imported = .ok m)
    (hservers : (profiles.map Profile.serverNodeId).Nodup) {used : List String}
    (hused : ∀ p ∈ profiles, ∀ id ∈ forwardIds p, id ∈ used)
    (hnew : NewForwardIds ids.forward imported used) (hids : Apart Profile.id forwardIds profiles) :
    Apart Profile.id forwardIds m.profiles := by
  refine mergeImported_apart h hservers hids ?_ ?_ ?_
  · rintro p ⟨k, entry, hk, -, -, hsame⟩
    rw [hsame]
    refine List.Nodup.map_on (fun i hi j hj heq => ?_) List.nodup_range
    exact (hnew.apart k entry i k entry j hk (List.mem_range.1 hi) hk (List.mem_range.1 hj) heq).2
  · intro p hp _ q hq id hid hid'
    obtain ⟨k, entry, j, hk, hj, -, rfl⟩ := hq.mem_forwardIds hid'
    exact hnew.unused k entry j hk hj (hused p hp _ hid)
  intro p q hp hq hserver id hid hid'
  obtain ⟨k, entry, j, hk, hj, hentry, rfl⟩ := hp.mem_forwardIds hid
  obtain ⟨k', entry', j', hk', hj', hentry', heq⟩ := hq.mem_forwardIds hid'
  obtain ⟨rfl, -⟩ := hnew.apart k entry j k' entry' j' hk hj hk' hj' heq
  cases hk.symm.trans hk'
  exact hserver (hentry.trans hentry'.symm)

/-! ## One update -/

section Updates

variable {ctx : AppContext} {env : Surroundings} {a b : App} {msg : Message}
  {notes : List AppEffect} {r : Records}

def editedForward (a : App) : Option String := a.forwardForm.bind fun form => form.2.editingId

/-- What an update draws for forwards is new: the id of an added forward, and the ids of imported
ones, which are no id of a forward nor that of the forward being edited. -/
structure ForwardsDrawn (ctx : AppContext) (env : Surroundings) (a : App) (msg : Message) :
    Prop where
  added : msg = .formSave → ∀ p ∈ a.profiles, randomId env.newId ∉ forwardIds p
  imported : ∀ path imported, msg = .importPicked (some path) →
    importProfiles ctx.crates.toStoreCrates env.placeholders path a.world = .ok imported →
    NewForwardIds env.mergeIds.forward imported
      (a.profiles.flatMap forwardIds ++ (editedForward a).toList)

/-- The ports of a file that is imported fit those of the profiles it does not replace. -/
def ImportFits (ctx : AppContext) (env : Surroundings) (a : App) (msg : Message) : Prop :=
  ∀ path imported, msg = .importPicked (some path) →
    importProfiles ctx.crates.toStoreCrates env.placeholders path a.world = .ok imported →
    PortsFit a.profiles imported

/-- All ports are apart, and so are the ids of all forwards; the forward being edited belongs to no
other profile than the one its form was opened for. -/
structure PortsKept (a : App) : Prop where
  ports : Apart Profile.id localPorts a.profiles
  ids : Apart Profile.id forwardIds a.profiles
  form : ∀ profileId form id, a.forwardForm = some (profileId, form) → form.editingId = some id →
    ∀ p ∈ a.profiles, p.id ≠ profileId → id ∉ forwardIds p

theorem PortsKept.saved_unused (ha : PortsKept a) {profileId : String} {form : ForwardForm}
    (hform : a.forwardForm = some (profileId, form))
    (hnew : ∀ p ∈ a.profiles, randomId env.newId ∉ forwardIds p) {p : Profile}
    (hp : p ∈ a.profiles) (hne : p.id ≠ profileId) :
    form.editingId.getD (randomId env.newId) ∉ forwardIds p := by
  cases hediting : form.editingId with
  | none => exact hnew p hp
  | some id => exact ha.form profileId form id hform hediting p hp hne

theorem sublist_of_fewer {p p' : Profile} (hsame : p'.withoutForwards = p.withoutForwards)
    (h : (p'.forwards.map PortForward.off).Sublist (p.forwards.map PortForward.off)) :
    p'.id = p.id ∧ (localPorts p').Sublist (localPorts p) ∧
      (forwardIds p').Sublist (forwardIds p) := by
  have hfield : ∀ {β : Type} (g : Profile → β), (∀ q : Profile, g q.withoutForwards = g q) →
      g p' = g p := by
    intro β g hg
    rw [← hg p', hsame, hg]
  have hsocks := hfield Profile.socksPort fun _ => rfl
  have hhttp := hfield Profile.httpPort fun _ => rfl
  have hmap : ∀ {β : Type} (g : PortForward → β), (∀ f, g f.off = g f) →
      (p'.forwards.map g).Sublist (p.forwards.map g) := by
    intro β g hg
    have hmapped := h.map g
    rw [List.map_map, List.map_map] at hmapped
    rwa [show g ∘ PortForward.off = g from funext hg] at hmapped
  refine ⟨hfield Profile.id fun _ => rfl, ?_, hmap PortForward.id fun _ => rfl⟩
  unfold localPorts
  rw [hsocks, hhttp]
  exact (List.Sublist.refl _).append ((List.Sublist.refl _).append
    (hmap PortForward.localPort fun _ => rfl))

/-- **No change of the records makes two listeners share a port.** -/
theorem apart_of_change (h : Change ctx env a msg notes r) (ha : PortsKept a)
    (hfiltered : dropInvalid a.profiles = a.profiles) (hdrawn : ForwardsDrawn ctx env a msg)
    (hfits : ImportFits ctx env a msg) :
    Apart Profile.id localPorts r.profiles ∧ Apart Profile.id forwardIds r.profiles := by
  cases h with
  | none | keySaved | keyCreated | keyDeleted | serverSaved | serverDeleted | serverEnabled
  | clientAdded | clientsRemoved | identitySaved => exact ⟨ha.ports, ha.ids⟩
  | profileSaved form p _ hp =>
    obtain ⟨hnodup, hdisjoint⟩ := ProfileForm.validate_ports hp ha.ports
    have hmem : ∀ q ∈ upsert Profile.id p a.profiles, q ∈ a.profiles ∨ q = p :=
      fun q hq => (mem_of_mem_upsert hq).symm
    refine ⟨ha.ports.replaced hmem hnodup hdisjoint, ?_⟩
    -- the forwards are those the profile had
    obtain ⟨-, -, -, hnil | ⟨old, hold, hid, hsame⟩⟩ := ProfileForm.validate_fields hp
    · exact ha.ids.replaced hmem (by simp [forwardIds, hnil]) (by simp [forwardIds, hnil])
    have hids : forwardIds p = forwardIds old := congrArg (List.map PortForward.id) hsame
    refine ha.ids.replaced hmem (hids ▸ ha.ids.nodup old hold) fun q hq hne => ?_
    rw [hids]
    exact ha.ids.disjoint old hold q hq (by rw [hid]; exact hne.symm)
  | profileDeleted id pos _ =>
    have hmem : ∀ q ∈ a.profiles.eraseIdx pos, q ∈ a.profiles :=
      fun q hq => (List.eraseIdx_sublist _ _).subset hq
    exact ⟨ha.ports.fewer fun q hq => ⟨q, hmem q hq, rfl, List.Sublist.refl _⟩,
      ha.ids.fewer fun q hq => ⟨q, hmem q hq, rfl, List.Sublist.refl _⟩⟩
  | forwards profiles _ hchange =>
    cases hchange with
    | fewer hfewer =>
      have hshrunk : ∀ q ∈ profiles, ∃ p ∈ a.profiles, q.id = p.id ∧
          (localPorts q).Sublist (localPorts p) ∧ (forwardIds q).Sublist (forwardIds p) := by
        intro q hq
        obtain ⟨p, hp, hsame, hsub⟩ := hfewer q hq
        exact ⟨p, hp, sublist_of_fewer hsame hsub⟩
      refine ⟨ha.ports.fewer fun q hq => ?_, ha.ids.fewer fun q hq => ?_⟩
      · obtain ⟨p, hp, hid, hports, -⟩ := hshrunk q hq
        exact ⟨p, hp, hid, hports⟩
      · obtain ⟨p, hp, hid, -, hids⟩ := hshrunk q hq
        exact ⟨p, hp, hid, hids⟩
    | saved profileId form forward p hmsg hform hforward hp hid hmem =>
      obtain ⟨hforwardId, hfree⟩ := ForwardForm.validate_ok hforward
      have hunused : ∀ q ∈ a.profiles, q.id ≠ p.id → forward.id ∉ forwardIds q := by
        intro q hq hne
        rw [hforwardId]
        exact ha.saved_unused hform (hdrawn.added hmsg) hq (hid ▸ hne)
      obtain ⟨hports, hdisjoint⟩ := localPorts_withForward ha.ports ha.ids hp hfree hunused
      obtain ⟨hids, hdisjoint'⟩ := forwardIds_withForward ha.ids hp hunused
      exact ⟨ha.ports.replaced hmem hports hdisjoint, ha.ids.replaced hmem hids hdisjoint'⟩
  | merged path imported m hmsg himported hm =>
    have hservers := nodup_of_dropInvalid hfiltered
      fun p q (h : p.serverNodeId = q.serverNodeId) => .inr (.inr h)
    refine ⟨mergeImported_ports hm hservers (hfits path imported hmsg himported) ha.ports, ?_⟩
    refine mergeImported_forwardIds hm hservers (fun p hp id hid => ?_)
      (hdrawn.imported path imported hmsg himported) ha.ids
    exact List.mem_append_left _ (List.mem_flatMap.2 ⟨p, hp, hid⟩)

/-- Where the ids of the forwards after a change come from. -/
theorem forwardIds_of_change (h : Change ctx env a msg notes r)
    (hfiltered : dropInvalid a.profiles = a.profiles) (hdrawn : ForwardsDrawn ctx env a msg)
    {p' : Profile} (hp' : p' ∈ r.profiles) {id : String} (hid : id ∈ forwardIds p') :
    (∃ p ∈ a.profiles, p.id = p'.id ∧ id ∈ forwardIds p) ∨
      (msg = .formSave ∧ ∃ form, a.forwardForm = some (p'.id, form) ∧
        id = form.editingId.getD (randomId env.newId)) ∨
      ((∀ p ∈ a.profiles, id ∉ forwardIds p) ∧ editedForward a ≠ some id) := by
  cases h with
  | none | keySaved | keyCreated | keyDeleted | serverSaved | serverDeleted | serverEnabled
  | clientAdded | clientsRemoved | identitySaved => exact .inl ⟨p', hp', rfl, hid⟩
  | profileSaved form p _ hp =>
    rcases mem_of_mem_upsert hp' with rfl | hp'
    · obtain ⟨-, -, -, hnil | ⟨old, hold, hsameId, hsame⟩⟩ := ProfileForm.validate_fields hp
      · simp [forwardIds, hnil] at hid
      · refine .inl ⟨old, hold, hsameId, ?_⟩
        rwa [forwardIds, ← hsame]
    · exact .inl ⟨p', hp', rfl, hid⟩
  | profileDeleted _ pos _ =>
    exact .inl ⟨p', (List.eraseIdx_sublist _ _).subset hp', rfl, hid⟩
  | forwards profiles _ hchange =>
    cases hchange with
    | fewer hfewer =>
      obtain ⟨p, hp, hsame, hsub⟩ := hfewer p' hp'
      obtain ⟨hsameId, -, hids⟩ := sublist_of_fewer hsame hsub
      exact .inl ⟨p, hp, hsameId.symm, hids.subset hid⟩
    | saved profileId form forward p hmsg hform hforward hp hpid hmem =>
      obtain ⟨hforwardId, -⟩ := ForwardForm.validate_ok hforward
      rcases hmem p' hp' with hp' | rfl
      · exact .inl ⟨p', hp', rfl, hid⟩
      obtain ⟨f, hf, rfl⟩ := List.mem_map.1 hid
      rcases mem_of_mem_upsert hf with rfl | hf
      · exact .inr (.inl ⟨hmsg, form, by rw [hform, ← hpid], hforwardId⟩)
      · exact .inl ⟨p, hp, rfl, List.mem_map.2 ⟨f, hf, rfl⟩⟩
  | merged path imported m hmsg himported hm =>
    have hservers := nodup_of_dropInvalid hfiltered
      fun p q (h : p.serverNodeId = q.serverNodeId) => .inr (.inr h)
    rcases (mergeImported_members hm hservers).2 p' hp' with ⟨hold, -⟩ | hmade
    · exact .inl ⟨p', hold, rfl, hid⟩
    obtain ⟨k, entry, j, hk, hj, -, rfl⟩ := hmade.mem_forwardIds hid
    have hunused := (hdrawn.imported path imported hmsg himported).unused k entry j hk hj
    rw [List.mem_append, not_or] at hunused
    refine .inr (.inr ⟨fun p hp hmem => hunused.1 (List.mem_flatMap.2 ⟨p, hp, hmem⟩), ?_⟩)
    simpa using hunused.2

/-- An update keeps the ports apart. -/
theorem portsKept_update (h : a.update ctx env msg = .ok b) (ha : PortsKept a)
    (hfiltered : dropInvalid a.profiles = a.profiles) (hdrawn : ForwardsDrawn ctx env a msg)
    (hfits : ImportFits ctx env a msg) : PortsKept b := by
  obtain ⟨notes, rest, hchange, -⟩ := App.update_effects h
  obtain ⟨hports, hids⟩ := apart_of_change hchange ha hfiltered hdrawn hfits
  refine ⟨hports, hids, fun profileId form id hform hediting p hp hne hid => ?_⟩
  rcases update_forwardForm h profileId form id hform hediting with
    ⟨form₀, hform₀, hediting₀⟩ | ⟨p₀, hp₀, forward, hforward, rfl⟩
  · -- the form was open already
    rcases forwardIds_of_change hchange hfiltered hdrawn hp hid with
      ⟨q, hq, hqid, hmem⟩ | ⟨-, form₁, hform₁, -⟩ | ⟨-, hnotEdited⟩
    · exact ha.form profileId form₀ id hform₀ hediting₀ q hq (by rwa [hqid]) hmem
    · rw [hform₀] at hform₁
      exact hne (Prod.mk.inj (Option.some.inj hform₁)).1.symm
    · exact hnotEdited (by rw [editedForward, hform₀]; exact hediting₀)
  -- it was opened for a forward of the profile
  have hp₀mem := List.mem_of_find?_eq_some hp₀
  have hp₀id : p₀.id = profileId := by simpa using List.find?_some hp₀
  have hmem₀ : forward.id ∈ forwardIds p₀ := List.mem_map.2 ⟨forward, hforward, rfl⟩
  have hne₀ : p₀.id ≠ p.id := by rw [hp₀id]; exact hne.symm
  rcases forwardIds_of_change hchange hfiltered hdrawn hp hid with
    ⟨q, hq, hqid, hmem⟩ | ⟨hmsg, form₁, hform₁, heq⟩ | ⟨hnew, -⟩
  · exact ha.ids.disjoint p₀ hp₀mem q hq (by rwa [hqid]) hmem₀ hmem
  · exact ha.saved_unused hform₁ (hdrawn.added hmsg) hp₀mem hne₀ (heq ▸ hmem₀)
  · exact hnew p₀ hp₀mem hmem₀

theorem forwardForm_boot (w : World) : (App.boot ctx env w).forwardForm = none := by
  unfold App.boot App.setUpLoginItem
  dsimp only
  (repeat' split) <;> simp

end Updates

/-! ## Whole sessions -/

section Sessions

variable {ctx : AppContext}

/-- No two local listeners of the store share a port, and no two forwards have one id. -/
def StoreApart (ctx : AppContext) (w : World) : Prop :=
  ∀ platform store, (loadStore ctx.crates.toStoreCrates platform ctx.backend w).1 = .ok store →
    (store.profiles.flatMap localPorts).Nodup ∧ (store.profiles.flatMap forwardIds).Nodup

/-- What a step draws at random is new, and the ports of a file it imports fit. -/
def FittingStep (ctx : AppContext) : AppState → AppLabel → Prop
  | .running a, .update env msg =>
    Drawn ctx env a msg ∧ ForwardsDrawn ctx env a msg ∧ ImportFits ctx env a msg
  | _, _ => True

def PortsState (ctx : AppContext) : AppState → Prop
  | .launching w => StoreApart ctx w
  | .running a => PortsKept a

theorem portsKept_boot (env : Surroundings) {w : World} (h : StoreApart ctx w) :
    PortsKept (App.boot ctx env w) := by
  have happart : Apart Profile.id localPorts (App.boot ctx env w).profiles ∧
      Apart Profile.id forwardIds (App.boot ctx env w).profiles := by
    rw [show (App.boot ctx env w).profiles = _ from
      congrArg Records.profiles (App.boot_effects ctx env w).1]
    show Apart _ _ (App.loadedAs _).1.profiles ∧ Apart _ _ (App.loadedAs _).1.profiles
    cases hload : (loadStore ctx.crates.toStoreCrates env.platform ctx.backend w).1 with
    | error e => exact ⟨⟨nofun, nofun⟩, nofun, nofun⟩
    | ok store =>
      have hids := nodup_of_dropInvalid (filtered_of_loadStore hload).profiles
        fun p q (h : p.id = q.id) => .inl h
      exact (h env.platform store hload).imp (Apart.iff_nodup_flatMap hids).2
        (Apart.iff_nodup_flatMap hids).2
  refine ⟨happart.1, happart.2, fun profileId form id hopen => ?_⟩
  rw [forwardForm_boot] at hopen
  cases hopen

/-- Every fitting step keeps the ports apart. -/
theorem portsState_step {s t : AppState} {l : AppLabel} {es : List AppEffect}
    (hfit : FittingStep ctx s l) (hkept : StateKept ctx s) (hs : PortsState ctx s)
    (h : (app ctx).step s l = some (t, es)) : PortsState ctx t := by
  cases app_step_cases h with
  | boot w env =>
    obtain ⟨hports, hids, hform⟩ := portsKept_boot env hs
    exact ⟨hports, hids, hform⟩
  | update a env msg b hb =>
    obtain ⟨-, hdrawn, hfits⟩ := hfit
    obtain ⟨hports, hids, hform⟩ :=
      portsKept_update hb hs hkept.1.filtered.profiles hdrawn hfits
    exact ⟨hports, hids, hform⟩

/-- **No two local listeners share a port**, over all profiles and forwards, in every state of the
app: from any store without a shared port or forward id, by any messages, as long as every file that
is imported brings ports that differ from each other and from those of the profiles it does not
replace. -/
theorem local_ports_distinct (ctx : AppContext) (w₀ : World) (hcache : w₀.cache = none)
    (hstore : StoreApart ctx w₀) (ls : List AppLabel) (s : AppState) (log : List AppEffect)
    (hfit : (app ctx).Guarded (FittingStep ctx) (.launching w₀) ls)
    (hrun : (app ctx).run (.launching w₀) ls = some (s, log)) (a : App) (hs : s = .running a) :
    (a.profiles.flatMap localPorts).Nodup := by
  have hinit : StateKept ctx (.launching w₀) ∧ PortsState ctx (.launching w₀) := ⟨hcache, hstore⟩
  have hboth : StateKept ctx s ∧ PortsState ctx s := by
    refine (app ctx).guarded_invariant (P := fun s => StateKept ctx s ∧ PortsState ctx s)
      (fun s l t es hC hP h => ?_) hinit hfit hrun
    refine ⟨stateKept_step ?_ hP.1 h, portsState_step hC hP.1 hP.2 h⟩
    cases s with
    | launching w => exact trivial
    | running a =>
      cases l with
      | boot env => exact trivial
      | update env msg => exact hC.1
  subst hs
  have hids := nodup_of_dropInvalid hboth.1.1.filtered.profiles fun p q (h : p.id = q.id) => .inl h
  exact (Apart.iff_nodup_flatMap hids).1 hboth.2.ports

end Sessions

/-! ## An import -/

def socksProfile (name serverNodeId : String) (port : UInt16) : Profile where
  id := name
  name := name
  serverNodeId := serverNodeId
  authKeyId := ""
  socksPort := some port
  httpPort := none
  relayUrls := []
  relayAuthToken := none
  forwards := []

def teamSurroundings : Surroundings :=
  { sampleSurroundings with loginItem := .error "no login items" }

/-- An empty store, and a file that was exported elsewhere. -/
noncomputable def teamWorld (profiles : List Profile) : World :=
  (exportProfiles plainCrates workingPlatform "team.json" profiles {}).2

def teamSession : List AppLabel :=
  [.boot teamSurroundings, .update teamSurroundings (.importPicked (some "team.json"))]

theorem profiles_importProfiles {ctx : AppContext} {env : Surroundings} {a : App} {path : String}
    (himported : importProfiles ctx.crates.toStoreCrates env.placeholders path a.world =
      .ok imported) (hm : mergeImported env.mergeIds a.profiles imported = .ok m) :
    ∃ b, a.importProfiles ctx env path = .ok b ∧ b.profiles = m.profiles := by
  obtain ⟨cs, hcs⟩ := App.core_sendForwards { a with profiles := m.profiles } m.replaced
  have hsaved : (({ a with profiles := m.profiles }.sendForwards m.replaced).persistStore
      ctx env).core.records.profiles = m.profiles := by
    rw [App.core_persistStore, (Core.persist_effects ctx env _).1, hcs]
    rfl
  unfold App.importProfiles
  rw [himported]
  refine ⟨_, bind_eq_ok.2 ⟨m, hm, rfl⟩, ?_⟩
  dsimp only
  split <;> exact hsaved

theorem storeApart_team (profiles : List Profile) :
    StoreApart sampleContext (teamWorld profiles) := by
  intro platform store h
  cases h
  exact ⟨List.nodup_nil, List.nodup_nil⟩

/-- The app after the launch. -/
noncomputable def teamApp (profiles : List Profile) : App :=
  { App.boot sampleContext teamSurroundings (teamWorld profiles) with effects := [] }

section Team

variable (profiles : List Profile) (hprofiles : dropInvalid profiles = profiles)
  (happart : PlaceholdersApart teamSurroundings.placeholders profiles.length)

include hprofiles happart

theorem importProfiles_team :
    importProfiles sampleContext.crates.toStoreCrates teamSurroundings.placeholders "team.json"
      (teamApp profiles).world = .ok (profiles.mapIdx (reread teamSurroundings.placeholders)) := by
  have hexport : exportProfiles sampleContext.crates.toStoreCrates workingPlatform "team.json"
      profiles {} = (.ok (), teamWorld profiles) := rfl
  exact importProfiles_of_exportProfiles hexport hprofiles happart

theorem run_teamSession {m : Merged} (hm : mergeImported teamSurroundings.mergeIds []
      (profiles.mapIdx (reread teamSurroundings.placeholders)) = .ok m) :
    ∃ a log, (app sampleContext).run (.launching (teamWorld profiles)) teamSession =
        some (.running a, log) ∧ a.profiles = m.profiles := by
  obtain ⟨b, hb, hbprofiles⟩ :=
    profiles_importProfiles (importProfiles_team profiles hprofiles happart)
      (show mergeImported teamSurroundings.mergeIds (teamApp profiles).profiles _ = .ok m from hm)
  have hexited : (teamApp profiles).exited = false := rfl
  have hstep : (app sampleContext).step (.running (teamApp profiles))
      (.update teamSurroundings (.importPicked (some "team.json"))) =
        some (.running { b with effects := [] }, b.effects) := by
    simp only [app, AppState.step, hexited, App.update, hb, Bool.false_eq_true, if_false]
  have hrest := (app sampleContext).run_cons_eq_some.2
    ⟨_, _, _, hstep, (app sampleContext).run_nil _, rfl⟩
  exact ⟨{ b with effects := [] }, _,
    (app sampleContext).run_cons_eq_some.2 ⟨.running (teamApp profiles), _, _, rfl, hrest, rfl⟩,
    hbprofiles⟩

end Team

def teamFile : List Profile := [socksProfile "a" "node a" 1080, socksProfile "b" "node b" 1081]

theorem local_ports_distinct_team :
    ∃ a log, (app sampleContext).run (.launching (teamWorld teamFile)) teamSession =
        some (.running a, log) ∧
      a.profiles.flatMap localPorts = [1080, 1081] ∧ (a.profiles.flatMap localPorts).Nodup := by
  have himport := importProfiles_team teamFile (by decide) placeholdersApart_two
  obtain ⟨a, log, hrun, hprofiles⟩ := run_teamSession teamFile (by decide) placeholdersApart_two rfl
  refine ⟨a, log, hrun, by rw [hprofiles]; rfl, ?_⟩
  refine local_ports_distinct sampleContext _ rfl (storeApart_team _) teamSession _ log ?_ hrun a
    rfl
  have hfits : FittingStep sampleContext (.running (teamApp teamFile))
      (.update teamSurroundings (.importPicked (some "team.json"))) := by
    refine ⟨⟨by simp, by simp, ?_⟩, ⟨by simp, ?_⟩, ?_⟩
    all_goals
      rintro path imported ⟨⟩ himported
      cases himport.symm.trans himported
    · exact ⟨fun i _ _ p hp => (by cases hp), fun i j _ hj hi => placeholdersApart_two i j hj hi⟩
    · refine ⟨fun k entry j hk hj => ?_, fun k entry j k' entry' j' hk hj => ?_⟩
      all_goals
        have hnone : ∀ e ∈ teamFile.mapIdx (reread teamSurroundings.placeholders),
          e.forwards = [] := by decide
        rw [hnone entry (List.mem_of_getElem? hk)] at hj
        cases hj
    · exact ⟨by decide, fun p hp => by cases hp⟩
  exact .cons (t := .running (teamApp teamFile)) rfl trivial ⟨hfits, fun _ _ _ => trivial⟩

def clashingFile : List Profile := [socksProfile "a" "node a" 1080, socksProfile "b" "node b" 1080]

/-- The import takes both, and two listeners share the port. -/
theorem import_shares_a_port :
    StoreApart sampleContext (teamWorld clashingFile) ∧
      ∃ a log, (app sampleContext).run (.launching (teamWorld clashingFile)) teamSession =
          some (.running a, log) ∧ a.profiles.flatMap localPorts = [1080, 1080] := by
  obtain ⟨a, log, hrun, hprofiles⟩ :=
    run_teamSession clashingFile (by decide) placeholdersApart_two rfl
  exact ⟨storeApart_team _, a, log, hrun, by rw [hprofiles]; rfl⟩

end Flextunnel.Analysis
