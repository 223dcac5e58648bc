import Flextunnel.Analysis.LoadFilters

/-!
# Export, import and merge

An export strips what means nothing in another install: the ids, the key references, and the
secrets, which are never serialized. An import gives the entries placeholder ids, filters them as
a load does, and merges them by server node id. Importing an export into the list it was made from
therefore finds every profile again, in its place, and gives back what the export has stripped; only
the forwards are new, and off.

The placeholder ids are random. They are assumed to be different (`PlaceholdersApart`): two entries
with one placeholder would be taken for duplicates, and the second dropped.
-/

set_option autoImplicit false

namespace Flextunnel.Analysis

open Lib Model

/-! ## The file -/

def PlaceholdersApart (ids : PlaceholderIds) (n : Nat) : Prop :=
  ∀ i j, j < i → i < n → randomId (ids.profile i) ≠ randomId (ids.profile j)

def reread (ids : PlaceholderIds) (i : Nat) (p : Profile) : Profile := p.portable.toProfile ids i

theorem reread_name (ids : PlaceholderIds) (i : Nat) (p : Profile) :
    (reread ids i p).name = p.name := rfl

theorem reread_serverNodeId (ids : PlaceholderIds) (i : Nat) (p : Profile) :
    (reread ids i p).serverNodeId = p.serverNodeId := rfl

variable {profiles : List Profile} {ids : MergeIds} {p : Profile} {placeholders : PlaceholderIds}

/-- The filter drops none of the entries of an export. -/
theorem dropInvalid_reread {ids : PlaceholderIds} (h : dropInvalid profiles = profiles)
    (hids : PlaceholdersApart ids profiles.length) :
    dropInvalid (profiles.mapIdx (reread ids)) = profiles.mapIdx (reread ids) := by
  obtain ⟨hnames, hclash⟩ := dropInvalid_eq_self_iff.1 h
  refine dropInvalid_eq_self_iff.2 ⟨fun p hp => ?_, ?_⟩
  · obtain ⟨i, hi, rfl⟩ := List.mem_mapIdx.1 hp
    exact hnames profiles[i] (List.getElem_mem hi)
  rw [List.pairwise_iff_getElem] at hclash ⊢
  intro i j hi hj hij
  rw [List.length_mapIdx] at hi hj
  rw [List.getElem_mapIdx, List.getElem_mapIdx]
  rintro (hid | hname | hserver)
  · exact hids j i hij hj hid.symm
  · exact hclash i j hi hj hij (.inr (.inl hname))
  · exact hclash i j hi hj hij (.inr (.inr hserver))

/-- An import of an export reads every profile back. -/
theorem importProfiles_of_exportProfiles {crates : StoreCrates} {platform : Platform}
    {path : String} {w w' : World} {ids : PlaceholderIds}
    (hexport : exportProfiles crates platform path profiles w = (.ok (), w'))
    (h : dropInvalid profiles = profiles) (hids : PlaceholdersApart ids profiles.length) :
    importProfiles crates ids path w' = .ok (profiles.mapIdx (reread ids)) := by
  unfold exportProfiles writeJson at hexport
  split at hexport <;> cases hexport
  next bytes hbytes hwrite =>
    obtain ⟨doc, hread, rfl⟩ := crates.profilesJson.fromSlice_toVec _ _ hbytes
    have hfile : readJson crates.profilesJson.fromSlice
        { w with files := Function.update w.files path (.present bytes) } path =
          .ok (some (profiles.map Profile.portable)) := by
      simp only [readJson, Function.update_self, hread]
    have hentries : (profiles.map Profile.portable).mapIdx (PortableProfile.toProfile ids) =
        profiles.mapIdx (reread ids) := by
      apply List.ext_getElem (by simp)
      intro i _ _
      simp only [List.getElem_mapIdx, List.getElem_map]
      rfl
    unfold importProfiles
    refine bind_eq_ok.2 ⟨_, hfile, ?_⟩
    dsimp only
    rw [hentries, dropInvalid_reread h hids]
    rfl

/-! ## The merge -/

/-- A profile whose forwards an import has replaced by themselves: off, and with new ids. -/
def refreshed (ids : MergeIds) (i : Nat) (p : Profile) : Profile :=
  { p with forwards := p.forwards.mapIdx fun j f =>
      { f with id := randomId (ids.forward i j), enabled := false } }

theorem forwards_reread (ids : MergeIds) (placeholders : PlaceholderIds) (i : Nat) (p : Profile) :
    ((reread placeholders i p).forwards.mapIdx fun j f =>
        { f with id := randomId (ids.forward i j) }) = (refreshed ids i p).forwards := by
  apply List.ext_getElem (by simp [reread, refreshed, Profile.portable, PortableProfile.toProfile])
  intro j _ _
  simp only [reread, refreshed, Profile.portable, PortableProfile.toProfile, List.getElem_mapIdx,
    List.getElem_map]

/-- Merging an exported profile replaces it by itself, with its forwards off. -/
theorem mergeOne_reread {m : Merged} {done rest : List Profile}
    (hm : m.profiles = done ++ p :: rest) (hclash : m.profiles.Pairwise fun p q => ¬p.Clash q) :
    mergeOne ids m (reread placeholders done.length p, done.length) =
      .ok { m with profiles := done ++ refreshed ids done.length p :: rest
                   replaced := m.replaced ++ [p.id] } := by
  rw [hm, List.pairwise_append] at hclash
  obtain ⟨-, hrest, hdone⟩ := hclash
  -- no other profile has its server, and none its name
  have hpos : (m.profiles.findIdx? fun q => q.serverNodeId == p.serverNodeId) =
      some done.length := by
    rw [hm, List.findIdx?_append, List.findIdx?_eq_none_iff.2, Option.none_or, List.findIdx?_cons]
    · simp
    · intro q hq
      simp only [beq_eq_false_iff_ne]
      exact fun heq => hdone q hq p List.mem_cons_self (.inr (.inr heq))
  have hfree : profileNameTaken m.profiles (some p.id) p.name = false := by
    simp only [profileNameTaken, List.any_eq_false, Bool.and_eq_true, beq_iff_eq, bne_iff_ne,
      not_and, not_not]
    intro q hq hname
    rw [hm, List.mem_append, List.mem_cons] at hq
    rcases hq with hq | rfl | hq
    · exact absurd (.inr (.inl hname)) (hdone q hq p List.mem_cons_self)
    · rfl
    · exact absurd (.inr (.inl hname.symm)) ((List.pairwise_cons.1 hrest).1 q hq)
  have hold : ∀ d, m.profiles.getD done.length d = p := by
    intro d
    rw [hm, List.getD_eq_getElem?_getD, List.getElem?_append_right (le_refl _)]
    simp
  unfold mergeOne
  dsimp only
  rw [reread_serverNodeId, hpos]
  dsimp only
  rw [hold, reread_name, uniqueName, hfree, hm, forwards_reread]
  simp only [Bool.not_false, if_true, bind, Except.bind, pure, Except.pure,
    List.set_append_right _ _ (le_refl _), Nat.sub_self, List.set_cons_zero]
  rfl

theorem pairwise_refreshed {done rest : List Profile} {i : Nat}
    (h : (done ++ p :: rest).Pairwise fun p q => ¬p.Clash q) :
    (done ++ refreshed ids i p :: rest).Pairwise fun p q => ¬p.Clash q := by
  rw [List.pairwise_append, List.pairwise_cons] at h ⊢
  obtain ⟨hdone, ⟨hp, hrest⟩, hacross⟩ := h
  refine ⟨hdone, ⟨hp, hrest⟩, fun a ha b hb => ?_⟩
  rcases List.mem_cons.1 hb with rfl | hb
  · exact hacross a ha p List.mem_cons_self
  · exact hacross a ha b (List.mem_cons_of_mem p hb)

/-- Merging the entries one by one replaces the profiles one by one. -/
theorem foldlM_mergeOne_reread (ids : MergeIds) (placeholders : PlaceholderIds) (m : Merged)
    (done rest : List Profile) (hm : m.profiles = done ++ rest)
    (hclash : m.profiles.Pairwise fun p q => ¬p.Clash q) :
    ((rest.zipIdx done.length).map fun e => (reread placeholders e.2 e.1, e.2)).foldlM
        (mergeOne ids) m =
      .ok { m with
        profiles := done ++ (rest.zipIdx done.length).map fun e => refreshed ids e.2 e.1
        replaced := m.replaced ++ rest.map Profile.id } := by
  induction rest generalizing m done with
  | nil =>
    rw [List.append_nil] at hm
    simp [← hm]
    rfl
  | cons p rest ih =>
    rw [List.zipIdx_cons, List.map_cons, List.foldlM_cons, mergeOne_reread hm hclash]
    rw [hm] at hclash
    have hrest := ih { m with profiles := done ++ refreshed ids done.length p :: rest
                              replaced := m.replaced ++ [p.id] }
      (done ++ [refreshed ids done.length p]) (by simp) (pairwise_refreshed hclash)
    rw [List.length_append, List.length_singleton] at hrest
    refine hrest.trans ?_
    simp

/-! ## The round trip -/

/-- A merged entry leaves the profiles of other servers in their places. -/
theorem mergeOne_other {m m' : Merged} {entry : Profile × Nat} {i : Nat}
    (h : mergeOne ids m entry = .ok m') (hi : m.profiles[i]? = some p)
    (hother : entry.1.serverNodeId ≠ p.serverNodeId) : m'.profiles[i]? = some p := by
  obtain ⟨pos, old, name, hold, hnode, -, hm'⟩ | ⟨name, -, -, hm'⟩ := mergeOne_shape h
  · have hne : pos ≠ i := by
      rintro rfl
      cases hold.symm.trans hi
      exact hother hnode.symm
    rw [hm', List.getElem?_set_ne hne, hi]
  · obtain ⟨hlt, -⟩ := List.getElem?_eq_some_iff.1 hi
    rw [hm', List.getElem?_append_left hlt, hi]

theorem mergeImported_other {imported : List Profile} {m : Merged}
    (h : mergeImported ids profiles imported = .ok m) {i : Nat} (hi : profiles[i]? = some p)
    (hother : ∀ q ∈ imported, q.serverNodeId ≠ p.serverNodeId) : m.profiles[i]? = some p := by
  refine mergeImported_induction (P := fun _ m => m.profiles[i]? = some p) h hi ?_
  intro done q m m' hpre hm hone
  exact mergeOne_other hone hm (hother q (hpre.subset (by simp)))

theorem mergeImported_reread (h : dropInvalid profiles = profiles) :
    mergeImported ids profiles (profiles.mapIdx (reread placeholders)) =
      .ok { profiles := profiles.mapIdx (refreshed ids), added := 0
            replaced := profiles.map Profile.id } := by
  have hentries : (profiles.mapIdx (reread placeholders)).zipIdx =
      profiles.zipIdx.map fun e => (reread placeholders e.2 e.1, e.2) := by
    apply List.ext_getElem (by simp)
    intro i _ _
    simp
  have hfold := foldlM_mergeOne_reread ids placeholders { profiles } [] profiles rfl
    (dropInvalid_eq_self_iff.1 h).2
  rw [mergeImported, hentries]
  refine hfold.trans ?_
  rw [List.mapIdx_eq_zipIdx_map]
  rfl

/-- **An exported list imported where it came from changes nothing but the forwards, which are off
and have new ids; and no import touches a profile whose server is not in the file.** -/
theorem import_of_export_replaces_by_itself (crates : StoreCrates) (profiles : List Profile)
    (ids : MergeIds) :
    (∀ (platform : Platform) (path : String) (placeholders : PlaceholderIds) (w w' : World),
      dropInvalid profiles = profiles → PlaceholdersApart placeholders profiles.length →
      exportProfiles crates platform path profiles w = (.ok (), w') →
      ∃ imported m, importProfiles crates placeholders path w' = .ok imported ∧
        mergeImported ids profiles imported = .ok m ∧ m.added = 0 ∧
        m.replaced = profiles.map Profile.id ∧
        m.profiles = profiles.mapIdx fun i p =>
          { p with forwards := p.forwards.mapIdx fun j f =>
              { f with id := randomId (ids.forward i j), enabled := false } }) ∧
    ∀ (path : String) (placeholders : PlaceholderIds) (w : World) (imported : List Profile)
      (m : Merged), importProfiles crates placeholders path w = .ok imported →
      mergeImported ids profiles imported = .ok m →
      ∀ (i : Nat) (p : Profile), profiles[i]? = some p →
        (∀ q ∈ imported, q.serverNodeId ≠ p.serverNodeId) → m.profiles[i]? = some p := by
  constructor
  · intro platform path placeholders w w' hprofiles happart hexport
    exact ⟨_, _, importProfiles_of_exportProfiles hexport hprofiles happart,
      mergeImported_reread hprofiles, rfl, rfl, rfl⟩
  · intro path placeholders w imported m _ hm i p hi hother
    exact mergeImported_other hm hi hother

theorem placeholdersApart_two : PlaceholdersApart sampleSurroundings.placeholders 2 := by
  intro i j hj hi
  obtain ⟨rfl, rfl⟩ : i = 1 ∧ j = 0 := by omega
  decide

def officeProfile : Profile :=
  { sampleProfile with id := "1", name := "office", serverNodeId := "office node"
                       relayAuthToken := some "office psk" }

/-- Two profiles of two servers, each with a forward that is on. -/
theorem import_of_export_sample :
    ∃ w' imported m,
      exportProfiles plainCrates workingPlatform "export.json" [sampleProfile, officeProfile] {} =
        (.ok (), w') ∧
      importProfiles plainCrates sampleSurroundings.placeholders "export.json" w' = .ok imported ∧
      mergeImported sampleSurroundings.mergeIds [sampleProfile, officeProfile] imported = .ok m ∧
      m.replaced = ["0", "1"] ∧
      m.profiles.map Profile.relayAuthToken = [some "psk", some "office psk"] ∧
      m.profiles.flatMap (fun p => p.forwards.map PortForward.enabled) = [false, false] := by
  obtain ⟨hround, -⟩ := import_of_export_replaces_by_itself plainCrates
    [sampleProfile, officeProfile] sampleSurroundings.mergeIds
  obtain ⟨imported, m, himported, hm, -, hreplaced, hprofiles⟩ := hround workingPlatform
    "export.json" sampleSurroundings.placeholders {} _ (by decide) placeholdersApart_two rfl
  exact ⟨_, imported, m, rfl, himported, hm, hreplaced, by rw [hprofiles]; rfl,
    by rw [hprofiles]; rfl⟩

end Flextunnel.Analysis
