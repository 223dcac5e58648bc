import Flextunnel.Lib.Words
import Flextunnel.Analysis.ConfigOrder
import Flextunnel.Analysis.LetterCase

/-!
# Which DNS forward

A host under several configured suffixes is looked up through the forward with the longest one
(`ForwardOf`), provided that no two keys are one suffix once they are trimmed. `resolve_server` only
refuses keys that differ by case, so a configuration can hold such keys; then one of the two
forwards is never used, and which one is left to the map.
-/

set_option autoImplicit false

namespace Flextunnel.Analysis

open Lib Model Model.Config

/-! ## Entries -/

/-- A key of the table as it is matched.
SOURCE: core/proxy/dns_forward.rs:74 -/
def normalizedSuffix (raw : String) : String :=
  Text.toAsciiLowercase (Text.trimMatches '.' (Text.trim raw))

def resolverOf (servers : List String) : List (IpAddr × UInt16) :=
  servers.filterMap DnsForwarder.parseServer

/-- The host is the suffix or a name below it. -/
def HasSuffix (host suffix : String) : Prop :=
  host = suffix ∨ ∃ before, host = before ++ "." ++ suffix

/-- No two keys of the map are one suffix. -/
def DistinctSuffixes (forwards : Table (List String)) : Prop :=
  ∀ a b, (forwards.lookup a).isSome = true → (forwards.lookup b).isSome = true →
    normalizedSuffix a = normalizedSuffix b → a = b

def ForwardOf (forwards : Table (List String)) (host : String)
    (resolver : List (IpAddr × UInt16)) : Prop :=
  ∃ raw servers, forwards.lookup raw = some servers ∧ resolver = resolverOf servers ∧
    HasSuffix (Text.toAsciiLowercase host) (normalizedSuffix raw) ∧
    ∀ raw', (forwards.lookup raw').isSome = true →
      HasSuffix (Text.toAsciiLowercase host) (normalizedSuffix raw') →
        raw' = raw ∨ Text.byteLen (normalizedSuffix raw') < Text.byteLen (normalizedSuffix raw)

theorem suffixMatches_iff {host suffix : String} :
    DnsForwarder.suffixMatches host suffix = true ↔ HasSuffix host suffix := by
  rw [DnsForwarder.suffixMatches, Bool.or_eq_true, beq_iff_eq, HasSuffix, Option.any_eq_true]
  refine or_congr_right ⟨?_, ?_⟩
  · rintro ⟨rest, hrest, hdot⟩
    obtain ⟨before, hbefore⟩ := Text.endsWith_iff_toList.1 hdot
    refine ⟨String.ofList before, ?_⟩
    rw [Text.stripSuffix_eq_some_iff.1 hrest]
    congr 1
    apply String.toList_inj.1
    simp [← hbefore]
  · rintro ⟨before, rfl⟩
    refine ⟨before ++ ".", Text.stripSuffix_eq_some_iff.2 rfl, Text.endsWith_iff_toList.2 ?_⟩
    exact ⟨before.toList, by simp⟩

theorem HasSuffix.toList {host suffix : String} (h : HasSuffix host suffix) :
    suffix.toList <:+ host.toList := by
  rcases h with rfl | ⟨before, rfl⟩
  · exact List.suffix_refl _
  · exact ⟨(before ++ ".").toList, by simp⟩

/-- A forward is built from the trimmed, lowercased key and the parsed servers. -/
theorem addForward_eq_ok {build : List (IpAddr × UInt16) → Bool} {raw : String}
    {servers : List String} {f : Forward} (h : DnsForwarder.addForward build raw servers = .ok f) :
    f.suffix = normalizedSuffix raw ∧ f.resolver = resolverOf servers := by
  unfold DnsForwarder.addForward at h
  dsimp only at h
  split at h
  · cases h
  split at h
  · cases h
  obtain ⟨resolver, hresolver, h⟩ := bind_eq_ok.1 h
  split at h
  · obtain rfl := Except.ok.inj h
    refine ⟨rfl, ?_⟩
    rw [← filterMap_toOption_of_mapM_eq_ok hresolver, resolverOf]
    refine List.filterMap_congr fun spec _ => ?_
    cases DnsForwarder.parseServer spec <;> rfl
  · cases h

theorem new_eq_some_iff {build : List (IpAddr × UInt16) → Bool} {forwards : Table (List String)}
    {f : DnsForwarder} :
    DnsForwarder.new build forwards = .ok (some f) ↔ forwards.entries ≠ [] ∧
      ∃ entries, forwards.toPairs.mapM (fun e => DnsForwarder.addForward build e.1 e.2) =
        .ok entries ∧ f.forwards = entries.insertionSort DnsForwarder.moreSpecific := by
  unfold DnsForwarder.new
  split
  next hempty => exact iff_of_false (nomatch Except.ok.inj ·) fun h => h.1 (by simpa using hempty)
  next hentries =>
    constructor
    · intro h
      obtain ⟨entries, hadd, h⟩ := bind_eq_ok.1 h
      cases Except.ok.inj h
      exact ⟨by simpa using hentries, entries, hadd, rfl⟩
    · rintro ⟨-, entries, hadd, hf⟩
      exact bind_eq_ok.2 ⟨entries, hadd, by rw [← hf]; rfl⟩

/-! ## The order of the forwards -/

instance : Std.Total DnsForwarder.moreSpecific where
  total a b := by
    simp only [DnsForwarder.moreSpecific, not_lt]
    rcases lt_trichotomy (Text.byteLen a.suffix) (Text.byteLen b.suffix) with h | h | h
    · exact .inr (.inl h)
    · rcases le_total a.suffix b.suffix with hle | hle
      · exact .inl (.inr ⟨h, hle⟩)
      · exact .inr (.inr ⟨h.symm, hle⟩)
    · exact .inl (.inl h)

instance : IsTrans Forward DnsForwarder.moreSpecific where
  trans a b c hab hbc := by
    simp only [DnsForwarder.moreSpecific, not_lt] at *
    rcases hab with hab | ⟨hab, hle⟩
    · rcases hbc with hbc | ⟨hbc, -⟩
      · exact .inl (hbc.trans hab)
      · exact .inl (hbc ▸ hab)
    · rcases hbc with hbc | ⟨hbc, hle'⟩
      · exact .inl (hab ▸ hbc)
      · exact .inr ⟨hab.trans hbc, hle.trans hle'⟩

theorem suffix_eq_of_moreSpecific {a b : Forward} (hab : DnsForwarder.moreSpecific a b)
    (hba : DnsForwarder.moreSpecific b a) : a.suffix = b.suffix := by
  simp only [DnsForwarder.moreSpecific, not_lt] at hab hba
  rcases hab with hab | ⟨hlen, hle⟩
  · rcases hba with hba | ⟨hba, -⟩ <;> omega
  · rcases hba with hba | ⟨-, hle'⟩
    · omega
    · exact le_antisymm hle hle'

/-- Of two suffixes of one host the longer one comes first. -/
theorem moreSpecific_iff_of_hasSuffix {a b : Forward} {host : String}
    (ha : HasSuffix host a.suffix) (hb : HasSuffix host b.suffix) :
    DnsForwarder.moreSpecific a b ↔
      b.suffix = a.suffix ∨ Text.byteLen b.suffix < Text.byteLen a.suffix := by
  have hsame (hlen : Text.byteLen a.suffix = Text.byteLen b.suffix) : b.suffix = a.suffix := by
    have hab := Text.suffix_of_byteLen_le ha.toList hb.toList hlen.le
    have hba := Text.suffix_of_byteLen_le hb.toList ha.toList hlen.ge
    exact String.toList_inj.1 (hba.eq_of_length (le_antisymm hba.length_le hab.length_le))
  simp only [DnsForwarder.moreSpecific, not_lt]
  constructor
  · rintro (hlt | ⟨hlen, -⟩)
    · exact .inr hlt
    · exact .inl (hsame hlen)
  · rintro (heq | hlt)
    · exact .inr ⟨by rw [heq], heq.ge⟩
    · exact .inl hlt

/-! ## The choice -/

section Choice

variable {build : List (IpAddr × UInt16) → Bool} {forwards forwards' : Table (List String)}
  {f : DnsForwarder}

theorem mem_forwards_iff (h : DnsForwarder.new build forwards = .ok (some f)) {e : Forward} :
    e ∈ f.forwards ↔ ∃ raw servers, forwards.lookup raw = some servers ∧
      DnsForwarder.addForward build raw servers = .ok e := by
  obtain ⟨-, entries, hentries, hf⟩ := new_eq_some_iff.1 h
  rw [hf, List.mem_insertionSort, mem_iff_of_mapM_eq_ok hentries, Prod.exists]
  simp only [Table.mem_toPairs_iff]

theorem distinctSuffixes_iff :
    DistinctSuffixes forwards ↔ (forwards.toPairs.map fun e => normalizedSuffix e.1).Nodup := by
  have hkey {e : String × List String} (he : e ∈ forwards.toPairs) :
      (forwards.lookup e.1).isSome = true := by
    rw [Table.mem_toPairs_iff.1 he]
    rfl
  constructor
  · intro hdistinct
    refine List.Nodup.map_on (fun e he e' he' heq => ?_) forwards.nodup_toPairs
    exact List.inj_on_of_nodup_map forwards.nodup_keys_toPairs he he'
      (hdistinct _ _ (hkey he) (hkey he') heq)
  intro hnodup a b ha hb heq
  obtain ⟨servers, ha⟩ := Option.isSome_iff_exists.1 ha
  obtain ⟨servers', hb⟩ := Option.isSome_iff_exists.1 hb
  have hpair : (a, servers) = (b, servers') := List.inj_on_of_nodup_map hnodup
    (Table.mem_toPairs_iff.2 ha) (Table.mem_toPairs_iff.2 hb) heq
  exact (Prod.mk.inj hpair).1

/-- The forwards have distinct suffixes when the keys of the map do. -/
theorem nodup_suffixes_iff (h : DnsForwarder.new build forwards = .ok (some f)) :
    f.suffixes.Nodup ↔ DistinctSuffixes forwards := by
  obtain ⟨-, entries, hentries, hf⟩ := new_eq_some_iff.1 h
  have hnames : entries.map Forward.suffix = forwards.toPairs.map fun e => normalizedSuffix e.1 :=
    map_eq_map_of_mapM_eq_ok hentries fun e g hg => (addForward_eq_ok hg).1
  rw [DnsForwarder.suffixes, hf, ((List.perm_insertionSort _ entries).map _).nodup_iff, hnames,
    distinctSuffixes_iff]

theorem exists_addForward (h : DnsForwarder.new build forwards = .ok (some f)) {raw : String}
    {servers : List String} (hraw : forwards.lookup raw = some servers) :
    ∃ e, DnsForwarder.addForward build raw servers = .ok e := by
  obtain ⟨-, entries, hentries, -⟩ := new_eq_some_iff.1 h
  exact exists_mapM_eq_ok_iff.1 ⟨entries, hentries⟩ (raw, servers) (Table.mem_toPairs_iff.2 hraw)

/-- The first forward that matches is the one with the longest suffix. -/
theorem resolverFor_eq_some_iff (hnodup : f.suffixes.Nodup)
    (h : DnsForwarder.new build forwards = .ok (some f)) {host : String}
    {resolver : List (IpAddr × UInt16)} :
    f.resolverFor host = some resolver ↔ ForwardOf forwards host resolver := by
  have hdistinct := (nodup_suffixes_iff h).1 hnodup
  have hsorted : f.forwards.Pairwise DnsForwarder.moreSpecific := by
    obtain ⟨-, entries, -, hf⟩ := new_eq_some_iff.1 h
    rw [hf]
    exact List.pairwise_insertionSort _ entries
  have hanti : ∀ a ∈ f.forwards, ∀ b ∈ f.forwards, DnsForwarder.moreSpecific a b →
      DnsForwarder.moreSpecific b a → a = b := fun a ha b hb hab hba =>
    List.inj_on_of_nodup_map hnodup ha hb (suffix_eq_of_moreSpecific hab hba)
  have hrefl (a : Forward) : DnsForwarder.moreSpecific a a := .inr ⟨rfl, lt_irrefl _⟩
  rw [DnsForwarder.resolverFor, Option.map_eq_some_iff]
  simp only [find?_eq_some_iff_of_pairwise hsorted hrefl hanti, suffixMatches_iff]
  constructor
  · rintro ⟨e, ⟨he, hmatches, hleast⟩, rfl⟩
    obtain ⟨raw, servers, hraw, hadd⟩ := (mem_forwards_iff h).1 he
    obtain ⟨hsuffix, hresolver⟩ := addForward_eq_ok hadd
    refine ⟨raw, servers, hraw, hresolver, hsuffix ▸ hmatches, fun raw' hsome hmatches' => ?_⟩
    obtain ⟨servers', hraw'⟩ := Option.isSome_iff_exists.1 hsome
    obtain ⟨e', hadd'⟩ := exists_addForward h hraw'
    obtain ⟨hsuffix', -⟩ := addForward_eq_ok hadd'
    rw [← hsuffix'] at hmatches' ⊢
    have hspecific := hleast e' ((mem_forwards_iff h).2 ⟨raw', servers', hraw', hadd'⟩) hmatches'
    rw [← hsuffix]
    refine ((moreSpecific_iff_of_hasSuffix hmatches hmatches').1 hspecific).imp_left fun heq => ?_
    exact hdistinct _ _ hsome (by rw [hraw]; rfl) (by rw [← hsuffix', ← hsuffix, heq])
  rintro ⟨raw, servers, hraw, rfl, hmatches, hlongest⟩
  obtain ⟨e, hadd⟩ := exists_addForward h hraw
  obtain ⟨hsuffix, hresolver⟩ := addForward_eq_ok hadd
  refine ⟨e, ⟨(mem_forwards_iff h).2 ⟨raw, servers, hraw, hadd⟩, hsuffix ▸ hmatches,
    fun e' he' hmatches' => ?_⟩, hresolver⟩
  obtain ⟨raw', servers', hraw', hadd'⟩ := (mem_forwards_iff h).1 he'
  obtain ⟨hsuffix', -⟩ := addForward_eq_ok hadd'
  apply (moreSpecific_iff_of_hasSuffix (hsuffix ▸ hmatches) hmatches').2
  rw [hsuffix, hsuffix']
  exact (hlongest raw' (by rw [hraw']; rfl) (hsuffix' ▸ hmatches')).imp_left
    (congrArg normalizedSuffix)

/-- The order of the map leaves the forwards as they are. -/
theorem new_same (hsame : forwards.Same forwards') (hsuffixes : f.suffixes.Nodup)
    (h : DnsForwarder.new build forwards = .ok (some f)) :
    DnsForwarder.new build forwards' = .ok (some f) := by
  obtain ⟨hne, entries, hentries, hf⟩ := new_eq_some_iff.1 h
  obtain ⟨entries', hentries', hperm⟩ := mapM_perm hsame.toPairs hentries
  have hnodup : (entries.map Forward.suffix).Nodup := by
    rw [DnsForwarder.suffixes, hf] at hsuffixes
    exact ((List.perm_insertionSort _ entries).map _).nodup_iff.1 hsuffixes
  have hsorted : entries.insertionSort DnsForwarder.moreSpecific =
      entries'.insertionSort DnsForwarder.moreSpecific :=
    insertionSort_eq_of_perm (fun a ha b hb hab hba => List.inj_on_of_nodup_map hnodup ha hb
      (suffix_eq_of_moreSpecific hab hba)) hperm
  refine new_eq_some_iff.2 ⟨fun hnil => hne ?_, entries', hentries', hf.trans hsorted⟩
  exact List.perm_nil.1 (hnil ▸ hsame)

end Choice

/-- **A host is looked up through the forward with its longest suffix**, whatever the order of the
configuration's map, and each forward is used for its own suffix, exactly where no two keys are one
suffix. -/
theorem longest_suffix_chosen_iff {home : Option String} {cli : Config.ServerConfig}
    {file : Option Config.ServerConfig} {r : ResolvedServer} (hr : Resolves home cli file r)
    {build : List (IpAddr × UInt16) → Bool} {f : DnsForwarder}
    (hnew : DnsForwarder.new build r.dnsForwards = .ok (some f)) :
    (f.suffixes.Nodup ∧
      (∀ raw servers, r.dnsForwards.lookup raw = some servers →
        f.resolverFor (normalizedSuffix raw) = some (resolverOf servers)) ∧
      (∀ host resolver, f.resolverFor host = some resolver ↔
        ForwardOf r.dnsForwards host resolver) ∧
      ∀ r', Resolves home cli file r' → DnsForwarder.new build r'.dnsForwards = .ok (some f)) ↔
    DistinctSuffixes r.dnsForwards := by
  rw [← nodup_suffixes_iff hnew]
  refine ⟨And.left, fun hnodup => ⟨hnodup, fun raw servers hraw => ?_,
    fun host resolver => resolverFor_eq_some_iff hnodup hnew,
    fun r' hr' => new_same (hr.same hr').dnsForwards hnodup hnew⟩⟩
  have hlower : Text.toAsciiLowercase (normalizedSuffix raw) = normalizedSuffix raw :=
    toAsciiLowercase_toAsciiLowercase _
  refine (resolverFor_eq_some_iff hnodup hnew).2 ⟨raw, servers, hraw, rfl, .inl hlower,
    fun raw' hsome hsuffix => ?_⟩
  rw [hlower] at hsuffix
  rcases hsuffix with heq | ⟨before, heq⟩
  · have hdistinct := (nodup_suffixes_iff hnew).1 hnodup
    exact .inl (hdistinct _ _ hsome (by rw [hraw]; rfl) heq.symm)
  · have hdot : Text.byteLen "." = 1 := by decide
    rw [heq, Text.byteLen_append, Text.byteLen_append]
    exact .inr (by omega)

def forwardsFile (entries : List (String × List String)) : Config.ServerConfig where
  routedDomains := some ["*"]
  dnsForwards := some (Table.collect entries)

def corpForward (spec : String) (last : UInt8) : Forward :=
  ⟨"corp", [spec], [(.v4 ⟨[10, 0, 0, last], rfl⟩, 53)]⟩

/-- `corp` and `.corp` are two keys and one suffix: one of the two forwards is never used, and
which one is chosen by the order of the map. -/
theorem one_forward_shadows_another :
    ∃ r r' f f',
      Resolves (some "/home") {}
        (some (forwardsFile [("corp", ["10.0.0.1"]), (".corp", ["10.0.0.2"])])) r ∧
      Resolves (some "/home") {}
        (some (forwardsFile [("corp", ["10.0.0.1"]), (".corp", ["10.0.0.2"])])) r' ∧
      DnsForwarder.new (fun _ => true) r.dnsForwards = .ok (some f) ∧
      DnsForwarder.new (fun _ => true) r'.dnsForwards = .ok (some f') ∧
      ¬ f.suffixes.Nodup ∧ f.resolverFor "corp" ≠ f'.resolverFor "corp" ∧
      ∀ host, f.resolverFor host ≠ some (resolverOf ["10.0.0.2"]) := by
  obtain ⟨r, hr, hdns⟩ : ∃ r, resolveServer (some "/home") {}
      (some (forwardsFile [("corp", ["10.0.0.1"]), (".corp", ["10.0.0.2"])])) = .ok r ∧
      r.dnsForwards = Table.collect [(".corp", ["10.0.0.2"]), ("corp", ["10.0.0.1"])] :=
    ⟨_, rfl, rfl⟩
  let r' := { r with
    dnsForwards := Table.collect [("corp", ["10.0.0.1"]), (".corp", ["10.0.0.2"])] }
  have hsame : SameResolved r r' := ⟨.refl _, by rw [hdns]; exact List.Perm.swap .., .refl _, rfl⟩
  refine ⟨r, r', ⟨[corpForward "10.0.0.1" 1, corpForward "10.0.0.2" 2]⟩,
    ⟨[corpForward "10.0.0.2" 2, corpForward "10.0.0.1" 1]⟩,
    ⟨_, _, r, .refl _, .some (.refl _), hr, .refl r⟩,
    ⟨_, _, r, .refl _, .some (.refl _), hr, hsame⟩, by rw [hdns]; decide, ?_, by decide, by decide,
    fun host => ?_⟩
  · show DnsForwarder.new _ (Table.collect [("corp", ["10.0.0.1"]), (".corp", ["10.0.0.2"])]) = _
    decide
  -- both entries match the same hosts, and the first one is taken
  have hresolver : resolverOf ["10.0.0.2"] = [(.v4 ⟨[10, 0, 0, 2], rfl⟩, 53)] := by decide
  cases hmatches : DnsForwarder.suffixMatches (Text.toAsciiLowercase host) "corp" <;>
    simp [DnsForwarder.resolverFor, corpForward, hmatches, hresolver]

theorem longest_suffix_chosen_iff_instance :
    ∃ r f, Resolves (some "/home") {}
        (some (forwardsFile [("Corp", ["10.0.0.1"]), ("db.corp", ["10.0.0.2"])])) r ∧
      DnsForwarder.new (fun _ => true) r.dnsForwards = .ok (some f) ∧
      DistinctSuffixes r.dnsForwards ∧ f.suffixes.Nodup ∧
      f.resolverFor (normalizedSuffix "corp") = some (resolverOf ["10.0.0.1"]) := by
  obtain ⟨r, hr, hdns⟩ : ∃ r, Resolves (some "/home") {}
      (some (forwardsFile [("Corp", ["10.0.0.1"]), ("db.corp", ["10.0.0.2"])])) r ∧
      r.dnsForwards = Table.collect [("db.corp", ["10.0.0.2"]), ("corp", ["10.0.0.1"])] :=
    ⟨_, ⟨_, _, _, .refl _, .some (.refl _), rfl, .refl _⟩, rfl⟩
  obtain ⟨f, hnew⟩ : ∃ f, DnsForwarder.new (fun _ => true) r.dnsForwards = .ok (some f) := by
    rw [hdns]
    exact ⟨_, rfl⟩
  have hdistinct : DistinctSuffixes r.dnsForwards := by
    rw [distinctSuffixes_iff, hdns]
    decide
  have hlookup : r.dnsForwards.lookup "corp" = some ["10.0.0.1"] := by
    rw [hdns]
    decide
  obtain ⟨hnodup, hown, -, -⟩ := (longest_suffix_chosen_iff hr hnew).2 hdistinct
  exact ⟨r, f, hr, hnew, hdistinct, hnodup, hown _ _ hlookup⟩

end Flextunnel.Analysis
