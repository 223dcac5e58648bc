import Flextunnel.Analysis.AddressLiterals
import Flextunnel.Analysis.LetterCase

/-!
# Rules that can fire

A bridge's domain rules are checked against the server's routed set: a rule that no routed
target reaches is refused. A rule that fires is accepted. A rule that does not fire is refused as
well, except in three shapes: the check counts a name at the apex of a wildcard, which the
wildcard does not match, and takes an address written as a domain rule for a name.
-/

set_option autoImplicit false

namespace Flextunnel.Analysis

open Lib Model

/-! ## When a rule fires -/

/-- Some host is allowed by the routed set and by a routed set of the rule alone. -/
def Fires (networks : IpNetworkCrate) (set : RoutedSet) (raw : String) : Prop :=
  ∃ (host : String) (port : UInt16) (single : RoutedSet),
    RoutedSet.new networks [raw] [] = .ok single ∧
      set.allows (.domain host port) = true ∧ single.allows (.domain host port) = true

def IsName (host : String) : Prop := RoutedSet.parseIpLiteral host = none

def Overlaps (a b : String) : Prop := a.toList <:+ b.toList ∨ b.toList <:+ a.toList

/-- A rule that is accepted and does not fire. -/
inductive Overlooked (set : RoutedSet) (raw : String) : Prop
  /-- `*`, where every name the set routes is an address written as a domain rule. -/
  | any (hraw : Text.trim raw = "*") (hall : set.domainsAll = false)
      (hsuffix : set.domainsSuffix = []) (hexact : set.domainsExact ≠ [])
      (hliteral : ∀ e ∈ set.domainsExact, ¬ IsName e)
  /-- `*.s`, where the set routes only the apex `s`, or addresses written below it. -/
  | under (s : String) (hraw : Text.trim raw = "*." ++ s) (hall : set.domainsAll = false)
      (hsuffix : ∀ d ∈ set.domainsSuffix, ¬ Overlaps d ("." ++ Text.toAsciiLowercase s))
      (hexact : ∃ e ∈ set.domainsExact, e = Text.toAsciiLowercase s ∨
        Text.endsWith ("." ++ Text.toAsciiLowercase s) e = true)
      (hliteral : ∀ e ∈ set.domainsExact,
        Text.endsWith ("." ++ Text.toAsciiLowercase s) e = true → ¬ IsName e)
  /-- An address written as a domain rule, in a routed network. -/
  | literal (hstar : Text.trim raw ≠ "*") (hplain : ∀ s, Text.trim raw ≠ "*." ++ s)
      (hliteral : ¬ IsName (Text.trim raw)) (hallows : set.allowsHost (Text.trim raw) = true)

/-! ## Prepared sets -/

structure Prepared (set : RoutedSet) : Prop where
  exact : ∀ e ∈ set.domainsExact, Text.toAsciiLowercase e = e
  suffix : ∀ d ∈ set.domainsSuffix, ∃ t, d = "." ++ t ∧ Text.toAsciiLowercase t = t

variable {raw : String} {set : RoutedSet} {networks : IpNetworkCrate}

theorem prepared_addDomain {set' : RoutedSet} (hset : Prepared set)
    (h : set.addDomain raw = .ok set') : Prepared set' := by
  rcases addDomain_cases h with ⟨-, rfl⟩ | ⟨s, -, rfl⟩ | ⟨-, -, rfl⟩
  · exact ⟨hset.exact, hset.suffix⟩
  · refine ⟨hset.exact, fun d hd => ?_⟩
    rcases List.mem_append.1 hd with hd | hd
    · exact hset.suffix d hd
    · exact ⟨_, List.mem_singleton.1 hd, toAsciiLowercase_toAsciiLowercase s⟩
  · refine ⟨fun e he => ?_, hset.suffix⟩
    rcases List.mem_insert_iff.1 he with rfl | he
    · exact toAsciiLowercase_toAsciiLowercase _
    · exact hset.exact e he

/-- A set that was made is in lower case. -/
theorem prepared_of_new {domains cidrs : List String}
    (h : RoutedSet.new networks domains cidrs = .ok set) : Prepared set := by
  obtain ⟨named, hnamed, h⟩ := bind_eq_ok.1 h
  obtain ⟨nets, -, h⟩ := bind_eq_ok.1 h
  cases h
  have hstart : Prepared {} := ⟨by simp, by simp⟩
  obtain ⟨hexact, hsuffix⟩ := foldlM_invariant (fun _ _ _ => prepared_addDomain) hstart hnamed
  exact ⟨hexact, hsuffix⟩

theorem addDomain_of_addDomain {set' : RoutedSet} (h : set.addDomain raw = .ok set')
    (start : RoutedSet) : ∃ single, start.addDomain raw = .ok single := by
  unfold RoutedSet.addDomain at h ⊢
  dsimp only at h ⊢
  split
  · exact ⟨_, rfl⟩
  next hstar =>
    rw [if_neg hstar] at h
    split
    all_goals
      next hs =>
      rw [hs] at h
      dsimp only at h
      split
      next hbad =>
        rw [if_pos hbad] at h
        cases h
      · exact ⟨_, rfl⟩

theorem new_singleton_of_mem {domains cidrs : List String} {rules : RoutedSet}
    (h : RoutedSet.new networks domains cidrs = .ok rules) (hraw : raw ∈ domains) :
    ∃ single, RoutedSet.new networks [raw] [] = .ok single := by
  obtain ⟨named, hnamed, -⟩ := bind_eq_ok.1 h
  obtain ⟨_, _, hadd⟩ := exists_step_of_foldlM_eq_ok hnamed hraw
  obtain ⟨single, hsingle⟩ := addDomain_of_addDomain hadd {}
  refine ⟨{ single with cidrs := [] }, ?_⟩
  rw [RoutedSet.new, List.foldlM_cons, hsingle]
  rfl

/-! ## Hosts -/

/-- A host that begins with `x` is a name. -/
theorem isName_x (d : String) : IsName ("x" ++ d) := by
  have hbracket : Text.stripPrefix "[" ("x" ++ d) = none := by
    cases hstrip : Text.stripPrefix "[" ("x" ++ d) with
    | none => rfl
    | some rest =>
      have hchars := congrArg String.toList (Text.stripPrefix_eq_some_iff.1 hstrip)
      simp at hchars
  have hparse : IpAddr.parse ("x" ++ d) = none := by
    have hchars : ("x" ++ d).toList = 'x' :: d.toList := by simp
    rw [IpAddr.parse, Parse.whole, hchars, readIpAddr_of_head (by decide) (by decide) (by decide)]
  rw [IsName, RoutedSet.parseIpLiteral, hbracket]
  exact hparse

theorem toAsciiLowercase_x (t : String) (ht : Text.toAsciiLowercase t = t) :
    Text.toAsciiLowercase ("x" ++ ("." ++ t)) = "x" ++ ("." ++ t) := by
  rw [Text.toAsciiLowercase_append, Text.toAsciiLowercase_append, ht]
  rfl

theorem isName_iff_of_lower {host e : String} (h : Text.toAsciiLowercase host = e) :
    IsName host ↔ IsName e := by
  have hsame : SameLetters host e := by
    rw [SameLetters, ← h, toAsciiLowercase_toAsciiLowercase]
  rw [IsName, IsName, hsame.parseIpLiteral]

theorem overlaps_iff {a t : String} :
    Overlaps ("." ++ t) ("." ++ a) ↔
      t = a ∨ Text.endsWith ("." ++ t) a = true ∨ Text.endsWith ("." ++ a) t = true := by
  have hdot (s : String) : ("." ++ s).toList = '.' :: s.toList := by simp
  rw [Overlaps, Text.endsWith_iff_toList, Text.endsWith_iff_toList, hdot, hdot,
    List.suffix_cons_iff, List.suffix_cons_iff, List.cons.injEq, List.cons.injEq]
  simp only [true_and, String.toList_inj, eq_comm (a := a)]
  tauto

theorem overlaps_of_endsWith {a b host : String} (ha : Text.endsWith a host = true)
    (hb : Text.endsWith b host = true) : Overlaps a b :=
  List.suffix_or_suffix_of_suffix (Text.endsWith_iff_toList.1 ha) (Text.endsWith_iff_toList.1 hb)

theorem endsWith_x (d : String) : Text.endsWith d ("x" ++ d) = true := by
  rw [Text.endsWith_iff_toList]
  exact ⟨['x'], by simp⟩

/-! ## One kind of rule at a time -/

section Kinds

variable {set : RoutedSet} (hset : Prepared set)
include hset

/-- When a set routes any name. -/
theorem exists_name_iff :
    (∃ host, IsName host ∧ MatchesHost set host) ↔
      set.domainsAll = true ∨ set.domainsSuffix ≠ [] ∨ ∃ e ∈ set.domainsExact, IsName e := by
  constructor
  · rintro ⟨host, hname, hall | hexact | ⟨d, hd, -⟩⟩
    · exact .inl hall
    · exact .inr (.inr ⟨_, hexact, (isName_iff_of_lower rfl).1 hname⟩)
    · exact .inr (.inl (List.ne_nil_of_mem hd))
  rintro (hall | hsuffix | ⟨e, he, hname⟩)
  · exact ⟨"x" ++ "", isName_x "", .inl hall⟩
  · obtain ⟨d, hd⟩ := List.exists_mem_of_ne_nil _ hsuffix
    obtain ⟨t, rfl, ht⟩ := hset.suffix d hd
    refine ⟨"x" ++ ("." ++ t), isName_x _, .inr (.inr ⟨_, hd, ?_⟩)⟩
    rw [toAsciiLowercase_x t ht]
    exact endsWith_x _
  · exact ⟨e, hname, .inr (.inl (by rwa [hset.exact e he]))⟩

/-- When a set routes a name under a suffix. -/
theorem exists_name_under_iff {a : String} (ha : Text.toAsciiLowercase a = a) :
    (∃ host, IsName host ∧ MatchesHost set host ∧
        Text.endsWith ("." ++ a) (Text.toAsciiLowercase host) = true) ↔
      set.domainsAll = true ∨ (∃ d ∈ set.domainsSuffix, Overlaps d ("." ++ a)) ∨
        ∃ e ∈ set.domainsExact, Text.endsWith ("." ++ a) e = true ∧ IsName e := by
  constructor
  · rintro ⟨host, hname, hall | hexact | ⟨d, hd, hends⟩, hunder⟩
    · exact .inl hall
    · exact .inr (.inr ⟨_, hexact, hunder, (isName_iff_of_lower rfl).1 hname⟩)
    · exact .inr (.inl ⟨d, hd, overlaps_of_endsWith hends hunder⟩)
  rintro (hall | ⟨d, hd, hoverlaps⟩ | ⟨e, he, hunder, hname⟩)
  · refine ⟨"x" ++ ("." ++ a), isName_x _, .inl hall, ?_⟩
    rw [toAsciiLowercase_x a ha]
    exact endsWith_x _
  · -- the longer of the two suffixes, with `x` before it
    obtain ⟨t, rfl, ht⟩ := hset.suffix d hd
    have hlonger {u v : String} (hu : Text.toAsciiLowercase u = u)
        (h : ("." ++ v).toList <:+ ("." ++ u).toList) :
        Text.endsWith ("." ++ v) (Text.toAsciiLowercase ("x" ++ ("." ++ u))) = true := by
      rw [toAsciiLowercase_x u hu, Text.endsWith_iff_toList]
      exact h.trans (Text.endsWith_iff_toList.1 (endsWith_x _))
    rcases hoverlaps with hshort | hshort
    · exact ⟨_, isName_x _, .inr (.inr ⟨_, hd, hlonger ha hshort⟩), hlonger ha (List.suffix_refl _)⟩
    · exact ⟨_, isName_x _, .inr (.inr ⟨_, hd, hlonger ht (List.suffix_refl _)⟩), hlonger ht hshort⟩
  · exact ⟨e, hname, .inr (.inl (by rwa [hset.exact e he])), by rwa [hset.exact e he]⟩

end Kinds

/-! ## The check -/

section Check

variable {networks : IpNetworkCrate} {set single : RoutedSet} {raw : String}

/-- A rule fires if it matches a name that the set routes. -/
theorem fires_iff (h : RoutedSet.new networks [raw] [] = .ok single) :
    Fires networks set raw ↔
      ∃ host, IsName host ∧ MatchesHost set host ∧ RuleMatches raw host := by
  obtain ⟨hhosts, haddrs⟩ := new_eq_ok h
  have hsingle (host : String) : single.allowsHost host = true ↔
      IsName host ∧ RuleMatches raw host := by
    cases hliteral : RoutedSet.parseIpLiteral host with
    | none => simp [allowsHost_iff_of_none hliteral, hhosts, IsName, hliteral]
    | some ip =>
      rw [allowsHost_of_some hliteral, haddrs ip]
      simp [CidrsCover, IsName, hliteral]
  constructor
  · rintro ⟨host, port, single', hnew, hallows, hfires⟩
    cases h.symm.trans hnew
    obtain ⟨hname, hmatches⟩ := (hsingle host).1 hfires
    exact ⟨host, hname, (allowsHost_iff_of_none hname).1 hallows, hmatches⟩
  · rintro ⟨host, hname, hset, hmatches⟩
    exact ⟨host, 0, single, h, (allowsHost_iff_of_none hname).2 hset,
      (hsingle host).2 ⟨hname, hmatches⟩⟩

/-- What the check of a wildcard looks for. -/
theorem coversSuffix_iff (hset : Prepared set) {a : String} :
    set.coversSuffix a = true ↔ set.domainsAll = true ∨
      (∃ d ∈ set.domainsSuffix, Overlaps d ("." ++ a)) ∨
        ∃ e ∈ set.domainsExact, e = a ∨ Text.endsWith ("." ++ a) e = true := by
  have hwild : (set.domainsSuffix.any fun dotT =>
      String.ofList (dotT.toList.drop 1) == a || Text.endsWith dotT a ||
        Text.endsWith ("." ++ a) (String.ofList (dotT.toList.drop 1))) = true ↔
      ∃ d ∈ set.domainsSuffix, Overlaps d ("." ++ a) := by
    rw [List.any_eq_true]
    refine exists_congr fun d => and_congr_right fun hd => ?_
    obtain ⟨t, rfl, -⟩ := hset.suffix d hd
    have hdrop : String.ofList (("." ++ t).toList.drop 1) = t := by
      apply String.toList_inj.1
      simp
    rw [hdrop, overlaps_iff]
    simp [or_assoc]
  have hexact : (set.domainsExact.contains a || set.domainsExact.any (Text.endsWith ("." ++ a))) =
      true ↔ ∃ e ∈ set.domainsExact, e = a ∨ Text.endsWith ("." ++ a) e = true := by
    simp only [Bool.or_eq_true, List.contains_iff_mem, List.any_eq_true, and_or_left, exists_or,
      exists_eq_right]
  unfold RoutedSet.coversSuffix
  dsimp only
  split
  next hall => simp [hall]
  next hall =>
    split
    next hin => simp [hexact.1 hin]
    next hin => rw [hwild, or_iff_left (mt hexact.2 hin), or_iff_right hall]

theorem wildcard_ne_star (s : String) : "*." ++ s ≠ "*" := by
  intro h
  have hchars := congrArg String.toList h
  simp at hchars

/-- What the check does with one rule: it accepts a rule that fires and a rule that is
overlooked, and no rule is both. -/
def Decides (networks : IpNetworkCrate) (set : RoutedSet) (raw : String) : Prop :=
  (set.domainRuleReachable raw = true ↔ Fires networks set raw ∨ Overlooked set raw) ∧
    (Overlooked set raw → ¬ Fires networks set raw)

theorem decides_any (hset : Prepared set)
    (h : RoutedSet.new networks [raw] [] = .ok single) (hraw : Text.trim raw = "*") :
    Decides networks set raw := by
  have hfires : Fires networks set raw ↔ set.domainsAll = true ∨ set.domainsSuffix ≠ [] ∨
      ∃ e ∈ set.domainsExact, IsName e := by
    rw [fires_iff h, ← exists_name_iff hset]
    simp [RuleMatches, hraw]
  have hoverlooked : Overlooked set raw ↔ set.domainsAll = false ∧ set.domainsSuffix = [] ∧
      set.domainsExact ≠ [] ∧ ∀ e ∈ set.domainsExact, ¬ IsName e := by
    constructor
    · rintro (⟨-, hall, hsuffix, hexact, hliteral⟩ | ⟨s, hs, -⟩ | ⟨hstar, -⟩)
      · exact ⟨hall, hsuffix, hexact, hliteral⟩
      · exact absurd (hs.symm.trans hraw) (wildcard_ne_star s)
      · exact absurd hraw hstar
    · rintro ⟨hall, hsuffix, hexact, hliteral⟩
      exact .any hraw hall hsuffix hexact hliteral
  have hreach : set.domainRuleReachable raw = true ↔
      set.domainsAll = true ∨ set.domainsExact ≠ [] ∨ set.domainsSuffix ≠ [] := by
    simp [RoutedSet.domainRuleReachable, hraw, or_assoc]
  rw [Decides, hfires, hoverlooked, hreach]
  constructor
  · constructor
    · intro hsome
      by_cases hname : ∃ e ∈ set.domainsExact, IsName e
      · exact .inl (.inr (.inr hname))
      by_cases hsuffix : set.domainsSuffix = []
      · cases hall : set.domainsAll with
        | true => exact .inl (.inl rfl)
        | false =>
          refine .inr ⟨rfl, hsuffix, ?_, fun e he hn => hname ⟨e, he, hn⟩⟩
          simpa [hall, hsuffix] using hsome
      · exact .inl (.inr (.inl hsuffix))
    · rintro ((hall | hsuffix | ⟨e, he, -⟩) | ⟨-, -, hexact, -⟩)
      · exact .inl hall
      · exact .inr (.inr hsuffix)
      · exact .inr (.inl (List.ne_nil_of_mem he))
      · exact .inr (.inl hexact)
  · rintro ⟨hall, hsuffix, -, hliteral⟩ (hall' | hsuffix' | ⟨e, he, hname⟩)
    · simp [hall] at hall'
    · exact hsuffix' hsuffix
    · exact hliteral e he hname

theorem decides_under (hset : Prepared set)
    (h : RoutedSet.new networks [raw] [] = .ok single) {s : String}
    (hraw : Text.trim raw = "*." ++ s) : Decides networks set raw := by
  have hlower := toAsciiLowercase_toAsciiLowercase s
  have hfires : Fires networks set raw ↔ set.domainsAll = true ∨
      (∃ d ∈ set.domainsSuffix, Overlaps d ("." ++ Text.toAsciiLowercase s)) ∨
      ∃ e ∈ set.domainsExact, Text.endsWith ("." ++ Text.toAsciiLowercase s) e = true ∧
        IsName e := by
    rw [fires_iff h, ← exists_name_under_iff hset hlower]
    simp only [ruleMatches_wildcard hraw]
  have hreach : set.domainRuleReachable raw = true ↔
      set.coversSuffix (Text.toAsciiLowercase s) = true := by
    have hstrip : Text.stripPrefix "*." ("*." ++ s) = some s :=
      Text.stripPrefix_eq_some_iff.2 rfl
    simp only [RoutedSet.domainRuleReachable, hraw, wildcard_ne_star, if_false, hstrip]
  rw [Decides, hreach, coversSuffix_iff hset]
  constructor
  · constructor
    · intro hcovers
      by_cases hfire : Fires networks set raw
      · exact .inl hfire
      simp only [hfires, not_or, not_exists, not_and, Bool.not_eq_true] at hfire
      obtain ⟨hall, hsuffix, hliteral⟩ := hfire
      refine .inr (.under s hraw hall hsuffix ?_ hliteral)
      exact (hcovers.resolve_left (by simp [hall])).resolve_left (by simpa using hsuffix)
    rintro (hfire | hoverlooked)
    · exact (hfires.1 hfire).imp_right (.imp_right fun ⟨e, he, h, _⟩ => ⟨e, he, .inr h⟩)
    rcases hoverlooked with ⟨hstar, -⟩ | ⟨s', hs', -, -, hexact, -⟩ | ⟨-, hplain, -⟩
    · exact absurd (hraw.symm.trans hstar) (wildcard_ne_star s)
    · obtain rfl : s = s' := (String.append_right_inj _).1 (hraw.symm.trans hs')
      exact .inr (.inr hexact)
    · exact absurd hraw (hplain s)
  · rintro (⟨hstar, -⟩ | ⟨s', hs', hall, hsuffix, -, hliteral⟩ | ⟨-, hplain, -⟩)
    · exact absurd (hraw.symm.trans hstar) (wildcard_ne_star s)
    · obtain rfl : s = s' := (String.append_right_inj _).1 (hraw.symm.trans hs')
      rw [hfires]
      rintro (hall' | ⟨d, hd, hoverlaps⟩ | ⟨e, he, hunder, hname⟩)
      · simp [hall] at hall'
      · exact hsuffix d hd hoverlaps
      · exact hliteral e he hunder hname
    · exact absurd hraw (hplain s)

theorem decides_exact (h : RoutedSet.new networks [raw] [] = .ok single)
    (hstar : Text.trim raw ≠ "*") (hplain : ∀ s, Text.trim raw ≠ "*." ++ s) :
    Decides networks set raw := by
  have hfires : Fires networks set raw ↔
      IsName (Text.trim raw) ∧ set.allowsHost (Text.trim raw) = true := by
    rw [fires_iff h]
    constructor
    · rintro ⟨host, hname, hmatches, hrule⟩
      have hsame : SameLetters host (Text.trim raw) := (ruleMatches_exact hstar hplain).1 hrule
      have hname' : IsName (Text.trim raw) := by rwa [IsName, ← hsame.parseIpLiteral]
      rw [← hsame.allowsHost]
      exact ⟨hname', (allowsHost_iff_of_none hname).2 hmatches⟩
    · rintro ⟨hname, hallows⟩
      exact ⟨_, hname, (allowsHost_iff_of_none hname).1 hallows,
        (ruleMatches_exact hstar hplain).2 rfl⟩
  have hoverlooked : Overlooked set raw ↔
      ¬ IsName (Text.trim raw) ∧ set.allowsHost (Text.trim raw) = true := by
    constructor
    · rintro (⟨hraw, -⟩ | ⟨s, hraw, -⟩ | ⟨-, -, hliteral, hallows⟩)
      · exact absurd hraw hstar
      · exact absurd hraw (hplain s)
      · exact ⟨hliteral, hallows⟩
    · rintro ⟨hliteral, hallows⟩
      exact .literal hstar hplain hliteral hallows
  have hreach : set.domainRuleReachable raw = set.allowsHost (Text.trim raw) := by
    have hstrip : Text.stripPrefix "*." (Text.trim raw) = none := by
      cases hwild : Text.stripPrefix "*." (Text.trim raw) with
      | none => rfl
      | some s => exact absurd (Text.stripPrefix_eq_some_iff.1 hwild) (hplain s)
    simp only [RoutedSet.domainRuleReachable, hstar, if_false, hstrip]
  rw [Decides, hfires, hoverlooked, hreach]
  by_cases hname : IsName (Text.trim raw) <;> simp [hname]

/-- The check decides every rule that a set can be made of. -/
theorem decides_of_accepted (hset : Prepared set)
    (h : RoutedSet.new networks [raw] [] = .ok single) : Decides networks set raw := by
  by_cases hstar : Text.trim raw = "*"
  · exact decides_any hset h hstar
  by_cases hwild : ∃ s, Text.trim raw = "*." ++ s
  · obtain ⟨s, hs⟩ := hwild
    exact decides_under hset h hs
  · exact decides_exact h hstar fun s hs => hwild ⟨s, hs⟩

/-- The check accepts the rules that fire, and the overlooked ones, which never do. -/
theorem reachable_iff_fires_or_overlooked {routedDomains routedCidrs domains cidrs : List String}
    {rules : RoutedSet} (hset : RoutedSet.new networks routedDomains routedCidrs = .ok set)
    (hrules : RoutedSet.new networks domains cidrs = .ok rules) :
    (RoutedSet.validateRulesReachable networks set domains [] = .ok () ↔
        ∀ raw ∈ domains, Fires networks set raw ∨ Overlooked set raw) ∧
      ∀ raw ∈ domains, Overlooked set raw → ¬ Fires networks set raw := by
  have hdecides (raw : String) (hraw : raw ∈ domains) : Decides networks set raw := by
    obtain ⟨single, hsingle⟩ := new_singleton_of_mem hrules hraw
    exact decides_of_accepted (prepared_of_new hset) hsingle
  refine ⟨?_, fun raw hraw => (hdecides raw hraw).2⟩
  have hvalid : RoutedSet.validateRulesReachable networks set domains [] = .ok () ↔
      ∀ raw ∈ domains, set.domainRuleReachable raw = true := by
    rw [RoutedSet.validateRulesReachable, bind_eq_ok]
    constructor
    · rintro ⟨⟨⟩, hdomains, -⟩ raw hraw
      have hrule := forM_eq_ok_iff.1 hdomains raw hraw
      split at hrule
      · assumption
      · cases hrule
    · intro hreach
      refine ⟨(), forM_eq_ok_iff.2 fun raw hraw => ?_, rfl⟩
      rw [if_pos (hreach raw hraw)]
  rw [hvalid]
  exact forall₂_congr fun raw hraw => (hdecides raw hraw).1

/-- **When the check says whether the rules can fire.** It succeeds on a list just if every rule of
it fires, if and only if none of the rules is overlooked or some rule neither fires nor is
overlooked, so that the list is refused as it should be. -/
theorem check_exact_iff {routedDomains routedCidrs domains cidrs : List String}
    {rules : RoutedSet} (hset : RoutedSet.new networks routedDomains routedCidrs = .ok set)
    (hrules : RoutedSet.new networks domains cidrs = .ok rules) :
    (RoutedSet.validateRulesReachable networks set domains [] = .ok () ↔
        ∀ raw ∈ domains, Fires networks set raw) ↔
      (∀ raw ∈ domains, ¬ Overlooked set raw) ∨
        ∃ raw ∈ domains, ¬ Fires networks set raw ∧ ¬ Overlooked set raw := by
  obtain ⟨hcheck, hnever⟩ := reachable_iff_fires_or_overlooked hset hrules
  rw [hcheck]
  constructor
  · intro hexact
    by_cases hpass : ∀ raw ∈ domains, Fires networks set raw ∨ Overlooked set raw
    · -- the list passes, so every rule fires, and what is overlooked never does
      exact .inl fun raw hraw hlooked => hnever raw hraw hlooked (hexact.1 hpass raw hraw)
    · refine .inr ?_
      simpa only [not_forall, not_or, exists_prop] using hpass
  · rintro (hnone | ⟨raw, hraw, hfires, hlooked⟩)
    · exact ⟨fun hpass raw hraw => (hpass raw hraw).resolve_right (hnone raw hraw),
        fun hall raw hraw => .inl (hall raw hraw)⟩
    · exact ⟨fun hpass => absurd (hpass raw hraw) (not_or.2 ⟨hfires, hlooked⟩),
        fun hall => absurd (hall raw hraw) hfires⟩

end Check

/-- Only `example.com` is routed, so `*.example.com` matches nothing that is. -/
theorem accepted_rule_never_fires :
    ∃ set rules, RoutedSet.new (.parsing fun _ => none) ["example.com"] [] = .ok set ∧
      RoutedSet.new (.parsing fun _ => none) ["*.example.com"] [] = .ok rules ∧
      RoutedSet.validateRulesReachable (.parsing fun _ => none) set ["*.example.com"] [] = .ok () ∧
      ¬ Fires (.parsing fun _ => none) set "*.example.com" := by
  have hset : RoutedSet.new (.parsing fun _ => none) ["example.com"] [] =
      .ok { domainsExact := ["example.com"] } := by decide
  have hrules : RoutedSet.new (.parsing fun _ => none) ["*.example.com"] [] =
      .ok { domainsSuffix := [".example.com"] } := by decide
  refine ⟨_, _, hset, hrules, by decide, ?_⟩
  rw [fires_iff hrules, not_exists]
  rintro host ⟨-, hmatches, hrule⟩
  -- the one routed host is `example.com` itself
  have hhost : Text.toAsciiLowercase host = "example.com" := by
    simpa [MatchesHost] using hmatches
  have hunder := (ruleMatches_wildcard (s := "example.com") (by decide)).1 hrule
  rw [hhost] at hunder
  exact absurd hunder (by decide)

/-- An overlooked rule does no harm beside one that is rightly refused. -/
theorem check_exact_iff_refused :
    ∃ set rules, RoutedSet.new (.parsing fun _ => none) ["example.com"] [] = .ok set ∧
      RoutedSet.new (.parsing fun _ => none) ["other.org", "*.example.com"] [] = .ok rules ∧
      (RoutedSet.validateRulesReachable (.parsing fun _ => none) set
          ["other.org", "*.example.com"] [] = .ok () ↔
        ∀ raw ∈ ["other.org", "*.example.com"], Fires (.parsing fun _ => none) set raw) := by
  have hset : RoutedSet.new (.parsing fun _ => none) ["example.com"] [] =
      .ok { domainsExact := ["example.com"] } := by decide
  have hrules : RoutedSet.new (.parsing fun _ => none) ["other.org", "*.example.com"] [] =
      .ok { domainsExact := ["other.org"], domainsSuffix := [".example.com"] } := by decide
  have hother : RoutedSet.new (.parsing fun _ => none) ["other.org"] [] =
      .ok { domainsExact := ["other.org"] } := by decide
  have hrefused : ¬ RoutedSet.domainRuleReachable { domainsExact := ["example.com"] } "other.org" =
      true := by decide
  rw [(decides_of_accepted (prepared_of_new hset) hother).1, not_or] at hrefused
  exact ⟨_, _, hset, hrules,
    (check_exact_iff hset hrules).2 (.inr ⟨"other.org", by simp, hrefused⟩)⟩

/-! ## CIDR rules -/

section Overlap

variable {p q : IpNetwork} {ip : IpAddr}

end Overlap

end Flextunnel.Analysis
