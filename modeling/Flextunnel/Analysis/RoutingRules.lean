import Flextunnel.Lib.Matching
import Flextunnel.Model.Routing

/-!
# What the routing rules mean

`RoutedSet.new` turns two lists of rules into prepared sets that are matched by string
suffixes and masked octets. Here the rules mean what the operator wrote: an address is
covered by a network when their leading bits agree, and a host by `*.s` when the labels of
`s` are the last labels of the host, and not all of them.
-/

set_option autoImplicit false

namespace Flextunnel.Analysis

open Lib Model

/-! ## The meaning of a rule -/

/-- A host that is an address literal, alone or in one pair of brackets. -/
def IsLiteral (host : String) (ip : IpAddr) : Prop :=
  IpAddr.parse host = some ip ∨
    ∃ inner, host = "[" ++ inner ++ "]" ∧ IpAddr.parse inner = some ip

/-- The network a CIDR rule denotes: the one it spells out, or that of a single host. -/
def Denotes (networks : IpNetworkCrate) (raw : String) (net : IpNetwork) : Prop :=
  networks.parse (Text.trim raw) = some net ∨
    networks.parse (Text.trim raw) = none ∧
      ∃ ip, IpAddr.parse (Text.trim raw) = some ip ∧
        net.ip = ip ∧ net.prefixLen = (bits ip.octets).length

/-- An address of the network's family that starts with the network's bits. -/
def InNetwork (net : IpNetwork) (ip : IpAddr) : Prop :=
  match net.ip, ip with
  | .v4 a, .v4 b => (bits b.octets).take net.prefixLen = (bits a.octets).take net.prefixLen
  | .v6 a, .v6 b => (bits b.octets).take net.prefixLen = (bits a.octets).take net.prefixLen
  | _, _ => False

def CidrsCover (networks : IpNetworkCrate) (cidrs : List String) (ip : IpAddr) :
    Prop :=
  ∃ raw ∈ cidrs, ∃ net, Denotes networks raw net ∧ InNetwork net ip

def labels (host : String) : List String :=
  Text.splitChar '.' (Text.toAsciiLowercase host)

/-- What a domain rule says of a host. -/
def RuleMatches (raw host : String) : Prop :=
  Text.trim raw = "*" ∨ Text.eqIgnoreAsciiCase (Text.trim raw) host = true ∨
    ∃ s, Text.trim raw = "*." ++ s ∧ labels s <:+ labels host ∧ labels s ≠ labels host

/-! ## Literals -/

theorem parse_bracket (inner : String) : IpAddr.parse ("[" ++ inner) = none := by
  have hchars : ("[" ++ inner).toList = '[' :: inner.toList := by simp
  rw [IpAddr.parse, Parse.whole, hchars]
  rfl

variable {host raw : String} {networks : IpNetworkCrate} {set set' : RoutedSet}

/-- The parser takes exactly the literals. -/
theorem parseIpLiteral_eq_some_iff {ip : IpAddr} :
    RoutedSet.parseIpLiteral host = some ip ↔ IsLiteral host ip := by
  unfold RoutedSet.parseIpLiteral IsLiteral
  dsimp only
  cases hstrip : (Text.stripPrefix "[" host).bind (Text.stripSuffix "]") with
  | none =>
    constructor
    · intro hparse
      exact .inl hparse
    rintro (hparse | ⟨inner, rfl, -⟩)
    · exact hparse
    have hopen : Text.stripPrefix "[" ("[" ++ inner ++ "]") = some (inner ++ "]") :=
      Text.stripPrefix_eq_some_iff.2 (String.append_assoc ..)
    have hsuffix : Text.stripSuffix "]" (inner ++ "]") = some inner :=
      Text.stripSuffix_eq_some_iff.2 rfl
    rw [hopen, Option.bind_some, hsuffix] at hstrip
    cases hstrip
  | some inner =>
    obtain ⟨rest, hopen, hsuffix⟩ := Option.bind_eq_some_iff.1 hstrip
    obtain rfl := Text.stripPrefix_eq_some_iff.1 hopen
    obtain rfl := Text.stripSuffix_eq_some_iff.1 hsuffix
    constructor
    · intro hparse
      exact .inr ⟨inner, (String.append_assoc ..).symm, hparse⟩
    rintro (hparse | ⟨inner', hhost, hparse⟩)
    · rw [parse_bracket] at hparse
      cases hparse
    have hinner : inner = inner' := by
      rw [← String.append_assoc] at hhost
      exact String.append_right_inj _ |>.1 (String.append_left_inj _ |>.1 hhost)
    exact hinner ▸ hparse

/-! ## CIDR rules -/

theorem maskOctets_cons (n : Nat) (o : UInt8) (octets : List UInt8) :
    maskOctets n (o :: octets) =
      UInt8.ofNat (o.toNat / 2 ^ (8 - min 8 n) * 2 ^ (8 - min 8 n)) ::
        maskOctets (n - 8) octets := by
  simp only [maskOctets, List.mapIdx_cons, Nat.mul_zero, Nat.sub_zero, List.cons.injEq, true_and]
  congr 1
  funext i o'
  have hshift : n - 8 * (i + 1) = n - 8 - 8 * i := by omega
  rw [hshift]

theorem clearedOctet_eq_iff {m : Nat} {a b : UInt8} :
    UInt8.ofNat (a.toNat / 2 ^ m * 2 ^ m) = UInt8.ofNat (b.toNat / 2 ^ m * 2 ^ m) ↔
      a.toNat / 2 ^ m = b.toNat / 2 ^ m := by
  have hcleared (c : UInt8) : (UInt8.ofNat (c.toNat / 2 ^ m * 2 ^ m)).toNat =
      c.toNat / 2 ^ m * 2 ^ m := by
    have hc := c.toNat_lt
    have hle := Nat.div_mul_le_self c.toNat (2 ^ m)
    rw [UInt8.toNat_ofNat', Nat.mod_eq_of_lt (by omega)]
  rw [← UInt8.toNat_inj, hcleared, hcleared]
  exact Nat.mul_left_inj (Nat.two_pow_pos m).ne'

/-- Octets agree under a mask when their leading bits do. -/
theorem maskOctets_eq_iff {n : Nat} {a b : List UInt8} (hlen : a.length = b.length) :
    maskOctets n a = maskOctets n b ↔ (bits a).take n = (bits b).take n := by
  induction a generalizing b n with
  | nil =>
    have hb : b = [] := List.length_eq_zero_iff.1 hlen.symm
    simp [hb]
  | cons o a ih =>
    cases b with
    | nil => exact absurd hlen (by simp)
    | cons o' b =>
      have htail := ih (n := n - 8) (Nat.succ.inj hlen)
      have hhead := take_bitsOfByte_eq_iff (a := o) (b := o') (Nat.min_le_left 8 n)
      have hall (c : UInt8) : (bitsOfByte c).take (min 8 n) = (bitsOfByte c).take n := by
        rw [← length_bitsOfByte c, Nat.min_comm, ← List.take_eq_take_min]
      rw [hall, hall] at hhead
      have hcut : ((bitsOfByte o).take n).length = ((bitsOfByte o').take n).length := by
        simp [length_bitsOfByte]
      rw [maskOctets_cons, maskOctets_cons, List.cons.injEq, clearedOctet_eq_iff, htail,
        ← hhead, take_bits_cons, take_bits_cons]
      constructor
      · rintro ⟨ho, hrest⟩
        rw [ho, hrest]
      · intro happend
        exact List.append_inj happend hcut

theorem contains_iff_inNetwork {net : IpNetwork} {ip : IpAddr} :
    net.contains ip = true ↔ InNetwork net ip := by
  rw [net.contains_iff]
  unfold InNetwork
  cases net.ip with
  | v4 a =>
    cases ip with
    | v4 b =>
      have hlen := b.length_octets.trans a.length_octets.symm
      simp [IpAddr.masked, maskOctets_eq_iff hlen]
    | v6 b => simp [IpAddr.masked]
  | v6 a =>
    cases ip with
    | v4 b => simp [IpAddr.masked]
    | v6 b =>
      have hlen := b.length_octets.trans a.length_octets.symm
      simp [IpAddr.masked, maskOctets_eq_iff hlen]

theorem parseCidr_eq_some_iff {net : IpNetwork} :
    RoutedSet.parseCidr networks raw = some net ↔ Denotes networks raw net := by
  have hhost (ip : IpAddr) : networks.ofIp ip = net ↔
      net.ip = ip ∧ net.prefixLen = (bits ip.octets).length := by
    have hwidth : (bits ip.octets).length = 8 * ip.octets.length := by
      simp [bits, List.length_flatMap, length_bitsOfByte, Nat.mul_comm]
    rw [IpNetwork.eq_iff, networks.ofIp_ip, networks.ofIp_prefixLen, hwidth, eq_comm,
      eq_comm (b := net.prefixLen)]
  unfold RoutedSet.parseCidr Denotes
  dsimp only
  cases networks.parse (Text.trim raw) with
  | some own => simp
  | none => simp [hhost]

/-! ## Domain rules -/

/-- What the prepared sets say about a host that is not an address.
SOURCE: core/proxy/routed_set.rs:127-135 -/
def MatchesHost (set : RoutedSet) (host : String) : Prop :=
  set.domainsAll = true ∨ Text.toAsciiLowercase host ∈ set.domainsExact ∨
    ∃ suffix ∈ set.domainsSuffix, Text.endsWith suffix (Text.toAsciiLowercase host) = true

/-- A domain rule is a star, a wildcard or a name. -/
theorem addDomain_cases (h : set.addDomain raw = .ok set') :
    Text.trim raw = "*" ∧ set' = { set with domainsAll := true } ∨
    (∃ s, Text.trim raw = "*." ++ s ∧
      set' = { set with domainsSuffix := set.domainsSuffix ++ ["." ++ Text.toAsciiLowercase s] }) ∨
    Text.trim raw ≠ "*" ∧ (∀ s, Text.trim raw ≠ "*." ++ s) ∧
      set' = { set with
        domainsExact := set.domainsExact.insert (Text.toAsciiLowercase (Text.trim raw)) } := by
  unfold RoutedSet.addDomain at h
  dsimp only at h
  by_cases hstar : Text.trim raw = "*"
  · rw [if_pos hstar] at h
    exact .inl ⟨hstar, (Except.ok.inj h).symm⟩
  rw [if_neg hstar] at h
  cases hwild : Text.stripPrefix "*." (Text.trim raw) with
  | some s =>
    rw [hwild] at h
    dsimp only at h
    split at h
    · cases h
    · exact .inr (.inl ⟨s, Text.stripPrefix_eq_some_iff.1 hwild, (Except.ok.inj h).symm⟩)
  | none =>
    rw [hwild] at h
    dsimp only at h
    have hplain (s : String) : Text.trim raw ≠ "*." ++ s := by
      intro heq
      rw [Text.stripPrefix_eq_some_iff.2 heq] at hwild
      cases hwild
    split at h
    · cases h
    · exact .inr (.inr ⟨hstar, hplain, (Except.ok.inj h).symm⟩)

theorem endsWith_dot_iff {s : String} :
    Text.endsWith ("." ++ Text.toAsciiLowercase s) (Text.toAsciiLowercase host) = true ↔
      labels s <:+ labels host ∧ labels s ≠ labels host := by
  have hdot : "." ++ Text.toAsciiLowercase s =
      String.ofList ('.' :: (Text.toAsciiLowercase s).toList) := by
    apply String.toList_inj.1
    simp
  rw [hdot]
  exact endsWith_cons_iff_splitChar

theorem ruleMatches_wildcard {s : String} (hraw : Text.trim raw = "*." ++ s) :
    RuleMatches raw host ↔
      Text.endsWith ("." ++ Text.toAsciiLowercase s) (Text.toAsciiLowercase host) = true := by
  rw [RuleMatches, hraw]
  constructor
  · rintro (hstar | hsame | ⟨s', hs', hlabels⟩)
    · have hchars := congrArg String.toList hstar
      simp at hchars
    · -- the rule's own text as a host: it ends in the suffix too
      rw [Text.eqIgnoreAsciiCase_iff, Text.toAsciiLowercase_append] at hsame
      rw [← hsame, Text.endsWith_iff_toList]
      exact ⟨['*'], by simp [Text.toAsciiLowercase]⟩
    · obtain rfl : s = s' := (String.append_right_inj _).1 hs'
      exact endsWith_dot_iff.2 hlabels
  · intro hends
    exact .inr (.inr ⟨s, rfl, endsWith_dot_iff.1 hends⟩)

theorem ruleMatches_exact (hstar : Text.trim raw ≠ "*") (hplain : ∀ s, Text.trim raw ≠ "*." ++ s) :
    RuleMatches raw host ↔
      Text.toAsciiLowercase host = Text.toAsciiLowercase (Text.trim raw) := by
  simp only [RuleMatches, hstar, hplain, false_and, exists_false, or_false, false_or,
    Text.eqIgnoreAsciiCase_iff]
  exact eq_comm

/-- A rule that is added matches what it means, besides what matched before. -/
theorem matchesHost_addDomain (h : set.addDomain raw = .ok set') (host : String) :
    MatchesHost set' host ↔ MatchesHost set host ∨ RuleMatches raw host := by
  rcases addDomain_cases h with ⟨hstar, rfl⟩ | ⟨s, hwild, rfl⟩ | ⟨hstar, hplain, rfl⟩
  · simp [MatchesHost, RuleMatches, hstar]
  · rw [ruleMatches_wildcard hwild]
    simp only [MatchesHost, List.mem_append, List.mem_singleton, or_and_right, exists_or,
      exists_eq_left, or_assoc]
  rw [ruleMatches_exact hstar hplain]
  simp only [MatchesHost, List.mem_insert_iff]
  constructor
  · rintro (hall | (heq | hmem) | hsuffix)
    · exact .inl (.inl hall)
    · exact .inr heq
    · exact .inl (.inr (.inl hmem))
    · exact .inl (.inr (.inr hsuffix))
  · rintro ((hall | hmem | hsuffix) | heq)
    · exact .inl hall
    · exact .inr (.inl (.inr hmem))
    · exact .inr (.inr hsuffix)
    · exact .inr (.inl (.inl heq))

/-- The prepared sets match what some rule of the list means. -/
theorem matchesHost_foldlM {domains : List String}
    (h : domains.foldlM RoutedSet.addDomain set = .ok set') (host : String) :
    MatchesHost set' host ↔ MatchesHost set host ∨ ∃ raw ∈ domains, RuleMatches raw host := by
  induction domains generalizing set with
  | nil =>
    cases h
    simp
  | cons raw domains ih =>
    rw [List.foldlM_cons] at h
    obtain ⟨mid, hmid, hrest⟩ := bind_eq_ok.1 h
    rw [ih hrest, matchesHost_addDomain hmid host, or_assoc]
    simp only [List.mem_cons, or_and_right, exists_or, exists_eq_left]

/-! ## The routed set -/

/-- A set that is built has the meaning of both lists. -/
theorem new_eq_ok {domains cidrs : List String}
    (h : RoutedSet.new networks domains cidrs = .ok set) :
    (∀ host, MatchesHost set host ↔ ∃ raw ∈ domains, RuleMatches raw host) ∧
      ∀ ip, set.allowsIp ip = true ↔ CidrsCover networks cidrs ip := by
  obtain ⟨named, hnamed, h⟩ := bind_eq_ok.1 h
  obtain ⟨nets, hnets, h⟩ := bind_eq_ok.1 h
  cases h
  constructor
  · intro host
    have hstart : ¬ MatchesHost {} host := by simp [MatchesHost]
    have hfold := matchesHost_foldlM hnamed host
    rwa [or_iff_right hstart] at hfold
  intro ip
  have hmem (net : IpNetwork) : net ∈ nets ↔ ∃ raw ∈ cidrs, Denotes networks raw net := by
    rw [mem_iff_of_mapM_eq_ok hnets]
    refine exists_congr fun raw => and_congr_right fun _ => ?_
    rw [← parseCidr_eq_some_iff]
    cases RoutedSet.parseCidr networks raw <;> simp
  simp only [RoutedSet.allowsIp, List.any_eq_true, contains_iff_inNetwork, hmem, CidrsCover]
  constructor
  · rintro ⟨net, ⟨raw, hraw, hdenotes⟩, hin⟩
    exact ⟨raw, hraw, net, hdenotes, hin⟩
  · rintro ⟨raw, hraw, net, hdenotes, hin⟩
    exact ⟨net, ⟨raw, hraw, hdenotes⟩, hin⟩

theorem allowsHost_iff_of_none (hnone : RoutedSet.parseIpLiteral host = none) :
    set.allowsHost host = true ↔ MatchesHost set host := by
  unfold RoutedSet.allowsHost MatchesHost
  rw [hnone]
  cases hall : set.domainsAll <;> simp

theorem allowsHost_of_some {ip : IpAddr} (hsome : RoutedSet.parseIpLiteral host = some ip) :
    set.allowsHost host = set.allowsIp ip := by
  unfold RoutedSet.allowsHost
  rw [hsome]

/-- **A routed set allows exactly what its rules mean.** An address, sent as such or as a
literal in domain form, is allowed when some CIDR rule contains it; any other host when
some domain rule matches it. -/
theorem routedSet_allows_iff {networks : IpNetworkCrate}
    {domains cidrs : List String} {set : RoutedSet}
    (hnew : RoutedSet.new networks domains cidrs = .ok set) :
    (∀ addr : SocketAddr, set.allows (.ip addr) = true ↔ CidrsCover networks cidrs addr.ip) ∧
    (∀ (host : String) (port : UInt16) (ip : IpAddr), IsLiteral host ip →
      (set.allows (.domain host port) = true ↔ CidrsCover networks cidrs ip)) ∧
    (∀ (host : String) (port : UInt16), (∀ ip, ¬ IsLiteral host ip) →
      (set.allows (.domain host port) = true ↔ ∃ raw ∈ domains, RuleMatches raw host)) := by
  obtain ⟨hhosts, haddrs⟩ := new_eq_ok hnew
  refine ⟨?_, ?_, ?_⟩
  · intro addr
    exact haddrs addr.ip
  · intro host port ip hliteral
    have hparse := parseIpLiteral_eq_some_iff.2 hliteral
    rw [RoutedSet.allows, allowsHost_of_some hparse]
    exact haddrs ip
  intro host port hname
  have hparse : RoutedSet.parseIpLiteral host = none := by
    apply Option.eq_none_iff_forall_ne_some.2
    intro ip hsome
    exact hname ip (parseIpLiteral_eq_some_iff.1 hsome)
  rw [RoutedSet.allows, allowsHost_iff_of_none hparse]
  exact hhosts host

/-- A rule of each kind, with an address, a literal and a host name. -/
theorem routedSet_allows_iff_instance :
    ∃ (networks : IpNetworkCrate) (set : RoutedSet),
      RoutedSet.new networks ["*.Corp.example"] [" 10.0.0.0/8"] = .ok set ∧
      (set.allows (.ip (.v4 ⟨[10, 0, 0, 7], rfl⟩ 80)) = true ↔
        CidrsCover networks [" 10.0.0.0/8"] (.v4 ⟨[10, 0, 0, 7], rfl⟩)) ∧
      (set.allows (.domain "10.0.0.7" 80) = true ↔
        CidrsCover networks [" 10.0.0.0/8"] (.v4 ⟨[10, 0, 0, 7], rfl⟩)) ∧
      (set.allows (.domain "DB.corp.example" 80) = true ↔
        ∃ raw ∈ ["*.Corp.example"], RuleMatches raw "DB.corp.example") := by
  have hnew : RoutedSet.new
      (.parsing fun text => if text = "10.0.0.0/8" then some tenNetwork else none)
      ["*.Corp.example"] [" 10.0.0.0/8"] =
        .ok { domainsSuffix := [".corp.example"], cidrs := [tenNetwork] } := by
    decide
  refine ⟨_, _, hnew, (routedSet_allows_iff hnew).1 _, ?_, ?_⟩
  · exact (routedSet_allows_iff hnew).2.1 _ _ _ (.inl (by decide))
  apply (routedSet_allows_iff hnew).2.2
  intro ip hliteral
  have hparse := parseIpLiteral_eq_some_iff.2 hliteral
  have hnone : RoutedSet.parseIpLiteral "DB.corp.example" = none := by decide
  rw [hnone] at hparse
  cases hparse

end Flextunnel.Analysis
