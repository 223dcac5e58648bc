import Flextunnel.Analysis.Authorities
import Flextunnel.Analysis.RoutingRules
import Flextunnel.Lib.Words
import Flextunnel.Model.Forwards

/-!
# Remote hosts

A host that `validate_remote_host` returns is an address or a host name: short enough for a
request header, and in neither case with whitespace or a bracket in it. That is all the other
functions that meet the host ask for.
-/

set_option autoImplicit false

namespace Flextunnel.Analysis

open Lib Lib.Text Model Model.Parse

/-! ## The text of an address -/

def IsAddressChar (c : Char) : Prop :=
  (toDigit 16 c).isSome = true ∨ c = '.' ∨ c = ':'

/-- A reader that takes at most `n` characters off a text, all of them those of an address. -/
def Takes {α : Type} (n : Nat) (r : Parse.Reader α) : Prop :=
  ∀ cs a rest, r cs = some (a, rest) →
    ∃ taken, cs = taken ++ rest ∧ taken.length ≤ n ∧ ∀ c ∈ taken, IsAddressChar c

section Takes

variable {α β : Type}

/-- Two readers in a row take what both of them take. -/
theorem Takes.bind {n m : Nat} {r : Parse.Reader α} {k : α → Parse.Reader β} (hr : Takes n r)
    (hk : ∀ a, Takes m (k a)) : Takes (n + m) fun cs => (r cs).bind fun x => k x.1 x.2 := by
  intro cs b rest h
  obtain ⟨⟨a, mid⟩, hfirst, hsecond⟩ := Option.bind_eq_some_iff.1 h
  obtain ⟨taken, rfl, hlen, hchars⟩ := hr cs a mid hfirst
  obtain ⟨taken', rfl, hlen', hchars'⟩ := hk a mid b rest hsecond
  refine ⟨taken ++ taken', by rw [List.append_assoc], ?_,
    List.forall_mem_append.2 ⟨hchars, hchars'⟩⟩
  rw [List.length_append]
  omega

theorem takes_pure (a : α) : Takes 0 fun cs => some (a, cs) := by
  intro cs b rest h
  cases h
  exact ⟨[], rfl, Nat.le_refl 0, by simp⟩

theorem Takes.mono {n m : Nat} {r : Parse.Reader α} (h : Takes n r) (hle : n ≤ m) : Takes m r := by
  intro cs a rest hr
  obtain ⟨taken, hcs, hlen, hchars⟩ := h cs a rest hr
  exact ⟨taken, hcs, hlen.trans hle, hchars⟩

theorem toDigit_isSome_mono {radix radix' : Nat} (hle : radix ≤ radix') {c : Char}
    (h : (toDigit radix c).isSome = true) : (toDigit radix' c).isSome = true := by
  obtain ⟨d, hd⟩ := Option.isSome_iff_exists.1 h
  obtain ⟨hdigit, hlt⟩ := Option.filter_eq_some_iff.1 hd
  refine Option.isSome_iff_exists.2 ⟨d, Option.filter_eq_some_iff.2 ⟨hdigit, ?_⟩⟩
  simp only [decide_eq_true_eq] at hlt ⊢
  omega

/-- A number has at most so many digits. -/
theorem takes_readNumber {radix maxDigits bound : Nat} (hradix : radix ≤ 16)
    (allowZeroPrefix : Bool) :
    Takes maxDigits (readNumber radix (some maxDigits) allowZeroPrefix bound) := by
  intro cs n rest h
  unfold readNumber at h
  dsimp only at h
  split at h
  · cases h
  next hlen =>
  split at h
  · cases h
  split at h <;> cases h
  refine ⟨_, (List.takeWhile_append_dropWhile).symm, ?_, fun c hc => ?_⟩
  · simp only [Option.any_some, Bool.or_eq_true, decide_eq_true_eq, not_or] at hlen
    omega
  · have hdigit := List.mem_takeWhile_imp (p := fun c => (toDigit radix c).isSome) hc
    exact .inl (toDigit_isSome_mono hradix hdigit)

theorem takes_readChar {c : Char} (hc : IsAddressChar c) : Takes 1 (readChar c) := by
  intro cs a rest h
  cases cs with
  | nil => cases h
  | cons d cs =>
    simp only [readChar, Option.ite_none_right_eq_some, Option.some.injEq, Prod.mk.injEq] at h
    obtain ⟨rfl, -, rfl⟩ := h
    exact ⟨[d], rfl, Nat.le_refl 1, by simpa using hc⟩

theorem takes_readSeparator {n : Nat} {sep : Char} (hsep : IsAddressChar sep) (index : Nat)
    {inner : Parse.Reader α} (h : Takes n inner) :
    Takes (1 + n) (readSeparator sep index inner) := by
  unfold readSeparator
  split
  · exact h.mono (by omega)
  · exact (takes_readChar hsep).bind fun _ => h

theorem isAddressChar_dot : IsAddressChar '.' := .inr (.inl rfl)

theorem isAddressChar_colon : IsAddressChar ':' := .inr (.inr rfl)

/-- A dotted quad has at most 16 characters. -/
theorem takes_readIpv4 : Takes 16 readIpv4 := by
  have hoctet (index : Nat) : Takes 4 (readSeparator '.' index readOctet) :=
    takes_readSeparator isAddressChar_dot index (takes_readNumber (by omega) false)
  exact (hoctet 0).bind fun a => (hoctet 1).bind fun b => (hoctet 2).bind fun c =>
    (hoctet 3).bind fun d =>
      takes_pure (⟨[UInt8.ofNat a, UInt8.ofNat b, UInt8.ofNat c, UInt8.ofNat d], rfl⟩ : Ipv4Addr)

/-- So many groups have a bounded text. -/
theorem readGroups_takes (remaining index : Nat) (cs : List Char) :
    ∃ taken, cs = taken ++ (readGroups remaining index cs).2.2 ∧
      taken.length ≤ 5 * remaining + 17 ∧ ∀ c ∈ taken, IsAddressChar c := by
  induction remaining generalizing index cs with
  | zero => exact ⟨[], rfl, Nat.zero_le _, by simp⟩
  | succ remaining ih =>
    unfold readGroups
    split
    next v4 rest hread =>
      rw [Option.ite_none_right_eq_some] at hread
      obtain ⟨taken, hcs, hlen, hchars⟩ :=
        takes_readSeparator isAddressChar_colon index takes_readIpv4 cs v4 rest hread.2
      exact ⟨taken, hcs, by omega, hchars⟩
    split
    next g rest hread =>
      obtain ⟨taken, rfl, hlen, hchars⟩ := takes_readSeparator isAddressChar_colon index
        (takes_readNumber (Nat.le_refl 16) true) cs g rest hread
      obtain ⟨taken', hrest, hlen', hchars'⟩ := ih (index + 1) rest
      refine ⟨taken ++ taken', ?_, ?_, List.forall_mem_append.2 ⟨hchars, hchars'⟩⟩
      · rw [List.append_assoc, ← hrest]
      · rw [List.length_append]
        omega
    · exact ⟨[], rfl, Nat.zero_le _, by simp⟩

/-- An IPv6 address has at most 111 characters. -/
theorem takes_readIpv6 : Takes 111 readIpv6 := by
  intro cs ip rest h
  obtain ⟨head, hcs, hlen, hchars⟩ := readGroups_takes 8 0 cs
  simp only [readIpv6] at h
  generalize readGroups 8 0 cs = groups at h hcs
  split at h
  · obtain ⟨_, -, ⟨⟩⟩ := Option.map_eq_some_iff.1 h
    exact ⟨head, hcs, by omega, hchars⟩
  split at h
  · cases h
  -- the tail around `::`
  have htail : Takes 52 fun cs =>
      let tail := readGroups (7 - groups.1.length / 2) 0 cs
      let zeros := List.replicate (16 - groups.1.length - tail.1.length) 0
      (ipv6OfOctets (groups.1 ++ zeros ++ tail.1)).map fun ip => (ip, tail.2.2) := by
    intro cs ip rest h
    obtain ⟨tail, hcs, hlen, hchars⟩ := readGroups_takes (7 - groups.1.length / 2) 0 cs
    obtain ⟨_, -, ⟨⟩⟩ := Option.map_eq_some_iff.1 h
    exact ⟨tail, hcs, by omega, hchars⟩
  have hcolon : Takes 1 (readChar ':') := takes_readChar isAddressChar_colon
  obtain ⟨tail, hrest, hlen', hchars'⟩ :=
    (hcolon.bind fun _ => hcolon.bind fun _ => htail) groups.2.2 ip rest h
  refine ⟨head ++ tail, by rw [List.append_assoc, ← hrest, hcs], ?_,
    List.forall_mem_append.2 ⟨hchars, hchars'⟩⟩
  rw [List.length_append]
  omega

theorem takes_readIpAddr : Takes 111 readIpAddr := by
  intro cs ip rest h
  unfold readIpAddr at h
  split at h
  next ip rest' hread =>
    cases h
    exact takes_readIpv4.mono (by omega) cs _ _ hread
  · obtain ⟨⟨ip, rest'⟩, hread, ⟨⟩⟩ := Option.map_eq_some_iff.1 h
    exact takes_readIpv6 cs _ _ hread

end Takes

variable {host : String}

/-- The text of an address is short and has only its characters. -/
theorem of_parse_isSome (h : (IpAddr.parse host).isSome = true) :
    host.toList ≠ [] ∧ host.toList.length ≤ 111 ∧ ∀ c ∈ host.toList, IsAddressChar c := by
  obtain ⟨ip, hip⟩ := Option.isSome_iff_exists.1 h
  refine ⟨fun hnil => ?_, ?_⟩
  · rw [String.toList_inj.1 (hnil.trans String.toList_empty.symm)] at hip
    cases hip
  unfold IpAddr.parse whole at hip
  split at hip
  next ip' hread =>
    obtain ⟨taken, hhost, hlen, hchars⟩ := takes_readIpAddr _ _ _ hread
    rw [List.append_nil] at hhost
    rw [hhost]
    exact ⟨hlen, hchars⟩
  · cases hip

/-! ## Hosts that are accepted -/

def IsLabelChar (c : Char) : Prop := c.isAlphanum = true ∨ c = '-' ∨ c = '_'

/-- What a stored remote host is: an address without brackets, or a host name. -/
def RemoteHost (host : String) : Prop :=
  (IpAddr.parse host).isSome = true ∨
    IpAddr.parse host = none ∧ host ≠ "" ∧ byteLen host ≤ 253 ∧
      ∀ label ∈ splitChar '.' host, validateHostLabel label = .ok ()

def IsHostChar (c : Char) : Prop :=
  c.toNat < 128 ∧ isWhitespace c = false ∧ c ≠ '[' ∧ c ≠ ']'

theorem isHostChar_of_toNat {c : Char} (hlow : 32 < c.toNat) (hhigh : c.toNat < 128)
    (hopen : c.toNat ≠ 91) (hclose : c.toNat ≠ 93) : IsHostChar c := by
  refine ⟨hhigh, ?_, ?_, ?_⟩
  · simp only [isWhitespace, Bool.or_eq_false_iff, Bool.and_eq_false_iff, decide_eq_false_iff_not,
      beq_eq_false_iff_ne]
    omega
  · exact fun h => hopen (by rw [h]; rfl)
  · exact fun h => hclose (by rw [h]; rfl)

theorem IsAddressChar.isHostChar {c : Char} (h : IsAddressChar c) : IsHostChar c := by
  rcases h with hdigit | rfl | rfl
  · obtain ⟨d, hd⟩ := Option.isSome_iff_exists.1 hdigit
    have hrange : 48 ≤ c.toNat ∧ c.toNat ≤ 57 ∨ 97 ≤ c.toNat ∧ c.toNat ≤ 102 ∨
        65 ≤ c.toNat ∧ c.toNat ≤ 70 := by
      obtain ⟨hvalue, hlt⟩ := Option.filter_eq_some_iff.1 hd
      simp only [decide_eq_true_eq] at hlt
      split at hvalue
      next h => simp at h; omega
      split at hvalue
      next h =>
        have := Option.some.inj hvalue
        simp at h
        omega
      split at hvalue
      next h =>
        have := Option.some.inj hvalue
        simp at h
        omega
      · cases hvalue
    exact isHostChar_of_toNat (by omega) (by omega) (by omega) (by omega)
  iterate 2 · exact isHostChar_of_toNat (by decide) (by decide) (by decide) (by decide)

theorem IsLabelChar.isHostChar {c : Char} (h : IsLabelChar c) : IsHostChar c := by
  rcases h with halnum | rfl | rfl
  · have hrange : 65 ≤ c.toNat ∧ c.toNat ≤ 90 ∨ 97 ≤ c.toNat ∧ c.toNat ≤ 122 ∨
        48 ≤ c.toNat ∧ c.toNat ≤ 57 := by
      rcases Bool.or_eq_true_iff.1 halnum with halpha | hdigit
      · rcases Bool.or_eq_true_iff.1 halpha with hupper | hlower
        · exact .inl (of_decide_eq_true hupper)
        · obtain ⟨hlow, hhigh⟩ := Bool.and_eq_true_iff.1 hlower
          exact .inr (.inl ⟨of_decide_eq_true hlow, of_decide_eq_true hhigh⟩)
      · obtain ⟨hlow, hhigh⟩ := Bool.and_eq_true_iff.1 hdigit
        exact .inr (.inr ⟨of_decide_eq_true hlow, of_decide_eq_true hhigh⟩)
    exact isHostChar_of_toNat (by omega) (by omega) (by omega) (by omega)
  iterate 2 · exact isHostChar_of_toNat (by decide) (by decide) (by decide) (by decide)

theorem isLabelChar_of_validateHostLabel {label : String}
    (h : validateHostLabel label = .ok ()) : ∀ c ∈ label.toList, IsLabelChar c := by
  unfold validateHostLabel at h
  split at h
  · cases h
  split at h
  · cases h
  split at h
  · cases h
  split at h
  · cases h
  next hchars =>
  intro c hc
  rw [Bool.not_eq_true, Bool.not_eq_false'] at hchars
  have hok := List.all_eq_true.1 hchars c hc
  simp only [Bool.or_eq_true, beq_iff_eq, or_assoc] at hok
  exact hok

/-- A host name has no whitespace and no bracket. -/
theorem isHostChar_of_labels (h : ∀ label ∈ splitChar '.' host, validateHostLabel label = .ok ()) :
    ∀ c ∈ host.toList, IsHostChar c := by
  intro c hc
  have hpiece : c = '.' ∨ ∃ label ∈ splitChar '.' host, c ∈ label.toList := mem_splitChar hc
  rcases hpiece with rfl | ⟨label, hlabel, hc⟩
  · exact isAddressChar_dot.isHostChar
  · exact (isLabelChar_of_validateHostLabel (h label hlabel) c hc).isHostChar

/-- A host without a bracket is tried as it is. -/
theorem unbracketed_eq_self (h : ∀ c ∈ host.toList, IsHostChar c) :
    ((stripPrefix "[" host).bind (stripSuffix "]")).getD host = host := by
  have hnone : stripPrefix "[" host = none := by
    refine stripPrefix_bracket_eq_none_iff.2 fun hhead => ?_
    exact (h _ (List.mem_of_head? hhead)).2.2.1 rfl
  rw [hnone]
  rfl

/-- Neither kind of host has whitespace or a bracket. -/
theorem RemoteHost.isHostChar (h : RemoteHost host) : ∀ c ∈ host.toList, IsHostChar c := by
  intro c hc
  rcases h with hliteral | ⟨-, -, -, hlabels⟩
  · exact ((of_parse_isSome hliteral).2.2 c hc).isHostChar
  · exact isHostChar_of_labels hlabels c hc

theorem RemoteHost.ne_empty (h : RemoteHost host) : host ≠ "" := by
  rintro rfl
  rcases h with hliteral | ⟨-, hne, -, -⟩
  · cases hliteral
  · exact hne rfl

/-- What is accepted is an address or a host name. -/
theorem remoteHost_of_validate {input : String} (h : validateRemoteHost input = .ok host) :
    RemoteHost host := by
  unfold validateRemoteHost at h
  dsimp only at h
  generalize Text.trim input = trimmed at h
  split at h
  · cases h
  next hne =>
  split at h
  next hliteral =>
    cases h
    exact .inl hliteral
  next hbare =>
  split at h
  · cases h
  next hlen =>
  obtain ⟨_, hlabels, h⟩ := bind_eq_ok.1 h
  cases h
  have hlabels := forM_eq_ok_iff.1 hlabels
  -- a name has no bracket, so it was tried as an address as it is
  rw [unbracketed_eq_self (isHostChar_of_labels hlabels), Bool.not_eq_true,
    Option.isSome_eq_false_iff, Option.isNone_iff_eq_none] at hbare
  exact .inr ⟨hbare, hne, by omega, hlabels⟩

/-- Such a host is accepted as it is. -/
theorem RemoteHost.validate (h : RemoteHost host) : validateRemoteHost host = .ok host := by
  have htrim : Text.trim host = host := trim_eq_self fun c hc => (h.isHostChar c hc).2.1
  unfold validateRemoteHost
  simp only [htrim, unbracketed_eq_self h.isHostChar, if_neg h.ne_empty]
  rcases h with hliteral | ⟨hnone, -, hlen, hlabels⟩
  · rw [if_pos hliteral]
  · rw [hnone, if_neg (by simp), if_neg (by omega), forM_eq_ok_iff.2 hlabels]
    rfl

/-- Such a host fits into a request header. -/
theorem RemoteHost.fits (h : RemoteHost host) : (Reader.utf8 host).length < 256 := by
  have hutf8 : (Reader.utf8 host).length = byteLen host := by
    simp [Reader.utf8, byteLen]
  rw [hutf8]
  rcases h with hliteral | ⟨-, -, hlen, -⟩
  · obtain ⟨-, hlen, hchars⟩ := of_parse_isSome hliteral
    rw [byteLen_of_ascii fun c hc => (hchars c hc).isHostChar.1]
    omega
  · omega

/-- The authority it is shown in is split into it and its port. -/
theorem RemoteHost.authorityOf (h : RemoteHost host) {port : UInt16} (hport : port ≠ 0)
    (defaultPort : Option UInt16) :
    AuthorityOf (formatHostPort host port) defaultPort host port := by
  have hdigits : PortText (toString port.toNat) port := ⟨isDecimal_toString _, hport⟩
  unfold formatHostPort
  split
  · refine ⟨"[" ++ host ++ "]", ⟨h.ne_empty, .inr ⟨rfl, fun hc => ?_⟩⟩, .inl ⟨_, ?_, hdigits⟩⟩
    · exact (h.isHostChar _ hc).2.2.2 rfl
    · apply String.toList_inj.1
      simp
  next hcolon =>
    refine ⟨host, ⟨h.ne_empty, .inl ⟨rfl, by simpa [containsChar] using hcolon, fun hhead => ?_⟩⟩,
      .inl ⟨_, rfl, hdigits⟩⟩
    exact (h.isHostChar _ (List.mem_of_head? hhead)).2.2.1 rfl

/-- A routed set decides about it as about the target of the front-end. -/
theorem RemoteHost.allows (h : RemoteHost host) (port : UInt16) (set : RoutedSet) :
    set.allows (.domain host port) = set.allows (hostToTarget host port) := by
  have hparse : RoutedSet.parseIpLiteral host = IpAddr.parse host :=
    congrArg IpAddr.parse (unbracketed_eq_self h.isHostChar)
  unfold hostToTarget
  split
  next ip hip =>
    have hallows : set.allowsHost host = set.allowsIp ip :=
      allowsHost_of_some (hparse.trans hip)
    cases ip <;> exact hallows
  · rfl

/-- **A host that is accepted is what every function takes it for**: it is accepted again as it
is, it can be requested, the authority it is shown in is split into it and its port, and every
routed set decides about it as about the target of the HTTP front-end. -/
theorem remote_host_round_trips {input host : String} (h : validateRemoteHost input = .ok host)
    {port : UInt16} (hport : port ≠ 0) :
    validateRemoteHost host = .ok host ∧
      (∃ bytes, writeRequest (.domain host port) = .ok bytes) ∧
      (∀ defaultPort,
        splitAuthority (formatHostPort host port) defaultPort = some (host, port)) ∧
      ∀ set : RoutedSet, set.allows (.domain host port) = set.allows (hostToTarget host port) := by
  have hhost := remoteHost_of_validate h
  exact ⟨hhost.validate, ⟨_, writeRequest_eq_ok_iff.2 ⟨hhost.fits, rfl⟩⟩,
    fun defaultPort => splitAuthority_eq_some_iff.2 (.inl (hhost.authorityOf hport defaultPort)),
    hhost.allows port⟩

theorem remote_host_round_trips_instance :
    splitAuthority (formatHostPort "2001:db8::7" 443) none = some ("2001:db8::7", 443) ∧
      validateRemoteHost "2001:db8::7" = .ok "2001:db8::7" := by
  have haccepted : validateRemoteHost " [2001:db8::7] " = .ok "2001:db8::7" := by decide +kernel
  have hport : (443 : UInt16) ≠ 0 := by decide
  obtain ⟨hagain, -, hsplit, -⟩ := remote_host_round_trips haccepted hport
  exact ⟨hsplit none, hagain⟩

end Flextunnel.Analysis
