import Flextunnel.Model.Client
import Flextunnel.Model.Streams
import Flextunnel.Analysis.RoutingRules

/-!
# Letter case

Two requests whose hosts differ only in the case of ASCII letters are treated alike, by the
server at every stage and by the client. Most matchers compare lowercased texts. The ones that
read a literal address do not, so the work is in the readers.
-/

set_option autoImplicit false

namespace Flextunnel.Analysis

open Lib Model

def SameLetters (a b : String) : Prop :=
  Text.toAsciiLowercase a = Text.toAsciiLowercase b

instance (a b : String) : Decidable (SameLetters a b) :=
  inferInstanceAs (Decidable (_ = _))

/-! ## Characters -/

theorem toNat_toLower (c : Char) :
    c.toLower.toNat = if 65 ≤ c.toNat ∧ c.toNat ≤ 90 then c.toNat + 32 else c.toNat := by
  have hupper : (c.val ≥ 'A'.val ∧ c.val ≤ 'Z'.val) ↔ 65 ≤ c.toNat ∧ c.toNat ≤ 90 := by
    rw [ge_iff_le, UInt32.le_iff_toNat_le, UInt32.le_iff_toNat_le]
    rfl
  unfold Char.toLower
  by_cases h : 65 ≤ c.toNat ∧ c.toNat ≤ 90
  · rw [dif_pos (hupper.2 h), if_pos h]
    show (c.val + ('a'.val - 'A'.val)).toNat = c.toNat + 32
    rw [UInt32.toNat_add]
    show (c.toNat + 32) % 4294967296 = c.toNat + 32
    omega
  · rw [dif_neg (mt hupper.1 h), if_neg h]

theorem toLower_toLower (c : Char) : c.toLower.toLower = c.toLower := by
  apply Char.toNat_inj.1
  rw [toNat_toLower c.toLower, toNat_toLower c]
  split_ifs <;> omega

theorem toLower_eq_iff {c d : Char} (hd : ¬ (65 ≤ d.toNat ∧ d.toNat ≤ 90))
    (hd' : ¬ (97 ≤ d.toNat ∧ d.toNat ≤ 122)) : c.toLower = d ↔ c = d := by
  rw [← Char.toNat_inj, ← Char.toNat_inj, toNat_toLower]
  split <;> omega

/-- A digit has its value in either case. -/
theorem toDigit_toLower (radix : Nat) (c : Char) :
    Parse.toDigit radix c.toLower = Parse.toDigit radix c := by
  unfold Parse.toDigit
  rw [toNat_toLower]
  by_cases h : 65 ≤ c.toNat ∧ c.toNat ≤ 90
  · have hlower : ¬ c.toNat + 32 ≤ 57 := by omega
    have hdigit : ¬ c.toNat ≤ 57 := by omega
    have hletter : ¬ 97 ≤ c.toNat := by omega
    have hvalue : c.toNat + 32 - 87 = c.toNat - 55 := by omega
    have hlow : 97 ≤ c.toNat + 32 ∧ c.toNat + 32 ≤ 122 := by omega
    simp [h, hlower, hdigit, hletter, hvalue, hlow]
  · rw [if_neg h]

/-! ## Readers -/

section Readers

open Parse

variable {α β : Type}

/-- The reader does not tell a letter from its lower case. -/
def CaseBlind (r : Reader α) : Prop :=
  ∀ cs, r (cs.map Char.toLower) = (r cs).map fun p => (p.1, p.2.map Char.toLower)

/-- Two readers in a row are as blind as both of them. -/
theorem CaseBlind.bind {r : Reader α} {k : α → Reader β} (hr : CaseBlind r)
    (hk : ∀ a, CaseBlind (k a)) : CaseBlind fun cs => (r cs).bind fun p => k p.1 p.2 := by
  intro cs
  simp only [hr cs]
  cases r cs with
  | none => rfl
  | some p => exact hk p.1 p.2

theorem CaseBlind.pure (a : α) : CaseBlind fun cs => some (a, cs) := fun _ => rfl

/-- Numbers are read alike in either case. -/
theorem caseBlind_readNumber (radix : Nat) (maxDigits : Option Nat) (allowZeroPrefix : Bool)
    (bound : Nat) : CaseBlind (readNumber radix maxDigits allowZeroPrefix bound) := by
  intro cs
  have hdigit : (fun c => (toDigit radix c).isSome) ∘ Char.toLower =
      fun c => (toDigit radix c).isSome := by
    funext c
    simp [toDigit_toLower]
  have hzero (ds : List Char) : ((ds.map Char.toLower).head? == some '0') =
      (ds.head? == some '0') := by
    cases ds with
    | nil => rfl
    | cons d ds =>
      have hd : d.toLower = '0' ↔ d = '0' := toLower_eq_iff (by decide) (by decide)
      rw [Bool.eq_iff_iff]
      simp [hd]
  simp only [readNumber, List.takeWhile_map, List.dropWhile_map, hdigit, hzero, List.foldl_map,
    toDigit_toLower, List.isEmpty_map, List.length_map]
  split
  · rfl
  · split
    · rfl
    · split <;> rfl

theorem caseBlind_readChar {c : Char} (hc : ¬ (65 ≤ c.toNat ∧ c.toNat ≤ 90))
    (hc' : ¬ (97 ≤ c.toNat ∧ c.toNat ≤ 122)) : CaseBlind (readChar c) := by
  intro cs
  cases cs with
  | nil => rfl
  | cons d cs =>
    simp only [List.map_cons, readChar, toLower_eq_iff hc hc']
    split <;> rfl

theorem caseBlind_readSeparator {sep : Char} {inner : Reader α} (index : Nat)
    (hsep : CaseBlind (readChar sep)) (hinner : CaseBlind inner) :
    CaseBlind (readSeparator sep index inner) := by
  intro cs
  unfold readSeparator
  split
  · exact hinner cs
  · exact hsep.bind (fun _ => hinner) cs

theorem caseBlind_readIpv4 : CaseBlind readIpv4 := by
  have hdot : CaseBlind (readChar '.') := caseBlind_readChar (by decide) (by decide)
  have hgroup (index : Nat) : CaseBlind (readSeparator '.' index readOctet) :=
    caseBlind_readSeparator index hdot (caseBlind_readNumber 10 (some 3) false 256)
  exact (hgroup 0).bind fun a => (hgroup 1).bind fun b => (hgroup 2).bind fun c =>
    (hgroup 3).bind fun d =>
      .pure (⟨[UInt8.ofNat a, UInt8.ofNat b, UInt8.ofNat c, UInt8.ofNat d], rfl⟩ : Ipv4Addr)

theorem caseBlind_colon : CaseBlind (readChar ':') :=
  caseBlind_readChar (by decide) (by decide)

/-- Groups are read alike in either case. -/
theorem readGroups_toLower (remaining index : Nat) (cs : List Char) :
    readGroups remaining index (cs.map Char.toLower) =
      ((readGroups remaining index cs).1, (readGroups remaining index cs).2.1,
        (readGroups remaining index cs).2.2.map Char.toLower) := by
  induction remaining generalizing index cs with
  | zero => rfl
  | succ remaining ih =>
    have hembedded := caseBlind_readSeparator index caseBlind_colon caseBlind_readIpv4 cs
    have hgroup := caseBlind_readSeparator index caseBlind_colon
      (caseBlind_readNumber 16 (some 4) true 65536) cs
    have hoption : (if 1 ≤ remaining then readSeparator ':' index readIpv4 (cs.map Char.toLower)
        else none) =
        (if 1 ≤ remaining then readSeparator ':' index readIpv4 cs else none).map
          fun p => (p.1, p.2.map Char.toLower) := by
      split
      · exact hembedded
      · rfl
    simp only [readGroups, hoption, hgroup]
    cases if 1 ≤ remaining then readSeparator ':' index readIpv4 cs else none with
    | some v4 => rfl
    | none =>
      cases readSeparator ':' index (readNumber 16 (some 4) true 65536) cs with
      | none => rfl
      | some g =>
        simp only [Option.map_none, Option.map_some, ih (index + 1) g.2]

theorem caseBlind_readIpv6 : CaseBlind readIpv6 := by
  intro cs
  simp only [readIpv6, readGroups_toLower]
  generalize readGroups 8 0 cs = groups
  split
  · cases ipv6OfOctets groups.1 <;> rfl
  split
  · rfl
  -- the tail around `::`
  have htail : CaseBlind fun cs =>
      let tail := readGroups (7 - groups.1.length / 2) 0 cs
      let zeros := List.replicate (16 - groups.1.length - tail.1.length) 0
      (ipv6OfOctets (groups.1 ++ zeros ++ tail.1)).map fun ip => (ip, tail.2.2) := by
    intro cs
    simp only [readGroups_toLower]
    cases ipv6OfOctets _ <;> rfl
  exact caseBlind_colon.bind (fun _ => caseBlind_colon.bind fun _ => htail) groups.2.2

/-- Addresses are read alike in either case. -/
theorem caseBlind_readIpAddr : CaseBlind readIpAddr := by
  intro cs
  simp only [readIpAddr, caseBlind_readIpv4 cs, caseBlind_readIpv6 cs]
  cases readIpv4 cs with
  | some v4 => rfl
  | none => cases readIpv6 cs <;> rfl

end Readers

theorem parse_toAsciiLowercase (s : String) :
    IpAddr.parse (Text.toAsciiLowercase s) = IpAddr.parse s := by
  unfold IpAddr.parse Parse.whole Text.toAsciiLowercase
  rw [String.toList_ofList, caseBlind_readIpAddr]
  rcases Parse.readIpAddr s.toList with _ | ⟨ip, _ | ⟨c, cs⟩⟩ <;> rfl

/-! ## Texts -/

theorem SameLetters.parse {a b : String} (h : SameLetters a b) :
    IpAddr.parse a = IpAddr.parse b := by
  rw [← parse_toAsciiLowercase a, ← parse_toAsciiLowercase b, h]

theorem toAsciiLowercase_toAsciiLowercase (s : String) :
    Text.toAsciiLowercase (Text.toAsciiLowercase s) = Text.toAsciiLowercase s := by
  simp only [Text.toAsciiLowercase, String.toList_ofList, List.map_map, Function.comp_def,
    toLower_toLower]

theorem isLiteral_toAsciiLowercase {s : String} {ip : IpAddr} :
    IsLiteral (Text.toAsciiLowercase s) ip ↔ IsLiteral s ip := by
  unfold IsLiteral
  rw [parse_toAsciiLowercase]
  apply or_congr Iff.rfl
  constructor
  · rintro ⟨inner, hs, hip⟩
    have hlist : s.toList.map Char.toLower = '[' :: inner.toList ++ [']'] := by
      simpa [Text.toAsciiLowercase] using congrArg String.toList hs
    obtain ⟨opened, closing, hsplit, hopened, hclosing⟩ := List.map_eq_append_iff.1 hlist
    obtain ⟨c, mid, rfl, hc, hmid⟩ := List.map_eq_cons_iff.1 hopened
    obtain ⟨d, rfl, hd⟩ := List.map_eq_singleton_iff.1 hclosing
    obtain rfl : c = '[' := (toLower_eq_iff (by decide) (by decide)).1 hc
    obtain rfl : d = ']' := (toLower_eq_iff (by decide) (by decide)).1 hd
    refine ⟨String.ofList mid, ?_, ?_⟩
    · apply String.toList_inj.1
      simpa using hsplit
    have hlower : Text.toAsciiLowercase (String.ofList mid) = inner := by
      apply String.toList_inj.1
      simpa [Text.toAsciiLowercase] using hmid
    rw [← parse_toAsciiLowercase, hlower, hip]
  · rintro ⟨inner, rfl, hip⟩
    refine ⟨Text.toAsciiLowercase inner, ?_, ?_⟩
    · rw [Text.toAsciiLowercase_append, Text.toAsciiLowercase_append]
      rfl
    · rw [parse_toAsciiLowercase, hip]

/-- Literals are read alike in either case. -/
theorem SameLetters.parseIpLiteral {a b : String} (h : SameLetters a b) :
    RoutedSet.parseIpLiteral a = RoutedSet.parseIpLiteral b := by
  apply Option.ext
  intro ip
  rw [parseIpLiteral_eq_some_iff, parseIpLiteral_eq_some_iff, ← isLiteral_toAsciiLowercase, h,
    isLiteral_toAsciiLowercase]

/-! ## The stages of a request -/

section Stages

variable {host host' : String}

theorem SameLetters.eqIgnoreAsciiCase (h : SameLetters host host') (name : String) :
    Text.eqIgnoreAsciiCase host name = Text.eqIgnoreAsciiCase host' name := by
  rw [Bool.eq_iff_iff, Text.eqIgnoreAsciiCase_iff, Text.eqIgnoreAsciiCase_iff, h]

theorem SameLetters.isReservedHost (h : SameLetters host host') :
    isReservedHost host = isReservedHost host' := by
  unfold Model.isReservedHost isStatusHost
  rw [h.eqIgnoreAsciiCase, h]

/-- A routed set decides alike in either case. -/
theorem SameLetters.allowsHost (h : SameLetters host host') (set : RoutedSet) :
    set.allowsHost host = set.allowsHost host' := by
  unfold RoutedSet.allowsHost
  rw [h.parseIpLiteral, h]

theorem SameLetters.resolveAlias (h : SameLetters host host') (aliases : Table String) :
    resolveAlias aliases host = resolveAlias aliases host' := by
  unfold Model.resolveAlias
  rw [h]

theorem SameLetters.resolverFor (h : SameLetters host host') (f : DnsForwarder) :
    f.resolverFor host = f.resolverFor host' := by
  unfold DnsForwarder.resolverFor
  rw [h]

theorem SameLetters.loopbackPort (h : SameLetters host host') (port : UInt16) :
    loopbackPort (.domain host port) = loopbackPort (.domain host' port) := by
  simp only [Model.loopbackPort, h.eqIgnoreAsciiCase, h.parse]

end Stages

/-! ## Routes -/

/-- The resolver a target's name is looked up with, `none` for the system's or no lookup.
SOURCE: core/proxy/dial.rs:90-99 -/
def chosenResolver (forwarder : Option DnsForwarder) : Target → Option (List (IpAddr × UInt16))
  | .domain host _ => forwarder.bind fun f => f.resolverFor host
  | .ip _ => none

inductive SameTarget : Target → Target → Prop
  | ip (addr : SocketAddr) : SameTarget (.ip addr) (.ip addr)
  | domain {host host' : String} (h : SameLetters host host') (port : UInt16) :
      SameTarget (.domain host port) (.domain host' port)

theorem SameTarget.refl (t : Target) : SameTarget t t := by
  cases t with
  | ip addr => exact .ip addr
  | domain host port => exact .domain rfl port

/-- Two routes of a server that take the same branch: the same page, the same refusal, the same
bridge, or two dials with the same treatment of loopback and the same resolver. -/
inductive SameRoute {EndpointId : Type} (forwarder : Option DnsForwarder) :
    Route EndpointId → Route EndpointId → Prop
  | exit {t t' : Target} (hsame : SameTarget t t') (hloopback : loopbackPort t = loopbackPort t')
      (hresolver : chosenResolver forwarder t = chosenResolver forwarder t') :
      SameRoute forwarder (.exit t) (.exit t')
  | reserved (isStatus : Bool) : SameRoute forwarder (.reserved isStatus) (.reserved isStatus)
  | refuse (rep : Rep) : SameRoute forwarder (.refuse rep) (.refuse rep)
  | bridge (upstream : BridgeUpstream EndpointId) {t t' : Target} (hsame : SameTarget t t') :
      SameRoute forwarder (.bridge upstream t) (.bridge upstream t')

section Routes

variable {EndpointId PublicKey : Type} {host host' : String} {t t' : Target}

theorem SameLetters.bridgeFor (h : SameLetters host host')
    (server : ProxyServer EndpointId PublicKey) (port : UInt16) :
    server.bridgeFor (.domain host port) = server.bridgeFor (.domain host' port) := by
  simp only [ProxyServer.bridgeFor, RoutedSet.allows, h.allowsHost]

/-- Two spellings of a target are dialed alike. -/
theorem SameRoute.of_exit {forwarder : Option DnsForwarder} (h : SameTarget t t') :
    SameRoute forwarder (.exit t : Route EndpointId) (.exit t') := by
  cases h with
  | ip addr => exact .exit (.ip addr) rfl rfl
  | domain h port =>
    refine .exit (.domain h port) (h.loopbackPort port) ?_
    simp only [chosenResolver, h.resolverFor]

theorem sameTarget_applyAlias (h : SameLetters host host') (port : UInt16)
    (aliases : Table String) :
    SameTarget (applyAlias (.domain host port) aliases)
      (applyAlias (.domain host' port) aliases) := by
  simp only [applyAlias, h.resolveAlias aliases]
  cases resolveAlias aliases host' with
  | some mapped => exact .refl _
  | none => exact .domain h port

/-- The server routes two spellings of a host alike. -/
theorem sameRoute_of_sameLetters (server : ProxyServer EndpointId PublicKey) (fromBridge : Bool)
    (h : SameLetters host host') (port : UInt16) :
    SameRoute server.dnsForwarder (server.route fromBridge (.domain host port))
      (server.route fromBridge (.domain host' port)) := by
  have hallows : server.routedSet.allows (.domain host port) =
      server.routedSet.allows (.domain host' port) := h.allowsHost _
  have hbridge := h.bridgeFor server port
  unfold ProxyServer.route
  dsimp only
  rw [h.isReservedHost]
  split
  · unfold routeReserved isLocalhostHost isStatusHost
    rw [h.eqIgnoreAsciiCase, h.eqIgnoreAsciiCase]
    split
    · exact .of_exit (.refl _)
    · exact .reserved _
  unfold ProxyServer.routeRequested
  rw [hallows, hbridge]
  split
  · exact .refuse _
  · split
    · exact .bridge _ (.domain h port)
    · exact .of_exit (sameTarget_applyAlias h port _)

/-- **Letter case decides nothing.** For two hosts that differ in the case of ASCII letters
only, the server classifies, admits, bridges, renames and dials them alike, and the client sends
both through the tunnel or neither. -/
theorem letter_case_decides_nothing (server : ProxyServer EndpointId PublicKey) (fromBridge : Bool)
    (clientSet : RoutedSet) (h : SameLetters host host') (port : UInt16) :
    (isReservedHost host = isReservedHost host' ∧ isStatusHost host = isStatusHost host' ∧
        isLocalhostHost host = isLocalhostHost host') ∧
      server.routedSet.allows (.domain host port) = server.routedSet.allows (.domain host' port) ∧
      server.bridgeFor (.domain host port) = server.bridgeFor (.domain host' port) ∧
      resolveAlias server.hostAliases host = resolveAlias server.hostAliases host' ∧
      SameRoute server.dnsForwarder (server.route fromBridge (.domain host port))
        (server.route fromBridge (.domain host' port)) ∧
      localRoute clientSet (.domain host port) = localRoute clientSet (.domain host' port) := by
  refine ⟨⟨h.isReservedHost, h.eqIgnoreAsciiCase _, h.eqIgnoreAsciiCase _⟩, h.allowsHost _,
    h.bridgeFor server port, h.resolveAlias _,
    sameRoute_of_sameLetters server fromBridge h port, ?_⟩
  show (if !isReservedHost host && !clientSet.allowsHost host then LocalRoute.direct
    else .tunnel) = _
  rw [h.isReservedHost, h.allowsHost]
  rfl

end Routes

/-- An IPv6 literal in either case, at a server that routes no IPv6 network. -/
theorem letter_case_decides_nothing_instance :
    SameLetters "[FD00::A]" "[fd00::a]" ∧
      SameRoute none ((bridgedTo "a" "b").route false (.domain "[FD00::A]" 80))
        ((bridgedTo "a" "b").route false (.domain "[fd00::a]" 80)) := by
  have h : SameLetters "[FD00::A]" "[fd00::a]" := by decide
  obtain ⟨-, -, -, -, hroute, -⟩ :=
    letter_case_decides_nothing (bridgedTo "a" "b") false {} h 80
  exact ⟨h, hroute⟩

end Flextunnel.Analysis
