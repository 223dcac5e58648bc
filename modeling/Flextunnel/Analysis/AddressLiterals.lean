import Flextunnel.Model.Streams
import Flextunnel.Analysis.RoutingRules

/-!
# Addresses in domain form

A client may send an address as such or as a text in domain form. The first part is about the
routing decision on the spellings of an IPv4 address, the second about the addresses the dialer
attempts for a literal that the rules allow.
-/

set_option autoImplicit false

namespace Flextunnel.Analysis

open Lib Model

/-! ## Spellings -/

def decimal (o : UInt8) : List Char := Nat.toDigits 10 o.toNat

def dottedChars (a : Ipv4Addr) : List Char :=
  ['.'].intercalate (a.octets.map decimal)

def dotted (a : Ipv4Addr) : String := String.ofList (dottedChars a)

def mapped (a : Ipv4Addr) : Ipv6Addr :=
  ⟨List.replicate 10 0 ++ [255, 255] ++ a.octets, by simp [a.length_octets]⟩

def mappedDotted (a : Ipv4Addr) : String := String.ofList ("::ffff:".toList ++ dottedChars a)

def NoDigit (cs : List Char) : Prop := ∀ c ∈ cs.head?, Parse.toDigit 10 c = none

theorem noDigit_nil : NoDigit [] := by
  simp [NoDigit]

/-- The digits of an octet as `readOctet` takes them, and their value. -/
def IsOctet (ds : List Char) (n : Nat) : Prop :=
  ds.all (fun c => (Parse.toDigit 10 c).isSome) = true ∧ ds.length ≤ 3 ∧ ds ≠ [] ∧
    (ds.head? = some '0' → ds.length = 1) ∧
    ds.foldl (fun acc c => acc * 10 + (Parse.toDigit 10 c).getD 0) 0 = n

theorem isOctet_decimal (o : UInt8) : IsOctet (decimal o) o.toNat := by
  have hall : ∀ n : Fin 256, IsOctet (Nat.toDigits 10 n.1) n.1 := by
    unfold IsOctet
    decide +kernel
  exact hall ⟨o.toNat, o.toNat_lt⟩

/-- The parser reads the decimal form of an octet back. -/
theorem readOctet_decimal (o : UInt8) {rest : List Char} (hrest : NoDigit rest) :
    Parse.readOctet (decimal o ++ rest) = some (o.toNat, rest) := by
  obtain ⟨hdigits, hlen, hne, hzero, hvalue⟩ := isOctet_decimal o
  have hstop : rest.takeWhile (fun c => (Parse.toDigit 10 c).isSome) = [] ∧
      rest.dropWhile (fun c => (Parse.toDigit 10 c).isSome) = rest := by
    cases rest with
    | nil => exact ⟨rfl, rfl⟩
    | cons c rest =>
      have hc : Parse.toDigit 10 c = none := hrest c rfl
      simp [List.takeWhile, List.dropWhile, hc]
  have hall : ∀ c ∈ decimal o, (fun c => (Parse.toDigit 10 c).isSome) c = true :=
    List.all_eq_true.1 hdigits
  have htake : (decimal o ++ rest).takeWhile (fun c => (Parse.toDigit 10 c).isSome) =
      decimal o := by
    rw [List.takeWhile_append_of_pos hall, hstop.1, List.append_nil]
  have hdrop : (decimal o ++ rest).dropWhile (fun c => (Parse.toDigit 10 c).isSome) = rest := by
    rw [List.dropWhile_append_of_pos hall, hstop.2]
  have hlt := o.toNat_lt
  have hempty : (decimal o).isEmpty = false := by simpa using hne
  have hlead : ¬ ((decimal o).head? = some '0' ∧ 1 < (decimal o).length) := by
    rintro ⟨hhead, hlong⟩
    have := hzero hhead
    omega
  unfold Parse.readOctet Parse.readNumber
  simp only [htake, hdrop, hvalue, hempty]
  rw [if_neg (by simp; omega), if_neg (by simpa using hlead), if_pos (by omega)]

/-- The parser reads the dotted form of an address back. -/
theorem readIpv4_dottedChars (a : Ipv4Addr) {rest : List Char} (hrest : NoDigit rest) :
    Parse.readIpv4 (dottedChars a ++ rest) = some (a, rest) := by
  obtain ⟨octets, hlen⟩ := a
  match octets, hlen with
  | [o₁, o₂, o₃, o₄], hlen =>
    have hdot (cs : List Char) : NoDigit ('.' :: cs) := by
      intro c hc
      cases hc
      rfl
    have hchars : dottedChars ⟨[o₁, o₂, o₃, o₄], hlen⟩ ++ rest =
        decimal o₁ ++ ('.' :: (decimal o₂ ++ ('.' :: (decimal o₃ ++ ('.' ::
          (decimal o₄ ++ rest)))))) := by
      simp [dottedChars, List.intercalate]
    have hsep (i : Nat) (o : UInt8) (cs : List Char) (hcs : NoDigit cs) :
        Parse.readSeparator '.' (i + 1) Parse.readOctet ('.' :: (decimal o ++ cs)) =
          some (o.toNat, cs) := by
      simp [Parse.readSeparator, Parse.readChar, readOctet_decimal o hcs]
    have hfirst : Parse.readSeparator '.' 0 Parse.readOctet
        (decimal o₁ ++ ('.' :: (decimal o₂ ++ ('.' :: (decimal o₃ ++ ('.' ::
          (decimal o₄ ++ rest))))))) = some (o₁.toNat, _) :=
      readOctet_decimal o₁ (hdot _)
    rw [hchars]
    simp [Parse.readIpv4, hfirst, hsep 0 o₂ _ (hdot _), hsep 1 o₃ _ (hdot _), hsep 2 o₄ _ hrest]

theorem parse_dotted (a : Ipv4Addr) : IpAddr.parse (dotted a) = some (.v4 a) := by
  have hread := readIpv4_dottedChars a noDigit_nil
  rw [List.append_nil] at hread
  simp [IpAddr.parse, Parse.whole, Parse.readIpAddr, dotted, hread]

/-- The parser reads `::ffff:` with a dotted address as the mapped address. -/
theorem readIpv6_mapped (a : Ipv4Addr) :
    Parse.readIpv6 ("::ffff:".toList ++ dottedChars a) = some (mapped a, []) := by
  have hread := readIpv4_dottedChars a noDigit_nil
  rw [List.append_nil] at hread
  have hhead : Parse.readGroups 8 0 ("::ffff:".toList ++ dottedChars a) =
      ([], false, ':' :: ':' :: 'f' :: 'f' :: 'f' :: 'f' :: ':' :: dottedChars a) := rfl
  have hlast : Parse.readGroups 6 1 (':' :: dottedChars a) = (a.octets, true, []) := by
    simp [Parse.readGroups, Parse.readSeparator, Parse.readChar, hread]
  have hfour : Parse.readIpv4 ('f' :: 'f' :: 'f' :: 'f' :: ':' :: dottedChars a) = none := rfl
  have hnumber : Parse.readNumber 16 (some 4) true 65536
      ('f' :: 'f' :: 'f' :: 'f' :: ':' :: dottedChars a) = some (65535, ':' :: dottedChars a) := rfl
  have hgroup : Parse.readGroups 7 0 ('f' :: 'f' :: 'f' :: 'f' :: ':' :: dottedChars a) =
      (255 :: 255 :: a.octets, true, []) := by
    rw [Parse.readGroups]
    simp only [Parse.readSeparator, hfour, hnumber, if_true, ite_self, Nat.zero_add, hlast]
    rfl
  unfold Parse.readIpv6
  simp only [hhead]
  simp [Parse.readChar, hgroup, Parse.ipv6OfOctets, a.length_octets, mapped]

theorem parse_mappedDotted (a : Ipv4Addr) :
    IpAddr.parse (mappedDotted a) = some (.v6 (mapped a)) := by
  have htext : (mappedDotted a).toList = "::ffff:".toList ++ dottedChars a := String.toList_ofList
  have hfour : Parse.readIpv4 ("::ffff:".toList ++ dottedChars a) = none := rfl
  have hread : Parse.readIpAddr ("::ffff:".toList ++ dottedChars a) =
      some (.v6 (mapped a), []) := by
    rw [Parse.readIpAddr, hfour, readIpv6_mapped]
    rfl
  rw [IpAddr.parse, Parse.whole, htext, hread]

/-! ## The routing decision -/

/-- A target that is an address: as such, or as a literal in domain form. -/
def Names : Target → IpAddr → Prop
  | .ip addr, ip => addr.ip = ip
  | .domain host _, ip => IsLiteral host ip

variable {t : Target} {addr : SocketAddr}

/-- A target that is an address is decided by the CIDR rules. -/
theorem allows_iff_of_names {set : RoutedSet} {ip : IpAddr} (hnames : Names t ip) :
    set.allows t = true ↔ ∃ net ∈ set.cidrs, InNetwork net ip := by
  have hip : set.allowsIp ip = true ↔ ∃ net ∈ set.cidrs, InNetwork net ip := by
    simp only [RoutedSet.allowsIp, List.any_eq_true, contains_iff_inNetwork]
  cases t with
  | ip addr =>
    have haddr : addr.ip = ip := hnames
    rw [RoutedSet.allows, haddr]
    exact hip
  | domain host port =>
    have hparse := parseIpLiteral_eq_some_iff.2 hnames
    rw [RoutedSet.allows, allowsHost_of_some hparse]
    exact hip

/-- **The literals of an address are decided as the address is**, for an IPv4 address and
for the IPv6 address it is mapped to: by the CIDR rules of the address's own family, and
never by a hostname rule. -/
theorem spellings_decided_alike (set : RoutedSet) (a : Ipv4Addr) :
    (∀ t, Names t (.v4 a) → (set.allows t = true ↔ ∃ net ∈ set.cidrs, InNetwork net (.v4 a))) ∧
    (∀ t, Names t (.v6 (mapped a)) →
      (set.allows t = true ↔ ∃ net ∈ set.cidrs, InNetwork net (.v6 (mapped a)))) ∧
    (∀ t t' ip, ip = .v4 a ∨ ip = .v6 (mapped a) → Names t ip → Names t' ip →
      set.allows t = set.allows t') ∧
    (∀ port, Names (.domain (dotted a) port) (.v4 a)) ∧
    (∀ port, Names (.domain (mappedDotted a) port) (.v6 (mapped a))) := by
  refine ⟨fun t hnames => allows_iff_of_names hnames, fun t hnames => allows_iff_of_names hnames,
    ?_, fun port => .inl (parse_dotted a), fun port => .inl (parse_mappedDotted a)⟩
  intro t t' ip _ hnames hnames'
  apply Bool.eq_iff_iff.2
  rw [allows_iff_of_names hnames, allows_iff_of_names hnames']

/-- One number of an address: hexadecimal after `0x`, octal after `0`, decimal otherwise. -/
def inetNumber (cs : List Char) : Option Nat :=
  let whole := fun radix ds =>
    match Parse.readNumber radix none true 4294967296 ds with
    | some (n, []) => some n
    | _ => none
  match cs with
  | '0' :: 'x' :: ds => whole 16 ds
  | '0' :: 'X' :: ds => whole 16 ds
  | '0' :: d :: ds => whole 8 (d :: ds)
  | ds => whole 10 ds

/-- `inet_aton`: up to four numbers, the last of which fills the octets that are left. -/
def inetAton (host : String) : Option Ipv4Addr := do
  let ofWord := fun n => (⟨[UInt8.ofNat (n / 16777216), UInt8.ofNat (n / 65536),
    UInt8.ofNat (n / 256), UInt8.ofNat n], rfl⟩ : Ipv4Addr)
  let numbers ← (host.toList.splitOn '.').mapM inetNumber
  match numbers with
  | [a] => if a < 4294967296 then some (ofWord a) else none
  | [a, b] => if a < 256 ∧ b < 16777216 then some (ofWord (a * 16777216 + b)) else none
  | [a, b, c] =>
    if a < 256 ∧ b < 256 ∧ c < 65536 then some (ofWord (a * 16777216 + b * 65536 + c)) else none
  | [a, b, c, d] =>
    if a < 256 ∧ b < 256 ∧ c < 256 ∧ d < 256 then
      some (ofWord (a * 16777216 + b * 65536 + c * 256 + d))
    else none
  | _ => none

/-- **Not every spelling is decided alike.** A rule for 10.0.0.0/8 lets 10.0.0.1 through and not the
IPv6 address it is mapped to. With `*` as the only rule the literal `10.0.0.1` is refused, and two
texts that a resolver reads as the same number are let through. -/
theorem spellings_not_all_alike :
    let a : Ipv4Addr := ⟨[10, 0, 0, 1], rfl⟩
    let ten : RoutedSet := { cidrs := [tenNetwork] }
    let star : RoutedSet := { domainsAll := true }
    (ten.allows (.ip (.v4 a 80)) = true ∧ ten.allows (.domain "10.0.0.1" 80) = true ∧
      ten.allows (.ip (.v6 (mapped a) 80 0 0)) = false ∧
      ten.allows (.domain "::ffff:10.0.0.1" 80) = false) ∧
    (inetAton "10.0.0.1" = some a ∧ inetAton "10.1" = some a ∧ inetAton "0x0a000001" = some a ∧
      star.allows (.domain "10.0.0.1" 80) = false ∧ star.allows (.domain "10.1" 80) = true ∧
      star.allows (.domain "0x0a000001" 80) = true) := by
  decide

/-- 10.0.0.1 as a literal and as an address, and the mapped address in both forms. -/
theorem spellings_decided_alike_instance :
    let a : Ipv4Addr := ⟨[10, 0, 0, 1], rfl⟩
    let ten : RoutedSet := { cidrs := [tenNetwork] }
    (ten.allows (.domain "10.0.0.1" 80) = true ↔ ∃ net ∈ ten.cidrs, InNetwork net (.v4 a)) ∧
    (ten.allows (.domain "[::ffff:a00:1]" 80) = true ↔
      ∃ net ∈ ten.cidrs, InNetwork net (.v6 (mapped a))) ∧
    ten.allows (.domain "::ffff:10.0.0.1" 80) = ten.allows (.ip (.v6 (mapped a) 80 0 0)) := by
  intro a ten
  obtain ⟨hfour, hsix, hsame, -, -⟩ := spellings_decided_alike ten a
  refine ⟨hfour _ (.inl (by decide)), hsix _ (.inr ⟨"::ffff:a00:1", by decide, by decide⟩), ?_⟩
  exact hsame _ _ _ (.inr rfl) (.inl (by decide)) rfl

/-! ## Dialing a literal -/

/-- Both resolvers return a literal without asking anyone: `lookup_host` on a host and a
port tries `Ipv4Addr` and `Ipv6Addr` first, and so does the `lookup_ip` of a forward. -/
structure ReadsLiterals (net : Net) : Prop where
  lookupHost : ∀ {host : String} {port : UInt16} {ip : IpAddr}, IpAddr.parse host = some ip →
    net.lookupHost host port = .ok [.new ip port]
  lookupIp : ∀ {servers : List (IpAddr × UInt16)} {host : String} {ip : IpAddr},
    IpAddr.parse host = some ip → net.lookupIp servers host = some [ip]

/-- The address of a target that is one: as such, or as a literal without brackets. -/
def PlainLiteral : Target → SocketAddr → Prop
  | .ip own, addr => addr = own
  | .domain host port, addr => ∃ ip, IpAddr.parse host = some ip ∧ addr = .new ip port

def attempted (events : List DialEvent) : List SocketAddr :=
  events.filterMap fun
    | .connect addr => some addr
    | .lookup _ _ => none

/-- The addresses a server attempts for a target it does not hand to a bridge.
SOURCE: core/proxy/server.rs:950-952 -/
def dialedAddrs {EndpointId PublicKey : Type} (server : ProxyServer EndpointId PublicKey)
    (net : Net) (deadline : Option Nat) (t : Target) : List SocketAddr :=
  attempted (connectAndPipe net deadline (applyAlias t server.hostAliases) server.dnsForwarder).1

theorem readIpAddr_of_head {c : Char} {cs : List Char} (hten : Parse.toDigit 10 c = none)
    (hsixteen : Parse.toDigit 16 c = none) (hcolon : c ≠ ':') :
    Parse.readIpAddr (c :: cs) = none := by
  have hfour : Parse.readIpv4 (c :: cs) = none := by
    simp [Parse.readIpv4, Parse.readSeparator, Parse.readOctet, Parse.readNumber, hten]
  have hnumber : Parse.readNumber 16 (some 4) true 65536 (c :: cs) = none := by
    simp [Parse.readNumber, hsixteen]
  have hgroups : Parse.readGroups 8 0 (c :: cs) = ([], false, c :: cs) := by
    rw [Parse.readGroups]
    simp [Parse.readSeparator, hfour, hnumber]
  simp [Parse.readIpAddr, hfour, Parse.readIpv6, hgroups, Parse.readChar, hcolon]

/-- `localhost` is no address. -/
theorem parse_localhost {host : String} (h : Text.eqIgnoreAsciiCase host "localhost" = true) :
    IpAddr.parse host = none := by
  have hlower := Text.eqIgnoreAsciiCase_iff.1 h
  have hchars : host.toList.map Char.toLower = "localhost".toList := by
    have := congrArg String.toList hlower
    simpa [Text.toAsciiLowercase] using this
  cases hhost : host.toList with
  | nil => simp [hhost] at hchars
  | cons c cs =>
    rw [hhost] at hchars
    have hc : c.toLower = 'l' := (List.cons.inj hchars).1
    have hcases : c = 'l' ∨ c = 'L' := by
      unfold Char.toLower at hc
      split at hc
      · have hshift : c.val + 32 = 108 := congrArg Char.val hc
        have hval : c.val = 108 - 32 := by rw [← hshift, UInt32.add_sub_cancel]
        exact .inr (Char.ext hval)
      · exact .inl hc
    have hread : Parse.readIpAddr (c :: cs) = none := by
      rcases hcases with rfl | rfl <;> exact readIpAddr_of_head rfl rfl (by decide)
    rw [IpAddr.parse, Parse.whole, hhost, hread]

theorem loopbackPort_of_literal (hliteral : PlainLiteral t addr) :
    loopbackPort t = if addr.ip.isLoopback then some addr.port else none := by
  cases t with
  | ip own =>
    obtain rfl : addr = own := hliteral
    rfl
  | domain host port =>
    obtain ⟨ip, hparse, rfl⟩ := hliteral
    have hname : Text.eqIgnoreAsciiCase host "localhost" = false := by
      apply Bool.eq_false_iff.2
      intro hlocal
      rw [parse_localhost hlocal] at hparse
      cases hparse
    have hip : (SocketAddr.new ip port).ip = ip := by cases ip <;> rfl
    have hport : (SocketAddr.new ip port).port = port := by cases ip <;> rfl
    rw [hip, hport, loopbackPort, hname, hparse]
    cases hloop : ip.isLoopback <;> simp [Option.filter, hloop]

theorem attempted_connectAny_singleton (net : Net) (lastErr : Option IoErrorKind)
    (addr : SocketAddr) : attempted (connectAny net lastErr [addr]).1 = [addr] := by
  unfold connectAny
  split <;> rfl

/-- A literal is resolved to itself, whichever resolver is asked. -/
theorem attempted_connectResolved {net : Net} (hnet : ReadsLiterals net) {host : String}
    {port : UInt16} {ip : IpAddr} (hparse : IpAddr.parse host = some ip)
    (forwarder : Option DnsForwarder) :
    attempted (connectResolved net host port forwarder).1 = [.new ip port] := by
  have hone (addr : SocketAddr) : tryOrder [addr] = [addr] := by
    unfold tryOrder
    split <;> rfl
  unfold connectResolved
  cases hforward : forwarder.bind fun f => f.resolve net host port with
  | none =>
    dsimp only
    rw [hnet.lookupHost hparse]
    simp only [hone]
    exact attempted_connectAny_singleton ..
  | some r =>
    obtain ⟨f, -, hresolve⟩ := Option.bind_eq_some_iff.1 hforward
    obtain ⟨servers, -, rfl⟩ := Option.map_eq_some_iff.1 hresolve
    simp only [hnet.lookupIp hparse, List.map_cons, List.map_nil, hone]
    exact attempted_connectAny_singleton ..

/-- A literal outside loopback is the one address attempted. -/
theorem attempted_dialTarget {net : Net} (hnet : ReadsLiterals net) (hliteral : PlainLiteral t addr)
    (hloop : addr.ip.isLoopback = false) (forwarder : Option DnsForwarder) :
    attempted (dialTarget net t forwarder).1 = [addr] := by
  have hport := loopbackPort_of_literal hliteral
  rw [hloop] at hport
  unfold dialTarget
  rw [hport]
  cases t with
  | ip own =>
    obtain rfl : addr = own := hliteral
    rfl
  | domain host port =>
    obtain ⟨ip, hparse, rfl⟩ := hliteral
    exact attempted_connectResolved hnet hparse forwarder

theorem mem_attempted_connectAndPipe {net : Net} {deadline : Option Nat}
    {forwarder : Option DnsForwarder}
    (h : addr ∈ attempted (connectAndPipe net deadline t forwarder).1) :
    addr ∈ attempted (dialTarget net t forwarder).1 := by
  rw [connectAndPipe_events] at h
  obtain ⟨e, he, haddr⟩ := List.mem_filterMap.1 h
  exact List.mem_filterMap.2 ⟨e, Dial.mem_events_within he, haddr⟩

/-- **An allowed literal is dialed as given, or on loopback.** Outside loopback the
literal is the one address attempted, and it is allowed; a loopback literal is attempted
on 127.0.0.1 and ::1 and nowhere else. -/
theorem dialed_of_allowed_literal {EndpointId PublicKey : Type}
    {server : ProxyServer EndpointId PublicKey} {net : Net} (hnet : ReadsLiterals net)
    {t : Target} {addr : SocketAddr} (hliteral : PlainLiteral t addr)
    (hallowed : server.routedSet.allows t = true)
    (halias : applyAlias t server.hostAliases = t) :
    (addr.ip.isLoopback = false →
      dialedAddrs server net none t = [addr] ∧
        ∀ deadline, ∀ a ∈ dialedAddrs server net deadline t,
          a = addr ∧ server.routedSet.allowsIp a.ip = true) ∧
    (addr.ip.isLoopback = true →
      ∀ deadline, ∀ a ∈ dialedAddrs server net deadline t, a ∈ loopbackAddrs addr.port) := by
  have hip : server.routedSet.allowsIp addr.ip = true := by
    cases t with
    | ip own =>
      obtain rfl : addr = own := hliteral
      exact hallowed
    | domain host port =>
      obtain ⟨ip, hparse, rfl⟩ := hliteral
      have hnew : (SocketAddr.new ip port).ip = ip := by cases ip <;> rfl
      have hsome := parseIpLiteral_eq_some_iff.2 (.inl hparse)
      rw [RoutedSet.allows, allowsHost_of_some hsome] at hallowed
      rw [hnew]
      exact hallowed
  unfold dialedAddrs
  rw [halias]
  constructor
  · intro hloop
    have hdial := attempted_dialTarget hnet hliteral hloop server.dnsForwarder
    refine ⟨?_, ?_⟩
    · rw [connectAndPipe_events]
      exact hdial
    intro deadline a ha
    have hmem := mem_attempted_connectAndPipe ha
    rw [hdial] at hmem
    obtain rfl := List.mem_singleton.1 hmem
    exact ⟨rfl, hip⟩
  intro hloop deadline a ha
  have hport : loopbackPort t = some addr.port := by
    rw [loopbackPort_of_literal hliteral, hloop]
    rfl
  obtain ⟨e, he, hconnect⟩ := List.mem_filterMap.1 ha
  obtain ⟨b, hb, rfl⟩ := mem_events_connectAndPipe_loopback hport he
  cases hconnect
  exact hb

def literalNet : Net where
  connect := fun _ => .error .connectionRefused
  lookupHost := fun host port =>
    match IpAddr.parse host with
    | some ip => .ok [.new ip port]
    | none => .error .other
  lookupIp := fun _ host => (IpAddr.parse host).map fun ip => [ip]

theorem literalNet_readsLiterals : ReadsLiterals literalNet where
  lookupHost := fun hparse => by simp [literalNet, hparse]
  lookupIp := fun hparse => by simp [literalNet, hparse]

def cidrServer (cidrs : List IpNetwork) : ProxyServer String String where
  ownId := "a"
  serverInstanceNonce := 0
  authorizedKeys := []
  bridges := []
  hostAliases := ∅
  routedSet := { cidrs }
  routedDomains := []
  routedCidrs := []
  dnsForwarder := none

/-- 127.0.0.2 alone, and fd00::/8. -/
def twoNetworks : List IpNetwork :=
  [.of (.v4 ⟨[127, 0, 0, 2], rfl⟩) 32,
    .of (.v6 ⟨[253, 0, 0, 0, 0, 0, 0, 0, 0, 0, 0, 0, 0, 0, 0, 0], rfl⟩) 8]

/-- **Not every allowed literal is dialed as given.** 127.0.0.2 is allowed and dialed on two other
addresses, neither of them allowed; the bracketed literal `[fd00::1]` is allowed and not dialed,
since the dialer does not take the brackets off. -/
theorem dialed_not_as_given :
    let server := cidrServer twoNetworks
    let loopback : Target := .ip (.v4 ⟨[127, 0, 0, 2], rfl⟩ 80)
    let bracketed : Target := .domain "[fd00::1]" 80
    (server.routedSet.allows loopback = true ∧ applyAlias loopback server.hostAliases = loopback ∧
      dialedAddrs server literalNet none loopback = loopbackAddrs 80 ∧
      (∀ a ∈ loopbackAddrs 80, a.ip ≠ .v4 ⟨[127, 0, 0, 2], rfl⟩ ∧
        server.routedSet.allowsIp a.ip = false)) ∧
    (server.routedSet.allows bracketed = true ∧
      applyAlias bracketed server.hostAliases = bracketed ∧
      dialedAddrs server literalNet none bracketed = []) := by
  decide

/-- A literal outside loopback, in domain form, and a loopback address. -/
theorem dialed_of_allowed_literal_instance :
    let server := cidrServer twoNetworks
    dialedAddrs server literalNet none (.domain "fd00::1" 80) =
      [.new (.v6 ⟨[253, 0, 0, 0, 0, 0, 0, 0, 0, 0, 0, 0, 0, 0, 0, 1], rfl⟩) 80] ∧
    ∀ a ∈ dialedAddrs server literalNet none (.ip (.v4 ⟨[127, 0, 0, 2], rfl⟩ 80)),
      a ∈ loopbackAddrs 80 := by
  intro server
  have hdomain : PlainLiteral (.domain "fd00::1" 80)
      (.new (.v6 ⟨[253, 0, 0, 0, 0, 0, 0, 0, 0, 0, 0, 0, 0, 0, 0, 1], rfl⟩) 80) :=
    ⟨_, by decide, rfl⟩
  have haddr : PlainLiteral (.ip (.v4 ⟨[127, 0, 0, 2], rfl⟩ 80))
      (.v4 ⟨[127, 0, 0, 2], rfl⟩ 80) := rfl
  have hallowed : server.routedSet.allows (.domain "fd00::1" 80) = true ∧
      server.routedSet.allows (.ip (.v4 ⟨[127, 0, 0, 2], rfl⟩ 80)) = true := by decide
  constructor
  · exact ((dialed_of_allowed_literal literalNet_readsLiterals hdomain hallowed.1
      (by decide)).1 (by decide)).1
  · exact (dialed_of_allowed_literal literalNet_readsLiterals haddr hallowed.2 rfl).2
      (by decide) none

end Flextunnel.Analysis
