import Mathlib.Algebra.Group.Nat.Defs
import Mathlib.Data.List.Basic

/-!
# Addresses

IP and socket addresses, the parser of the standard library for their text form, and
networks. An address carries the length of its octets, so a malformed one cannot be
built.

The parser follows `core::net::parser`: it reads a longest run of digits, refuses a
leading zero in an IPv4 group, accepts an embedded IPv4 tail in an IPv6 address and one
`::` of at least one group. `IpAddr::parse` is `IpAddr::from_str`, and
`SocketAddr::parse` is `SocketAddr::from_str`.

A path of the source begins with its crate: `core/blocklist.rs` is `src/blocklist.rs` of
`flextunnel-core`, and so for `desktop`, `cli` and `ffi`.
-/

set_option autoImplicit false

namespace Flextunnel.Model

structure Ipv4Addr where
  octets : List UInt8
  length_octets : octets.length = 4
deriving DecidableEq, Repr

structure Ipv6Addr where
  octets : List UInt8
  length_octets : octets.length = 16
deriving DecidableEq, Repr

/-- `Ipv4Addr::from([u8; 4])`. -/
def Ipv4Addr.ofOctets (octets : { o : List UInt8 // o.length = 4 }) : Ipv4Addr :=
  ⟨octets.1, octets.2⟩

/-- `Ipv6Addr::from([u8; 16])`. -/
def Ipv6Addr.ofOctets (octets : { o : List UInt8 // o.length = 16 }) : Ipv6Addr :=
  ⟨octets.1, octets.2⟩

inductive IpAddr where
  | v4 (ip : Ipv4Addr)
  | v6 (ip : Ipv6Addr)
deriving DecidableEq, Repr

inductive SocketAddr where
  | v4 (ip : Ipv4Addr) (port : UInt16)
  | v6 (ip : Ipv6Addr) (port : UInt16) (flowinfo scopeId : UInt32)
deriving DecidableEq, Repr

def SocketAddr.ip : SocketAddr → IpAddr
  | .v4 ip _ => .v4 ip
  | .v6 ip _ _ _ => .v6 ip

def SocketAddr.port : SocketAddr → UInt16
  | .v4 _ port => port
  | .v6 _ port _ _ => port

/-- `SocketAddr::new`: an IPv6 address gets flow label and scope zero. -/
def SocketAddr.new (ip : IpAddr) (port : UInt16) : SocketAddr :=
  match ip with
  | .v4 ip => .v4 ip port
  | .v6 ip => .v6 ip port 0 0

def Ipv4Addr.localhost : Ipv4Addr := ⟨[127, 0, 0, 1], rfl⟩

def Ipv6Addr.localhost : Ipv6Addr := ⟨[0, 0, 0, 0, 0, 0, 0, 0, 0, 0, 0, 0, 0, 0, 0, 1], rfl⟩

/-- `IpAddr::is_loopback`. -/
def IpAddr.isLoopback : IpAddr → Bool
  | .v4 ip => ip.octets.head? == some 127
  | .v6 ip => ip == .localhost

/-- A tunnel request's target: a literal address, or a host name resolved by the server.
SOURCE: core/proxy/signaling.rs:295-300 -/
inductive Target where
  | ip (addr : SocketAddr)
  | domain (host : String) (port : UInt16)
deriving DecidableEq, Repr

/-! ## The text form -/

namespace Parse

abbrev Reader (α : Type) := List Char → Option (α × List Char)

/-- `char::to_digit`. -/
def toDigit (radix : Nat) (c : Char) : Option Nat :=
  let n := c.toNat
  let d :=
    if 48 ≤ n && n ≤ 57 then some (n - 48)
    else if 97 ≤ n && n ≤ 122 then some (n - 87)
    else if 65 ≤ n && n ≤ 90 then some (n - 55)
    else none
  d.filter (· < radix)

/-- `read_number`: the longest run of digits, of at most `maxDigits` if that is given,
denoting a number below `bound`. -/
def readNumber (radix : Nat) (maxDigits : Option Nat) (allowZeroPrefix : Bool) (bound : Nat) :
    Reader Nat := fun cs =>
  let isDigit := fun c => (toDigit radix c).isSome
  let ds := cs.takeWhile isDigit
  let value := ds.foldl (fun acc c => acc * radix + (toDigit radix c).getD 0) 0
  if ds.isEmpty || maxDigits.any (· < ds.length) then none
  else if !allowZeroPrefix && ds.head? == some '0' && 1 < ds.length then none
  else if value < bound then some (value, cs.dropWhile isDigit)
  else none

/-- `read_given_char`. -/
def readChar (c : Char) : Reader Unit
  | d :: cs => if d = c then some ((), cs) else none
  | [] => none

/-- `read_separator`: the separator is expected before every item but the first. -/
def readSeparator {α : Type} (sep : Char) (index : Nat) (inner : Reader α) : Reader α := fun cs =>
  if index = 0 then inner cs
  else (readChar sep cs).bind fun r => inner r.2

def readOctet : Reader Nat := readNumber 10 (some 3) false 256

/-- `read_ipv4_addr`. -/
def readIpv4 : Reader Ipv4Addr := fun cs => do
  let (a, cs) ← readSeparator '.' 0 readOctet cs
  let (b, cs) ← readSeparator '.' 1 readOctet cs
  let (c, cs) ← readSeparator '.' 2 readOctet cs
  let (d, cs) ← readSeparator '.' 3 readOctet cs
  return (⟨[UInt8.ofNat a, UInt8.ofNat b, UInt8.ofNat c, UInt8.ofNat d], rfl⟩, cs)

/-- `read_groups` with `remaining` groups left, the next one at `index`: the octets read,
whether they end in an embedded IPv4 address, and the text left. -/
def readGroups : (remaining index : Nat) → List Char → List UInt8 × Bool × List Char
  | 0, _, cs => ([], false, cs)
  | remaining + 1, index, cs =>
    -- an embedded IPv4 address needs at least two groups
    match if 1 ≤ remaining then readSeparator ':' index readIpv4 cs else none with
    | some (v4, rest) => (v4.octets, true, rest)
    | none =>
      match readSeparator ':' index (readNumber 16 (some 4) true 65536) cs with
      | some (g, rest) =>
        let (octets, embedded, rest) := readGroups remaining (index + 1) rest
        (UInt8.ofNat (g / 256) :: UInt8.ofNat (g % 256) :: octets, embedded, rest)
      | none => ([], false, cs)

def ipv6OfOctets (octets : List UInt8) : Option Ipv6Addr :=
  if h : octets.length = 16 then some ⟨octets, h⟩ else none

/-- `read_ipv6_addr`: eight groups, or a head and a tail around `::`. -/
def readIpv6 : Reader Ipv6Addr := fun cs =>
  let (head, embedded, cs) := readGroups 8 0 cs
  if head.length = 16 then (ipv6OfOctets head).map fun ip => (ip, cs)
  else if embedded then none
  else do
    let (_, cs) ← readChar ':' cs
    let (_, cs) ← readChar ':' cs
    let (tail, _, cs) := readGroups (7 - head.length / 2) 0 cs
    let zeros := List.replicate (16 - head.length - tail.length) 0
    (ipv6OfOctets (head ++ zeros ++ tail)).map fun ip => (ip, cs)

/-- `read_ip_addr`. -/
def readIpAddr : Reader IpAddr := fun cs =>
  match readIpv4 cs with
  | some (ip, rest) => some (.v4 ip, rest)
  | none => (readIpv6 cs).map fun r => (.v6 r.1, r.2)

/-- `read_port`. -/
def readPort : Reader UInt16 := fun cs => do
  let (_, cs) ← readChar ':' cs
  let (port, cs) ← readNumber 10 none true 65536 cs
  return (UInt16.ofNat port, cs)

/-- `read_socket_addr`. -/
def readSocketAddr : Reader SocketAddr := fun cs =>
  match (do let (ip, cs) ← readIpv4 cs
            let (port, cs) ← readPort cs
            return (SocketAddr.v4 ip port, cs)) with
  | some r => some r
  | none => do
    let (_, cs) ← readChar '[' cs
    let (ip, cs) ← readIpv6 cs
    let (scopeId, cs) :=
      match (do let (_, cs) ← readChar '%' cs
                readNumber 10 none true 4294967296 cs) with
      | some r => r
      | none => (0, cs)
    let (_, cs) ← readChar ']' cs
    let (port, cs) ← readPort cs
    return (SocketAddr.v6 ip port 0 (UInt32.ofNat scopeId), cs)

/-- `read_with`: the whole text has to be read. -/
def whole {α : Type} (r : Reader α) (s : String) : Option α :=
  match r s.toList with
  | some (a, []) => some a
  | _ => none

end Parse

/-- `IpAddr::from_str`. -/
def IpAddr.parse (s : String) : Option IpAddr := Parse.whole Parse.readIpAddr s

/-- `SocketAddr::from_str`. -/
def SocketAddr.parse (s : String) : Option SocketAddr := Parse.whole Parse.readSocketAddr s

/-! ## Networks -/

def IpAddr.octets : IpAddr → List UInt8
  | .v4 ip => ip.octets
  | .v6 ip => ip.octets

def maskOctets (n : Nat) (octets : List UInt8) : List UInt8 :=
  octets.mapIdx fun i o =>
    let cut := 2 ^ (8 - min 8 (n - 8 * i))
    UInt8.ofNat (o.toNat / cut * cut)

theorem length_maskOctets (n : Nat) (octets : List UInt8) :
    (maskOctets n octets).length = octets.length := by
  simp [maskOctets]

/-- The address with all but its first `n` bits cleared. -/
def IpAddr.masked (n : Nat) : IpAddr → IpAddr
  | .v4 ip => .v4 ⟨maskOctets n ip.octets, by simp [length_maskOctets, ip.length_octets]⟩
  | .v6 ip => .v6 ⟨maskOctets n ip.octets, by simp [length_maskOctets, ip.length_octets]⟩

/-- A network of the crate `ipnetwork`: the address and the length it was made with, the two
functions that are called on it, and what the crate says of them. `network` is the address with
its host part cleared, and a network contains the addresses of its family with which it agrees
up to its length. -/
structure IpNetwork where
  ip : IpAddr
  prefixLen : Nat
  network : IpAddr
  contains : IpAddr → Bool
  network_eq : network = ip.masked prefixLen
  contains_iff : ∀ a, contains a = true ↔ a.masked prefixLen = ip.masked prefixLen

theorem IpNetwork.eq_iff {a b : IpNetwork} :
    a = b ↔ a.ip = b.ip ∧ a.prefixLen = b.prefixLen := by
  refine ⟨by rintro rfl; exact ⟨rfl, rfl⟩, fun ⟨hip, hlen⟩ => ?_⟩
  obtain ⟨ip, n, network, contains, rfl, hcontains⟩ := a
  obtain ⟨_, _, network', contains', rfl, hcontains'⟩ := b
  obtain ⟨rfl, rfl⟩ := And.intro hip hlen
  have hsame : contains = contains' :=
    funext fun a => Bool.eq_iff_iff.2 ((hcontains a).trans (hcontains' a).symm)
  rw [IpNetwork.mk.injEq]
  exact ⟨rfl, rfl, rfl, hsame⟩

instance : DecidableEq IpNetwork := fun _ _ => decidable_of_iff _ IpNetwork.eq_iff.symm

instance : Repr IpNetwork := ⟨fun net => reprPrec (net.ip, net.prefixLen)⟩

/-- How `ipnetwork` makes networks: `IpNetwork::from_str`, and `IpNetwork::from(IpAddr)` for the
network of one host. -/
structure IpNetworkCrate where
  parse : String → Option IpNetwork
  ofIp : IpAddr → IpNetwork
  ofIp_ip : ∀ ip, (ofIp ip).ip = ip
  ofIp_prefixLen : ∀ ip, (ofIp ip).prefixLen = 8 * ip.octets.length

/-- A network, computed, for the runs that are evaluated. -/
def IpNetwork.of (ip : IpAddr) (n : Nat) : IpNetwork where
  ip
  prefixLen := n
  network := ip.masked n
  contains a := a.masked n == ip.masked n
  network_eq := rfl
  contains_iff _ := beq_iff_eq

def tenNetwork : IpNetwork := .of (.v4 ⟨[10, 0, 0, 0], rfl⟩) 8

/-- The crate with any parser, likewise. -/
def IpNetworkCrate.parsing (parse : String → Option IpNetwork) : IpNetworkCrate where
  parse
  ofIp ip := .of ip (8 * ip.octets.length)
  ofIp_ip _ := rfl
  ofIp_prefixLen _ := rfl

end Flextunnel.Model
