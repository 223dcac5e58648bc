import Flextunnel.Model.Routing
import Flextunnel.Model.Signaling

/-!
# Dialing a target

How a `Target` becomes a TCP connection, on the server for every tunneled request and on
the client for a request outside the routed set. What the network answers (connects and
name lookups) is a `Net`; a dial returns what it asked the network for, in order, and the
address it got connected to.

Unnamed source lines are of `core/proxy/dial.rs`.
-/

set_option autoImplicit false

namespace Flextunnel.Model

open Lib

structure Net where
  /-- `TcpStream::connect`. -/
  connect : SocketAddr → Except IoErrorKind Unit
  /-- `tokio::net::lookup_host`: the system's resolver. -/
  lookupHost : String → UInt16 → Except IoErrorKind (List SocketAddr)
  /-- `lookup_ip` of a resolver that asks the given servers. -/
  lookupIp : List (IpAddr × UInt16) → String → Option (List IpAddr)

/-- What a dial asks the network for; a lookup names the servers it goes to, `none` for
the system's resolver. -/
inductive DialEvent where
  | lookup (resolver : Option (List (IpAddr × UInt16))) (host : String)
  | connect (addr : SocketAddr)
deriving DecidableEq, Repr

abbrev Dial := List DialEvent × Except IoErrorKind SocketAddr

/-- SOURCE: 43-57 -/
def loopbackPort : Target → Option UInt16
  | .ip addr => if addr.ip.isLoopback then some addr.port else none
  | .domain host port =>
    if Text.eqIgnoreAsciiCase host "localhost" then some port
    else ((IpAddr.parse host).filter IpAddr.isLoopback).map fun _ => port

/-- SOURCE: 61-66 -/
def loopbackAddrs (port : UInt16) : List SocketAddr :=
  [.new (.v4 .localhost) port, .new (.v6 .localhost) port]

/-- Each address in order, with the error of the last one that failed.
SOURCE: 70-81 -/
def connectAny (net : Net) (lastErr : Option IoErrorKind) : List SocketAddr → Dial
  | [] => ([], .error (lastErr.getD .hostUnreachable))
  | addr :: addrs =>
    match net.connect addr with
    | .ok () => ([.connect addr], .ok addr)
    | .error e =>
      let rest := connectAny net (some e) addrs
      (.connect addr :: rest.1, rest.2)

/-- A name looked up through its forward, `none` when no suffix matches it.
SOURCE: core/proxy/dns_forward.rs:154-157, 172-175 -/
def DnsForwarder.resolve (net : Net) (f : DnsForwarder) (host : String) (port : UInt16) :
    Option (DialEvent × Except IoErrorKind (List SocketAddr)) :=
  (f.resolverFor host).map fun resolver =>
    (.lookup (some resolver) host,
      match net.lookupIp resolver host with
      | some ips => .ok (ips.map fun ip => .new ip port)
      | none => .error .other)

/-- The order in which the addresses of a name are tried: as they came, except that
IPv4 goes first when all of them are loopback. -/
def tryOrder (addrs : List SocketAddr) : List SocketAddr :=
  let isIpv6 : SocketAddr → Bool
    | .v4 .. => false
    | .v6 .. => true
  if addrs.all fun a => a.ip.isLoopback then
    addrs.insertionSort fun a b => isIpv6 a = true → isIpv6 b = true
  else addrs

/-- SOURCE: 90-115 -/
def connectResolved (net : Net) (host : String) (port : UInt16)
    (forwarder : Option DnsForwarder) : Dial :=
  let (event, resolved) :=
    match forwarder.bind fun f => f.resolve net host port with
    | some r => r
    | none => (.lookup none host, net.lookupHost host port)
  match resolved with
  | .error e => ([event], .error e)
  | .ok [] => ([event], .error .hostUnreachable)
  | .ok addrs =>
    let rest := connectAny net none (tryOrder addrs)
    (event :: rest.1, rest.2)

/-- SOURCE: 28-36 -/
def dialTarget (net : Net) (target : Target) (forwarder : Option DnsForwarder) : Dial :=
  match loopbackPort target with
  | some port => connectAny net none (loopbackAddrs port)
  | none =>
    match target with
    | .ip addr => ([.connect addr], (net.connect addr).map fun _ => addr)
    | .domain host port => connectResolved net host port forwarder

/-- A dial under a deadline. `deadline` is `some n` when time runs out while the request
after the first `n` is unanswered; an expired dial asks for nothing more. -/
def Dial.within (deadline : Option Nat) (dial : Dial) :
    List DialEvent × Option (Except IoErrorKind SocketAddr) :=
  match deadline with
  | some n => if n < dial.1.length then (dial.1.take (n + 1), none) else (dial.1, some dial.2)
  | none => (dial.1, some dial.2)

/-- What the exit point of a tunnel stream asks the network for, and its reply.
SOURCE: 125-157 -/
def connectAndPipe (net : Net) (deadline : Option Nat) (target : Target)
    (forwarder : Option DnsForwarder) : List DialEvent × Rep :=
  let (events, connected) := (dialTarget net target forwarder).within deadline
  match connected.getD (.error .timedOut) with
  | .ok _ => (events, .success)
  | .error e => (events, mapIoErr e)

/-! ## What a dial asks for -/

variable {net : Net} {e : DialEvent}

theorem mem_events_connectAny {lastErr : Option IoErrorKind} {addrs : List SocketAddr}
    (he : e ∈ (connectAny net lastErr addrs).1) : ∃ addr ∈ addrs, e = .connect addr := by
  induction addrs generalizing lastErr with
  | nil => cases he
  | cons addr addrs ih =>
    simp only [connectAny] at he
    split at he
    · exact ⟨addr, by simp, by simpa using he⟩
    rcases List.mem_cons.1 he with rfl | he
    · exact ⟨addr, by simp, rfl⟩
    · obtain ⟨a, ha, rfl⟩ := ih he
      exact ⟨a, by simp [ha], rfl⟩

variable {forwarder : Option DnsForwarder} {host : String} {port : UInt16}

/-- A name is looked up once, through its forward if it has one, and then only connected to. -/
theorem connectResolved_events : ∃ es, (connectResolved net host port forwarder).1 =
    .lookup (forwarder.bind fun f => f.resolverFor host) host :: es ∧
      ∀ e ∈ es, ∃ addr, e = .connect addr := by
  unfold connectResolved
  split
  next event resolved hlookup =>
    obtain rfl : .lookup (forwarder.bind fun f => f.resolverFor host) host = event := by
      refine Eq.trans ?_ (congrArg Prod.fst hlookup)
      cases forwarder with
      | none => rfl
      | some f => cases hres : f.resolverFor host <;> simp [DnsForwarder.resolve, hres]
    split
    · exact ⟨[], rfl, nofun⟩
    · exact ⟨[], rfl, nofun⟩
    refine ⟨_, rfl, fun e he => ?_⟩
    obtain ⟨addr, -, rfl⟩ := mem_events_connectAny he
    exact ⟨addr, rfl⟩

theorem Dial.mem_events_within {deadline : Option Nat} {dial : Dial}
    (he : e ∈ (dial.within deadline).1) : e ∈ dial.1 := by
  unfold Dial.within at he
  split at he
  · split at he
    · exact List.mem_of_mem_take he
    · exact he
  · exact he

theorem connectAndPipe_events (net : Net) (deadline : Option Nat) (target : Target)
    (forwarder : Option DnsForwarder) :
    (connectAndPipe net deadline target forwarder).1 =
      ((dialTarget net target forwarder).within deadline).1 := by
  unfold connectAndPipe
  dsimp only
  split <;> rfl

/-- **A loopback target is dialed without a name lookup**, on the two loopback addresses. -/
theorem mem_events_connectAndPipe_loopback {deadline : Option Nat} {target : Target}
    (hport : loopbackPort target = some port)
    (he : e ∈ (connectAndPipe net deadline target forwarder).1) :
    ∃ addr ∈ loopbackAddrs port, e = .connect addr := by
  rw [connectAndPipe_events] at he
  have hdial := Dial.mem_events_within he
  unfold dialTarget at hdial
  rw [hport] at hdial
  exact mem_events_connectAny hdial

end Flextunnel.Model
