import Flextunnel.Lib.Bytes
import Flextunnel.Model.Address

/-!
# The wire protocol

The handshake messages and their framing, and the binary request header of a tunnel
stream. JSON is `serde_json`'s business: `Json` holds its encoders and decoders for the
handshake messages.

The request header is a codec in both directions: `reads_readRequest` (what is
written is read back, whatever follows it) and `took_readRequest` (what is read was the
encoding of what was returned, so forwarding a request re-encodes it byte for byte).

Unnamed source lines are of `core/proxy/signaling.rs`.
-/

set_option autoImplicit false

namespace Flextunnel.Model

open Lib Lib.Reader

/-! ## Constants -/

/-- SOURCE: 21 -/
def protocolVersion : UInt16 := 13

/-- SOURCE: 25 -/
def maxHandshakeSize : Nat := 64 * 1024

/-- SOURCE: 29 -/
def maxControlMsgSize : Nat := 16 * 1024

/-- SOURCE: 32 -/
def streamVersion : UInt8 := 1

/-- SOURCE: 35-37 -/
def atypIpv4 : UInt8 := 0x01

@[inherit_doc atypIpv4] def atypDomain : UInt8 := 0x03

@[inherit_doc atypIpv4] def atypIpv6 : UInt8 := 0x04

/-- The reply codes.
SOURCE: 41-50 -/
inductive Rep where
  | success
  | generalFailure
  | notAllowed
  | netUnreachable
  | hostUnreachable
  | connRefused
  | cmdNotSupported
  | atypNotSupported
deriving DecidableEq, Repr

/-- SOURCE: 41-50 -/
def Rep.code : Rep → UInt8
  | .success => 0x00
  | .generalFailure => 0x01
  | .notAllowed => 0x02
  | .netUnreachable => 0x03
  | .hostUnreachable => 0x04
  | .connRefused => 0x05
  | .cmdNotSupported => 0x07
  | .atypNotSupported => 0x08

/-! ## Messages -/

abbrev Nonce := BitVec 128

/-- SOURCE: 58-70 -/
structure ClientAuthPayload where
  publicKey : String
  endpointId : String
  signature : String
deriving DecidableEq, Repr

/-- SOURCE: 74-96 -/
structure Hello where
  version : UInt16
  auth : Option ClientAuthPayload
  clientInstanceNonce : Nonce
  duplicateServerObserved : Bool
deriving DecidableEq, Repr

/-- SOURCE: 165-167 -/
structure BridgeHello where
  version : UInt16
deriving DecidableEq, Repr

/-- SOURCE: 204-213 -/
structure BridgeSummary where
  name : String
  endpointId : String
  domains : List String
  cidrs : List String
deriving DecidableEq, Repr

/-- What an accepted peer is told; the default is what a bridge is told.
SOURCE: 221-232 -/
structure AcceptedRoutes where
  routedDomains : List String := []
  routedCidrs : List String := []
  hostAliases : List (String × String) := []
  dnsForwards : List (String × List String) := []
  bridges : List BridgeSummary := []
deriving DecidableEq, Repr

/-- SOURCE: 106-140 -/
structure HelloResponse where
  version : UInt16
  accepted : Bool
  rejectReason : Option String
  serverInstanceNonce : Nonce
  routes : AcceptedRoutes
deriving DecidableEq, Repr

/-- SOURCE: 237-249 -/
def HelloResponse.acceptedWith (serverInstanceNonce : Nonce) (routes : AcceptedRoutes) :
    HelloResponse where
  version := protocolVersion
  accepted := true
  rejectReason := none
  serverInstanceNonce
  routes

/-- SOURCE: 251-263 -/
def HelloResponse.rejected (serverInstanceNonce : Nonce) (reason : String) : HelloResponse where
  version := protocolVersion
  accepted := false
  rejectReason := some reason
  serverInstanceNonce
  routes := {}

/-- SOURCE: 276-281 -/
inductive ControlMsg where
  | heartbeat (seq : UInt64)
  | heartbeatAck (seq : UInt64)
deriving DecidableEq, Repr

/-- `serde_json` for the messages of the handshake and the control stream. -/
structure Json where
  helloFromJson : List UInt8 → Except String Hello
  bridgeHelloFromJson : List UInt8 → Except String BridgeHello
  responseToJson : HelloResponse → Except String (List UInt8)
  responseFromJson : List UInt8 → Except String HelloResponse

inductive StreamError where
  | eof
  | other (message : String)
deriving DecidableEq, Repr

/-- SOURCE: 191-196, 337-342, 354-359 -/
def unsupportedVersion (version : UInt16) : String :=
  s!"Unsupported protocol version: {version} (expected {protocolVersion})"

def checkVersion {α : Type} (version : α → UInt16) (msg : α) : Except String α :=
  if version msg ≠ protocolVersion then .error (unsupportedVersion (version msg)) else .ok msg

/-- SOURCE: 335-344 -/
def Json.decodeHello (json : Json) (data : List UInt8) : Except String Hello :=
  json.helloFromJson data >>= checkVersion Hello.version

/-- SOURCE: 189-198 -/
def Json.decodeBridgeHello (json : Json) (data : List UInt8) : Except String BridgeHello :=
  json.bridgeHelloFromJson data >>= checkVersion BridgeHello.version

/-- SOURCE: 352-361 -/
def Json.decodeHelloResponse (json : Json) (data : List UInt8) : Except String HelloResponse :=
  json.responseFromJson data >>= checkVersion HelloResponse.version

/-- SOURCE: 303-309 -/
def writeMessage (data : List UInt8) : Except StreamError (List UInt8) :=
  if data.length < 4294967296 then .ok (be32 data.length ++ data)
  else .error (.other s!"Message too large: {data.length} bytes")

/-- SOURCE: 312-327 -/
def readMessage (maxSize : Nat) : Reader StreamError (List UInt8) := do
  let len ← u32 .eof
  if maxSize < len then throw (.other s!"Message too large: {len} > {maxSize}")
  else
    let data ← exactly .eof len
    return data.1

theorem reads_readMessage {maxSize : Nat} {data bytes : List UInt8}
    (hmax : data.length ≤ maxSize) (hwrite : writeMessage data = .ok bytes) :
    Reads (readMessage maxSize) bytes data := by
  unfold writeMessage at hwrite
  split at hwrite <;> cases hwrite
  next hlen =>
    refine (reads_u32 _ hlen).bind ?_
    rw [if_neg (by omega)]
    exact (reads_exactly StreamError.eof rfl).bind_pure Subtype.val

theorem readMessage_too_large {maxSize : Nat} {data bytes : List UInt8}
    (hmax : maxSize < data.length) (hwrite : writeMessage data = .ok bytes) (rest : List UInt8) :
    (readMessage maxSize).run (bytes ++ rest) =
      .error (.other s!"Message too large: {data.length} > {maxSize}") := by
  unfold writeMessage at hwrite
  split at hwrite <;> cases hwrite
  next hlen =>
    have hread := reads_u32 StreamError.eof hlen (data ++ rest)
    rw [readMessage, StateT.run_bind, List.append_assoc, hread]
    show (if maxSize < data.length then throw _ else _ : Reader StreamError (List UInt8)).run
      (data ++ rest) = _
    rw [if_pos hmax]
    rfl

/-! ## The request header -/

/-- SOURCE: 364-388 -/
def writeRequest : Target → Except StreamError (List UInt8)
  | .ip (.v4 ip port) => .ok ([streamVersion, atypIpv4] ++ ip.octets ++ be16 port)
  | .ip (.v6 ip port _ _) => .ok ([streamVersion, atypIpv6] ++ ip.octets ++ be16 port)
  | .domain host port =>
    if (utf8 host).length < 256 then
      .ok ([streamVersion, atypDomain, UInt8.ofNat (utf8 host).length] ++ utf8 host ++ be16 port)
    else .error (.other "domain name longer than 255 bytes")

def hexByte (b : UInt8) : String :=
  String.ofList [Nat.digitChar (b.toNat / 16), Nat.digitChar (b.toNat % 16)]

/-- SOURCE: 391-431 -/
def readRequest : Reader StreamError Target := do
  let ver ← u8 .eof
  if ver ≠ streamVersion then
    throw (.other s!"Unsupported stream version: {ver} (expected {streamVersion})")
  else
    let atyp ← u8 .eof
    if atyp = atypIpv4 then
      let octets ← exactly .eof 4
      let port ← u16 .eof
      return .ip (.v4 (.ofOctets octets) port)
    else if atyp = atypIpv6 then
      let octets ← exactly .eof 16
      let port ← u16 .eof
      return .ip (.v6 (.ofOctets octets) port 0 0)
    else if atyp = atypDomain then
      let len ← u8 .eof
      let host ← exactly .eof len.toNat
      let port ← u16 .eof
      match ofUtf8 host.1 with
      | some host => return .domain host port
      | none => throw (.other "domain name is not valid UTF-8")
    else throw (.other ("invalid address type: 0x" ++ hexByte atyp))

inductive IoErrorKind where
  | connectionRefused
  | networkUnreachable
  | hostUnreachable
  | timedOut
  | other
deriving DecidableEq, Repr

/-- SOURCE: 450-458 -/
def mapIoErr : IoErrorKind → Rep
  | .connectionRefused => .connRefused
  | .networkUnreachable => .netUnreachable
  | .hostUnreachable => .hostUnreachable
  | _ => .generalFailure

/-! ## The request header is a codec -/

/-- What the request header can carry: an IPv6 address without flow label and scope. -/
def Target.Plain : Target → Prop
  | .ip (.v6 _ _ flowinfo scopeId) => flowinfo = 0 ∧ scopeId = 0
  | _ => True

def Target.HostFits : Target → Prop
  | .ip _ => True
  | .domain host _ => (utf8 host).length < 256

instance (t : Target) : Decidable t.HostFits :=
  match t with
  | .ip _ => inferInstanceAs (Decidable True)
  | .domain host _ => inferInstanceAs (Decidable ((utf8 host).length < 256))

def Target.atyp : Target → UInt8
  | .ip (.v4 _ _) => atypIpv4
  | .ip (.v6 _ _ _ _) => atypIpv6
  | .domain _ _ => atypDomain

def Target.addressBytes : Target → List UInt8
  | .ip (.v4 addr port) => addr.octets ++ be16 port
  | .ip (.v6 addr port _ _) => addr.octets ++ be16 port
  | .domain host port => UInt8.ofNat (utf8 host).length :: utf8 host ++ be16 port

/-- The part of a reader after the address type, which the tunnel and the SOCKS5
front-end have in common up to their errors. -/
def readAddress {ε : Type} (eof utf8Error : ε) (atypError : UInt8 → ε) (atyp : UInt8) :
    Reader ε Target :=
  if atyp = atypIpv4 then do
    let octets ← exactly eof 4
    let port ← u16 eof
    return .ip (.v4 (.ofOctets octets) port)
  else if atyp = atypIpv6 then do
    let octets ← exactly eof 16
    let port ← u16 eof
    return .ip (.v6 (.ofOctets octets) port 0 0)
  else if atyp = atypDomain then do
    let len ← u8 eof
    let host ← exactly eof len.toNat
    let port ← u16 eof
    match ofUtf8 host.1 with
    | some host => return .domain host port
    | none => throw utf8Error
  else throw (atypError atyp)

section Address

variable {ε : Type} {eof utf8Error : ε} {atypError : UInt8 → ε}

theorem reads_readAddress {t : Target} (hplain : t.Plain) (hfits : t.HostFits) :
    Reads (readAddress eof utf8Error atypError t.atyp) t.addressBytes t := by
  match t with
  | .ip (.v4 ip port) =>
    exact (reads_exactly _ ip.length_octets).bind ((reads_u16 _ port).bind_pure _)
  | .ip (.v6 ip port flowinfo scopeId) =>
    obtain ⟨rfl, rfl⟩ := hplain
    exact (reads_exactly _ ip.length_octets).bind ((reads_u16 _ port).bind_pure _)
  | .domain host port =>
    have hlen : (utf8 host).length = (UInt8.ofNat (utf8 host).length).toNat := by
      rw [UInt8.toNat_ofNat', Nat.mod_eq_of_lt hfits]
    refine (reads_u8 _ (UInt8.ofNat (utf8 host).length)).bind ?_
    refine (reads_exactly _ hlen).bind ?_
    have hport := (reads_u16 eof port).bind_pure (Target.domain host)
    simpa only [ofUtf8_utf8] using hport

theorem took_readAddress (atyp : UInt8) :
    Took (readAddress eof utf8Error atypError atyp) fun bytes t =>
      atyp = t.atyp ∧ bytes = t.addressBytes ∧ t.Plain ∧ t.HostFits := by
  unfold readAddress
  split
  next hatyp =>
    refine (took_exactly _ 4).bind fun octets p hp => (took_u16 _).bind fun port q hq => ?_
    subst hp hq
    exact took_pure ⟨hatyp, by simp [Ipv4Addr.ofOctets, Target.addressBytes], trivial, trivial⟩
  split
  next hatyp =>
    refine (took_exactly _ 16).bind fun octets p hp => (took_u16 _).bind fun port q hq => ?_
    subst hp hq
    exact took_pure ⟨hatyp, by simp [Ipv6Addr.ofOctets, Target.addressBytes], ⟨rfl, rfl⟩, trivial⟩
  split
  next hatyp =>
    refine (took_u8 _).bind fun len p hp => ?_
    refine (took_exactly _ len.toNat).bind fun host q hq => (took_u16 _).bind fun port r hr => ?_
    subst hp hq hr
    split
    next text htext =>
      have hbytes := utf8_of_ofUtf8 htext
      have hlen : (utf8 text).length = len.toNat := by rw [hbytes, host.2]
      have hlt := len.toNat_lt
      refine took_pure ⟨hatyp, ?_, trivial, ?_⟩
      · simp [Target.addressBytes, hbytes, host.2]
      · show (utf8 text).length < 256
        omega
    · exact took_throw _
  · exact took_throw _

end Address

theorem writeRequest_eq_ok_iff {t : Target} {bytes : List UInt8} :
    writeRequest t = .ok bytes ↔
      t.HostFits ∧ bytes = [streamVersion, t.atyp] ++ t.addressBytes := by
  match t with
  | .ip (.v4 ip port) | .ip (.v6 ip port flowinfo scopeId) =>
    simp [writeRequest, Target.HostFits, Target.atyp, Target.addressBytes, eq_comm]
  | .domain host port =>
    by_cases hfits : (utf8 host).length < 256
    · simp [writeRequest, Target.HostFits, Target.atyp, Target.addressBytes, hfits, eq_comm]
    · simp [writeRequest, Target.HostFits, hfits]

theorem readRequest_eq : readRequest = (do
    let ver ← u8 .eof
    if ver ≠ streamVersion then
      throw (.other s!"Unsupported stream version: {ver} (expected {streamVersion})")
    else
      let atyp ← u8 .eof
      readAddress .eof (.other "domain name is not valid UTF-8")
        (fun atyp => .other ("invalid address type: 0x" ++ hexByte atyp)) atyp) := rfl

/-- **What is written is read back**, whatever follows it on the stream. -/
theorem reads_readRequest {t : Target} {bytes : List UInt8} (hplain : t.Plain)
    (hwrite : writeRequest t = .ok bytes) : Reads readRequest bytes t := by
  obtain ⟨hfits, rfl⟩ := writeRequest_eq_ok_iff.1 hwrite
  rw [readRequest_eq]
  refine (reads_u8 _ streamVersion).bind ((reads_u8 _ t.atyp).bind ?_)
  exact reads_readAddress hplain hfits

/-- **What is read was the encoding of what is returned.** -/
theorem took_readRequest :
    Took readRequest fun bytes t => writeRequest t = .ok bytes ∧ t.Plain := by
  rw [readRequest_eq]
  refine (took_u8 _).bind fun ver p hp => ?_
  split
  · exact took_throw _
  next hver =>
  obtain rfl : ver = streamVersion := by simpa using hver
  refine (took_u8 _).bind fun atyp q hq => ?_
  intro bytes t rest hrun
  obtain ⟨address, rfl, rfl, rfl, hplain, hfits⟩ := took_readAddress atyp bytes t rest hrun
  subst hp hq
  exact ⟨_, rfl, writeRequest_eq_ok_iff.2 ⟨hfits, rfl⟩, hplain⟩

/-- The two sides of a tunnel request agree. -/
theorem isCodec_request : IsCodec writeRequest Target.Plain readRequest :=
  ⟨reads_readRequest, took_readRequest⟩

end Flextunnel.Model
