import Flextunnel.Model.Routing
import Flextunnel.Model.Signaling

/-!
# The local front-ends

How a local application's bytes become a `Target`: SOCKS5 (method negotiation, then a
CONNECT request) and HTTP (a CONNECT request, or an absolute-URI request whose head is
rewritten for the origin). A failure says what was written back to the application.

Every target they produce can be written on the wire (`plain_of_readRequest`): an IPv6
address comes without flow label and scope.

Unnamed source lines are of `core/proxy/http.rs`.
-/

set_option autoImplicit false

namespace Flextunnel.Model

open Lib Lib.Reader

/-! ## SOCKS5 -/

/-- SOURCE: core/proxy/socks5.rs:18-21 -/
def socksVersion : UInt8 := 0x05

@[inherit_doc socksVersion] def methodNoAuth : UInt8 := 0x00

@[inherit_doc socksVersion] def methodNoneAcceptable : UInt8 := 0xFF

@[inherit_doc socksVersion] def cmdConnect : UInt8 := 0x01

inductive SocksError where
  | eof
  | greetingVersion (ver : UInt8)
  | noMethod
  | version (ver : UInt8)
  | command (cmd : UInt8)
  | reserved (rsv : UInt8)
  | domainUtf8
  | addressType (atyp : UInt8)
deriving DecidableEq, Repr

/-- The reply, with an unspecified IPv4 address as the bound one.
SOURCE: core/proxy/socks5.rs:252-256 -/
def socksReply (rep : UInt8) : List UInt8 :=
  [socksVersion, rep, 0x00, atypIpv4, 0, 0, 0, 0, 0, 0]

/-- What the application is told before the connection is dropped.
SOURCE: core/proxy/socks5.rs:49-54, 177-228 -/
def SocksError.written : SocksError → List UInt8
  | .eof | .greetingVersion _ | .version _ => []
  | .noMethod => [socksVersion, methodNoneAcceptable]
  | .command _ => socksReply Rep.cmdNotSupported.code
  | .reserved _ | .domainUtf8 => socksReply Rep.generalFailure.code
  | .addressType _ => socksReply Rep.atypNotSupported.code

/-- The text of the error; `eof` is that of the read that met the end, which depends on the read
(tokio has "early eof" for `read_exact` and "unexpected end of file" for `read_u8`).
SOURCE: core/proxy/socks5.rs:38-40, 53, 172-228 -/
def SocksError.message (eof : String) : SocksError → String
  | .eof => eof
  | .greetingVersion ver => "unsupported SOCKS version: 0x" ++ hexByte ver
  | .noMethod => "client offered no acceptable SOCKS5 method"
  | .version ver => "unsupported SOCKS version in request: 0x" ++ hexByte ver
  | .command cmd => "unsupported SOCKS5 command: 0x" ++ hexByte cmd ++ " (only CONNECT)"
  | .reserved rsv => "invalid SOCKS5 reserved byte: 0x" ++ hexByte rsv ++ " (must be 0x00)"
  | .domainUtf8 => "SOCKS5 domain is not valid UTF-8"
  | .addressType atyp => "unsupported SOCKS5 address type: 0x" ++ hexByte atyp

/-- The greeting; what it returns is written back.
SOURCE: core/proxy/socks5.rs:33-55 -/
def negotiateMethod : Reader SocksError (List UInt8) := do
  let ver ← u8 .eof
  if ver ≠ socksVersion then throw (.greetingVersion ver)
  else
    let nmethods ← u8 .eof
    let methods ← exactly .eof nmethods.toNat
    if methods.1.contains methodNoAuth then return [socksVersion, methodNoAuth]
    else throw .noMethod

/-- SOURCE: core/proxy/socks5.rs:164-246 -/
def readConnectRequest : Reader SocksError Target := do
  let ver ← u8 .eof
  let cmd ← u8 .eof
  let rsv ← u8 .eof
  let atyp ← u8 .eof
  if ver ≠ socksVersion then throw (.version ver)
  else if cmd ≠ cmdConnect then throw (.command cmd)
  else if rsv ≠ 0x00 then throw (.reserved rsv)
  else if atyp = atypIpv4 then
    let octets ← exactly .eof 4
    let port ← u16 .eof
    return .ip (.v4 (.ofOctets octets) port)
  else if atyp = atypIpv6 then
    let octets ← exactly .eof 16
    let port ← u16 .eof
    return .ip (.v6 (.ofOctets octets) port 0 0)
  else if atyp = atypDomain then
    let len ← u8 .eof
    let host ← exactly .eof len.toNat
    let port ← u16 .eof
    match ofUtf8 host.1 with
    | some host => return .domain host port
    | none => throw .domainUtf8
  else throw (.addressType atyp)

/-- The client's side: a CONNECT request for a target.
SOURCE: core/proxy/socks5.rs:88-117 -/
def clientWriteConnect : Target → Except StreamError (List UInt8)
  | .domain host port =>
    if (utf8 host).length < 256 then
      .ok ([socksVersion, cmdConnect, 0x00, atypDomain, UInt8.ofNat (utf8 host).length] ++
        utf8 host ++ be16 port)
    else .error (.other ("SOCKS5 domain longer than 255 bytes: " ++ host))
  | .ip (.v4 ip port) =>
    .ok ([socksVersion, cmdConnect, 0x00, atypIpv4] ++ ip.octets ++ be16 port)
  | .ip (.v6 ip port _ _) =>
    .ok ([socksVersion, cmdConnect, 0x00, atypIpv6] ++ ip.octets ++ be16 port)

/-! ## HTTP -/

/-- SOURCE: 31 -/
def maxHttpHeader : Nat := 64 * 1024

/-- SOURCE: 38-47 -/
def strippedHeaders : List String :=
  ["connection", "proxy-connection", "keep-alive", "te", "upgrade", "proxy-authorization",
    "proxy-authenticate", "host"]

/-- SOURCE: 51-61 -/
inductive HttpRequest where
  | connect (target : Target)
  | forward (target : Target) (head : List UInt8)
deriving DecidableEq, Repr

inductive HttpError where
  | eof
  | oversized
  | lineUtf8
  | lineControl
  | malformedLine (line : String)
  | version (version : String)
  | connectAuthority (requestTarget : String)
  | httpsUri (requestTarget : String)
  | notAbsolute (requestTarget : String)
  | userinfo (requestTarget : String)
  | authority (requestTarget : String)
  | folding
  | malformedHeader
deriving DecidableEq, Repr

/-- The status a request is answered with; an end of file is not answered.
SOURCE: 65-79, 104-183 -/
def HttpError.status : HttpError → Option (Nat × String)
  | .eof => none
  | .version _ => some (505, "HTTP Version Not Supported")
  | _ => some (400, "Bad Request")

/-- The text of the error, `eof` as in `SocksError.message`.
SOURCE: 105-165, 197-223, 287-307 -/
def HttpError.message (debug : String → String) (eof : String) : HttpError → String
  | .eof => eof
  | .oversized => "HTTP request head exceeded size cap"
  | .lineUtf8 => "HTTP request line is not valid UTF-8"
  | .lineControl => "control byte in HTTP request line"
  | .malformedLine line => "malformed HTTP request line: " ++ debug line
  | .version v => "unsupported HTTP version: " ++ v
  | .connectAuthority t => "invalid CONNECT authority: " ++ debug t
  | .httpsUri t => "https absolute-URI must use CONNECT: " ++ debug t
  | .notAbsolute t => "request target is not an absolute http:// URI: " ++ debug t
  | .userinfo t => "userinfo in request target: " ++ debug t
  | .authority t => "invalid authority in request target: " ++ debug t
  | .folding => "obsolete header line folding is not supported"
  -- the source prints an iterator, which formats without its content
  | .malformedHeader => "malformed header line: EscapeAscii \x7b .. \x7d"

/-- SOURCE: 403-411 -/
def httpError (code : Nat) (reason : String) : List UInt8 :=
  utf8 ("HTTP/1.1 " ++ toString code ++ " " ++ reason ++
    "\r\nContent-Length: 0\r\nConnection: close\r\n\r\n")

/-- SOURCE: 387-400 -/
def httpReply (rep : UInt8) : List UInt8 :=
  if rep = Rep.success.code then utf8 "HTTP/1.1 200 Connection Established\r\n\r\n"
  else if rep = Rep.notAllowed.code then httpError 403 "Forbidden"
  else httpError 502 "Bad Gateway"

def HttpError.written (e : HttpError) : List UInt8 :=
  match e.status with
  | none => []
  | some (code, reason) => httpError code reason

/-- The head read so far, and the bytes still to come.
SOURCE: 98-108 -/
def readHeadFrom (head : List UInt8) : List UInt8 → Except HttpError (List UInt8 × List UInt8)
  | [] => .error .eof
  | b :: rest =>
    if [13, 10, 13, 10].isSuffixOf (head ++ [b]) then .ok (head ++ [b], rest)
    else if maxHttpHeader ≤ (head ++ [b]).length then .error .oversized
    else readHeadFrom (head ++ [b]) rest

def readHead : Reader HttpError (List UInt8) := readHeadFrom []

/-- `u8::is_ascii_control`. -/
def isAsciiControl (b : UInt8) : Bool := b < 0x20 || b = 0x7F

/-- A text without its scheme, in any case.
SOURCE: 314-317 -/
def stripScheme (scheme target : String) : Option String :=
  let n := scheme.toList.length
  if Text.eqIgnoreAsciiCase (String.ofList (target.toList.take n)) scheme then
    some (String.ofList (target.toList.drop n))
  else none

/-- SOURCE: 323-328 -/
def hostToTarget (host : String) (port : UInt16) : Target :=
  match IpAddr.parse host with
  | some ip => .ip (.new ip port)
  | none => .domain host port

/-- The host and the text of the port.
SOURCE: 352-379 -/
def splitHostPort (authority : String) : Option (String × Option String) :=
  match Text.stripPrefix "[" authority with
  | some rest => do
    let (addr, after) ← Text.splitOnce ']' rest
    if after = "" then some (addr, none)
    else (Text.stripPrefix ":" after).map fun port => (addr, some port)
  | none =>
    match Text.rsplitOnce ':' authority with
    | some (host, port) => if Text.containsChar ':' host then none else some (host, some port)
    | none => some (authority, none)

/-- SOURCE: 352-379 -/
def splitAuthority (authority : String) (defaultPort : Option UInt16) :
    Option (String × UInt16) := do
  let (host, portStr) ← splitHostPort authority
  if host = "" then none
  else
    match portStr with
    | some p =>
      match Text.parseUnsigned 65536 p with
      | none | some 0 => none
      | some port => some (host, UInt16.ofNat port)
    | none => defaultPort.map fun port => (host, port)

/-- SOURCE: 267-270 -/
structure HeaderLine where
  name : String
  value : List UInt8
deriving DecidableEq, Repr

/-- One header line.
SOURCE: 279-308 -/
def headerLine (line : List UInt8) : Except HttpError HeaderLine :=
  if line.head?.any (fun b => b = 32 || b = 9) then .error .folding
  else
    match line.dropWhile (· != 58) with
    | [] => .error .malformedHeader
    | _ :: value =>
      match ofUtf8 (line.takeWhile (· != 58)) with
      | none => .error .malformedHeader
      | some text =>
        let name := Text.trimAsciiEnd text
        if (utf8 name).any isAsciiControl || value.any (fun b => b = 13 || b = 10 || b = 0) then
          .error .malformedHeader
        else .ok { name, value }

/-- SOURCE: 275-311 -/
def splitHeaderLines (block : List UInt8) : Except HttpError (List HeaderLine) :=
  (crlfLines block).mapM headerLine

/-- The headers a `Connection` or `Proxy-Connection` header names.
SOURCE: 226-240 -/
def connectionOptions (headers : List HeaderLine) : List String :=
  headers.flatMap fun h =>
    if Text.eqIgnoreAsciiCase h.name "connection" ||
        Text.eqIgnoreAsciiCase h.name "proxy-connection" then
      (Text.splitChar ',' (ofUtf8Lossy h.value)).map fun t => Text.toAsciiLowercase (Text.trim t)
    else []

/-- Whether a header is left out of the rewritten head.
SOURCE: 249-252 -/
def isStripped (options : List String) (h : HeaderLine) : Bool :=
  let lower := Text.toAsciiLowercase h.name
  strippedHeaders.contains lower || options.contains lower

/-- The head sent to the origin.
SOURCE: 242-259 -/
def originHead (method path version authority : String) (headers : List HeaderLine) : List UInt8 :=
  utf8 (method ++ " " ++ path ++ " " ++ version ++ "\r\nHost: " ++ authority ++ "\r\n") ++
    (headers.filter fun h => !isStripped (connectionOptions headers) h).flatMap
      (fun h => utf8 h.name ++ [58] ++ h.value ++ [13, 10]) ++
    utf8 "Connection: close\r\n\r\n"

/-- The path of an absolute URI, after the authority.
SOURCE: 207-211 -/
def originPath : List Char → String
  | [] => "/"
  | '/' :: rest => String.ofList ('/' :: rest)
  | rest => "/" ++ String.ofList rest

/-- SOURCE: 188-261 -/
def rewriteForward (method requestTarget version : String) (headerBlock : List UInt8) :
    Except HttpError (Target × List UInt8) :=
  match stripScheme "http://" requestTarget with
  | none =>
    if (stripScheme "https://" requestTarget).isSome then .error (.httpsUri requestTarget)
    else .error (.notAbsolute requestTarget)
  | some rest =>
    let isEnd := fun c : Char => c == '/' || c == '?'
    let authority := String.ofList (rest.toList.takeWhile fun c => !isEnd c)
    let path := originPath (rest.toList.dropWhile fun c => !isEnd c)
    if Text.containsChar '@' authority then .error (.userinfo requestTarget)
    else
      match splitAuthority authority (some 80) with
      | none => .error (.authority requestTarget)
      | some (host, port) => do
        let headers ← splitHeaderLines headerBlock
        return (hostToTarget host port, originHead method path version authority headers)

/-- The request of a request line and the headers after it.
SOURCE: 132-184 -/
def parseRequest (line : String) (headerBlock : List UInt8) : Except HttpError HttpRequest :=
  match Text.splitChar ' ' line with
  | [method, requestTarget, version] =>
    if method = "" || requestTarget = "" || version = "" then .error (.malformedLine line)
    else if version ≠ "HTTP/1.1" ∧ version ≠ "HTTP/1.0" then .error (.version version)
    else if Text.eqIgnoreAsciiCase method "CONNECT" then
      match splitAuthority requestTarget none with
      | none => .error (.connectAuthority requestTarget)
      | some (host, port) => .ok (.connect (hostToTarget host port))
    else
      (rewriteForward method requestTarget version headerBlock).map fun r => .forward r.1 r.2
  | _ => .error (.malformedLine line)

/-- The request of a head.
SOURCE: 110-184 -/
def parseHead (head : List UInt8) : Except HttpError HttpRequest :=
  -- a head ends in CR LF CR LF, so it has a first line
  let (lineBytes, after) := (splitCrlf head).getD (head, [])
  match ofUtf8 lineBytes with
  | none => .error .lineUtf8
  | some line =>
    if lineBytes.any isAsciiControl then .error .lineControl
    else parseRequest line (after.take (after.length - 2))

/-- SOURCE: 92-184 -/
def readHttpRequest : Reader HttpError HttpRequest := do
  let head ← readHead
  parseHead head

/-! ## The two protocols -/

/-- SOURCE: core/proxy/client.rs:1155-1162 -/
structure LocalRequest where
  target : Target
  upstreamPreamble : Option (List UInt8)
deriving DecidableEq, Repr

/-- SOURCE: core/proxy/client.rs:1178-1238 -/
inductive LocalProto where
  | socks5
  | http
deriving DecidableEq, Repr

inductive LocalError where
  | socks (error : SocksError)
  | http (error : HttpError)
deriving DecidableEq, Repr

def mapReaderError {ε ε' α : Type} (f : ε → ε') (r : Reader ε α) : Reader ε' α :=
  fun bytes => (r.run bytes).mapError f

/-- SOURCE: core/proxy/client.rs:1222-1233 -/
def HttpRequest.toLocal : HttpRequest → LocalRequest
  | .connect target => ⟨target, none⟩
  | .forward target head => ⟨target, some head⟩

/-- SOURCE: core/proxy/client.rs:1202-1233 -/
def LocalProto.readRequest : LocalProto → Reader LocalError LocalRequest
  | .socks5 => mapReaderError .socks do
    let _ ← negotiateMethod
    let target ← readConnectRequest
    return ⟨target, none⟩
  | .http => mapReaderError .http do
    let request ← readHttpRequest
    return request.toLocal

/-- SOURCE: core/proxy/client.rs:1211-1213, 1235-1237 -/
def LocalProto.reply : LocalProto → UInt8 → List UInt8
  | .socks5 => socksReply
  | .http => httpReply

/-! ## What the front-ends produce -/

theorem took_negotiateMethod : Took negotiateMethod fun _ _ => True := by
  unfold negotiateMethod
  refine (took_u8 _).bind fun ver _ _ => ?_
  split
  · exact took_throw _
  refine (took_u8 _).bind fun nmethods _ _ => (took_exactly _ _).bind fun methods _ _ => ?_
  split
  · exact took_pure trivial
  · exact took_throw _

theorem clientWriteConnect_eq_ok_iff {t : Target} {bytes : List UInt8} :
    clientWriteConnect t = .ok bytes ↔
      t.HostFits ∧ bytes = [socksVersion, cmdConnect, 0x00, t.atyp] ++ t.addressBytes := by
  match t with
  | .ip (.v4 ip port) | .ip (.v6 ip port flowinfo scopeId) =>
    simp [clientWriteConnect, Target.HostFits, Target.atyp, Target.addressBytes, eq_comm]
  | .domain host port =>
    by_cases hfits : (utf8 host).length < 256
    · simp [clientWriteConnect, Target.HostFits, Target.atyp, Target.addressBytes, hfits, eq_comm]
    · simp [clientWriteConnect, Target.HostFits, hfits]

theorem readConnectRequest_eq : readConnectRequest = (do
    let ver ← u8 .eof
    let cmd ← u8 .eof
    let rsv ← u8 .eof
    let atyp ← u8 .eof
    if ver ≠ socksVersion then throw (.version ver)
    else if cmd ≠ cmdConnect then throw (.command cmd)
    else if rsv ≠ 0x00 then throw (.reserved rsv)
    else readAddress .eof .domainUtf8 .addressType atyp) := rfl

/-- **The two sides of a SOCKS5 CONNECT request agree.** -/
theorem isCodec_connect : IsCodec clientWriteConnect Target.Plain readConnectRequest := by
  rw [readConnectRequest_eq]
  constructor
  · intro t bytes hplain hwrite
    obtain ⟨hfits, rfl⟩ := clientWriteConnect_eq_ok_iff.1 hwrite
    refine (reads_u8 _ socksVersion).bind ((reads_u8 _ cmdConnect).bind
      ((reads_u8 _ 0x00).bind ((reads_u8 _ t.atyp).bind ?_)))
    exact reads_readAddress hplain hfits
  refine (took_u8 _).bind fun ver p hp => (took_u8 _).bind fun cmd q hq =>
    (took_u8 _).bind fun rsv r hr => (took_u8 _).bind fun atyp w hw => ?_
  split
  · exact took_throw _
  next hver =>
  split
  · exact took_throw _
  next hcmd =>
  split
  · exact took_throw _
  next hrsv =>
  obtain rfl : ver = socksVersion := by simpa using hver
  obtain rfl : cmd = cmdConnect := by simpa using hcmd
  obtain rfl : rsv = 0x00 := by simpa using hrsv
  intro bytes t rest hrun
  obtain ⟨address, rfl, rfl, rfl, hplain, hfits⟩ := took_readAddress atyp bytes t rest hrun
  subst hp hq hr hw
  exact ⟨_, rfl, clientWriteConnect_eq_ok_iff.2 ⟨hfits, rfl⟩, hplain⟩

/-- A head is the bytes that were taken off the stream. -/
theorem readHeadFrom_eq_ok {head bytes head' rest : List UInt8}
    (h : readHeadFrom head bytes = .ok (head', rest)) :
    ∃ pre, bytes = pre ++ rest ∧ head' = head ++ pre := by
  induction bytes generalizing head with
  | nil => cases h
  | cons b bytes ih =>
    simp only [readHeadFrom] at h
    split at h
    · cases h
      exact ⟨[b], rfl, rfl⟩
    split at h
    · cases h
    · obtain ⟨pre, rfl, rfl⟩ := ih h
      exact ⟨b :: pre, rfl, by simp⟩

theorem took_readHead : Took readHead fun pre head => pre = head := by
  intro bytes head rest hrun
  obtain ⟨pre, hbytes, hhead⟩ := readHeadFrom_eq_ok hrun
  exact ⟨pre, hbytes, by simpa using hhead.symm⟩

theorem hostToTarget_plain (host : String) (port : UInt16) : (hostToTarget host port).Plain := by
  unfold hostToTarget
  split
  next ip _ =>
    cases ip with
    | v4 ip => trivial
    | v6 ip => exact ⟨rfl, rfl⟩
  · trivial

theorem rewriteForward_plain {method requestTarget version : String} {block head : List UInt8}
    {target : Target}
    (h : rewriteForward method requestTarget version block = .ok (target, head)) :
    target.Plain := by
  unfold rewriteForward at h
  split at h
  · split at h <;> cases h
  dsimp only at h
  split at h
  · cases h
  split at h
  · cases h
  · obtain ⟨headers, -, h⟩ := bind_eq_ok.1 h
    cases h
    exact hostToTarget_plain _ _

theorem parseRequest_plain {line : String} {block : List UInt8} {request : HttpRequest}
    (h : parseRequest line block = .ok request) : request.toLocal.target.Plain := by
  unfold parseRequest at h
  split at h
  · split at h
    · cases h
    split at h
    · cases h
    split at h
    · split at h
      · cases h
      · cases h
        exact hostToTarget_plain _ _
    · obtain ⟨r, hr, rfl⟩ := map_eq_ok.1 h
      exact rewriteForward_plain hr
  · cases h

/-- A request that is parsed has a plain target. -/
theorem parseHead_plain {head : List UInt8} {request : HttpRequest}
    (h : parseHead head = .ok request) : request.toLocal.target.Plain := by
  unfold parseHead at h
  dsimp only at h
  split at h
  · cases h
  · split at h
    · cases h
    · exact parseRequest_plain h

/-- **Every target a front-end produces can be written on the wire.** -/
theorem LocalProto.plain_of_readRequest {proto : LocalProto} {bytes rest : List UInt8}
    {request : LocalRequest} (h : proto.readRequest.run bytes = .ok (request, rest)) :
    request.target.Plain := by
  cases proto with
  | socks5 =>
    have htook : Took (do
        let _ ← negotiateMethod
        let target ← readConnectRequest
        return (⟨target, none⟩ : LocalRequest)) fun _ r => r.target.Plain :=
      took_negotiateMethod.bind fun _ _ _ => isCodec_connect.took.bind fun _ _ ht =>
        took_pure ht.2
    obtain ⟨-, -, hplain⟩ := htook bytes request rest (mapError_eq_ok.1 h)
    exact hplain
  | http =>
    have htook : Took (do
        let r ← readHttpRequest
        return r.toLocal) fun _ r => r.target.Plain := by
      have hread : Took readHttpRequest fun _ r => r.toLocal.target.Plain :=
        took_readHead.bind fun _ _ _ => took_lift fun _ hr => parseHead_plain hr
      exact hread.bind fun _ _ hr => took_pure hr
    obtain ⟨-, -, hplain⟩ := htook bytes request rest (mapError_eq_ok.1 h)
    exact hplain

end Flextunnel.Model
