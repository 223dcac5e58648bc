import Flextunnel.Lib.Chunks
import Flextunnel.Lib.JsonText
import Flextunnel.Model.Forwards

/-!
# The local control channel

What a running client and the commands attached to it exchange over the control socket: JSON
lines, and the frames of a tunnel once a connection was turned into one. A connection is read
through a buffer, so the readers here work on `Chunks`, the bytes in whatever pieces they
arrive in.

Reading and writing of JSON is a parameter, except for requests, whose text is short enough to
be written out (`IpcRequest.toVec`).

Unnamed source lines are of `cli/ipc.rs`.
-/

set_option autoImplicit false

namespace Flextunnel.Model

open Lib

/-! ## Wire types -/

/-- Cap on one JSON line in either direction.
SOURCE: 57 -/
def maxLine : Nat := 1024 * 1024

/-- Largest payload of one client-to-session tunnel frame.
SOURCE: 64 -/
def maxFrame : Nat := 64 * 1024

/-- SOURCE: 71-84 -/
inductive IpcRequest where
  | status
  | connPath
  | connect (host : String) (port : UInt16)
deriving DecidableEq, Repr

/-- `serde_json::to_vec` on a request: the tag, then the fields of the variant.
SOURCE: 71-84 -/
def IpcRequest.toVec : IpcRequest → List UInt8
  | .status => JsonText.object [("cmd", JsonText.string "status")]
  | .connPath => JsonText.object [("cmd", JsonText.string "conn_path")]
  | .connect host port => JsonText.object
      [("cmd", JsonText.string "connect"), ("host", JsonText.string host),
        ("port", JsonText.number port.toNat)]

example : (IpcRequest.connect "db.internal" 22).toVec =
    Reader.utf8 "\x7b\"cmd\":\"connect\",\"host\":\"db.internal\",\"port\":22\x7d" := by
  decide +kernel

/-- A response; the two snapshots are `StatusSnapshot` and `WireConnSnapshot`.
SOURCE: 86-93 -/
inductive IpcResponse (S C : Type) where
  | status (snapshot : S)
  | connPath (snapshot : C)
  | connected
  | error (message : String)
deriving DecidableEq, Repr

/-! ## Reading a line -/

/-- How reading a connection fails. `overflow` is the panic of a subtraction below zero. -/
inductive ReadError where
  | invalidData (message : String)
  | unexpectedEof
  | overflow
deriving DecidableEq, Repr

def ReadError.message : ReadError → String
  | .invalidData message => message
  | .unexpectedEof => "early eof"
  | .overflow => "attempt to subtract with overflow"

structure LineRead where
  result : Except ReadError Nat
  line : List UInt8
  rest : Chunks UInt8

def isLineEnd (b : UInt8) : Bool := b == 10 || b == 13

/-- The turns of the loop, with the line and the count read so far.
SOURCE: 622-641 -/
def readLineLoop (reader : Chunks UInt8) (buf : List UInt8) (total : Nat) : LineRead :=
  if maxLine + 1 < buf.length then ⟨.error .overflow, buf, reader⟩
  else
    let taken := readUntil 10 ⟨reader, maxLine + 1 - buf.length⟩ buf 0
    if taken.1 = 0 ∨ taken.2.1.getLast? = some 10 then
      ⟨.ok (total + taken.1), taken.2.1.rdropWhile isLineEnd, taken.2.2.inner⟩
    else if maxLine < taken.2.1.length then
      ⟨.error (.invalidData "control message exceeds the 1 MiB line cap"), taken.2.1,
        taken.2.2.inner⟩
    else readLineLoop taken.2.2.inner taken.2.1 (total + taken.1)
termination_by reader.contents.length
decreasing_by exact length_readUntil_lt fun h => ‹¬ (_ ∨ _)› (.inl h)

/-- SOURCE: 615-642 -/
def readLineCapped (reader : Chunks UInt8) (buf : List UInt8) : LineRead :=
  readLineLoop reader buf 0

/-- The line is over the cap: that many bytes are there, without a line end. -/
def OverCap (bytes : List UInt8) : Prop :=
  maxLine + 1 ≤ bytes.length ∧ 10 ∉ bytes.take (maxLine + 1)

theorem overCap_append {line : List UInt8} (hline : JsonText.ControlFree line)
    (hlen : maxLine < line.length) (further : List UInt8) : OverCap (line ++ further) := by
  refine ⟨by rw [List.length_append]; omega, ?_⟩
  rw [List.take_append_of_le_length hlen]
  exact fun hmem => hline.notMem (by decide) (List.mem_of_mem_take hmem)

section ReadLine

variable {reader : Chunks UInt8}

theorem readLineLoop_eof (hnil : reader.contents = []) (buf : List UInt8)
    (hbuf : buf.length ≤ maxLine + 1) (total : Nat) :
    ∃ rest, readLineLoop reader buf total = ⟨.ok total, buf.rdropWhile isLineEnd, rest⟩ ∧
      rest.contents = [] := by
  obtain ⟨rest, heq, hrest⟩ := readUntil_eq 10 ⟨reader, maxLine + 1 - buf.length⟩ buf 0
  have hwindow : Limited.window ⟨reader, maxLine + 1 - buf.length⟩ = [] := by
    simp [Limited.window, hnil]
  rw [hwindow] at heq hrest
  have htaken : readUntil 10 ⟨reader, maxLine + 1 - buf.length⟩ buf 0 = (0, buf, rest) := by
    rw [heq]
    simp [through]
  refine ⟨rest.inner, ?_, ?_⟩
  · rw [readLineLoop, if_neg (Nat.not_lt.2 hbuf)]
    simp only [htaken, true_or, if_true, Nat.add_zero]
  · rw [hrest, hnil, List.drop_nil]

theorem readLineCapped_first {n : Nat} {line : List UInt8} {rest : Limited UInt8}
    (htaken : readUntil 10 ⟨reader, maxLine + 1⟩ [] 0 = (n, line, rest)) :
    readLineCapped reader [] =
      if n = 0 ∨ line.getLast? = some 10 then ⟨.ok n, line.rdropWhile isLineEnd, rest.inner⟩
      else if maxLine < line.length then
        ⟨.error (.invalidData "control message exceeds the 1 MiB line cap"), line, rest.inner⟩
      else readLineLoop rest.inner line n := by
  rw [readLineCapped, readLineLoop, if_neg (by simp)]
  simp only [List.length_nil, Nat.sub_zero, htaken, Nat.zero_add]

/-- A line over the cap is refused once the cap and one more byte are read. -/
theorem readLineCapped_overCap (h : OverCap reader.contents) :
    ∃ rest, readLineCapped reader [] =
        ⟨.error (.invalidData "control message exceeds the 1 MiB line cap"),
          reader.contents.take (maxLine + 1), rest⟩ ∧
      rest.contents = reader.contents.drop (maxLine + 1) := by
  obtain ⟨hlong, hnone⟩ := h
  obtain ⟨rest, heq, hrest⟩ := readUntil_eq 10 ⟨reader, maxLine + 1⟩ [] 0
  have hthrough : through 10 (Limited.window ⟨reader, maxLine + 1⟩) =
      reader.contents.take (maxLine + 1) := through_of_notMem hnone
  have hlen : (reader.contents.take (maxLine + 1)).length = maxLine + 1 :=
    List.length_take_of_le hlong
  rw [hthrough, hlen, Nat.zero_add, List.nil_append] at heq
  rw [hthrough, hlen] at hrest
  have hlast : (reader.contents.take (maxLine + 1)).getLast? ≠ some 10 :=
    fun hlast => hnone (List.mem_of_getLast? hlast)
  refine ⟨rest.inner, ?_, hrest⟩
  rw [readLineCapped_first heq, if_neg (by simp [hlast]), if_pos (by omega)]

/-- A line within the cap is read without its line end, and what follows is left. -/
theorem readLineCapped_line (h : ¬ OverCap reader.contents) :
    ∃ rest, readLineCapped reader [] =
        ⟨.ok (through 10 reader.contents).length,
          (through 10 reader.contents).rdropWhile isLineEnd, rest⟩ ∧
      rest.contents = reader.contents.drop (through 10 reader.contents).length := by
  obtain ⟨rest, heq, hrest⟩ := readUntil_eq 10 ⟨reader, maxLine + 1⟩ [] 0
  have hwindow : Limited.window ⟨reader, maxLine + 1⟩ = reader.contents.take (maxLine + 1) := rfl
  rw [hwindow, Nat.zero_add, List.nil_append] at heq
  rw [hwindow] at hrest
  by_cases hmem : 10 ∈ reader.contents.take (maxLine + 1)
  · -- the first turn finds the line end
    have hthrough : through 10 (reader.contents.take (maxLine + 1)) =
        through 10 reader.contents := by
      conv_rhs => rw [← List.take_append_drop (maxLine + 1) reader.contents]
      rw [through_append_of_mem hmem]
    have hlast := getLast?_through (List.mem_of_mem_take hmem)
    rw [hthrough] at heq hrest
    exact ⟨rest.inner, by rw [readLineCapped_first heq, if_pos (.inr hlast)], hrest⟩
  -- there is none, and the connection ends before the cap
  have hshort : reader.contents.length < maxLine + 1 :=
    Nat.lt_of_not_le fun hle => h ⟨hle, hmem⟩
  rw [List.take_of_length_le (Nat.le_of_lt hshort)] at hmem heq hrest
  have hthrough : through 10 reader.contents = reader.contents := through_of_notMem hmem
  have hlast : reader.contents.getLast? ≠ some 10 :=
    fun hlast => hmem (List.mem_of_getLast? hlast)
  rw [hthrough] at heq hrest ⊢
  rw [List.drop_length] at hrest ⊢
  by_cases hnil : reader.contents = []
  · obtain ⟨rest', heof, hrest'⟩ :=
      readLineLoop_eof hnil [] (Nat.zero_le _) 0
    exact ⟨rest', by rw [hnil]; exact heof, hrest'⟩
  obtain ⟨rest', heof, hrest'⟩ :=
    readLineLoop_eof hrest reader.contents (Nat.le_of_lt hshort) reader.contents.length
  refine ⟨rest', ?_, hrest'⟩
  rw [readLineCapped_first heq, if_neg (by simp [hnil, hlast]),
    if_neg (Nat.not_lt.2 (Nat.le_of_lt_succ hshort)), heof]

theorem rdropWhile_isLineEnd {line : List UInt8} (h : JsonText.ControlFree line) :
    line.rdropWhile isLineEnd = line := by
  rw [List.rdropWhile_eq_self_iff]
  intro hne
  have hlast := h _ (List.getLast_mem hne)
  simp only [isLineEnd, Bool.or_eq_true, beq_iff_eq]
  rintro (hlf | hcr)
  · rw [hlf] at hlast
    exact absurd hlast (by decide)
  · rw [hcr] at hlast
    exact absurd hlast (by decide)

theorem readLineCapped_controlFree {line further : List UInt8}
    (hline : JsonText.ControlFree line) (hlen : line.length ≤ maxLine)
    (hbytes : reader.contents = line ++ 10 :: further) :
    ∃ rest, readLineCapped reader [] = ⟨.ok (line.length + 1), line, rest⟩ ∧
      rest.contents = further := by
  have hthrough : through 10 reader.contents = line ++ [10] := by
    rw [hbytes, through_append_cons (hline.notMem (by decide))]
  have hcap : ¬ OverCap reader.contents := by
    rintro ⟨-, hnone⟩
    obtain ⟨k, hk⟩ : ∃ k, maxLine + 1 - line.length = k + 1 := ⟨maxLine - line.length, by omega⟩
    refine hnone ?_
    rw [hbytes, List.take_append, hk, List.take_succ_cons]
    exact List.mem_append_right _ List.mem_cons_self
  obtain ⟨rest, hout, hrest⟩ := readLineCapped_line hcap
  rw [hthrough, List.rdropWhile_concat_pos _ _ _ (by decide), rdropWhile_isLineEnd hline] at hout
  rw [hthrough, hbytes] at hrest
  refine ⟨rest, ?_, ?_⟩
  · rw [hout, List.length_append, List.length_singleton]
  · rw [hrest, List.append_cons line 10 further, List.drop_left]

/-- A stream that ends inside a line gives what there is of it. -/
theorem readLineCapped_cutOff (hline : JsonText.ControlFree reader.contents)
    (hlen : reader.contents.length ≤ maxLine) :
    ∃ rest, readLineCapped reader [] = ⟨.ok reader.contents.length, reader.contents, rest⟩ ∧
      rest.contents = [] := by
  have hthrough : through 10 reader.contents = reader.contents :=
    through_of_notMem (hline.notMem (by decide))
  have hcap : ¬ OverCap reader.contents := fun h => absurd h.1 (by omega)
  obtain ⟨rest, hout, hrest⟩ := readLineCapped_line hcap
  rw [hthrough, rdropWhile_isLineEnd hline] at hout
  rw [hthrough, List.drop_length] at hrest
  exact ⟨rest, hout, hrest⟩

theorem length_readLineCapped_lt {total : Nat}
    (h : (readLineCapped reader []).result = .ok total) (htotal : total ≠ 0) :
    (readLineCapped reader []).rest.contents.length < reader.contents.length := by
  by_cases hover : OverCap reader.contents
  · obtain ⟨rest, hout, -⟩ := readLineCapped_overCap hover
    rw [hout] at h
    cases h
  obtain ⟨rest, hout, hrest⟩ := readLineCapped_line hover
  rw [hout] at h ⊢
  cases h
  have hle := (through_isPrefix 10 reader.contents).length_le
  simp only [hrest, List.length_drop]
  omega

end ReadLine

/-! ## Tunnel frames -/

/-- The frames a payload is sent in: each read of the payload behind its length, the empty read
at its end too.
SOURCE: 507-521 -/
def copyToFrames (reader : Chunks UInt8) : List UInt8 :=
  Reader.be32 (reader.read maxFrame).1.length ++ (reader.read maxFrame).1 ++
    if (reader.read maxFrame).1.isEmpty then [] else copyToFrames (reader.read maxFrame).2
termination_by reader.contents.length
decreasing_by exact Chunks.length_read_lt ‹_›

/-- The far end of an opened tunnel, by the bytes it was sent so far: whether the download has
ended, whether a further write succeeds, and whether the half-close does. -/
structure TunnelEnd where
  ended : List UInt8 → Bool
  takes : List UInt8 → List UInt8 → Bool
  shutsDown : List UInt8 → Bool

inductive UploadEnd where
  | finished
  | readFailed (e : ReadError)
  | writeFailed
  | cut
deriving DecidableEq, Repr

structure Upload where
  writes : List (List UInt8)
  result : UploadEnd
  rest : Chunks UInt8

/-- Copy frames into the tunnel until the empty one. The relay around it stops as soon as the
download has ended; that is looked at before each frame.
SOURCE: 524-544, 485-499 -/
def copyFromFrames (tunnel : TunnelEnd) (sent : List UInt8) (reader : Chunks UInt8) : Upload :=
  if tunnel.ended sent then ⟨[], .cut, reader⟩
  else
    match _ : reader.readExact 4 with
    | none => ⟨[], .readFailed .unexpectedEof, .ofPieces []⟩
    | some head =>
      let len := Reader.ofBe head.1
      if len = 0 then ⟨[], .finished, head.2⟩
      else if maxFrame < len then
        let message := "tunnel frame of " ++ toString len ++ " bytes exceeds " ++ toString maxFrame
        ⟨[], .readFailed (.invalidData message), head.2⟩
      else
        match _ : head.2.readExact len with
        | none => ⟨[], .readFailed .unexpectedEof, .ofPieces []⟩
        | some body =>
          if tunnel.takes sent body.1 then
            let more := copyFromFrames tunnel (sent ++ body.1) body.2
            { more with writes := body.1 :: more.writes }
          else ⟨[], .writeFailed, body.2⟩
termination_by reader.contents.length
decreasing_by
  have hlt := Chunks.length_readExact ‹reader.readExact 4 = _›
  have hle := Chunks.length_readExact ‹head.2.readExact _ = _›
  omega

/-! ## Serving a connection -/

/-- What the session loop and the opener of tunnels answer at one moment; the loop is gone
where it answers nothing. -/
structure SessionReplies (S C : Type) where
  status : Option S
  connPath : Option C
  opens : Target → Except String TunnelEnd

namespace SessionReplies

variable {S C : Type}

/-- SOURCE: 556-560, 602-613 -/
def dispatch (replies : SessionReplies S C) : IpcRequest → Option (IpcResponse S C)
  | .status => replies.status.map .status
  | .connPath => replies.connPath.map .connPath
  | .connect _ _ => none

/-- The answer to a line that is no `Connect`.
SOURCE: 432-438 -/
def respondTo (replies : SessionReplies S C) : Except String IpcRequest →
    Option (IpcResponse S C)
  | .ok request => replies.dispatch request
  | .error e => some (.error ("Bad request: " ++ e))

/-- The tunnel a `Connect` asks for, or the message of the answer that refuses it.
SOURCE: 460-474 -/
def openTunnel (replies : SessionReplies S C) (host : String) (port : UInt16) :
    Except String (Target × TunnelEnd) :=
  let target := host ++ ":" ++ toString port.toNat
  let opened : Except String (Target × TunnelEnd) := do
    let bare ← validateRemoteHost host
    if port = 0 then throw "port must be 1-65535"
    let tunnel ← replies.opens (.domain bare port)
    return (.domain bare port, tunnel)
  opened.mapError fun e => target ++ ": " ++ e

end SessionReplies

inductive ServeEvent (S C : Type) where
  | parsed (request : Except String IpcRequest)
  | responded (response : IpcResponse S C)
  | opened (target : Target)
  | wrote (bytes : List UInt8)
  | shutdown

structure Served (S C : Type) where
  events : List (ServeEvent S C)
  rest : Chunks UInt8

/-- The session end of a connection: the parser of requests, what the session answers to the
`n`-th line, and whether that answer could be written. -/
structure ControlServer (S C : Type) where
  fromSlice : List UInt8 → Except String IpcRequest
  replies : Nat → SessionReplies S C
  responds : Nat → Bool

namespace ControlServer

variable {S C : Type}

/-- SOURCE: 446-503 -/
def serveTunnel (server : ControlServer S C) (n : Nat) (stream : Chunks UInt8) (host : String)
    (port : UInt16) : Served S C :=
  match (server.replies n).openTunnel host port with
  | .error message =>
    ⟨if server.responds n then [.responded (.error message)] else [], stream⟩
  | .ok (target, tunnel) =>
    if server.responds n then
      let upload := copyFromFrames tunnel [] stream
      let half := upload.result = .finished ∧ tunnel.shutsDown upload.writes.flatten
      ⟨[.opened target, .responded .connected] ++ upload.writes.map .wrote ++
          if half then [.shutdown] else [],
        upload.rest⟩
    else ⟨[.opened target], stream⟩

/-- Serve the connection from its `n`-th line on.
SOURCE: 410-444 -/
def serveConnection (server : ControlServer S C) (n : Nat) (stream : Chunks UInt8) : Served S C :=
  match _ : (readLineCapped stream []).result with
  | .error _ => ⟨[], (readLineCapped stream []).rest⟩
  | .ok total =>
    if total = 0 then ⟨[], (readLineCapped stream []).rest⟩
    else
      let parsed := server.fromSlice (readLineCapped stream []).line
      let served :=
        match parsed with
        | .ok (.connect host port) =>
          server.serveTunnel n (readLineCapped stream []).rest host port
        | _ =>
          match (server.replies n).respondTo parsed with
          | none => ⟨[], (readLineCapped stream []).rest⟩
          | some response =>
            if server.responds n then
              let more := server.serveConnection (n + 1) (readLineCapped stream []).rest
              { more with events := .responded response :: more.events }
            else ⟨[], (readLineCapped stream []).rest⟩
      { served with events := .parsed parsed :: served.events }
termination_by stream.contents.length
decreasing_by exact length_readLineCapped_lt ‹_› ‹_›

end ControlServer

end Flextunnel.Model
