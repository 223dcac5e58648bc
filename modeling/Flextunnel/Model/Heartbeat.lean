import Flextunnel.Lib.JsonText
import Flextunnel.Lib.Pipe
import Flextunnel.Model.Client

/-!
# The heartbeat over the control stream

After the handshake the first stream stays open: the client sends a heartbeat at its current
cadence and waits for the acknowledgement, the server answers each heartbeat. The machine
interleaves the two loops with the clock, with the reports that move the app between foreground
and background, and with the two directions of the stream, byte by byte: a write puts some of
its bytes in, a read takes some of what it still needs out, and either direction may close at
any time.

`decodeControl` is `serde_json::from_slice`. What `to_vec` writes is spelled out
(`ControlMsg.toJson`), since its length is compared with the limit on frames.

The server's refresh of its registry shows as the event `heard`; the registry itself is modelled
with the server.

Unnamed source lines are of `core/proxy/client.rs`.
-/

set_option autoImplicit false

namespace Flextunnel.Model

open Lib

/-- SOURCE: core/transport/mod.rs:41 -/
def heartbeatInterval : Nat := 10 * second

/-! ## Frames -/

/-- SOURCE: core/proxy/signaling.rs:276-286 -/
def ControlMsg.toJson : ControlMsg → List UInt8
  | .heartbeat seq =>
    JsonText.object [("Heartbeat", JsonText.object [("seq", JsonText.number seq.toNat)])]
  | .heartbeatAck seq =>
    JsonText.object [("HeartbeatAck", JsonText.object [("seq", JsonText.number seq.toNat)])]

example : (ControlMsg.heartbeat 7).toJson =
    Reader.utf8 "\x7b\"Heartbeat\":\x7b\"seq\":7\x7d\x7d" := by decide +kernel

inductive Progress where
  /-- It waits for so many bytes more. -/
  | more (needed : Nat)
  | tooLarge (len : Nat)
  | done (data : List UInt8)
deriving DecidableEq, Repr

/-- `read_message` on the bytes it was given so far: first the length, then the payload.
SOURCE: core/proxy/signaling.rs:312-327 -/
def readProgress (maxSize : Nat) (got : List UInt8) : Progress :=
  match (Reader.u32 StreamError.eof).run got with
  | .error _ => .more (4 - got.length)
  | .ok (len, payload) =>
    if maxSize < len then .tooLarge len
    else if payload.length < len then .more (len - payload.length)
    else .done (payload.take len)

/-! ## Errors -/

inductive HeartbeatError where
  | timedOut
  /-- The stream was closed while something was read or written; `e` is the error's text. -/
  | readClosed (e : String)
  | writeClosed (e : String)
  /-- A message that does not fit a frame. -/
  | unwritable (e : StreamError)
  /-- A frame over `MAX_CONTROL_MSG_SIZE`. -/
  | tooLarge (len : Nat)
  | undecodable (e : String)
  /-- An answer that is not the acknowledgement of the last heartbeat. -/
  | mismatched (seq : UInt64) (got : ControlMsg)
  /-- A message only the server sends. -/
  | unexpected (got : ControlMsg)
deriving DecidableEq, Repr

/-! ## The two loops -/

inductive BeatPc where
  /-- In the `select`: asleep until the beat is due, or until the cadence may have changed. -/
  | waiting (lastBeat interval : Nat)
  /-- Asleep with no one left to change the cadence. -/
  | sleeping (lastBeat interval : Nat)
  /-- Writing the heartbeat; no timeout runs. -/
  | writing (interval : Nat)
  /-- Reading the answer under the timeout. -/
  | awaiting (deadline : Nat)
  | ended (e : HeartbeatError)
deriving DecidableEq, Repr

inductive AckPc where
  | reading (deadline : Nat)
  | writing
  | ended (e : HeartbeatError)
deriving DecidableEq, Repr

/-- Both loops and what lies between them. `clientOut` and `serverOut` are what a write still
has to put in, `clientIn` and `serverIn` what a read has got. -/
structure HeartbeatLoops where
  client : BeatPc
  seq : UInt64
  clientOut : List UInt8
  clientIn : List UInt8
  server : AckPc
  serverOut : List UInt8
  serverIn : List UInt8
  /-- From the client to the server, and back. -/
  up : Pipe UInt8
  down : Pipe UInt8
  background : Bool
  /-- The value of `background` was set since the loop last saw it change. -/
  changed : Bool
  /-- The sender of `background` was dropped. -/
  senderGone : Bool
  now : Nat

inductive HeartbeatEvent where
  /-- The client begins to send a heartbeat. -/
  | beat (seq : UInt64)
  /-- The server has read a heartbeat, and refreshes the client's registry entry. -/
  | heard (seq : UInt64)
  | acked (seq : UInt64)
  | clientEnded (e : HeartbeatError)
  | serverEnded (e : HeartbeatError)
deriving DecidableEq, Repr

inductive HeartbeatLabel where
  | tick (d : Nat)
  | setBackground (background : Bool)
  | dropSender
  /-- `background.changed()` returns. -/
  | cadenceChanged
  /-- The beat is due. -/
  | beat
  | clientWrite (n : Nat)
  | clientFlush
  | clientRead (n : Nat)
  | clientTimeout
  | clientClosed (e : String)
  | serverRead (n : Nat)
  | serverTimeout
  | serverWrite (n : Nat)
  | serverFlush
  | serverClosed (e : String)
  /-- A direction is closed, and all but `keep` bytes under way are lost. -/
  | closeUp (keep : Nat)
  | closeDown (keep : Nat)
deriving DecidableEq, Repr

namespace HeartbeatLoops

section

variable (decodeControl : List UInt8 → Except String ControlMsg) (s : HeartbeatLoops)

/-- SOURCE: 1106-1110 -/
def interval : Nat := if s.background then heartbeatIntervalIdle else heartbeatInterval

/-- SOURCE: 1103-1106 -/
def nextBeat : HeartbeatLoops := { s with client := .waiting s.now s.interval }

def endClient (e : HeartbeatError) : HeartbeatLoops × List HeartbeatEvent :=
  ({ s with client := .ended e }, [.clientEnded e])

def endServer (e : HeartbeatError) : HeartbeatLoops × List HeartbeatEvent :=
  ({ s with server := .ended e }, [.serverEnded e])

/-- The beat that is due begins.
SOURCE: 1123-1128 -/
def sendBeat (interval : Nat) : HeartbeatLoops × List HeartbeatEvent :=
  let seq := s.seq + 1
  match writeMessage (ControlMsg.heartbeat seq).toJson with
  | .ok frame => ({ s with seq, client := .writing interval, clientOut := frame }, [.beat seq])
  | .error e => endClient { s with seq } (.unwritable e)

/-- The client has read `got`.
SOURCE: 1131-1149 -/
def clientGot (got : List UInt8) : HeartbeatLoops × List HeartbeatEvent :=
  match readProgress maxControlMsgSize got with
  | .more _ => ({ s with clientIn := got }, [])
  | .tooLarge len => s.endClient (.tooLarge len)
  | .done data =>
    match decodeControl data with
    | .error e => s.endClient (.undecodable e)
    | .ok (.heartbeatAck ack) =>
      if ack = s.seq then (nextBeat { s with clientIn := [] }, [.acked ack])
      else s.endClient (.mismatched s.seq (.heartbeatAck ack))
    | .ok other => s.endClient (.mismatched s.seq other)

/-- The server has read `got`.
SOURCE: core/proxy/server.rs:803-842 -/
def serverGot (got : List UInt8) : HeartbeatLoops × List HeartbeatEvent :=
  match readProgress maxControlMsgSize got with
  | .more _ => ({ s with serverIn := got }, [])
  | .tooLarge len => s.endServer (.tooLarge len)
  | .done data =>
    match decodeControl data with
    | .error e => s.endServer (.undecodable e)
    | .ok (.heartbeat seq) =>
      match writeMessage (ControlMsg.heartbeatAck seq).toJson with
      | .ok frame =>
        ({ s with server := .writing, serverIn := [], serverOut := frame }, [.heard seq])
      | .error e => s.endServer (.unwritable e)
    | .ok (.heartbeatAck seq) => s.endServer (.unexpected (.heartbeatAck seq))

def taken (p : Pipe UInt8) (got : List UInt8) (n : Nat) : Option (List UInt8 × Pipe UInt8) :=
  match readProgress maxControlMsgSize got with
  | .more needed => if n ≤ needed then p.get n else none
  | _ => none

/-- SOURCE: 1097-1151,
core/proxy/server.rs:797-844 -/
def step : HeartbeatLabel → Option (HeartbeatLoops × List HeartbeatEvent)
  | .tick d => some ({ s with now := s.now + d }, [])
  | .setBackground background =>
    if s.senderGone then none else some ({ s with background, changed := true }, [])
  | .dropSender => some ({ s with senderGone := true }, [])
  | .cadenceChanged =>
    match s.client with
    | .waiting lastBeat interval =>
      if s.changed then
        some ({ s with changed := false, client := .waiting lastBeat s.interval }, [])
      else if s.senderGone then some ({ s with client := .sleeping lastBeat interval }, [])
      else none
    | _ => none
  | .beat =>
    match s.client with
    | .waiting lastBeat interval | .sleeping lastBeat interval =>
      if lastBeat + interval ≤ s.now then some (s.sendBeat interval) else none
    | _ => none
  | .clientWrite n =>
    match s.client with
    | .writing _ => (s.up.put n s.clientOut).map fun r =>
      ({ s with up := r.1, clientOut := r.2 }, [])
    | _ => none
  | .clientFlush =>
    match s.client with
    | .writing interval =>
      if s.clientOut.isEmpty then
        some ({ s with client := .awaiting (s.now + livenessWindowOf interval) }, [])
      else none
    | _ => none
  | .clientRead n =>
    match s.client with
    | .awaiting _ =>
      (taken s.down s.clientIn n).map fun r =>
        clientGot decodeControl { s with down := r.2 } (s.clientIn ++ r.1)
    | _ => none
  | .clientTimeout =>
    match s.client with
    | .awaiting deadline => if deadline ≤ s.now then some (s.endClient .timedOut) else none
    | _ => none
  | .clientClosed e =>
    match s.client with
    | .writing _ => if s.up.closed then some (s.endClient (.writeClosed e)) else none
    | .awaiting _ =>
      if s.down.closed && s.down.flight.isEmpty then some (s.endClient (.readClosed e)) else none
    | _ => none
  | .serverRead n =>
    match s.server with
    | .reading _ =>
      (taken s.up s.serverIn n).map fun r =>
        serverGot decodeControl { s with up := r.2 } (s.serverIn ++ r.1)
    | _ => none
  | .serverTimeout =>
    match s.server with
    | .reading deadline => if deadline ≤ s.now then some (s.endServer .timedOut) else none
    | _ => none
  | .serverWrite n =>
    match s.server with
    | .writing => (s.down.put n s.serverOut).map fun r =>
      ({ s with down := r.1, serverOut := r.2 }, [])
    | _ => none
  | .serverFlush =>
    match s.server with
    | .writing =>
      if s.serverOut.isEmpty then some ({ s with server := .reading (s.now + livenessWindow) }, [])
      else none
    | _ => none
  | .serverClosed e =>
    match s.server with
    | .writing => if s.down.closed then some (s.endServer (.writeClosed e)) else none
    | .reading _ =>
      if s.up.closed && s.up.flight.isEmpty then some (s.endServer (.readClosed e)) else none
    | _ => none
  | .closeUp keep => some ({ s with up := s.up.close keep }, [])
  | .closeDown keep => some ({ s with down := s.down.close keep }, [])

end

end HeartbeatLoops

def heartbeatLoops (decodeControl : List UInt8 → Except String ControlMsg) :
    Machine HeartbeatLoops HeartbeatLabel HeartbeatEvent where
  init := fun s => s.client = .waiting s.now s.interval ∧ s.seq = 0 ∧ s.clientOut = [] ∧
    s.clientIn = [] ∧ s.server = .reading (s.now + livenessWindow) ∧ s.serverOut = [] ∧
    s.serverIn = [] ∧ s.up = {} ∧ s.down = {}
  step := fun s l => s.step decodeControl l

end Flextunnel.Model
