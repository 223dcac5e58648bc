import Flextunnel.Lib.Machine
import Flextunnel.Model.Ipc

/-!
# Requests over the control channel

An attached command calls `IpcClient::request` again and again, over a connection that it keeps
from one call to the next. On the session's side every connection has a task of its own that
reads lines and answers them. The two are the parties of one machine: bytes move between them
a part at a time, and each party takes its steps whenever it can.

A read of a line is one step, taken when the bytes that are there settle it: nothing else is
seen of a read that is still waiting, and a call that times out drops its connection together
with what it had read. A connection is closed by the task at its end; writing to it fails from
then on, and what was written before can still be read.
-/

set_option autoImplicit false

namespace Flextunnel.Model

open Lib

variable {S C : Type}

/-- What `serde_json` makes of the lines of a connection: requests and responses from a line,
and the text of a response. -/
structure ControlJson (S C : Type) where
  request : List UInt8 → Except String IpcRequest
  response : List UInt8 → Except String (IpcResponse S C)
  toVec : IpcResponse S C → List UInt8

/-- What a response's text is relied on for: it is read back, it fits on a line, and no
beginning of it is a response of its own. -/
structure ControlJson.Lawful (json : ControlJson S C) : Prop where
  response_toVec : ∀ response, json.response (json.toVec response) = .ok response
  controlFree : ∀ response, JsonText.ControlFree (json.toVec response)
  whole : ∀ response bytes other, bytes <+: json.toVec response →
    json.response bytes = .ok other → bytes = json.toVec response

/-! ## The session's end of a connection -/

inductive AfterResponse where
  | readOn
  | relay
  | finish
deriving DecidableEq, Repr

/-- Where `serve_connection` stands: in a read, waiting for an answer to a line, writing one,
relaying a tunnel, or at its end. -/
inductive ServeTask where
  | reading
  | answering (line : List UInt8)
  | writing (out : List UInt8) (after : AfterResponse)
  | relaying
  | ended
deriving DecidableEq, Repr

def AfterResponse.task : AfterResponse → ServeTask
  | .readOn => .reading
  | .relay => .relaying
  | .finish => .ended

/-- A connection: the bytes under way in both directions, whether the command has dropped its
end, the task of the session's end, and the counts of requests begun and of lines answered. -/
structure ControlConn where
  toSession : List UInt8 := []
  toClient : List UInt8 := []
  dropped : Bool := false
  task : ServeTask := .reading
  asked : Nat := 0
  answered : Nat := 0
deriving DecidableEq, Repr

def lineReady (bytes : List UInt8) (closed : Bool) : Bool :=
  closed || decide (maxLine < bytes.length) || bytes.contains 10

/-- The answer to a line, and what comes after it; `none` if the session loop is gone.
SOURCE: cli/ipc.rs:428-438, 460-503 -/
def ControlJson.serveLine (json : ControlJson S C) (replies : SessionReplies S C)
    (line : List UInt8) : Option (IpcResponse S C × AfterResponse) :=
  match json.request line with
  | .ok (.connect host port) =>
    match replies.openTunnel host port with
    | .ok _ => some (.connected, .relay)
    | .error message => some (.error message, .finish)
  | parsed => (replies.respondTo parsed).map fun response => (response, .readOn)

/-- What can happen at the session's end of a connection. `ends` stands for all that ends a
task from outside: a failed write, the target closing, the session shutting down. -/
inductive ServeMove (S C : Type) where
  | reads (bytes : Chunks UInt8)
  | answers (replies : SessionReplies S C)
  | writes (n : Nat)
  | relays (bytes : List UInt8)
  | ends

/-- A move of the session's end, and the answer it produced.
SOURCE: cli/ipc.rs:410-444 -/
def ControlConn.serve (json : ControlJson S C) (conn : ControlConn) :
    ServeMove S C → Option (ControlConn × Option (List UInt8 × IpcResponse S C))
  | .reads bytes =>
    if conn.task = .reading ∧ bytes.contents = conn.toSession ∧
        lineReady conn.toSession conn.dropped then
      let read := readLineCapped bytes []
      let task := if read.result.toOption.getD 0 = 0 then .ended else .answering read.line
      some ({ conn with toSession := read.rest.contents, task }, none)
    else none
  | .answers replies =>
    match conn.task with
    | .answering line =>
      match json.serveLine replies line with
      | none => some ({ conn with task := .ended }, none)
      | some (response, after) =>
        let task := .writing (json.toVec response ++ [10]) after
        some ({ conn with task, answered := conn.answered + 1 }, some (line, response))
    | _ => none
  | .writes n =>
    match conn.task with
    | .writing out after =>
      if 0 < n ∧ n ≤ out.length then
        let task := if out.drop n = [] then after.task else .writing (out.drop n) after
        some ({ conn with toClient := conn.toClient ++ out.take n, task }, none)
      else none
    | _ => none
  | .relays bytes =>
    if conn.task = .relaying then
      some ({ conn with toClient := conn.toClient ++ bytes }, none)
    else none
  | .ends => some ({ conn with task := .ended }, none)

/-! ## The command's end -/

/-- Where a call stands, with its number and its request: before its round trip, writing the
request, or reading the response. -/
inductive ClientCall where
  | idle
  | called (k : Nat) (request : IpcRequest)
  | writing (k : Nat) (request : IpcRequest) (out : List UInt8)
  | reading (k : Nat) (request : IpcRequest)
deriving DecidableEq, Repr

/-- The response a round trip reads, and what it leaves of the connection.
SOURCE: cli/ipc.rs:786-791 -/
def ControlJson.readResponse (json : ControlJson S C) (bytes : Chunks UInt8) :
    Except String (IpcResponse S C) × List UInt8 :=
  let read := readLineCapped bytes []
  let response :=
    match read.result with
    | .error e => .error e.message
    | .ok total =>
      if total = 0 then .error "The client closed the control connection"
      else (json.response read.line).mapError fun _ => "Malformed control response"
  (response, read.rest.contents)

/-- The connections made so far, the one that is kept, the call under way and how many there
were. -/
structure ControlState where
  conns : List ControlConn
  stream : Option Nat
  call : ClientCall
  calls : Nat
deriving DecidableEq, Repr

/-- A client that has just connected.
SOURCE: cli/ipc.rs:667-676 -/
def ControlState.connected : ControlState :=
  { conns := [{}], stream := some 0, call := .idle, calls := 0 }

inductive ControlLabel (S C : Type) where
  | request (request : IpcRequest)
  | reconnects
  | reconnectFails (message : String)
  | begins
  | writes (n : Nat)
  | writeFails (message : String)
  | reads (bytes : Chunks UInt8)
  | readFails (message : String)
  | timesOut
  | session (i : Nat) (move : ServeMove S C)

/-- A request was begun as the `n`-th on its connection, an answer was produced for the `n`-th
line of a connection, or a call ended. -/
inductive ControlEvent (S C : Type) where
  | asked (k i n : Nat) (request : IpcRequest)
  | produced (i n : Nat) (line : List UInt8) (response : IpcResponse S C)
  | returned (k : Nat) (response : IpcResponse S C)
  | failed (k : Nat) (message : String)
deriving DecidableEq, Repr

def ControlEvent.ofResult (k : Nat) : Except String (IpcResponse S C) → ControlEvent S C
  | .ok response => .returned k response
  | .error message => .failed k message

def ControlState.held (s : ControlState) : Option (Nat × ControlConn) :=
  s.stream.bind fun i => (s.conns[i]?).map fun conn => (i, conn)

/-- One step of the command or of the session.
SOURCE: cli/ipc.rs:711-747, 778-792 -/
def ControlState.step (json : ControlJson S C) (s : ControlState) :
    ControlLabel S C → Option (ControlState × List (ControlEvent S C))
  | .request request =>
    match s.call with
    | .idle => some ({ s with call := .called s.calls request, calls := s.calls + 1 }, [])
    | _ => none
  | .reconnects =>
    match s.call, s.stream with
    | .called _ _, none =>
      some ({ s with conns := s.conns ++ [{}], stream := some s.conns.length }, [])
    | _, _ => none
  | .reconnectFails message =>
    match s.call, s.stream with
    | .called k _, none => some ({ s with call := .idle }, [.failed k message])
    | _, _ => none
  | .begins =>
    match s.call, s.held with
    | .called k request, some (i, conn) =>
      some ({ s with
          conns := s.conns.set i { conn with asked := conn.asked + 1 }
          call := .writing k request (request.toVec ++ [10]) },
        [.asked k i conn.asked request])
    | _, _ => none
  | .writes n =>
    match s.call, s.held with
    | .writing k request out, some (i, conn) =>
      if conn.task ≠ .ended ∧ 0 < n ∧ n ≤ out.length then
        let call := if out.drop n = [] then .reading k request else .writing k request (out.drop n)
        some ({ s with
            conns := s.conns.set i { conn with toSession := conn.toSession ++ out.take n }
            call }, [])
      else none
    | _, _ => none
  | .writeFails message =>
    match s.call, s.held with
    | .writing k _ _, some (_, conn) =>
      if conn.task = .ended then some ({ s with call := .idle }, [.failed k message]) else none
    | _, _ => none
  | .reads bytes =>
    match s.call, s.held with
    | .reading k _, some (i, conn) =>
      if bytes.contents = conn.toClient ∧ lineReady conn.toClient (conn.task = .ended) then
        let read := json.readResponse bytes
        some ({ s with
            conns := s.conns.set i { conn with toClient := read.2 }, call := .idle },
          [.ofResult k read.1])
      else none
    | _, _ => none
  | .readFails message =>
    match s.call, s.held with
    | .reading k _, some (_, conn) =>
      if conn.task = .ended then some ({ s with call := .idle }, [.failed k message]) else none
    | _, _ => none
  | .timesOut =>
    let dropStream (k i : Nat) (conn : ControlConn) :=
      some ({ s with
          conns := s.conns.set i { conn with dropped := true }, stream := none, call := .idle },
        [.failed k "Timed out waiting for the client's response"])
    match s.call, s.held with
    | .writing k _ _, some (i, conn) => dropStream k i conn
    | .reading k _, some (i, conn) => dropStream k i conn
    | _, _ => none
  | .session i move =>
    (s.conns[i]?).bind fun conn =>
      (conn.serve json move).map fun out =>
        ({ s with conns := s.conns.set i out.1 },
          (out.2.map fun answer => .produced i conn.answered answer.1 answer.2).toList)

def controlChannel (json : ControlJson S C) :
    Machine ControlState (ControlLabel S C) (ControlEvent S C) where
  init s := s = .connected
  step := ControlState.step json

/-! ## What a step can do -/

theorem ControlState.held_eq_some_iff {s : ControlState} {i : Nat} {conn : ControlConn} :
    s.held = some (i, conn) ↔ s.stream = some i ∧ s.conns[i]? = some conn := by
  simp only [held, Option.bind_eq_some_iff, Option.map_eq_some_iff, Prod.mk.injEq]
  constructor
  · rintro ⟨i, hstream, conn, hconn, rfl, rfl⟩
    exact ⟨hstream, hconn⟩
  · rintro ⟨hstream, hconn⟩
    exact ⟨i, hstream, conn, hconn, rfl, rfl⟩

/-- A step of the control channel. A call that gives up without dropping its connection has
none, or one that the session has closed. -/
inductive ControlStep (json : ControlJson S C) (s : ControlState) :
    ControlLabel S C → ControlState → List (ControlEvent S C) → Prop
  | request (request : IpcRequest) (hcall : s.call = .idle) :
      ControlStep json s (.request request)
        { s with call := .called s.calls request, calls := s.calls + 1 } []
  | reconnects {k : Nat} {request : IpcRequest} (hcall : s.call = .called k request) :
      ControlStep json s .reconnects
        { s with conns := s.conns ++ [{}], stream := some s.conns.length } []
  | givesUp (label : ControlLabel S C) (k : Nat) (message : String)
      (hclosed : s.stream = none ∨ ∃ i conn, s.held = some (i, conn) ∧ conn.task = .ended) :
      ControlStep json s label { s with call := .idle } [.failed k message]
  | begins {k i : Nat} {request : IpcRequest} {conn : ControlConn}
      (hcall : s.call = .called k request) (hheld : s.held = some (i, conn)) :
      ControlStep json s .begins
        { s with
          conns := s.conns.set i { conn with asked := conn.asked + 1 }
          call := .writing k request (request.toVec ++ [10]) }
        [.asked k i conn.asked request]
  | writes {k i n : Nat} {request : IpcRequest} {out : List UInt8} {conn : ControlConn}
      (hcall : s.call = .writing k request out) (hheld : s.held = some (i, conn))
      (htask : conn.task ≠ .ended) :
      ControlStep json s (.writes n)
        { s with
          conns := s.conns.set i { conn with toSession := conn.toSession ++ out.take n }
          call := if out.drop n = [] then .reading k request
            else .writing k request (out.drop n) } []
  | reads {k i : Nat} {request : IpcRequest} {conn : ControlConn} {bytes : Chunks UInt8}
      (hcall : s.call = .reading k request) (hheld : s.held = some (i, conn))
      (hbytes : bytes.contents = conn.toClient)
      (hready : lineReady conn.toClient (conn.task = .ended)) :
      ControlStep json s (.reads bytes)
        { s with
          conns := s.conns.set i { conn with toClient := (json.readResponse bytes).2 }
          call := .idle } [.ofResult k (json.readResponse bytes).1]
  | timesOut {k i : Nat} {conn : ControlConn} (hheld : s.held = some (i, conn)) :
      ControlStep json s .timesOut
        { s with
          conns := s.conns.set i { conn with dropped := true }, stream := none, call := .idle }
        [.failed k "Timed out waiting for the client's response"]
  | session {i : Nat} {move : ServeMove S C} {conn conn' : ControlConn}
      {answer : Option (List UInt8 × IpcResponse S C)} (hconn : s.conns[i]? = some conn)
      (hserve : conn.serve json move = some (conn', answer)) :
      ControlStep json s (.session i move) { s with conns := s.conns.set i conn' }
        (answer.map fun a => .produced i conn.answered a.1 a.2).toList

/-- Every step of the channel is one of these. -/
theorem ControlStep.of_step {json : ControlJson S C} {s t : ControlState}
    {label : ControlLabel S C} {es : List (ControlEvent S C)}
    (h : s.step json label = some (t, es)) : ControlStep json s label t es := by
  cases label
  case session i move =>
    obtain ⟨conn, hconn, heq⟩ := Option.bind_eq_some_iff.1 h
    obtain ⟨out, hserve, heq⟩ := Option.map_eq_some_iff.1 heq
    cases heq
    exact .session hconn hserve
  all_goals
    simp only [ControlState.step] at h
    split at h
    all_goals
      try split at h
      all_goals cases h
  next hcall => exact .request _ hcall
  next hcall _ => exact .reconnects hcall
  next _ hstream => exact .givesUp _ _ _ (.inl hstream)
  next hcall hheld => exact .begins hcall hheld
  next hcall hheld hok => exact .writes hcall hheld hok.1
  next hheld hended => exact .givesUp _ _ _ (.inr ⟨_, _, hheld, hended⟩)
  next hcall hheld hok => exact .reads hcall hheld hok.1 hok.2
  next hheld hended => exact .givesUp _ _ _ (.inr ⟨_, _, hheld, hended⟩)
  next hheld => exact .timesOut hheld
  next hheld => exact .timesOut hheld

end Flextunnel.Model
