import Flextunnel.Model.Client

/-!
# What a local application gets to see

`proxyClient` says when a local connection waits, dials and opens a stream. Here is the same
handler with its exits: what is sent to the application and upstream when each step before the
splice succeeds or fails (`Outcomes`). Where no write fails it does what the client's steps do
(`directExchange_of_written`, `tunnelExchange_of_written`).
-/

set_option autoImplicit false

namespace Flextunnel.Model

open Lib

inductive LocalAction where
  /-- A reply to the application, with this code. -/
  | reply (rep : UInt8)
  /-- The rewritten head of a forward, sent upstream. -/
  | head (bytes : List UInt8)
  | splice
deriving DecidableEq, Repr

structure Outcomes where
  /-- `wait_for_route_policy`. -/
  policy : Option RoutedSet
  /-- `wait_for_tunnel`. -/
  tunnel : Bool
  /-- The network a direct request is dialed in, and its deadline. -/
  net : Net
  deadline : Option Nat
  /-- The stream to the server. -/
  opened : OpenResult
  /-- Whether the head of a forward could be written upstream. -/
  headWritten : Bool
  /-- Whether the reply that begins the exchange reached the application. -/
  replyWritten : Bool

/-- SOURCE: core/proxy/client.rs:1754-1782 -/
def directExchange (request : LocalRequest) (o : Outcomes) : List LocalAction :=
  match ((dialTarget o.net request.target none).within o.deadline).2 with
  | some (.ok _) =>
    match request.upstreamPreamble with
    | none => .reply Rep.success.code :: if o.replyWritten then [.splice] else []
    -- a failed write returns
    | some head => .head head :: if o.headWritten then [.splice] else []
  | some (.error e) => [.reply (mapIoErr e).code]
  | none => [.reply Rep.hostUnreachable.code]

/-- SOURCE: core/proxy/client.rs:1642-1689, 1787-1796 -/
def tunnelExchange (request : LocalRequest) (o : Outcomes) : List LocalAction :=
  if o.tunnel then
    match o.opened, writeRequest request.target with
    | .reply rep, .ok _ =>
      if rep ≠ Rep.success.code then [.reply rep]
      else
        match request.upstreamPreamble with
        | none => .reply rep :: if o.replyWritten then [.splice] else []
        | some head =>
          .head head :: if o.headWritten then [.splice] else [.reply Rep.generalFailure.code]
    | _, _ => [.reply Rep.generalFailure.code]
  else [.reply Rep.netUnreachable.code]

/-- A request that was read.
SOURCE: core/proxy/client.rs:1593-1689 -/
def handleLocalConn (request : LocalRequest) (o : Outcomes) : List LocalAction :=
  match o.policy with
  | none => [.reply Rep.generalFailure.code]
  | some routedSet =>
    match localRoute routedSet request.target with
    | .direct => directExchange request o
    | .tunnel => tunnelExchange request o

/-! ## The client's steps -/

def repliesOf (events : List ClientEvent) : List UInt8 :=
  events.filterMap fun e =>
    match e with
    | .replied _ rep => some rep
    | _ => none

def replies (actions : List LocalAction) : List UInt8 :=
  actions.filterMap fun a =>
    match a with
    | .reply rep => some rep
    | _ => none

theorem directExchange_of_written {request : LocalRequest} {o : Outcomes}
    (hhead : o.headWritten = true) (hreply : o.replyWritten = true) (r : Nat) :
    replies (directExchange request o) = repliesOf (directConnect r request o.net o.deadline).2 ∧
      (.splice ∈ directExchange request o ↔
        (directConnect r request o.net o.deadline).1 = .relaying) := by
  unfold directExchange directConnect successReply
  dsimp only
  rcases ((dialTarget o.net request.target none).within o.deadline).2 with _ | (e | addr)
  · simp [replies, repliesOf]
  · simp [replies, repliesOf]
  · cases request.upstreamPreamble <;> simp [hhead, hreply, replies, repliesOf]

theorem tunnelExchange_of_written {request : LocalRequest} {o : Outcomes}
    (htunnel : o.tunnel = true) (hhead : o.headWritten = true) (hreply : o.replyWritten = true)
    (r conn : Nat) :
    replies (tunnelExchange request o) = repliesOf (openTunnel r request conn o.opened).2 ∧
      (.splice ∈ tunnelExchange request o ↔
        (openTunnel r request conn o.opened).1 = .relaying) := by
  unfold tunnelExchange openTunnel successReply
  rw [if_pos htunnel]
  cases o.opened with
  | noStream => simp [replies, repliesOf]
  | noReply => cases writeRequest request.target <;> simp [replies, repliesOf]
  | reply rep =>
    cases writeRequest request.target with
    | error e => simp [replies, repliesOf]
    | ok bytes =>
      by_cases hrep : rep = Rep.success.code
      · cases request.upstreamPreamble <;> simp [hrep, hhead, hreply, replies, repliesOf]
      · simp [hrep, replies, repliesOf]

end Flextunnel.Model
