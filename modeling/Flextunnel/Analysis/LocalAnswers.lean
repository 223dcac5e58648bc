import Flextunnel.Model.LocalExchange
import Flextunnel.Model.Streams

/-!
# Every local request is answered

Whatever fails before the splice, the application gets one reply, or its request is spliced. The
exception is a forward on the direct path whose head cannot be written upstream: the handler
returns, and the connection is dropped without a word. The tunnel path answers there.
-/

set_option autoImplicit false

namespace Flextunnel.Analysis

open Lib Model

def Answered (actions : List LocalAction) : Prop :=
  (replies actions).length ≤ 1 ∧ (replies actions ≠ [] ∨ .splice ∈ actions)

/-- A forward that is dialed directly, and whose head cannot be written. -/
def HeadLost (request : LocalRequest) (o : Outcomes) : Prop :=
  (∃ routedSet, o.policy = some routedSet ∧ localRoute routedSet request.target = .direct) ∧
    (∃ addr, ((dialTarget o.net request.target none).within o.deadline).2 = some (.ok addr)) ∧
    request.upstreamPreamble.isSome = true ∧ o.headWritten = false

theorem answered_reply (rep : UInt8) : Answered [.reply rep] := by
  simp [Answered, replies]

theorem answered_reply_then (rep : UInt8) (spliced : Bool) :
    Answered (.reply rep :: if spliced then [.splice] else []) := by
  cases spliced <;> simp [Answered, replies]

/-- The tunnel path answers whatever fails. -/
theorem answered_tunnelExchange (request : LocalRequest) (o : Outcomes) :
    Answered (tunnelExchange request o) := by
  unfold tunnelExchange
  split
  · split
    · split
      · exact answered_reply _
      · split
        · exact answered_reply_then _ _
        · cases o.headWritten <;> simp [Answered, replies]
    · exact answered_reply _
  · exact answered_reply _

/-- The direct path does unless a head cannot be written. -/
theorem answered_directExchange_iff (request : LocalRequest) (o : Outcomes) :
    Answered (directExchange request o) ↔
      ¬ ((∃ addr, ((dialTarget o.net request.target none).within o.deadline).2 =
          some (.ok addr)) ∧ request.upstreamPreamble.isSome = true ∧ o.headWritten = false) := by
  unfold directExchange
  split
  next addr hdial =>
    cases request.upstreamPreamble with
    | none => simpa using answered_reply_then _ _
    | some head => cases o.headWritten <;> simp [hdial, Answered, replies]
  next e hdial => simpa [hdial] using answered_reply _
  next hdial => simpa [hdial] using answered_reply _

/-- **A local request is answered once or spliced, unless its head is lost on the direct path.** -/
theorem local_request_answered_iff (request : LocalRequest) (o : Outcomes) :
    Answered (handleLocalConn request o) ↔ ¬ HeadLost request o := by
  unfold handleLocalConn HeadLost
  cases o.policy with
  | none => simpa using answered_reply _
  | some routedSet =>
    dsimp only
    cases hroute : localRoute routedSet request.target with
    | direct =>
      rw [answered_directExchange_iff]
      simp [hroute]
    | tunnel => simpa [hroute] using answered_tunnelExchange request o

def pageRequest : List UInt8 := Reader.utf8 "GET http://192.0.2.7/ HTTP/1.1\r\n\r\n"

def headFails : Outcomes where
  policy := some {}
  tunnel := true
  net := quietNet
  deadline := none
  opened := .noStream
  headWritten := false
  replyWritten := true

/-- The browser is left without an answer. -/
theorem direct_forward_dropped :
    ∃ request, LocalProto.http.readRequest.run pageRequest = .ok (request, []) ∧
      replies (handleLocalConn request headFails) = [] ∧
      .splice ∉ handleLocalConn request headFails := by
  refine ⟨⟨.ip (.v4 ⟨[192, 0, 2, 7], rfl⟩ 80),
    some (Reader.utf8 "GET / HTTP/1.1\r\nHost: 192.0.2.7\r\nConnection: close\r\n\r\n")⟩,
    ?_, ?_, ?_⟩
  · decide +kernel
  · decide
  · decide

end Flextunnel.Analysis
