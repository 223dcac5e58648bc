import Flextunnel.Model.Client

/-!
# The outbound bridges

`BridgeUpstream::run` keeps one connection to another server. Streams that are to be bridged look
for it in a slot. Whether the connection is still alive when they do is not up to the loop.

Unnamed source lines are of `core/proxy/bridge.rs`.
-/

set_option autoImplicit false

namespace Flextunnel.Model

open Lib

inductive UpstreamPc where
  | start
  | top
  | sleeping (backoff : Nat)
  | connecting
  | handshaking (conn : Nat)
  | serving (conn : Nat)
deriving DecidableEq, Repr

/-- SOURCE: 63-66 -/
structure Upstream where
  pc : UpstreamPc := .start
  attempt : Nat := 0
  slot : Option Nat := none
  nextConn : Nat := 0
deriving DecidableEq, Repr

/-- `response` is what came of the handshake stream: its bytes, or that it failed or timed out. -/
inductive UpstreamLabel where
  | begin
  | next (jitterMs : Nat)
  | slept
  | connect (result : Except ProxyError Unit)
  | response (result : Except ProxyError (List UInt8))
  | lost

inductive UpstreamEvent where
  | slept (backoff : Nat)
  | failed (e : ProxyError)
  | up (conn : Nat) (bytes : List UInt8)
  | down (conn : Nat)
deriving DecidableEq, Repr

/-- An attempt or a connection is over. -/
def UpstreamEvent.ends : UpstreamEvent → Bool
  | .failed _ | .down _ => true
  | _ => false

/-- SOURCE: 203-219 -/
def bridgeHandshake (json : Json) (bytes : List UInt8) : Except ProxyError Unit :=
  match json.readResponse.run bytes with
  | .error e => .error (.ofStream e)
  | .ok (response, _) =>
    if response.accepted then .ok ()
    else .error (.authenticationFailed (response.rejectReason.getD "unknown"))

namespace Upstream

/-- SOURCE: 130-140 -/
def fail (s : Upstream) (e : ProxyError) : Upstream × List UpstreamEvent :=
  ({ s with pc := .top, attempt := min (s.attempt + 1) 4294967295 }, [.failed e])

/-- SOURCE: 108-189 -/
def step (json : Json) (s : Upstream) (l : UpstreamLabel) :
    Option (Upstream × List UpstreamEvent) :=
  match s.pc, l with
  | .start, .begin => some ({ s with pc := .top, attempt := 0, slot := none }, [])
  | .top, .next jitterMs =>
    if s.attempt = 0 then some ({ s with pc := .connecting }, [])
    else if jitterMs ≤ reconnectJitterMaxMs then
      some ({ s with pc := .sleeping (calculateBackoff s.attempt jitterMs) }, [])
    else none
  | .sleeping backoff, .slept => some ({ s with pc := .connecting }, [.slept backoff])
  | .connecting, .connect (.ok ()) =>
    some ({ s with pc := .handshaking s.nextConn, nextConn := s.nextConn + 1 }, [])
  | .handshaking conn, .response (.ok bytes) =>
    match bridgeHandshake json bytes with
    | .ok () => some ({ s with pc := .serving conn, slot := some conn }, [.up conn bytes])
    | .error e => some (s.fail e)
  | .connecting, .connect (.error e) | .handshaking _, .response (.error e) => some (s.fail e)
  | .serving conn, .lost =>
    -- after a drop the waits start again with the first
    some ({ s with pc := .top, attempt := 1, slot := none }, [.down conn])
  | _, _ => none

end Upstream

/-- The slot may hold a connection of an earlier run. -/
def bridgeUpstream (json : Json) : Machine Upstream UpstreamLabel UpstreamEvent where
  init s := s.pc = .start
  step := Upstream.step json

end Flextunnel.Model
