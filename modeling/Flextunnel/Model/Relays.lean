import Flextunnel.Model.Listeners

/-!
# The relays of a port forward

What `run_forward` does with the connections its stacks accept. A stack hands each of them on
through a channel with room for one; the loop takes them out, waits for a permit and starts a relay,
which gives the permit back when it ends. A relay is counted in `active` from its first poll on, by
a guard that is dropped with it.

When the task of the forward is dropped, or returns because both stacks are gone, its relays are
aborted: each ends at some later point, or by itself before that. What was in line for the loop is
dropped with the task. The task of a stack is that of
`Listeners`; here it may end at any point, and its binds and failures do not matter.

Unnamed source lines are of `core/proxy/forward.rs`.
-/

set_option autoImplicit false

namespace Flextunnel.Model

open Lib

/-- SOURCE: 140 -/
def maxActiveRelaysPerForward : Nat := 128

/-- What a stack's task does with connections: it may accept one, waits to hand one on, or is
gone. -/
inductive StackSide where
  | free
  | handing (conn : Nat)
  | gone
deriving DecidableEq, Repr

/-- The connections a stack's task has. -/
def StackSide.conns : StackSide → List Nat
  | .handing conn => [conn]
  | _ => []

inductive RelayPc where
  | spawned
  | relaying
  | over
deriving DecidableEq, Repr

structure Relay where
  conn : Nat
  pc : RelayPc := .spawned
deriving DecidableEq, Repr

namespace Relay

/-- The relay has its permit. -/
def permitted (r : Relay) : Bool := r.pc != .over

/-- The relay has its guard.
SOURCE: 222-234 -/
def guarded (r : Relay) : Bool := r.pc == .relaying

end Relay

/-- Where the loop of `run_forward` is. -/
inductive RelayLoopPc where
  | select
  | limiting (conn : Nat)
  | over
deriving DecidableEq, Repr

structure RelayLoop where
  pc : RelayLoopPc := .select
  sides : PerStack StackSide := ⟨.free, .free⟩
  channel : Option Nat := none
  permits : Nat := maxActiveRelaysPerForward
  active : Nat := 0
  lastConnError : Option String := none
  relays : List Relay := []
  nextConn : Nat := 0
deriving DecidableEq, Repr

inductive RelayLabel where
  | accept (k : Stack)
  | hand (k : Stack)
  | stackEnds (k : Stack)
  | receive
  | acquire
  | poll (i : Nat)
  | ends (i : Nat) (result : Except String Unit)
  | cancelled (i : Nat)
  | dropped
deriving DecidableEq

/-- A stack hands a connection on, or ends with it; the task is dropped with it in line. -/
inductive ConnFate where
  | handed
  | dropped
  | abandoned
deriving DecidableEq, Repr

structure RelayEvent where
  fate : ConnFate
  conn : Nat
deriving DecidableEq, Repr

namespace RelayLoop

/-- What the loop has received or is about to receive. -/
def waiting (s : RelayLoop) : List Nat :=
  (match s.pc with
    | .limiting conn => [conn]
    | _ => []) ++ s.channel.toList

/-- A relay that ends drops its guard, if it has one, and its permit. -/
def finish (s : RelayLoop) (i : Nat) (r : Relay) : RelayLoop :=
  { s with
    active := s.active - r.guarded.toNat
    permits := s.permits + 1
    relays := s.relays.set i { r with pc := .over } }

/-- SOURCE: 341-400 -/
def step (s : RelayLoop) : RelayLabel → Option (RelayLoop × List RelayEvent)
  | .accept k =>
    if s.sides.get k = .free then
      some ({ s with
        sides := s.sides.set k (.handing s.nextConn)
        nextConn := s.nextConn + 1 }, [])
    else none
  | .hand k =>
    match s.sides.get k with
    | .handing conn =>
      if s.pc ≠ .over ∧ s.channel = none then
        some ({ s with sides := s.sides.set k .free, channel := some conn }, [⟨.handed, conn⟩])
      else none
    | _ => none
  | .stackEnds k =>
    some ({ s with sides := s.sides.set k .gone }, (s.sides.get k).conns.map (.mk .dropped))
  | .receive =>
    if s.pc = .select then
      match s.channel with
      | some conn => some ({ s with pc := .limiting conn, channel := none }, [])
      | none =>
        if s.sides = ⟨.gone, .gone⟩ then some ({ s with pc := .over }, []) else none
    else none
  | .acquire =>
    match s.pc, s.permits with
    | .limiting conn, permits + 1 =>
      some ({ s with pc := .select, permits, relays := s.relays ++ [{ conn }] }, [])
    | _, _ => none
  | .poll i =>
    s.relays[i]?.bind fun r =>
      if r.pc = .spawned then
        some ({ s with
          active := s.active + 1
          relays := s.relays.set i { r with pc := .relaying } }, [])
      else none
  | .ends i result =>
    s.relays[i]?.bind fun r =>
      if r.pc = .relaying then
        let lastConnError := match result with
          | .ok () => none
          | .error e => some e
        some ({ s.finish i r with lastConnError }, [])
      else none
  | .cancelled i =>
    s.relays[i]?.bind fun r =>
      if s.pc = .over ∧ r.pc ≠ .over then some (s.finish i r, []) else none
  | .dropped =>
    if s.pc = .over then none
    else some ({ s with pc := .over, channel := none }, s.waiting.map (.mk .abandoned))

end RelayLoop

def relayLoop : Machine RelayLoop RelayLabel RelayEvent where
  init := fun s => s = {}
  step := RelayLoop.step

end Flextunnel.Model
