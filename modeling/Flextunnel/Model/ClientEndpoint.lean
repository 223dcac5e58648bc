import Flextunnel.Lib.Handles

/-!
# The client's endpoint and its rebuilds

A `ClientEndpoint` is shared by the reconnect loop, which rebuilds the endpoint after
repeated failures, and by the embedder, which closes whatever endpoint is current when
the session ends. The machine below interleaves any number of `rebuild` calls with the
close tasks they spawn and with the teardown: one step per await point or lock of the
source.

A future is dropped only where it is suspended, so `cancel` applies to a call that waits
for the lock, for the factory or for the close it spawned. Endpoints are numbered in the
order they are bound; the first one is there from the start. Dropping the `bind` future
before it returns leaves no endpoint. `Endpoint::close` is an `async fn`: it is called when
its future is polled for the first time.

The generation is a `u64`; it is at most the number of steps (`generation_le`).

Unnamed source lines are of `core/transport/endpoint.rs`.
-/

set_option autoImplicit false

namespace Flextunnel.Model

open Lib

abbrev Endpoint := Nat

/-- The installed endpoint and how many rebuilds produced it.
SOURCE: 275-280 -/
structure Current where
  generation : Nat := 0
  endpoint : Endpoint := 0
deriving DecidableEq, Repr

/-- Where a `rebuild` call is.
SOURCE: 221-234, 320-347 -/
inductive RebuildPc where
  /-- Waiting for the lock. -/
  | queued
  /-- In the factory, before its `bind` returned. -/
  | binding
  /-- In the factory, waiting for the bound endpoint to come online. -/
  | online (fresh : Endpoint)
  /-- The fresh endpoint is installed and the lock released. -/
  | replaced (old : Endpoint)
  /-- The close of the old endpoint is spawned; a bounded wait for it. -/
  | closing
  | returned (ok : Bool)
  | cancelled
deriving DecidableEq, Repr

def RebuildPc.owns : RebuildPc → Option Endpoint
  | .online e | .replaced e => some e
  | _ => none

def RebuildPc.Building : RebuildPc → Prop
  | .binding | .online _ => True
  | _ => False

def RebuildPc.active : RebuildPc → Bool
  | .returned _ | .cancelled => false
  | _ => true

structure Rebuild where
  seen : Nat
  pc : RebuildPc := .queued
deriving DecidableEq, Repr

/-- The task that closes a replaced endpoint.
SOURCE: 336-338 -/
inductive CloseTask where
  | spawned (endpoint : Endpoint)
  | closing (endpoint : Endpoint)
  | ended
deriving DecidableEq, Repr

def CloseTask.holds : CloseTask → Option Endpoint
  | .spawned e | .closing e => some e
  | .ended => none

def CloseTask.owes : CloseTask → Option Endpoint
  | .spawned e => some e
  | _ => none

/-- The end of a session: the embedder closes the current endpoint and waits for it.
SOURCE: 349-352,
ffi/lib.rs:808-824, cli/main.rs:594-606,
desktop/tunnel.rs:762-768 -/
inductive Teardown where
  | running
  | closing (endpoint : Endpoint)
  | closed
deriving DecidableEq, Repr

def Teardown.holds : Teardown → Option Endpoint
  | .closing e => some e
  | _ => none

/-- A `ClientEndpoint` with everything that uses it.
SOURCE: 263-273 -/
structure ClientEndpoint where
  current : Current := {}
  /-- The call inside the lock. -/
  rebuilding : Option Nat := none
  /-- How many endpoints were bound. -/
  bound : Nat := 1
  calls : List Rebuild := []
  closes : List CloseTask := []
  /-- Handles cloned out by `endpoint()`. -/
  clones : List Endpoint := []
  teardown : Teardown := .running
  /-- Whether a `ClientEndpoint` handle is left outside the calls. -/
  handle : Bool := true
  /-- Whether the runtime still polls its tasks. -/
  runtime : Bool := true
deriving DecidableEq, Repr

inductive RebuildLabel where
  | lock
  | bind (ok : Bool)
  | install
  | spawnClose
  | finish
  | cancel
deriving DecidableEq, Repr

inductive CloseLabel where
  | poll
  | finish
  | abandon
deriving DecidableEq, Repr

inductive EndpointLabel where
  | call
  | rebuild (c : Nat) (l : RebuildLabel)
  | task (i : Nat) (l : CloseLabel)
  | clone
  | dropClone (i : Nat)
  | close
  | closed
  | release
  | shutdown
deriving DecidableEq, Repr

inductive EndpointEvent where
  | called (c : Nat) (seen : Nat)
  | locked (c : Nat)
  | factoryCalled (c : Nat)
  | factoryFailed (c : Nat)
  | bound (c : Nat) (fresh : Endpoint)
  | installed (c : Nat) (fresh old : Endpoint)
  | handedToClose (old : Endpoint)
  | closeCalled (endpoint : Endpoint)
  | returned (c : Nat) (ok : Bool)
  | cancelled (c : Nat)
  | dropped (endpoint : Endpoint)
deriving DecidableEq, Repr

namespace ClientEndpoint

def move (s : ClientEndpoint) (c : Nat) (r : Rebuild) : ClientEndpoint :=
  { s with calls := s.calls.set c r }

/-- The rest of `rebuild` once it has the lock, up to its first await: another caller's
rebuild is taken over, or the factory is called.
SOURCE: 323-331 -/
def lock (s : ClientEndpoint) (c seen : Nat) : ClientEndpoint × List EndpointEvent :=
  if s.current.generation ≠ seen then
    (s.move c ⟨seen, .returned true⟩, [.locked c, .returned c true])
  else
    ({ s.move c ⟨seen, .binding⟩ with rebuilding := some c }, [.locked c, .factoryCalled c])

/-- The swap, with the lock released at the end of its block.
SOURCE: 331-335 -/
def install (s : ClientEndpoint) (c seen : Nat) (fresh : Endpoint) :
    ClientEndpoint × List EndpointEvent :=
  ({ s.move c ⟨seen, .replaced s.current.endpoint⟩ with
      current := ⟨s.current.generation + 1, fresh⟩
      rebuilding := none }, [.installed c fresh s.current.endpoint])

/-- A task spawned on a runtime that is shut down is dropped at once.
SOURCE: 336-338 -/
def spawnClose (s : ClientEndpoint) (c seen : Nat) (old : Endpoint) :
    ClientEndpoint × List EndpointEvent :=
  ({ s.move c ⟨seen, .closing⟩ with
      closes := s.closes ++ [if s.runtime then .spawned old else .ended] }, [.handedToClose old])

/-- What a suspended call leaves behind when its future is dropped: the guard of the lock
goes with it.
SOURCE: 320-347 -/
def cancel (s : ClientEndpoint) (c : Nat) (r : Rebuild) :
    Option (ClientEndpoint × List EndpointEvent) :=
  match r.pc with
  | .queued | .closing => some (s.move c ⟨r.seen, .cancelled⟩, [.cancelled c])
  | .binding | .online _ =>
    some ({ s.move c ⟨r.seen, .cancelled⟩ with rebuilding := none }, [.cancelled c])
  | _ => none

/-- A step of a call.
SOURCE: 221-234, 320-347 -/
def rebuildStep (s : ClientEndpoint) (c : Nat) (r : Rebuild) :
    RebuildLabel → Option (ClientEndpoint × List EndpointEvent)
  | .lock => if r.pc = .queued ∧ s.rebuilding = none then some (s.lock c r.seen) else none
  | .bind true =>
    if r.pc = .binding then
      some ({ s.move c ⟨r.seen, .online s.bound⟩ with bound := s.bound + 1 }, [.bound c s.bound])
    else none
  | .bind false =>
    if r.pc = .binding then
      some ({ s.move c ⟨r.seen, .returned false⟩ with rebuilding := none },
        [.factoryFailed c, .returned c false])
    else none
  | .install =>
    match r.pc with
    | .online fresh => some (s.install c r.seen fresh)
    | _ => none
  | .spawnClose =>
    match r.pc with
    | .replaced old => some (s.spawnClose c r.seen old)
    | _ => none
  | .finish =>
    if r.pc = .closing then some (s.move c ⟨r.seen, .returned true⟩, [.returned c true]) else none
  | .cancel => s.cancel c r

/-- A step of a close task.
SOURCE: 338 -/
def closeStep (s : ClientEndpoint) (i : Nat) :
    CloseTask → CloseLabel → Option (ClientEndpoint × List EndpointEvent)
  | .spawned e, .poll =>
    if s.runtime then some ({ s with closes := s.closes.set i (.closing e) }, [.closeCalled e])
    else none
  | .closing _, .finish => some ({ s with closes := s.closes.set i .ended }, [])
  | .spawned _, .abandon | .closing _, .abandon =>
    if s.runtime then none else some ({ s with closes := s.closes.set i .ended }, [])
  | _, _ => none

/-- One step. The teardown takes the current endpoint and closes it; handles are let go
and the runtime is shut down once that close has returned.
SOURCE: 298-300, 320-321, 349-352 -/
def act (s : ClientEndpoint) : EndpointLabel → Option (ClientEndpoint × List EndpointEvent)
  | .call =>
    if s.handle then
      some ({ s with calls := s.calls ++ [{ seen := s.current.generation }] },
        [.called s.calls.length s.current.generation])
    else none
  | .rebuild c l => s.calls[c]?.bind fun r => s.rebuildStep c r l
  | .task i l => s.closes[i]?.bind fun t => s.closeStep i t l
  | .clone =>
    if s.handle then some ({ s with clones := s.clones ++ [s.current.endpoint] }, []) else none
  | .dropClone i =>
    if i < s.clones.length then some ({ s with clones := s.clones.eraseIdx i }, []) else none
  | .close =>
    if s.teardown = .running then
      some ({ s with teardown := .closing s.current.endpoint }, [.closeCalled s.current.endpoint])
    else none
  | .closed =>
    match s.teardown with
    | .closing _ => some ({ s with teardown := .closed }, [])
    | _ => none
  | .release => if s.teardown = .closed then some ({ s with handle := false }, []) else none
  | .shutdown => if s.teardown = .closed then some ({ s with runtime := false }, []) else none

/-! ## Handles -/

/-- The shared slot lives as long as a handle outside the calls or a call. -/
def slot (s : ClientEndpoint) : List Endpoint :=
  if s.handle || s.calls.any (·.pc.active) then [s.current.endpoint] else []

def held (s : ClientEndpoint) : List Endpoint :=
  s.slot ++ s.calls.filterMap (·.pc.owns) ++ s.closes.filterMap CloseTask.holds ++ s.clones ++
    s.teardown.holds.toList

end ClientEndpoint

/-- A client endpoint with its rebuilds and its teardown; a step that takes the last
handle of an endpoint reports it as dropped.
SOURCE: 282-353 -/
def clientEndpoint : Machine ClientEndpoint EndpointLabel EndpointEvent :=
  Machine.tracking ⟨fun s => s = {}, ClientEndpoint.act⟩ ClientEndpoint.held .dropped

/-! ## What a step can do -/

namespace ClientEndpoint

inductive RebuildSteps (s : ClientEndpoint) (c : Nat) (r : Rebuild) :
    RebuildLabel → ClientEndpoint → List EndpointEvent → Prop
  | coalesced (hpc : r.pc = .queued) (hfree : s.rebuilding = none)
      (hgen : s.current.generation ≠ r.seen) :
      RebuildSteps s c r .lock (s.move c ⟨r.seen, .returned true⟩) [.locked c, .returned c true]
  | built (hpc : r.pc = .queued) (hfree : s.rebuilding = none)
      (hgen : s.current.generation = r.seen) :
      RebuildSteps s c r .lock { s.move c ⟨r.seen, .binding⟩ with rebuilding := some c }
        [.locked c, .factoryCalled c]
  | bound (hpc : r.pc = .binding) :
      RebuildSteps s c r (.bind true)
        { s.move c ⟨r.seen, .online s.bound⟩ with bound := s.bound + 1 } [.bound c s.bound]
  | failed (hpc : r.pc = .binding) :
      RebuildSteps s c r (.bind false)
        { s.move c ⟨r.seen, .returned false⟩ with rebuilding := none }
        [.factoryFailed c, .returned c false]
  | installed (fresh : Endpoint) (hpc : r.pc = .online fresh) :
      RebuildSteps s c r .install (s.install c r.seen fresh).1
        [.installed c fresh s.current.endpoint]
  | spawned (old : Endpoint) (hpc : r.pc = .replaced old) :
      RebuildSteps s c r .spawnClose (s.spawnClose c r.seen old).1 [.handedToClose old]
  | finished (hpc : r.pc = .closing) :
      RebuildSteps s c r .finish (s.move c ⟨r.seen, .returned true⟩) [.returned c true]
  | cancelledOutside (hpc : r.pc = .queued ∨ r.pc = .closing) :
      RebuildSteps s c r .cancel (s.move c ⟨r.seen, .cancelled⟩) [.cancelled c]
  | cancelledInside (hpc : r.pc.Building) :
      RebuildSteps s c r .cancel { s.move c ⟨r.seen, .cancelled⟩ with rebuilding := none }
        [.cancelled c]

variable {s t : ClientEndpoint} {es : List EndpointEvent}

/-- Every step of a `rebuild` call is one of these. -/
theorem rebuildSteps_of_eq_some {c : Nat} {r : Rebuild} {l : RebuildLabel}
    (h : s.rebuildStep c r l = some (t, es)) : RebuildSteps s c r l t es := by
  unfold rebuildStep at h
  split at h
  case h_1 =>
    obtain ⟨hpc, hlock⟩ := Option.ite_none_right_eq_some.1 h
    unfold lock at hlock
    split at hlock <;> cases hlock
    next hgen => exact .coalesced hpc.1 hpc.2 hgen
    next hgen => exact .built hpc.1 hpc.2 (not_not.1 hgen)
  case h_7 =>
    unfold cancel at h
    split at h <;> cases h
    next hpc => exact .cancelledOutside (.inl hpc)
    next hpc => exact .cancelledOutside (.inr hpc)
    next hpc => exact .cancelledInside (hpc ▸ trivial)
    next hpc => exact .cancelledInside (hpc ▸ trivial)
  all_goals split at h <;> cases h
  next hpc => exact .bound hpc
  next hpc => exact .failed hpc
  next fresh hpc => exact .installed fresh hpc
  next old hpc => exact .spawned old hpc
  next hpc => exact .finished hpc

theorem RebuildSteps.active {c : Nat} {r : Rebuild} {l : RebuildLabel}
    (h : RebuildSteps s c r l t es) : r.pc.active = true := by
  cases h with
  | coalesced hpc | built hpc | failed hpc | bound hpc | finished hpc | spawned _ hpc
  | installed _ hpc =>
    rw [hpc]
    rfl
  | cancelledOutside hpc =>
    rcases hpc with hpc | hpc
    · rw [hpc]
      rfl
    · rw [hpc]
      rfl
  | cancelledInside hpc =>
    cases hr : r.pc with
    | binding | online fresh => rfl
    | queued | replaced old | closing | returned ok | cancelled =>
      rw [hr] at hpc
      exact hpc.elim

inductive Steps (s : ClientEndpoint) :
    EndpointLabel → ClientEndpoint → List EndpointEvent → Prop
  | call (hhandle : s.handle = true) :
      Steps s .call { s with calls := s.calls ++ [{ seen := s.current.generation }] }
        [.called s.calls.length s.current.generation]
  | rebuild {c : Nat} {l : RebuildLabel} {r : Rebuild} {t : ClientEndpoint}
      {es : List EndpointEvent} (hc : s.calls[c]? = some r) (h : RebuildSteps s c r l t es) :
      Steps s (.rebuild c l) t es
  | polled {i : Nat} {e : Endpoint} (hi : s.closes[i]? = some (.spawned e))
      (hup : s.runtime = true) :
      Steps s (.task i .poll) { s with closes := s.closes.set i (.closing e) } [.closeCalled e]
  | finished {i : Nat} {e : Endpoint} (hi : s.closes[i]? = some (.closing e)) :
      Steps s (.task i .finish) { s with closes := s.closes.set i .ended } []
  | abandoned {i : Nat} {task : CloseTask} (hi : s.closes[i]? = some task)
      (hdown : s.runtime = false) :
      Steps s (.task i .abandon) { s with closes := s.closes.set i .ended } []
  | clone (hhandle : s.handle = true) :
      Steps s .clone { s with clones := s.clones ++ [s.current.endpoint] } []
  | dropClone (i : Nat) : Steps s (.dropClone i) { s with clones := s.clones.eraseIdx i } []
  | close (hrunning : s.teardown = .running) :
      Steps s .close { s with teardown := .closing s.current.endpoint }
        [.closeCalled s.current.endpoint]
  | closed {e : Endpoint} (hclosing : s.teardown = .closing e) :
      Steps s .closed { s with teardown := .closed } []
  | release (hclosed : s.teardown = .closed) : Steps s .release { s with handle := false } []
  | shutdown (hclosed : s.teardown = .closed) : Steps s .shutdown { s with runtime := false } []

/-- Every step of a close task is one of these. -/
theorem steps_of_closeStep {i : Nat} {task : CloseTask} {l : CloseLabel}
    (hi : s.closes[i]? = some task) (h : s.closeStep i task l = some (t, es)) :
    Steps s (.task i l) t es := by
  have habandon {task : CloseTask} (hi : s.closes[i]? = some task)
      (h : (if s.runtime then none else some ({ s with closes := s.closes.set i .ended }, [])) =
        some (t, es)) : Steps s (.task i .abandon) t es := by
    split at h <;> cases h
    next hdown => exact .abandoned hi (Bool.not_eq_true _ ▸ hdown)
  unfold closeStep at h
  split at h
  · split at h
    next hup =>
      cases h
      exact .polled hi hup
    · cases h
  · cases h
    exact .finished hi
  · exact habandon hi h
  · exact habandon hi h
  · cases h

/-- Every step of the endpoint is one of these. -/
theorem steps_of_act {l : EndpointLabel} (h : s.act l = some (t, es)) : Steps s l t es := by
  cases l with
  | call =>
    obtain ⟨hhandle, h⟩ := Option.ite_none_right_eq_some.1 h
    cases h
    exact .call hhandle
  | rebuild c l =>
    obtain ⟨r, hc, h⟩ := Option.bind_eq_some_iff.1 h
    exact .rebuild hc (rebuildSteps_of_eq_some h)
  | task i l =>
    obtain ⟨task, hi, h⟩ := Option.bind_eq_some_iff.1 h
    exact steps_of_closeStep hi h
  | clone =>
    obtain ⟨hhandle, h⟩ := Option.ite_none_right_eq_some.1 h
    cases h
    exact .clone hhandle
  | dropClone i =>
    obtain ⟨-, ⟨⟩⟩ := Option.ite_none_right_eq_some.1 h
    exact .dropClone i
  | close =>
    obtain ⟨hrunning, h⟩ := Option.ite_none_right_eq_some.1 h
    cases h
    exact .close hrunning
  | closed =>
    simp only [act] at h
    split at h <;> cases h
    next e hclosing => exact .closed hclosing
  | release =>
    obtain ⟨hclosed, h⟩ := Option.ite_none_right_eq_some.1 h
    cases h
    exact .release hclosed
  | shutdown =>
    obtain ⟨hclosed, h⟩ := Option.ite_none_right_eq_some.1 h
    cases h
    exact .shutdown hclosed

end ClientEndpoint

end Flextunnel.Model
