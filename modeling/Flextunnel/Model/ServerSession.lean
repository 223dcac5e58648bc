import Mathlib.Data.List.Basic

/-!
# The desktop app's server session

The app runs its one server in-process, on a thread of its own (`server_session.rs`).
This module is that thread: `run_server` from the runtime build to the end of the
closure `spawn_server` hands to the thread, one atomic step per await point or lock of
the source. What a session holds while it lives (its command receiver, the identity
lock, the bound endpoint) is part of its state, since the supervisor decides from the
receiver alone whether the other two are free.

The outcomes the session cannot choose (whether the options parse, whether the lock is
free, what `prepare` and the bind say, when `serve` returns) are in the labels, with the
text of the error they carry.

Rust drops a function's locals before its parameters. `running` and `_lock` are locals
of `run_server` and the receiver is a parameter, so the drops come in the order
endpoint, lock, receiver; the three `drop…` steps spell that order out.

Unnamed source lines are of `desktop/server_session.rs`.
-/

set_option autoImplicit false

namespace Flextunnel.Model

/-- A client the desktop server authorizes.
SOURCE: desktop/config.rs:205-209 -/
structure AuthorizedClient where
  name : String
  publicKey : String
deriving DecidableEq, Repr

/-- The saved server of the desktop app.
SOURCE: desktop/config.rs:215-248 -/
structure ServerConfig where
  endpointId : String
  secret : String
  authorizedClients : List AuthorizedClient
  routedDomains : List String
  routedCidrs : List String
  relayUrls : List String
  relayAuthToken : Option String
  enabled : Bool
deriving DecidableEq, Repr

/-! ## The published snapshot -/

/-- SOURCE: 28-38 -/
inductive ServerPhase where
  | stopped
  | starting
  | running
  | stopping
  | failed
deriving DecidableEq, Repr

/-- What the UI polls. `runningSince` is the clock reading of the step that set it.
SOURCE: 41-48 -/
structure ServerSnapshot where
  phase : ServerPhase := .stopped
  runningSince : Option Nat := none
  connectedClients : List String := []
  lastError : Option String := none
deriving DecidableEq, Repr

/-- SOURCE: 86-95 -/
def ServerSnapshot.fail (reason : String) : ServerSnapshot :=
  { phase := .failed, lastError := some reason }

/-- SOURCE: 61-67 -/
inductive ServerCmd where
  | stop
  | remove
  | shutdown
deriving DecidableEq, Repr

/-- The session's final write, once the endpoint is closed.
SOURCE: 269-275 -/
def finish (snapshot : ServerSnapshot) :
    Option ServerCmd → Except String Unit → ServerSnapshot
  | some .remove, _ => {}
  | _, .ok () => { snapshot with phase := .stopped }
  | _, .error e => .fail e

/-! ## The thread -/

/-- Where the session's endpoint stands. `close` is bounded by five seconds: a close
that did not finish leaves the endpoint `closing`, and dropping its last handle then
ends it ungracefully (`dropped`). -/
inductive EndpointState where
  | unbound
  | bound
  | closing
  | closed
  | dropped
deriving DecidableEq, Repr

def EndpointState.drop : EndpointState → EndpointState
  | .bound | .closing => .dropped
  | other => other

/-- No endpoint is open: none was bound, it was closed, or its last handle is gone. -/
def EndpointState.released : EndpointState → Bool
  | .bound | .closing => false
  | _ => true

inductive SessionPc where
  /-- Building the runtime. -/
  | building
  /-- The runtime could not be built: the failure is published, `done` is not sent. -/
  | buildFailed
  /-- As `buildFailed` with `done` sent; the closure still owns the receiver. -/
  | buildFailedDone
  /-- `run_server` is about to publish `Starting`. -/
  | entered
  | readingOptions
  | acquiringLock
  | preparing
  /-- The bind task is spawned and raced against the command channel. -/
  | binding
  /-- A command won that race: the bind is waited out. -/
  | bindInterrupted (cmd : Option ServerCmd)
  | running
  /-- Closing the endpoint; `inner` when `running` is a local of the `if let` that
  waited the bind out, and so is dropped right after the close. -/
  | closing (cmd : Option ServerCmd) (result : Except String Unit) (inner : Bool)
  | finishing (cmd : Option ServerCmd) (result : Except String Unit)
  /-- `run_server` returns; its locals are about to be dropped. -/
  | returning
  | droppingLock
  | droppingRx
  /-- The receiver is dropped, the runtime is going down, `done` is not sent. -/
  | tail
  | ended

/-- One server session.
SOURCE: 146-258 -/
structure Session where
  config : ServerConfig
  pc : SessionPc := .building
  /-- The commands in the session's channel, oldest first. -/
  queue : List ServerCmd := []
  /-- The session still owns its command receiver. -/
  rxOpen : Bool := true
  lock : Bool := false
  /-- The result of the spawned bind task, once it finished. -/
  bind : Option (Except String Unit) := none
  endpoint : EndpointState := .unbound
  done : Bool := false

/-- The capacity of the session's command channel.
SOURCE: 150 -/
def serverChannelCapacity : Nat := 8

inductive SessionLabel where
  | runtimeBuilt
  | runtimeFailed (error : String)
  | enter
  | optionsRead (result : Except String Unit)
  | lockAcquired (result : Except String Unit)
  | prepared (result : Except String Unit)
  | bindFinished (result : Except String Unit)
  /-- The session takes the result of the finished bind task. -/
  | bindJoined (clock : Nat)
  /-- A command arrives, or the channel has no sender left. -/
  | recv
  | served (result : Except String Unit)
  | pollClients (clients : List String)
  | closeDone
  | closeTimedOut
  | finish
  | dropRunning
  | dropLock
  | dropRx
  | sendDone

/-- Fail before or while binding: publish the error and return.
SOURCE: 187, 194, 198, 213 -/
def Session.failWith (x : Session) (e : String) : Session × ServerSnapshot :=
  ({ x with pc := .returning }, .fail e)

/-- What `rx.recv()` yields: the oldest command, or `None` once no sender is left. -/
def Session.recvCmd (x : Session) (senders : Bool) :
    Option (Option ServerCmd × List ServerCmd) :=
  match x.queue with
  | cmd :: rest => some (some cmd, rest)
  | [] => if senders then none else some (none, [])

/-- One step of a session's thread, given whether its channel still has a sender and
the snapshot published so far.
SOURCE: 146-258 -/
def Session.step (senders : Bool) (snapshot : ServerSnapshot) (x : Session) :
    SessionLabel → Option (Session × ServerSnapshot)
  | .runtimeBuilt =>
    match x.pc with
    | .building => some ({ x with pc := .entered }, snapshot)
    | _ => none
  | .runtimeFailed e =>
    match x.pc with
    | .building => some ({ x with pc := .buildFailed }, .fail s!"Failed to start: {e}")
    | _ => none
  | .enter =>
    match x.pc with
    | .entered => some ({ x with pc := .readingOptions }, { phase := .starting })
    | _ => none
  | .optionsRead result =>
    match x.pc, result with
    | .readingOptions, .ok () => some ({ x with pc := .acquiringLock }, snapshot)
    | .readingOptions, .error e => some (x.failWith e)
    | _, _ => none
  | .lockAcquired result =>
    match x.pc, result with
    | .acquiringLock, .ok () => some ({ x with pc := .preparing, lock := true }, snapshot)
    | .acquiringLock, .error e => some (x.failWith e)
    | _, _ => none
  | .prepared result =>
    match x.pc, result with
    | .preparing, .ok () => some ({ x with pc := .binding }, snapshot)
    | .preparing, .error e => some (x.failWith e)
    | _, _ => none
  | .bindFinished result =>
    -- the bind runs as a task of its own, so it finishes under either await
    match x.pc, x.bind, result with
    | .binding, none, .ok () | .bindInterrupted _, none, .ok () =>
      some ({ x with bind := some (.ok ()), endpoint := .bound }, snapshot)
    | .binding, none, .error e | .bindInterrupted _, none, .error e =>
      some ({ x with bind := some (.error e) }, snapshot)
    | _, _, _ => none
  | .bindJoined clock =>
    match x.pc, x.bind with
    | .binding, some (.ok ()) =>
      some ({ x with pc := .running },
        { snapshot with phase := .running, runningSince := some clock })
    | .binding, some (.error e) => some (x.failWith e)
    | .bindInterrupted cmd, some (.ok ()) =>
      some ({ x with pc := .closing cmd (.ok ()) true, endpoint := .closing }, snapshot)
    | .bindInterrupted cmd, some (.error _) =>
      some ({ x with pc := .finishing cmd (.ok ()) }, snapshot)
    | _, _ => none
  | .recv =>
    match x.pc, x.recvCmd senders with
    | .binding, some (cmd, rest) =>
      some ({ x with pc := .bindInterrupted cmd, queue := rest },
        { snapshot with phase := .stopping })
    | .running, some (cmd, rest) =>
      some ({ x with pc := .closing cmd (.ok ()) false, queue := rest, endpoint := .closing },
        { snapshot with phase := .stopping, runningSince := none, connectedClients := [] })
    | _, _ => none
  | .served result =>
    match x.pc with
    | .running =>
      some ({ x with pc := .closing none result false, endpoint := .closing },
        { snapshot with phase := .stopping, runningSince := none, connectedClients := [] })
    | _ => none
  | .pollClients clients =>
    match x.pc with
    | .running => some (x, { snapshot with connectedClients := clients })
    | _ => none
  | .closeDone =>
    match x.pc with
    | .closing cmd result _ =>
      some ({ x with pc := .finishing cmd result, endpoint := .closed }, snapshot)
    | _ => none
  | .closeTimedOut =>
    match x.pc with
    | .closing cmd result inner =>
      some ({ x with pc := .finishing cmd result
                     endpoint := if inner then x.endpoint.drop else x.endpoint }, snapshot)
    | _ => none
  | .finish =>
    match x.pc with
    | .finishing cmd result => some ({ x with pc := .returning }, finish snapshot cmd result)
    | _ => none
  | .dropRunning =>
    match x.pc with
    | .returning => some ({ x with pc := .droppingLock, endpoint := x.endpoint.drop }, snapshot)
    | _ => none
  | .dropLock =>
    match x.pc with
    | .droppingLock => some ({ x with pc := .droppingRx, lock := false }, snapshot)
    | _ => none
  | .dropRx =>
    match x.pc with
    | .droppingRx => some ({ x with pc := .tail, rxOpen := false }, snapshot)
    -- after a failed runtime build the closure drops the receiver last
    | .buildFailedDone => some ({ x with pc := .ended, rxOpen := false }, snapshot)
    | _ => none
  | .sendDone =>
    match x.pc with
    | .tail => some ({ x with pc := .ended, done := true }, snapshot)
    | .buildFailed => some ({ x with pc := .buildFailedDone, done := true }, snapshot)
    | _ => none

/-! ## What a step can do -/

inductive SessionStep (senders : Bool) (snapshot : ServerSnapshot) (x : Session) :
    SessionLabel → Session → ServerSnapshot → Prop
  | runtimeBuilt (hpc : x.pc = .building) :
      SessionStep senders snapshot x .runtimeBuilt { x with pc := .entered } snapshot
  | runtimeFailed {e : String} (hpc : x.pc = .building) :
      SessionStep senders snapshot x (.runtimeFailed e) { x with pc := .buildFailed }
        (.fail s!"Failed to start: {e}")
  | enter (hpc : x.pc = .entered) :
      SessionStep senders snapshot x .enter { x with pc := .readingOptions } { phase := .starting }
  | optionsRead (hpc : x.pc = .readingOptions) :
      SessionStep senders snapshot x (.optionsRead (.ok ())) { x with pc := .acquiringLock }
        snapshot
  | optionsFailed {e : String} (hpc : x.pc = .readingOptions) :
      SessionStep senders snapshot x (.optionsRead (.error e)) { x with pc := .returning } (.fail e)
  | lockAcquired (hpc : x.pc = .acquiringLock) :
      SessionStep senders snapshot x (.lockAcquired (.ok ()))
        { x with pc := .preparing, lock := true } snapshot
  | lockFailed {e : String} (hpc : x.pc = .acquiringLock) :
      SessionStep senders snapshot x (.lockAcquired (.error e)) { x with pc := .returning }
        (.fail e)
  | prepared (hpc : x.pc = .preparing) :
      SessionStep senders snapshot x (.prepared (.ok ())) { x with pc := .binding } snapshot
  | prepareFailed {e : String} (hpc : x.pc = .preparing) :
      SessionStep senders snapshot x (.prepared (.error e)) { x with pc := .returning } (.fail e)
  | bound (hpc : x.pc = .binding ∨ ∃ cmd, x.pc = .bindInterrupted cmd) :
      SessionStep senders snapshot x (.bindFinished (.ok ()))
        { x with bind := some (.ok ()), endpoint := .bound } snapshot
  | unbound {e : String} (hpc : x.pc = .binding ∨ ∃ cmd, x.pc = .bindInterrupted cmd)
      (hbind : x.bind = none) :
      SessionStep senders snapshot x (.bindFinished (.error e))
        { x with bind := some (.error e) } snapshot
  | joined {clock : Nat} (hpc : x.pc = .binding) (hbind : x.bind = some (.ok ())) :
      SessionStep senders snapshot x (.bindJoined clock) { x with pc := .running }
        { snapshot with phase := .running, runningSince := some clock }
  | bindFailed {clock : Nat} {e : String} (hpc : x.pc = .binding)
      (hbind : x.bind = some (.error e)) :
      SessionStep senders snapshot x (.bindJoined clock) { x with pc := .returning } (.fail e)
  | waitedBound {clock : Nat} {cmd : Option ServerCmd} (hpc : x.pc = .bindInterrupted cmd) :
      SessionStep senders snapshot x (.bindJoined clock)
        { x with pc := .closing cmd (.ok ()) true, endpoint := .closing } snapshot
  | waitedUnbound {clock : Nat} {cmd : Option ServerCmd} {e : String}
      (hpc : x.pc = .bindInterrupted cmd) (hbind : x.bind = some (.error e)) :
      SessionStep senders snapshot x (.bindJoined clock)
        { x with pc := .finishing cmd (.ok ()) } snapshot
  | interrupted {cmd : Option ServerCmd} {rest : List ServerCmd} (hpc : x.pc = .binding)
      (hcmd : x.recvCmd senders = some (cmd, rest)) :
      SessionStep senders snapshot x .recv { x with pc := .bindInterrupted cmd, queue := rest }
        { snapshot with phase := .stopping }
  | told {cmd : Option ServerCmd} {rest : List ServerCmd} (hpc : x.pc = .running)
      (hcmd : x.recvCmd senders = some (cmd, rest)) :
      SessionStep senders snapshot x .recv
        { x with pc := .closing cmd (.ok ()) false, queue := rest, endpoint := .closing }
        { snapshot with phase := .stopping, runningSince := none, connectedClients := [] }
  | served {result : Except String Unit} (hpc : x.pc = .running) :
      SessionStep senders snapshot x (.served result)
        { x with pc := .closing none result false, endpoint := .closing }
        { snapshot with phase := .stopping, runningSince := none, connectedClients := [] }
  | polled {clients : List String} (hpc : x.pc = .running) :
      SessionStep senders snapshot x (.pollClients clients) x
        { snapshot with connectedClients := clients }
  | closeDone {cmd : Option ServerCmd} {result : Except String Unit} {inner : Bool}
      (hpc : x.pc = .closing cmd result inner) :
      SessionStep senders snapshot x .closeDone
        { x with pc := .finishing cmd result, endpoint := .closed } snapshot
  | closeTimedOut {cmd : Option ServerCmd} {result : Except String Unit} {inner : Bool}
      (hpc : x.pc = .closing cmd result inner) :
      SessionStep senders snapshot x .closeTimedOut
        { x with pc := .finishing cmd result
                 endpoint := if inner then x.endpoint.drop else x.endpoint } snapshot
  | finish {cmd : Option ServerCmd} {result : Except String Unit}
      (hpc : x.pc = .finishing cmd result) :
      SessionStep senders snapshot x .finish { x with pc := .returning }
        (Model.finish snapshot cmd result)
  | dropRunning (hpc : x.pc = .returning) :
      SessionStep senders snapshot x .dropRunning
        { x with pc := .droppingLock, endpoint := x.endpoint.drop } snapshot
  | dropLock (hpc : x.pc = .droppingLock) :
      SessionStep senders snapshot x .dropLock { x with pc := .droppingRx, lock := false } snapshot
  | dropRx (hpc : x.pc = .droppingRx) :
      SessionStep senders snapshot x .dropRx { x with pc := .tail, rxOpen := false } snapshot
  | dropUnbuilt (hpc : x.pc = .buildFailedDone) :
      SessionStep senders snapshot x .dropRx { x with pc := .ended, rxOpen := false } snapshot
  | sendDone (hpc : x.pc = .tail) :
      SessionStep senders snapshot x .sendDone { x with pc := .ended, done := true } snapshot
  | sendUnbuilt (hpc : x.pc = .buildFailed) :
      SessionStep senders snapshot x .sendDone { x with pc := .buildFailedDone, done := true }
        snapshot

/-- Every step of a session is one of these. -/
theorem sessionStep_of_step {senders : Bool} {snapshot snapshot' : ServerSnapshot}
    {x y : Session} {l : SessionLabel} (h : x.step senders snapshot l = some (y, snapshot')) :
    SessionStep senders snapshot x l y snapshot' := by
  -- a place and a label allow at most one move
  cases l <;> simp only [Session.step] at h <;> split at h <;> cases h
  next hpc => exact .runtimeBuilt hpc
  next hpc => exact .runtimeFailed hpc
  next hpc => exact .enter hpc
  next hpc => exact .optionsRead hpc
  next hpc => exact .optionsFailed hpc
  next hpc => exact .lockAcquired hpc
  next hpc => exact .lockFailed hpc
  next hpc => exact .prepared hpc
  next hpc => exact .prepareFailed hpc
  next hpc _ => exact .bound (.inl hpc)
  next hpc _ => exact .bound (.inr ⟨_, hpc⟩)
  next hpc hbind => exact .unbound (.inl hpc) hbind
  next hpc hbind => exact .unbound (.inr ⟨_, hpc⟩) hbind
  next hpc hbind => exact .joined hpc hbind
  next hpc hbind => exact .bindFailed hpc hbind
  next hpc _ => exact .waitedBound hpc
  next hpc hbind => exact .waitedUnbound hpc hbind
  next hpc hcmd => exact .interrupted hpc hcmd
  next hpc hcmd => exact .told hpc hcmd
  next hpc => exact .served hpc
  next hpc => exact .polled hpc
  next hpc => exact .closeDone hpc
  next hpc => exact .closeTimedOut hpc
  next hpc => exact .finish hpc
  next hpc => exact .dropRunning hpc
  next hpc => exact .dropLock hpc
  next hpc => exact .dropRx hpc
  next hpc => exact .dropUnbuilt hpc
  next hpc => exact .sendDone hpc
  next hpc => exact .sendUnbuilt hpc

end Flextunnel.Model
