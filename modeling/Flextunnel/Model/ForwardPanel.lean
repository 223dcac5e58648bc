import Flextunnel.Lib.Updates
import Flextunnel.Model.ClientSessions
import Flextunnel.Model.Listeners

/-!
# The forwards of one profile, from the window to the listeners

The UI changes the forwards of a profile and after each change sends the whole list to the
profile's session, through the controller's channel, the supervisor and the session's channel.
The session starts and stops listeners by the list it has, and publishes their statuses in a
snapshot: after each list it applies, and with every tick of its own. The UI's tick reads the
snapshot and switches off each forward that it calls failed, whatever list the snapshot is of.

The machine is the part of the app that is about one profile for as long as the profile exists
and the app runs. Commands for other profiles and for the server are commands that do nothing; a
session that lingers does nothing any more and is dropped when the next one is started. What the
tasks of a listener do is an arbitrary series of the healths they record.

A list that was sent has the number of the change it came from, and for each forward the number of
the change that last switched it on or edited it.
-/

set_option autoImplicit false

namespace Flextunnel.Model

open Lib

/-! ## The list of the UI -/

/-- The forwards of a profile after a change: its number, and by id the number of the change that
last switched the forward on or edited it. -/
structure Revision where
  number : Nat
  forwards : List PortForward
  attempts : String → Nat
  attempts_le : ∀ id, attempts id ≤ number

namespace Revision

/-- The forwards after one more change, which may be an attempt to start one of them. -/
def next (r : Revision) (forwards : List PortForward) (attempted : Option String) : Revision where
  number := r.number + 1
  forwards
  attempts id := if attempted = some id then r.number + 1 else r.attempts id
  attempts_le id := by
    split
    · exact Nat.le_refl _
    · exact Nat.le_succ_of_le (r.attempts_le id)

end Revision

inductive ForwardEdit where
  | toggle (id : String) (enabled : Bool)
  | save (forward : PortForward)
  | delete (id : String)
  | replace (imported : List PortForward)
deriving DecidableEq, Repr

namespace ForwardEdit

/-- The list after an edit, if there is anything to change. An import has every forward off.
SOURCE: desktop/app.rs:1426-1455, 2265-2287, 2308-2315 -/
def apply (forwards : List PortForward) : ForwardEdit → Option (List PortForward)
  | .toggle id enabled =>
    (forwards.findIdx? fun f => f.id == id).map fun i =>
      forwards.modify i fun f => { f with enabled }
  | .save forward => some (upsert PortForward.id forward forwards)
  | .delete id =>
    let kept := forwards.filter fun f => f.id != id
    if kept.length ≠ forwards.length then some kept else none
  | .replace imported => some (imported.map PortForward.off)

def attempted : ForwardEdit → Option String
  | .toggle id true => some id
  | .save forward => some forward.id
  | _ => none

end ForwardEdit

/-! ## Commands -/

inductive PanelCommand where
  | connect (r : Revision)
  | disconnect
  | setForwards (r : Revision)
  | queryConnPath
  | other

inductive PanelCmd where
  | disconnect
  | setForwards (r : Revision)
  | queryConnPath

def PanelCommand.update : PanelCommand → Update Revision
  | .connect r => .copy r
  | .setForwards r => .next r
  | _ => .other

def PanelCmd.update : PanelCmd → Update Revision
  | .setForwards r => .next r
  | _ => .other

inductive PanelCall where
  | connect
  | disconnect
  | queryConnPath
  | other
deriving DecidableEq, Repr

def PanelCall.command (ui : Revision) : PanelCall → PanelCommand
  | .connect => .connect ui
  | .disconnect => .disconnect
  | .queryConnPath => .queryConnPath
  | .other => .other

/-! ## The session -/

structure PanelTask where
  task : ForwardTask
  shared : ForwardShared

structure PanelStatus where
  handle : Nat
  status : ForwardStatus
deriving DecidableEq, Repr

structure Published where
  session : Nat
  revision : Revision
  statuses : List PanelStatus

/-- A session: its number, its place in `run_session`, the list it has, its channel, its manager,
and every task the manager has started. -/
structure PanelSession where
  number : Nat
  revision : Revision
  pc : TunnelPc := .starting
  queue : List PanelCmd := []
  manager : ForwardManager := .empty
  tasks : List PanelTask := []

/-- The UI switched a forward on or edited it with a change, a session started a listener for the
list of a change, a listener reported a state, or the UI switched a forward off for the status of a
listener. -/
inductive PanelEvent where
  | attempted (id : String) (change : Nat)
  | started (session handle : Nat) (id : String) (change : Nat)
  | reported (session handle : Nat) (state : ForwardState)
  | switchedOff (id : String) (session handle : Nat)
deriving DecidableEq, Repr

namespace PanelSession

def stateOf (x : PanelSession) (task : ForwardTask) : ForwardState :=
  ((x.tasks.find? fun t => t.task == task).map fun t => t.shared.state).getD .starting

/-- SOURCE: desktop/tunnel.rs:525-529 -/
def publish (x : PanelSession) : Published where
  session := x.number
  revision := x.revision
  statuses := x.manager.tasks.map fun task => ⟨task.handle, task.spec.id, x.stateOf task⟩

def cleared (x : PanelSession) : Published := ⟨x.number, x.revision, []⟩

/-- The session with its listeners as a list wants them, and the listeners it started. -/
def apply (x : PanelSession) (r : Revision) : PanelSession × List PanelEvent :=
  let specs := enabledSpecs r.forwards
  let started := x.manager.started specs
  ({ x with
      revision := r
      manager := (x.manager.apply specs).1
      tasks := x.tasks ++ started.map fun task => ⟨task, .new task.spec.localPort⟩ },
    started.map fun task => .started x.number task.handle task.spec.id r.number)

/-- The session once it is done with its listeners.
SOURCE: desktop/tunnel.rs:767-768 -/
def close (x : PanelSession) : PanelSession := { x with pc := .closing, manager := .empty }

end PanelSession

inductive PanelSessionLabel where
  | begin (ok : Bool)
  | created (ok : Bool)
  | command
  | bound (ok : Bool)
  | ticker
  | clientReturned
  | closed
  | waitedOut
deriving DecidableEq, Repr

structure PanelOutcome where
  session : PanelSession
  published : Option Published := none
  events : List PanelEvent := []

/-- One step of a session's thread.
SOURCE: desktop/tunnel.rs:531-774 -/
def PanelSession.step (x : PanelSession) : PanelSessionLabel → Option PanelOutcome
  | .begin ok =>
    match x.pc with
    | .starting =>
      some { session := { x with pc := if ok then .creating else .ended }
             published := some x.cleared }
    | _ => none
  | .created ok =>
    match x.pc with
    | .creating => some { session := { x with pc := if ok then .binding else .ended } }
    | _ => none
  | .command =>
    match x.pc, x.queue with
    | .creating, .disconnect :: rest =>
      some { session := { x with pc := .lingering, queue := rest } }
    | .creating, .setForwards r :: rest =>
      some { session := { x with revision := r, queue := rest } }
    | .creating, .queryConnPath :: rest => some { session := { x with queue := rest } }
    | .running, .disconnect :: rest => some { session := { x.close with queue := rest } }
    | .running, .setForwards r :: rest =>
      let applied := { x with queue := rest }.apply r
      some { session := applied.1, published := some applied.1.publish, events := applied.2 }
    | .running, .queryConnPath :: rest => some { session := { x with queue := rest } }
    | _, _ => none
  | .bound ok =>
    match x.pc with
    | .binding =>
      if ok then
        let applied := { x with pc := .running }.apply x.revision
        some { session := applied.1, events := applied.2 }
      else some { session := x.close }
    | _ => none
  | .ticker =>
    match x.pc with
    | .running => some { session := x, published := some x.publish }
    | _ => none
  | .clientReturned =>
    match x.pc with
    | .running => some { session := x.close }
    | _ => none
  | .closed =>
    match x.pc with
    | .closing => some { session := { x with pc := .ended }, published := some x.cleared }
    | _ => none
  | .waitedOut =>
    match x.pc with
    | .lingering => some { session := { x with pc := .ended } }
    | _ => none

/-! ## The machine -/

/-- The UI's list, the controller's channel, the send that the supervisor is suspended in, the
latest session and how many there were, and the snapshot. -/
structure ForwardPanel where
  ui : Revision
  queue : List PanelCommand
  sending : Option PanelCmd
  session : Option PanelSession
  sessions : Nat
  published : Published

inductive PanelLabel where
  | edit (e : ForwardEdit)
  | tick
  | call (c : PanelCall)
  /-- The supervisor takes a command; whether a session that it is to start comes up, and is not
  refused because another profile is connected to the server. -/
  | receive (spawned : Bool)
  | deliver
  | session (l : PanelSessionLabel)
  /-- A stack of one of the session's listeners records how it stands. -/
  | listener (i : Nat) (k : Stack) (health : StackHealth)
deriving DecidableEq

namespace ForwardPanel

def handle? (s : ForwardPanel) : Option PanelSession := s.session.filter fun x => x.pc.rxOpen

/-- A changed list is sent to the session.
SOURCE: desktop/app.rs:2105-2109, 2291-2297 -/
def commit (s : ForwardPanel) (r : Revision) : Option ForwardPanel :=
  if s.queue.length < controllerCapacity then
    some { s with ui := r, queue := s.queue ++ [.setForwards r] }
  else none

/-- The arm of a received command, up to its first wait.
SOURCE: desktop/tunnel.rs:364, 422-488 -/
def dispatch (s : ForwardPanel) (spawned : Bool) : PanelCommand → ForwardPanel
  | .connect r =>
    if s.handle?.isNone && spawned then
      { s with session := some { number := s.sessions, revision := r }, sessions := s.sessions + 1 }
    else s
  | .disconnect => { s with sending := s.handle?.map fun _ => .disconnect }
  | .setForwards r => { s with sending := s.handle?.map fun _ => .setForwards r }
  | .queryConnPath => { s with sending := s.handle?.map fun _ => .queryConnPath }
  | .other => s

/-- The forwards that a snapshot has failed, and the forwards without them.
SOURCE: desktop/app.rs:2090-2104 -/
def switchOff (s : ForwardPanel) : List PortForward × List (String × String) :=
  disableFailedForwards s.ui.forwards (s.published.statuses.map PanelStatus.status)

def step (s : ForwardPanel) : PanelLabel → Option (ForwardPanel × List PanelEvent)
  | .edit e =>
    (e.apply s.ui.forwards).bind fun forwards =>
      let r := s.ui.next forwards e.attempted
      (s.commit r).map fun t => (t, (e.attempted.map fun id => .attempted id r.number).toList)
  | .tick =>
    let off := s.switchOff
    if off.2 = [] then some (s, [])
    else
      (s.commit (s.ui.next off.1 none)).map fun t =>
        (t, (s.published.statuses.filter fun p =>
          off.2.any fun e => p.status == ⟨e.1, .failed e.2⟩).map
            fun p => .switchedOff p.status.id s.published.session p.handle)
  | .call c =>
    if s.queue.length < controllerCapacity then
      some ({ s with queue := s.queue ++ [c.command s.ui] }, [])
    else none
  | .receive spawned =>
    match s.sending, s.queue with
    | none, cmd :: rest => some ({ s with queue := rest }.dispatch spawned cmd, [])
    | _, _ => none
  | .deliver =>
    match s.sending, s.handle? with
    | some cmd, some x =>
      if x.queue.length < tunnelChannelCapacity then
        some ({ s with
            sending := none, session := some { x with queue := x.queue ++ [cmd] } }, [])
      else none
    | some _, none => some ({ s with sending := none }, [])
    | none, _ => none
  | .session l =>
    s.session.bind fun x => (x.step l).map fun out =>
      ({ s with session := some out.session, published := out.published.getD s.published },
        out.events)
  | .listener i k health =>
    s.session.bind fun x => (x.tasks[i]?).map fun t =>
      let shared := t.shared.setStack k health
      ({ s with session := some { x with tasks := x.tasks.set i { t with shared } } },
        [.reported x.number t.task.handle shared.state])

end ForwardPanel

def forwardPanel : Machine ForwardPanel PanelLabel PanelEvent where
  init s := s.ui.number = 0 ∧ s.queue = [] ∧ s.sending = none ∧ s.session = none ∧ s.sessions = 0 ∧
    s.published = ⟨0, s.ui, []⟩
  step := ForwardPanel.step

/-! ## What a step of a session can do -/

/-- A step of a session's thread: it moves on and may take a command without a list or clear the
snapshot; it takes a list before it has listeners; it starts the listeners; it takes a list and
publishes; or it publishes. -/
inductive PanelStep (x : PanelSession) : PanelOutcome → Prop
  | moved {pc : TunnelPc} {queue : List PanelCmd} {manager : ForwardManager}
      {published : Option Published} (hopen : pc.rxOpen = true → x.pc.rxOpen = true)
      (hqueue : queue = x.queue ∨ ∃ cmd : PanelCmd, x.queue = cmd :: queue ∧ cmd.update = .other)
      (hmanager : manager = x.manager ∧ (x.pc = .running → pc = .running) ∨ manager = .empty)
      (hpublished : ∀ p ∈ published, p = x.cleared) :
      PanelStep x { session := { x with pc, queue, manager }, published }
  | learned {r : Revision} {rest : List PanelCmd} (hpc : x.pc = .creating)
      (hqueue : x.queue = .setForwards r :: rest) :
      PanelStep x { session := { x with revision := r, queue := rest } }
  | bound (hpc : x.pc = .binding) :
      PanelStep x { session := ({ x with pc := .running }.apply x.revision).1
                    events := ({ x with pc := .running }.apply x.revision).2 }
  | applied {r : Revision} {rest : List PanelCmd} (hpc : x.pc = .running)
      (hqueue : x.queue = .setForwards r :: rest) :
      PanelStep x { session := ({ x with queue := rest }.apply r).1
                    published := some ({ x with queue := rest }.apply r).1.publish
                    events := ({ x with queue := rest }.apply r).2 }
  | published (hpc : x.pc = .running) :
      PanelStep x { session := x, published := some x.publish }

/-- Every step of a session's thread is one of these. -/
theorem PanelStep.of_step {x : PanelSession} {l : PanelSessionLabel} {out : PanelOutcome}
    (h : x.step l = some out) : PanelStep x out := by
  cases l
  case bound ok =>
    simp only [PanelSession.step] at h
    split at h
    next hpc =>
      split at h <;> cases h
      · exact .bound hpc
      · exact .moved (by simp [hpc, TunnelPc.rxOpen]) (.inl rfl) (.inr rfl) (by simp)
    · cases h
  all_goals
    simp only [PanelSession.step] at h
    split at h <;> cases h
  iterate 2
    next hpc =>
      exact .moved (by simp [hpc, TunnelPc.rxOpen]) (.inl rfl) (.inl ⟨rfl, by simp [hpc]⟩) (by simp)
  next hpc hqueue =>
    exact .moved (by simp [TunnelPc.rxOpen]) (.inr ⟨_, hqueue, rfl⟩) (.inl ⟨rfl, by simp [hpc]⟩)
      (by simp)
  next hpc hqueue => exact .learned hpc hqueue
  next hqueue => exact .moved id (.inr ⟨_, hqueue, rfl⟩) (.inl ⟨rfl, id⟩) (by simp)
  next hpc hqueue =>
    exact .moved (by simp [hpc, TunnelPc.rxOpen]) (.inr ⟨_, hqueue, rfl⟩) (.inr rfl) (by simp)
  next hpc hqueue => exact .applied hpc hqueue
  next hqueue => exact .moved id (.inr ⟨_, hqueue, rfl⟩) (.inl ⟨rfl, id⟩) (by simp)
  next hpc => exact .published hpc
  next hpc => exact .moved (by simp [hpc, TunnelPc.rxOpen]) (.inl rfl) (.inr rfl) (by simp)
  iterate 2
    next hpc =>
      exact .moved (by simp [TunnelPc.rxOpen]) (.inl rfl) (.inl ⟨rfl, by simp [hpc]⟩) (by simp)

/-! ## The thread of a session

A session here is one of `ClientSessions` that also has its listeners: without them, its steps are
the steps of that one. -/

def PanelCmd.forget : PanelCmd → TunnelCmd
  | .disconnect => .disconnect
  | .setForwards r => .setForwards r.forwards
  | .queryConnPath => .queryConnPath

def PanelSession.forget (x : PanelSession) (profile : Profile) (authKey : String) :
    TunnelSession where
  profile
  authKey
  forwards := x.revision.forwards
  pc := x.pc
  queue := x.queue.map PanelCmd.forget

def PanelSessionLabel.forget : PanelSessionLabel → Option TunnelSessionLabel
  | .begin ok => some (.begin ok)
  | .created ok => some (.created ok)
  | .command => some .command
  | .bound ok => some (.bound ok)
  | .ticker => none
  | .clientReturned => some .clientReturned
  | .closed => some .closed
  | .waitedOut => some .waitedOut

/-- Without its listeners a session takes the steps of a client session. -/
theorem PanelSession.step_forget {x : PanelSession} {l : PanelSessionLabel} {out : PanelOutcome}
    (h : x.step l = some out) (profile : Profile) (authKey : String) :
    (∀ l' ∈ l.forget, (x.forget profile authKey).step true l' =
        some (out.session.forget profile authKey)) ∧
      (l.forget = none → out.session.forget profile authKey = x.forget profile authKey) := by
  cases l with
  | ticker =>
    simp only [PanelSession.step] at h
    split at h <;> cases h
    exact ⟨by simp [PanelSessionLabel.forget], fun _ => rfl⟩
  | command =>
    refine ⟨fun l' hl => ?_, by simp [PanelSessionLabel.forget]⟩
    cases hl
    simp only [PanelSession.step] at h
    split at h
    case h_7 => cases h
    all_goals
      next hpc hqueue =>
        cases h
        simp [PanelSession.forget, TunnelSession.step, TunnelSession.recvCmd, hpc, hqueue,
          PanelCmd.forget, PanelSession.apply, PanelSession.close]
  | bound ok =>
    refine ⟨fun l' hl => ?_, by simp [PanelSessionLabel.forget]⟩
    cases hl
    simp only [PanelSession.step] at h
    split at h
    next hpc =>
      cases ok <;> cases h <;> simp [PanelSession.forget, TunnelSession.step, hpc,
        PanelSession.apply, PanelSession.close]
    · cases h
  | begin ok | created ok | clientReturned | closed | waitedOut =>
    refine ⟨fun l' hl => ?_, by simp [PanelSessionLabel.forget]⟩
    cases hl
    simp only [PanelSession.step] at h
    split at h <;> cases h
    next hpc => simp [PanelSession.forget, TunnelSession.step, hpc, PanelSession.close]

end Flextunnel.Model
