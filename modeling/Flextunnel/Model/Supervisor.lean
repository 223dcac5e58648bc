import Flextunnel.Lib.Machine
import Flextunnel.Model.ServerSession

/-!
# The desktop supervisor

`run_loop` owns the handle of the current server session, the config waiting to be
started (`pending_start`) and the `stopping` flag, and reacts to the commands of the UI
and to the end of the session. The machine below interleaves it with any number of
session threads (`Session.step`).

There is no await between `rx.recv()` and the arm that handles the command, nor between
the top of the loop and the receive, so each of these two stretches is one step; a send
into the session's bounded channel is a step of its own, since it can block.

Commands are numbered in the order they are received, and a waiting config keeps the
number of the command that carried it. The numbers are bookkeeping: no branch reads
them.

Unnamed source lines are of `desktop/tunnel.rs`.
-/

set_option autoImplicit false

namespace Flextunnel.Model

open Lib

/-- The commands of the supervisor. Those for client profiles touch nothing of the
server; a closed command channel acts as `Shutdown`.
SOURCE: 369-506 -/
inductive Command where
  | startServer (config : ServerConfig)
  | restartServer (config : ServerConfig)
  | stopServer
  | removeServer
  | profile
  | shutdown
deriving DecidableEq

def Command.config? : Command → Option ServerConfig
  | .startServer c | .restartServer c => some c
  | _ => none

/-- The supervisor's handle on a session: which session, and whether its `done` future
has already been polled to completion.
SOURCE: desktop/server_session.rs:98-103 -/
structure ServerHandle where
  session : Nat
  doneTaken : Bool := false

inductive Sending where
  | restart (number : Nat) (config : ServerConfig)
  | stop
  | remove
  | shutdown

inductive SupervisorPc where
  | top
  | waiting
  | sending (what : Sending)
  | stopped
  | panicked

structure Supervisor where
  pc : SupervisorPc := .top
  server : Option ServerHandle := none
  pendingStart : Option (Nat × ServerConfig) := none
  stopping : Bool := false
  /-- How many commands have been received. -/
  received : Nat := 0
  sessions : List Session := []
  snapshot : ServerSnapshot := {}

/-- What can be observed of a run: each command received, with the number of the config
waiting at that moment, and each session started, with the number of its config. -/
inductive SupervisorEvent where
  | received (number : Nat) (cmd : Command) (pending : Option Nat)
  | spawned (number : Nat) (config : ServerConfig)
deriving DecidableEq

/-- `handle.tx.is_closed()`: the session dropped its receiver. -/
def Supervisor.closed (s : Supervisor) (handle : ServerHandle) : Bool :=
  match s.sessions[handle.session]? with
  | some x => !x.rxOpen
  | none => true

/-- The check at the top of the loop.
SOURCE: 344-349 -/
def Supervisor.checkTop (s : Supervisor) : Supervisor :=
  match s.server with
  | some handle => if s.closed handle then { s with server := none, stopping := false } else s
  | none => { s with stopping := false }

/-- The check after a command was received.
SOURCE: 365-368 -/
def Supervisor.checkReceived (s : Supervisor) : Supervisor :=
  match s.server with
  | some handle => if s.closed handle then { s with server := none, stopping := false } else s
  | none => s

/-- `server = spawn_server(config)`, with whether the thread could be spawned.
SOURCE: desktop/server_session.rs:146-176 -/
def Supervisor.spawnServer (s : Supervisor) (number : Nat) (config : ServerConfig) :
    Except String Unit → Supervisor × List SupervisorEvent
  | .ok () =>
    ({ s with server := some { session := s.sessions.length }
              sessions := s.sessions ++ [{ config }] }, [.spawned number config])
  | .error e => ({ s with server := none, snapshot := .fail s!"Failed to start: {e}" }, [])

/-- The top of the loop down to the receive.
SOURCE: 342-363 -/
def Supervisor.loopTop (s : Supervisor) (spawn : Except String Unit) :
    Supervisor × List SupervisorEvent :=
  let s := { s.checkTop with pc := .waiting }
  match s.server, s.pendingStart with
  | none, some (number, config) =>
    Supervisor.spawnServer { s with pendingStart := none } number config spawn
  | _, _ => (s, [])

/-- The arm of a received command, up to its first await.
SOURCE: 369-506 -/
def Supervisor.dispatch (s : Supervisor) (number : Nat) (spawn : Except String Unit) :
    Command → Supervisor × List SupervisorEvent
  | .startServer config =>
    match s.server with
    | some _ =>
      if s.stopping then
        ({ s with pendingStart := some (number, config), pc := .top }, [])
      else ({ s with pc := .top }, [])
    | none => Supervisor.spawnServer { s with pc := .top } number config spawn
  | .restartServer config =>
    match s.server with
    | some _ =>
      if s.stopping then
        ({ s with pendingStart := if s.pendingStart.isSome then some (number, config) else none
                  pc := .top }, [])
      else ({ s with pc := .sending (.restart number config) }, [])
    | none => ({ s with pc := .top }, [])
  | .stopServer =>
    match s.server with
    | some _ => ({ s with pendingStart := none, pc := .sending .stop }, [])
    | none => ({ s with pendingStart := none, pc := .top }, [])
  | .removeServer =>
    match s.server with
    | some _ =>
      ({ s with pendingStart := none, stopping := true, pc := .sending .remove }, [])
    | none =>
      ({ s with pendingStart := none, stopping := false, snapshot := {}, pc := .top }, [])
  | .profile => ({ s with pc := .top }, [])
  | .shutdown =>
    match s.server with
    | some _ => ({ s with pc := .sending .shutdown }, [])
    | none => ({ s with pc := .stopped }, [])

def Supervisor.noteReceived (s : Supervisor) : Supervisor :=
  { s.checkReceived with received := s.received + 1 }

def Supervisor.recv (s : Supervisor) (cmd : Command) (spawn : Except String Unit) :
    Supervisor × List SupervisorEvent :=
  let r := s.noteReceived.dispatch s.received spawn cmd
  (r.1, .received s.received cmd (s.pendingStart.map Prod.fst) :: r.2)

/-- `handle.tx.send(cmd).await`: `none` while the channel is full, otherwise whether the
command was delivered. -/
def Supervisor.sendCmd (s : Supervisor) (cmd : ServerCmd) : Option (Supervisor × Bool) :=
  match s.server with
  | none => none
  | some handle =>
    match s.sessions[handle.session]? with
    | none => some (s, false)
    | some x =>
      if !x.rxOpen then some (s, false)
      else if x.queue.length < serverChannelCapacity then
        some ({ s with sessions :=
          s.sessions.set handle.session { x with queue := x.queue ++ [cmd] } }, true)
      else none

def Sending.cmd : Sending → ServerCmd
  | .restart _ _ | .stop => .stop
  | .remove => .remove
  | .shutdown => .shutdown

/-- The rest of an arm once its send completed.
SOURCE: 390-394, 400-403, 412-419, 509-515 -/
def Supervisor.afterSend (s : Supervisor) (delivered : Bool) : Sending → Supervisor
  | .restart number config =>
    { s with stopping := true, pendingStart := some (number, config), pc := .top }
  | .stop => { s with stopping := true, pc := .top }
  | .remove => { s with snapshot := if delivered then s.snapshot else {}, pc := .top }
  | .shutdown => { s with pc := .stopped }

def Supervisor.send (s : Supervisor) (what : Sending) : Option Supervisor :=
  (s.sendCmd what.cmd).map fun r => r.1.afterSend r.2 what

/-- The second arm of the select: the old session is done while a config waits. A
`done` that completed once may not be polled again.
SOURCE: 356-362 -/
def Supervisor.wakeDone (s : Supervisor) : Option Supervisor :=
  match s.server, s.pendingStart with
  | some handle, some _ =>
    if handle.doneTaken then some { s with pc := .panicked }
    else
      match s.sessions[handle.session]? with
      | some x =>
        if x.done then some { s with server := some { handle with doneTaken := true }, pc := .top }
        else none
      | none => none
  | _, _ => none

inductive SupervisorLabel where
  | loopTop (spawn : Except String Unit)
  | recv (cmd : Command) (spawn : Except String Unit)
  | wakeDone
  | send
  | session (i : Nat) (l : SessionLabel)

/-- The handle, and with it the channel's sender, lives as long as the loop. -/
def SupervisorPc.senders : SupervisorPc → Bool
  | .stopped => false
  | _ => true

def Supervisor.step (s : Supervisor) :
    SupervisorLabel → Option (Supervisor × List SupervisorEvent)
  | .loopTop spawn =>
    match s.pc with
    | .top => some (s.loopTop spawn)
    | _ => none
  | .recv cmd spawn =>
    match s.pc with
    | .waiting => some (s.recv cmd spawn)
    | _ => none
  | .wakeDone =>
    match s.pc with
    | .waiting => s.wakeDone.map fun t => (t, [])
    | _ => none
  | .send =>
    match s.pc with
    | .sending what => (s.send what).map fun t => (t, [])
    | _ => none
  | .session i l =>
    match s.sessions[i]? with
    | some x =>
      (x.step s.pc.senders s.snapshot l).map fun r =>
        ({ s with sessions := s.sessions.set i r.1, snapshot := r.2 }, [])
    | none => none

def supervisor : Machine Supervisor SupervisorLabel SupervisorEvent where
  init s := s = {}
  step := Supervisor.step

/-! ## What a step can do -/

namespace Supervisor

variable {s t : Supervisor} {es : List SupervisorEvent} {l : SupervisorLabel}

/-- At the top a handle stays exactly while its channel is open. -/
theorem checkTop_cases (s : Supervisor) :
    (∃ handle, s.server = some handle ∧ s.closed handle = false ∧ s.checkTop = s) ∨
      (∀ handle, s.server = some handle → s.closed handle = true) ∧
        s.checkTop = { s with server := none, stopping := false } := by
  unfold checkTop
  split
  next handle hserver =>
    cases hclosed : s.closed handle with
    | false => exact .inl ⟨handle, hserver, hclosed, rfl⟩
    | true =>
      refine .inr ⟨fun handle' hserver' => ?_, rfl⟩
      rwa [← Option.some.inj (hserver.symm.trans hserver')]
  next hserver => exact .inr ⟨by simp [hserver], by rw [← hserver]⟩

theorem checkReceived_cases (s : Supervisor) :
    (∀ handle, s.server = some handle → s.closed handle = false) ∧ s.checkReceived = s ∨
      ∃ handle, s.server = some handle ∧ s.closed handle = true ∧
        s.checkReceived = { s with server := none, stopping := false } := by
  unfold checkReceived
  split
  next handle hserver =>
    cases hclosed : s.closed handle with
    | false =>
      refine .inl ⟨fun handle' hserver' => ?_, rfl⟩
      rwa [← Option.some.inj (hserver.symm.trans hserver')]
    | true => exact .inr ⟨handle, hserver, hclosed, rfl⟩
  next hserver => exact .inl ⟨by simp [hserver], rfl⟩

theorem checkTop_eq (s : Supervisor) :
    s.checkTop = { s with server := s.checkTop.server, stopping := s.checkTop.stopping } := by
  rcases checkTop_cases s with ⟨_, _, _, h⟩ | ⟨_, h⟩ <;> rw [h]

theorem checkReceived_eq (s : Supervisor) : s.checkReceived =
    { s with server := s.checkReceived.server, stopping := s.checkReceived.stopping } := by
  rcases checkReceived_cases s with ⟨_, h⟩ | ⟨_, _, _, h⟩ <;> rw [h]

@[simp] theorem checkTop_sessions : s.checkTop.sessions = s.sessions := by rw [checkTop_eq]

@[simp] theorem checkTop_pendingStart : s.checkTop.pendingStart = s.pendingStart := by
  rw [checkTop_eq]

@[simp] theorem checkTop_snapshot : s.checkTop.snapshot = s.snapshot := by rw [checkTop_eq]

@[simp] theorem checkTop_received : s.checkTop.received = s.received := by rw [checkTop_eq]

@[simp] theorem checkReceived_sessions : s.checkReceived.sessions = s.sessions := by
  rw [checkReceived_eq]

@[simp] theorem checkReceived_pendingStart : s.checkReceived.pendingStart = s.pendingStart := by
  rw [checkReceived_eq]

@[simp] theorem checkReceived_snapshot : s.checkReceived.snapshot = s.snapshot := by
  rw [checkReceived_eq]

theorem loopTop_of_no_pending (hpending : s.pendingStart = none) (spawn : Except String Unit) :
    s.loopTop spawn = ({ s.checkTop with pc := .waiting }, []) := by
  unfold loopTop
  simp [hpending]

/-- At the top a config that waits is started once no session is left. -/
theorem loopTop_cases (s : Supervisor) (spawn : Except String Unit) :
    s.loopTop spawn = ({ s.checkTop with pc := .waiting }, []) ∧
        (s.checkTop.server = none → s.pendingStart = none) ∨
      ∃ n c, s.checkTop.server = none ∧ s.pendingStart = some (n, c) ∧
        s.loopTop spawn = spawnServer { s.checkTop with pc := .waiting, pendingStart := none } n c
          spawn := by
  unfold loopTop
  dsimp only
  split
  next n c hserver hpending => exact .inr ⟨n, c, hserver, by simpa using hpending, rfl⟩
  next hnot =>
    refine .inl ⟨rfl, fun hserver => Option.eq_none_iff_forall_ne_some.2 ?_⟩
    rintro ⟨n, c⟩ hpending
    exact hnot n c hserver (by simpa using hpending)

@[simp] theorem loopTop_pc (spawn : Except String Unit) : (s.loopTop spawn).1.pc = .waiting := by
  rcases loopTop_cases s spawn with ⟨heq, -⟩ | ⟨n, c, -, -, heq⟩ <;> rw [heq]
  cases spawn <;> rfl

/-- A dispatch leaves the sessions, or without a server starts one or resets the snapshot. -/
theorem dispatch_rule {P : Supervisor → Prop} (number : Nat) (spawn : Except String Unit)
    (cmd : Command)
    (hkeep : ∀ t : Supervisor, t.sessions = s.sessions → t.server = s.server →
      t.snapshot = s.snapshot → P t)
    (hspawn : ∀ (t : Supervisor) (c : ServerConfig), s.server = none → t.sessions = s.sessions →
      t.server = none → P (t.spawnServer number c spawn).1)
    (hreset : ∀ t : Supervisor, s.server = none → t.sessions = s.sessions → t.server = none → P t) :
    P (s.dispatch number spawn cmd).1 := by
  cases cmd with
  | profile => exact hkeep _ rfl rfl rfl
  | startServer config =>
    simp only [dispatch]
    split
    · split <;> exact hkeep _ rfl rfl rfl
    next hserver => exact hspawn _ config hserver rfl hserver
  | restartServer config =>
    simp only [dispatch]
    split
    · split <;> exact hkeep _ rfl rfl rfl
    · exact hkeep _ rfl rfl rfl
  | removeServer =>
    simp only [dispatch]
    split
    · exact hkeep _ rfl rfl rfl
    next hserver => exact hreset _ hserver rfl hserver
  | stopServer | shutdown =>
    simp only [dispatch]
    split <;> exact hkeep _ rfl rfl rfl

/-- The steps, each with the place of the loop it is taken at. -/
inductive Step (s : Supervisor) :
    SupervisorLabel → Supervisor → List SupervisorEvent → Prop where
  | loopTop {spawn : Except String Unit} : s.pc = .top →
      Step s (.loopTop spawn) (s.loopTop spawn).1 (s.loopTop spawn).2
  | recv {cmd : Command} {spawn : Except String Unit} : s.pc = .waiting →
      Step s (.recv cmd spawn) (s.recv cmd spawn).1 (s.recv cmd spawn).2
  | wakeDone {t : Supervisor} : s.pc = .waiting → s.wakeDone = some t → Step s .wakeDone t []
  | send {what : Sending} {t : Supervisor} : s.pc = .sending what → s.send what = some t →
      Step s .send t []
  | session {i : Nat} {sl : SessionLabel} {x y : Session} {snapshot : ServerSnapshot} :
      s.sessions[i]? = some x → x.step s.pc.senders s.snapshot sl = some (y, snapshot) →
      Step s (.session i sl) { s with sessions := s.sessions.set i y, snapshot } []

/-- Every step of the supervisor is one of these. -/
theorem step_cases (h : s.step l = some (t, es)) : Step s l t es := by
  cases l <;> simp only [step] at h <;> split at h <;> try cases h
  next hpc =>
    obtain ⟨rfl, rfl⟩ := Prod.ext_iff.1 (Option.some.inj h)
    exact .loopTop hpc
  next hpc => exact .recv hpc
  next hpc =>
    obtain ⟨u, hu, ⟨⟩⟩ := Option.map_eq_some_iff.1 h
    exact .wakeDone hpc hu
  next what hpc =>
    obtain ⟨u, hu, ⟨⟩⟩ := Option.map_eq_some_iff.1 h
    exact .send hpc hu
  next x hx =>
    obtain ⟨⟨y, snapshot⟩, hy, ⟨⟩⟩ := Option.map_eq_some_iff.1 h
    exact .session hx hy

/-- A send is delivered to an open channel and lost on a closed one. -/
theorem sendCmd_outcome {cmd : ServerCmd} {delivered : Bool}
    (h : s.sendCmd cmd = some (t, delivered)) : ∃ handle, s.server = some handle ∧
      (s.closed handle = true ∧ t = s ∧ delivered = false ∨
        ∃ x, s.sessions[handle.session]? = some x ∧ x.rxOpen = true ∧ delivered = true ∧
          t = { s with sessions :=
            s.sessions.set handle.session { x with queue := x.queue ++ [cmd] } }) := by
  unfold sendCmd at h
  split at h
  · simp at h
  next handle hserver =>
    refine ⟨handle, hserver, ?_⟩
    split at h
    next hnone =>
      cases h
      exact .inl ⟨by simp [closed, hnone], rfl, rfl⟩
    next x hx =>
      split at h
      next hclosed =>
        cases h
        exact .inl ⟨by simpa [closed, hx] using hclosed, rfl, rfl⟩
      next hopen =>
        split at h
        · cases h
          exact .inr ⟨x, hx, by simpa using hopen, rfl, rfl⟩
        · simp at h

theorem sendCmd_cases {cmd : ServerCmd} {delivered : Bool}
    (h : s.sendCmd cmd = some (t, delivered)) :
    t = s ∨ ∃ handle x, s.server = some handle ∧ s.sessions[handle.session]? = some x ∧
      t = { s with sessions :=
        s.sessions.set handle.session { x with queue := x.queue ++ [cmd] } } := by
  obtain ⟨handle, hserver, ⟨-, rfl, -⟩ | ⟨x, hx, -, -, rfl⟩⟩ := sendCmd_outcome h
  · exact .inl rfl
  · exact .inr ⟨handle, x, hserver, hx, rfl⟩

theorem send_cases {what : Sending} (h : s.send what = some t) :
    ∃ u delivered, s.sendCmd what.cmd = some (u, delivered) ∧ t = u.afterSend delivered what := by
  obtain ⟨⟨u, delivered⟩, hu, rfl⟩ := Option.map_eq_some_iff.1 h
  exact ⟨u, delivered, hu, rfl⟩

theorem wakeDone_cases (h : s.wakeDone = some t) :
    ∃ handle, s.server = some handle ∧
      (handle.doneTaken = true ∧ t = { s with pc := .panicked } ∨
        t = { s with server := some { handle with doneTaken := true }, pc := .top }) := by
  unfold wakeDone at h
  split at h
  next handle _ hserver _ =>
    refine ⟨handle, hserver, ?_⟩
    split at h
    next htaken => exact .inl ⟨htaken, (Option.some.inj h).symm⟩
    split at h
    · split at h
      · exact .inr (Option.some.inj h).symm
      · simp at h
    · simp at h
  · simp at h

/-- What a step does to the sessions: it may add a new one, change the commands that wait for one,
or be a step of one. -/
theorem sessions_cases (h : s.step l = some (t, es)) :
    t.sessions = s.sessions ∨ (∃ c, t.sessions = s.sessions ++ [{ config := c }]) ∨
    ∃ i x y, s.sessions[i]? = some x ∧ t.sessions = s.sessions.set i y ∧
      ((∃ queue, y = { x with queue }) ∨ ∃ sl snapshot, l = .session i sl ∧
        x.step s.pc.senders s.snapshot sl = some (y, snapshot)) := by
  have hspawn {u : Supervisor} (hu : u.sessions = s.sessions) (n : Nat) (own : ServerConfig)
      (spawn : Except String Unit) : (u.spawnServer n own spawn).1.sessions = s.sessions ∨
        ∃ c, (u.spawnServer n own spawn).1.sessions = s.sessions ++ [{ config := c }] := by
    cases spawn with
    | error e => exact .inl hu
    | ok => exact .inr ⟨own, by rw [← hu]; rfl⟩
  cases step_cases h with
  | @loopTop spawn _ =>
    rcases loopTop_cases s spawn with ⟨heq, -⟩ | ⟨n, c, -, -, heq⟩ <;> rw [heq]
    · exact .inl checkTop_sessions
    · exact (hspawn (by exact checkTop_sessions) n c spawn).imp id .inl
  | @recv cmd spawn _ =>
    have hsame : s.noteReceived.sessions = s.sessions := checkReceived_sessions
    refine Or.imp id .inl (dispatch_rule (s := s.noteReceived) (P := fun u =>
      u.sessions = s.sessions ∨ ∃ c, u.sessions = s.sessions ++ [({ config := c } : Session)])
      s.received spawn cmd ?_ ?_ ?_)
    · exact fun u hu _ _ => .inl (hu.trans hsame)
    · exact fun u c _ hu _ => hspawn (hu.trans hsame) _ c spawn
    · exact fun u _ hu _ => .inl (hu.trans hsame)
  | wakeDone _ hwake =>
    obtain ⟨handle, -, ⟨-, rfl⟩ | rfl⟩ := wakeDone_cases hwake <;> exact .inl rfl
  | @send what _ _ hsend =>
    obtain ⟨u, delivered, hu, rfl⟩ := send_cases hsend
    have hafter : (u.afterSend delivered what).sessions = u.sessions := by cases what <;> rfl
    rw [hafter]
    rcases sendCmd_cases hu with rfl | ⟨handle, x, -, hx, rfl⟩
    · exact .inl rfl
    · exact .inr (.inr ⟨_, x, _, hx, rfl, .inl ⟨_, rfl⟩⟩)
  | session hx hy => exact .inr (.inr ⟨_, _, _, hx, rfl, .inr ⟨_, _, rfl, hy⟩⟩)

end Supervisor

end Flextunnel.Model
