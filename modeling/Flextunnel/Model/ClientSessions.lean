import Flextunnel.Model.Store

/-!
# The desktop app's client sessions

The other half of the supervisor: the profile commands of `run_loop` and the sessions they
start, each on a thread of its own (`run_session`). The UI's calls go through a channel of
sixteen commands to the supervisor, and the supervisor's through a channel of eight to each
session; both sends wait while their channel is full, so the supervisor can be suspended in
the middle of a command.

The supervisor knows its sessions by the handles it keeps, one per profile id. What a
session really is (its place in `run_session`, what is in its channel) is in the list of
all sessions ever spawned, in spawn order; a handle points into it.

Snapshots are left out, and with them the texts a session publishes: nothing the supervisor
decides depends on them. The server's commands are one command here that does nothing.

Unnamed source lines are of `desktop/tunnel.rs`.
-/

set_option autoImplicit false

namespace Flextunnel.Model

open Lib

/-! ## A session -/

/-- SOURCE: 108-114 -/
inductive TunnelCmd where
  | disconnect
  | setForwards (forwards : List PortForward)
  | queryConnPath
  | shutdown
deriving DecidableEq

inductive TunnelPc where
  /-- The thread is up: the runtime is built and the profile and key are read. -/
  | starting
  /-- The endpoint is created by a task of its own, raced against the command channel. -/
  | creating
  /-- Disconnected during the creation: the receiver is dropped, the creation waited out. -/
  | lingering
  /-- Shut down during the creation, which is waited out with the receiver still held. -/
  | leaving
  /-- The endpoint exists; the local listeners are bound. -/
  | binding
  /-- The client runs. -/
  | running
  /-- The endpoint is being closed. -/
  | closing
  | ended
deriving DecidableEq, Repr

/-- The session drops its receiver as it returns, or early when it lingers. -/
def TunnelPc.rxOpen : TunnelPc → Bool
  | .lingering | .ended => false
  | _ => true

/-- The session has an endpoint of its own that can hold a connection. -/
def TunnelPc.alive : TunnelPc → Bool
  | .binding | .running | .closing => true
  | _ => false

/-- SOURCE: 531-539 -/
structure TunnelSession where
  profile : Profile
  authKey : String
  forwards : List PortForward
  pc : TunnelPc := .starting
  /-- The commands in the session's channel, oldest first. -/
  queue : List TunnelCmd := []

/-- The capacity of a session's command channel.
SOURCE: 277 -/
def tunnelChannelCapacity : Nat := 8

inductive TunnelSessionLabel where
  /-- The runtime is built, and the relays and the auth key are valid, or not. -/
  | begin (ok : Bool)
  | created (ok : Bool)
  /-- A command arrives, or the channel has no sender left. -/
  | command
  | bound (ok : Bool)
  /-- The client returns by itself. -/
  | clientReturned
  | closed
  /-- The bounded wait for the creation is over. -/
  | waitedOut

/-- What `rx.recv()` yields: the oldest command, or `None` once no sender is left. -/
def TunnelSession.recvCmd (x : TunnelSession) (senders : Bool) :
    Option (Option TunnelCmd × List TunnelCmd) :=
  match x.queue with
  | cmd :: rest => some (some cmd, rest)
  | [] => if senders then none else some (none, [])

/-- One step of a session's thread.
SOURCE: 288-306, 531-774 -/
def TunnelSession.step (senders : Bool) (x : TunnelSession) :
    TunnelSessionLabel → Option TunnelSession
  | .begin ok =>
    match x.pc with
    | .starting => some { x with pc := if ok then .creating else .ended }
    | _ => none
  | .created ok =>
    match x.pc with
    | .creating => some { x with pc := if ok then .binding else .ended }
    | _ => none
  | .command =>
    match x.pc, x.recvCmd senders with
    | .creating, some (some .disconnect, rest) => some { x with pc := .lingering, queue := rest }
    | .creating, some (some (.setForwards fs), rest) =>
      some { x with forwards := fs, queue := rest }
    | .creating, some (some .queryConnPath, rest) => some { x with queue := rest }
    | .creating, some (some .shutdown, rest) => some { x with pc := .leaving, queue := rest }
    | .creating, some (none, rest) => some { x with pc := .leaving, queue := rest }
    | .running, some (some .disconnect, rest) => some { x with pc := .closing, queue := rest }
    | .running, some (some (.setForwards fs), rest) =>
      some { x with forwards := fs, queue := rest }
    | .running, some (some .queryConnPath, rest) => some { x with queue := rest }
    | .running, some (some .shutdown, rest) => some { x with pc := .closing, queue := rest }
    | .running, some (none, rest) => some { x with pc := .closing, queue := rest }
    | _, _ => none
  | .bound ok =>
    match x.pc with
    | .binding => some { x with pc := if ok then .running else .closing }
    | _ => none
  | .clientReturned =>
    match x.pc with
    | .running => some { x with pc := .closing }
    | _ => none
  | .closed =>
    match x.pc with
    | .closing => some { x with pc := .ended }
    | _ => none
  | .waitedOut =>
    match x.pc with
    | .lingering | .leaving => some { x with pc := .ended }
    | _ => none

/-! ## The supervisor -/

/-- The commands of the UI; the server's are one that does nothing here.
SOURCE: 79-106 -/
inductive TunnelCommand where
  | connect (profile : Profile) (authKey : String)
  | disconnect (id : String)
  | setForwards (id : String) (forwards : List PortForward)
  | removeProfile (id : String)
  | queryConnPath (id : String)
  | server
  | shutdown

/-- An entry of the supervisor's map: the session, and what the guard against a second
session reads.
SOURCE: 258-266 -/
structure TunnelHandle where
  profileId : String
  session : Nat
  serverNodeId : String
  profileName : String
deriving DecidableEq

inductive TunnelSupervisorPc where
  | waiting
  /-- Suspended in a send to a session. -/
  | sending (session : Nat) (cmd : TunnelCmd)
  /-- Shutting down: the sessions that are still to be told. -/
  | stopping (rest : List Nat)
  | stopped
deriving DecidableEq

structure TunnelSupervisor where
  pc : TunnelSupervisorPc := .waiting
  /-- The controller's channel, oldest first. -/
  queue : List TunnelCommand := []
  handles : List TunnelHandle := []
  sessions : List TunnelSession := []

/-- The capacity of the controller's channel.
SOURCE: 144 -/
def controllerCapacity : Nat := 16

inductive TunnelEvent where
  | spawned (session : Nat) (profile : Profile)
  | spawnFailed (profile : Profile) (error : String)
  /-- The profile has a session already. -/
  | ignored (profile : Profile)
  | refused (profile : Profile) (reason : String)

namespace TunnelSupervisor

/-- `handle.tx.is_closed()`. -/
def closed (s : TunnelSupervisor) (handle : TunnelHandle) : Bool :=
  match s.sessions[handle.session]? with
  | some x => !x.pc.rxOpen
  | none => true

/-- Ended sessions leave the map.
SOURCE: 364 -/
def retained (s : TunnelSupervisor) : TunnelSupervisor :=
  { s with handles := s.handles.filter fun h => !s.closed h }

def handle? (s : TunnelSupervisor) (id : String) : Option TunnelHandle :=
  s.handles.find? fun h => h.profileId == id

/-- Spawn a session and keep its handle; `spawn` is whether the thread came up.
SOURCE: 272-325, 451-454 -/
def spawnSession (s : TunnelSupervisor) (profile : Profile) (authKey : String) :
    Except String Unit → TunnelSupervisor × List TunnelEvent
  | .ok () =>
    ({ s with
        handles := s.handles ++ [{ profileId := profile.id, session := s.sessions.length
                                   serverNodeId := profile.serverNodeId
                                   profileName := profile.name }]
        sessions := s.sessions ++ [{ profile, authKey, forwards := profile.forwards }] },
      [.spawned s.sessions.length profile])
  | .error e => (s, [.spawnFailed profile e])

/-- The arm of a connect.
SOURCE: 422-455 -/
def connect (s : TunnelSupervisor) (profile : Profile) (authKey : String)
    (spawn : Except String Unit) : TunnelSupervisor × List TunnelEvent :=
  if (s.handle? profile.id).isSome then (s, [.ignored profile])
  else
    match s.handles.find? fun h => h.serverNodeId == profile.serverNodeId with
    | some other =>
      (s,
        [.refused profile s!"Profile \"{other.profileName}\" is already connected to this server"])
    | none => s.spawnSession profile authKey spawn

/-- A command for the session of a profile: the supervisor goes into the send, if there is
such a session. -/
def sendTo (s : TunnelSupervisor) (id : String) (cmd : TunnelCmd) : TunnelSupervisor :=
  match s.handle? id with
  | some h => { s with pc := .sending h.session cmd }
  | none => s

/-- The arm of a received command, up to its first wait.
SOURCE: 422-488 -/
def dispatch (s : TunnelSupervisor) (spawn : Except String Unit) :
    TunnelCommand → TunnelSupervisor × List TunnelEvent
  | .connect profile authKey => s.connect profile authKey spawn
  | .disconnect id => (s.sendTo id .disconnect, [])
  | .setForwards id forwards => (s.sendTo id (.setForwards forwards), [])
  | .queryConnPath id => (s.sendTo id .queryConnPath, [])
  | .removeProfile id =>
    -- the handle leaves the map before the session is told
    ({ s.sendTo id .disconnect with
        handles := s.handles.filter fun h => h.profileId != id }, [])
  | .server => (s, [])
  | .shutdown => ({ s with pc := .stopping (s.handles.map TunnelHandle.session) }, [])

/-- `handle.tx.send(cmd).await`: `none` while the channel is full; a send to a session that
dropped its receiver is given up. -/
def deliver (s : TunnelSupervisor) (i : Nat) (cmd : TunnelCmd) : Option TunnelSupervisor :=
  match s.sessions[i]? with
  | none => some s
  | some x =>
    if !x.pc.rxOpen then some s
    else if x.queue.length < tunnelChannelCapacity then
      some { s with sessions := s.sessions.set i { x with queue := x.queue ++ [cmd] } }
    else none

end TunnelSupervisor

inductive TunnelLabel where
  /-- The UI puts a command into the controller's channel. -/
  | submit (cmd : TunnelCommand)
  | receive (spawn : Except String Unit)
  /-- The send the supervisor is suspended in completes. -/
  | deliver
  | session (i : Nat) (l : TunnelSessionLabel)

/-- The supervisor holds the handles, and with them the channels' senders, as long as its
loop runs. -/
def TunnelSupervisorPc.senders : TunnelSupervisorPc → Bool
  | .stopped => false
  | _ => true

/-- One step of the UI's calls, of the supervisor or of one of its sessions.
SOURCE: 335-507 -/
def TunnelSupervisor.step (s : TunnelSupervisor) :
    TunnelLabel → Option (TunnelSupervisor × List TunnelEvent)
  | .submit cmd =>
    if s.queue.length < controllerCapacity then some ({ s with queue := s.queue ++ [cmd] }, [])
    else none
  | .receive spawn =>
    match s.pc, s.queue with
    | .waiting, cmd :: rest => some ({ s with queue := rest }.retained.dispatch spawn cmd)
    | _, _ => none
  | .deliver =>
    match s.pc with
    | .sending i cmd => (s.deliver i cmd).map fun t => ({ t with pc := .waiting }, [])
    | .stopping (i :: rest) =>
      (s.deliver i .shutdown).map fun t => ({ t with pc := .stopping rest }, [])
    | .stopping [] => some ({ s with pc := .stopped }, [])
    | _ => none
  | .session i l =>
    match s.sessions[i]? with
    | some x => (x.step s.pc.senders l).map fun y => ({ s with sessions := s.sessions.set i y }, [])
    | none => none

def tunnelSupervisor : Machine TunnelSupervisor TunnelLabel TunnelEvent where
  init s := s = {}
  step := TunnelSupervisor.step

/-! ## What a step can do -/

/-- A session keeps its profile and never reopens its receiver. -/
theorem TunnelSession.step_keeps {senders : Bool} {x y : TunnelSession} {l : TunnelSessionLabel}
    (h : x.step senders l = some y) :
    y.profile = x.profile ∧ (y.pc.rxOpen = true → x.pc.rxOpen = true) := by
  cases l <;> simp only [TunnelSession.step] at h <;> grind [TunnelPc.rxOpen]

namespace TunnelSupervisor

variable {s t u : TunnelSupervisor} {es : List TunnelEvent} {l : TunnelLabel}

/-- No session is added, none changes its profile or reopens its receiver, and no handle is
added. -/
structure Keeps (s t : TunnelSupervisor) : Prop where
  handles : ∀ h ∈ t.handles, h ∈ s.handles
  forth : ∀ (i : Nat) (x : TunnelSession), s.sessions[i]? = some x →
    ∃ y : TunnelSession, t.sessions[i]? = some y ∧ y.profile = x.profile
  back : ∀ (i : Nat) (y : TunnelSession), t.sessions[i]? = some y →
    ∃ x : TunnelSession, s.sessions[i]? = some x ∧ y.profile = x.profile ∧
      (y.pc.rxOpen = true → x.pc.rxOpen = true)

theorem Keeps.of_eq (hs : t.sessions = s.sessions) (hh : ∀ h ∈ t.handles, h ∈ s.handles) :
    Keeps s t where
  handles := hh
  forth i x hx := ⟨x, by rw [hs, hx], rfl⟩
  back i y hy := ⟨y, by rw [← hs, hy], rfl, id⟩

theorem Keeps.of_set {i : Nat} {x y : TunnelSession} (hx : s.sessions[i]? = some x)
    (hs : t.sessions = s.sessions.set i y) (hh : t.handles = s.handles)
    (hy : y.profile = x.profile ∧ (y.pc.rxOpen = true → x.pc.rxOpen = true)) : Keeps s t where
  handles h hmem := hh ▸ hmem
  forth j z hz := by
    by_cases hij : i = j
    · subst hij
      cases hx.symm.trans hz
      exact ⟨y, by simp [hs, (List.getElem?_eq_some_iff.1 hx).1], hy.1⟩
    · exact ⟨z, by simp [hs, hij, hz], rfl⟩
  back j z hz := by
    by_cases hij : i = j
    · subst hij
      obtain rfl : y = z := by simpa [hs, (List.getElem?_eq_some_iff.1 hx).1] using hz
      exact ⟨x, hx, hy⟩
    · exact ⟨z, by simpa [hs, hij] using hz, rfl, id⟩

theorem retained_handles : ∀ h ∈ s.retained.handles, h ∈ s.handles :=
  fun _ hmem => (List.mem_filter.1 hmem).1

theorem sendTo_eq (s : TunnelSupervisor) (id : String) (cmd : TunnelCmd) :
    (s.sendTo id cmd).sessions = s.sessions ∧ (s.sendTo id cmd).handles = s.handles := by
  unfold sendTo
  split <;> exact ⟨rfl, rfl⟩

theorem keeps_sendTo (queue : List TunnelCommand) (id : String) (cmd : TunnelCmd) :
    Keeps s ({ s with queue }.retained.sendTo id cmd) := by
  obtain ⟨hsessions, hhandles⟩ := sendTo_eq { s with queue }.retained id cmd
  exact .of_eq hsessions fun h hmem => retained_handles h (hhandles ▸ hmem)

/-- A send that completes only fills a session's channel. -/
theorem keeps_deliver {i : Nat} {cmd : TunnelCmd} {pc : TunnelSupervisorPc}
    (h : s.deliver i cmd = some u) : Keeps s { u with pc := pc } := by
  unfold deliver at h
  split at h
  · cases h
    exact .of_eq rfl fun _ => id
  next x hx =>
    split at h
    · cases h
      exact .of_eq rfl fun _ => id
    split at h <;> cases h
    exact .of_set hx rfl rfl ⟨rfl, id⟩

/-- Only a `connect` that finds no session for its server starts one. -/
theorem step_cases (h : s.step l = some (t, es)) :
    Keeps s t ∨
    ∃ profile authKey rest, l = .receive (.ok ()) ∧ s.queue = .connect profile authKey :: rest ∧
      (∀ h ∈ s.retained.handles, h.serverNodeId ≠ profile.serverNodeId) ∧
      t = ({ s with queue := rest }.retained.spawnSession profile authKey (.ok ())).1 := by
  cases l with
  | submit cmd =>
    simp only [step] at h
    split at h <;> cases h
    exact .inl (.of_eq rfl fun _ => id)
  | deliver =>
    simp only [step] at h
    split at h
    case h_3 =>
      cases h
      exact .inl (.of_eq rfl fun _ => id)
    case h_4 => cases h
    all_goals
      obtain ⟨u, hu, ⟨⟩⟩ := Option.map_eq_some_iff.1 h
      exact .inl (keeps_deliver hu)
  | session i sl =>
    simp only [step] at h
    split at h
    next x hx =>
      obtain ⟨y, hy, ⟨⟩⟩ := Option.map_eq_some_iff.1 h
      exact .inl (.of_set hx rfl rfl (TunnelSession.step_keeps hy))
    · cases h
  | receive spawn =>
    simp only [step] at h
    split at h
    next cmd rest hpc hqueue =>
      have hret : Keeps s { s with queue := rest }.retained := .of_eq rfl retained_handles
      cases cmd with
      | connect profile authKey =>
        simp only [dispatch, connect] at h
        split at h
        · cases h
          exact .inl hret
        split at h
        · cases h
          exact .inl hret
        next hfree =>
          cases spawn with
          | error e =>
            cases h
            exact .inl hret
          | ok _ =>
            refine .inr ⟨profile, authKey, rest, rfl, hqueue, ?_, ?_⟩
            · intro h hmem
              simpa using List.find?_eq_none.1 hfree h hmem
            · exact (congrArg Prod.fst (Option.some.inj h)).symm
      | disconnect | setForwards | queryConnPath =>
        cases h
        exact .inl (keeps_sendTo rest _ _)
      | removeProfile id =>
        cases h
        exact .inl (.of_eq (sendTo_eq _ _ _).1 fun h hmem =>
          retained_handles h (List.mem_filter.1 hmem).1)
      | server =>
        cases h
        exact .inl hret
      | shutdown =>
        cases h
        exact .inl (.of_eq rfl retained_handles)
    · cases h

end TunnelSupervisor

end Flextunnel.Model
