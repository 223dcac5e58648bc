import Flextunnel.Analysis.OneServerSession
import Flextunnel.Analysis.OneSessionPerServer
import Flextunnel.Model.Controller

/-!
# When the controller's loop answers

The loop sends on what a command says to the sessions it is for, and such a send waits while the
session's channel of eight commands is full. A session that has stopped reading its channel, which
it does for as long as its endpoint closes, therefore stops the loop at the ninth command, and then
the controller's own channel fills up and the UI's next call blocks. The timeout of
`query_conn_path` is for the answer only; the call is stuck before that.

With room in the channels of the sessions a command is for (`hasRoom`) the loop is never held up.
The condition has a second part, for the wait of a restart: the `done` of a session is taken only
when its receiver is gone, since the loop panics when it polls a `done` twice.
-/

set_option autoImplicit false

namespace Flextunnel.Analysis

open Lib Model

/-! ## Room in the channels -/

def tunnelRoom (s : TunnelSupervisor) (i : Nat) : Bool :=
  s.sessions[i]?.all fun x => !x.pc.rxOpen || x.queue.length < tunnelChannelCapacity

def serverRoom (s : Supervisor) : Bool :=
  s.server.all fun handle =>
    s.sessions[handle.session]?.all fun x => !x.rxOpen || x.queue.length < serverChannelCapacity

/-- The client sessions a command is for.
SOURCE: desktop/tunnel.rs:456-494 -/
def addressees (s : TunnelSupervisor) : TunnelCommand → List TunnelHandle
  | .disconnect id | .setForwards id _ | .removeProfile id | .queryConnPath id =>
    s.handles.filter fun h => h.profileId == id
  | .shutdown => s.handles
  | .connect .. | .server => []

/-- The command is for the server session.
SOURCE: desktop/tunnel.rs:381-421, 495-497 -/
def isForServer (s : Supervisor) : Command → Bool
  | .restartServer _ => !s.stopping
  | .stopServer | .removeServer | .shutdown => true
  | .startServer _ | .profile => false

/-- A command is taken up with room in the channel of every session it is for, and the end of the
old server session is noticed when its receiver is gone. -/
def hasRoom (s : RunLoop) : LoopLabel → Bool
  | .receive _ =>
    match s.queue with
    | cmd :: _ =>
      (addressees s.tunnels cmd.tunnel).all (fun h => tunnelRoom s.tunnels h.session) &&
        (!isForServer s.server cmd.command || serverRoom s.server)
    | [] => true
  | .wakeDone => s.server.server.all fun handle => s.server.closed handle
  | _ => true

/-! ## What the sessions do to their channels -/

/-- A client session only takes from its channel. -/
theorem tunnelSession_queue {senders : Bool} {x y : TunnelSession} {l : TunnelSessionLabel}
    (h : x.step senders l = some y) : y.queue.length ≤ x.queue.length := by
  cases l <;> simp only [TunnelSession.step, TunnelSession.recvCmd] at h <;> grind

/-- The server session only takes from its channel. -/
theorem session_queue {senders : Bool} {snapshot snapshot' : ServerSnapshot} {x y : Session}
    {l : SessionLabel} (h : x.step senders snapshot l = some (y, snapshot')) :
    y.queue.length ≤ x.queue.length := by
  have hrecv {cmd : Option ServerCmd} {rest : List ServerCmd}
      (hcmd : x.recvCmd senders = some (cmd, rest)) : rest.length ≤ x.queue.length := by
    unfold Session.recvCmd at hcmd
    split at hcmd
    next hqueue =>
      cases hcmd
      simp [hqueue]
    · split at hcmd <;> cases hcmd
      simp
  cases sessionStep_of_step h with
  | interrupted _ hcmd | told _ hcmd => exact hrecv hcmd
  | _ => exact Nat.le_refl _

section Rooms

variable {s : TunnelSupervisor} {i j : Nat}

theorem tunnelRoom_session {senders : Bool} {x y : TunnelSession} {l : TunnelSessionLabel}
    (hx : s.sessions[i]? = some x) (hy : x.step senders l = some y)
    (h : tunnelRoom s j = true) :
    tunnelRoom { s with sessions := s.sessions.set i y } j = true := by
  refine all_getElem?_set hx (fun hroom => ?_) h
  have hqueue := tunnelSession_queue hy
  have hopen := (TunnelSession.step_keeps hy).2
  grind

/-- A command for a session with room is delivered. -/
theorem deliver_of_room (cmd : TunnelCmd) (h : tunnelRoom s i = true) :
    ∃ u, s.deliver i cmd = some u := by
  unfold TunnelSupervisor.deliver
  split
  · exact ⟨s, rfl⟩
  next x hx =>
    have hroom : (!x.pc.rxOpen || decide (x.queue.length < tunnelChannelCapacity)) = true := by
      simpa [tunnelRoom, hx] using h
    split
    · exact ⟨s, rfl⟩
    next hopen =>
      rw [if_pos (by simpa [hopen] using hroom)]
      exact ⟨_, rfl⟩

/-- A delivery leaves the room of the other sessions as it was. -/
theorem deliver_keeps {u : TunnelSupervisor} {cmd : TunnelCmd} (h : s.deliver i cmd = some u) :
    u.handles = s.handles ∧ u.sessions.length = s.sessions.length ∧
      ∀ j, j ≠ i → tunnelRoom u j = tunnelRoom s j := by
  unfold TunnelSupervisor.deliver at h
  split at h
  · cases h
    exact ⟨rfl, rfl, fun _ _ => rfl⟩
  split at h
  · cases h
    exact ⟨rfl, rfl, fun _ _ => rfl⟩
  split at h <;> cases h
  refine ⟨rfl, by simp, fun j hne => ?_⟩
  simp [tunnelRoom, List.getElem?_set_ne (Ne.symm hne)]

end Rooms

section ServerRoom

variable {s : Supervisor}

theorem serverRoom_session {senders : Bool} {snapshot snapshot' : ServerSnapshot} {i : Nat}
    {x y : Session} {l : SessionLabel} (hx : s.sessions[i]? = some x)
    (hy : x.step senders snapshot l = some (y, snapshot')) (h : serverRoom s = true) :
    serverRoom { s with sessions := s.sessions.set i y, snapshot := snapshot' } = true := by
  unfold serverRoom at h ⊢
  rw [Option.all_eq_true] at h ⊢
  intro handle hhandle
  refine all_getElem?_set hx (fun hroom => ?_) (h handle hhandle)
  have hqueue := session_queue hy
  have hopen := rxOpen_of_step hy
  grind

/-- A command for a server session with room is sent. -/
theorem send_of_room (what : Sending) (hserver : s.server.isSome = true)
    (h : serverRoom s = true) : ∃ u, s.send what = some u := by
  obtain ⟨handle, hhandle⟩ := Option.isSome_iff_exists.1 hserver
  have hcmd : ∃ r, s.sendCmd what.cmd = some r := by
    unfold Supervisor.sendCmd
    rw [hhandle]
    dsimp only
    split
    · exact ⟨_, rfl⟩
    next x hx =>
      have hroom : (!x.rxOpen || decide (x.queue.length < serverChannelCapacity)) = true := by
        simpa [serverRoom, hhandle, hx] using h
      split
      · exact ⟨_, rfl⟩
      next hopen =>
        rw [if_pos (by simpa [hopen] using hroom)]
        exact ⟨_, rfl⟩
  obtain ⟨r, hr⟩ := hcmd
  exact ⟨_, Option.map_eq_some_iff.2 ⟨r, hr, rfl⟩⟩

end ServerRoom

/-! ## Taking up a command -/

section Take

variable {s : TunnelSupervisor}

/-- After a command the loop waits, or is about to send to one of those it is for. -/
theorem dispatch_pc (hpc : s.pc = .waiting) (spawn : Except String Unit) {cmd : TunnelCommand}
    (hcmd : cmd ≠ .shutdown) :
    (s.retained.dispatch spawn cmd).1.pc = .waiting ∨
      ∃ h ∈ addressees s cmd, ∃ c, (s.retained.dispatch spawn cmd).1.pc = .sending h.session c ∧
        (s.retained.dispatch spawn cmd).1.sessions = s.sessions := by
  have hsend (id : String) (c : TunnelCmd) : (s.retained.sendTo id c).pc = .waiting ∨
      ∃ h ∈ s.handles.filter fun h => h.profileId == id,
        (s.retained.sendTo id c).pc = .sending h.session c := by
    unfold TunnelSupervisor.sendTo
    split
    next h hfind =>
      have hid := List.find?_some (p := fun h : TunnelHandle => h.profileId == id) hfind
      refine .inr ⟨h, List.mem_filter.2 ⟨?_, hid⟩, rfl⟩
      exact TunnelSupervisor.retained_handles h (List.mem_of_find?_eq_some hfind)
    · exact .inl hpc
  cases cmd with
  | connect profile authKey =>
    refine .inl ?_
    simp only [TunnelSupervisor.dispatch, TunnelSupervisor.connect]
    split
    · exact hpc
    · split
      · exact hpc
      · cases spawn <;> exact hpc
  | disconnect id | setForwards id _ | removeProfile id | queryConnPath id =>
    refine (hsend id _).imp_right ?_
    rintro ⟨h, hmem, hsending⟩
    exact ⟨h, hmem, _, hsending, (TunnelSupervisor.sendTo_eq _ _ _).1⟩
  | server => exact .inl hpc
  | shutdown => exact absurd rfl hcmd

structure HandlesApart (s : TunnelSupervisor) : Prop where
  distinct : (s.handles.map TunnelHandle.session).Nodup
  spawned : ∀ h ∈ s.handles, h.session < s.sessions.length

theorem HandlesApart.sublist {t : TunnelSupervisor} (hs : HandlesApart s)
    (hsub : t.handles.Sublist s.handles) (hlen : t.sessions.length = s.sessions.length) :
    HandlesApart t where
  distinct := hs.distinct.sublist (hsub.map _)
  spawned h hmem := hlen ▸ hs.spawned h (hsub.subset hmem)

theorem HandlesApart.retained (hs : HandlesApart s) : HandlesApart s.retained :=
  hs.sublist List.filter_sublist rfl

theorem HandlesApart.spawn (hs : HandlesApart s) (profile : Profile) (authKey : String)
    (spawn : Except String Unit) : HandlesApart (s.spawnSession profile authKey spawn).1 := by
  cases spawn with
  | error e => exact hs
  | ok u =>
    refine ⟨?_, fun h hmem => ?_⟩
    · simp only [TunnelSupervisor.spawnSession, List.map_append, List.map_cons, List.map_nil]
      refine List.nodup_append.2 ⟨hs.distinct, List.nodup_singleton _, ?_⟩
      intro a ha b hb hab
      obtain ⟨h, hmem, rfl⟩ := List.mem_map.1 ha
      have hlt := hs.spawned h hmem
      rw [List.mem_singleton.1 hb] at hab
      omega
    · rcases List.mem_append.1 hmem with hmem | hmem
      · simpa [TunnelSupervisor.spawnSession] using Nat.lt_succ_of_lt (hs.spawned h hmem)
      · rw [List.mem_singleton.1 hmem]
        simp [TunnelSupervisor.spawnSession]

/-- No two handles get the same session. -/
theorem HandlesApart.dispatch (hs : HandlesApart s) (spawn : Except String Unit)
    (cmd : TunnelCommand) : HandlesApart (s.dispatch spawn cmd).1 := by
  have hsend (id : String) (c : TunnelCmd) : HandlesApart (s.sendTo id c) := by
    obtain ⟨hsessions, hhandles⟩ := TunnelSupervisor.sendTo_eq s id c
    exact hs.sublist (hhandles ▸ List.Sublist.refl _) (by rw [hsessions])
  cases cmd with
  | connect profile authKey =>
    simp only [TunnelSupervisor.dispatch, TunnelSupervisor.connect]
    split
    · exact hs
    · split
      · exact hs
      · exact hs.spawn profile authKey spawn
  | disconnect id | setForwards id _ | queryConnPath id => exact hsend id _
  | removeProfile id =>
    refine hs.sublist List.filter_sublist ?_
    exact congrArg List.length (TunnelSupervisor.sendTo_eq s id _).1
  | server => exact hs
  | shutdown => exact hs.sublist (List.Sublist.refl _) rfl

end Take

section Recv

variable {s : Supervisor} {cmd : Command} {handle : ServerHandle}

theorem noteReceived_cases (s : Supervisor) : s.noteReceived.server = none ∨
    s.noteReceived = { s with received := s.received + 1 } := by
  unfold Supervisor.noteReceived
  rcases Supervisor.checkReceived_cases s with ⟨-, heq⟩ | ⟨_, _, _, heq⟩ <;> rw [heq]
  · exact .inr rfl
  · exact .inl rfl

theorem dispatch_pc_of_none (hserver : s.server = none) (number : Nat)
    (spawn : Except String Unit) (hcmd : cmd ≠ .shutdown) :
    (s.dispatch number spawn cmd).1.pc = .top := by
  cases cmd with
  | shutdown => exact absurd rfl hcmd
  | startServer config =>
    simp only [Supervisor.dispatch, hserver]
    cases spawn <;> rfl
  | restartServer _ | stopServer | removeServer => simp only [Supervisor.dispatch, hserver]
  | profile => rfl

theorem dispatch_pc_of_some (hserver : s.server = some handle) (number : Nat)
    (spawn : Except String Unit) (hcmd : cmd ≠ .shutdown) :
    (s.dispatch number spawn cmd).1.pc = .top ∨ isForServer s cmd = true ∧
      (∃ what, what ≠ .shutdown ∧ (s.dispatch number spawn cmd).1.pc = .sending what) ∧
        (s.dispatch number spawn cmd).1.server = s.server ∧
        (s.dispatch number spawn cmd).1.sessions = s.sessions := by
  cases cmd with
  | shutdown => exact absurd rfl hcmd
  | profile => exact .inl rfl
  | startServer config =>
    simp only [Supervisor.dispatch]
    split
    · split <;> exact .inl rfl
    next hnone => simp [hserver] at hnone
  | restartServer config =>
    simp only [Supervisor.dispatch]
    split
    · split
      · exact .inl rfl
      next hstopping =>
        exact .inr ⟨by simpa [isForServer] using hstopping, ⟨_, by simp, rfl⟩, rfl, rfl⟩
    · exact .inl rfl
  | stopServer | removeServer =>
    simp only [Supervisor.dispatch]
    split
    · exact .inr ⟨rfl, ⟨_, by simp, rfl⟩, rfl, rfl⟩
    · exact .inl rfl

/-- After a command for the server the loop is at its top, or about to send. -/
theorem recv_pc (s : Supervisor) (spawn : Except String Unit) (hcmd : cmd ≠ .shutdown) :
    (s.recv cmd spawn).1.pc = .top ∨ isForServer s cmd = true ∧ s.server.isSome = true ∧
      (∃ what, what ≠ .shutdown ∧ (s.recv cmd spawn).1.pc = .sending what) ∧
        (s.recv cmd spawn).1.server = s.server ∧ (s.recv cmd spawn).1.sessions = s.sessions := by
  unfold Supervisor.recv
  cases hserver : s.noteReceived.server with
  | none => exact .inl (dispatch_pc_of_none hserver _ spawn hcmd)
  | some handle =>
    have hsame := (noteReceived_cases s).resolve_left (by simp [hserver])
    rcases dispatch_pc_of_some hserver s.received spawn hcmd with htop | ⟨hfor, hwhat, hs, hx⟩
    · exact .inl htop
    rw [hs, hx, hsame]
    rw [hsame] at hfor hserver
    refine .inr ⟨?_, ?_, hsame ▸ hwhat, rfl, rfl⟩
    · cases cmd <;> exact hfor
    · exact Option.isSome_iff_exists.2 ⟨handle, hserver⟩

theorem recv_shutdown_pc (s : Supervisor) (spawn : Except String Unit) :
    (s.recv .shutdown spawn).1.pc = .stopped ∨ s.server.isSome = true ∧
      (s.recv .shutdown spawn).1.pc = .sending .shutdown ∧
        (s.recv .shutdown spawn).1.server = s.server ∧
        (s.recv .shutdown spawn).1.sessions = s.sessions := by
  unfold Supervisor.recv
  simp only [Supervisor.dispatch]
  split
  next handle hserver =>
    have hsame := (noteReceived_cases s).resolve_left (by simp [hserver])
    rw [hsame] at hserver ⊢
    exact .inr ⟨Option.isSome_iff_exists.2 ⟨handle, hserver⟩, rfl, rfl, rfl⟩
  · exact .inl rfl

theorem server_of_dispatch {number : Nat} {spawn : Except String Unit}
    (hserver : (s.dispatch number spawn cmd).1.server = some handle)
    (htaken : handle.doneTaken = true) : s.server = some handle := by
  cases cmd with
  | startServer config =>
    simp only [Supervisor.dispatch] at hserver
    split at hserver
    · split at hserver <;> exact hserver
    cases spawn with
    | error e => cases hserver
    | ok u =>
      cases hserver
      cases htaken
  | restartServer config =>
    simp only [Supervisor.dispatch] at hserver
    split at hserver
    · split at hserver <;> exact hserver
    · exact hserver
  | profile => exact hserver
  | stopServer | removeServer | shutdown =>
    simp only [Supervisor.dispatch] at hserver
    split at hserver <;> exact hserver

end Recv

/-! ## Where the loop is -/

inductive Place (s : RunLoop) : Prop
  | top (hserver : s.server.pc = .top) (htunnels : s.tunnels.pc = .waiting)
  | delivering {i : Nat} {cmd : TunnelCmd} (hserver : s.server.pc = .top)
      (htunnels : s.tunnels.pc = .sending i cmd) (hroom : tunnelRoom s.tunnels i = true)
  | receiving (hserver : s.server.pc = .waiting) (htunnels : s.tunnels.pc = .waiting)
  | sending {what : Sending} (hwhat : what ≠ .shutdown) (hserver : s.server.pc = .sending what)
      (htunnels : s.tunnels.pc = .waiting) (hsome : s.server.server.isSome = true)
      (hroom : serverRoom s.server = true)
  | stopping {rest : List Nat} (hserver : s.server.pc = .sending .shutdown)
      (htunnels : s.tunnels.pc = .stopping rest) (hsome : s.server.server.isSome = true)
      (hroom : serverRoom s.server = true) (hdistinct : rest.Nodup)
      (hrest : ∀ i ∈ rest, tunnelRoom s.tunnels i = true)
  | leaving {rest : List Nat} (hserver : s.server.pc = .stopped)
      (htunnels : s.tunnels.pc = .stopping rest) (hdistinct : rest.Nodup)
      (hrest : ∀ i ∈ rest, tunnelRoom s.tunnels i = true)
  | returned (hserver : s.server.pc = .stopped) (htunnels : s.tunnels.pc = .stopped)

structure Responsive (s : RunLoop) : Prop where
  queue : s.queue.length ≤ controllerCapacity
  apart : HandlesApart s.tunnels
  taken : ∀ handle, s.server.server = some handle → handle.doneTaken = true →
    s.server.pc = .top ∧ s.server.closed handle = true
  place : Place s

section Steps

variable {s t : RunLoop} {l : LoopLabel} {es : List LoopEvent}

theorem Place.mono (h : Place s) (hserver : t.server.pc = s.server.pc)
    (htunnels : t.tunnels.pc = s.tunnels.pc) (hsome : t.server.server = s.server.server)
    (hroom : serverRoom s.server = true → serverRoom t.server = true)
    (hrooms : ∀ i, tunnelRoom s.tunnels i = true → tunnelRoom t.tunnels i = true) : Place t := by
  cases h with
  | top hs ht => exact .top (hserver.trans hs) (htunnels.trans ht)
  | delivering hs ht hr => exact .delivering (hserver.trans hs) (htunnels.trans ht) (hrooms _ hr)
  | receiving hs ht => exact .receiving (hserver.trans hs) (htunnels.trans ht)
  | sending hwhat hs ht hsm hr =>
    exact .sending hwhat (hserver.trans hs) (htunnels.trans ht) (hsome ▸ hsm) (hroom hr)
  | stopping hs ht hsm hr hd hrest =>
    exact .stopping (hserver.trans hs) (htunnels.trans ht) (hsome ▸ hsm) (hroom hr) hd
      fun i hi => hrooms i (hrest i hi)
  | leaving hs ht hd hrest =>
    exact .leaving (hserver.trans hs) (htunnels.trans ht) hd fun i hi => hrooms i (hrest i hi)
  | returned hs ht => exact .returned (hserver.trans hs) (htunnels.trans ht)

theorem command_kinds (cmd : ControllerCall) : cmd = .shutdown ∨
    cmd.command = .profile ∧ cmd.tunnel ≠ .shutdown ∨
    cmd.tunnel = .server ∧ cmd.command ≠ .shutdown := by
  cases cmd <;> simp [ControllerCall.command, ControllerCall.tunnel]

/-- A command that is taken up with room leaves the loop at a place with room. -/
theorem place_take {cmd : ControllerCall} {rest : List ControllerCall}
    {spawn : Except String Unit} (hs : Responsive s) (htunnels : s.tunnels.pc = .waiting)
    (hfor : ∀ h ∈ addressees s.tunnels cmd.tunnel, tunnelRoom s.tunnels h.session = true)
    (hserver : isForServer s.server cmd.command = true → serverRoom s.server = true) :
    Place (s.take cmd rest spawn).1 := by
  have hroom {u : Supervisor} (hu : u.server = s.server.server)
      (hx : u.sessions = s.server.sessions) (h : serverRoom s.server = true) :
      serverRoom u = true := by
    unfold serverRoom
    rw [hu, hx]
    exact h
  rcases command_kinds cmd with rfl | ⟨hprofile, hcmd⟩ | ⟨hother, hcmd⟩
  · -- the sessions that are told are the handles that are left, each once
    have hrest : ∀ i ∈ s.tunnels.retained.handles.map TunnelHandle.session,
        tunnelRoom s.tunnels i = true := by
      intro i hi
      obtain ⟨h, hmem, rfl⟩ := List.mem_map.1 hi
      exact hfor h (TunnelSupervisor.retained_handles h hmem)
    rcases recv_shutdown_pc s.server spawn with hstopped | ⟨hsome, hsending, hu, hx⟩
    · exact .leaving hstopped rfl hs.apart.retained.distinct hrest
    · exact .stopping hsending rfl (hu ▸ hsome) (hroom hu hx (hserver rfl))
        hs.apart.retained.distinct hrest
  · have htop : (s.take cmd rest spawn).1.server.pc = .top := by
      simp [RunLoop.take, hprofile, Supervisor.recv, Supervisor.dispatch]
    rcases dispatch_pc htunnels spawn hcmd with hwaiting | ⟨h, hmem, c, hsending, hx⟩
    · exact .top htop hwaiting
    refine .delivering htop hsending ?_
    have hsame := hfor h hmem
    unfold tunnelRoom at hsame ⊢
    rwa [← hx] at hsame
  · have hwaiting : (s.take cmd rest spawn).1.tunnels.pc = .waiting := by
      simpa [RunLoop.take, hother, TunnelSupervisor.dispatch, TunnelSupervisor.retained] using
        htunnels
    rcases recv_pc s.server spawn hcmd with htop | ⟨hfor, hsome, ⟨what, hwhat, hpc⟩, hu, hx⟩
    · exact .top htop hwaiting
    · exact .sending hwhat hpc hwaiting (hu ▸ hsome) (hroom hu hx (hserver hfor))

theorem not_taken_loopTop (hs : Responsive s) {spawn : Except String Unit} {handle : ServerHandle}
    (hserver : (s.server.loopTop spawn).1.server = some handle) : handle.doneTaken = false := by
  by_contra htaken
  have hold : s.server.checkTop.server = some handle := by
    rcases Supervisor.loopTop_cases s.server spawn with ⟨heq, -⟩ | ⟨n, c, -, -, heq⟩ <;>
      rw [heq] at hserver
    · exact hserver
    cases spawn with
    | error e => cases hserver
    | ok u =>
      cases hserver
      exact absurd rfl htaken
  rcases Supervisor.checkTop_cases s.server with ⟨_, _, hopen, hsame⟩ | ⟨-, hgone⟩
  · rw [hsame] at hold
    have hclosed := (hs.taken handle hold (by simpa using htaken)).2
    simp_all
  · simp [hgone] at hold

theorem closed_eq_all (s : Supervisor) (handle : ServerHandle) :
    s.closed handle = s.sessions[handle.session]?.all fun x => !x.rxOpen := by
  unfold Supervisor.closed
  cases s.sessions[handle.session]? <;> rfl

theorem closed_session {s : Supervisor} {senders : Bool} {snapshot snapshot' : ServerSnapshot}
    {i : Nat} {x y : Session} {sl : SessionLabel} (hx : s.sessions[i]? = some x)
    (hy : x.step senders snapshot sl = some (y, snapshot')) {handle : ServerHandle}
    (h : s.closed handle = true) :
    Supervisor.closed { s with sessions := s.sessions.set i y, snapshot := snapshot' } handle =
      true := by
  rw [closed_eq_all] at h ⊢
  refine all_getElem?_set hx (fun hclosed => ?_) h
  have hopen := rxOpen_of_step hy
  grind

theorem responsive_deliver (hs : Responsive s) {i : Nat} {cmd : TunnelCmd} {u : TunnelSupervisor}
    {pc : TunnelSupervisorPc} (hdeliver : s.tunnels.deliver i cmd = some u)
    (hplace : (∀ j, j ≠ i → tunnelRoom s.tunnels j = true → tunnelRoom u j = true) →
      Place { s with tunnels := { u with pc := pc } }) :
    Responsive { s with tunnels := { u with pc := pc } } := by
  obtain ⟨hhandles, hlen, hrooms⟩ := deliver_keeps hdeliver
  refine ⟨hs.queue, hs.apart.sublist ?_ hlen, hs.taken, hplace fun j hne h => ?_⟩
  · exact hhandles ▸ List.Sublist.refl _
  · rw [hrooms j hne]
    exact h

theorem send_keeps {s u : Supervisor} {what : Sending} (h : s.send what = some u) :
    u.server = s.server ∧
      (what ≠ .shutdown ∧ u.pc = .top ∨ what = .shutdown ∧ u.pc = .stopped) := by
  obtain ⟨v, delivered, hcmd, rfl⟩ := Supervisor.send_cases h
  have hv : v.server = s.server := by
    rcases Supervisor.sendCmd_cases hcmd with rfl | ⟨_, _, _, _, rfl⟩ <;> rfl
  cases what with
  | shutdown => exact ⟨hv, .inr ⟨rfl, rfl⟩⟩
  | restart | stop | remove => exact ⟨hv, .inl ⟨by simp, rfl⟩⟩

/-- **Every step with room keeps the loop responsive**, whatever the sessions do. -/
theorem responsive_step (hs : Responsive s) (hroom : hasRoom s l = true)
    (h : s.step l = some (t, es)) : Responsive t := by
  cases RunLoop.step_cases h with
  | refused => exact hs
  | submit _ hlt =>
    refine ⟨?_, hs.apart, hs.taken, hs.place.mono rfl rfl rfl id fun _ => id⟩
    simpa using Nat.succ_le_of_lt hlt
  | @receive spawn cmd rest hqueue htunnels hserver =>
    obtain ⟨hfor, hserverFor⟩ : (∀ h ∈ addressees s.tunnels cmd.tunnel,
        tunnelRoom s.tunnels h.session = true) ∧
        (isForServer s.server cmd.command = true → serverRoom s.server = true) := by
      simpa [hasRoom, hqueue, Decidable.imp_iff_not_or] using hroom
    refine ⟨?_, hs.apart.retained.dispatch spawn _, fun handle hhandle htaken => ?_,
      place_take hs htunnels hfor hserverFor⟩
    · have hlen := hs.queue
      rw [hqueue, List.length_cons] at hlen
      exact Nat.le_of_succ_le hlen
    have hold : s.server.noteReceived.server = some handle := server_of_dispatch hhandle htaken
    have hsame := (noteReceived_cases s.server).resolve_left (by simp [hold])
    rw [hsame] at hold
    have htop := (hs.taken handle hold htaken).1
    simp [hserver] at htop
  | @loopTop spawn htunnels hserver =>
    refine ⟨hs.queue, hs.apart, fun handle hhandle htaken => ?_,
      .receiving (Supervisor.loopTop_pc _) htunnels⟩
    simp [not_taken_loopTop hs hhandle] at htaken
  | @wakeDone u htunnels hserver hwake =>
    obtain ⟨handle, hhandle, ⟨htaken, -⟩ | rfl⟩ := Supervisor.wakeDone_cases hwake
    · have htop := (hs.taken handle hhandle htaken).1
      simp [hserver] at htop
    have hclosed : s.server.closed handle = true := by simpa [hasRoom, hhandle] using hroom
    refine ⟨hs.queue, hs.apart, fun handle' hhandle' _ => ⟨rfl, ?_⟩, .top rfl htunnels⟩
    cases hhandle'
    exact hclosed
  | @deliver i cmd u htunnels hdeliver =>
    refine responsive_deliver hs hdeliver fun _ => ?_
    cases hs.place with
    | delivering htop => exact .top htop rfl
    | top _ ht | receiving _ ht | sending _ _ ht | stopping _ ht | leaving _ ht | returned _ ht =>
      simp [htunnels] at ht
  | @tell i rest u htunnels hdeliver =>
    refine responsive_deliver hs hdeliver fun hrooms => ?_
    have hkept {rest' : List Nat} (ht : s.tunnels.pc = .stopping rest') (hd : rest'.Nodup)
        (hrest : ∀ j ∈ rest', tunnelRoom s.tunnels j = true) :
        rest.Nodup ∧ ∀ j ∈ rest, tunnelRoom u j = true := by
      obtain rfl : rest' = i :: rest := by simpa [htunnels] using ht.symm
      obtain ⟨hnotin, hnodup⟩ := List.nodup_cons.1 hd
      refine ⟨hnodup, fun j hj => hrooms j ?_ (hrest j (List.mem_cons_of_mem i hj))⟩
      rintro rfl
      exact hnotin hj
    cases hs.place with
    | stopping hsend ht hsome hroom' hd hrest =>
      obtain ⟨hnodup, hroomy⟩ := hkept ht hd hrest
      exact .stopping hsend rfl hsome hroom' hnodup hroomy
    | leaving hstopped ht hd hrest =>
      obtain ⟨hnodup, hroomy⟩ := hkept ht hd hrest
      exact .leaving hstopped rfl hnodup hroomy
    | top _ ht | receiving _ ht | sending _ _ ht | delivering _ ht | returned _ ht =>
      simp [htunnels] at ht
  | finish htunnels hserver =>
    exact ⟨hs.queue, hs.apart.sublist (List.Sublist.refl _) rfl, hs.taken, .returned hserver rfl⟩
  | @send what u htunnels hserver hsend =>
    obtain ⟨hsame, hpc⟩ := send_keeps hsend
    refine ⟨hs.queue, hs.apart, fun handle hhandle htaken => ?_, ?_⟩
    · have htop := (hs.taken handle (hsame ▸ hhandle) htaken).1
      simp [hserver] at htop
    cases hs.place with
    | sending hwhat hs' ht =>
      obtain rfl : what = _ := SupervisorPc.sending.inj (hserver.symm.trans hs')
      rcases hpc with ⟨-, htop⟩ | ⟨hshutdown, -⟩
      · exact .top htop ht
      · exact absurd hshutdown hwhat
    | stopping hs' ht _ _ hd hrest =>
      obtain rfl : what = .shutdown := SupervisorPc.sending.inj (hserver.symm.trans hs')
      rcases hpc with ⟨hwhat, -⟩ | ⟨-, hstopped⟩
      · exact absurd rfl hwhat
      · exact .leaving hstopped ht hd hrest
    | top hs' | delivering hs' | receiving hs' | leaving hs' | returned hs' =>
      simp [hserver] at hs'
  | tunnelSession hx hy =>
    refine ⟨hs.queue, hs.apart.sublist (List.Sublist.refl _) (by simp), hs.taken,
      hs.place.mono rfl rfl rfl id fun j => tunnelRoom_session hx hy⟩
  | serverSession hx hy =>
    refine ⟨hs.queue, hs.apart, fun handle hhandle htaken => ?_,
      hs.place.mono rfl rfl rfl (serverRoom_session hx hy) fun _ => id⟩
    exact (hs.taken handle hhandle htaken).imp_right (closed_session hx hy)

/-! ## The way back to the receive -/

/-- A step of the loop itself, in which no session has a part; `spawn` is what comes of the thread
it may start. -/
def OwnStep (spawn : Except String Unit) : LoopLabel → Prop
  | .receive outcome | .loopTop outcome => outcome = spawn
  | .deliver | .send => True
  | _ => False

def Receiving (s : RunLoop) : Prop :=
  s.tunnels.pc = .waiting ∧ s.server.pc = .waiting

def ShuttingDown (s : RunLoop) : Prop :=
  s.tunnels.pc = .stopped ∨ ∃ rest, s.tunnels.pc = .stopping rest

def HeldUp (s : RunLoop) : Prop :=
  (∃ i cmd, s.tunnels.pc = .sending i cmd ∧ s.tunnels.deliver i cmd = none) ∨
    (∃ i rest, s.tunnels.pc = .stopping (i :: rest) ∧ s.tunnels.deliver i .shutdown = none) ∨
    ∃ what, s.server.pc = .sending what ∧ s.server.send what = none

/-- How many steps of its own the loop is away from its receive, or from its end. -/
def distance (s : RunLoop) : Nat :=
  (match s.tunnels.pc with
    | .waiting | .stopped => 0
    | .sending _ _ => 1
    | .stopping rest => rest.length + 1) +
  (match s.server.pc with
    | .top | .sending .shutdown => 1
    | .sending _ => 2
    | _ => 0)

/-- A step of its own brings the loop nearer to its receive, or to its end. -/
def Approaches (spawn : Except String Unit) (s : RunLoop) : Prop :=
  ∃ l t es, (OwnStep spawn l ∧ hasRoom s l = true) ∧ s.step l = some (t, es) ∧
    (t.queue = s.queue ∧ (ShuttingDown t ↔ ShuttingDown s)) ∧ distance t < distance s

theorem approach_tell {i : Nat} {rest : List Nat} (spawn : Except String Unit)
    (htunnels : s.tunnels.pc = .stopping (i :: rest)) (hroom : tunnelRoom s.tunnels i = true) :
    Approaches spawn s := by
  obtain ⟨u, hu⟩ := deliver_of_room .shutdown hroom
  refine ⟨.deliver, _, _, ⟨trivial, rfl⟩, (RunLoop.Step.tell htunnels hu).step_eq,
    ⟨rfl, by simp [ShuttingDown, htunnels]⟩, ?_⟩
  simp [distance, htunnels]

/-- Away from its receive and its end, the loop has a step of its own that brings it nearer. -/
theorem approach (hs : Responsive s) (spawn : Except String Unit)
    (hgoal : ¬ (Receiving s ∨ s.tunnels.pc = .stopped)) : Approaches spawn s := by
  cases hs.place with
  | receiving hserver htunnels => exact absurd (.inl ⟨htunnels, hserver⟩) hgoal
  | returned hserver htunnels => exact absurd (.inr htunnels) hgoal
  | top hserver htunnels =>
    refine ⟨.loopTop spawn, _, _, ⟨rfl, rfl⟩, (RunLoop.Step.loopTop htunnels hserver).step_eq,
      ⟨rfl, .rfl⟩, ?_⟩
    simp [distance, hserver]
  | @delivering i cmd hserver htunnels hroom =>
    obtain ⟨u, hu⟩ := deliver_of_room cmd hroom
    refine ⟨.deliver, _, _, ⟨trivial, rfl⟩, (RunLoop.Step.deliver htunnels hu).step_eq,
      ⟨rfl, by simp [ShuttingDown, htunnels]⟩, ?_⟩
    simp [distance, htunnels]
  | @sending what hwhat hserver htunnels hsome hroom =>
    obtain ⟨u, hu⟩ := send_of_room what hsome hroom
    obtain ⟨-, ⟨-, hpc⟩ | ⟨hshutdown, -⟩⟩ := send_keeps hu
    · refine ⟨.send, _, _, ⟨trivial, rfl⟩, (RunLoop.Step.send (.inl htunnels) hserver hu).step_eq,
        ⟨rfl, .rfl⟩, ?_⟩
      cases what with
      | shutdown => exact absurd rfl hwhat
      | restart | stop | remove => simp [distance, hserver, hpc]
    · exact absurd hshutdown hwhat
  | @stopping rest hserver htunnels hsome hroom hdistinct hrest =>
    cases rest with
    | nil =>
      obtain ⟨u, hu⟩ := send_of_room .shutdown hsome hroom
      obtain ⟨-, ⟨hwhat, -⟩ | ⟨-, hpc⟩⟩ := send_keeps hu
      · exact absurd rfl hwhat
      · refine ⟨.send, _, _, ⟨trivial, rfl⟩,
          (RunLoop.Step.send (.inr htunnels) hserver hu).step_eq, ⟨rfl, .rfl⟩, ?_⟩
        simp [distance, hserver, hpc]
    | cons i rest => exact approach_tell spawn htunnels (hrest i List.mem_cons_self)
  | @leaving rest hserver htunnels hdistinct hrest =>
    cases rest with
    | nil =>
      refine ⟨.deliver, _, _, ⟨trivial, rfl⟩, (RunLoop.Step.finish htunnels hserver).step_eq,
        ⟨rfl, by simp [ShuttingDown, htunnels]⟩, ?_⟩
      simp [distance, htunnels]
    | cons i rest => exact approach_tell spawn htunnels (hrest i List.mem_cons_self)

theorem submit_of_room (cmd : ControllerCall) (h : s.queue.length < controllerCapacity) :
    (runLoop.step s (.submit cmd)).isSome = true := by
  simp only [runLoop, RunLoop.step]
  split <;> rfl

/-- A responsive loop is not held up. -/
theorem not_heldUp (hs : Responsive s) : ¬ HeldUp s := by
  rintro (⟨i, cmd, hpc, hnone⟩ | ⟨i, rest, hpc, hnone⟩ | ⟨what, hpc, hnone⟩)
  · cases hs.place with
    | delivering _ ht hroom =>
      obtain ⟨rfl, rfl⟩ := TunnelSupervisorPc.sending.inj (hpc.symm.trans ht)
      obtain ⟨u, hu⟩ := deliver_of_room cmd hroom
      simp [hnone] at hu
    | top _ ht | receiving _ ht | sending _ _ ht | stopping _ ht | leaving _ ht | returned _ ht =>
      simp [hpc] at ht
  · have hroom {rest' : List Nat} (ht : s.tunnels.pc = .stopping rest')
        (hrest : ∀ j ∈ rest', tunnelRoom s.tunnels j = true) : False := by
      obtain rfl := TunnelSupervisorPc.stopping.inj (hpc.symm.trans ht)
      obtain ⟨u, hu⟩ := deliver_of_room .shutdown (hrest i List.mem_cons_self)
      simp [hnone] at hu
    cases hs.place with
    | stopping _ ht _ _ _ hrest | leaving _ ht _ hrest => exact hroom ht hrest
    | top _ ht | delivering _ ht | receiving _ ht | sending _ _ ht | returned _ ht =>
      simp [hpc] at ht
  · have hroom (hsome : s.server.server.isSome = true) (hroom : serverRoom s.server = true) :
        False := by
      obtain ⟨u, hu⟩ := send_of_room what hsome hroom
      simp [hnone] at hu
    cases hs.place with
    | sending _ _ _ hsome hr | stopping _ _ hsome hr => exact hroom hsome hr
    | top hs' | delivering hs' | receiving hs' | leaving hs' | returned hs' => simp [hpc] at hs'

theorem distance_le (hs : Responsive s) (hdown : ¬ ShuttingDown s) : distance s ≤ 2 := by
  cases hs.place with
  | top hserver htunnels | delivering hserver htunnels | receiving hserver htunnels =>
    simp [distance, hserver, htunnels]
  | @sending what hwhat hserver htunnels =>
    cases what <;> simp [distance, hserver, htunnels]
  | stopping _ htunnels | leaving _ htunnels => exact absurd (.inr ⟨_, htunnels⟩) hdown
  | returned _ htunnels => exact absurd (.inl htunnels) hdown

/-- A responsive loop gets back to its receive by at most two steps of its own, or to its end. -/
theorem comes_back (hs : Responsive s) (spawn : Except String Unit) :
    ∃ own t log, (∀ l ∈ own, OwnStep spawn l) ∧ runLoop.run s own = some (t, log) ∧
      Responsive t ∧ t.queue = s.queue ∧
      (own.length ≤ 2 ∧ Receiving t ∨ ShuttingDown s ∧ t.tunnels.pc = .stopped) := by
  obtain ⟨own, t, log, hown, hlen, hrun, ⟨ht, hqueue, hdown⟩, hgoal⟩ :=
    runLoop.exists_run_of_measure
      (P := fun t => Responsive t ∧ t.queue = s.queue ∧ (ShuttingDown t ↔ ShuttingDown s))
      (G := fun t => Receiving t ∨ t.tunnels.pc = .stopped) (A := OwnStep spawn)
      distance (fun t ht hgoal => by
        obtain ⟨l, u, es, ⟨hl, hroom⟩, hu, ⟨hqueue, hdown⟩, hlt⟩ := approach ht.1 spawn hgoal
        exact ⟨l, u, es, hl, hu, ⟨responsive_step ht.1 hroom hu, hqueue.trans ht.2.1,
          hdown.trans ht.2.2⟩, hlt⟩)
      ⟨hs, rfl, .rfl⟩
  refine ⟨own, t, log, hown, hrun, ht, hqueue, ?_⟩
  rcases hgoal with hreceiving | hstopped
  · refine .inl ⟨hlen.trans (distance_le hs fun h => ?_), hreceiving⟩
    have ht' := hdown.2 h
    simp [ShuttingDown, hreceiving.1] at ht'
  · exact .inr ⟨hdown.1 (.inl hstopped), hstopped⟩

end Steps

/-- **The loop answers, as long as each command is taken up with room in the channels of the
sessions it is for** (`hasRoom`), whatever the sessions do: it is never held up in a send; at most
two steps of its own take it back to its receive, or to its end once it was shut down; and by its
own steps every call of the controller gets its command into the channel. -/
theorem loop_answers {ls : List LoopLabel} {s : RunLoop} {log : List LoopEvent}
    (hroom : runLoop.Guarded (fun s l => hasRoom s l = true) {} ls)
    (hrun : runLoop.run {} ls = some (s, log)) :
    ¬ HeldUp s ∧
    (∀ spawn : Except String Unit, ∃ own t log', (∀ l ∈ own, OwnStep spawn l) ∧
      runLoop.run s own = some (t, log') ∧
      (own.length ≤ 2 ∧ Receiving t ∨ ShuttingDown s ∧ t.returned = true)) ∧
    ∀ (cmd : ControllerCall) (spawn : Except String Unit), ∃ own t log',
      (∀ l ∈ own, OwnStep spawn l) ∧ runLoop.run s own = some (t, log') ∧
      (runLoop.step t (.submit cmd)).isSome = true := by
  have hs : Responsive s :=
    runLoop.guarded_invariant (fun _ _ _ _ hroom hs h => responsive_step hs hroom h)
      ⟨by simp, ⟨by simp, by simp⟩, by simp, .top rfl rfl⟩ hroom hrun
  refine ⟨not_heldUp hs, fun spawn => ?_, fun cmd spawn => ?_⟩
  · obtain ⟨own, t, log', hown, hback, -, -, hcase⟩ := comes_back hs spawn
    refine ⟨own, t, log', hown, hback, hcase.imp_right (And.imp_right fun hstopped => ?_)⟩
    simp [RunLoop.returned, hstopped]
  obtain ⟨own, t, log', hown, hback, ht, -, hcase⟩ := comes_back hs spawn
  rcases hcase with ⟨-, htunnels, hserver⟩ | ⟨-, hstopped⟩
  · by_cases hfree : t.queue.length < controllerCapacity
    · exact ⟨own, t, log', hown, hback, submit_of_room cmd hfree⟩
    -- a full channel has a command for the loop, and room once it is taken
    obtain ⟨next, rest, hqueue⟩ : ∃ next rest, t.queue = next :: rest :=
      List.exists_cons_of_ne_nil (by
        rintro hnil
        simp [hnil, controllerCapacity] at hfree)
    have hlen := ht.queue
    rw [hqueue, List.length_cons] at hlen
    have htake : runLoop.step t (.receive spawn) = some (t.take next rest spawn) :=
      (RunLoop.Step.receive hqueue htunnels hserver).step_eq
    have hone : runLoop.run t [.receive spawn] =
        some ((t.take next rest spawn).1, (t.take next rest spawn).2 ++ []) :=
      runLoop.run_cons_eq_some.2 ⟨_, _, [], htake, rfl, rfl⟩
    have hroom' : (t.take next rest spawn).1.queue.length < controllerCapacity := hlen
    refine ⟨own ++ [.receive spawn], _, _, ?_, runLoop.run_append hback hone,
      submit_of_room cmd hroom'⟩
    exact List.forall_mem_append.2 ⟨hown, List.forall_mem_singleton.2 rfl⟩
  · refine ⟨own, t, log', hown, hback, ?_⟩
    simp [runLoop, RunLoop.step, RunLoop.returned, hstopped]

/-! ## A wedged session -/

def profileUp : List LoopLabel :=
  [.loopTop (.ok ()), .submit (.connect (nodeProfile "a") "secret"), .receive (.ok ()),
    .loopTop (.ok ()), .tunnelSession 0 (.begin true), .tunnelSession 0 (.created true),
    .tunnelSession 0 (.bound true)]

def sentOn (cmd : ControllerCall) : List LoopLabel :=
  [.submit cmd, .receive (.ok ()), .deliver, .loopTop (.ok ())]

/-- The profile is disconnected while a command of the UI waits in the controller's channel. -/
def disconnected : List LoopLabel :=
  profileUp ++ [.submit (.disconnect "a"), .receive (.ok ()), .submit (.queryConnPath "a")]

/-- With room for the disconnect the loop goes back to its receive, and the call gets through. -/
theorem loop_answers_disconnected :
    ∃ s log, runLoop.run {} disconnected = some (s, log) ∧
      runLoop.Guarded (fun s l => hasRoom s l = true) {} disconnected ∧
      s.tunnels.pc = .sending 0 .disconnect ∧ ¬ HeldUp s ∧
      ∃ own t log', own.length ≤ 2 ∧ runLoop.run s own = some (t, log') ∧ Receiving t := by
  have hroom : runLoop.Guarded (fun s l => hasRoom s l = true) {} disconnected := by decide
  refine ⟨_, _, rfl, hroom, rfl, ?_⟩
  obtain ⟨hfree, hback, -⟩ := loop_answers hroom rfl
  obtain ⟨own, t, log', -, hrun, ⟨hlen, hreceiving⟩ | ⟨hdown, -⟩⟩ := hback (.ok ())
  · exact ⟨hfree, own, t, log', hlen, hrun, hreceiving⟩
  · rcases hdown with hstopped | ⟨rest, hstopping⟩
    · cases hstopped
    · cases hstopping

/-- The endpoint of a disconnected session does not close; eight commands fill its channel, the
ninth holds up the loop, and the controller's channel fills up behind it. -/
def wedged : List LoopLabel :=
  profileUp ++ sentOn (.disconnect "a") ++ [.tunnelSession 0 .command] ++
    (List.replicate 8 (sentOn (.setForwards "a" []))).flatten ++
    [.submit (.setForwards "a" []), .receive (.ok ())] ++
    List.replicate 16 (.submit (.queryConnPath "a"))

structure Stuck (s : RunLoop) : Prop where
  queue : s.queue.length = controllerCapacity
  server : s.server.pc = .top
  tunnels : ∃ cmd, s.tunnels.pc = .sending 0 cmd
  full : ∃ x, s.tunnels.sessions[0]? = some x ∧ x.pc.rxOpen = true ∧
    x.queue.length = tunnelChannelCapacity

theorem Stuck.deliver {s : RunLoop} (hs : Stuck s) (cmd : TunnelCmd) :
    s.tunnels.deliver 0 cmd = none := by
  obtain ⟨x, hx, hopen, hlen⟩ := hs.full
  simp [TunnelSupervisor.deliver, hx, hopen, hlen]

/-- A loop stuck at a session stays stuck until the session takes a step. -/
theorem stuck_step {s t : RunLoop} {l : LoopLabel} {es : List LoopEvent} (hs : Stuck s)
    (hl : ∀ tl, l ≠ .tunnelSession 0 tl) (h : s.step l = some (t, es)) : Stuck t := by
  obtain ⟨cmd, hcmd⟩ := hs.tunnels
  cases RunLoop.step_cases h with
  | refused => exact hs
  | submit _ hroom => simp [hs.queue] at hroom
  | receive _ ht | loopTop ht | wakeDone ht | tell ht | finish ht => simp [hcmd] at ht
  | send ht => simp [hcmd] at ht
  | deliver ht hdeliver =>
    obtain ⟨rfl, rfl⟩ := TunnelSupervisorPc.sending.inj (hcmd.symm.trans ht)
    simp [hs.deliver] at hdeliver
  | @tunnelSession i tl x y hx hy =>
    have hi : i ≠ 0 := by
      rintro rfl
      exact hl tl rfl
    refine ⟨hs.queue, hs.server, hs.tunnels, ?_⟩
    simpa [List.getElem?_set_ne hi] using hs.full
  | serverSession => exact ⟨hs.queue, hs.server, hs.tunnels, hs.full⟩

/-- **One wedged session blocks every call.** After this run, and for as long as the session does
not take a step, the loop is held up in its send and no call of the controller, `query_conn_path`
among them, gets its command into the channel. -/
theorem wedged_session_blocks_calls :
    ∃ s log, runLoop.run {} wedged = some (s, log) ∧
      ∀ ls, (∀ l ∈ ls, ∀ tl, l ≠ .tunnelSession 0 tl) →
        ∀ t log', runLoop.run s ls = some (t, log') →
          HeldUp t ∧ ∀ cmd, runLoop.step t (.submit cmd) = none := by
  refine ⟨_, _, rfl, fun ls hls t log' hrun => ?_⟩
  have ht : Stuck t :=
    runLoop.guarded_invariant (C := fun _ l => ∀ tl, l ≠ .tunnelSession 0 tl)
      (fun _ _ _ _ hl hs h => stuck_step hs hl h) ⟨rfl, rfl, ⟨_, rfl⟩, _, rfl, rfl, rfl⟩
      (runLoop.guarded_of_mem (fun l hl _ => hls l hl) _) hrun
  obtain ⟨cmd, hcmd⟩ := ht.tunnels
  refine ⟨.inl ⟨0, cmd, hcmd, ht.deliver cmd⟩, fun cmd' => ?_⟩
  simp [runLoop, RunLoop.step, RunLoop.returned, hcmd, ht.server, ht.queue]

end Flextunnel.Analysis
