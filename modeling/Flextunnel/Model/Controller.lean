import Flextunnel.Model.Desktop

/-!
# The desktop controller and its loop

One loop serves the profile commands (`TunnelSupervisor`) and the server commands (`Supervisor`).
The two models have one half of it each; here they take every command together. A half that a
command is not for only checks which of its sessions have ended. The loop is in one place at a
time, so the halves wait for each other: no command is received, and the top of the loop is not
run, while the loop is suspended in a send to a session of either kind.

The UI's calls are sends into the controller's channel of sixteen commands that block the calling
thread while it is full; they fail at once when the loop has returned and the receiver is gone.

In every run of the loop each half runs as its own machine does.
-/

set_option autoImplicit false

namespace Flextunnel.Model

open Lib

def ControllerCall.tunnel : ControllerCall → TunnelCommand
  | .connect profile authKey => .connect profile authKey
  | .disconnect id => .disconnect id
  | .setForwards id forwards => .setForwards id forwards
  | .removeProfile id => .removeProfile id
  | .queryConnPath id => .queryConnPath id
  | .startServer _ | .restartServer _ | .stopServer | .removeServer => .server
  | .shutdown => .shutdown

/-- The controller's channel, oldest command first, and the two halves of the loop. The channel
stands here for that of `tunnels`, which stays empty. -/
structure RunLoop where
  queue : List ControllerCall := []
  tunnels : TunnelSupervisor := {}
  server : Supervisor := {}

inductive LoopEvent where
  | tunnel (e : TunnelEvent)
  | server (e : SupervisorEvent)

inductive LoopLabel where
  /-- The send of a call of the controller completes. -/
  | submit (cmd : ControllerCall)
  | receive (spawn : Except String Unit)
  | loopTop (spawn : Except String Unit)
  | wakeDone
  /-- The send to a client session completes. -/
  | deliver
  /-- The send to the server session completes. -/
  | send
  | tunnelSession (i : Nat) (l : TunnelSessionLabel)
  | serverSession (i : Nat) (l : SessionLabel)

namespace RunLoop

/-- The loop has returned, or its thread has panicked, and the controller's receiver is gone. -/
def returned (s : RunLoop) : Bool :=
  match s.tunnels.pc, s.server.pc with
  | .stopped, _ | _, .panicked => true
  | _, _ => false

def tunnelStep (s : RunLoop) (l : TunnelLabel) : Option (RunLoop × List LoopEvent) :=
  (s.tunnels.step l).map fun r => ({ s with tunnels := r.1 }, r.2.map .tunnel)

def serverStep (s : RunLoop) (l : SupervisorLabel) : Option (RunLoop × List LoopEvent) :=
  (s.server.step l).map fun r => ({ s with server := r.1 }, r.2.map .server)

/-- Both halves take the command that was received.
SOURCE: desktop/tunnel.rs:364-488 -/
def take (s : RunLoop) (cmd : ControllerCall) (rest : List ControllerCall)
    (spawn : Except String Unit) : RunLoop × List LoopEvent :=
  let r := s.tunnels.retained.dispatch spawn cmd.tunnel
  let q := s.server.recv cmd.command spawn
  ({ queue := rest, tunnels := r.1, server := q.1 }, r.2.map .tunnel ++ q.2.map .server)

/-- One step of a call, of the loop or of a session.
SOURCE: desktop/tunnel.rs:182-242, 335-507 -/
def step (s : RunLoop) : LoopLabel → Option (RunLoop × List LoopEvent)
  | .submit cmd =>
    -- the channel without a receiver takes nothing and blocks nobody
    if s.returned then some (s, [])
    else if s.queue.length < controllerCapacity then some ({ s with queue := s.queue ++ [cmd] }, [])
    else none
  | .receive spawn =>
    match s.queue, s.tunnels.pc, s.server.pc with
    | cmd :: rest, .waiting, .waiting => some (s.take cmd rest spawn)
    | _, _, _ => none
  | .loopTop spawn =>
    match s.tunnels.pc with
    | .waiting => s.serverStep (.loopTop spawn)
    | _ => none
  | .wakeDone =>
    match s.tunnels.pc with
    | .waiting => s.serverStep .wakeDone
    | _ => none
  | .deliver =>
    match s.tunnels.pc, s.server.pc with
    | .stopping [], .stopped => s.tunnelStep .deliver
    | .stopping [], _ => none
    | _, _ => s.tunnelStep .deliver
  | .send =>
    -- at a shutdown the client sessions are told before the server
    match s.tunnels.pc with
    | .waiting | .stopping [] => s.serverStep .send
    | _ => none
  | .tunnelSession i l => s.tunnelStep (.session i l)
  | .serverSession i l => s.serverStep (.session i l)

end RunLoop

/-- The desktop's loop with its sessions: it starts with none and an empty channel. -/
def runLoop : Machine RunLoop LoopLabel LoopEvent where
  init s := s = {}
  step := RunLoop.step

/-! ## What a step can do -/

namespace RunLoop

variable {s t : RunLoop} {l : LoopLabel} {es : List LoopEvent}

inductive Step (s : RunLoop) : LoopLabel → RunLoop → List LoopEvent → Prop
  | refused {cmd : ControllerCall} (hreturned : s.returned = true) : Step s (.submit cmd) s []
  | submit {cmd : ControllerCall} (hreturned : s.returned = false)
      (hroom : s.queue.length < controllerCapacity) :
      Step s (.submit cmd) { s with queue := s.queue ++ [cmd] } []
  | receive {spawn : Except String Unit} {cmd : ControllerCall} {rest : List ControllerCall}
      (hqueue : s.queue = cmd :: rest) (htunnels : s.tunnels.pc = .waiting)
      (hserver : s.server.pc = .waiting) :
      Step s (.receive spawn) (s.take cmd rest spawn).1 (s.take cmd rest spawn).2
  | loopTop {spawn : Except String Unit} (htunnels : s.tunnels.pc = .waiting)
      (hserver : s.server.pc = .top) :
      Step s (.loopTop spawn) { s with server := (s.server.loopTop spawn).1 }
        ((s.server.loopTop spawn).2.map .server)
  | wakeDone {u : Supervisor} (htunnels : s.tunnels.pc = .waiting)
      (hserver : s.server.pc = .waiting) (hwake : s.server.wakeDone = some u) :
      Step s .wakeDone { s with server := u } []
  | deliver {i : Nat} {cmd : TunnelCmd} {u : TunnelSupervisor}
      (htunnels : s.tunnels.pc = .sending i cmd) (hdeliver : s.tunnels.deliver i cmd = some u) :
      Step s .deliver { s with tunnels := { u with pc := .waiting } } []
  | tell {i : Nat} {rest : List Nat} {u : TunnelSupervisor}
      (htunnels : s.tunnels.pc = .stopping (i :: rest))
      (hdeliver : s.tunnels.deliver i .shutdown = some u) :
      Step s .deliver { s with tunnels := { u with pc := .stopping rest } } []
  | finish (htunnels : s.tunnels.pc = .stopping []) (hserver : s.server.pc = .stopped) :
      Step s .deliver { s with tunnels := { s.tunnels with pc := .stopped } } []
  | send {what : Sending} {u : Supervisor}
      (htunnels : s.tunnels.pc = .waiting ∨ s.tunnels.pc = .stopping [])
      (hserver : s.server.pc = .sending what) (hsend : s.server.send what = some u) :
      Step s .send { s with server := u } []
  | tunnelSession {i : Nat} {l : TunnelSessionLabel} {x y : TunnelSession}
      (hx : s.tunnels.sessions[i]? = some x) (hy : x.step s.tunnels.pc.senders l = some y) :
      Step s (.tunnelSession i l)
        { s with tunnels := { s.tunnels with sessions := s.tunnels.sessions.set i y } } []
  | serverSession {i : Nat} {l : SessionLabel} {x y : Session} {snapshot : ServerSnapshot}
      (hx : s.server.sessions[i]? = some x)
      (hy : x.step s.server.pc.senders s.server.snapshot l = some (y, snapshot)) :
      Step s (.serverSession i l)
        { s with server := { s.server with
            sessions := s.server.sessions.set i y, snapshot := snapshot } } []

theorem serverStep_eq_some {l : SupervisorLabel} (h : s.serverStep l = some (t, es)) :
    ∃ u es', Supervisor.Step s.server l u es' ∧ t = { s with server := u } ∧
      es = es'.map .server := by
  obtain ⟨⟨u, es'⟩, hu, ⟨⟩⟩ := Option.map_eq_some_iff.1 h
  exact ⟨u, es', Supervisor.step_cases hu, rfl, rfl⟩

theorem tunnelStep_eq_some {l : TunnelLabel} (h : s.tunnelStep l = some (t, es)) :
    ∃ u es', s.tunnels.step l = some (u, es') ∧ t = { s with tunnels := u } ∧
      es = es'.map .tunnel := by
  obtain ⟨⟨u, es'⟩, hu, ⟨⟩⟩ := Option.map_eq_some_iff.1 h
  exact ⟨u, es', hu, rfl, rfl⟩

theorem step_deliver (h : s.step .deliver = some (t, es)) : Step s .deliver t es := by
  have hcases (hstep : s.tunnelStep .deliver = some (t, es))
      (hserver : s.tunnels.pc = .stopping [] → s.server.pc = .stopped) : Step s .deliver t es := by
    obtain ⟨u, es', hu, rfl, rfl⟩ := tunnelStep_eq_some hstep
    simp only [TunnelSupervisor.step] at hu
    split at hu
    next i cmd hpc =>
      obtain ⟨v, hv, ⟨⟩⟩ := Option.map_eq_some_iff.1 hu
      exact .deliver hpc hv
    next i rest hpc =>
      obtain ⟨v, hv, ⟨⟩⟩ := Option.map_eq_some_iff.1 hu
      exact .tell hpc hv
    next hpc =>
      cases hu
      exact .finish hpc (hserver hpc)
    · cases hu
  simp only [step] at h
  split at h
  next hserver => exact hcases h fun _ => hserver
  · cases h
  next hother _ => exact hcases h fun hpc => absurd hpc hother

/-- Every step of the loop is one of these. -/
theorem step_cases (h : s.step l = some (t, es)) : Step s l t es := by
  cases l with
  | submit cmd =>
    simp only [step] at h
    split at h
    next hreturned =>
      cases h
      exact .refused hreturned
    next hreturned =>
      split at h <;> cases h
      next hroom => exact .submit (by simpa using hreturned) hroom
  | receive spawn =>
    simp only [step] at h
    split at h <;> cases h
    next cmd rest hqueue htunnels hserver => exact .receive hqueue htunnels hserver
  | loopTop spawn =>
    simp only [step] at h
    split at h
    next htunnels =>
      obtain ⟨u, es', hu, rfl, rfl⟩ := serverStep_eq_some h
      cases hu with
      | loopTop hserver => exact .loopTop htunnels hserver
    · cases h
  | wakeDone =>
    simp only [step] at h
    split at h
    next htunnels =>
      obtain ⟨u, es', hu, rfl, rfl⟩ := serverStep_eq_some h
      cases hu with
      | wakeDone hserver hwake => exact .wakeDone htunnels hserver hwake
    · cases h
  | deliver => exact step_deliver h
  | send =>
    have hcases (hstep : s.serverStep .send = some (t, es))
        (htunnels : s.tunnels.pc = .waiting ∨ s.tunnels.pc = .stopping []) :
        Step s .send t es := by
      obtain ⟨u, es', hu, rfl, rfl⟩ := serverStep_eq_some hstep
      cases hu with
      | send hserver hsend => exact .send htunnels hserver hsend
    simp only [step] at h
    split at h
    next htunnels => exact hcases h (.inl htunnels)
    next htunnels => exact hcases h (.inr htunnels)
    · cases h
  | tunnelSession i tl =>
    obtain ⟨u, es', hu, rfl, rfl⟩ := tunnelStep_eq_some h
    simp only [TunnelSupervisor.step] at hu
    split at hu
    next x hx =>
      obtain ⟨y, hy, ⟨⟩⟩ := Option.map_eq_some_iff.1 hu
      exact .tunnelSession hx hy
    · cases hu
  | serverSession i sl =>
    obtain ⟨u, es', hu, rfl, rfl⟩ := serverStep_eq_some h
    cases hu with
    | session hx hy => exact .serverSession hx hy

/-- Each of these is a step of the loop. -/
theorem Step.step_eq (h : Step s l t es) : s.step l = some (t, es) := by
  cases h with
  | refused hreturned => simp [step, hreturned]
  | submit hreturned hroom => simp [step, hreturned, hroom]
  | receive hqueue htunnels hserver => simp [step, hqueue, htunnels, hserver]
  | loopTop htunnels hserver => simp [step, htunnels, serverStep, Supervisor.step, hserver]
  | wakeDone htunnels hserver hwake =>
    simp [step, htunnels, serverStep, Supervisor.step, hserver, hwake]
  | deliver htunnels hdeliver | tell htunnels hdeliver =>
    simp [step, tunnelStep, TunnelSupervisor.step, htunnels, hdeliver]
  | finish htunnels hserver =>
    simp [step, tunnelStep, TunnelSupervisor.step, htunnels, hserver]
  | send htunnels hserver hsend =>
    rcases htunnels with htunnels | htunnels <;>
      simp [step, htunnels, serverStep, Supervisor.step, hserver, hsend]
  | tunnelSession hx hy => simp [step, tunnelStep, TunnelSupervisor.step, hx, hy]
  | serverSession hx hy => simp [step, serverStep, Supervisor.step, hx, hy]

end RunLoop

/-! ## The two halves -/

def LoopEvent.server? : LoopEvent → Option SupervisorEvent
  | .server e => some e
  | .tunnel _ => none

def LoopEvent.tunnel? : LoopEvent → Option TunnelEvent
  | .tunnel e => some e
  | .server _ => none

section Events

variable (es : List SupervisorEvent) (es' : List TunnelEvent)

@[simp] theorem filterMap_server?_server :
    (es.map LoopEvent.server).filterMap LoopEvent.server? = es :=
  List.filterMap_map.trans List.filterMap_some

@[simp] theorem filterMap_server?_tunnel :
    (es'.map LoopEvent.tunnel).filterMap LoopEvent.server? = [] :=
  List.filterMap_map.trans (List.filterMap_eq_nil_iff.2 fun _ _ => rfl)

@[simp] theorem filterMap_tunnel?_tunnel :
    (es'.map LoopEvent.tunnel).filterMap LoopEvent.tunnel? = es' :=
  List.filterMap_map.trans List.filterMap_some

@[simp] theorem filterMap_tunnel?_server :
    (es.map LoopEvent.server).filterMap LoopEvent.tunnel? = [] :=
  List.filterMap_map.trans (List.filterMap_eq_nil_iff.2 fun _ _ => rfl)

end Events

/-- **The server half runs as the supervisor does.** -/
theorem runLoop_server_run {ls : List LoopLabel} {s : RunLoop} {log : List LoopEvent}
    (hrun : runLoop.run {} ls = some (s, log)) :
    ∃ ls', supervisor.run {} ls' = some (s.server, log.filterMap LoopEvent.server?) := by
  refine Machine.run_project (m := runLoop) (n := supervisor) (f := RunLoop.server) ?_ hrun
  intro s l t es hstep
  cases RunLoop.step_cases hstep with
  | refused | submit | deliver | tell | finish | tunnelSession => exact .inl ⟨rfl, rfl⟩
  | @receive spawn cmd rest _ _ hserver =>
    refine .inr ⟨.recv cmd.command spawn, ?_⟩
    simp [supervisor, Supervisor.step, hserver, RunLoop.take, -List.filterMap_map]
  | @loopTop spawn _ hserver =>
    refine .inr ⟨.loopTop spawn, ?_⟩
    simp [supervisor, Supervisor.step, hserver, -List.filterMap_map]
  | wakeDone _ hserver hwake =>
    refine .inr ⟨.wakeDone, ?_⟩
    simp [supervisor, Supervisor.step, hserver, hwake]
  | send _ hserver hsend =>
    refine .inr ⟨.send, ?_⟩
    simp [supervisor, Supervisor.step, hserver, hsend]
  | @serverSession i sl _ _ _ hx hy =>
    refine .inr ⟨.session i sl, ?_⟩
    simp [supervisor, Supervisor.step, hx, hy]

def RunLoop.profiles (s : RunLoop) : TunnelSupervisor :=
  { s.tunnels with queue := s.queue.map ControllerCall.tunnel }

theorem dispatch_queue (s : TunnelSupervisor) (queue : List TunnelCommand)
    (spawn : Except String Unit) (cmd : TunnelCommand) :
    { s with queue := queue }.retained.dispatch spawn cmd =
      ({ (s.retained.dispatch spawn cmd).1 with queue := queue },
        (s.retained.dispatch spawn cmd).2) := by
  have hhandle (id : String) : { s with queue := queue }.retained.handle? id =
      s.retained.handle? id := rfl
  cases cmd with
  | connect profile authKey =>
    have hhandles : { s with queue := queue }.retained.handles = s.retained.handles := rfl
    simp only [TunnelSupervisor.dispatch, TunnelSupervisor.connect, hhandle, hhandles]
    split
    · rfl
    · split
      · rfl
      · cases spawn <;> rfl
  | disconnect id | setForwards id _ | queryConnPath id | removeProfile id =>
    simp only [TunnelSupervisor.dispatch, TunnelSupervisor.sendTo, hhandle]
    cases s.retained.handle? id <;> rfl
  | server | shutdown => rfl

theorem deliver_queue {s u : TunnelSupervisor} {i : Nat} {cmd : TunnelCmd}
    (h : s.deliver i cmd = some u) (queue : List TunnelCommand) :
    { s with queue := queue }.deliver i cmd = some { u with queue := queue } := by
  unfold TunnelSupervisor.deliver at h ⊢
  split at h
  next hnone =>
    cases h
    simp [hnone]
  next x hx =>
    simp only [hx]
    split at h
    next hclosed =>
      cases h
      rw [if_pos hclosed]
    next hopen =>
      split at h <;> cases h
      next hroom => rw [if_neg hopen, if_pos hroom]

/-- **The profile half runs as its supervisor does.** -/
theorem runLoop_tunnel_run {ls : List LoopLabel} {s : RunLoop} {log : List LoopEvent}
    (hrun : runLoop.run {} ls = some (s, log)) :
    ∃ ls', tunnelSupervisor.run {} ls' = some (s.profiles, log.filterMap LoopEvent.tunnel?) := by
  refine Machine.run_project (m := runLoop) (n := tunnelSupervisor) (f := RunLoop.profiles) ?_ hrun
  intro s l t es hstep
  cases RunLoop.step_cases hstep with
  | refused | wakeDone | send | serverSession => exact .inl ⟨rfl, rfl⟩
  | loopTop => exact .inl ⟨rfl, filterMap_tunnel?_server _⟩
  | @submit cmd _ hroom =>
    refine .inr ⟨.submit cmd.tunnel, ?_⟩
    simp [tunnelSupervisor, TunnelSupervisor.step, RunLoop.profiles, hroom]
  | @receive spawn cmd rest hqueue htunnels _ =>
    refine .inr ⟨.receive spawn, ?_⟩
    have htake := dispatch_queue s.tunnels (rest.map ControllerCall.tunnel) spawn cmd.tunnel
    simpa [tunnelSupervisor, TunnelSupervisor.step, RunLoop.profiles, hqueue, htunnels,
      RunLoop.take, -List.filterMap_map] using htake
  | deliver htunnels hdeliver | tell htunnels hdeliver =>
    refine .inr ⟨.deliver, ?_⟩
    have hqueue := deliver_queue hdeliver (s.queue.map ControllerCall.tunnel)
    rw [htunnels] at hqueue
    simp [tunnelSupervisor, TunnelSupervisor.step, RunLoop.profiles, htunnels, hqueue]
  | finish htunnels =>
    refine .inr ⟨.deliver, ?_⟩
    simp [tunnelSupervisor, TunnelSupervisor.step, RunLoop.profiles, htunnels]
  | @tunnelSession i tl _ _ hx hy =>
    refine .inr ⟨.session i tl, ?_⟩
    simp [tunnelSupervisor, TunnelSupervisor.step, RunLoop.profiles, hx, hy]

end Flextunnel.Model
