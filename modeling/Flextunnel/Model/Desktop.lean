import Flextunnel.Model.AppSteps
import Flextunnel.Model.ClientSessions
import Flextunnel.Model.Supervisor

/-!
# The desktop app as a whole

The UI's thread runs the updates, the supervisor's thread its loop, and every server session has
a thread of its own. An update hands its commands to the controller, which sends them one after
the other into a bounded channel and blocks the UI while the channel is full; the supervisor
receives them in order. The snapshot the UI reads is whatever the supervisor and the sessions
have published at that moment.
-/

set_option autoImplicit false

namespace Flextunnel.Model

open Lib

/-- The command a method of the controller sends.
SOURCE: desktop/tunnel.rs:182-243 -/
def ControllerCall.command : ControllerCall → Command
  | .startServer config => .startServer config
  | .restartServer config => .restartServer config
  | .stopServer => .stopServer
  | .removeServer => .removeServer
  | .connect _ _ | .disconnect _ | .setForwards _ _ | .removeProfile _ | .queryConnPath _ =>
    .profile
  | .shutdown => .shutdown

/-- The config a UI takes the session to run once this command is sent.
SOURCE: desktop/app.rs:1516-1533, 1830-1880, 1891-1893, 1985-1992 -/
def Command.appliedAfter (applied : Option ServerConfig) : Command → Option ServerConfig
  | .startServer config | .restartServer config => some config
  | .removeServer => none
  | _ => applied

def callsOf (es : List AppEffect) : List ControllerCall :=
  es.filterMap fun e =>
    match e with
    | .call c => some c
    | _ => none

def AppLabel.seeing (snapshot : ServerSnapshot) : AppLabel → AppLabel
  | .boot env => .boot { env with serverSnapshot := snapshot }
  | .update env msg => .update { env with serverSnapshot := snapshot } msg

def SupervisorPc.listening : SupervisorPc → Bool
  | .stopped | .panicked => false
  | _ => true

/-- The UI, the calls of its last update that are not sent yet, the command channel, and the
supervisor with its sessions. -/
structure Desktop where
  ui : AppState
  sending : List ControllerCall := []
  queue : List Command := []
  supervisor : Supervisor := {}

inductive DesktopLabel where
  | ui (l : AppLabel)
  | send
  /-- The supervisor receives the next command. -/
  | recv (spawn : Except String Unit)
  /-- Any other step of the supervisor, or one of a session. -/
  | supervisor (l : SupervisorLabel)

/-- The supervisor has moved; a loop that ends drops the commands that were left. -/
def Desktop.moved (d : Desktop) (s : Supervisor) (queue : List Command) : Desktop :=
  { d with supervisor := s, queue := if s.pc.listening then queue else [] }

/-- One step of one of the threads.
SOURCE: desktop/tunnel.rs:140-243, 329-363 -/
def Desktop.step (ctx : AppContext) (d : Desktop) :
    DesktopLabel → Option (Desktop × List SupervisorEvent)
  | .ui l =>
    match d.sending with
    | [] =>
      (d.ui.step ctx (l.seeing d.supervisor.snapshot)).map fun r =>
        ({ d with ui := r.1, sending := callsOf r.2 }, [])
    | _ :: _ => none
  | .send =>
    match d.sending with
    | [] => none
    | c :: rest =>
      -- a send without a receiver fails, and its error is dropped
      if !d.supervisor.pc.listening then some ({ d with sending := rest }, [])
      else if d.queue.length < controllerCapacity then
        some ({ d with sending := rest, queue := d.queue ++ [c.command] }, [])
      else none
  | .recv spawn =>
    match d.queue with
    | [] => none
    | cmd :: rest =>
      (d.supervisor.step (.recv cmd spawn)).map fun r => (d.moved r.1 rest, r.2)
  | .supervisor (.recv _ _) => none
  | .supervisor l => (d.supervisor.step l).map fun r => (d.moved r.1 d.queue, r.2)

def desktop (ctx : AppContext) : Machine Desktop DesktopLabel SupervisorEvent where
  init d := ∃ w : World, w.cache = none ∧ d = { ui := .launching w }
  step := Desktop.step ctx

/-! ## The calls of an update -/

theorem appliedAfter_command (applied : Option ServerConfig) (c : ControllerCall) :
    c.command.appliedAfter applied = c.appliedAfter applied := by
  cases c <;> rfl

theorem foldl_appliedAfter_command (applied : Option ServerConfig) (cs : List ControllerCall) :
    (cs.map ControllerCall.command).foldl Command.appliedAfter applied =
      cs.foldl ControllerCall.appliedAfter applied := by
  rw [List.foldl_map]
  simp only [appliedAfter_command]

@[simp] theorem callsOf_append (es fs : List AppEffect) :
    callsOf (es ++ fs) = callsOf es ++ callsOf fs :=
  List.filterMap_append

@[simp] theorem callsOf_map_call (cs : List ControllerCall) :
    callsOf (cs.map AppEffect.call) = cs := by
  simp [callsOf, List.filterMap_map]

theorem callsOf_eq_nil {es : List AppEffect} (h : ∀ e ∈ es, ∀ c, e ≠ .call c) :
    callsOf es = [] := by
  rw [callsOf, List.filterMap_eq_nil_iff]
  intro e he
  cases e with
  | call c => exact absurd rfl (h _ he c)
  | _ => rfl

/-- What the app takes the session to run is what its calls since `applied` say. -/
def Core.Tracks (applied : Option ServerConfig) (c : Core) : Prop :=
  c.applied = (callsOf c.effects).foldl ControllerCall.appliedAfter applied

namespace Core.Tracks

variable {applied : Option ServerConfig} {c : Core}

theorem note {notes : List AppEffect} (h : c.Tracks applied)
    (hnotes : ∀ e ∈ notes, ∃ id, e = .edited id ∨ e = .deleted id) :
    (c.note notes).Tracks applied := by
  have hnil : callsOf notes = [] := by
    refine callsOf_eq_nil fun e he c heq => ?_
    obtain ⟨id, rfl | rfl⟩ := hnotes e he <;> cases heq
  simpa [Tracks, Core.note, hnil] using h

theorem calls (h : c.Tracks applied) (cs : List ControllerCall) :
    (c.calls cs).Tracks applied := by
  simp only [Tracks, Core.calls, callsOf_append, callsOf_map_call, List.foldl_append] at h ⊢
  rw [h]

theorem persist (h : c.Tracks applied) (ctx : AppContext) (env : Surroundings) :
    (c.persist ctx env).Tracks applied := by
  unfold Core.persist
  split
  · exact h
  · have hnil : callsOf [c.savedAs (c.saveResult ctx env).1] = [] := rfl
    simpa [Tracks, hnil] using h

end Core.Tracks

namespace App

variable {ctx : AppContext} {env : Surroundings} {a b : App} {msg : Message}

/-- After an update the applied config is what its commands make of the one before. -/
theorem update_applied (h : a.update ctx env msg = .ok b) (heffects : a.effects = []) :
    b.serverApplied = (callsOf b.effects).foldl ControllerCall.appliedAfter a.serverApplied := by
  have ha : a.core.Tracks a.serverApplied := by
    simp only [Core.Tracks, core, heffects]
    rfl
  show b.core.Tracks a.serverApplied
  obtain hshape | ⟨-, hb⟩ | ⟨path, hb⟩ := a.update_shape ctx env h
  · cases hshape with
    | unsaved r notes cs f hr hf hb =>
      rw [hb]
      exact (Core.Tracks.note (c := a.core.store r) ha fun e he => hr.mem_notes he).calls cs
    | saved r notes cs ds f hr hf hb =>
      rw [hb]
      have hnote := Core.Tracks.note (c := a.core.store r) ha fun e he => hr.mem_notes he
      exact ((hnote.calls cs).persist ctx env).calls ds
  · rw [hb]
    exact Core.Tracks.persist (c := { a.core with storeReset := none }) ha ctx env
  · rw [hb]
    exact ha

/-- After the launch the applied config is what its commands make of none. -/
theorem boot_applied (ctx : AppContext) (env : Surroundings) (w : World) :
    (boot ctx env w).serverApplied =
      (callsOf (boot ctx env w).effects).foldl ControllerCall.appliedAfter none := by
  show (boot ctx env w).core.Tracks none
  obtain ⟨cs, hb | ⟨-, hb⟩⟩ := core_boot ctx env w
  · rw [hb]
    exact Core.Tracks.calls (c := loadedCore ctx env w) rfl cs
  · rw [hb]
    have hloaded : ({ loadedCore ctx env w with loginItemSetUp := true } : Core).Tracks none := rfl
    exact (hloaded.persist ctx env).calls cs

end App

end Flextunnel.Model
