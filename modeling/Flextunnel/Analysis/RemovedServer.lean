import Flextunnel.Analysis.OneServerSession

/-!
# The snapshot of a removed server

A removed server should leave no trace in what the UI polls. The supervisor resets the snapshot
itself only when the session's channel is closed; otherwise it sends `Remove`, and the session
resets the snapshot as its last write, if it reads the command. One that fails publishes its
error and returns without looking into its channel again, and a `Remove` in there is lost.
-/

set_option autoImplicit false

namespace Flextunnel.Analysis

open Lib Model

/-! ## Failures of a session -/

/-- The step in which the session fails: its runtime, its options, its lock, its preparation or
its bind, or `serve` returns an error.
SOURCE: desktop/server_session.rs:165, 187, 194, 198, 213, 238 -/
def fails (x : Session) : SessionLabel → Bool
  | .runtimeFailed _ | .optionsRead (.error _) | .lockAcquired (.error _) | .prepared (.error _)
  | .served (.error _) => true
  | .bindJoined _ =>
    match x.pc, x.bind with
    | .binding, some (.error _) => true
    | _, _ => false
  | _ => false

/-- The session has failed, by the point it has reached and what it has published. -/
def hasFailed (snapshot : ServerSnapshot) : SessionPc → Bool
  | .buildFailed | .buildFailedDone | .closing _ (.error _) _ | .finishing _ (.error _) => true
  | .returning | .droppingLock | .droppingRx => snapshot.phase = .failed
  | _ => false

/-- No session fails while a `Remove` waits in its channel, and no `Remove` is put into the channel
of a session that has failed.
SOURCE: desktop/tunnel.rs:405-421 -/
def removeIsRead (s : Supervisor) : SupervisorLabel → Bool
  | .session i l => s.sessions[i]?.all fun x => .remove ∉ x.queue || !fails x l
  | .send =>
    match s.pc, s.server with
    | .sending .remove, some handle =>
      s.sessions[handle.session]?.all fun x => !x.rxOpen || !hasFailed s.snapshot x.pc
    | _, _ => true
  | _ => true

/-! ## What a session publishes -/

/-- What the snapshot is at a point of the session: `Starting` has cleared it, and a stop that
goes well ends with the default one. -/
def Shape (snapshot : ServerSnapshot) : SessionPc → Prop
  | .readingOptions | .acquiringLock | .preparing | .binding => snapshot = { phase := .starting }
  | .running => snapshot.lastError = none
  | .bindInterrupted _ | .closing .. | .finishing .. => snapshot = { phase := .stopping }
  | .returning | .droppingLock | .droppingRx => snapshot = {} ∨ snapshot.phase = .failed
  | _ => True

/-- A session that is on its way to the default snapshot: a `Remove` waits where it will still be
read, or what the session does comes out well. -/
def Clearing (snapshot : ServerSnapshot) (x : Session) : Prop :=
  match x.pc with
  | .building | .entered | .readingOptions | .acquiringLock | .preparing | .binding | .running =>
    .remove ∈ x.queue
  | .bindInterrupted _ => True
  | .closing _ result _ | .finishing _ result => result = .ok ()
  | .returning | .droppingLock | .droppingRx | .tail | .ended => snapshot = {}
  | .buildFailed | .buildFailedDone => False

theorem stopping_of_lastError {snapshot : ServerSnapshot} (h : snapshot.lastError = none) :
    { snapshot with phase := .stopping, runningSince := none, connectedClients := [] } =
      ({ phase := .stopping } : ServerSnapshot) := by
  cases snapshot
  cases h
  rfl

section Session

variable {senders : Bool} {snapshot snapshot' : ServerSnapshot} {x y : Session} {l : SessionLabel}

theorem finish_cases (cmd : Option ServerCmd) (result : Except String Unit) :
    finish { phase := .stopping } cmd result = {} ∨
      (∃ e, result = .error e) ∧ (finish { phase := .stopping } cmd result).phase = .failed := by
  unfold finish
  split
  · exact .inl rfl
  · exact .inl rfl
  · exact .inr ⟨⟨_, rfl⟩, rfl⟩

/-- Every step of a session keeps the shape of what it publishes. -/
theorem shape_step (hx : Shape snapshot x.pc)
    (h : SessionStep senders snapshot x l y snapshot') : Shape snapshot' y.pc := by
  cases h with
  | bound | unbound => exact hx
  | polled hpc =>
    rw [hpc] at hx
    rwa [hpc]
  | runtimeBuilt | runtimeFailed | dropRx | dropUnbuilt | sendDone | sendUnbuilt => trivial
  | enter => rfl
  | optionsFailed | lockFailed | prepareFailed | bindFailed => exact .inr rfl
  | joined hpc | interrupted hpc =>
    rw [hpc] at hx
    obtain rfl : snapshot = { phase := .starting } := hx
    rfl
  | told hpc | served hpc =>
    rw [hpc] at hx
    exact stopping_of_lastError hx
  | @finish cmd result hpc =>
    rw [hpc] at hx
    obtain rfl : snapshot = { phase := .stopping } := hx
    exact (finish_cases cmd result).imp_right And.right
  | optionsRead hpc | lockAcquired hpc | prepared hpc | waitedBound hpc | waitedUnbound hpc
  | closeDone hpc | closeTimedOut hpc | dropRunning hpc | dropLock hpc =>
    rw [hpc] at hx
    exact hx

/-- A session on its way to the default snapshot stays so, if it does not fail over a `Remove`. -/
theorem clearing_step (hshape : Shape snapshot x.pc) (hx : Clearing snapshot x)
    (hread : .remove ∈ x.queue → fails x l = false)
    (h : SessionStep senders snapshot x l y snapshot') : Clearing snapshot' y := by
  unfold Clearing at hx
  cases h with
  | runtimeFailed hpc | optionsFailed hpc | lockFailed hpc | prepareFailed hpc =>
    rw [hpc] at hx
    exact absurd (hread hx) (by simp [fails])
  | bindFailed hpc hbind =>
    rw [hpc] at hx
    exact absurd (hread hx) (by simp [fails, hpc, hbind])
  | @served result hpc =>
    rw [hpc] at hx
    cases result with
    | ok => rfl
    | error e => exact absurd (hread hx) (by simp [fails])
  | bound hpc | unbound hpc =>
    rcases hpc with hpc | ⟨cmd, hpc⟩
    · rw [hpc] at hx
      simpa [Clearing, hpc] using hx
    · simp [Clearing, hpc]
  | polled hpc =>
    rw [hpc] at hx
    simpa [Clearing, hpc] using hx
  | interrupted => trivial
  | told | waitedBound | waitedUnbound => rfl
  | @finish cmd result hpc =>
    rw [hpc] at hx hshape
    obtain rfl : snapshot = { phase := .stopping } := hshape
    rcases finish_cases cmd result with hdefault | ⟨⟨e, rfl⟩, -⟩
    · exact hdefault
    · cases hx
  | runtimeBuilt hpc | enter hpc | optionsRead hpc | lockAcquired hpc | prepared hpc
  | joined hpc | closeDone hpc | closeTimedOut hpc | dropRunning hpc | dropLock hpc | dropRx hpc
  | sendDone hpc =>
    rw [hpc] at hx
    exact hx
  | dropUnbuilt hpc | sendUnbuilt hpc =>
    rw [hpc] at hx
    exact hx.elim

/-- Such a session has reset the snapshot when it drops its receiver. -/
theorem snapshot_of_clearing (hinv : SessionInv x) (hclosed : x.rxOpen = false)
    (hx : Clearing snapshot x) : snapshot = {} := by
  have hpc : ownsRx x.pc = false := hinv.rx ▸ hclosed
  unfold Clearing at hx
  cases h : x.pc with
  | tail | ended =>
    rw [h] at hx
    exact hx
  | _ => simp [h, ownsRx] at hpc

/-- A `Remove` sets a session that has not failed on its way. -/
theorem clearing_of_remove (hinv : SessionInv x) (hshape : Shape snapshot x.pc)
    (hopen : x.rxOpen = true) (hfailed : hasFailed snapshot x.pc = false) :
    Clearing snapshot { x with queue := x.queue ++ [.remove] } := by
  have hpc : ownsRx x.pc = true := hinv.rx ▸ hopen
  unfold Clearing
  cases hx : x.pc with
  | building | entered | readingOptions | acquiringLock | preparing | binding | running => simp
  | bindInterrupted => trivial
  | closing cmd result inner | finishing cmd result =>
    cases result with
    | ok => rfl
    | error e => simp [hx, hasFailed] at hfailed
  | returning | droppingLock | droppingRx =>
    rw [hx] at hshape hfailed
    exact hshape.resolve_right fun hphase => by simp [hasFailed, hphase] at hfailed
  | buildFailed | buildFailedDone => simp [hx, hasFailed] at hfailed
  | tail | ended => simp [hx, ownsRx] at hpc

end Session

/-! ## The supervisor -/

def RemoveReceived : SupervisorEvent → Prop
  | .received _ .removeServer _ => True
  | _ => False

variable {log : List SupervisorEvent}

theorem since_stop_of_remove (h : Since RemoveReceived StartReceived log) :
    Since StopReceived StartReceived log := by
  obtain ⟨pre, e, post, hlog, he, hpost⟩ := h
  refine ⟨pre, e, post, hlog, ?_, hpost⟩
  revert he
  unfold RemoveReceived StopReceived
  split
  · exact id
  · exact False.elim

/-- Only a `RemoveServer` starts the time in which the server is removed. -/
theorem since_of_recv {s : Supervisor} {cmd : Command} {spawn : Except String Unit}
    (hremove : cmd ≠ .removeServer)
    (h : Since RemoveReceived StartReceived (log ++ (s.recv cmd spawn).2)) :
    Since RemoveReceived StartReceived log ∧ ∀ c, cmd ≠ .startServer c := by
  have hreceived (n : Nat) (p : Option Nat) : ¬ RemoveReceived (.received n cmd p) := by
    cases cmd with
    | removeServer => exact absurd rfl hremove
    | _ => exact not_false
  have hnone : ∀ e ∈ (s.recv cmd spawn).2, ¬ RemoveReceived e := by
    intro e he
    rcases List.mem_cons.1 he with rfl | he
    · exact hreceived _ _
    rcases dispatch_events s.noteReceived s.received spawn cmd with hnil | ⟨c, -, -, hspawn⟩
    · simp [hnil] at he
    · obtain rfl : e = .spawned s.received c := by simpa [hspawn] using he
      exact not_false
  obtain ⟨hlog, hstart⟩ := h.of_append hnone
  refine ⟨hlog, ?_⟩
  rintro c rfl
  exact hstart _ List.mem_cons_self trivial

theorem since_of_loopTop {s : Supervisor} {spawn : Except String Unit}
    (h : Since RemoveReceived StartReceived (log ++ (s.loopTop spawn).2)) :
    Since RemoveReceived StartReceived log := by
  refine (h.of_append fun e he => ?_).1
  rcases loopTop_events s spawn with hnil | ⟨n, c, -, -, hspawn⟩
  · simp [hnil] at he
  · obtain rfl : e = .spawned n c := by simpa [hspawn] using he
    exact not_false

def Shapes (s : Supervisor) : Prop :=
  ∀ x ∈ s.sessions, x.rxOpen = true → Shape s.snapshot x.pc

/-- The session that is open is on its way to the default snapshot, and with no session open that
is the snapshot. -/
structure Cleared (s : Supervisor) : Prop where
  clearing : ∀ x ∈ s.sessions, x.rxOpen = true → Clearing s.snapshot x
  default : (∀ x ∈ s.sessions, x.rxOpen = false) → s.snapshot = {}

structure RemovedInv (log : List SupervisorEvent) (s : Supervisor) : Prop where
  handle : SupervisorInv s
  stop : StopInv log s
  shapes : Shapes s
  cleared : Since RemoveReceived StartReceived log → s.pc ≠ .sending .remove → Cleared s

section Supervisor

variable {s t : Supervisor} {log es : List SupervisorEvent}

theorem Shapes.congr (h : Shapes s) (hsessions : t.sessions = s.sessions)
    (hsnapshot : t.snapshot = s.snapshot) : Shapes t := by
  unfold Shapes
  rw [hsessions, hsnapshot]
  exact h

theorem Cleared.congr (h : Cleared s) (hsessions : t.sessions = s.sessions)
    (hsnapshot : t.snapshot = s.snapshot) : Cleared t :=
  ⟨by rw [hsessions, hsnapshot]; exact h.clearing, by rw [hsessions, hsnapshot]; exact h.default⟩

theorem shapes_of_closed (h : ∀ x ∈ s.sessions, x.rxOpen = false) : Shapes s := by
  intro x hx hopen
  simp [h x hx] at hopen

theorem cleared_of_closed (h : ∀ x ∈ s.sessions, x.rxOpen = false) (hsnapshot : s.snapshot = {}) :
    Cleared s := by
  refine ⟨fun x hx hopen => ?_, fun _ => hsnapshot⟩
  simp [h x hx] at hopen

theorem shapes_spawnServer (hs : SupervisorInv s) (hserver : s.server = none) (number : Nat)
    (config : ServerConfig) (spawn : Except String Unit) :
    Shapes (s.spawnServer number config spawn).1 := by
  have hclosed := all_closed_of_no_server hs hserver
  cases spawn with
  | error e => exact shapes_of_closed hclosed
  | ok u =>
    intro x hx hopen
    rcases List.mem_append.1 hx with hx | hx
    · simp [hclosed x hx] at hopen
    · obtain rfl : x = { config } := by simpa using hx
      trivial

theorem shapes_dispatch (hs : SupervisorInv s) (h : Shapes s) (number : Nat)
    (spawn : Except String Unit) (cmd : Command) : Shapes (s.dispatch number spawn cmd).1 := by
  refine Supervisor.dispatch_rule number spawn cmd ?_ ?_ ?_
  · exact fun t hsessions _ hsnapshot => h.congr hsessions hsnapshot
  · intro t c hnone hsessions hserver
    have ht : SupervisorInv t := supervisorInv_congr hs hsessions (by rw [hserver, hnone])
    exact shapes_spawnServer ht hserver _ c spawn
  · intro t hnone hsessions _
    exact shapes_of_closed (hsessions ▸ all_closed_of_no_server hs hnone)

theorem dispatch_keeps (number : Nat) (spawn : Except String Unit) {cmd : Command}
    (hstart : ∀ c, cmd ≠ .startServer c) (hremove : cmd ≠ .removeServer) :
    (s.dispatch number spawn cmd).1.sessions = s.sessions ∧
      (s.dispatch number spawn cmd).1.snapshot = s.snapshot := by
  cases cmd with
  | startServer c => exact absurd rfl (hstart c)
  | removeServer => exact absurd rfl hremove
  | profile => exact ⟨rfl, rfl⟩
  | restartServer config =>
    simp only [Supervisor.dispatch]
    split
    · split <;> exact ⟨rfl, rfl⟩
    · exact ⟨rfl, rfl⟩
  | stopServer | shutdown =>
    simp only [Supervisor.dispatch]
    split <;> exact ⟨rfl, rfl⟩

theorem cleared_dispatch_remove (hs : SupervisorInv s) (number : Nat)
    (spawn : Except String Unit) (hpc : (s.dispatch number spawn .removeServer).1.pc ≠
      .sending .remove) : Cleared (s.dispatch number spawn .removeServer).1 := by
  simp only [Supervisor.dispatch] at hpc ⊢
  split at hpc
  · exact absurd rfl hpc
  next hserver =>
    rw [hserver]
    exact cleared_of_closed (all_closed_of_no_server (s := s) hs hserver) rfl

theorem shapes_loopTop (hs : SupervisorInv s) (h : Shapes s) (spawn : Except String Unit) :
    Shapes (s.loopTop spawn).1 := by
  rcases Supervisor.loopTop_cases s spawn with ⟨heq, -⟩ | ⟨n, c, hserver, -, heq⟩ <;> rw [heq]
  · exact h.congr Supervisor.checkTop_sessions Supervisor.checkTop_snapshot
  · exact shapes_spawnServer (s := { s.checkTop with pc := .waiting, pendingStart := none })
      (supervisorInv_congr (supervisorInv_checkTop hs) rfl rfl) hserver n c spawn

variable {snapshot : ServerSnapshot} {x y : Session} {i : Nat}

theorem clearing_enqueue (cmd : ServerCmd) (hx : Clearing snapshot x) :
    Clearing snapshot { x with queue := x.queue ++ [cmd] } := by
  unfold Clearing at hx ⊢
  cases hpc : x.pc with
  | building | entered | readingOptions | acquiringLock | preparing | binding | running =>
    rw [hpc] at hx
    exact List.mem_append_left _ hx
  | _ =>
    rw [hpc] at hx
    exact hx

theorem forall_mem_set {P : Session → Prop} {xs : List Session} (hy : P y)
    (hxs : ∀ (j : Nat) (x : Session), j ≠ i → xs[j]? = some x → P x) : ∀ x ∈ xs.set i y, P x := by
  intro x hx
  obtain ⟨j, hj⟩ := List.mem_iff_getElem?.1 hx
  rcases getElem?_set_cases hj with ⟨-, rfl⟩ | ⟨hne, hj⟩
  · exact hy
  · exact hxs j x hne hj

/-- What holds of every session that is open is kept by a step that keeps it for its own. -/
theorem open_session {P : ServerSnapshot → Session → Prop} (hs : SupervisorInv s)
    (h : ∀ z ∈ s.sessions, z.rxOpen = true → P s.snapshot z) {l : SessionLabel}
    (hi : s.sessions[i]? = some x) (hstep : SessionStep s.pc.senders s.snapshot x l y snapshot)
    (hrx : y.rxOpen = true → x.rxOpen = true) (hy : x.rxOpen = true → P snapshot y) :
    ∀ z ∈ s.sessions.set i y, z.rxOpen = true → P snapshot z := by
  refine forall_mem_set (fun hopen => hy (hrx hopen)) fun j z hne hj hz => ?_
  by_cases hopen : x.rxOpen = true
  · simp [closed_of_ne hs hi hopen hne hj] at hz
  · obtain rfl : snapshot = s.snapshot := snapshot_of_closed
      (hs.sessions x (List.mem_of_getElem? hi)) (by simpa using hopen) hstep
    exact h z (List.mem_of_getElem? hj) hz

theorem cleared_session (hs : SupervisorInv s) (hshapes : Shapes s) (h : Cleared s)
    {l : SessionLabel} (hi : s.sessions[i]? = some x)
    (hread : .remove ∈ x.queue → fails x l = false)
    (hstep : SessionStep s.pc.senders s.snapshot x l y snapshot) (hy : SessionInv y)
    (hrx : y.rxOpen = true → x.rxOpen = true) :
    Cleared { s with sessions := s.sessions.set i y, snapshot := snapshot } := by
  have hmem := List.mem_of_getElem? hi
  have hclear (hopen : x.rxOpen = true) : Clearing snapshot y :=
    clearing_step (hshapes x hmem hopen) (h.clearing x hmem hopen) hread hstep
  refine ⟨open_session hs h.clearing hi hstep hrx hclear, fun hall => ?_⟩
  by_cases hopen : x.rxOpen = true
  · -- the session that was open has just dropped its receiver
    have hlt : i < s.sessions.length := (List.getElem?_eq_some_iff.1 hi).1
    exact snapshot_of_clearing hy (hall y (List.mem_set hlt y)) (hclear hopen)
  have hclosed : x.rxOpen = false := by simpa using hopen
  obtain rfl : snapshot = s.snapshot := snapshot_of_closed (hs.sessions x hmem) hclosed hstep
  refine h.default fun z hz => ?_
  obtain ⟨j, hj⟩ := List.mem_iff_getElem?.1 hz
  by_cases hji : j = i
  · subst hji
    cases hi.symm.trans hj
    exact hclosed
  · refine hall z (List.mem_iff_getElem?.2 ⟨j, ?_⟩)
    rw [List.getElem?_set_ne (Ne.symm hji)]
    exact hj

theorem shapes_send (hs : SupervisorInv s) (h : Shapes s) {what : Sending}
    (hsend : s.send what = some t) : Shapes t := by
  obtain ⟨u, delivered, hcmd, rfl⟩ := Supervisor.send_cases hsend
  obtain ⟨handle, hserver, ⟨hclosed, rfl, rfl⟩ | ⟨x, hx, hopen, rfl, rfl⟩⟩ :=
    Supervisor.sendCmd_outcome hcmd
  · have hall := all_closed_of_closed hs hserver hclosed
    cases what <;> exact shapes_of_closed hall
  have hshapes : ∀ z ∈ s.sessions.set handle.session { x with queue := x.queue ++ [what.cmd] },
      z.rxOpen = true → Shape s.snapshot z.pc :=
    forall_mem_set (fun _ => h x (List.mem_of_getElem? hx) hopen)
      fun j z _ hj hz => h z (List.mem_of_getElem? hj) hz
  cases what <;> exact hshapes

theorem cleared_of_open (hi : s.sessions[i]? = some x) (hsessions : t.sessions = s.sessions.set i y)
    (hopen : y.rxOpen = true)
    (hclear : ∀ z ∈ s.sessions.set i y, z.rxOpen = true → Clearing t.snapshot z) : Cleared t := by
  refine ⟨hsessions ▸ hclear, fun hall => ?_⟩
  have hlt : i < s.sessions.length := (List.getElem?_eq_some_iff.1 hi).1
  have hclosed := hall y (hsessions ▸ List.mem_set hlt y)
  simp [hopen] at hclosed

theorem cleared_send_other (h : Cleared s) {what : Sending} (hwhat : what ≠ .remove)
    (hsend : s.send what = some t) : Cleared t := by
  obtain ⟨u, delivered, hcmd, rfl⟩ := Supervisor.send_cases hsend
  have hu : Cleared u := by
    obtain ⟨handle, -, ⟨-, rfl, -⟩ | ⟨x, hx, hopen, -, rfl⟩⟩ := Supervisor.sendCmd_outcome hcmd
    · exact h
    · refine cleared_of_open hx rfl hopen (forall_mem_set ?_ ?_)
      · exact fun _ => clearing_enqueue _ (h.clearing x (List.mem_of_getElem? hx) hopen)
      · exact fun j z _ hj hz => h.clearing z (List.mem_of_getElem? hj) hz
  cases what with
  | remove => exact absurd rfl hwhat
  | restart | stop | shutdown => exact hu.congr rfl rfl

/-- A `Remove` that is sent is read, or the supervisor resets the snapshot. -/
theorem cleared_send_remove (hs : SupervisorInv s) (hshapes : Shapes s)
    (hpc : s.pc = .sending .remove) (hread : removeIsRead s .send = true)
    (hsend : s.send .remove = some t) : Cleared t := by
  obtain ⟨u, delivered, hcmd, rfl⟩ := Supervisor.send_cases hsend
  obtain ⟨handle, hserver, ⟨hclosed, rfl, rfl⟩ | ⟨x, hx, hopen, rfl, rfl⟩⟩ :=
    Supervisor.sendCmd_outcome hcmd
  · have hall := all_closed_of_closed hs hserver hclosed
    exact cleared_of_closed hall rfl
  have hmem := List.mem_of_getElem? hx
  have hfailed : hasFailed s.snapshot x.pc = false := by
    simpa [removeIsRead, hpc, hserver, hx, hopen] using hread
  have hclear := clearing_of_remove (hs.sessions x hmem) (hshapes x hmem hopen) hopen hfailed
  refine cleared_of_open hx rfl hopen (forall_mem_set (fun _ => hclear) ?_)
  intro j z hne hj hz
  simp [closed_of_ne hs hx hopen hne hj] at hz

theorem cleared_recv (hs : SupervisorInv s) {cmd : Command} {spawn : Except String Unit}
    (h : Since RemoveReceived StartReceived log → Cleared s)
    (hsince : Since RemoveReceived StartReceived (log ++ (s.recv cmd spawn).2))
    (hpc : (s.recv cmd spawn).1.pc ≠ .sending .remove) : Cleared (s.recv cmd spawn).1 := by
  by_cases hremove : cmd = .removeServer
  · subst hremove
    exact cleared_dispatch_remove (supervisorInv_noteReceived hs) _ _ hpc
  obtain ⟨hlog, hstart⟩ := since_of_recv hremove hsince
  obtain ⟨hsessions, hsnapshot⟩ :=
    dispatch_keeps (s := s.noteReceived) s.received spawn hstart hremove
  exact (h hlog).congr (hsessions.trans Supervisor.checkReceived_sessions)
    (hsnapshot.trans Supervisor.checkReceived_snapshot)

/-- Every step keeps the snapshot of a removed server on its way to the default. -/
theorem removedInv_step {l : SupervisorLabel} (hinv : RemovedInv log s)
    (hread : removeIsRead s l = true) (h : s.step l = some (t, es)) :
    RemovedInv (log ++ es) t := by
  have hhandle := supervisorInv_step hinv.handle h
  have hstop := stopInv_step hinv.stop h
  have hquiet (hsince : Since RemoveReceived StartReceived log) : Quiet s :=
    hinv.stop.quiet (since_stop_of_remove hsince)
  cases Supervisor.step_cases h with
  | loopTop hpc =>
    refine ⟨hhandle, hstop, shapes_loopTop hinv.handle hinv.shapes _, fun hsince _ => ?_⟩
    have hlog := since_of_loopTop hsince
    rw [Supervisor.loopTop_of_no_pending (hquiet hlog).pending]
    exact (hinv.cleared hlog (by simp [hpc])).congr Supervisor.checkTop_sessions
      Supervisor.checkTop_snapshot
  | recv hpc =>
    have hnote := supervisorInv_noteReceived hinv.handle
    refine ⟨hhandle, hstop, shapes_dispatch hnote ?_ _ _ _, cleared_recv hinv.handle ?_⟩
    · exact hinv.shapes.congr Supervisor.checkReceived_sessions Supervisor.checkReceived_snapshot
    · exact fun hsince => hinv.cleared hsince (by simp [hpc])
  | wakeDone _ hwake =>
    rw [List.append_nil] at hstop ⊢
    refine ⟨hhandle, hstop, ?_, fun hsince _ => ?_⟩
    · obtain ⟨handle, -, ⟨-, rfl⟩ | rfl⟩ := Supervisor.wakeDone_cases hwake <;>
        exact hinv.shapes.congr rfl rfl
    · simp [Supervisor.wakeDone, (hquiet hsince).pending] at hwake
  | @send what _ hpc hsend =>
    rw [List.append_nil] at hstop ⊢
    refine ⟨hhandle, hstop, shapes_send hinv.handle hinv.shapes hsend, fun hsince _ => ?_⟩
    by_cases hwhat : what = .remove
    · subst hwhat
      exact cleared_send_remove hinv.handle hinv.shapes hpc hread hsend
    · exact cleared_send_other (hinv.cleared hsince (by simpa [hpc] using hwhat)) hwhat hsend
  | @session i sl x y _ hx hy =>
    rw [List.append_nil] at hstop ⊢
    have hstep := sessionStep_of_step hy
    have hsession : SessionInv y := sessionInv_step (hinv.handle.sessions x
      (List.mem_of_getElem? hx)) hy
    have hrx := rxOpen_of_step hy
    refine ⟨hhandle, hstop, open_session (P := fun snapshot x => Shape snapshot x.pc) hinv.handle
      hinv.shapes hx hstep hrx fun hopen =>
        shape_step (hinv.shapes x (List.mem_of_getElem? hx) hopen) hstep, fun hsince hsent => ?_⟩
    have hfails : .remove ∈ x.queue → fails x sl = false := by
      simpa [removeIsRead, hx, Decidable.imp_iff_not_or] using hread
    exact cleared_session hinv.handle hinv.shapes (hinv.cleared hsince hsent) hx hfails hstep
      hsession hrx

end Supervisor

/-- **A removed server leaves no trace**, in every run in which no session fails over a `Remove`
that waits and none is sent to one that has failed (`removeIsRead`): once a `RemoveServer` was
received and its send is through, and until the next `StartServer`, the snapshot is the default one
as soon as no session holds its receiver. -/
theorem removed_server_snapshot {ls : List SupervisorLabel} {s : Supervisor}
    {log : List SupervisorEvent}
    (hread : supervisor.Guarded (fun s l => removeIsRead s l = true) {} ls)
    (hrun : supervisor.run {} ls = some (s, log))
    (hremoved : Since RemoveReceived StartReceived log) (hsent : s.pc ≠ .sending .remove)
    (hended : ∀ x ∈ s.sessions, x.rxOpen = false) : s.snapshot = {} := by
  have hinv : RemovedInv log s :=
    supervisor.guarded_log_rule (P := RemovedInv)
      (fun _ _ _ _ _ hread hinv h => removedInv_step hinv hread h)
      ⟨⟨by simp, by simp⟩, ⟨fun h => absurd h (not_since_nil _ _), unless_nil _ _ _⟩,
        shapes_of_closed (by simp), fun h => absurd h (not_since_nil _ _)⟩ hread hrun
  exact (hinv.cleared hremoved hsent).default hended

def removedWhileRunning : List SupervisorLabel :=
  startUp (savedServer []) ++ [.recv .removeServer (.ok ()), .send, .loopTop (.ok ())] ++ windDown

def removedLog : List SupervisorEvent :=
  [.received 0 (.startServer (savedServer [])) none, .spawned 0 (savedServer []),
    .received 1 .removeServer none]

theorem since_removedLog : Since RemoveReceived StartReceived removedLog :=
  ⟨[.received 0 (.startServer (savedServer [])) none, .spawned 0 (savedServer [])],
    .received 1 .removeServer none, [], rfl, trivial, by simp⟩

/-- The removal of a running server. -/
theorem removed_server_snapshot_running :
    ∃ s, supervisor.run {} removedWhileRunning = some (s, removedLog) ∧
      supervisor.Guarded (fun s l => removeIsRead s l = true) {} removedWhileRunning ∧
      (∀ x ∈ s.sessions, x.rxOpen = false) ∧ s.snapshot = {} := by
  have hread : supervisor.Guarded (fun s l => removeIsRead s l = true) {} removedWhileRunning := by
    decide
  refine ⟨_, rfl, hread, by decide, ?_⟩
  have hsent : SupervisorPc.waiting ≠ .sending .remove := by simp
  exact removed_server_snapshot hread rfl since_removedLog hsent (by decide)

def removedWhileBinding : List SupervisorLabel :=
  [.loopTop (.ok ()), .recv (.startServer (savedServer [])) (.ok ()), .session 0 .runtimeBuilt,
    .session 0 .enter, .session 0 (.optionsRead (.ok ())), .session 0 (.lockAcquired (.ok ())),
    .session 0 (.prepared (.ok ())), .loopTop (.ok ()), .recv .removeServer (.ok ()), .send,
    .session 0 (.bindFinished (.error "no relay")), .session 0 (.bindJoined 0),
    .session 0 .dropRunning, .session 0 .dropLock, .session 0 .dropRx, .session 0 .sendDone,
    .loopTop (.ok ())]

/-- **The error of a removed server survives it.** The session leaves its select with the failed
bind and never reads the `Remove` that waits; the supervisor, whose send went through, does not
reset the snapshot either. -/
theorem removed_server_error_survives :
    ∃ s, supervisor.run {} removedWhileBinding = some (s, removedLog) ∧
      Since RemoveReceived StartReceived removedLog ∧ s.pc ≠ .sending .remove ∧
      (∀ x ∈ s.sessions, x.rxOpen = false ∧ x.pc = .ended) ∧
      s.snapshot = .fail "no relay" := by
  have hsent : SupervisorPc.waiting ≠ .sending .remove := by simp
  refine ⟨_, rfl, since_removedLog, hsent, ?_, rfl⟩
  intro x hx
  obtain rfl := List.mem_singleton.1 hx
  exact ⟨rfl, rfl⟩

end Flextunnel.Analysis
