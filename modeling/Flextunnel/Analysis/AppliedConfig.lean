import Flextunnel.Analysis.LoadFilters
import Flextunnel.Analysis.OneServerSession
import Flextunnel.Model.Desktop

/-!
# The config the app takes the server to run

The app notes the config of every start and restart it sends, and tells from it whether the
running server needs a restart. The supervisor does not act on every command, and the app never
learns which: a start that finds a session is dropped, and a restart that finds none leaves the
config that waits in place. So the app can take a server to run settings it was never started with.
-/

set_option autoImplicit false

namespace Flextunnel.Analysis

open Lib Model

/-! ## Sessions -/

def goingDown (x : Session) : Bool :=
  match x.pc with
  | .building | .entered | .readingOptions | .acquiringLock | .preparing | .binding | .running =>
    !x.queue.isEmpty
  | _ => true

section

variable {senders : Bool} {snapshot snapshot' : ServerSnapshot} {x y : Session} {l : SessionLabel}

/-- A step of a session keeps its config, keeps it going down once it does, and lets it run only
with that published. -/
theorem session_step (h : x.step senders snapshot l = some (y, snapshot')) :
    y.config = x.config ∧ (goingDown x = true → goingDown y = true) ∧
      ((x.pc = .running → snapshot.phase = .running) → y.pc = .running →
        snapshot'.phase = .running) := by
  cases sessionStep_of_step h <;> simp_all [goingDown]

/-- A session without its receiver goes down. -/
theorem goingDown_of_closed (hinv : SessionInv x) (hrx : x.rxOpen = false) :
    goingDown x = true := by
  have hpc : ownsRx x.pc = false := hinv.rx ▸ hrx
  unfold goingDown
  split <;> simp_all [ownsRx]

end

/-! ## The supervisor -/

/-- The supervisor acts on a command, or nothing that will run is affected. A start finds no
session and no config that waits, or a session that ends, or one with the same config; a restart
finds a session, or no config that waits. -/
def heeds (s : Supervisor) : Command → Bool
  | .startServer config =>
    match s.server with
    | some handle =>
      s.stopping || (s.sessions[handle.session]?).all fun x => goingDown x || x.config == config
    | none => s.pendingStart.isNone
  | .restartServer _ => s.server.isSome || s.pendingStart.isNone
  | _ => true

structure Claims (claimed : Option ServerConfig) (s : Supervisor) : Prop where
  /-- Between two commands, a session that does not go down is the claimed one, and the loop
  knows nothing else of it. -/
  up : ∀ handle x, s.server = some handle → s.sessions[handle.session]? = some x →
    goingDown x = false → (∀ what, s.pc ≠ .sending what) →
      s.stopping = false ∧ s.pc.listening = true ∧ claimed = some x.config
  pending : ∀ n config, s.pendingStart = some (n, config) →
    claimed = some config ∧ (s.server = none ∨ s.stopping = true)
  restarting : ∀ n config, s.pc = .sending (.restart n config) → claimed = some config
  idle : s.server = none → s.stopping = false

variable {s t : Supervisor} {claimed : Option ServerConfig}

theorem Claims.released (h : Claims claimed s) :
    Claims claimed { s with server := none, stopping := false } where
  up _ _ hserver := by cases hserver
  pending n config hp := ⟨(h.pending n config hp).1, .inl rfl⟩
  restarting := h.restarting
  idle _ := rfl

theorem Claims.withPc (h : Claims claimed s) (hpc : ∀ what, s.pc ≠ .sending what)
    {pc : SupervisorPc} (hlisten : pc.listening = true) (hpc' : ∀ what, pc ≠ .sending what) :
    Claims claimed { s with pc } where
  up handle x hserver hx hup _ := by
    obtain ⟨hstopping, -, hclaimed⟩ := h.up handle x hserver hx hup hpc
    exact ⟨hstopping, hlisten, hclaimed⟩
  pending := h.pending
  restarting _ _ heq := absurd heq (hpc' _)
  idle := h.idle

variable {handle : ServerHandle} {config : ServerConfig} {number : Nat} {spawn : Except String Unit}
    {l : SupervisorLabel}

theorem Claims.goingDown (h : Claims claimed s) (hpc : ∀ what, s.pc ≠ .sending what)
    (hstopping : s.stopping = true) {x : Session} (hserver : s.server = some handle)
    (hx : s.sessions[handle.session]? = some x) : Analysis.goingDown x = true := by
  by_contra hup
  have := (h.up handle x hserver hx (by simpa using hup) hpc).1
  rw [hstopping] at this
  cases this

/-- A session that is started runs what the app claims. -/
theorem claims_spawnServer (hstopping : s.stopping = false) (hpending : s.pendingStart = none)
    (hlisten : s.pc.listening = true) (hpc : ∀ what, s.pc ≠ .sending what) :
    Claims (some config) (s.spawnServer number config spawn).1 := by
  have hnone : ∀ n c, s.pendingStart ≠ some (n, c) := by simp [hpending]
  cases spawn with
  | error e =>
    refine ⟨?_, fun n c hp => absurd hp (hnone n c), fun _ _ heq => absurd heq (hpc _),
      fun _ => hstopping⟩
    intro handle x hhandle
    cases hhandle
  | ok u =>
    refine ⟨?_, fun n c hp => absurd hp (hnone n c), fun _ _ heq => absurd heq (hpc _), ?_⟩
    · intro handle x hhandle hx _ _
      cases hhandle
      obtain rfl : { config } = x := by
        simpa [Supervisor.spawnServer] using hx
      exact ⟨hstopping, hlisten, rfl⟩
    · intro hserver
      cases hserver

theorem Claims.pendingStart_eq_none (h : Claims claimed s) (hserver : s.server = some handle)
    (hstopping : s.stopping = false) : s.pendingStart = none := by
  rw [Option.eq_none_iff_forall_ne_some]
  rintro ⟨n, config⟩ hp
  rcases (h.pending n config hp).2 with hnone | hstop
  · rw [hserver] at hnone
    cases hnone
  · rw [hstopping] at hstop
    cases hstop

/-- Where nothing is up and nothing waits, every claim holds. -/
theorem claims_of_quiet (hpending : s.pendingStart = none)
    (hup : ∀ handle x, s.server = some handle → s.sessions[handle.session]? = some x →
      goingDown x = true ∨ ∃ what, s.pc = .sending what)
    (hrestart : ∀ n config, s.pc ≠ .sending (.restart n config))
    (hidle : s.server = none → s.stopping = false) : Claims claimed s where
  up handle x hserver hx hdown hpc := by
    rcases hup handle x hserver hx with hdown' | ⟨what, hwhat⟩
    · rw [hdown] at hdown'
      cases hdown'
    · exact absurd hwhat (hpc what)
  pending n config hp := by
    rw [hpending] at hp
    cases hp
  restarting n config heq := absurd heq (hrestart n config)
  idle := hidle

theorem Claims.replaced (h : Claims claimed s) (hpc : ∀ what, s.pc ≠ .sending what)
    (hstopping : s.stopping = true) {pending : Option (Nat × ServerConfig)}
    (hpending : ∀ n c, pending = some (n, c) → c = config) :
    Claims (some config) { s with pendingStart := pending, pc := .top } where
  up handle x hserver hx hup _ := by
    rw [h.goingDown hpc hstopping hserver hx] at hup
    cases hup
  pending n c hp := ⟨by rw [hpending n c hp], .inr hstopping⟩
  restarting n c heq := by cases heq
  idle := h.idle

theorem claims_dispatch_start (h : Claims claimed s) (hpc : s.pc = .waiting)
    (hheeds : heeds s (.startServer config) = true) :
    Claims (some config) (s.dispatch number spawn (.startServer config)).1 := by
  have hnot : ∀ what, s.pc ≠ .sending what := by simp [hpc]
  simp only [Supervisor.dispatch]
  split
  next handle hserver =>
    split
    next hstopping =>
      exact h.replaced hnot hstopping fun n c hp => (Prod.mk.inj (Option.some.inj hp)).2.symm
    next hstopping =>
      -- the start is dropped
      rw [Bool.not_eq_true] at hstopping
      have hpending := h.pendingStart_eq_none hserver hstopping
      refine ⟨?_, fun n c hp => absurd (hpending.symm.trans hp) (by simp), by simp, h.idle⟩
      intro handle' x hserver' hx hup _
      cases hserver.symm.trans hserver'
      have hx' : s.sessions[handle.session]? = some x := hx
      have hsame : x.config = config := by
        simpa [heeds, hserver, hstopping, hx', hup] using hheeds
      exact ⟨hstopping, rfl, by rw [hsame]⟩
  next hserver =>
    have hpending : s.pendingStart = none := by simpa [heeds, hserver] using hheeds
    exact claims_spawnServer (h.idle hserver) hpending rfl (by simp)

theorem claims_dispatch_restart (h : Claims claimed s) (hpc : s.pc = .waiting)
    (hheeds : heeds s (.restartServer config) = true) :
    Claims (some config) (s.dispatch number spawn (.restartServer config)).1 := by
  have hnot : ∀ what, s.pc ≠ .sending what := by simp [hpc]
  simp only [Supervisor.dispatch]
  split
  next handle hserver =>
    split
    next hstopping =>
      refine h.replaced hnot hstopping fun n c hp => ?_
      split at hp
      · exact (Prod.mk.inj (Option.some.inj hp)).2.symm
      · cases hp
    next hstopping =>
      rw [Bool.not_eq_true] at hstopping
      have hpending := h.pendingStart_eq_none hserver hstopping
      refine ⟨fun _ _ _ _ _ hpc' => absurd rfl (hpc' _),
        fun n c hp => absurd (hpending.symm.trans hp) (by simp), ?_, h.idle⟩
      rintro n c heq
      cases heq
      rfl
  next hserver =>
    have hpending : s.pendingStart = none := by simpa [heeds, hserver] using hheeds
    exact claims_of_quiet hpending
      (fun _ _ hserver' => absurd (hserver.symm.trans hserver') (by simp)) (by simp) h.idle

/-- A command that is heeded leaves the supervisor with what the app claims after it. -/
theorem claims_dispatch {cmd : Command} (h : Claims claimed s) (hpc : s.pc = .waiting)
    (hheeds : heeds s cmd = true) :
    Claims (cmd.appliedAfter claimed) (s.dispatch number spawn cmd).1 := by
  have hnot : ∀ what, s.pc ≠ .sending what := by simp [hpc]
  cases cmd with
  | startServer config => exact claims_dispatch_start h hpc hheeds
  | restartServer config => exact claims_dispatch_restart h hpc hheeds
  | stopServer =>
    simp only [Supervisor.dispatch]
    split
    · exact claims_of_quiet rfl (fun _ _ _ _ => .inr ⟨_, rfl⟩) (by simp) h.idle
    next hserver =>
      exact claims_of_quiet rfl
        (fun _ _ hserver' => absurd (hserver.symm.trans hserver') (by simp)) (by simp) h.idle
  | removeServer =>
    simp only [Supervisor.dispatch]
    split
    next handle hserver =>
      exact claims_of_quiet rfl (fun _ _ _ _ => .inr ⟨_, rfl⟩) (by simp)
        fun hnone => absurd (hnone.symm.trans hserver) (by simp)
    next hserver =>
      exact claims_of_quiet rfl
        (fun _ _ hserver' => absurd (hserver.symm.trans hserver') (by simp)) (by simp) fun _ => rfl
  | profile => exact h.withPc hnot rfl (by simp)
  | shutdown =>
    simp only [Supervisor.dispatch]
    split
    · exact ⟨fun _ _ _ _ _ hpc' => absurd rfl (hpc' _), h.pending, by simp, h.idle⟩
    next hserver =>
      exact ⟨fun _ _ hserver' => absurd (hserver.symm.trans hserver') (by simp), h.pending,
        by simp, h.idle⟩

theorem claims_loopTop (h : Claims claimed s) (hpc : s.pc = .top) :
    Claims claimed (s.loopTop spawn).1 := by
  have hcheck : Claims claimed s.checkTop ∧ s.checkTop.pc = .top := by
    rcases Supervisor.checkTop_cases s with ⟨_, _, _, hsame⟩ | ⟨-, hgone⟩
    · rw [hsame]
      exact ⟨h, hpc⟩
    · rw [hgone]
      exact ⟨h.released, hpc⟩
  obtain ⟨hcheck, hpc⟩ := hcheck
  have hwait : Claims claimed { s.checkTop with pc := .waiting } :=
    hcheck.withPc (by simp [hpc]) rfl (by simp)
  rcases Supervisor.loopTop_cases s spawn with ⟨heq, -⟩ | ⟨n, c, hserver, hpending, heq⟩ <;>
    rw [heq]
  · exact hwait
  · obtain rfl := (h.pending n c hpending).1
    exact claims_spawnServer (hwait.idle hserver) rfl rfl (by simp)

/-- A session that was sent a command goes down. -/
theorem goingDown_of_sent (hs : SupervisorInv s) {cmd : ServerCmd} {delivered : Bool}
    (h : s.sendCmd cmd = some (t, delivered)) {x : Session} (hserver : t.server = some handle)
    (hx : t.sessions[handle.session]? = some x) : goingDown x = true := by
  obtain ⟨handle', hserver', ⟨hclosed, rfl, -⟩ | ⟨y, hy, -, -, rfl⟩⟩ := Supervisor.sendCmd_outcome h
  · cases hserver'.symm.trans hserver
    have hmem := List.mem_of_getElem? hx
    exact goingDown_of_closed (hs.sessions x hmem) (all_closed_of_closed hs hserver hclosed x hmem)
  cases hserver'.symm.trans hserver
  rw [getElem?_set_moved hy] at hx
  cases hx
  unfold goingDown
  split <;> simp

theorem claims_send {what : Sending} (hs : SupervisorInv s) (h : Claims claimed s)
    (hpc : s.pc = .sending what) (hsend : s.send what = some t) : Claims claimed t := by
  obtain ⟨u, delivered, hu, rfl⟩ := Supervisor.send_cases hsend
  have hdown : ∀ handle x, u.server = some handle → u.sessions[handle.session]? = some x →
      goingDown x = true := fun _ _ hserver hx => goingDown_of_sent hs hu hserver hx
  obtain ⟨hserver, hpending, hstopping⟩ : u.server = s.server ∧
      u.pendingStart = s.pendingStart ∧ u.stopping = s.stopping := by
    rcases Supervisor.sendCmd_cases hu with rfl | ⟨_, _, _, _, rfl⟩ <;> exact ⟨rfl, rfl, rfl⟩
  have hsome : u.server ≠ none := by
    intro hnone
    rw [hserver] at hnone
    simp [Supervisor.sendCmd, hnone] at hu
  -- whatever the arm does next, the session it has sent to goes down
  have hafter {t : Supervisor} (hts : t.server = u.server) (htx : t.sessions = u.sessions)
      (hpc' : ∀ what, t.pc ≠ .sending what)
      (hwaits : ∀ n config, t.pendingStart = some (n, config) →
        claimed = some config ∧ (t.server = none ∨ t.stopping = true)) : Claims claimed t := by
    refine ⟨?_, hwaits, fun n c heq => absurd heq (hpc' _), fun hnone => absurd hnone (hts ▸ hsome)⟩
    intro handle x hx hy hnot _
    rw [hdown handle x (hts ▸ hx) (htx ▸ hy)] at hnot
    cases hnot
  cases what <;> refine hafter rfl rfl (by simp [Supervisor.afterSend]) fun m c hp => ?_
  case restart n config =>
    cases hp
    exact ⟨h.restarting _ _ hpc, .inr rfl⟩
  case stop => exact ⟨(h.pending m c (hpending.symm.trans hp)).1, .inr rfl⟩
  all_goals
    have hp := h.pending m c (hpending.symm.trans hp)
    exact ⟨hp.1, hp.2.imp hserver.trans hstopping.trans⟩

theorem claims_session {i : Nat} {x y : Session} {sl : SessionLabel} {snapshot : ServerSnapshot}
    (h : Claims claimed s) (hx : s.sessions[i]? = some x)
    (hy : x.step s.pc.senders s.snapshot sl = some (y, snapshot)) :
    Claims claimed { s with sessions := s.sessions.set i y, snapshot := snapshot } where
  up handle z hserver hz hup hpc := by
    rcases getElem?_set_cases hz with ⟨rfl, rfl⟩ | ⟨-, hz⟩
    · have hdown : goingDown x = false := by
        by_contra hdown
        rw [(session_step hy).2.1 (by simpa using hdown)] at hup
        cases hup
      rw [(session_step hy).1]
      exact h.up handle x hserver hx hdown hpc
    · exact h.up handle z hserver hz hup hpc
  pending := h.pending
  restarting := h.restarting
  idle := h.idle

theorem claims_wakeDone (h : Claims claimed s) (hpc : s.pc = .waiting)
    (hwake : s.wakeDone = some t) : Claims claimed t := by
  have hnot : ∀ what, s.pc ≠ .sending what := by simp [hpc]
  obtain ⟨handle, hserver, hcase⟩ := Supervisor.wakeDone_cases hwake
  have hstopping : s.stopping = true := by
    by_contra hstopping
    have hpending := h.pendingStart_eq_none hserver (by simpa using hstopping)
    simp [Supervisor.wakeDone, hserver, hpending] at hwake
  rcases hcase with ⟨-, rfl⟩ | rfl
  · refine ⟨?_, h.pending, by simp, h.idle⟩
    intro handle' x hserver' hx hup _
    rw [h.goingDown hnot hstopping hserver' hx] at hup
    cases hup
  refine ⟨?_, ?_, by simp, by simp⟩
  · intro handle' x hserver' hx hup _
    cases hserver'
    rw [h.goingDown hnot hstopping hserver hx] at hup
    cases hup
  · intro n config hp
    exact ⟨(h.pending n config hp).1, .inr hstopping⟩

theorem claims_noteReceived (h : Claims claimed s) : Claims claimed s.noteReceived := by
  have hcheck : Claims claimed s.checkReceived := by
    rcases Supervisor.checkReceived_cases s with ⟨-, heq⟩ | ⟨_, _, _, heq⟩ <;> rw [heq]
    · exact h
    · exact h.released
  exact ⟨hcheck.up, hcheck.pending, hcheck.restarting, hcheck.idle⟩

def claimedAfter (claimed : Option ServerConfig) : SupervisorLabel → Option ServerConfig
  | .recv cmd _ => cmd.appliedAfter claimed
  | _ => claimed

def heedsStep (s : Supervisor) : SupervisorLabel → Bool
  | .recv cmd _ => heeds s.checkReceived cmd
  | _ => true

/-- **Every step that heeds its command keeps the claim.** -/
theorem claims_step {es : List SupervisorEvent} (hs : SupervisorInv s) (h : Claims claimed s)
    (hheeds : heedsStep s l = true) (hstep : s.step l = some (t, es)) :
    Claims (claimedAfter claimed l) t := by
  cases Supervisor.step_cases hstep with
  | loopTop hpc => exact claims_loopTop h hpc
  | recv hpc =>
    have hwait : s.noteReceived.pc = .waiting := by
      rw [Supervisor.noteReceived, Supervisor.checkReceived_eq]
      exact hpc
    exact claims_dispatch (claims_noteReceived h) hwait hheeds
  | wakeDone hpc hwake => exact claims_wakeDone h hpc hwake
  | send hpc hsend => exact claims_send hs h hpc hsend
  | session hx hy => exact claims_session h hx hy

/-! ## What is published -/

def RunningPublished (s : Supervisor) : Prop :=
  ∀ (i : Nat) (x : Session), s.sessions[i]? = some x → x.pc = .running →
    s.snapshot.phase = .running

theorem runningPublished_of_all_closed (hs : SupervisorInv s)
    (hclosed : ∀ x ∈ s.sessions, x.rxOpen = false) (ht : t.sessions = s.sessions) :
    RunningPublished t := by
  intro i x hx hrunning
  rw [ht] at hx
  have hmem := List.mem_of_getElem? hx
  have hrx := (hs.sessions x hmem).rx
  rw [hclosed x hmem, hrunning] at hrx
  cases hrx

theorem runningPublished_spawnServer (hs : SupervisorInv s) (hserver : s.server = none) :
    RunningPublished (s.spawnServer number config spawn).1 := by
  have hclosed := all_closed_of_no_server hs hserver
  cases spawn with
  | error e => exact runningPublished_of_all_closed hs hclosed rfl
  | ok u =>
    intro i x hx hrunning
    rcases getElem?_concat_cases hx with hold | ⟨-, rfl⟩
    · exact runningPublished_of_all_closed (t := s) hs hclosed rfl i x hold hrunning
    · cases hrunning

theorem runningPublished_dispatch {cmd : Command} (hs : SupervisorInv s) (h : RunningPublished s) :
    RunningPublished (s.dispatch number spawn cmd).1 := by
  refine Supervisor.dispatch_rule number spawn cmd ?_ ?_ ?_
  · intro t hsessions _ hsnapshot
    unfold RunningPublished
    rwa [hsessions, hsnapshot]
  · intro t c hnone hsessions hserver
    exact runningPublished_spawnServer (supervisorInv_congr hs hsessions (by rw [hserver, hnone]))
      hserver
  · intro t hnone hsessions _
    exact runningPublished_of_all_closed hs (all_closed_of_no_server hs hnone) hsessions

/-- A command that is not delivered found the receiver gone. -/
theorem closed_of_undelivered {cmd : ServerCmd} (h : s.sendCmd cmd = some (t, false)) :
    t = s ∧ ∃ handle, s.server = some handle ∧ s.closed handle = true := by
  obtain ⟨handle, hserver, ⟨hclosed, rfl, -⟩ | ⟨_, _, _, hdelivered, -⟩⟩ :=
    Supervisor.sendCmd_outcome h
  · exact ⟨rfl, handle, hserver, hclosed⟩
  · cases hdelivered

theorem runningPublished_send {what : Sending} (hs : SupervisorInv s) (h : RunningPublished s)
    (hsend : s.send what = some t) : RunningPublished t := by
  obtain ⟨u, delivered, hu, rfl⟩ := Supervisor.send_cases hsend
  have hu' : RunningPublished u := by
    rcases Supervisor.sendCmd_cases hu with rfl | ⟨handle, x, -, hx, rfl⟩
    · exact h
    intro i y hy hrunning
    rcases getElem?_set_cases hy with ⟨rfl, rfl⟩ | ⟨-, hy⟩
    · exact h _ x hx hrunning
    · exact h i y hy hrunning
  cases what with
  | remove =>
    cases delivered with
    | true => exact hu'
    | false =>
      obtain ⟨rfl, handle, hserver, hclosed⟩ := closed_of_undelivered hu
      exact runningPublished_of_all_closed hs (all_closed_of_closed hs hserver hclosed) rfl
  | _ => exact hu'

/-- Every step keeps it that a running session is published as running. -/
theorem runningPublished_step {es : List SupervisorEvent} (hs : SupervisorInv s)
    (h : RunningPublished s) (hstep : s.step l = some (t, es)) : RunningPublished t := by
  cases Supervisor.step_cases hstep with
  | @loopTop spawn _ =>
    rcases Supervisor.loopTop_cases s spawn with ⟨heq, -⟩ | ⟨n, c, hserver, -, heq⟩ <;> rw [heq]
    · simpa [RunningPublished] using h
    · exact runningPublished_spawnServer
        (s := { s.checkTop with pc := .waiting, pendingStart := none })
        (supervisorInv_congr (supervisorInv_checkTop hs) rfl rfl) hserver
  | recv =>
    refine runningPublished_dispatch (supervisorInv_noteReceived hs) ?_
    simpa [RunningPublished, Supervisor.noteReceived] using h
  | wakeDone _ hwake =>
    obtain ⟨handle, hserver, ⟨-, rfl⟩ | rfl⟩ := Supervisor.wakeDone_cases hwake <;> exact h
  | send _ hsend => exact runningPublished_send hs h hsend
  | @session i sl x y _ hx hy =>
    intro j z hz hrunning
    rcases getElem?_set_cases hz with ⟨rfl, rfl⟩ | ⟨hne, hz⟩
    · exact (session_step hy).2.2 (h _ x hx) hrunning
    -- another session runs, so this one has dropped its receiver
    have hopen : z.rxOpen = true := by
      rw [(hs.sessions z (List.mem_of_getElem? hz)).rx, hrunning]
      rfl
    have hclosed := closed_of_ne hs hz hopen (Ne.symm hne) hx
    rw [snapshot_of_closed (hs.sessions x (List.mem_of_getElem? hx)) hclosed
      (sessionStep_of_step hy)]
    exact h j z hz hrunning

/-! ## The app -/

/-- No command for the server is on its way: none waits to be sent or received, none is being
handled, and no config waits for a session to end. -/
structure Settled (d : Desktop) : Prop where
  sending : ∀ c ∈ d.sending, c.command = .profile
  queue : ∀ cmd ∈ d.queue, cmd = .profile
  pc : ∀ what, d.supervisor.pc ≠ .sending what
  pendingStart : d.supervisor.pendingStart = none

/-- The app shows that a restart is needed when a server runs with other settings than the saved
ones: once everything has settled and its snapshot is current, no notice for an enabled server
means that the session that runs has the saved config.
SOURCE: desktop/app.rs:1815-1824 -/
def RestartShown (d : Desktop) : Prop :=
  ∀ (a : App) (x : Session) (server : ServerConfig), d.ui = .running a → Settled d →
    x ∈ d.supervisor.sessions → x.pc = .running → x.queue = [] →
    a.serverSnapshot = d.supervisor.snapshot → a.server = some server → server.enabled = true →
    a.serverNeedsRestart = false → x.config = server

def heedsNext (d : Desktop) : DesktopLabel → Bool
  | .recv _ =>
    match d.queue with
    | cmd :: _ => heeds d.supervisor.checkReceived cmd
    | [] => true
  | _ => true

def appliedOf : AppState → Option ServerConfig
  | .launching _ => none
  | .running a => a.serverApplied

/-- What the UI takes the session to run is what the received commands claim, once those
on their way have been received. -/
structure DesktopInv (d : Desktop) : Prop where
  sessions : SupervisorInv d.supervisor
  published : RunningPublished d.supervisor
  effects : ∀ a, d.ui = .running a → a.effects = []
  claims : ∃ claimed, Claims claimed d.supervisor ∧
    (d.supervisor.pc.listening = true → appliedOf d.ui =
      (d.queue ++ d.sending.map ControllerCall.command).foldl Command.appliedAfter claimed)

variable {ctx : AppContext} {d d' : Desktop} {es : List SupervisorEvent}

/-- A step of the app claims what its calls ask for. -/
theorem app_applied {s t : AppState} {l : AppLabel} {effects : List AppEffect}
    (hs : ∀ a, s = .running a → a.effects = []) (h : (app ctx).step s l = some (t, effects)) :
    appliedOf t = (callsOf effects).foldl ControllerCall.appliedAfter (appliedOf s) ∧
      ∀ a, t = .running a → a.effects = [] := by
  cases app_step_cases h with
  | boot w env => exact ⟨App.boot_applied ctx env w, fun a ha => by cases ha; rfl⟩
  | update a env msg b hb =>
    exact ⟨App.update_applied hb (hs a rfl), fun a ha => by cases ha; rfl⟩

/-- A step of the UI sends what it claims. -/
theorem desktopInv_ui {l : AppLabel} (h : DesktopInv d)
    (hstep : d.step ctx (.ui l) = some (d', es)) : DesktopInv d' := by
  obtain ⟨claimed, hclaims, happlied⟩ := h.claims
  simp only [Desktop.step] at hstep
  split at hstep
  next hsending =>
    obtain ⟨⟨ui, effects⟩, hui, ⟨⟩⟩ := Option.map_eq_some_iff.1 hstep
    rw [hsending, List.map_nil, List.append_nil] at happlied
    obtain ⟨hmade, heffects⟩ := app_applied h.effects hui
    refine ⟨h.sessions, h.published, heffects, claimed, hclaims, fun hlisten => ?_⟩
    rw [List.foldl_append, foldl_appliedAfter_command, ← happlied hlisten]
    exact hmade
  · cases hstep

theorem desktopInv_send (h : DesktopInv d) (hstep : d.step ctx .send = some (d', es)) :
    DesktopInv d' := by
  obtain ⟨claimed, hclaims, happlied⟩ := h.claims
  simp only [Desktop.step] at hstep
  split at hstep
  · cases hstep
  next c rest hsending =>
    rw [hsending] at happlied
    split at hstep
    next hdeaf =>
      cases hstep
      refine ⟨h.sessions, h.published, h.effects, claimed, hclaims, fun hlisten => ?_⟩
      rw [show d.supervisor.pc.listening = true from hlisten] at hdeaf
      cases hdeaf
    split at hstep
    · cases hstep
      refine ⟨h.sessions, h.published, h.effects, claimed, hclaims, fun hlisten => ?_⟩
      rw [List.append_assoc]
      exact happlied hlisten
    · cases hstep

theorem listening_of_step (hstep : s.step l = some (t, es)) (ht : t.pc.listening = true) :
    s.pc.listening = true := by
  cases Supervisor.step_cases hstep with
  | loopTop hpc | recv hpc | wakeDone hpc | send hpc =>
    rw [hpc]
    rfl
  | session => exact ht

/-- A step of the supervisor makes true what the UI claims of the command it received. -/
theorem desktopInv_supervisor {queue : List Command} (h : DesktopInv d)
    (hstep : d.supervisor.step l = some (t, es)) (hheeds : heedsStep d.supervisor l = true)
    (hqueue : ∀ claimed, (d.queue.foldl Command.appliedAfter claimed) =
      queue.foldl Command.appliedAfter (claimedAfter claimed l)) :
    DesktopInv (d.moved t queue) := by
  obtain ⟨claimed, hclaims, happlied⟩ := h.claims
  refine ⟨supervisorInv_step h.sessions hstep, runningPublished_step h.sessions h.published hstep,
    h.effects, claimedAfter claimed l, claims_step h.sessions hclaims hheeds hstep,
    fun hlisten => ?_⟩
  have hlisten : t.pc.listening = true := hlisten
  simp only [Desktop.moved, hlisten, if_true]
  rw [happlied (listening_of_step hstep hlisten), List.foldl_append, hqueue, List.foldl_append]

/-- **Every step under the guard keeps the UI's claim.** -/
theorem desktopInv_step {l : DesktopLabel} (hheeds : heedsNext d l = true) (h : DesktopInv d)
    (hstep : (desktop ctx).step d l = some (d', es)) : DesktopInv d' := by
  cases l with
  | ui l => exact desktopInv_ui h hstep
  | send =>
    have hsend : d.step ctx .send = some (d', es) := hstep
    exact desktopInv_send h hsend
  | recv spawn =>
    simp only [desktop, Desktop.step] at hstep
    split at hstep
    · cases hstep
    next cmd rest hqueue =>
      obtain ⟨⟨t, es'⟩, ht, ⟨⟩⟩ := Option.map_eq_some_iff.1 hstep
      refine desktopInv_supervisor h ht ?_ fun claimed => by rw [hqueue]; rfl
      simpa [heedsNext, heedsStep, hqueue] using hheeds
  | supervisor l =>
    cases l with
    | recv => cases hstep
    | loopTop | wakeDone | send | session =>
      obtain ⟨⟨t, es'⟩, ht, ⟨⟩⟩ := Option.map_eq_some_iff.1 hstep
      exact desktopInv_supervisor h ht rfl fun _ => rfl

/-- Under the invariant every needed restart is shown. -/
theorem DesktopInv.restartShown (h : DesktopInv d) : RestartShown d := by
  intro a x server hui hsettled hmem hrunning hqueue hcurrent hserver henabled hshown
  obtain ⟨i, hx⟩ := List.mem_iff_getElem?.1 hmem
  obtain ⟨claimed, hclaims, happlied⟩ := h.claims
  -- the session is the one of the handle, and does not go down
  have hopen : x.rxOpen = true := by
    rw [(h.sessions.sessions x hmem).rx, hrunning]
    rfl
  obtain ⟨handle, hhandle, rfl⟩ := Option.map_eq_some_iff.1 (h.sessions.current i x hx hopen)
  have hup : goingDown x = false := by simp [goingDown, hrunning, hqueue]
  obtain ⟨-, hlisten, hclaimed⟩ := hclaims.up handle x hhandle hx hup hsettled.pc
  -- the commands on their way are about profiles
  have hprofiles : ∀ cmds : List Command, (∀ cmd ∈ cmds, cmd = .profile) →
      cmds.foldl Command.appliedAfter claimed = claimed := by
    intro cmds hcmds
    induction cmds with
    | nil => rfl
    | cons cmd cmds ih =>
      obtain rfl := hcmds cmd (List.mem_cons_self ..)
      exact ih fun cmd hcmd => hcmds cmd (List.mem_cons_of_mem _ hcmd)
  have happlied : a.serverApplied = some x.config := by
    have hall : ∀ cmd ∈ d.queue ++ d.sending.map ControllerCall.command, cmd = .profile := by
      intro cmd hcmd
      rcases List.mem_append.1 hcmd with hcmd | hcmd
      · exact hsettled.queue cmd hcmd
      · obtain ⟨c, hc, rfl⟩ := List.mem_map.1 hcmd
        exact hsettled.sending c hc
    have := happlied hlisten
    rwa [hprofiles _ hall, hui, hclaimed] at this
  have hphase : a.serverSnapshot.phase = .running := by
    rw [hcurrent]
    exact h.published handle.session x hx hrunning
  have hsame : a.serverApplied = a.server := by
    simpa [App.serverNeedsRestart, hphase, hserver, henabled] using hshown
  rw [happlied, hserver] at hsame
  exact Option.some.inj hsame

/-- **The app shows every restart that is needed, as long as the supervisor heeds its commands**
(`heeds`): no state reached has a running server with other settings than the saved ones that the
app takes for up to date. -/
theorem restart_shown_when_heeded {d₀ : Desktop} {ls : List DesktopLabel}
    (hinit : (desktop ctx).init d₀)
    (hguard : (desktop ctx).Guarded (fun d l => heedsNext d l = true) d₀ ls)
    (hrun : (desktop ctx).run d₀ ls = some (d, es)) : RestartShown d := by
  obtain ⟨w, -, rfl⟩ := hinit
  have h₀ : DesktopInv { ui := .launching w } := by
    refine ⟨⟨by simp, by simp⟩, by simp [RunningPublished], by simp, none, ?_, fun _ => rfl⟩
    exact ⟨by simp, by simp, by simp, fun _ => rfl⟩
  have hinv : DesktopInv d :=
    (desktop ctx).guarded_invariant (P := DesktopInv)
      (fun _ _ _ _ hg h hstep => desktopInv_step hg h hstep) h₀ hguard hrun
  exact hinv.restartShown

/-! ## An identity saved twice -/

def uiUpdates (msgs : List Message) : List DesktopLabel :=
  msgs.map fun msg => .ui (.update sampleSurroundings msg)

/-- On an empty store, the user sets a server up and authorizes the first client, which starts
it. -/
def setUp : List DesktopLabel :=
  .ui (.boot sampleSurroundings) ::
    uiUpdates [.beginServerSetup, .serverFormSave, .clientNameChanged "laptop",
      .clientPublicKeyChanged "pub", .clientFormSave] ++ [.send]

def replaceIdentity : List DesktopLabel :=
  uiUpdates [.replaceIdentity true, .identitySecretChanged "other", .identityFormSave] ++ [.send]

def receive : List DesktopLabel :=
  [.recv (.ok ()), .supervisor (.loopTop (.ok ()))]

def comeUp : List DesktopLabel :=
  ([.runtimeBuilt, .enter, .optionsRead (.ok ()), .lockAcquired (.ok ()), .prepared (.ok ()),
    .bindFinished (.ok ()), .bindJoined 0] : List SessionLabel).map
      (fun l => .supervisor (.session 0 l)) ++ uiUpdates [.tick]

def setUpServer (secret : String) : ServerConfig where
  endpointId := "endpoint " ++ secret
  secret := secret
  authorizedClients := [{ name := "laptop", publicKey := "pub" }]
  routedDomains := []
  routedCidrs := []
  relayUrls := []
  relayAuthToken := none
  enabled := true

/-- The server set up, started and shown as up to date. -/
theorem restart_shown_when_heeded_set_up :
    ∃ d log a x, (desktop sampleContext).run { ui := .launching {} }
        (setUp ++ .supervisor (.loopTop (.ok ())) :: receive ++ comeUp) = some (d, log) ∧
      d.ui = .running a ∧ d.supervisor.sessions = [x] ∧ a.serverNeedsRestart = false ∧
      x.config = setUpServer "identity" ∧ RestartShown d := by
  have hguard : (desktop sampleContext).Guarded (fun d l => heedsNext d l = true)
      { ui := .launching {} } (setUp ++ .supervisor (.loopTop (.ok ())) :: receive ++ comeUp) := by
    decide
  refine ⟨_, _, _, _, rfl, rfl, rfl, rfl, rfl, ?_⟩
  exact restart_shown_when_heeded ⟨{}, rfl, rfl⟩ hguard rfl

/-- The identity is replaced before the first session has published that it starts: the second
start is sent as the first was, and dropped, and the server runs under the old identity while the
app takes it for up to date. -/
theorem restart_not_shown :
    ∃ ls d log, (desktop sampleContext).run { ui := .launching {} } ls = some (d, log) ∧
      ¬ RestartShown d := by
  obtain ⟨d, log, a, x, hrun, hui, hsessions, hconfig, hrunning, hqueue, hsending, hcmds, hpc,
      hpending, hcurrent, hserver, hshown⟩ : ∃ d log a x,
      (desktop sampleContext).run { ui := .launching {} }
        (setUp ++ replaceIdentity ++ .supervisor (.loopTop (.ok ())) :: receive ++ receive ++
          comeUp) = some (d, log) ∧
      d.ui = .running a ∧ d.supervisor.sessions = [x] ∧ x.config = setUpServer "identity" ∧
      x.pc = .running ∧ x.queue = [] ∧ d.sending = [] ∧ d.queue = [] ∧
      d.supervisor.pc = .waiting ∧ d.supervisor.pendingStart = none ∧
      a.serverSnapshot = d.supervisor.snapshot ∧ a.server = some (setUpServer "other") ∧
      a.serverNeedsRestart = false :=
    ⟨_, _, _, _, rfl, rfl, rfl, rfl, rfl, rfl, rfl, rfl, rfl, rfl, rfl, rfl, rfl⟩
  refine ⟨_, d, log, hrun, fun hall => ?_⟩
  have hsettled : Settled d :=
    ⟨by simp [hsending], by simp [hcmds], by simp [hpc], hpending⟩
  have hsame := hall a x _ hui hsettled (by simp [hsessions]) hrunning hqueue hcurrent hserver rfl
    hshown
  rw [hconfig] at hsame
  exact absurd (congrArg ServerConfig.secret hsame) (by decide)

end Flextunnel.Analysis
