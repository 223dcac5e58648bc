import Flextunnel.Model.Supervisor

/-!
# At most one desktop server session

The supervisor starts a session only when it holds no handle, and it lets go of a handle
only when the session's channel is closed. That this suffices rests on the drop order inside
the session.
-/

set_option autoImplicit false

namespace Flextunnel.Analysis

open Lib Model

/-! ## What a session holds at each point -/

def mayLock : SessionPc → Bool
  | .preparing | .binding | .bindInterrupted _ | .running | .closing _ _ _
  | .finishing _ _ | .returning | .droppingLock => true
  | _ => false

def mayBind : SessionPc → Bool
  | .binding | .bindInterrupted _ | .running | .closing _ _ _ | .finishing _ _
  | .returning => true
  | _ => false

def ownsRx : SessionPc → Bool
  | .tail | .ended => false
  | _ => true

structure SessionInv (x : Session) : Prop where
  lock : x.lock = true → mayLock x.pc = true
  endpoint : x.endpoint.released = false → mayBind x.pc = true
  rx : x.rxOpen = ownsRx x.pc

@[simp] theorem released_drop (e : EndpointState) : e.drop.released = true := by
  cases e <;> rfl

variable {x : Session} {s t : Supervisor} {es log : List SupervisorEvent} {l : SupervisorLabel}
    {c : ServerConfig} {senders : Bool} {snapshot snapshot' : ServerSnapshot} {y : Session}
    {sl : SessionLabel} {i : Nat}

/-- Every step of a session keeps what it holds within where it is. -/
theorem sessionInv_step (hx : SessionInv x)
    (h : x.step senders snapshot sl = some (y, snapshot')) : SessionInv y := by
  obtain ⟨hlock, hend, hrx⟩ := hx
  cases sessionStep_of_step h with
  | bound hpc | unbound hpc =>
    rcases hpc with hpc | ⟨cmd, hpc⟩
    all_goals
      rw [hpc] at hlock hend hrx
      constructor <;> simp_all [mayLock, mayBind, ownsRx]
  | closeTimedOut hpc =>
    rw [hpc] at hlock hend hrx
    refine ⟨fun _ => rfl, fun _ => rfl, hrx⟩
  | polled => exact ⟨hlock, hend, hrx⟩
  | runtimeBuilt hpc | runtimeFailed hpc | enter hpc | optionsRead hpc | optionsFailed hpc
  | lockAcquired hpc | lockFailed hpc | prepared hpc | prepareFailed hpc | joined hpc
  | bindFailed hpc | waitedBound hpc | waitedUnbound hpc | interrupted hpc | told hpc | served hpc
  | closeDone hpc | finish hpc | dropRunning hpc | dropLock hpc | dropRx hpc | dropUnbuilt hpc
  | sendDone hpc | sendUnbuilt hpc =>
    rw [hpc] at hlock hend hrx
    constructor <;> simp_all [mayLock, mayBind, ownsRx]

theorem rxOpen_of_step (h : x.step senders snapshot sl = some (y, snapshot'))
    (hy : y.rxOpen = true) : x.rxOpen = true := by
  cases sessionStep_of_step h with
  | dropRx | dropUnbuilt => cases hy
  | _ => exact hy

/-- A session that dropped its receiver has released the identity lock and its endpoint. -/
theorem resources_released_of_rx_closed (hx : SessionInv x) (hrx : x.rxOpen = false) :
    x.lock = false ∧ x.endpoint.released = true := by
  have hpc : ownsRx x.pc = false := hx.rx ▸ hrx
  have hno : mayLock x.pc = false ∧ mayBind x.pc = false := by
    revert hpc
    cases x.pc <;> simp [ownsRx, mayLock, mayBind]
  constructor
  · by_contra hlock
    simpa [hno.1] using hx.lock (by simpa using hlock)
  · by_contra hend
    simpa [hno.2] using hx.endpoint (by simpa using hend)

/-- A session without its receiver publishes nothing. -/
theorem snapshot_of_closed (hinv : SessionInv x) (hclosed : x.rxOpen = false)
    (h : SessionStep senders snapshot x sl y snapshot') : snapshot' = snapshot := by
  have hpc : ownsRx x.pc = false := hinv.rx ▸ hclosed
  cases h with
  | sendDone | bound | unbound | dropRx | dropUnbuilt | sendUnbuilt | runtimeBuilt | optionsRead
  | lockAcquired | prepared | waitedBound | waitedUnbound | closeDone | closeTimedOut | dropRunning
  | dropLock => rfl
  | runtimeFailed h | enter h | optionsFailed h | lockFailed h | prepareFailed h | joined h
  | bindFailed h | interrupted h | told h | served h | polled h | finish h =>
    rw [h] at hpc
    cases hpc

/-- A session exists as long as it can still act on its identity: its receiver is open,
it holds the lock, or it has an endpoint. -/
def Alive (x : Session) : Prop :=
  x.rxOpen = true ∨ x.lock = true ∨ x.endpoint.released = false

theorem rxOpen_of_alive (hx : SessionInv x) (h : Alive x) : x.rxOpen = true := by
  by_contra hrx
  obtain ⟨hlock, hend⟩ := resources_released_of_rx_closed hx (by simpa using hrx)
  simp_all [Alive]

/-! ## The handle and the open receivers -/

/-- The session of the current handle is the only one whose receiver is open. -/
structure SupervisorInv (s : Supervisor) : Prop where
  sessions : ∀ x ∈ s.sessions, SessionInv x
  current : ∀ (i : Nat) (x : Session), s.sessions[i]? = some x → x.rxOpen = true →
    s.server.map ServerHandle.session = some i

theorem supervisorInv_congr (hs : SupervisorInv s) (hsessions : t.sessions = s.sessions)
    (hserver : t.server.map ServerHandle.session = s.server.map ServerHandle.session) :
    SupervisorInv t :=
  ⟨hsessions ▸ hs.sessions, by rw [hsessions, hserver]; exact hs.current⟩

theorem supervisorInv_set (hs : SupervisorInv s)
    (hi : s.sessions[i]? = some x) (hy : SessionInv y) (hrx : y.rxOpen = true → x.rxOpen = true)
    (hsessions : t.sessions = s.sessions.set i y) (hserver : t.server = s.server) :
    SupervisorInv t := by
  refine ⟨?_, ?_⟩
  · intro z hz
    rw [hsessions] at hz
    rcases List.mem_or_eq_of_mem_set hz with hz | rfl
    · exact hs.sessions z hz
    · exact hy
  intro j z hz hopen
  rw [hserver]
  rw [hsessions] at hz
  rcases getElem?_set_cases hz with ⟨rfl, rfl⟩ | ⟨-, hz⟩
  · exact hs.current j x hi (hrx hopen)
  · exact hs.current j z hz hopen

/-- When the current handle is closed, every receiver is. -/
theorem all_closed (hs : SupervisorInv s)
    (hclosed : ∀ handle, s.server = some handle → s.closed handle = true) :
    ∀ x ∈ s.sessions, x.rxOpen = false := by
  intro x hx
  by_contra hopen
  obtain ⟨i, hi⟩ := List.mem_iff_getElem?.1 hx
  obtain ⟨handle, hserver, rfl⟩ :=
    Option.map_eq_some_iff.1 (hs.current i x hi (by simpa using hopen))
  have := hclosed handle hserver
  simp_all [Supervisor.closed]

theorem all_closed_of_closed (hs : SupervisorInv s) {handle : ServerHandle}
    (hserver : s.server = some handle) (hclosed : s.closed handle = true) :
    ∀ x ∈ s.sessions, x.rxOpen = false :=
  all_closed hs (by simp [hserver, hclosed])

theorem all_closed_of_no_server (hs : SupervisorInv s) (hserver : s.server = none) :
    ∀ x ∈ s.sessions, x.rxOpen = false :=
  all_closed hs (by simp [hserver])

theorem closed_of_ne (hs : SupervisorInv s) {j : Nat} {z : Session}
    (hi : s.sessions[i]? = some x) (hopen : x.rxOpen = true) (hne : j ≠ i)
    (hj : s.sessions[j]? = some z) : z.rxOpen = false := by
  by_contra hz
  have hcur := (hs.current i x hi hopen).symm.trans (hs.current j z hj (by simpa using hz))
  exact hne (Option.some.inj hcur).symm

theorem supervisorInv_of_all_closed (hs : ∀ x ∈ s.sessions, SessionInv x)
    (hclosed : ∀ x ∈ s.sessions, x.rxOpen = false) : SupervisorInv s := by
  refine ⟨hs, ?_⟩
  intro i x hi hopen
  have := hclosed x (List.mem_of_getElem? hi)
  simp_all

theorem supervisorInv_checkTop (hs : SupervisorInv s) : SupervisorInv s.checkTop := by
  rcases Supervisor.checkTop_cases s with ⟨_, _, _, hsame⟩ | ⟨hclosed, hgone⟩
  · rwa [hsame]
  · have hall := all_closed hs hclosed
    rw [hgone]
    exact supervisorInv_of_all_closed hs.sessions hall

theorem supervisorInv_checkReceived (hs : SupervisorInv s) : SupervisorInv s.checkReceived := by
  rcases Supervisor.checkReceived_cases s with ⟨-, hsame⟩ | ⟨handle, hserver, hclosed, hgone⟩
  · rwa [hsame]
  · have hall := all_closed_of_closed hs hserver hclosed
    rw [hgone]
    exact supervisorInv_of_all_closed hs.sessions hall

theorem supervisorInv_noteReceived (hs : SupervisorInv s) : SupervisorInv s.noteReceived :=
  supervisorInv_congr (supervisorInv_checkReceived hs) rfl rfl

/-- A session is started when every receiver is closed. -/
theorem supervisorInv_spawnServer (hs : SupervisorInv s) (hserver : s.server = none) (number : Nat)
    (config : ServerConfig) (spawn : Except String Unit) :
    SupervisorInv (s.spawnServer number config spawn).1 := by
  have hclosed := all_closed_of_no_server hs hserver
  cases spawn with
  | error e => exact supervisorInv_of_all_closed hs.sessions hclosed
  | ok u =>
    refine ⟨?_, ?_⟩
    · intro x hx
      rcases List.mem_append.1 hx with hx | hx
      · exact hs.sessions x hx
      · obtain rfl : x = { config } := by simpa using hx
        exact ⟨by simp, by simp [EndpointState.released], rfl⟩
    intro i x hi hopen
    -- an older session is closed, so the open one is the one just appended
    rcases getElem?_concat_cases hi with hold | ⟨rfl, -⟩
    · rw [hclosed x (List.mem_of_getElem? hold)] at hopen
      cases hopen
    · rfl

theorem supervisorInv_dispatch (hs : SupervisorInv s) (number : Nat) (spawn : Except String Unit)
    (cmd : Command) : SupervisorInv (s.dispatch number spawn cmd).1 := by
  have hcongr {t : Supervisor} (hsessions : t.sessions = s.sessions)
      (hserver : t.server = s.server) : SupervisorInv t :=
    supervisorInv_congr hs hsessions (by rw [hserver])
  refine Supervisor.dispatch_rule number spawn cmd ?_ ?_ ?_
  · exact fun t hsessions hserver _ => hcongr hsessions hserver
  · intro t c hnone hsessions hserver
    exact supervisorInv_spawnServer (hcongr hsessions (hserver.trans hnone.symm)) hserver _ c spawn
  · exact fun t hnone hsessions hserver => hcongr hsessions (hserver.trans hnone.symm)

/-- **Every step keeps the open receiver with the current handle.** -/
theorem supervisorInv_step (hs : SupervisorInv s) (h : s.step l = some (t, es)) :
    SupervisorInv t := by
  cases Supervisor.step_cases h with
  | @loopTop spawn _ =>
    have hcheck := supervisorInv_checkTop hs
    rcases Supervisor.loopTop_cases s spawn with ⟨heq, -⟩ | ⟨n, c, hserver, -, heq⟩ <;> rw [heq]
    · exact supervisorInv_congr hcheck rfl rfl
    · exact supervisorInv_spawnServer
        (s := { s.checkTop with pc := .waiting, pendingStart := none })
        (supervisorInv_congr hcheck rfl rfl) hserver n c spawn
  | recv => exact supervisorInv_dispatch (supervisorInv_noteReceived hs) s.received _ _
  | wakeDone _ hwake =>
    obtain ⟨handle, hserver, ⟨-, rfl⟩ | rfl⟩ := Supervisor.wakeDone_cases hwake
    · exact supervisorInv_congr hs rfl rfl
    · exact supervisorInv_congr hs rfl (by simp [hserver])
  | @send what _ _ hsend =>
    obtain ⟨u, delivered, hu, rfl⟩ := Supervisor.send_cases hsend
    have hu' : SupervisorInv u := by
      rcases Supervisor.sendCmd_cases hu with rfl | ⟨handle, x, -, hx, rfl⟩
      · exact hs
      have hinv := hs.sessions x (List.mem_of_getElem? hx)
      refine supervisorInv_set hs hx (y := { x with queue := x.queue ++ [what.cmd] }) ?_ id rfl rfl
      exact ⟨hinv.lock, hinv.endpoint, hinv.rx⟩
    cases what <;> exact supervisorInv_congr hu' rfl rfl
  | session hx hy =>
    have hinv := hs.sessions _ (List.mem_of_getElem? hx)
    exact supervisorInv_set hs hx (sessionInv_step hinv hy) (rxOpen_of_step hy) rfl rfl

/-- The open receiver is with the current handle in every run. -/
theorem supervisorInv_run {ls : List SupervisorLabel}
    (hrun : supervisor.run {} ls = some (s, log)) : SupervisorInv s :=
  supervisor.invariant_rule (P := SupervisorInv) (fun _ _ _ _ hs h => supervisorInv_step hs h)
    ⟨by simp, by simp⟩ hrun

/-! ## How a session lets go of its endpoint -/

def keepsBound : SessionPc → Bool
  | .binding | .bindInterrupted _ | .running => true
  | _ => false

/-- An endpoint that is bound is closed before the session returns, unless the close is given up
after its five seconds; only then can the endpoint be dropped as it is. -/
structure CloseInv (gaveUp : Prop) (x : Session) : Prop where
  bound : x.endpoint = .bound → x.bind = some (.ok ()) ∧ keepsBound x.pc = true
  closing : x.endpoint = .closing → (∃ cmd result inner, x.pc = .closing cmd result inner) ∨ gaveUp
  dropped : x.endpoint = .dropped → gaveUp

section Close

variable {gaveUp gaveUp' : Prop} (hx : CloseInv gaveUp x) (hmono : gaveUp → gaveUp')
include hx hmono

/-- A step outside of a close keeps what is known of the endpoint. -/
theorem CloseInv.keep
    (hbound : y.endpoint = .bound → y.bind = some (.ok ()) ∧ keepsBound y.pc = true)
    (hpc : ∀ cmd result inner, x.pc ≠ .closing cmd result inner) (hend : y.endpoint = x.endpoint) :
    CloseInv gaveUp' y := by
  refine ⟨hbound, fun h => .inr (hmono ?_), fun h => hmono (hx.dropped (hend ▸ h))⟩
  obtain ⟨cmd, result, inner, h⟩ | h := hx.closing (hend ▸ h)
  · exact absurd h (hpc cmd result inner)
  · exact h

/-- Where nothing is bound and no close is under way, an endpoint that is there was given up. -/
theorem CloseInv.settled (hpc : keepsBound x.pc = false)
    (hout : ∀ cmd result inner, x.pc ≠ .closing cmd result inner)
    (hend : y.endpoint = x.endpoint ∨ y.endpoint = x.endpoint.drop) : CloseInv gaveUp' y := by
  cases hx' : x.endpoint with
  | bound => cases hpc.symm.trans (hx.bound hx').2
  | unbound | closed =>
    have hy : y.endpoint = x.endpoint := by
      rcases hend with h | h <;> simp [h, hx', EndpointState.drop]
    refine hx.keep hmono ?_ hout hy
    simp [hy, hx']
  | closing | dropped =>
    have hgave : gaveUp' := by
      refine hmono ?_
      first
        | exact hx.dropped hx'
        | exact (hx.closing hx').resolve_left fun ⟨cmd, result, inner, h⟩ => hout cmd result inner h
    refine ⟨?_, fun _ => .inr hgave, fun _ => hgave⟩
    rcases hend with h | h <;> simp [h, hx', EndpointState.drop]

/-- Every step of a session closes its endpoint or gives the close up. -/
theorem closeInv_step (hl : sl = .closeTimedOut → gaveUp')
    (h : x.step senders snapshot sl = some (y, snapshot')) : CloseInv gaveUp' y := by
  cases sessionStep_of_step h with
  | bound hpc =>
    refine ⟨fun _ => ⟨rfl, ?_⟩, by simp, by simp⟩
    rcases hpc with hpc | ⟨cmd, hpc⟩ <;> simp [hpc, keepsBound]
  | unbound hpc hbind =>
    refine hx.keep hmono (fun hend => ?_) ?_ rfl
    · cases hbind.symm.trans (hx.bound hend).1
    · rcases hpc with hpc | ⟨cmd, hpc⟩ <;> simp [hpc]
  | joined hpc | interrupted hpc | polled hpc =>
    refine hx.keep hmono (fun hend => ⟨(hx.bound hend).1, ?_⟩) (by simp [hpc]) rfl
    simp [keepsBound, hpc]
  | bindFailed hpc hbind | waitedUnbound hpc hbind =>
    refine hx.keep hmono (fun hend => ?_) (by simp [hpc]) rfl
    cases hbind.symm.trans (hx.bound hend).1
  | waitedBound | told | served => exact ⟨by simp, fun _ => .inl ⟨_, _, _, rfl⟩, by simp⟩
  | closeDone => exact ⟨by simp, by simp, by simp⟩
  | @closeTimedOut _ _ inner hpc =>
    have hgave := hl rfl
    refine ⟨fun hend => ?_, fun _ => .inr hgave, fun _ => hgave⟩
    have hbound : x.endpoint = .bound := by
      cases inner with
      | false => exact hend
      | true => cases hx' : x.endpoint <;> simp [hx', EndpointState.drop] at hend
    cases (hpc ▸ (hx.bound hbound).2 : keepsBound (.closing _ _ _) = true)
  | dropRunning hpc => exact hx.settled hmono (by simp [hpc, keepsBound]) (by simp [hpc]) (.inr rfl)
  | runtimeBuilt hpc | runtimeFailed hpc | enter hpc | optionsRead hpc | optionsFailed hpc
  | lockAcquired hpc | lockFailed hpc | prepared hpc | prepareFailed hpc | finish hpc | dropLock hpc
  | dropRx hpc | dropUnbuilt hpc | sendDone hpc | sendUnbuilt hpc =>
    exact hx.settled hmono (by simp [hpc, keepsBound]) (by simp [hpc]) (.inl rfl)

end Close

/-- Session `i` gave its close up, by these steps. -/
def GaveUp (ls : List SupervisorLabel) (i : Nat) : Prop := .session i .closeTimedOut ∈ ls

/-- An endpoint is closed or given up in every run. -/
theorem closeInv_run {ls : List SupervisorLabel} (hrun : supervisor.run {} ls = some (s, log))
    (hi : s.sessions[i]? = some x) : CloseInv (GaveUp ls i) x := by
  refine supervisor.labels_rule (P := fun ls _ s =>
    ∀ (i : Nat) x, s.sessions[i]? = some x → CloseInv (GaveUp ls i) x) ?_ (by simp) hrun i x hi
  intro ls log s l t es hinv h i y hy
  have hmono {j : Nat} (hj : GaveUp ls j) : GaveUp (ls ++ [l]) j := List.mem_append_left _ hj
  have hold {x : Session} (hx : s.sessions[i]? = some x) : CloseInv (GaveUp (ls ++ [l]) i) x := by
    obtain ⟨hbound, hclosing, hdropped⟩ := hinv i x hx
    exact ⟨hbound, fun hend => (hclosing hend).imp id hmono, fun hend => hmono (hdropped hend)⟩
  rcases Supervisor.sessions_cases h with hsame | ⟨c, hnew⟩ | ⟨j, x, x', hx, hset, hmove⟩
  · exact hold (hsame ▸ hy)
  · rw [hnew] at hy
    rcases getElem?_concat_cases hy with hy | ⟨-, rfl⟩
    · exact hold hy
    · exact ⟨by simp, by simp, by simp⟩
  rw [hset] at hy
  rcases getElem?_set_cases hy with ⟨rfl, rfl⟩ | ⟨-, hy⟩
  · rcases hmove with ⟨queue, rfl⟩ | ⟨sl, snapshot, rfl, hstep⟩
    · obtain ⟨hbound, hclosing, hdropped⟩ := hold hx
      exact ⟨hbound, hclosing, hdropped⟩
    · exact closeInv_step (hinv _ _ hx) hmono (by rintro rfl; simp [GaveUp]) hstep
  · exact hold hy

/-! ## Where a session is started -/

theorem spawnServer_events (s : Supervisor) (number : Nat) (config : ServerConfig)
    (spawn : Except String Unit) :
    (s.spawnServer number config spawn).2 = [] ∨
      (s.spawnServer number config spawn).2 = [.spawned number config] := by
  cases spawn with
  | error e => exact .inl rfl
  | ok u => exact .inr rfl

theorem dispatch_events (s : Supervisor) (number : Nat) (spawn : Except String Unit)
    (cmd : Command) :
    (s.dispatch number spawn cmd).2 = [] ∨
      ∃ c, cmd = .startServer c ∧ s.server = none ∧
        (s.dispatch number spawn cmd).2 = [.spawned number c] := by
  cases cmd with
  | startServer config =>
    simp only [Supervisor.dispatch]
    split
    · split <;> exact .inl rfl
    next hserver =>
      refine (spawnServer_events { s with pc := .top } number config spawn).imp id ?_
      intro hspawn
      exact ⟨config, rfl, hserver, hspawn⟩
  | restartServer config =>
    simp only [Supervisor.dispatch]
    split
    · split <;> exact .inl rfl
    · exact .inl rfl
  | profile => exact .inl rfl
  | stopServer | removeServer | shutdown =>
    simp only [Supervisor.dispatch]
    split <;> exact .inl rfl

theorem loopTop_events (s : Supervisor) (spawn : Except String Unit) :
    (s.loopTop spawn).2 = [] ∨
      ∃ n c, s.pendingStart = some (n, c) ∧ s.checkTop.server = none ∧
        (s.loopTop spawn).2 = [.spawned n c] := by
  rcases Supervisor.loopTop_cases s spawn with ⟨heq, -⟩ | ⟨n, c, hserver, hpending, heq⟩ <;>
    rw [heq]
  · exact .inl rfl
  · refine (spawnServer_events _ n c spawn).imp id fun hspawn => ?_
    exact ⟨n, c, hpending, hserver, hspawn⟩

/-- A session is started from the pending start or by a `StartServer`, with no handle held. -/
theorem spawned_of_step {n : Nat} (h : s.step l = some (t, es))
    (hes : SupervisorEvent.spawned n c ∈ es) :
    (s.pendingStart = some (n, c) ∧ s.checkTop.server = none) ∨
      ((∃ spawn, l = .recv (.startServer c) spawn) ∧ n = s.received ∧
        s.checkReceived.server = none) := by
  cases Supervisor.step_cases h with
  | @loopTop spawn _ =>
    rcases loopTop_events s spawn with hnil | ⟨n', c', hpending, hserver, hspawn⟩
    · simp [hnil] at hes
    · obtain ⟨rfl, rfl⟩ : n = n' ∧ c = c' := by simpa [hspawn] using hes
      exact .inl ⟨hpending, hserver⟩
  | @recv cmd spawn _ =>
    have hes' := List.mem_of_ne_of_mem (by simp) hes
    rcases dispatch_events s.noteReceived s.received spawn cmd
      with hnil | ⟨c', rfl, hserver, hspawn⟩
    · rw [hnil] at hes'
      simp at hes'
    · rw [hspawn] at hes'
      obtain ⟨rfl, rfl⟩ : n = s.received ∧ c = c' := by simpa using hes'
      exact .inr ⟨⟨spawn, rfl⟩, rfl, hserver⟩
  | wakeDone | send | session => cases hes

theorem all_closed_of_spawned {n : Nat} (hs : SupervisorInv s) (h : s.step l = some (t, es))
    (hes : SupervisorEvent.spawned n c ∈ es) : ∀ x ∈ s.sessions, x.rxOpen = false := by
  rcases spawned_of_step h hes with ⟨-, hserver⟩ | ⟨-, -, hserver⟩
  · simpa using all_closed_of_no_server (supervisorInv_checkTop hs) hserver
  · simpa using all_closed_of_no_server (supervisorInv_checkReceived hs) hserver

/-! ## After a stop -/

def StopReceived : SupervisorEvent → Prop
  | .received _ .stopServer _ | .received _ .removeServer _ => True
  | _ => False

def StartReceived : SupervisorEvent → Prop
  | .received _ (.startServer _) _ => True
  | _ => False

def SessionSpawned : SupervisorEvent → Prop
  | .spawned _ _ => True
  | _ => False

/-- Nothing waits to be started, no restart is on its way, and the current
session, if there is one, is being stopped. -/
structure Quiet (s : Supervisor) : Prop where
  pending : s.pendingStart = none
  server : s.server = none ∨ s.stopping = true ∨ s.pc = .sending .stop
  restart : ∀ n c, s.pc ≠ .sending (.restart n c)

theorem quiet_loopTop (hs : Quiet s) (hpc : s.pc = .top) (spawn : Except String Unit) :
    Quiet (s.loopTop spawn).1 := by
  rw [Supervisor.loopTop_of_no_pending hs.pending]
  refine ⟨by simpa using hs.pending, ?_, by simp⟩
  rcases Supervisor.checkTop_cases s with ⟨_, _, _, hsame⟩ | ⟨-, hgone⟩
  · simpa [hsame, hpc] using hs.server
  · exact .inl (by rw [hgone])

theorem quiet_recv_stop (s : Supervisor) (spawn : Except String Unit) {cmd : Command}
    (hcmd : cmd = .stopServer ∨ cmd = .removeServer) : Quiet (s.recv cmd spawn).1 := by
  rcases hcmd with rfl | rfl <;>
    (unfold Supervisor.recv
     simp only [Supervisor.dispatch]
     split
     · exact ⟨rfl, by simp, by simp⟩
     next hserver => exact ⟨rfl, .inl hserver, by simp⟩)

/-- A command that starts nothing leaves all quiet. -/
theorem quiet_recv (hs : Quiet s) (hpc : s.pc = .waiting) (spawn : Except String Unit)
    {cmd : Command} (hcmd : ∀ c, cmd ≠ .startServer c) : Quiet (s.recv cmd spawn).1 := by
  have hserver : s.noteReceived.server = none ∨ s.noteReceived.stopping = true := by
    show s.checkReceived.server = none ∨ s.checkReceived.stopping = true
    rcases Supervisor.checkReceived_cases s with ⟨-, hsame⟩ | ⟨_, _, _, hgone⟩
    · simpa [hsame, hpc] using hs.server
    · exact .inl (by rw [hgone])
  have hpending : s.noteReceived.pendingStart = none :=
    Supervisor.checkReceived_pendingStart.trans hs.pending
  cases cmd with
  | startServer c => exact absurd rfl (hcmd c)
  | stopServer | removeServer => exact quiet_recv_stop s spawn (by simp)
  | profile =>
    exact ⟨hpending, hserver.imp id .inl, by simp [Supervisor.recv, Supervisor.dispatch]⟩
  | restartServer c =>
    unfold Supervisor.recv
    simp only [Supervisor.dispatch]
    split
    next handle hsome =>
      have hstopping : s.noteReceived.stopping = true :=
        hserver.resolve_left (by simp [hsome])
      rw [if_pos hstopping]
      exact ⟨by simp [hpending], .inr (.inl hstopping), by simp⟩
    next hnone => exact ⟨hpending, .inl hnone, by simp⟩
  | shutdown =>
    unfold Supervisor.recv
    simp only [Supervisor.dispatch]
    split <;> exact ⟨hpending, hserver.imp id .inl, by simp⟩

theorem quiet_send {what : Sending} (hs : Quiet s) (hpc : s.pc = .sending what)
    (h : s.send what = some t) : Quiet t := by
  obtain ⟨u, delivered, hu, rfl⟩ := Supervisor.send_cases h
  have hframe : u.pendingStart = s.pendingStart ∧ u.server = s.server ∧
      u.stopping = s.stopping := by
    rcases Supervisor.sendCmd_cases hu with rfl | ⟨handle, x, -, -, rfl⟩ <;> exact ⟨rfl, rfl, rfl⟩
  obtain ⟨hpending, hserver, hstopping⟩ := hframe
  have hq := hs.server
  cases what with
  | restart n c => exact absurd hpc (hs.restart n c)
  | stop => exact ⟨hpending.trans hs.pending, .inr (.inl rfl), by simp [Supervisor.afterSend]⟩
  | remove | shutdown =>
    refine ⟨hpending.trans hs.pending, ?_, by simp [Supervisor.afterSend]⟩
    simpa [Supervisor.afterSend, hserver, hstopping, hpc] using hq

/-- What holds of the events so far and the state: an unanswered stop means all
is quiet, and no stop was followed by a spawn without a start in between. -/
structure StopInv (log : List SupervisorEvent) (s : Supervisor) : Prop where
  quiet : Since StopReceived StartReceived log → Quiet s
  order : Unless StopReceived StartReceived SessionSpawned log

theorem stopInv_spawn {n : Nat} (hsince : ¬ Since StopReceived StartReceived log)
    (horder : Unless StopReceived StartReceived SessionSpawned log)
    (hes : es = [.spawned n c]) : StopInv (log ++ es) t := by
  subst hes
  refine ⟨fun h => ?_, horder.concat fun _ => hsince⟩
  rcases (since_concat _ _ log _).1 h with h | ⟨h, -⟩
  · exact h.elim
  · exact absurd h hsince

theorem stopInv_recv (hinv : StopInv log s) (hpc : s.pc = .waiting) (cmd : Command)
    (spawn : Except String Unit) : StopInv (log ++ (s.recv cmd spawn).2) (s.recv cmd spawn).1 := by
  have horder : Unless StopReceived StartReceived SessionSpawned
      (log ++ [.received s.received cmd (s.pendingStart.map Prod.fst)]) :=
    hinv.order.concat (fun h => h.elim)
  have hlog : log ++ (s.recv cmd spawn).2 =
      (log ++ [.received s.received cmd (s.pendingStart.map Prod.fst)]) ++
        (s.noteReceived.dispatch s.received spawn cmd).2 := by
    simp [Supervisor.recv]
  rw [hlog]
  rcases dispatch_events s.noteReceived s.received spawn cmd with hnil | ⟨c, rfl, -, hspawn⟩
  · -- no session is started: only the new event matters
    rw [hnil, List.append_nil]
    refine ⟨fun hsince => ?_, horder⟩
    rcases (since_concat _ _ log _).1 hsince with hstop | ⟨hsince', hnostart⟩
    · refine quiet_recv_stop s spawn ?_
      revert hstop
      cases cmd <;> simp [StopReceived]
    · refine quiet_recv (hinv.quiet hsince') hpc spawn ?_
      rintro c rfl
      exact hnostart trivial
  -- a start answers every earlier stop
  refine stopInv_spawn ?_ horder hspawn
  intro hsince
  rcases (since_concat _ _ log _).1 hsince with h | ⟨-, h⟩
  · exact h.elim
  · exact h trivial

/-- Every step keeps that nothing is started after a stop. -/
theorem stopInv_step (hinv : StopInv log s) (h : s.step l = some (t, es)) :
    StopInv (log ++ es) t := by
  cases Supervisor.step_cases h with
  | @loopTop spawn hpc =>
    rcases loopTop_events s spawn with hnil | ⟨n, c, hpending, -, hspawn⟩
    · rw [hnil, List.append_nil]
      exact ⟨fun hsince => quiet_loopTop (hinv.quiet hsince) hpc spawn, hinv.order⟩
    · refine stopInv_spawn ?_ hinv.order hspawn
      intro hsince
      simp [(hinv.quiet hsince).pending] at hpending
  | recv hpc => exact stopInv_recv hinv hpc _ _
  | wakeDone _ hwake =>
    rw [List.append_nil]
    refine ⟨fun hsince => ?_, hinv.order⟩
    have hpending := (hinv.quiet hsince).pending
    simp [Supervisor.wakeDone, hpending] at hwake
  | send hpc hsend =>
    rw [List.append_nil]
    exact ⟨fun hsince => quiet_send (hinv.quiet hsince) hpc hsend, hinv.order⟩
  | session =>
    rw [List.append_nil]
    refine ⟨fun hsince => ?_, hinv.order⟩
    obtain ⟨hpending, hserver, hrestart⟩ := hinv.quiet hsince
    exact ⟨hpending, hserver, hrestart⟩

/-- The session has let go of what it held: its receiver, the identity lock, and its endpoint, if
it had bound one. That was closed, or dropped as it was once its close had been given up. -/
structure LetGo (ls : List SupervisorLabel) (i : Nat) (x : Session) : Prop where
  rx : x.rxOpen = false
  lock : x.lock = false
  endpoint : x.endpoint = .unbound ∨ x.endpoint = .closed ∨ x.endpoint = .dropped ∧ GaveUp ls i

/-- A session that dropped its receiver has let go of all it held. -/
theorem letGo_of_rx_closed {ls : List SupervisorLabel} (hx : SessionInv x)
    (hclose : CloseInv (GaveUp ls i) x) (hrx : x.rxOpen = false) : LetGo ls i x := by
  obtain ⟨hlock, hreleased⟩ := resources_released_of_rx_closed hx hrx
  refine ⟨hrx, hlock, ?_⟩
  cases hend : x.endpoint with
  | unbound => exact .inl rfl
  | closed => exact .inr (.inl rfl)
  | dropped => exact .inr (.inr ⟨rfl, hclose.dropped hend⟩)
  | bound | closing => simp [hend, EndpointState.released] at hreleased

/-- **One server session at a time, and none after a stop.** In every run at most one session
exists; a session is started only when every earlier one has let go of its receiver, the identity
lock and its endpoint, which is closed unless the close was given up after five seconds; and between
a received `StopServer` or `RemoveServer` and a later spawn a `StartServer` was received. -/
theorem one_server_session {ls : List SupervisorLabel} {s : Supervisor}
    {log : List SupervisorEvent} (hrun : supervisor.run {} ls = some (s, log)) :
    (∀ (i j : Nat) (x y : Session), s.sessions[i]? = some x → s.sessions[j]? = some y →
      Alive x → Alive y → i = j) ∧
    (∀ l t es n c, supervisor.step s l = some (t, es) → SupervisorEvent.spawned n c ∈ es →
      ∀ (i : Nat) (x : Session), s.sessions[i]? = some x → LetGo ls i x) ∧
    Unless StopReceived StartReceived SessionSpawned log := by
  have hs := supervisorInv_run hrun
  refine ⟨?_, ?_, ?_⟩
  · intro i j x y hi hj hx hy
    have hxi := hs.current i x hi (rxOpen_of_alive (hs.sessions x (List.mem_of_getElem? hi)) hx)
    have hyj := hs.current j y hj (rxOpen_of_alive (hs.sessions y (List.mem_of_getElem? hj)) hy)
    exact Option.some.inj (hxi.symm.trans hyj)
  · intro l t es n c hstep hes i x hi
    have hx := List.mem_of_getElem? hi
    exact letGo_of_rx_closed (hs.sessions x hx) (closeInv_run hrun hi)
      (all_closed_of_spawned hs hstep hes x hx)
  · exact (supervisor.log_rule (P := StopInv) (fun _ _ _ _ _ hinv h => stopInv_step hinv h)
      ⟨fun h => absurd h (not_since_nil _ _), unless_nil _ _ _⟩ hrun).order

/-! ## A restart -/

def savedServer (clients : List AuthorizedClient) : ServerConfig where
  endpointId := "server"
  secret := "secret"
  authorizedClients := clients
  routedDomains := ["*"]
  routedCidrs := []
  relayUrls := []
  relayAuthToken := none
  enabled := true

def startUp (config : ServerConfig) : List SupervisorLabel :=
  [.loopTop (.ok ()), .recv (.startServer config) (.ok ()), .session 0 .runtimeBuilt,
    .session 0 .enter, .session 0 (.optionsRead (.ok ())), .session 0 (.lockAcquired (.ok ())),
    .session 0 (.prepared (.ok ())), .session 0 (.bindFinished (.ok ())),
    .session 0 (.bindJoined 0), .loopTop (.ok ())]

def windDownBy (close : SessionLabel) : List SupervisorLabel :=
  [.session 0 .recv, .session 0 close, .session 0 .finish, .session 0 .dropRunning,
    .session 0 .dropLock, .session 0 .dropRx]

def windDown : List SupervisorLabel := windDownBy .closeDone

/-- The running session is restarted and winds down, up to where the next one is started. -/
def restartBy (close : SessionLabel) : List SupervisorLabel :=
  startUp (savedServer []) ++
    [.recv (.restartServer (savedServer [])) (.ok ()), .send, .loopTop (.ok ())] ++
    windDownBy close ++ [.session 0 .sendDone, .wakeDone]

def restartLog : List SupervisorEvent :=
  [.received 0 (.startServer (savedServer [])) none, .spawned 0 (savedServer []),
    .received 1 (.restartServer (savedServer [])) none, .spawned 1 (savedServer [])]

/-- The restart meets the rules: the second session is spawned on the first one's end,
and no stop precedes it. -/
theorem one_server_session_restart :
    ∃ s, supervisor.run {} (restartBy .closeDone ++ [.loopTop (.ok ())]) = some (s, restartLog) ∧
      Unless StopReceived StartReceived SessionSpawned restartLog := by
  have hlog : (supervisor.run {} (restartBy .closeDone ++ [.loopTop (.ok ())])).map Prod.snd =
      some restartLog := by decide
  obtain ⟨s, hrun⟩ := supervisor.exists_run_of_log hlog
  exact ⟨s, hrun, (one_server_session hrun).2.2⟩

/-- The first session's close runs into its limit of five seconds. Its endpoint is dropped without
having been closed, and the second session is started. -/
theorem started_over_unclosed :
    ∃ s t log x, supervisor.run {} (restartBy .closeTimedOut) = some (s, log) ∧
      supervisor.step s (.loopTop (.ok ())) = some (t, [.spawned 1 (savedServer [])]) ∧
      s.sessions[0]? = some x ∧ x.endpoint = .dropped ∧ x.endpoint ≠ .closed :=
  ⟨_, _, _, _, rfl, rfl, rfl, rfl, by decide⟩

end Flextunnel.Analysis
