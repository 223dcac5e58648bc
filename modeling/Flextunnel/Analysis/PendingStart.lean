import Flextunnel.Analysis.OneServerSession

/-!
# Which config a restart starts

A config that waits for the old session's end is held in `pending_start`; a newer
`StartServer` or `RestartServer` is meant to replace it, so that a client revoked
meanwhile is not authorized by the session that starts next.

It is replaced only while the old session's channel is still open. The loop looks at
the channel twice: at its top and again after a receive. When the session ends between
the two, the second check forgets the handle while the config still waits; the arm of
`RestartServer` then drops the new config, and the arm of `StartServer` starts it beside the
waiting one, which is started later.
-/

set_option autoImplicit false

namespace Flextunnel.Analysis

open Lib Model

/-- `a` brought a config while config number `i` was waiting, and `b` starts number `i`
all the same. -/
def Superseded (a b : SupervisorEvent) : Prop :=
  ∃ j cmd i c, a = .received j cmd (some i) ∧ cmd.config?.isSome = true ∧ b = .spawned i c

/-- `b` starts a config at least as new as the one `a` brought for a waiting config. -/
def StartsNewer (a b : SupervisorEvent) : Prop :=
  ∀ j cmd i k c, a = .received j cmd (some i) → cmd.config?.isSome = true →
    b = .spawned k c → i < j ∧ j ≤ k

/-- `b` starts the config that command `a` carried. -/
def CarriedBy (a b : SupervisorEvent) : Prop :=
  ∃ n cmd p c, a = .received n cmd p ∧ cmd.config? = some c ∧ b = .spawned n c

/-- A command with a config, received while another config waits, finds the channel of
the old session still open. -/
def FindsOpen (s : Supervisor) : SupervisorLabel → Prop
  | .recv cmd _ => cmd.config?.isSome = true → s.pendingStart.isSome = true →
      s.server.any s.closed = false
  | _ => True

instance (s : Supervisor) (l : SupervisorLabel) : Decidable (FindsOpen s l) :=
  match l with
  | .recv _ _ => inferInstanceAs (Decidable (_ → _ → _))
  | .loopTop _ | .wakeDone | .send | .session _ _ => .isTrue trivial

/-! ## The waiting config is the newest -/

/-- Config number `i` is at least as new as every command that found a config
waiting, and command `i` carried it. -/
structure Newest (log : List SupervisorEvent) (s : Supervisor) (i : Nat) (c : ServerConfig) :
    Prop where
  lt : i < s.received
  le : ∀ j cmd p, SupervisorEvent.received j cmd (some p) ∈ log → cmd.config?.isSome = true → j ≤ i
  carried : ∃ cmd p, SupervisorEvent.received i cmd p ∈ log ∧ cmd.config? = some c

/-- Where a config can wait: with a session that is being stopped, or right
before the top of the loop starts it. -/
def MayWait (s : Supervisor) : Prop :=
  match s.pc with
  | .top => s.server = none ∨ s.stopping = true
  | .waiting => s.server.isSome = true ∧ s.stopping = true
  | .sending .shutdown => True
  | .sending _ => False
  | .stopped => True
  | .panicked => True

structure PendingInv (log : List SupervisorEvent) (s : Supervisor) : Prop where
  numbers : ∀ j cmd p, SupervisorEvent.received j cmd p ∈ log →
    j < s.received ∧ ∀ i, p = some i → i < j
  pending : ∀ i c, s.pendingStart = some (i, c) → Newest log s i c ∧ MayWait s
  sending : ∀ i c, s.pc = .sending (.restart i c) → Newest log s i c
  order : log.Pairwise StartsNewer
  carried : Preceded SessionSpawned CarriedBy log

variable {log : List SupervisorEvent} {s t : Supervisor} {c : ServerConfig} {cmd : Command}
    {spawn : Except String Unit}

/-- A step that receives and starts nothing keeps the invariant if nothing new waits. -/
theorem pendingInv_frame (hinv : PendingInv log s) (hreceived : t.received = s.received)
    (hpending : t.pendingStart = none ∨ (t.pendingStart = s.pendingStart ∧ (MayWait s → MayWait t)))
    (hsending : ∀ i c, t.pc = .sending (.restart i c) → s.pc = .sending (.restart i c)) :
    PendingInv log t := by
  have hnewest : ∀ {i c}, Newest log s i c → Newest log t i c := by
    intro i c h
    exact ⟨by rw [hreceived]; exact h.lt, h.le, h.carried⟩
  refine ⟨?_, ?_, ?_, hinv.order, hinv.carried⟩
  · rw [hreceived]
    exact hinv.numbers
  · intro i c hic
    rcases hpending with hnone | ⟨hsame, hwait⟩
    · simp [hnone] at hic
    · obtain ⟨hnew, hs⟩ := hinv.pending i c (hsame ▸ hic)
      exact ⟨hnewest hnew, hwait hs⟩
  · intro i c hic
    exact hnewest (hinv.sending i c (hsending i c hic))

/-- Starting the newest config keeps the invariant. -/
theorem pendingInv_spawned {n : Nat} (hinv : PendingInv log s) (hnew : Newest log s n c) :
    PendingInv (log ++ [.spawned n c]) s := by
  have hnewest : ∀ {i c'}, Newest log s i c' → Newest (log ++ [.spawned n c]) s i c' := by
    intro i c' h
    obtain ⟨cmd, p, hmem, hcmd⟩ := h.carried
    refine ⟨h.lt, ?_, ⟨cmd, p, by simp [hmem], hcmd⟩⟩
    intro j cmd' p' hmem'
    exact h.le j cmd' p' (by simpa using hmem')
  refine ⟨?_, ?_, ?_, ?_, ?_⟩
  · intro j cmd p hmem
    exact hinv.numbers j cmd p (by simpa using hmem)
  · intro i c' hic
    exact (hinv.pending i c' hic).imp hnewest id
  · intro i c' hic
    exact hnewest (hinv.sending i c' hic)
  · refine List.pairwise_append.2 ⟨hinv.order, List.pairwise_singleton _ _, ?_⟩
    rintro a ha b hb j cmd i k c' rfl hcmd rfl
    obtain ⟨rfl, -⟩ : k = n ∧ c' = c := by simpa using hb
    exact ⟨(hinv.numbers j cmd _ ha).2 i rfl, hnew.le j cmd i ha hcmd⟩
  · refine hinv.carried.append ?_
    intro b hb _
    obtain rfl : b = .spawned n c := by simpa using hb
    obtain ⟨cmd, p, hmem, hcmd⟩ := hnew.carried
    exact ⟨_, hmem, n, cmd, p, c, rfl, hcmd, rfl⟩

/-- A received command keeps the invariant if it is its own config that waits from now on. -/
theorem pendingInv_received (hinv : PendingInv log s) (hreceived : t.received = s.received + 1)
    (hpending : ∀ i c, t.pendingStart = some (i, c) → MayWait t ∧
      ((i = s.received ∧ cmd.config? = some c) ∨
        (cmd.config? = none ∧ s.pendingStart = some (i, c))))
    (hsending : ∀ i c, t.pc = .sending (.restart i c) → i = s.received ∧ cmd.config? = some c) :
    PendingInv (log ++ [.received s.received cmd (s.pendingStart.map Prod.fst)]) t := by
  have hnumbers : ∀ j cmd' p, SupervisorEvent.received j cmd' p ∈
      log ++ [.received s.received cmd (s.pendingStart.map Prod.fst)] →
      j < t.received ∧ ∀ i, p = some i → i < j := by
    intro j cmd' p hmem
    rcases List.mem_append.1 hmem with hmem | hmem
    · obtain ⟨hlt, hp⟩ := hinv.numbers j cmd' p hmem
      exact ⟨by omega, hp⟩
    obtain ⟨rfl, rfl, rfl⟩ : j = s.received ∧ cmd' = cmd ∧
        p = s.pendingStart.map Prod.fst := by simpa using hmem
    refine ⟨by omega, ?_⟩
    intro i hi
    obtain ⟨⟨i', c⟩, hic, rfl⟩ := Option.map_eq_some_iff.1 hi
    exact (hinv.pending i' c hic).1.lt
  -- the new command is the newest of all
  have hfresh : ∀ c, cmd.config? = some c → Newest
      (log ++ [.received s.received cmd (s.pendingStart.map Prod.fst)]) t s.received c := by
    intro c hc
    refine ⟨by omega, ?_, ⟨cmd, s.pendingStart.map Prod.fst, by simp, hc⟩⟩
    intro j cmd' p hmem _
    have := (hnumbers j cmd' _ hmem).1
    omega
  refine ⟨hnumbers, ?_, ?_, ?_, ?_⟩
  · intro i c hic
    obtain ⟨hwait, ⟨rfl, hc⟩ | ⟨hnone, hold⟩⟩ := hpending i c hic
    · exact ⟨hfresh c hc, hwait⟩
    obtain ⟨hlt, hle, cmd', p, hmem, hcmd⟩ := (hinv.pending i c hold).1
    refine ⟨⟨by omega, ?_, cmd', p, by simp [hmem], hcmd⟩, hwait⟩
    intro j cmd'' p' hmem' hcmd'
    rcases List.mem_append.1 hmem' with hmem' | hmem'
    · exact hle j cmd'' p' hmem' hcmd'
    · obtain ⟨-, rfl, -⟩ : j = s.received ∧ cmd'' = cmd ∧
          some p' = s.pendingStart.map Prod.fst := by simpa using hmem'
      simp [hnone] at hcmd'
  · intro i c hic
    obtain ⟨rfl, hc⟩ := hsending i c hic
    exact hfresh c hc
  · refine List.pairwise_append.2 ⟨hinv.order, List.pairwise_singleton _ _, ?_⟩
    rintro a - b hb j cmd' i k c - - rfl
    simp at hb
  · refine hinv.carried.append ?_
    intro b hb hspawned
    obtain rfl : b = .received s.received cmd (s.pendingStart.map Prod.fst) := by simpa using hb
    exact hspawned.elim

/-! ## The steps -/

/-- The top of the loop leaves a config waiting only for a session that is still there. -/
theorem loopTop_pendingStart (s : Supervisor) (spawn : Except String Unit) :
    (s.loopTop spawn).1.pendingStart = none ∨
      (s.server.isSome = true ∧ (s.loopTop spawn).1 = { s with pc := .waiting }) := by
  rcases Supervisor.loopTop_cases s spawn with ⟨heq, hnone⟩ | ⟨n, c, -, -, heq⟩ <;> rw [heq]
  · rcases Supervisor.checkTop_cases s with ⟨handle, hserver, -, hsame⟩ | ⟨-, hgone⟩
    · exact .inr ⟨by simp [hserver], by rw [hsame]⟩
    · refine .inl ?_
      simpa using hnone (by rw [hgone])
  · cases spawn <;> exact .inl rfl

theorem loopTop_received (s : Supervisor) (spawn : Except String Unit) :
    (s.loopTop spawn).1.received = s.received := by
  rcases Supervisor.loopTop_cases s spawn with ⟨heq, -⟩ | ⟨n, c, -, -, heq⟩ <;> rw [heq]
  · exact Supervisor.checkTop_received
  · cases spawn <;> exact Supervisor.checkTop_received

theorem pendingInv_loopTop (hinv : PendingInv log s) (hpc : s.pc = .top)
    (spawn : Except String Unit) : PendingInv (log ++ (s.loopTop spawn).2) (s.loopTop spawn).1 := by
  have hreceived := loopTop_received s spawn
  have hframe : PendingInv log (s.loopTop spawn).1 := by
    refine pendingInv_frame hinv hreceived ?_ (by simp)
    refine (loopTop_pendingStart s spawn).imp id ?_
    rintro ⟨hsome, heq⟩
    rw [heq]
    refine ⟨rfl, fun hwait => ?_⟩
    simp only [MayWait, hpc] at hwait
    exact ⟨hsome, hwait.resolve_left (Option.isSome_iff_ne_none.1 hsome)⟩
  rcases loopTop_events s spawn with hnil | ⟨n, c, hpending, -, hspawn⟩
  · rwa [hnil, List.append_nil]
  · obtain ⟨hlt, hle, hcarried⟩ := (hinv.pending n c hpending).1
    rw [hspawn]
    exact pendingInv_spawned hframe ⟨by rw [hreceived]; exact hlt, hle, hcarried⟩

/-- A config that waits, and a command with a config: the session is being stopped. -/
theorem noteReceived_of_findsOpen (hinv : PendingInv log s) (hpc : s.pc = .waiting)
    (hguard : FindsOpen s (.recv cmd spawn)) (hcmd : cmd.config?.isSome = true) {i : Nat}
    (hic : s.pendingStart = some (i, c)) :
    s.noteReceived.server.isSome = true ∧ s.noteReceived.stopping = true := by
  have hwait := (hinv.pending i c hic).2
  simp only [MayWait, hpc] at hwait
  obtain ⟨hsome, hstopping⟩ := hwait
  obtain ⟨handle, hserver⟩ := Option.isSome_iff_exists.1 hsome
  have hopen : s.closed handle = false := by
    simpa [hserver] using hguard hcmd (by simp [hic])
  have hself : s.checkReceived = s := by
    unfold Supervisor.checkReceived
    simp [hserver, hopen]
  exact ⟨by simp [Supervisor.noteReceived, hself, hserver],
    by simp [Supervisor.noteReceived, hself, hstopping]⟩

theorem pendingStart_eq_none_of_findsOpen (hinv : PendingInv log s) (hpc : s.pc = .waiting)
    (hguard : FindsOpen s (.recv cmd spawn)) (hcmd : cmd.config?.isSome = true)
    (hnot : s.noteReceived.server = none ∨ s.noteReceived.stopping = false) :
    s.noteReceived.pendingStart = none := by
  rw [show s.noteReceived.pendingStart = s.pendingStart from Supervisor.checkReceived_pendingStart]
  cases hic : s.pendingStart with
  | none => rfl
  | some ic =>
    obtain ⟨hsome, hstopping⟩ :=
      noteReceived_of_findsOpen hinv hpc hguard hcmd (i := ic.1) (c := ic.2) hic
    rcases hnot with h | h
    · simp [h] at hsome
    · simp [h] at hstopping

/-- A start or a restart replaces the config that waits. -/
theorem pendingInv_config (hinv : PendingInv log s) (hcmd : cmd.config?.isSome = true)
    (hnone : s.noteReceived.server = none ∨ s.noteReceived.stopping = false →
      s.noteReceived.pendingStart = none) :
    PendingInv
      (log ++ [.received s.received cmd (s.pendingStart.map Prod.fst)] ++
        (s.noteReceived.dispatch s.received spawn cmd).2)
      (s.noteReceived.dispatch s.received spawn cmd).1 := by
  cases cmd with
  | startServer c =>
    simp only [Supervisor.dispatch]
    split
    · split
      next hstopping =>
        rw [List.append_nil]
        refine pendingInv_received hinv rfl ?_ (by simp)
        intro i c' hic
        obtain ⟨rfl, rfl⟩ : s.received = i ∧ c = c' := by simpa using hic
        exact ⟨.inr hstopping, .inl ⟨rfl, rfl⟩⟩
      next hstopping =>
        have hp := hnone (.inr (by simpa using hstopping))
        rw [List.append_nil]
        exact pendingInv_received hinv rfl (by simp [hp]) (by simp)
    next hserver =>
      have hp := hnone (.inl hserver)
      cases spawn with
      | error e =>
        simp only [Supervisor.spawnServer, List.append_nil]
        exact pendingInv_received hinv rfl (by simp [hp]) (by simp)
      | ok u =>
        simp only [Supervisor.spawnServer]
        have hinv' : PendingInv
            (log ++ [.received s.received (.startServer c) (s.pendingStart.map Prod.fst)])
            { s.noteReceived with
              pc := .top
              server := some { session := s.noteReceived.sessions.length }
              sessions := s.noteReceived.sessions ++ [{ config := c }] } :=
          pendingInv_received hinv rfl (by simp [hp]) (by simp)
        refine pendingInv_spawned hinv'
          ⟨Nat.lt_succ_self _, ?_, .startServer c, s.pendingStart.map Prod.fst, by simp, rfl⟩
        intro j cmd p hmem _
        exact Nat.lt_succ_iff.1 (hinv'.numbers j cmd _ hmem).1
  | restartServer c =>
    simp only [Supervisor.dispatch]
    split
    · split
      next hstopping =>
        rw [List.append_nil]
        refine pendingInv_received hinv rfl ?_ (by simp)
        intro i c' hic
        obtain ⟨-, rfl, rfl⟩ : s.noteReceived.pendingStart.isSome = true ∧
            s.received = i ∧ c = c' := by simpa using hic
        exact ⟨.inr hstopping, .inl ⟨rfl, rfl⟩⟩
      next hstopping =>
        have hp := hnone (.inr (by simpa using hstopping))
        rw [List.append_nil]
        refine pendingInv_received hinv rfl (by simp [hp]) ?_
        intro i c' hic
        obtain ⟨rfl, rfl⟩ : s.received = i ∧ c = c' := by simpa using hic
        exact ⟨rfl, rfl⟩
    next hserver =>
      have hp := hnone (.inl hserver)
      rw [List.append_nil]
      exact pendingInv_received hinv rfl (by simp [hp]) (by simp)
  | _ => cases hcmd

theorem checkReceived_of_mayWait (hpc : s.pc = .waiting) (hwait : MayWait s) :
    s.checkReceived.server = none ∨ s.checkReceived.stopping = true := by
  simp only [MayWait, hpc] at hwait
  rcases Supervisor.checkReceived_cases s with ⟨-, hsame⟩ | ⟨_, _, _, hgone⟩
  · exact .inr (by rw [hsame, hwait.2])
  · exact .inl (by rw [hgone])

theorem pendingInv_recv (hinv : PendingInv log s) (hpc : s.pc = .waiting)
    (hguard : FindsOpen s (.recv cmd spawn)) :
    PendingInv (log ++ (s.recv cmd spawn).2) (s.recv cmd spawn).1 := by
  have hnote : s.noteReceived.pendingStart = s.pendingStart :=
    Supervisor.checkReceived_pendingStart
  have hsplit : log ++ (s.recv cmd spawn).2 =
      log ++ [.received s.received cmd (s.pendingStart.map Prod.fst)] ++
        (s.noteReceived.dispatch s.received spawn cmd).2 := by
    simp [Supervisor.recv]
  rw [hsplit]
  show PendingInv _ (s.noteReceived.dispatch s.received spawn cmd).1
  cases cmd with
  | startServer | restartServer =>
    exact pendingInv_config hinv rfl (pendingStart_eq_none_of_findsOpen hinv hpc hguard rfl)
  | stopServer | removeServer =>
    simp only [Supervisor.dispatch]
    split <;>
      (rw [List.append_nil]
       exact pendingInv_received hinv rfl (by simp) (by simp))
  | profile =>
    simp only [Supervisor.dispatch, List.append_nil]
    refine pendingInv_received hinv rfl ?_ (by simp)
    intro i c hic
    have hold : s.pendingStart = some (i, c) := hnote ▸ hic
    exact ⟨checkReceived_of_mayWait hpc (hinv.pending i c hold).2, .inr ⟨rfl, hold⟩⟩
  | shutdown =>
    simp only [Supervisor.dispatch]
    split <;>
      (rw [List.append_nil]
       refine pendingInv_received hinv rfl ?_ (by simp)
       intro i c hic
       exact ⟨trivial, .inr ⟨rfl, hnote ▸ hic⟩⟩)

theorem pendingInv_send {what : Sending} (hinv : PendingInv log s) (hpc : s.pc = .sending what)
    (h : s.send what = some t) : PendingInv log t := by
  obtain ⟨u, delivered, hu, rfl⟩ := Supervisor.send_cases h
  have hframe : u.pendingStart = s.pendingStart ∧ u.received = s.received := by
    rcases Supervisor.sendCmd_cases hu with rfl | ⟨handle, x, -, -, rfl⟩ <;> exact ⟨rfl, rfl⟩
  obtain ⟨hpending, hreceived⟩ := hframe
  cases what with
  | restart n c =>
    obtain ⟨hlt, hle, hcarried⟩ := hinv.sending n c hpc
    refine ⟨?_, ?_, by simp [Supervisor.afterSend], hinv.order, hinv.carried⟩
    · show ∀ j cmd p, _ → j < u.received ∧ _
      rw [hreceived]
      exact hinv.numbers
    intro i c' hic
    cases hic
    refine ⟨⟨?_, hle, hcarried⟩, .inr rfl⟩
    show n < u.received
    omega
  | stop | remove =>
    -- nothing waits during these two sends
    refine pendingInv_frame hinv hreceived (.inl ?_) (by simp [Supervisor.afterSend])
    show u.pendingStart = none
    rw [hpending]
    cases hic : s.pendingStart with
    | none => rfl
    | some ic =>
      have hwait := (hinv.pending ic.1 ic.2 hic).2
      simp [MayWait, hpc] at hwait
  | shutdown =>
    exact pendingInv_frame hinv hreceived (.inr ⟨hpending, fun _ => trivial⟩)
      (by simp [Supervisor.afterSend])

/-- **Every step under the guard keeps the waiting config the newest.** -/
theorem pendingInv_step {l : SupervisorLabel} {es : List SupervisorEvent} (hguard : FindsOpen s l)
    (hinv : PendingInv log s) (h : s.step l = some (t, es)) : PendingInv (log ++ es) t := by
  cases Supervisor.step_cases h with
  | loopTop hpc => exact pendingInv_loopTop hinv hpc _
  | recv hpc => exact pendingInv_recv hinv hpc hguard
  | wakeDone hpc hwake =>
    rw [List.append_nil]
    obtain ⟨handle, hserver, ⟨-, rfl⟩ | rfl⟩ := Supervisor.wakeDone_cases hwake
    · exact pendingInv_frame hinv rfl (.inr ⟨rfl, fun _ => trivial⟩) (by simp)
    · refine pendingInv_frame hinv rfl (.inr ⟨rfl, fun hwait => ?_⟩) (by simp)
      simp only [MayWait, hpc] at hwait
      exact .inr hwait.2
  | send hpc hsend =>
    rw [List.append_nil]
    exact pendingInv_send hinv hpc hsend
  | session =>
    rw [List.append_nil]
    exact pendingInv_frame hinv rfl (.inr ⟨rfl, id⟩) (fun _ _ => id)

/-- **A superseded config is never started, as long as the old session's end is not missed**: in
every run in which each command with a config that finds another config waiting also finds the old
session's channel open. What is started after such a command is its config or a newer one, and each
session runs the config its command carried. -/
theorem superseded_config_never_started {ls : List SupervisorLabel} {s : Supervisor}
    {log : List SupervisorEvent} (hguard : supervisor.Guarded FindsOpen {} ls)
    (hrun : supervisor.run {} ls = some (s, log)) :
    log.Pairwise (fun a b => ¬ Superseded a b) ∧ log.Pairwise StartsNewer ∧
      Preceded SessionSpawned CarriedBy log := by
  have hinv : PendingInv log s :=
    supervisor.guarded_log_rule (P := PendingInv)
      (fun _ _ _ _ _ hg hinv h => pendingInv_step hg hinv h)
      ⟨by simp, by simp, by simp, List.Pairwise.nil, preceded_nil _ _⟩ hguard hrun
  refine ⟨hinv.order.imp ?_, hinv.order, hinv.carried⟩
  rintro a b hnewer ⟨j, cmd, i, c, ha, hcmd, hb⟩
  have := hnewer j cmd i i c ha hcmd hb
  omega

/-! ## The session's end between the two checks -/

/-- A server that authorizes the laptop, and the same server with the laptop revoked. -/
def withLaptop : ServerConfig := savedServer [{ name := "laptop", publicKey := "laptop-key" }]

def laptopRevoked : ServerConfig := savedServer []

/-- A running server is restarted, and the laptop is revoked before the old session has
wound down. -/
def revokedInTime : List SupervisorLabel :=
  startUp withLaptop ++
    [.recv (.restartServer withLaptop) (.ok ()), .send, .loopTop (.ok ()),
      .recv (.restartServer laptopRevoked) (.ok ()), .loopTop (.ok ())] ++ windDown ++
    [.session 0 .sendDone, .wakeDone, .loopTop (.ok ())]

def revokedInTimeLog : List SupervisorEvent :=
  [.received 0 (.startServer withLaptop) none, .spawned 0 withLaptop,
    .received 1 (.restartServer withLaptop) none,
    .received 2 (.restartServer laptopRevoked) (some 1), .spawned 2 laptopRevoked]

/-- A revocation in time reaches the session that starts next. -/
theorem superseded_config_never_started_in_time :
    ∃ s, supervisor.run {} revokedInTime = some (s, revokedInTimeLog) ∧
      revokedInTimeLog.Pairwise (fun a b => ¬ Superseded a b) := by
  have hlog : (supervisor.run {} revokedInTime).map Prod.snd = some revokedInTimeLog := by decide
  obtain ⟨s, hrun⟩ := supervisor.exists_run_of_log hlog
  exact ⟨s, hrun, (superseded_config_never_started (by decide) hrun).1⟩

/-- The same with the old session's receiver dropped right before the revocation is
received: the second check forgets the session, and the arm drops the new config. -/
def revokedTooLate : List SupervisorLabel :=
  startUp withLaptop ++
    [.recv (.restartServer withLaptop) (.ok ()), .send, .loopTop (.ok ())] ++ windDown ++
    [.recv (.restartServer laptopRevoked) (.ok ()), .loopTop (.ok ())]

def revokedTooLateLog : List SupervisorEvent :=
  [.received 0 (.startServer withLaptop) none, .spawned 0 withLaptop,
    .received 1 (.restartServer withLaptop) none,
    .received 2 (.restartServer laptopRevoked) (some 1), .spawned 1 withLaptop]

/-- A superseded config is started: the laptop was revoked while a restart was waiting,
and the session that starts next authorizes it. -/
theorem superseded_config_started :
    ∃ s, supervisor.run {} revokedTooLate = some (s, revokedTooLateLog) ∧
      ¬ revokedTooLateLog.Pairwise (fun a b => ¬ Superseded a b) := by
  have hlog : (supervisor.run {} revokedTooLate).map Prod.snd = some revokedTooLateLog := by decide
  obtain ⟨s, hrun⟩ := supervisor.exists_run_of_log hlog
  refine ⟨s, hrun, fun hpair => ?_⟩
  have hlast : (revokedTooLateLog.drop 3).Pairwise (fun a b => ¬ Superseded a b) :=
    hpair.drop
  exact (List.pairwise_cons.1 hlast).1 (.spawned 1 withLaptop) (by simp)
    ⟨2, .restartServer laptopRevoked, 1, withLaptop, rfl, rfl, rfl⟩

end Flextunnel.Analysis
