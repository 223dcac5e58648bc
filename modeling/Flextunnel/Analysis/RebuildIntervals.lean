import Flextunnel.Analysis.RetryCap

/-!
# The interval between rebuilds

When attempts keep failing, the connection manager rebuilds the endpoint from scratch. That takes
three failures in a row, which a success and a fresh backoff series both start again, and half an
hour since the last rebuild of the outage, which only a success forgets.
-/

set_option autoImplicit false

namespace Flextunnel.Analysis

open Lib Model

def isRebuild : ClientMark → Bool
  | .inr (.rebuild _) => true
  | _ => false

/-- Two rebuilds with no success between them are at least the interval apart.
SOURCE: core/proxy/client.rs:48-58 -/
def RebuildsApart (log : List ClientMark) : Prop :=
  ∀ pre time mid time' post,
    log = pre ++ .inr (.rebuild time) :: (mid ++ .inr (.rebuild time') :: post) →
      (∀ e ∈ mid, isSuccess e = false) → time + rebuildEndpointMinInterval ≤ time'

/-- Before a rebuild there are enough failures, all of them recoverable, with no success and no
reset since the first of them.
SOURCE: core/proxy/client.rs:39-47 -/
def RebuildsWarranted (log : List ClientMark) : Prop :=
  ∀ pre time post, log = pre ++ .inr (.rebuild time) :: post →
    ∃ earlier recent, pre = earlier ++ recent ∧
      (∀ e ∈ recent, isSuccess e = false ∧ isReset e = false) ∧
      rebuildEndpointAttempts ≤ recent.countP isFailure ∧
      ∀ e, .inr (.failed e) ∈ recent → e.isRecoverable = true

section

variable {ctx : ClientCtx} {s t u : Client} {log : List ClientMark}

/-! ## Failures -/

variable {e : ProxyError} {es : List ClientEvent} {jitterMs : Nat} {l : ManagerLabel}

/-- A failure that is retried was recoverable. -/
theorem handleFailure_outcome (h : s.handleFailure ctx e jitterMs = (t, es)) :
    t.lastRebuild = s.lastRebuild ∧
      (t.isRunning = false ∧ es = [.failed e, .ended (some e)] ∨
        es = [.failed e] ∧ e.isRecoverable = true ∧ t.attempt ≤ s.attempt + 1) := by
  unfold Client.handleFailure at h
  split at h
  · cases h
    exact ⟨rfl, .inl ⟨rfl, rfl⟩⟩
  next hretry =>
    have hrecoverable : e.isRecoverable = true := by simp_all
    dsimp only at h
    split at h <;> cases h
    · exact ⟨rfl, .inl ⟨rfl, rfl⟩⟩
    · exact ⟨rfl, .inr ⟨rfl, hrecoverable, Nat.mod_le _ _⟩⟩

theorem failsWith_keeps (h : FailsWith ctx s l u e jitterMs) :
    s.isRunning = true ∧ u.attempt = s.attempt ∧ u.lastRebuild = s.lastRebuild ∧
      isReset (.inl (.manager l)) = false := by
  cases h with
  | addr hpc | connect hpc | brokenOff hpc | maintained hpc =>
    exact ⟨by rw [Client.isRunning, hpc], rfl, rfl, rfl⟩
  | @response conn bytes e jitterMs hpc =>
    obtain ⟨tracker, duplicateServer, routes, heq⟩ := s.handshake_cases ctx bytes
    exact ⟨by rw [Client.isRunning, hpc], by rw [heq], by rw [heq], rfl⟩

theorem failures_append {es : List ClientMark}
    (hes : ∀ e ∈ es, isSuccess e = false ∧ isReset e = false) :
    failures (log ++ es) = failures log + es.countP isFailure := by
  unfold failures
  rw [afterLast_append log fun e he => by simp [hes e he], List.countP_append]

/-! ## The manager's variables -/

/-- The manager's counter is at most the failures since the last success or reset, and
`last_rebuild` is the latest of the rebuilds since the last success. -/
structure Rebuilds (log : List ClientMark) (s : Client) : Prop where
  attempt : s.isRunning = true → s.attempt ≤ failures log
  recoverable : s.isRunning = true → ∀ e, .inr (.failed e) ∈ log → e.isRecoverable = true
  latest : ∀ time, .inr (.rebuild time) ∈ afterLast isSuccess log →
    ∃ last, s.lastRebuild = some last ∧ time ≤ last
  apart : RebuildsApart log
  warranted : RebuildsWarranted log

theorem Rebuilds.apart_append {es : List ClientMark} (hs : Rebuilds log s)
    (hes : ∀ e ∈ es, isRebuild e = false) :
    RebuildsApart (log ++ es) ∧ RebuildsWarranted (log ++ es) := by
  have hnew {before : List ClientMark} {time : Nat} {post : List ClientMark}
      (h : es = before ++ .inr (.rebuild time) :: post) : False := by
    have hno := hes (.inr (.rebuild time)) (by simp [h])
    simp [isRebuild] at hno
  constructor
  · intro pre time mid time' post hlog hmid
    have hsplit : log ++ es = (pre ++ .inr (.rebuild time) :: mid) ++
        .inr (.rebuild time') :: post := by simpa using hlog
    rcases split_append hsplit with ⟨post', -, hold⟩ | ⟨before, -, hes'⟩
    · exact hs.apart pre time mid time' post' (by simpa using hold) hmid
    · exact (hnew hes').elim
  · intro pre time post hlog
    rcases split_append hlog with ⟨post', -, hold⟩ | ⟨before, -, hes'⟩
    · exact hs.warranted pre time post' hold
    · exact (hnew hes').elim

/-- Marks that are neither a success nor a rebuild keep what is known. -/
theorem Rebuilds.append {es : List ClientMark} (hs : Rebuilds log s)
    (hes : ∀ e ∈ es, isSuccess e = false ∧ isRebuild e = false)
    (hrunning : t.isRunning = true → s.isRunning = true)
    (hattempt : t.isRunning = true → t.attempt ≤ failures (log ++ es))
    (hrecoverable : t.isRunning = true → ∀ e, .inr (.failed e) ∈ es → e.isRecoverable = true)
    (hlast : t.lastRebuild = s.lastRebuild) : Rebuilds (log ++ es) t := by
  obtain ⟨hapart, hwarranted⟩ := hs.apart_append fun e he => (hes e he).2
  refine ⟨hattempt, ?_, ?_, hapart, hwarranted⟩
  · intro h e he
    exact (List.mem_append.1 he).elim (hs.recoverable (hrunning h) e) (hrecoverable h e)
  intro time htime
  rw [afterLast_append log fun e he => (hes e he).1] at htime
  rw [hlast]
  refine hs.latest time ((List.mem_append.1 htime).resolve_right fun hnew => ?_)
  have hno := (hes _ hnew).2
  simp [isRebuild] at hno

def Unrelated (e : ClientMark) : Prop :=
  isFailure e = false ∧ isSuccess e = false ∧ isReset e = false ∧ isRebuild e = false

theorem Rebuilds.unrelated {es : List ClientMark} (hs : Rebuilds log s)
    (hes : ∀ e ∈ es, Unrelated e) (hrunning : t.isRunning = true → s.isRunning = true)
    (hattempt : t.attempt = s.attempt) (hlast : t.lastRebuild = s.lastRebuild) :
    Rebuilds (log ++ es) t := by
  refine hs.append (fun e he => ⟨(hes e he).2.1, (hes e he).2.2.2⟩) hrunning ?_ ?_ hlast
  · intro h
    rw [failures_append fun e he => ⟨(hes e he).2.1, (hes e he).2.2.1⟩, hattempt]
    exact (hs.attempt (hrunning h)).trans (Nat.le_add_right _ _)
  · intro _ e he
    have hno := (hes _ he).1
    simp [isFailure] at hno

/-- A failure adds to the counter at most one. -/
theorem Rebuilds.failed (hs : Rebuilds log s) (hfail : FailsWith ctx s l u e jitterMs)
    (hresult : u.handleFailure ctx e jitterMs = (t, es)) :
    Rebuilds (log ++ .inl (.manager l) :: es.map .inr) t := by
  obtain ⟨hrunning, hu, hlast, hreset⟩ := failsWith_keeps hfail
  obtain ⟨ht, hout⟩ := handleFailure_outcome hresult
  have hle := hs.attempt hrunning
  refine hs.append ?_ (fun _ => hrunning) ?_ ?_ (ht.trans hlast)
  · rcases hout with ⟨-, rfl⟩ | ⟨rfl, -⟩ <;> simp [isSuccess, isRebuild]
  · intro h
    rcases hout with ⟨hstop, -⟩ | ⟨rfl, -, hnext⟩
    · simp [hstop] at h
    rw [failures_append (by simpa [isSuccess] using ⟨hreset, rfl⟩)]
    have hcount : (.inl (.manager l) :: [.failed e].map .inr : List ClientMark).countP
        isFailure = 1 := rfl
    omega
  · intro h e' he'
    rcases hout with ⟨hstop, -⟩ | ⟨rfl, hrecoverable, -⟩
    · simp [hstop] at h
    · obtain rfl : e' = e := by simpa using he'
      exact hrecoverable

/-- A rebuild that is due is warranted and apart from the earlier ones. -/
theorem Rebuilds.rebuild (hs : Rebuilds log s) (hrunning : s.isRunning = true) {pc : ManagerPc}
    (hdue : rebuildDue s.attempt s.lastRebuild s.now = true) :
    Rebuilds (log ++ [.inr (.rebuild s.now)]) { s with pc, lastRebuild := some s.now } := by
  obtain ⟨hattempts, hinterval⟩ : rebuildEndpointAttempts ≤ s.attempt ∧
      ∀ last, s.lastRebuild = some last → last + rebuildEndpointMinInterval ≤ s.now := by
    simp only [rebuildDue, Bool.and_eq_true, decide_eq_true_eq, Option.all_eq_true] at hdue
    refine ⟨hdue.1, fun last hlast => ?_⟩
    have hwait := hdue.2 last hlast
    have hpos : 0 < rebuildEndpointMinInterval := by decide
    omega
  have hle := hs.attempt hrunning
  -- every earlier rebuild of the outage is an interval back
  have hearlier : ∀ time, .inr (.rebuild time) ∈ afterLast isSuccess log →
      time + rebuildEndpointMinInterval ≤ s.now := by
    intro time htime
    obtain ⟨last, hlast, htl⟩ := hs.latest time htime
    have hwait := hinterval last hlast
    omega
  refine ⟨fun _ => ?_, fun _ e he => ?_, fun time htime => ?_, ?_, ?_⟩
  · rw [failures_append (by simp [isSuccess, isReset])]
    exact hle.trans (Nat.le_add_right _ _)
  · exact hs.recoverable hrunning e (by simpa using he)
  · refine ⟨s.now, rfl, ?_⟩
    rw [afterLast_concat] at htime
    rcases List.mem_append.1 htime with hold | hnew
    · exact Nat.le_of_add_right_le (hearlier time hold)
    · obtain rfl : time = s.now := by simpa using hnew
      exact Nat.le_refl _
  · intro pre time mid time' post hlog hmid
    have hsplit : log ++ [.inr (.rebuild s.now)] = (pre ++ .inr (.rebuild time) :: mid) ++
        .inr (.rebuild time') :: post := by simpa using hlog
    rcases split_concat hsplit with ⟨rfl, hnew, -⟩ | ⟨post', -, hold⟩
    · obtain rfl : s.now = time' := by simpa using hnew
      refine hearlier time ?_
      have hpost : ∀ e ∈ .inr (.rebuild time) :: mid, isSuccess e = false :=
        List.forall_mem_cons.2 ⟨rfl, hmid⟩
      rw [afterLast_append pre hpost]
      simp
    · exact hs.apart pre time mid time' post' (by simpa using hold) hmid
  · intro pre time post hlog
    rcases split_concat hlog with ⟨rfl, -, -⟩ | ⟨post', -, hold⟩
    · obtain ⟨earlier, hsuffix⟩ := afterLast_suffix (fun e => isSuccess e || isReset e) log
      refine ⟨earlier, _, hsuffix.symm, fun e he => ?_, hattempts.trans hle, fun e he => ?_⟩
      · simpa using eq_false_of_mem_afterLast he
      · exact hs.recoverable hrunning e (hsuffix ▸ List.mem_append_right _ he)
    · exact hs.warranted pre time post' hold

/-- A step of the manager keeps what is known of the rebuilds. -/
theorem Rebuilds.managerStep (hs : Rebuilds log s) (h : ManagerStep ctx s l t es) :
    Rebuilds (log ++ .inl (.manager l) :: es.map .inr) t := by
  have hlabel {l : ManagerLabel} (hl : isReset (.inl (.manager l)) = false) :
      ∀ e ∈ [(.inl (.manager l) : ClientMark)], Unrelated e := by
    simpa [Unrelated, isFailure, isSuccess, isRebuild] using hl
  cases h with
  | clear hpc | timer hpc | pathLost hpc | beginWait hpc =>
    exact hs.unrelated (hlabel rfl) (fun _ => by rw [Client.isRunning, hpc]) rfl rfl
  | publishPolicy hpc | publishConn hpc | connected hpc | returned hpc =>
    refine hs.unrelated ?_ (fun _ => by rw [Client.isRunning, hpc]) rfl rfl
    simp [Unrelated, isFailure, isSuccess, isReset, isRebuild]
  | nudge hpc =>
    refine hs.unrelated ?_ (fun _ => by rw [Client.isRunning, hpc]) rfl rfl
    split <;> simp [Unrelated, isFailure, isSuccess, isReset, isRebuild]
  | rebuild hpc hdue =>
    have hrunning : s.isRunning = true := by rw [Client.isRunning, hpc]
    have hbefore := hs.unrelated (t := s) (hlabel (l := .repair) rfl) id rfl rfl
    simpa using hbefore.rebuild hrunning hdue
  | failed hfail _ hresult => exact hs.failed hfail hresult
  | foregrounded hpc | pathReturned hpc =>
    refine hs.append ?_ (fun _ => by rw [Client.isRunning, hpc]) (fun _ => Nat.zero_le _) ?_ rfl
    · simp [isSuccess, isRebuild]
    · simp
  | @accepted conn jitterMs bytes response routedSet hpc hshake =>
    have hrunning : s.isRunning = true := by rw [Client.isRunning, hpc]
    have hno : ∀ e ∈ (.inl (.manager (.response bytes jitterMs)) ::
        [.accepted conn response routedSet].map .inr : List ClientMark),
        isRebuild e = false := by simp [isRebuild]
    obtain ⟨hapart, hwarranted⟩ := hs.apart_append hno
    refine ⟨fun _ => Nat.zero_le _, fun _ e he => hs.recoverable hrunning e ?_, ?_, hapart,
      hwarranted⟩
    · simpa using he
    -- the outage is over: no rebuild has come since
    intro time htime
    rw [show log ++ .inl (.manager (.response bytes jitterMs)) ::
          [.accepted conn response routedSet].map .inr =
        log ++ [.inl (.manager (.response bytes jitterMs))] ++
          [.inr (.accepted conn response routedSet)] by simp, afterLast_concat] at htime
    simp [isSuccess] at htime

/-- Every step keeps what is known of the rebuilds. -/
theorem Rebuilds.step {l : ClientLabel} (hs : Rebuilds log s) (h : ClientStep ctx s l t es) :
    Rebuilds (log ++ .inl l :: es.map .inr) t := by
  cases h with
  | manager h => exact hs.managerStep h
  | aside background networkAvailable localClose now conns hl hes =>
    refine hs.unrelated ?_ id rfl rfl
    intro e he
    rcases List.mem_cons.1 he with rfl | he
    · cases l with
      | manager ml => exact absurd rfl (hl ml)
      | _ => exact ⟨rfl, rfl, rfl, rfl⟩
    · obtain ⟨e', he', rfl⟩ := List.mem_map.1 he
      have hlocal := hes e' he'
      cases e' <;> first | exact ⟨rfl, rfl, rfl, rfl⟩ | exact hlocal.elim
  | aborted hrunning =>
    refine hs.unrelated ?_ (fun _ => hrunning) rfl rfl
    simp [Unrelated, isFailure, isSuccess, isReset, isRebuild]

/-- **Rebuilds are warranted and apart.** In every run, two rebuilds with no successful handshake
between them begin at least the interval apart, whether or not the backoff series was started again;
and before each one there are at least three recoverable failures with no success and no fresh
series among them or since. -/
theorem rebuilds_apart_and_warranted {ls : List ClientLabel} (hinit : (proxyClient ctx).init s)
    (hrun : (proxyClient ctx).logged.run s ls = some (t, log)) :
    RebuildsApart log ∧ RebuildsWarranted log := by
  have hinv : Rebuilds log t := by
    refine (proxyClient ctx).logged.log_rule (P := Rebuilds) ?_ ?_ hrun
    · intro log s l t es hs h
      obtain ⟨es', hstep, rfl⟩ := (proxyClient ctx).logged_step_eq_some.1 h
      exact hs.step (clientStep_of_step hstep)
    obtain ⟨-, hattempt, -⟩ := hinit
    refine ⟨fun _ => by simp [hattempt], by simp, by simp, ?_, ?_⟩
    · simp [RebuildsApart]
    · simp [RebuildsWarranted]
  exact ⟨hinv.apart, hinv.warranted⟩

end

/-! ## An outage with two rebuilds -/

def patient : ClientCtx := { retryOnce with config := ⟨"server", [], true, none⟩ }

def failsAndSleeps (d : Nat) : List ClientLabel :=
  failedAttempt ++ [.manager .beginWait, .tick d, .manager .timer]

def longOutage : List ClientLabel :=
  failsAndSleeps (60 * second) ++ failsAndSleeps (60 * second) ++ failsAndSleeps (60 * second) ++
    failsAndSleeps (1800 * second) ++ [.manager .clear, .manager .repair]

def rebuildTimes (log : List ClientMark) : List Nat :=
  log.filterMap fun
    | .inr (.rebuild time) => some time
    | _ => none

theorem rebuilds_apart_and_warranted_outage :
    ∃ t log, (proxyClient patient).logged.run (startedClient none) longOutage = some (t, log) ∧
      rebuildTimes log = [180 * second, 1980 * second] ∧ RebuildsApart log ∧
      RebuildsWarranted log := by
  have htimes : ((proxyClient patient).logged.run (startedClient none) longOutage).map
      (fun r => rebuildTimes r.2) = some [180 * second, 1980 * second] := rfl
  obtain ⟨⟨t, log⟩, hrun, hlog⟩ := Option.map_eq_some_iff.1 htimes
  exact ⟨t, log, hrun, hlog, rebuilds_apart_and_warranted ⟨rfl, rfl, rfl, rfl, rfl, rfl⟩ hrun⟩

end Flextunnel.Analysis
