import Flextunnel.Model.ClientSteps

/-!
# The cap on retries

`max_reconnect_attempts` caps the attempts a client makes after a failure, before the next
success. The counter that is compared with the cap is also the exponent of the backoff, and
the events that start a fresh backoff series (the app comes to the foreground, a network path
returns) set it to zero. So the cap counts from the last success or the last of these events,
and so does the number of failures that is reported.
-/

set_option autoImplicit false

namespace Flextunnel.Analysis

open Lib Model

/-! ## What is counted -/

abbrev ClientMark := ClientLabel ⊕ ClientEvent

def isAttempt : ClientMark → Bool
  | .inl (.manager (.connect ..)) => true
  | _ => false

def isFailure : ClientMark → Bool
  | .inr (.failed _) => true
  | _ => false

def isSuccess : ClientMark → Bool
  | .inr (.accepted ..) => true
  | _ => false

/-- A backoff was cut short and a fresh series begins.
SOURCE: core/proxy/client.rs:923-928 -/
def isReset : ClientMark → Bool
  | .inl (.manager .foregrounded) | .inl (.manager .pathReturned) => true
  | _ => false

def failures (log : List ClientMark) : Nat :=
  (afterLast (fun e => isSuccess e || isReset e) log).countP isFailure

def retries (log : List ClientMark) : Nat :=
  ((afterLast (fun e => isSuccess e || isReset e) log).dropWhile fun e => !isFailure e).countP
    isAttempt

theorem failures_concat (log : List ClientMark) (e : ClientMark) :
    failures (log ++ [e]) =
      if isSuccess e || isReset e then 0 else failures log + if isFailure e then 1 else 0 := by
  unfold failures
  rw [afterLast_concat]
  split
  · rfl
  · rw [List.countP_append, List.countP_singleton]

theorem dropWhile_of_no_failure {log : List ClientMark} (h : log.countP isFailure = 0) :
    log.dropWhile (fun e => !isFailure e) = [] := by
  rw [List.dropWhile_eq_nil_iff]
  intro e he
  simpa using List.countP_eq_zero.1 h e he

theorem retries_concat (log : List ClientMark) (e : ClientMark) :
    retries (log ++ [e]) =
      if isSuccess e || isReset e then 0
      else retries log + if isAttempt e = true ∧ 0 < failures log then 1 else 0 := by
  unfold retries failures
  rw [afterLast_concat]
  split
  · rfl
  generalize afterLast _ log = since
  by_cases hnone : since.countP isFailure = 0
  · -- nothing failed yet: what is counted begins with this mark at the earliest
    have hall : ∀ e' ∈ since, (!isFailure e') = true := by
      intro e' he'
      simpa using List.countP_eq_zero.1 hnone e' he'
    rw [List.dropWhile_append_of_pos hall, dropWhile_of_no_failure hnone, hnone]
    have hexclusive : isFailure e = true → isAttempt e = false := by
      rcases e with l | e
      · exact nofun
      · exact fun _ => rfl
    by_cases hfail : isFailure e = true
    · simp [hfail, hexclusive hfail]
    · simp [hfail]
  have hdrop : (since ++ [e]).dropWhile (fun e => !isFailure e) =
      since.dropWhile (fun e => !isFailure e) ++ [e] := by
    rw [List.dropWhile_append, if_neg]
    intro hempty
    rw [List.isEmpty_iff, List.dropWhile_eq_nil_iff] at hempty
    apply hnone
    apply List.countP_eq_zero.2
    intro e' he'
    simpa using hempty e' he'
  rw [hdrop, List.countP_append, List.countP_singleton]
  simp [Nat.pos_of_ne_zero hnone]

def Uncounted (e : ClientMark) : Prop :=
  isAttempt e = false ∧ isFailure e = false ∧ isSuccess e = false ∧ isReset e = false

theorem failures_append_uncounted (log : List ClientMark) {es : List ClientMark}
    (h : ∀ e ∈ es, Uncounted e) :
    failures (log ++ es) = failures log ∧ retries (log ++ es) = retries log := by
  induction es generalizing log with
  | nil => simp
  | cons e es ih =>
    obtain ⟨hattempt, hfail, hsuccess, hreset⟩ := h e List.mem_cons_self
    obtain ⟨hf, hr⟩ := ih (log ++ [e]) fun e' he' => h e' (List.mem_cons_of_mem _ he')
    rw [List.append_assoc, List.singleton_append] at hf hr
    rw [hf, hr, failures_concat, retries_concat]
    simp [hattempt, hfail, hsuccess, hreset]

/-- The attempts after a failure, with no success or reset between, are among the retries. -/
theorem countP_le_retries {log pre post : List ClientMark} {f : ClientMark}
    (hlog : log = pre ++ f :: post) (hf : isFailure f = true)
    (hpost : ∀ e ∈ post, isSuccess e = false ∧ isReset e = false) :
    post.countP isAttempt ≤ retries log ∧ 0 < failures log := by
  have hkind : isSuccess f = false ∧ isReset f = false := by
    rcases f with l | e
    · cases hf
    · cases e with
      | failed e => exact ⟨rfl, rfl⟩
      | _ => cases hf
  have hsince : afterLast (fun e => isSuccess e || isReset e) log =
      afterLast (fun e => isSuccess e || isReset e) pre ++ f :: post := by
    rw [hlog]
    apply afterLast_append
    intro e he
    rcases List.mem_cons.1 he with rfl | he
    · simp [hkind]
    · simp [hpost e he]
  unfold retries failures
  rw [hsince]
  generalize afterLast _ pre = before
  constructor
  · -- the first failure is `f` or comes before it
    have hdrop (before : List ClientMark) :
        f :: post <:+ (before ++ f :: post).dropWhile fun e => !isFailure e := by
      induction before with
      | nil => simp [hf]
      | cons e before ih =>
        rw [List.cons_append, List.dropWhile_cons]
        split
        · exact ih
        · exact ⟨e :: before, rfl⟩
    have hcount := (hdrop before).sublist.countP_le (p := isAttempt)
    rw [List.countP_cons] at hcount
    omega
  · rw [List.countP_append, List.countP_cons, if_pos hf]
    omega

/-! ## The counter -/

section Cap

variable {ctx : ClientCtx} {N : { n : Nat // 0 < n ∧ n < 4294967296 }} {s t : Client}
  {log : List ClientMark}

def RetriesAt (log : List ClientMark) : ManagerPc → Prop
  | .handshaking _ => retries log = failures log
  | .publishing .. | .announcing _ | .maintaining _ => failures log = 0
  | .ended _ => True
  | _ => retries log = failures log - 1

/-- While a client runs, its counter and its status are the failures, and these are within
the cap. -/
structure Counts (N : Nat) (log : List ClientMark) (s : Client) : Prop where
  attempt : s.isRunning = true → s.attempt = failures log ∧ failures log ≤ N
  status : s.isRunning = true → (∀ e ∈ afterLast isSuccess log, isReset e = false) →
    s.reconnect.failedAttempts = failures log
  here : RetriesAt log s.pc
  capped : retries log ≤ N

variable {e : ProxyError} {es : List ClientEvent} {jitterMs : Nat} {l : ClientLabel}

/-- A failure ends the client or is counted within the cap. -/
theorem handleFailure_capped (hmax : ctx.config.maxReconnectAttempts = some N)
    (hN : N.1 + 1 < 4294967296) (hattempt : s.attempt ≤ N.1)
    (h : s.handleFailure ctx e jitterMs = (t, es)) :
    (t.pc = .ended (some e) ∧ es = [.failed e, .ended (some e)]) ∨
      ((∃ backoff, t.pc = .waiting backoff) ∧ es = [.failed e] ∧ t.attempt = s.attempt + 1 ∧
        s.attempt + 1 ≤ N.1 ∧ t.reconnect.failedAttempts = s.attempt + 1) := by
  have hwrap : (s.attempt + 1) % 4294967296 = s.attempt + 1 := Nat.mod_eq_of_lt (by omega)
  unfold Client.handleFailure at h
  split at h
  · cases h
    exact .inl ⟨rfl, rfl⟩
  simp only [hwrap, hmax, Option.any_some, decide_eq_true_eq] at h
  split at h <;> cases h
  · exact .inl ⟨rfl, rfl⟩
  next hcap => exact .inr ⟨⟨_, rfl⟩, rfl, rfl, by omega, rfl⟩

theorem isRunning_of_ended {x : Option ProxyError} (h : s.pc = .ended x) : s.isRunning = false := by
  rw [Client.isRunning, h]

/-- When an attempt fails there were as many retries as failures. -/
theorem retries_at_failure {l : ManagerLabel} {u : Client} (hs : Counts N log s)
    (hfail : FailsWith ctx s l u e jitterMs) :
    s.isRunning = true ∧ u.attempt = s.attempt ∧
      failures (log ++ [.inl (.manager l)]) = failures log ∧
      retries (log ++ [.inl (.manager l)]) = failures log := by
  have hhere := hs.here
  rw [failures_concat, retries_concat]
  cases hfail with
  | addr hpc | connect hpc =>
    rw [hpc] at hhere
    refine ⟨by rw [Client.isRunning, hpc], rfl, rfl, ?_⟩
    simp only [RetriesAt] at hhere
    simp only [isSuccess, isReset, isAttempt, Bool.or_self, Bool.false_eq_true, if_false, true_and]
    split <;> omega
  | brokenOff hpc =>
    rw [hpc] at hhere
    exact ⟨by rw [Client.isRunning, hpc], rfl, rfl, hhere⟩
  | @response conn bytes e jitterMs hpc =>
    rw [hpc] at hhere
    obtain ⟨tracker, duplicateServer, routes, heq⟩ := s.handshake_cases ctx bytes
    exact ⟨by rw [Client.isRunning, hpc], by rw [heq], rfl, hhere⟩
  | maintained hpc =>
    rw [hpc] at hhere
    have hzero : retries log = 0 := by
      rw [retries, dropWhile_of_no_failure hhere]
      rfl
    refine ⟨by rw [Client.isRunning, hpc], rfl, rfl, ?_⟩
    have hnone : failures log = 0 := hhere
    simp [isSuccess, isReset, isAttempt, hzero, hnone]

/-- What is not counted keeps the counts. -/
theorem counts_uncounted {es : List ClientMark} (hs : Counts N log s) (hes : ∀ e ∈ es, Uncounted e)
    (hrunning : t.isRunning = true → s.isRunning = true) (hattempt : t.attempt = s.attempt)
    (hstatus : t.reconnect = s.reconnect) (hhere : RetriesAt log s.pc → RetriesAt log t.pc) :
    Counts N (log ++ es) t := by
  obtain ⟨hf, hr⟩ := failures_append_uncounted log hes
  have hat : RetriesAt (log ++ es) t.pc ↔ RetriesAt log t.pc := by
    cases t.pc <;> simp only [RetriesAt, hf, hr]
  constructor
  case attempt =>
    intro h
    rw [hf, hattempt]
    exact hs.attempt (hrunning h)
  case status =>
    intro h hno
    rw [hf, hstatus]
    refine hs.status (hrunning h) fun e he => hno e ?_
    rw [afterLast_append log fun e he => (hes e he).2.2.1]
    exact List.mem_append_left _ he
  case here => exact hat.2 (hhere hs.here)
  case capped => exact hr ▸ hs.capped

/-- A failure keeps the counts. -/
theorem counts_failed {l : ManagerLabel} {u : Client}
    (hmax : ctx.config.maxReconnectAttempts = some N) (hN : N.1 + 1 < 4294967296)
    (hs : Counts N log s) (hfail : FailsWith ctx s l u e jitterMs)
    (hresult : u.handleFailure ctx e jitterMs = (t, es)) :
    Counts N (log ++ .inl (.manager l) :: es.map .inr) t := by
  obtain ⟨hrunning, hu, hf, hr⟩ := retries_at_failure hs hfail
  obtain ⟨hattempt, hle⟩ := hs.attempt hrunning
  -- the counts once the failure itself is logged
  have hf' : failures (log ++ [.inl (.manager l)] ++ [.inr (.failed e)]) = failures log + 1 := by
    rw [failures_concat, hf]
    rfl
  have hr' : retries (log ++ [.inl (.manager l)] ++ [.inr (.failed e)]) = failures log := by
    rw [retries_concat, hr]
    rfl
  rcases handleFailure_capped hmax hN (by omega) hresult with ⟨hpc, rfl⟩ |
      ⟨⟨backoff, hpc⟩, rfl, hnext, hcap, hstatus⟩
  · have hlog : log ++ .inl (.manager l) :: [.failed e, .ended (some e)].map .inr =
        log ++ [.inl (.manager l)] ++ [.inr (.failed e)] ++ [.inr (.ended (some e))] := by simp
    have hend : retries (log ++ [.inl (.manager l)] ++ [.inr (.failed e)] ++
        [.inr (.ended (some e))]) = failures log := by
      rw [retries_concat, hr']
      rfl
    have hstopped : ¬ t.isRunning = true := by simp [isRunning_of_ended hpc]
    rw [hlog]
    exact ⟨fun h => absurd h hstopped, fun h => absurd h hstopped, by rw [hpc]; trivial, by omega⟩
  have hlog : log ++ .inl (.manager l) :: [.failed e].map .inr =
      log ++ [.inl (.manager l)] ++ [.inr (.failed e)] := by simp
  rw [hlog]
  refine ⟨fun _ => ⟨by omega, by omega⟩, fun _ _ => by omega, ?_, by omega⟩
  rw [hpc]
  show retries _ = failures _ - 1
  omega

/-- A success or a reset starts the counts anew. -/
theorem counts_boundary {e : ClientMark} (he : (isSuccess e || isReset e) = true)
    (hattempt : t.attempt = 0) (hstatus : isReset e = true ∨ t.reconnect.failedAttempts = 0)
    (hpc : ∀ log, failures log = 0 → retries log = 0 → RetriesAt log t.pc) :
    Counts N (log ++ [e]) t := by
  have hf : failures (log ++ [e]) = 0 := by
    rw [failures_concat, if_pos he]
  have hr : retries (log ++ [e]) = 0 := by
    rw [retries_concat, if_pos he]
  refine ⟨fun _ => ⟨by omega, by omega⟩, fun _ hno => ?_, hpc _ hf hr, by omega⟩
  rcases hstatus with hreset | hzero
  · have hsuccess : isSuccess e = false := by
      rcases e with l | e
      · rfl
      · cases hreset
    have hmem : e ∈ afterLast isSuccess (log ++ [e]) := by
      rw [afterLast_concat, hsuccess]
      simp
    exact absurd (hno e hmem) (by simp [hreset])
  · omega

/-- A step of the manager keeps the counts. -/
theorem counts_managerStep {l : ManagerLabel} (hmax : ctx.config.maxReconnectAttempts = some N)
    (hN : N.1 + 1 < 4294967296) (hs : Counts N log s) (h : ManagerStep ctx s l t es) :
    Counts N (log ++ .inl (.manager l) :: es.map .inr) t := by
  have hquiet {l : ManagerLabel} {es : List ClientEvent} (hl : Uncounted (.inl (.manager l)))
      (hes : ∀ e ∈ es, Uncounted (.inr e)) :
      ∀ e ∈ (.inl (.manager l) :: es.map .inr : List ClientMark), Uncounted e := by
    simpa using ⟨hl, hes⟩
  have hq : ∀ {l}, isAttempt (.inl (.manager l)) = false → isReset (.inl (.manager l)) = false →
      Uncounted (.inl (.manager l)) := fun ha hr => ⟨ha, rfl, rfl, hr⟩
  cases h with
  | clear hpc | timer hpc | pathLost hpc | beginWait hpc =>
    refine counts_uncounted hs (hquiet (hq rfl rfl) (List.forall_mem_nil _))
      (fun _ => by rw [Client.isRunning, hpc]) rfl rfl fun hhere => ?_
    rw [hpc] at hhere
    first
    | exact hhere
    | (dsimp only; split <;> exact hhere)
  | nudge hpc =>
    refine counts_uncounted hs (hquiet (hq rfl rfl) ?_)
      (fun _ => by rw [Client.isRunning, hpc]) rfl rfl fun hhere => ?_
    · intro e he
      split at he
      · obtain rfl := List.mem_singleton.1 he
        exact ⟨rfl, rfl, rfl, rfl⟩
      · cases he
    · rwa [hpc] at hhere
  | rebuild hpc | publishPolicy hpc | publishConn hpc =>
    refine counts_uncounted hs (hquiet (hq rfl rfl) ?_)
      (fun _ => by rw [Client.isRunning, hpc]) rfl rfl fun hhere => ?_
    · simp [Uncounted, isAttempt, isFailure, isSuccess, isReset]
    · rwa [hpc] at hhere
  | returned hpc =>
    refine counts_uncounted hs (hquiet (hq rfl rfl) ?_) (by simp [Client.isRunning]) rfl rfl
      fun _ => trivial
    simp [Uncounted, isAttempt, isFailure, isSuccess, isReset]
  | @connected jitterMs hpc =>
    obtain ⟨hattempt, hle⟩ := hs.attempt (by rw [Client.isRunning, hpc])
    have hhere := hs.here
    rw [hpc] at hhere
    have hbefore : retries log = failures log - 1 := hhere
    have hf : failures (log ++ [.inl (.manager (.connect (.ok ()) jitterMs))]) = failures log := by
      rw [failures_concat]
      rfl
    have hr : retries (log ++ [.inl (.manager (.connect (.ok ()) jitterMs))]) = failures log := by
      rw [retries_concat]
      simp only [isSuccess, isReset, isAttempt, Bool.or_self, Bool.false_eq_true, if_false,
        true_and]
      split <;> omega
    -- once the attempt is logged the counts stand as at a handshake
    have hlabel : Counts N (log ++ [.inl (.manager (.connect (.ok ()) jitterMs))])
        { s with pc := .handshaking s.nextConn, nextConn := s.nextConn + 1 } := by
      refine ⟨fun _ => ?_, fun _ hno => ?_, ?_, by omega⟩
      · exact ⟨by rw [hf]; exact hattempt, by omega⟩
      · rw [hf]
        refine hs.status (by rw [Client.isRunning, hpc]) fun e he => hno e ?_
        rw [afterLast_concat]
        exact List.mem_append_left _ he
      · show retries _ = failures _
        omega
    have hquiet : ∀ e ∈ [(.inr (.connected s.nextConn s.duplicateServer) : ClientMark)],
        Uncounted e := by
      simp [Uncounted, isAttempt, isFailure, isSuccess, isReset]
    simpa using counts_uncounted hlabel hquiet id rfl rfl id
  | failed hfail _ hresult => exact counts_failed hmax hN hs hfail hresult
  | @accepted conn jitterMs bytes response routedSet hpc hshake =>
    have hlog : log ++ .inl (.manager (.response bytes jitterMs)) ::
          [.accepted conn response routedSet].map .inr =
        log ++ [.inl (.manager (.response bytes jitterMs))] ++
          [.inr (.accepted conn response routedSet)] := by simp
    rw [hlog]
    exact counts_boundary rfl rfl (.inr rfl) fun _ hf _ => hf
  | foregrounded | pathReturned =>
    exact counts_boundary rfl rfl (.inl rfl) fun _ hf hr => by
      show retries _ = failures _ - 1
      omega

/-- Every step keeps the counts. -/
theorem counts_step (hmax : ctx.config.maxReconnectAttempts = some N) (hN : N.1 + 1 < 4294967296)
    (hs : Counts N log s) (h : ClientStep ctx s l t es) :
    Counts N (log ++ .inl l :: es.map .inr) t := by
  cases h with
  | manager h => exact counts_managerStep hmax hN hs h
  | aside background networkAvailable localClose now conns hl hes =>
    refine counts_uncounted hs ?_ id rfl rfl id
    intro e he
    rcases List.mem_cons.1 he with rfl | he
    · cases l with
      | manager ml => exact absurd rfl (hl ml)
      | _ => exact ⟨rfl, rfl, rfl, rfl⟩
    · obtain ⟨e', he', rfl⟩ := List.mem_map.1 he
      have hlocal := hes e' he'
      cases e' <;> first | exact ⟨rfl, rfl, rfl, rfl⟩ | exact hlocal.elim
  | aborted =>
    refine counts_uncounted hs ?_ (by simp [Client.isRunning]) rfl rfl fun _ => trivial
    simp [Uncounted, isAttempt, isFailure, isSuccess, isReset]

/-! ## The end of the run -/

/-- A failure after the last allowed retry ends the run. -/
def GivesUp (N : Nat) (log : List ClientMark) : Prop :=
  ∀ pre f mid e post, log = pre ++ f :: (mid ++ .inr (.failed e) :: post) → isFailure f = true →
    (∀ m ∈ mid, isSuccess m = false ∧ isReset m = false) → mid.countP isAttempt = N →
    ∃ post', post = .inr (.ended (some e)) :: post'

theorem failed_of_mem (h : ClientStep ctx s l t es) (he : .failed e ∈ es) :
    ∃ ml u jitterMs, l = .manager ml ∧ FailsWith ctx s ml u e jitterMs ∧
      u.handleFailure ctx e jitterMs = (t, es) := by
  cases h with
  | manager h =>
    cases h with
    | @failed _ u _ e' jitterMs _ hfail _ hresult =>
      obtain ⟨_, _, _, -, hcase⟩ := u.handleFailure_cases ctx e' jitterMs
      rw [hresult] at hcase
      obtain rfl : e = e' := by
        rcases hcase with ⟨-, rfl⟩ | ⟨-, rfl⟩
        all_goals simpa using he
      exact ⟨_, u, jitterMs, rfl, hfail, hresult⟩
    | nudge =>
      split at he
      all_goals simp at he
    | _ => simp at he
  | aside background networkAvailable localClose now conns hl hes => exact (hes _ he).elim
  | aborted => simp at he

/-- Every step keeps that a failure over the cap ends the run. -/
theorem givesUp_step (hmax : ctx.config.maxReconnectAttempts = some N) (hN : N.1 + 1 < 4294967296)
    (hcounts : Counts N log s) (hs : GivesUp N log) (h : ClientStep ctx s l t es) :
    GivesUp N (log ++ .inl l :: es.map .inr) := by
  intro pre f mid e post hlog hf hmid hcount
  have hsplit : log ++ .inl l :: es.map .inr = (pre ++ f :: mid) ++ .inr (.failed e) :: post := by
    simpa using hlog
  rcases split_append hsplit with ⟨post', rfl, hold⟩ | ⟨before, hpre, hnew⟩
  · obtain ⟨post'', rfl⟩ := hs pre f mid e post' (by simpa using hold) hf hmid hcount
    exact ⟨_, rfl⟩
  have hmem : .failed e ∈ es := by
    have hin : .inr (.failed e) ∈ (.inl l :: es.map .inr : List ClientMark) := by
      rw [hnew]
      simp
    simpa using hin
  obtain ⟨ml, u, jitterMs, rfl, hfail, hresult⟩ := failed_of_mem h hmem
  obtain ⟨hrunning, hu, -, hr⟩ := retries_at_failure hcounts hfail
  obtain ⟨hattempt, hle⟩ := hcounts.attempt hrunning
  have hfirst {rest : List ClientMark} (hrest : .inr (.failed e) ∉ rest)
      (h : [.inl (.manager ml)] ++ .inr (.failed e) :: rest =
        before ++ .inr (.failed e) :: post) : [.inl (.manager ml)] = before ∧ rest = post :=
    ((List.append_cons_inj_of_notMem (by simp) hrest).1 h).imp_right And.right
  rcases handleFailure_capped hmax hN (by omega) hresult with ⟨-, rfl⟩ | ⟨-, rfl, -, hcap, -⟩
  · obtain ⟨-, rfl⟩ := hfirst (by simp) hnew
    exact ⟨[], rfl⟩
  -- the retries since `f` are no more than the counter, which is below the cap
  obtain ⟨rfl, -⟩ := hfirst (by simp) hnew
  have hretries := (countP_le_retries hpre.symm hf hmid).1
  omega

/-- A client that has ended stays so. -/
theorem ended_step (h : ClientStep ctx s l t es) {x : Option ProxyError}
    (hx : s.pc = .ended x ∨ .ended x ∈ es) : t.pc = .ended x := by
  have hout (hrunning : s.isRunning = true) (hx : s.pc = .ended x) : t.pc = .ended x := by
    rw [isRunning_of_ended hx] at hrunning
    cases hrunning
  cases h with
  | manager h =>
    cases h with
    | clear hpc | rebuild hpc | connected hpc | accepted hpc | publishPolicy hpc
    | publishConn hpc | beginWait hpc | timer hpc | pathLost hpc | foregrounded hpc
    | pathReturned hpc => exact hx.elim (hout (by rw [Client.isRunning, hpc])) (by simp)
    | nudge hpc =>
      refine hx.elim (hout (by rw [Client.isRunning, hpc])) fun he => ?_
      split at he
      all_goals simp at he
    | returned hpc =>
      refine hx.elim (hout (by rw [Client.isRunning, hpc])) fun he => ?_
      obtain rfl : x = none := by simpa using he
      rfl
    | @failed _ u _ e jitterMs _ hfail _ hresult =>
      rcases hx with hx | he
      · cases hfail with
        | addr hpc | connect hpc | brokenOff hpc | response hpc | maintained hpc =>
          exact hout (by rw [Client.isRunning, hpc]) hx
      obtain ⟨_, pc, _, heq, hcase⟩ := u.handleFailure_cases ctx e jitterMs
      rw [hresult] at hcase heq
      rcases hcase with ⟨hpc, rfl⟩ | ⟨-, rfl⟩
      · obtain rfl : x = some e := by simpa using he
        rw [(Prod.mk.inj heq).1]
        exact hpc
      · simp at he
  | aside background networkAvailable localClose now conns hl hes =>
    exact hx.elim id fun he => (hes _ he).elim
  | aborted hrunning =>
    refine hx.elim (hout hrunning) fun he => ?_
    obtain rfl : x = none := by simpa using he
    rfl

structure Capped (N : Nat) (log : List ClientMark) (s : Client) : Prop where
  counts : Counts N log s
  givesUp : GivesUp N log
  ended : ∀ x, .inr (.ended x) ∈ log → s.pc = .ended x

/-- The counts hold in every run. -/
theorem capped_of_run {ls : List ClientLabel} (hmax : ctx.config.maxReconnectAttempts = some N)
    (hN : N.1 + 1 < 4294967296) (hinit : (proxyClient ctx).init s) (hfresh : s.reconnect = {})
    (hrun : (proxyClient ctx).logged.run s ls = some (t, log)) : Capped N log t := by
  refine (proxyClient ctx).logged.log_rule (P := Capped N) ?_ ?_ hrun
  · intro log s l t es hs h
    obtain ⟨es', hstep, rfl⟩ := (proxyClient ctx).logged_step_eq_some.1 h
    have hmove := clientStep_of_step hstep
    refine ⟨counts_step hmax hN hs.counts hmove, givesUp_step hmax hN hs.counts hs.givesUp hmove,
      fun x hx => ended_step hmove ?_⟩
    rcases List.mem_append.1 hx with hx | hx
    · exact .inl (hs.ended x hx)
    · exact .inr (by simpa using hx)
  obtain ⟨hpc, hattempt, -⟩ := hinit
  refine ⟨⟨fun _ => ⟨hattempt, Nat.zero_le _⟩, fun _ _ => ?_, ?_, Nat.zero_le _⟩, ?_, ?_⟩
  · rw [hfresh]
    rfl
  · rw [hpc]
    rfl
  · simp [GivesUp]
  · simp

/-- **Since the last success and the last reset, a client makes at most N attempts after a
failure.** The failure that follows the N-th of them ends the session with its error, and while
the session runs and no backoff was reset since the last success, the status reports the
failures since then.

The cap `N = u32::MAX` is left out: the counter wraps before it passes it. -/
theorem retries_capped {ls : List ClientLabel}
    (hmax : ctx.config.maxReconnectAttempts = some N) (hN : N.1 + 1 < 4294967296)
    (hinit : (proxyClient ctx).init s) (hfresh : s.reconnect = {})
    (hrun : (proxyClient ctx).logged.run s ls = some (t, log)) :
    (∀ pre f post, log = pre ++ f :: post → isFailure f = true →
        (∀ e ∈ post, isSuccess e = false ∧ isReset e = false) → post.countP isAttempt ≤ N.1) ∧
      (∀ pre f mid e post, log = pre ++ f :: (mid ++ .inr (.failed e) :: post) →
        isFailure f = true → (∀ m ∈ mid, isSuccess m = false ∧ isReset m = false) →
        mid.countP isAttempt = N.1 →
        (∃ post', post = .inr (.ended (some e)) :: post') ∧ t.pc = .ended (some e)) ∧
      (t.isRunning = true → (∀ e ∈ afterLast isSuccess log, isReset e = false) →
        t.reconnect.failedAttempts = (afterLast isSuccess log).countP isFailure) := by
  obtain ⟨hcounts, hgives, hended⟩ := capped_of_run hmax hN hinit hfresh hrun
  refine ⟨?_, ?_, ?_⟩
  · intro pre f post hlog hf hpost
    exact (countP_le_retries hlog hf hpost).1.trans hcounts.capped
  · intro pre f mid e post hlog hf hmid hcount
    obtain ⟨post', rfl⟩ := hgives pre f mid e post hlog hf hmid hcount
    exact ⟨⟨post', rfl⟩, hended (some e) (by rw [hlog]; simp)⟩
  · intro hrunning hno
    rw [hcounts.status hrunning hno, failures, afterLast_or hno]

end Cap

/-! ## A cap of one -/

def retryOnce : ClientCtx where
  config := ⟨"server", [], true, some ⟨1, by decide⟩⟩
  json := oneResponseJson (.acceptedWith 0 {})
  ipNetwork := .parsing fun _ => none
  validNodeId := fun _ => true
  validRelayUrl := fun _ => true
  debug := id

def failedAttempt : List ClientLabel :=
  [.manager .clear, .manager .repair, .manager (.connect (.error "timed out") 0)]

def sleptBackoff : List ClientLabel := [.manager .beginWait, .tick second, .manager .timer]

/-- The wait before the next attempt, cut short by a network path that goes and returns. -/
def pathBackoff : List ClientLabel :=
  [.setNetworkAvailable false, .manager .beginWait, .setNetworkAvailable true,
    .manager .pathReturned]

def failedMarks (nudged : Bool) : List ClientMark :=
  [.inl (.manager .clear), .inl (.manager .repair)] ++ (if nudged then [.inr .nudge] else []) ++
    [.inl (.manager (.connect (.error "timed out") 0))]

theorem retries_capped_instance :
    ∃ t log, (proxyClient retryOnce).logged.run (startedClient none)
        (failedAttempt ++ sleptBackoff ++ failedAttempt) = some (t, log) ∧
      t.pc = .ended (some (.signaling "timed out")) := by
  have hrun : (proxyClient retryOnce).logged.run (startedClient none)
      (failedAttempt ++ sleptBackoff ++ failedAttempt) =
      some (_, failedMarks false ++ .inr (.failed (.signaling "timed out")) ::
        ((sleptBackoff.map .inl ++ failedMarks true) ++ .inr (.failed (.signaling "timed out")) ::
          [.inr (.ended (some (.signaling "timed out")))])) := rfl
  obtain ⟨-, hends, -⟩ := retries_capped (N := ⟨1, by decide⟩) rfl (by decide)
    ⟨rfl, rfl, rfl, rfl, rfl, rfl⟩ rfl hrun
  exact ⟨_, _, hrun, (hends _ _ _ _ _ rfl rfl (by decide) (by decide)).2⟩

/-- A network path that returns between two failures: the status counts one of them, and a
client that may retry once makes a second retry. -/
theorem retries_exceed_cap :
    retryOnce.config.autoReconnect = true ∧
      retryOnce.config.maxReconnectAttempts.map Subtype.val = some 1 ∧
      (proxyClient retryOnce).init (startedClient none) ∧
      (∃ t log, (proxyClient retryOnce).logged.run (startedClient none)
          (failedAttempt ++ pathBackoff ++ failedAttempt) = some (t, log) ∧
        t.isRunning = true ∧ log.countP isSuccess = 0 ∧ log.countP isFailure = 2 ∧
        t.reconnect.failedAttempts = 1) ∧
      ∃ t pre f post, (proxyClient retryOnce).logged.run (startedClient none)
          (failedAttempt ++ pathBackoff ++ failedAttempt ++ sleptBackoff ++ failedAttempt) =
            some (t, pre ++ f :: post) ∧
        isFailure f = true ∧ post.countP isSuccess = 0 ∧ post.countP isAttempt = 2 := by
  refine ⟨rfl, rfl, ⟨rfl, rfl, rfl, rfl, rfl, rfl⟩, ⟨_, _, rfl, rfl, rfl, rfl, rfl⟩, ?_⟩
  exact ⟨_, failedMarks false, .inr (.failed (.signaling "timed out")), _, rfl, rfl, rfl, rfl⟩

end Flextunnel.Analysis
