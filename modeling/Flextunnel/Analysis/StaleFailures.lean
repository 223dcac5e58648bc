import Flextunnel.Analysis.SetupFailures
import Flextunnel.Model.ForwardPanel

/-!
# Failures of an earlier attempt

The UI's tick switches a forward off when the snapshot has a failed status for its id. The
snapshot may be of a list that the UI has changed since: when a failed forward was switched off
and the user switches it on again before the session has got either list, the next tick finds the
old failure still there and switches it off once more, though no listener of the new attempt has
been started. A snapshot that was published for a list with the latest attempt misleads no tick.
-/

set_option autoImplicit false

namespace Flextunnel.Analysis

open Lib Model Model.ForwardManager

/-! ## What is claimed and when it holds -/

/-- A listener has reported that it failed, and it was started for a list that has the latest
attempt to start the forward. -/
def FailedLatest (log : List PanelEvent) (id : String) (i handle : Nat) : Prop :=
  ∃ change reason, .started i handle id change ∈ log ∧
    .reported i handle (.failed reason) ∈ log ∧
    ∀ attempt, .attempted id attempt ∈ log → attempt ≤ change

/-- A forward is switched off only for a listener of its latest attempt that has failed. -/
def ForLatestAttempt (log : List PanelEvent) : Prop :=
  ∀ pre id i handle post, log = pre ++ .switchedOff id i handle :: post →
    FailedLatest pre id i handle

def isFailed : ForwardState → Bool
  | .failed _ => true
  | _ => false

/-- When a tick finds a failed status for a forward that is on, the forward was not switched on or
edited since the list that the status was published for. -/
def StatusesCurrent (s : ForwardPanel) : PanelLabel → Prop
  | .tick => ∀ p ∈ s.published.statuses, ∀ f ∈ s.ui.forwards, isFailed p.status.state = true →
      f.id = p.status.id → f.enabled = true →
        s.published.revision.attempts p.status.id = s.ui.attempts p.status.id
  | _ => True

/-- A list has a forward on that the list before had not, or not with this port and target. -/
def Renews (old new : List PortForward) (id : String) : Prop :=
  ∀ spec ∈ enabledSpecs new, spec.id = id → spec ∉ enabledSpecs old

/-- What the user switches on was off, and what the user edits gets another port or target, or is
off. -/
def AttemptsAnew (s : ForwardPanel) : PanelLabel → Prop
  | .edit e => ∀ id ∈ e.attempted, ∀ forwards ∈ e.apply s.ui.forwards,
      Renews s.ui.forwards forwards id
  | _ => True

instance decidableStatusesCurrent (s : ForwardPanel) : (label : PanelLabel) →
    Decidable (StatusesCurrent s label)
  | .tick => inferInstanceAs (Decidable (∀ p ∈ s.published.statuses, ∀ f ∈ s.ui.forwards,
      isFailed p.status.state = true → f.id = p.status.id → f.enabled = true →
        s.published.revision.attempts p.status.id = s.ui.attempts p.status.id))
  | .edit _ | .call _ | .receive _ | .deliver | .session _ | .listener _ _ _ => .isTrue trivial

instance decidableRenews (old new : List PortForward) (id : String) :
    Decidable (Renews old new id) :=
  inferInstanceAs (Decidable (∀ spec ∈ enabledSpecs new, spec.id = id → spec ∉ enabledSpecs old))

instance decidableAttemptsAnew (s : ForwardPanel) : (label : PanelLabel) →
    Decidable (AttemptsAnew s label)
  | .edit e => inferInstanceAs (Decidable (∀ id ∈ e.attempted, ∀ forwards ∈ e.apply s.ui.forwards,
      Renews s.ui.forwards forwards id))
  | .tick | .call _ | .receive _ | .deliver | .session _ | .listener _ _ _ => .isTrue trivial

/-! ## The invariant -/

/-- One list follows another: a forward is attempted anew or not at all. -/
def Follows (a b : Revision) : Prop :=
  ∀ id, b.attempts id = a.attempts id ∨ Renews a.forwards b.forwards id

/-- The listeners a session has are for the latest attempts its list knows of, and a state they
share has been reported. -/
structure Supplied (log : List PanelEvent) (x : PanelSession) : Prop where
  idle : x.pc ≠ .running → x.manager.tasks = []
  current : ∀ t ∈ x.manager.tasks, t.spec ∈ enabledSpecs x.revision.forwards ∧
    ∃ change, .started x.number t.handle t.spec.id change ∈ log ∧
      x.revision.attempts t.spec.id ≤ change
  reported : ∀ t ∈ x.tasks, ∀ reason, t.shared.state = .failed reason →
    .reported x.number t.task.handle (.failed reason) ∈ log

/-- A failed status in a snapshot is of a listener that reported it, and that is for the latest
attempt that the list of the snapshot knows of. -/
def Blamed (log : List PanelEvent) (p : Published) : Prop :=
  ∀ e ∈ p.statuses, ∀ reason, e.status.state = .failed reason →
    ∃ change, .started p.session e.handle e.status.id change ∈ log ∧
      .reported p.session e.handle (.failed reason) ∈ log ∧
      p.revision.attempts e.status.id ≤ change

/-- The lists that are under way lead from the session's to the UI's. -/
def UnderWay (s : ForwardPanel) : Prop :=
  ∃ seen, Leads Follows seen (s.queue.map PanelCommand.update) s.ui ∧
    ∀ x ∈ s.handle?, Leads Follows x.revision ((x.queue ++ s.sending.toList).map PanelCmd.update)
      seen

/-- The session is behind the UI by lists that are under way, and the log has what the session, the
snapshot and the UI go by. -/
structure Followed (log : List PanelEvent) (s : ForwardPanel) : Prop where
  underWay : UnderWay s
  supplied : ∀ x ∈ s.session, Supplied log x
  blamed : Blamed log s.published
  attempts : ∀ id attempt, .attempted id attempt ∈ log → attempt ≤ s.ui.attempts id
  latest : ForLatestAttempt log

/-! ## Events -/

section Events

variable {log es : List PanelEvent} {x : PanelSession} {p : Published}

theorem Supplied.mono (h : Supplied log x) : Supplied (log ++ es) x where
  idle := h.idle
  current t ht := by
    obtain ⟨hspec, change, hstarted, hle⟩ := h.current t ht
    exact ⟨hspec, change, List.mem_append_left _ hstarted, hle⟩
  reported t ht reason hstate := List.mem_append_left _ (h.reported t ht reason hstate)

theorem Blamed.mono (h : Blamed log p) : Blamed (log ++ es) p := by
  intro e he reason hstate
  obtain ⟨change, hstarted, hreported, hle⟩ := h e he reason hstate
  exact ⟨change, List.mem_append_left _ hstarted, List.mem_append_left _ hreported, hle⟩

theorem ForLatestAttempt.append (h : ForLatestAttempt log)
    (hes : ∀ id i handle, .switchedOff id i handle ∉ es) : ForLatestAttempt (log ++ es) := by
  intro pre id i handle post heq
  rcases split_append heq with ⟨post', -, hlog⟩ | ⟨mid, -, hmid⟩
  · exact h pre id i handle post' hlog
  · exact absurd (by simp [hmid]) (hes id i handle)

theorem ForLatestAttempt.append_switchedOff (h : ForLatestAttempt log)
    (hnew : ∀ id attempt, .attempted id attempt ∉ es)
    (hes : ∀ id i handle, .switchedOff id i handle ∈ es → FailedLatest log id i handle) :
    ForLatestAttempt (log ++ es) := by
  intro pre id i handle post heq
  rcases split_append heq with ⟨post', -, hlog⟩ | ⟨mid, rfl, hmid⟩
  · exact h pre id i handle post' hlog
  obtain ⟨change, reason, hstarted, hreported, hle⟩ := hes id i handle (by simp [hmid])
  refine ⟨change, reason, List.mem_append_left _ hstarted, List.mem_append_left _ hreported,
    fun attempt hattempt => ?_⟩
  rcases List.mem_append.1 hattempt with hold | hmem
  · exact hle attempt hold
  · exact absurd (by simp [hmid, hmem]) (hnew id attempt)

end Events

/-! ## A list is applied -/

section Apply

variable {log : List PanelEvent} {x : PanelSession} {r : Revision}

/-- A listener that is kept is of a forward that was not attempted in between. -/
theorem Supplied.apply (h : Supplied log x) (hpc : x.pc = .running)
    (hr : r = x.revision ∨ Follows x.revision r) :
    Supplied (log ++ (x.apply r).2) (x.apply r).1 := by
  obtain ⟨htasks, -, -⟩ := tasks_apply x.manager (enabledSpecs r.forwards)
  refine ⟨fun hne => absurd hpc hne, ?_, ?_⟩
  · intro t ht
    have ht' : t ∈ x.manager.tasks.filter (isDesired (enabledSpecs r.forwards)) ++
        x.manager.started (enabledSpecs r.forwards) := htasks ▸ ht
    rcases List.mem_append.1 ht' with hkept | hnew
    · -- a listener that is kept is of a forward that was not attempted
      obtain ⟨hold, hdesired⟩ := List.mem_filter.1 hkept
      have hspec := (mem_of_lastSpec (isDesired_iff.1 hdesired)).1
      obtain ⟨hbefore, change, hstarted, hle⟩ := h.current t hold
      refine ⟨hspec, change, List.mem_append_left _ hstarted, ?_⟩
      rcases hr with rfl | hattempts
      · exact hle
      · rcases hattempts t.spec.id with hsame | hrenews
        · exact hsame ▸ hle
        · exact absurd hbefore (hrenews t.spec hspec rfl)
    · exact ⟨spec_mem_of_apply ht, r.number, List.mem_append_right _ (List.mem_map_of_mem hnew),
        r.attempts_le t.spec.id⟩
  · intro t ht reason hstate
    rcases List.mem_append.1 ht with hold | hnew
    · exact List.mem_append_left _ (h.reported t hold reason hstate)
    · obtain ⟨task, -, rfl⟩ := List.mem_map.1 hnew
      cases hstate

/-- A snapshot of a supplied session blames only listeners that reported a failure. -/
theorem Supplied.blamed (h : Supplied log x) : Blamed log x.publish := by
  intro e he reason hstate
  obtain ⟨task, htask, rfl⟩ := List.mem_map.1 he
  obtain ⟨-, change, hstarted, hle⟩ := h.current task htask
  refine ⟨change, hstarted, ?_, hle⟩
  -- the state was read from the listener's own task
  simp only [PanelSession.stateOf] at hstate
  cases hfind : x.tasks.find? fun t => t.task == task with
  | none => simp [hfind] at hstate
  | some t =>
    obtain rfl : t.task = task := by simpa using List.find?_some hfind
    rw [hfind] at hstate
    exact h.reported t (List.mem_of_find?_eq_some hfind) reason hstate

end Apply

/-! ## A step of the session -/

section Session

variable {log : List PanelEvent} {s : ForwardPanel} {x : PanelSession} {out : PanelOutcome}

theorem mem_handle?_iff : x ∈ s.handle? ↔ s.session = some x ∧ x.pc.rxOpen = true := by
  simp [ForwardPanel.handle?, Option.filter_eq_some_iff]

theorem UnderWay.follows (h : UnderWay s) (hx : x ∈ s.handle?) {r : Revision}
    {rest : List PanelCmd} (hqueue : x.queue = .setForwards r :: rest) : Follows x.revision r := by
  obtain ⟨seen, -, hopen⟩ := h
  have hleads := hopen x hx
  rw [hqueue] at hleads
  exact hleads.1

/-- A move of the session keeps the lists leading to the UI's. -/
theorem UnderWay.step (h : UnderWay s) (hx : s.session = some x) (hstep : PanelStep x out)
    (published : Published) :
    UnderWay { s with session := some out.session, published } := by
  obtain ⟨seen, hqueue, hopen⟩ := h
  refine ⟨seen, hqueue, fun y hy => ?_⟩
  obtain ⟨hsame, hrx⟩ := mem_handle?_iff.1 hy
  cases hsame
  have hleads (hrx : x.pc.rxOpen = true) := hopen x (mem_handle?_iff.2 ⟨hx, hrx⟩)
  cases hstep with
  | moved hkept hpop =>
    have hbefore := hleads (hkept hrx)
    rcases hpop with rfl | ⟨cmd, hcmd, hother⟩
    · exact hbefore
    · rw [hcmd, List.cons_append, List.map_cons, hother] at hbefore
      exact hbefore
  | bound hpc => exact hleads (by rw [hpc]; rfl)
  | learned hpc hcmd | applied hpc hcmd =>
    have hbefore := hleads (by rw [hpc]; rfl)
    rw [hcmd] at hbefore
    exact hbefore.2
  | published hpc => exact hleads hrx

/-- A step of the session keeps its listeners for the latest attempts. -/
theorem Supplied.step (h : Supplied log x) (hstep : PanelStep x out)
    (hnext : ∀ r rest, x.pc = .running → x.queue = .setForwards r :: rest →
      Follows x.revision r) : Supplied (log ++ out.events) out.session := by
  cases hstep with
  | @moved pc queue manager _ _ _ hmanager =>
    rw [List.append_nil]
    rcases hmanager with ⟨rfl, hrunning⟩ | rfl
    · exact ⟨fun hpc => h.idle fun hx => hpc (hrunning hx), h.current, h.reported⟩
    · exact ⟨fun _ => rfl, by simp [ForwardManager.empty], h.reported⟩
  | learned hpc =>
    have hnone := h.idle (by simp [hpc])
    rw [List.append_nil]
    exact ⟨fun _ => hnone, by simp [hnone], h.reported⟩
  | bound hpc =>
    have hready : Supplied log { x with pc := .running } :=
      ⟨fun hne => absurd rfl hne, h.current, h.reported⟩
    exact hready.apply rfl (.inl rfl)
  | @applied r rest hpc hcmd =>
    have hready : Supplied log { x with queue := rest } := ⟨h.idle, h.current, h.reported⟩
    exact hready.apply hpc (.inr (hnext r rest hpc hcmd))
  | published => simpa using h

theorem started_of_mem (hstep : PanelStep x out) {e : PanelEvent} (he : e ∈ out.events) :
    ∃ i handle id change, e = .started i handle id change := by
  cases hstep with
  | moved | learned | published => cases he
  | bound | applied =>
    obtain ⟨task, -, rfl⟩ := List.mem_map.1 he
    exact ⟨_, _, _, _, rfl⟩

/-- Every move of the session keeps the invariant. -/
theorem Followed.session (h : Followed log s) (hx : s.session = some x)
    (hstep : PanelStep x out) :
    Followed (log ++ out.events)
      { s with session := some out.session, published := out.published.getD s.published } := by
  have hopen (hrx : x.pc.rxOpen = true) : x ∈ s.handle? := mem_handle?_iff.2 ⟨hx, hrx⟩
  have hunder := h.underWay.step hx hstep (out.published.getD s.published)
  have hsupplied : Supplied (log ++ out.events) out.session := by
    refine (h.supplied x hx).step hstep fun r rest hpc hqueue => ?_
    exact h.underWay.follows (hopen (by rw [hpc]; rfl)) hqueue
  have hblamed : Blamed (log ++ out.events) (out.published.getD s.published) := by
    cases hstep with
    | @moved _ _ _ published _ _ _ hpublished =>
      cases published with
      | none => exact h.blamed.mono
      | some p =>
        obtain rfl := hpublished p rfl
        simp [Blamed, PanelSession.cleared]
    | learned | bound => exact h.blamed.mono
    | applied | published => exact hsupplied.blamed
  refine ⟨hunder, ?_, hblamed, ?_, ?_⟩
  · rintro y hy
    cases hy
    exact hsupplied
  · intro id attempt hmem
    refine h.attempts id attempt ((List.mem_append.1 hmem).resolve_right fun he => ?_)
    obtain ⟨_, _, _, _, ⟨⟩⟩ := started_of_mem hstep he
  · refine h.latest.append fun id i handle he => ?_
    obtain ⟨_, _, _, _, ⟨⟩⟩ := started_of_mem hstep he

theorem Followed.listener (h : Followed log s) (hx : s.session = some x) (i : Nat)
    (t : PanelTask) (shared : ForwardShared) :
    Followed (log ++ [.reported x.number t.task.handle shared.state])
      { s with session := some { x with tasks := x.tasks.set i { t with shared } } } := by
  have hsupplied := h.supplied x hx
  refine ⟨?_, ?_, h.blamed.mono, ?_, ?_⟩
  · obtain ⟨seen, hqueue, hopen⟩ := h.underWay
    refine ⟨seen, hqueue, fun y hy => ?_⟩
    obtain ⟨hsame, hrx⟩ := mem_handle?_iff.1 hy
    cases hsame
    exact hopen x (mem_handle?_iff.2 ⟨hx, hrx⟩)
  · rintro y hy
    cases hy
    refine ⟨hsupplied.idle, hsupplied.mono.current, fun t' ht' reason hstate => ?_⟩
    rcases List.mem_or_eq_of_mem_set ht' with hold | rfl
    · exact List.mem_append_left _ (hsupplied.reported t' hold reason hstate)
    · exact List.mem_append_right _ (by simpa using hstate.symm)
  · exact fun id attempt hmem => h.attempts id attempt (by simpa using hmem)
  · exact h.latest.append (by simp)

end Session

/-! ## A step of the supervisor -/

section Supervisor

variable {log : List PanelEvent} {s : ForwardPanel}

theorem Followed.passed (h : Followed log s) {queue : List PanelCommand}
    {sending : Option PanelCmd} {session : Option PanelSession} {sessions : Nat}
    (hunder : UnderWay { s with queue, sending, session, sessions })
    (hsession : ∀ x ∈ session, Supplied log x) :
    Followed log { s with queue, sending, session, sessions } :=
  ⟨hunder, hsession, h.blamed, h.attempts, h.latest⟩

/-- The supervisor passes a list on. -/
theorem UnderWay.sends {cmd : PanelCommand} {rest : List PanelCommand} {own : PanelCmd}
    (h : UnderWay s) (hqueue : s.queue = cmd :: rest) (hidle : s.sending = none)
    (hcmd : cmd.update = .other ∧ own.update = .other ∨
      ∃ r, cmd = .setForwards r ∧ own = .setForwards r) :
    UnderWay { s with queue := rest, sending := s.handle?.map fun _ => own } := by
  obtain ⟨seen, hleads, hopen⟩ := h
  rw [hqueue, List.map_cons] at hleads
  have hown : ∀ x ∈ s.handle?, Leads Follows x.revision (x.queue.map PanelCmd.update) seen := by
    simpa [hidle] using hopen
  rcases hcmd with ⟨hother, hother'⟩ | ⟨r, rfl, rfl⟩
  · rw [hother] at hleads
    refine ⟨seen, hleads, fun x (hx : x ∈ s.handle?) => ?_⟩
    simpa [Option.mem_def.1 hx, hother'] using leads_concat_other (hown x hx)
  · refine ⟨r, hleads.2, fun x (hx : x ∈ s.handle?) => ?_⟩
    simpa [Option.mem_def.1 hx, PanelCmd.update] using leads_concat_next (hown x hx) hleads.1

/-- Every command the supervisor takes keeps the invariant. -/
theorem Followed.receive (h : Followed log s) {cmd : PanelCommand} {rest : List PanelCommand}
    (hqueue : s.queue = cmd :: rest) (hidle : s.sending = none) (spawned : Bool) :
    Followed log ({ s with queue := rest }.dispatch spawned cmd) := by
  cases cmd with
  | connect r =>
    obtain ⟨seen, hleads, hopen⟩ := h.underWay
    rw [hqueue] at hleads
    obtain ⟨rfl, hleads⟩ := hleads
    simp only [ForwardPanel.dispatch]
    split
    · refine h.passed ⟨r, hleads, fun x hx => ?_⟩ fun x hx => ?_
      · cases (mem_handle?_iff.1 hx).1
        simp [hidle, Leads]
      · cases hx
        exact ⟨fun _ => rfl, by simp [ForwardManager.empty], by simp⟩
    · exact h.passed ⟨r, hleads, hopen⟩ h.supplied
  | disconnect | queryConnPath =>
    exact h.passed (h.underWay.sends hqueue hidle (.inl ⟨rfl, rfl⟩)) h.supplied
  | setForwards r =>
    exact h.passed (h.underWay.sends hqueue hidle (.inr ⟨r, rfl, rfl⟩)) h.supplied
  | other =>
    obtain ⟨seen, hleads, hopen⟩ := h.underWay
    rw [hqueue] at hleads
    exact h.passed ⟨seen, hleads, hopen⟩ h.supplied

theorem Followed.deliver (h : Followed log s) {cmd : PanelCmd} {x : PanelSession}
    (hsending : s.sending = some cmd) (hx : x ∈ s.handle?) :
    Followed log
      { s with sending := none, session := some { x with queue := x.queue ++ [cmd] } } := by
  obtain ⟨hsession, hrx⟩ := mem_handle?_iff.1 hx
  obtain ⟨seen, hleads, hopen⟩ := h.underWay
  refine h.passed ⟨seen, hleads, fun y hy => ?_⟩ fun y hy => ?_
  · cases (mem_handle?_iff.1 hy).1
    simpa [hsending] using hopen x hx
  · cases hy
    have hsupplied := h.supplied x hsession
    exact ⟨hsupplied.idle, hsupplied.current, hsupplied.reported⟩

end Supervisor

/-! ## A step of the UI -/

section Ui

variable {log : List PanelEvent} {s : ForwardPanel}

/-- A change of the list by the UI keeps the invariant. -/
theorem Followed.commit (h : Followed log s) {t : ForwardPanel} {es : List PanelEvent}
    {forwards : List PortForward} {attempted : Option String}
    (hcommit : s.commit (s.ui.next forwards attempted) = some t)
    (hrenews : ∀ id ∈ attempted, Renews s.ui.forwards forwards id)
    (hattempted : ∀ id attempt, .attempted id attempt ∈ es →
      attempted = some id ∧ attempt = s.ui.number + 1)
    (hlatest : ForLatestAttempt (log ++ es)) : Followed (log ++ es) t := by
  obtain ⟨-, ⟨⟩⟩ := Option.ite_none_right_eq_some.1 hcommit
  have hfollows : Follows s.ui (s.ui.next forwards attempted) := by
    intro id
    by_cases hid : attempted = some id
    · exact .inr (hrenews id hid)
    · exact .inl (if_neg hid)
  have hmono : ∀ id, s.ui.attempts id ≤ (s.ui.next forwards attempted).attempts id := by
    intro id
    simp only [Revision.next]
    split
    · exact Nat.le_succ_of_le (s.ui.attempts_le id)
    · exact Nat.le_refl _
  obtain ⟨seen, hleads, hopen⟩ := h.underWay
  refine ⟨⟨seen, ?_, hopen⟩, fun x hx => (h.supplied x hx).mono, h.blamed.mono, ?_, hlatest⟩
  · rw [List.map_append]
    exact leads_concat_next hleads hfollows
  intro id attempt hmem
  rcases List.mem_append.1 hmem with hold | hnew
  · exact (h.attempts id attempt hold).trans (hmono id)
  · obtain ⟨hid, rfl⟩ := hattempted id attempt hnew
    simp [Revision.next, hid]

/-- A tick switches off for a listener of the latest attempt. -/
theorem Followed.blames (h : Followed log s) (hcurrent : StatusesCurrent s .tick)
    {p : PanelStatus} (hp : p ∈ s.published.statuses) {e : String × String}
    (he : e ∈ s.switchOff.2) (hstatus : p.status = ⟨e.1, .failed e.2⟩) :
    FailedLatest log p.status.id s.published.session p.handle := by
  obtain ⟨f, hf, hid, hon⟩ := (of_disabled he).2
  have hsame : s.published.revision.attempts p.status.id = s.ui.attempts p.status.id :=
    hcurrent p hp f hf (by simp [hstatus, isFailed]) (by simp [hstatus, hid]) hon
  obtain ⟨change, hstarted, hreported, hle⟩ := h.blamed p hp e.2 (by simp [hstatus])
  refine ⟨change, e.2, hstarted, hreported, fun attempt hattempt => ?_⟩
  rw [hsame] at hle
  exact (h.attempts p.status.id attempt hattempt).trans hle

/-- Every step within the conditions keeps the invariant. -/
theorem Followed.step (h : Followed log s) {t : ForwardPanel} {label : PanelLabel}
    {es : List PanelEvent} (hcurrent : StatusesCurrent s label) (hanew : AttemptsAnew s label)
    (hstep : s.step label = some (t, es)) : Followed (log ++ es) t := by
  cases label with
  | edit e =>
    obtain ⟨forwards, hforwards, heq⟩ := Option.bind_eq_some_iff.1 hstep
    obtain ⟨t', hcommit, heq⟩ := Option.map_eq_some_iff.1 heq
    cases heq
    refine h.commit hcommit (fun id hid => hanew id hid forwards hforwards) ?_ ?_
    · intro id attempt hmem
      obtain ⟨id', hid, heq⟩ := Option.map_eq_some_iff.1 (Option.mem_toList.1 hmem)
      obtain ⟨rfl, rfl⟩ := PanelEvent.attempted.inj heq
      exact ⟨hid, rfl⟩
    · refine h.latest.append fun id i handle hmem => ?_
      obtain ⟨id', -, heq⟩ := Option.map_eq_some_iff.1 (Option.mem_toList.1 hmem)
      cases heq
  | tick =>
    simp only [ForwardPanel.step] at hstep
    split at hstep
    · cases hstep
      simpa using h
    obtain ⟨t', hcommit, heq⟩ := Option.map_eq_some_iff.1 hstep
    cases heq
    refine h.commit hcommit (by simp) (by simp) (h.latest.append_switchedOff (by simp) ?_)
    intro id i handle hmem
    obtain ⟨p, hp, heq⟩ := List.mem_map.1 hmem
    obtain ⟨rfl, rfl, rfl⟩ := PanelEvent.switchedOff.inj heq
    obtain ⟨hp, hany⟩ := List.mem_filter.1 hp
    obtain ⟨e, he, hstatus⟩ := List.any_eq_true.1 hany
    exact h.blames hcurrent hp he (by simpa using hstatus)
  | call c =>
    obtain ⟨-, ⟨⟩⟩ := Option.ite_none_right_eq_some.1 hstep
    rw [List.append_nil]
    obtain ⟨seen, hleads, hopen⟩ := h.underWay
    refine h.passed ⟨seen, ?_, hopen⟩ h.supplied
    rw [List.map_append]
    cases c with
    | connect => exact leads_concat_copy hleads
    | disconnect | queryConnPath | other => exact leads_concat_other hleads
  | receive spawned =>
    simp only [ForwardPanel.step] at hstep
    split at hstep <;> cases hstep
    next hsending hqueue =>
      rw [List.append_nil]
      exact h.receive hqueue hsending spawned
  | deliver =>
    simp only [ForwardPanel.step] at hstep
    split at hstep
    next hsending hx =>
      obtain ⟨-, ⟨⟩⟩ := Option.ite_none_right_eq_some.1 hstep
      rw [List.append_nil]
      exact h.deliver hsending hx
    next hnone =>
      cases hstep
      rw [List.append_nil]
      obtain ⟨seen, hleads, -⟩ := h.underWay
      refine h.passed ⟨seen, hleads, fun x (hx : x ∈ s.handle?) => ?_⟩ h.supplied
      rw [hnone] at hx
      cases hx
    · cases hstep
  | session l =>
    obtain ⟨x, hx, heq⟩ := Option.bind_eq_some_iff.1 hstep
    obtain ⟨out, hout, heq⟩ := Option.map_eq_some_iff.1 heq
    cases heq
    exact h.session hx (.of_step hout)
  | listener i k health =>
    obtain ⟨x, hx, heq⟩ := Option.bind_eq_some_iff.1 hstep
    obtain ⟨task, -, heq⟩ := Option.map_eq_some_iff.1 heq
    cases heq
    exact h.listener hx i task (task.shared.setStack k health)

end Ui

/-- **A forward is switched off for its latest attempt only.** In every run in which a failed status
that meets a forward that is on was published for a list with its latest enable or edit, and the
user switches on what was off and edits what then has to be started anew, each forward that a tick
switches off has a listener that failed and was started for a list with that enable or edit. -/
theorem switched_off_for_latest_attempt {s t : ForwardPanel} {labels : List PanelLabel}
    {log : List PanelEvent} (hinit : forwardPanel.init s)
    (hcurrent : forwardPanel.Guarded StatusesCurrent s labels)
    (hanew : forwardPanel.Guarded AttemptsAnew s labels)
    (hrun : forwardPanel.run s labels = some (t, log)) : ForLatestAttempt log := by
  obtain ⟨-, hqueue, hsending, hsession, -, hpublished⟩ := hinit
  have h₀ : Followed [] s := by
    refine ⟨⟨s.ui, by simp [hqueue, Leads], ?_⟩, by simp [hsession], ?_, by simp, ?_⟩
    · simp [ForwardPanel.handle?, hsession]
    · simp [Blamed, hpublished]
    · simp [ForLatestAttempt]
  refine (forwardPanel.guarded_log_rule (P := Followed) ?_ h₀ (hcurrent.and hanew) hrun).latest
  exact fun log s label t es hguard h hstep => h.step hguard.1 hguard.2 hstep

/-! ## A forward that is switched on twice -/

def webPanel : ForwardPanel where
  ui := ⟨0, [⟨"web", "", 8080, "intranet", 80, false⟩], fun _ => 0, fun _ => Nat.le_refl 0⟩
  queue := []
  sending := none
  session := none
  sessions := 0
  published :=
    ⟨0, ⟨0, [⟨"web", "", 8080, "intranet", 80, false⟩], fun _ => 0, fun _ => Nat.le_refl 0⟩, []⟩

def webDelivers : List PanelLabel := [.receive true, .deliver, .session .command]

/-- A session is started, the forward is switched on and its listener finds the port taken. -/
def webFails : List PanelLabel :=
  [.call .connect, .receive true, .session (.begin true), .session (.created true),
    .session (.bound true), .edit (.toggle "web" true)] ++ webDelivers ++
    [.listener 0 .v4 (.down portTaken), .listener 0 .v6 (.down portTaken), .session .ticker, .tick]

/-- The user switches the forward on again once the session has got the list without it. -/
def webWaits : List PanelLabel :=
  webFails ++ webDelivers ++ [.edit (.toggle "web" true), .tick] ++ webDelivers ++ [.tick]

def webInsists : List PanelLabel := webFails ++ [.edit (.toggle "web" true), .tick]

theorem switched_off_for_latest_attempt_waits :
    ∃ t log, forwardPanel.run webPanel webWaits = some (t, log) ∧ ForLatestAttempt log := by
  have hsome : (forwardPanel.run webPanel webWaits).isSome = true := by decide
  obtain ⟨⟨t, log⟩, hrun⟩ := Option.isSome_iff_exists.1 hsome
  exact ⟨t, log, hrun, switched_off_for_latest_attempt ⟨rfl, rfl, rfl, rfl, rfl, rfl⟩ (by decide)
    (by decide) hrun⟩

/-- The second tick switches the forward off for the listener of the first attempt. -/
theorem old_failure_undoes_enable :
    forwardPanel.init webPanel ∧ forwardPanel.Guarded AttemptsAnew webPanel webInsists ∧
      ∃ t log, forwardPanel.run webPanel webInsists = some (t, log) ∧ ¬ ForLatestAttempt log := by
  have hlog : (forwardPanel.run webPanel webInsists).map Prod.snd = some
      [.attempted "web" 1, .started 0 0 "web" 1, .reported 0 0 .starting,
        .reported 0 0 (.failed "port 8080 is in use"), .switchedOff "web" 0 0,
        .attempted "web" 3, .switchedOff "web" 0 0] := by decide
  obtain ⟨t, hrun⟩ := forwardPanel.exists_run_of_log hlog
  refine ⟨⟨rfl, rfl, rfl, rfl, rfl, rfl⟩, by decide, t, _, hrun, fun h => ?_⟩
  obtain ⟨change, reason, hstarted, -, hle⟩ := h
    [.attempted "web" 1, .started 0 0 "web" 1, .reported 0 0 .starting,
      .reported 0 0 (.failed "port 8080 is in use"), .switchedOff "web" 0 0,
      .attempted "web" 3] "web" 0 0 [] rfl
  have hchange : change = 1 := by simpa using hstarted
  have hlate : 3 ≤ change := hle 3 (by simp)
  omega

end Flextunnel.Analysis
