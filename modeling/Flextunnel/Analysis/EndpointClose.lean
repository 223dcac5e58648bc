import Flextunnel.Analysis.RebuildCoalescing

/-!
# Every endpoint is closed before it is dropped

An endpoint that is bound is owed a close by the slot it is installed in, by the call
that bound it or took it out of the slot, or by the task that is to close it. Three
things lose the debt: a call dropped between the bind and the install, an install after
the teardown took the endpoint it closes, and a runtime that shuts down before it polled
the close task of a replaced endpoint.
-/

set_option autoImplicit false

namespace Flextunnel.Analysis

open Lib Model

/-! ## Debts -/

/-- The endpoints that still have to be closed, by whoever is to do it. -/
def owed (s : ClientEndpoint) : List Endpoint :=
  (if s.teardown = .running then [s.current.endpoint] else []) ++
    s.calls.filterMap (·.pc.owns) ++ s.closes.filterMap CloseTask.owes

variable {a : Endpoint} {s t : ClientEndpoint} {c : Nat} {r : Rebuild} {es log : List EndpointEvent}
    {l : EndpointLabel} {ls : List EndpointLabel}

theorem mem_owed :
    a ∈ owed s ↔ (s.teardown = .running ∧ a = s.current.endpoint) ∨
      a ∈ s.calls.filterMap (·.pc.owns) ∨ a ∈ s.closes.filterMap CloseTask.owes := by
  unfold owed
  by_cases hrunning : s.teardown = .running
  · simp only [hrunning, if_true, List.mem_append, List.mem_singleton, true_and, or_assoc]
  · simp only [hrunning, if_false, List.mem_append, List.not_mem_nil, false_and, or_assoc]

theorem mem_slot :
    a ∈ s.slot ↔ (s.handle = true ∨ ∃ r ∈ s.calls, r.pc.active = true) ∧
      a = s.current.endpoint := by
  unfold ClientEndpoint.slot
  split <;> simp_all

theorem mem_held :
    a ∈ s.held ↔ a ∈ s.slot ∨ a ∈ s.calls.filterMap (·.pc.owns) ∨
      a ∈ s.closes.filterMap CloseTask.holds ∨ a ∈ s.clones ∨ s.teardown.holds = some a := by
  simp only [ClientEndpoint.held, List.mem_append, Option.mem_toList, or_assoc]

section

variable {s : ClientEndpoint} {a : Endpoint}

theorem owed_current (hrunning : s.teardown = .running) (ha : a = s.current.endpoint) :
    a ∈ owed s := mem_owed.2 (.inl ⟨hrunning, ha⟩)

theorem owed_call (h : a ∈ s.calls.filterMap (·.pc.owns)) : a ∈ owed s :=
  mem_owed.2 (.inr (.inl h))

theorem owed_task (h : a ∈ s.closes.filterMap CloseTask.owes) : a ∈ owed s :=
  mem_owed.2 (.inr (.inr h))

theorem held_slot (h : a ∈ s.slot) : a ∈ s.held := mem_held.2 (.inl h)

theorem held_handle (hhandle : s.handle = true) (ha : a = s.current.endpoint) : a ∈ s.held :=
  held_slot (mem_slot.2 ⟨.inl hhandle, ha⟩)

theorem held_call (h : a ∈ s.calls.filterMap (·.pc.owns)) : a ∈ s.held :=
  mem_held.2 (.inr (.inl h))

theorem held_task (h : a ∈ s.closes.filterMap CloseTask.holds) : a ∈ s.held :=
  mem_held.2 (.inr (.inr (.inl h)))

theorem held_clone (h : a ∈ s.clones) : a ∈ s.held := mem_held.2 (.inr (.inr (.inr (.inl h))))

theorem held_teardown (h : s.teardown.holds = some a) : a ∈ s.held :=
  mem_held.2 (.inr (.inr (.inr (.inr h))))

end

def HasHandle (s : ClientEndpoint) : Prop := s.teardown = .running → s.handle = true

/-- Whoever owes a close has a handle. -/
theorem held_of_owed (h : HasHandle s) (ha : a ∈ owed s) : a ∈ s.held := by
  rcases mem_owed.1 ha with ⟨hrunning, hcurrent⟩ | hcalls | hcloses
  · exact held_handle (h hrunning) hcurrent
  · exact held_call hcalls
  have hholds : ∀ t : CloseTask, t.owes = some a → t.holds = some a := by
    intro t ht
    cases t with
    | spawned e => exact ht
    | closing | ended => cases ht
  obtain ⟨t, ht, howes⟩ := List.mem_filterMap.1 hcloses
  exact held_task (List.mem_filterMap.2 ⟨t, ht, hholds t howes⟩)

/-- The steps that keep the debts: a call is not dropped with a bound endpoint it has not
installed, nothing is installed once the teardown took its endpoint, and the runtime is
not shut down with a close task it has not polled or before that task is spawned. -/
def KeepsDebts (s : ClientEndpoint) : EndpointLabel → Prop
  | .rebuild c .cancel => ∀ r ∈ s.calls[c]?, r.pc.owns = none
  | .rebuild _ .install => s.teardown = .running
  | .rebuild _ .spawnClose => s.runtime = true
  | .task i .abandon => ∀ t ∈ s.closes[i]?, t.owes = none
  | _ => True

instance (s : ClientEndpoint) (l : EndpointLabel) : Decidable (KeepsDebts s l) :=
  match l with
  | .rebuild c .cancel => inferInstanceAs (Decidable (∀ r ∈ s.calls[c]?, r.pc.owns = none))
  | .rebuild _ .install => inferInstanceAs (Decidable (s.teardown = .running))
  | .rebuild _ .spawnClose => inferInstanceAs (Decidable (s.runtime = true))
  | .task i .abandon => inferInstanceAs (Decidable (∀ t ∈ s.closes[i]?, t.owes = none))
  | .rebuild _ .lock | .rebuild _ (.bind _) | .rebuild _ .finish | .task _ .poll
  | .task _ .finish | .call | .clone | .dropClone _ | .close | .closed | .release | .shutdown =>
    .isTrue trivial

/-! ## One step -/

theorem owed_move (hc : s.calls[c]? = some r) (howns : r.pc.owns = none) (ha : a ∈ owed s)
    (r' : Rebuild) (lock : Option Nat) (bound : Nat) :
    a ∈ owed { s.move c r' with rebuilding := lock, bound } := by
  rcases mem_owed.1 ha with h | h | h
  · exact owed_current h.1 h.2
  · rcases mem_filterMap_set_of_mem hc h with h | h
    · exact owed_call h
    · rw [howns] at h
      cases h
  · exact owed_task h

theorem owed_end {i : Nat} {task : CloseTask} (hi : s.closes[i]? = some task)
    (howes : task.owes = none) (ha : a ∈ owed s) :
    a ∈ owed { s with closes := s.closes.set i .ended } := by
  rcases mem_owed.1 ha with h | h | h
  · exact owed_current h.1 h.2
  · exact owed_call h
  rcases mem_filterMap_set_of_mem hi h with h | h
  · exact owed_task h
  · rw [howes] at h
    cases h

/-- A rebuild passes its debts on. -/
theorem owed_of_rebuildSteps {l : RebuildLabel} (hc : s.calls[c]? = some r)
    (hkeeps : KeepsDebts s (.rebuild c l)) (h : ClientEndpoint.RebuildSteps s c r l t es)
    (ha : a ∈ owed s) : a ∈ owed t := by
  cases h with
  | coalesced hpc | built hpc | failed hpc | bound hpc | finished hpc =>
    exact owed_move hc (by rw [hpc]; rfl) ha _ _ _
  | cancelledOutside | cancelledInside =>
    exact owed_move hc (hkeeps r hc) ha _ _ _
  | installed fresh hpc =>
    rcases mem_owed.1 ha with ⟨-, rfl⟩ | h | h
    · exact owed_call (mem_filterMap_set_self hc rfl)
    · rcases mem_filterMap_set_of_mem hc h with h | h
      · exact owed_call h
      · rw [hpc] at h
        exact owed_current hkeeps (Option.some.inj h).symm
    · exact owed_task h
  | spawned old hpc =>
    have hup : s.runtime = true := hkeeps
    have hcloses : (s.spawnClose c r.seen old).1.closes.filterMap CloseTask.owes =
        s.closes.filterMap CloseTask.owes ++ [old] := by
      simp only [ClientEndpoint.spawnClose, hup, if_true, List.filterMap_append]
      rfl
    rcases mem_owed.1 ha with h | h | h
    · exact owed_current h.1 h.2
    · rcases mem_filterMap_set_of_mem hc h with h | h
      · exact owed_call h
      · rw [hpc] at h
        cases h
        exact owed_task (hcloses ▸ List.mem_append_right _ (List.mem_singleton_self _))
    · exact owed_task (hcloses ▸ List.mem_append_left _ h)

/-- A step keeps a debt or calls the close. -/
theorem owed_of_steps (hkeeps : KeepsDebts s l) (h : ClientEndpoint.Steps s l t es)
    (ha : a ∈ owed s) : a ∈ owed t ∨ .closeCalled a ∈ es := by
  cases h with
  | rebuild hc h => exact .inl (owed_of_rebuildSteps hc hkeeps h ha)
  | call hhandle =>
    rcases mem_owed.1 ha with h | h | h
    · exact .inl (owed_current h.1 h.2)
    · exact .inl (owed_call (by rw [List.filterMap_append]; exact List.mem_append_left _ h))
    · exact .inl (owed_task h)
  | polled hi =>
    rcases mem_owed.1 ha with h | h | h
    · exact .inl (owed_current h.1 h.2)
    · exact .inl (owed_call h)
    rcases mem_filterMap_set_of_mem hi h with h | h
    · exact .inl (owed_task h)
    · cases h
      exact .inr (List.mem_singleton_self _)
  | finished hi => exact .inl (owed_end hi rfl ha)
  | abandoned hi => exact .inl (owed_end hi (hkeeps _ hi) ha)
  | close =>
    rcases mem_owed.1 ha with ⟨-, rfl⟩ | h | h
    · exact .inr (List.mem_singleton_self _)
    · exact .inl (owed_call h)
    · exact .inl (owed_task h)
  | closed hclosing =>
    rcases mem_owed.1 ha with ⟨hrunning, -⟩ | h | h
    · cases hclosing.symm.trans hrunning
    · exact .inl (owed_call h)
    · exact .inl (owed_task h)
  | clone | dropClone | release | shutdown => exact .inl ha

theorem slot_of_move {r' : Rebuild} (hc : s.calls[c]? = some r) (hactive : r.pc.active = true)
    (ha : a ∈ (s.move c r').slot) : a ∈ s.slot := by
  obtain ⟨halive, hcurrent⟩ := mem_slot.1 ha
  refine mem_slot.2 ⟨?_, hcurrent⟩
  rcases halive with hhandle | ⟨r'', hmem, hactive'⟩
  · exact .inl hhandle
  · rcases List.mem_or_eq_of_mem_set hmem with hmem | rfl
    · exact .inr ⟨r'', hmem, hactive'⟩
    · exact .inr ⟨r, List.mem_of_getElem? hc, hactive⟩

theorem held_of_rebuildSteps {l : RebuildLabel} (hc : s.calls[c]? = some r)
    (h : ClientEndpoint.RebuildSteps s c r l t es) (ha : a ∈ t.held) : a ∈ s.held ∨ a ∈ owed t := by
  have hactive := h.active
  rcases mem_held.1 ha with hslot | hcalls | hcloses | hrest
  · cases h with
    | installed fresh hpc =>
      -- the slot now holds the endpoint the call had bound
      have howns : r.pc.owns = some a := by
        rw [hpc, (mem_slot.1 hslot).2]
        rfl
      exact .inl (held_call (List.mem_filterMap.2 ⟨r, List.mem_of_getElem? hc, howns⟩))
    | _ => exact .inl (held_slot (slot_of_move hc hactive hslot))
  · exact .inr (owed_call hcalls)
  · cases h with
    | spawned old hpc =>
      rw [ClientEndpoint.spawnClose, List.filterMap_append, List.mem_append] at hcloses
      rcases hcloses with hcloses | hnew
      · exact .inl (held_task hcloses)
      refine .inr (owed_task ?_)
      rw [ClientEndpoint.spawnClose, List.filterMap_append, List.mem_append]
      revert hnew
      cases s.runtime with
      | true => exact .inr
      | false => exact nofun
    | _ => exact .inl (held_task hcloses)
  · cases h <;> exact .inl (mem_held.2 (.inr (.inr (.inr hrest))))

/-- A handle that is new is owed a close. -/
theorem held_of_steps (hhandle : HasHandle s) (h : ClientEndpoint.Steps s l t es)
    (ha : a ∈ t.held) : a ∈ s.held ∨ a ∈ owed t := by
  cases h with
  | rebuild hc h => exact held_of_rebuildSteps hc h ha
  | call halive =>
    rcases mem_held.1 ha with hslot | hcalls | hrest
    · exact .inl (held_handle halive (mem_slot.1 hslot).2)
    · exact .inr (owed_call hcalls)
    · exact .inl (mem_held.2 (.inr (.inr hrest)))
  | polled hi =>
    refine .inl (mem_held.2 ((mem_held.1 ha).imp_right (.imp_right (.imp_left ?_))))
    intro hcloses
    rcases mem_filterMap_of_set hcloses with h | h
    · exact h
    · exact List.mem_filterMap.2 ⟨_, List.mem_of_getElem? hi, h⟩
  | finished hi | abandoned hi =>
    refine .inl (mem_held.2 ((mem_held.1 ha).imp_right (.imp_right (.imp_left ?_))))
    intro hcloses
    exact (mem_filterMap_of_set hcloses).resolve_right nofun
  | clone halive =>
    rcases mem_held.1 ha with hslot | hcalls | hcloses | hclones | hteardown
    · exact .inl (held_slot hslot)
    · exact .inl (held_call hcalls)
    · exact .inl (held_task hcloses)
    · rcases List.mem_append.1 hclones with h | h
      · exact .inl (held_clone h)
      · exact .inl (held_handle halive (List.mem_singleton.1 h))
    · exact .inl (held_teardown hteardown)
  | dropClone i =>
    exact .inl (mem_held.2 ((mem_held.1 ha).imp_right
      (.imp_right (.imp_right (.imp_left List.mem_of_mem_eraseIdx)))))
  | close hrunning =>
    rcases mem_held.1 ha with hslot | hcalls | hcloses | hclones | hteardown
    · exact .inl (held_slot hslot)
    · exact .inl (held_call hcalls)
    · exact .inl (held_task hcloses)
    · exact .inl (held_clone hclones)
    · exact .inl (held_handle (hhandle hrunning) (Option.some.inj hteardown).symm)
  | closed =>
    exact .inl (mem_held.2 ((mem_held.1 ha).imp_right (.imp_right (.imp_right (.imp_right nofun)))))
  | release =>
    refine .inl (mem_held.2 ((mem_held.1 ha).imp_left ?_))
    intro hslot
    obtain ⟨halive, hcurrent⟩ := mem_slot.1 hslot
    exact mem_slot.2 ⟨.inr (halive.resolve_left nofun), hcurrent⟩
  | shutdown => exact .inl ha

/-! ## Whole runs -/

/-- Until the teardown begins, a step keeps the handle. -/
theorem hasHandle_of_steps (hhandle : HasHandle s) (h : ClientEndpoint.Steps s l t es) :
    HasHandle t := by
  cases h with
  | rebuild hc h => cases h <;> exact hhandle
  | close | closed => exact nofun
  | release hclosed => exact fun hrunning => nomatch hclosed.symm.trans hrunning
  | call | polled | finished | abandoned | clone | dropClone | shutdown => exact hhandle

theorem dropped_notMem_of_steps (h : ClientEndpoint.Steps s l t es) (a : Endpoint) :
    .dropped a ∉ es := by
  cases h with
  | rebuild hc h => cases h <;> simp
  | _ => simp

/-- **Endpoints are closed before they are dropped**, in every run whose steps keep the debts
(`KeepsDebts`): an endpoint loses its last handle only after `close` was called on it. -/
theorem closed_before_dropped {ls : List EndpointLabel} {s : ClientEndpoint}
    {log : List EndpointEvent} (hkeeps : clientEndpoint.Guarded KeepsDebts {} ls)
    (hrun : clientEndpoint.run {} ls = some (s, log)) {pre post : List EndpointEvent}
    {e : Endpoint} (hlog : log = pre ++ .dropped e :: post) : .closeCalled e ∈ pre := by
  have hpreceded : Preceded (fun b => ∃ a, b = .dropped a)
      (fun x b => ∃ a, b = .dropped a ∧ x = .closeCalled a) log :=
    Machine.drop_rule (I := HasHandle)
      (fun s l t es _ hI h => hasHandle_of_steps hI (ClientEndpoint.steps_of_act h))
      (fun s hI a => held_of_owed hI)
      (fun s l t es a h => dropped_notMem_of_steps (ClientEndpoint.steps_of_act h) a)
      (fun s l t es hC _ h a => owed_of_steps hC (ClientEndpoint.steps_of_act h))
      (fun s l t es _ hI h a => held_of_steps hI (ClientEndpoint.steps_of_act h))
      (fun _ => rfl) (by decide) hkeeps hrun
  obtain ⟨x, hx, a, heq, rfl⟩ := hpreceded pre _ post hlog ⟨e, rfl⟩
  obtain rfl := EndpointEvent.dropped.inj heq
  exact hx

def rebuiltThenClosed : List EndpointLabel :=
  [.call, .rebuild 0 .lock, .rebuild 0 (.bind true), .rebuild 0 .install, .rebuild 0 .spawnClose,
    .task 0 .poll, .task 0 .finish, .rebuild 0 .finish, .close, .closed, .release]

/-- The endpoint it replaces and the fresh one are both closed before they are dropped. -/
theorem closed_before_dropped_instance :
    ∃ s pre mid post, clientEndpoint.run {} rebuiltThenClosed =
        some (s, pre ++ .dropped 0 :: mid ++ .dropped 1 :: post) ∧
      .closeCalled 0 ∈ pre ∧ .closeCalled 1 ∈ pre ++ .dropped 0 :: mid := by
  have hkeeps : clientEndpoint.Guarded KeepsDebts {} rebuiltThenClosed := by decide
  have heval : (clientEndpoint.run {} rebuiltThenClosed).map Prod.snd =
      some ([.called 0 0, .locked 0, .factoryCalled 0, .bound 0 1, .installed 0 1 0,
        .handedToClose 0, .closeCalled 0] ++ .dropped 0 :: [.returned 0 true, .closeCalled 1] ++
        .dropped 1 :: []) := by decide
  obtain ⟨s, hrun⟩ := clientEndpoint.exists_run_of_log heval
  refine ⟨s, _, _, _, hrun, ?_, closed_before_dropped hkeeps hrun rfl⟩
  have hrun' := hrun
  rw [List.append_assoc] at hrun'
  exact closed_before_dropped hkeeps hrun' rfl

/-! ## Three ways to lose an endpoint -/

/-- The future of a rebuild is dropped while it waits for its endpoint to come online: a
Ctrl-C, a disconnect or an abort of the task.
SOURCE: cli/client_session.rs:330-417,
desktop/tunnel.rs:696-768, ffi/lib.rs:808-824 -/
def cancelledOnline : List EndpointLabel :=
  [.call, .rebuild 0 .lock, .rebuild 0 (.bind true), .rebuild 0 .cancel]

/-- The abort of the task does not wait for the poll it interrupts: the rebuild installs
its endpoint after the teardown read the old one.
SOURCE: ffi/lib.rs:818-823 -/
def installedLate : List EndpointLabel :=
  [.call, .rebuild 0 .lock, .rebuild 0 (.bind true), .close, .rebuild 0 .install,
    .rebuild 0 .spawnClose, .task 0 .poll, .task 0 .finish, .rebuild 0 .cancel, .closed, .release]

def shutDownEarly : List EndpointLabel :=
  [.call, .rebuild 0 .lock, .rebuild 0 (.bind true), .rebuild 0 .install, .rebuild 0 .spawnClose,
    .close, .closed, .shutdown, .task 0 .abandon]

/-- In the run, the endpoint loses its last handle and is never closed. -/
def Loses (ls : List EndpointLabel) (e : Endpoint) : Prop :=
  ∃ s log, clientEndpoint.run {} ls = some (s, log) ∧ .dropped e ∈ log ∧ .closeCalled e ∉ log

theorem loses_of_eval {e : Endpoint} (h : (clientEndpoint.run {} ls).map (fun r =>
      (decide (.dropped e ∈ r.2), decide (.closeCalled e ∈ r.2))) = some (true, false)) :
    Loses ls e := by
  obtain ⟨⟨s, log⟩, hrun, hs⟩ := Option.map_eq_some_iff.1 h
  have hevents : .dropped e ∈ log ∧ .closeCalled e ∉ log := by simpa using hs
  exact ⟨s, log, hrun, hevents⟩

/-- **Endpoints are dropped that were never closed.** A rebuild cancelled in the online
wait, an install after the teardown, and a shutdown before the close task was polled. -/
theorem dropped_not_closed :
    Loses cancelledOnline 1 ∧ Loses installedLate 1 ∧ Loses shutDownEarly 0 :=
  ⟨loses_of_eval (by decide), loses_of_eval (by decide), loses_of_eval (by decide)⟩

/-! ## A cancelled rebuild always loses its endpoint -/

/-- Outside the factory, nothing is held or was closed that is above the current endpoint. -/
structure Bounded (log : List EndpointEvent) (s : ClientEndpoint) : Prop where
  tasks : ∀ a ∈ s.closes.filterMap CloseTask.holds, a ≤ s.current.endpoint
  clones : ∀ a ∈ s.clones, a ≤ s.current.endpoint
  teardown : ∀ a, s.teardown.holds = some a → a ≤ s.current.endpoint
  closed : ∀ a, .closeCalled a ∈ log → a ≤ s.current.endpoint

theorem bounded_frame (hs : Bounded log s) (hcurrent : s.current.endpoint ≤ t.current.endpoint)
    (htasks : ∀ a ∈ t.closes.filterMap CloseTask.holds,
      a ∈ s.closes.filterMap CloseTask.holds ∨ a ≤ t.current.endpoint)
    (hclones : ∀ a ∈ t.clones, a ∈ s.clones ∨ a ≤ t.current.endpoint)
    (hteardown : ∀ a, t.teardown.holds = some a →
      s.teardown.holds = some a ∨ a ≤ t.current.endpoint)
    (hclosed : ∀ a, .closeCalled a ∈ es → a ≤ t.current.endpoint) : Bounded (log ++ es) t := by
  constructor
  case tasks =>
    intro a ha
    rcases htasks a ha with h | h
    · exact Nat.le_trans (hs.tasks a h) hcurrent
    · exact h
  case clones =>
    intro a ha
    rcases hclones a ha with h | h
    · exact Nat.le_trans (hs.clones a h) hcurrent
    · exact h
  case teardown =>
    intro a ha
    rcases hteardown a ha with h | h
    · exact Nat.le_trans (hs.teardown a h) hcurrent
    · exact h
  case closed =>
    intro a ha
    rcases List.mem_append.1 ha with h | h
    · exact Nat.le_trans (hs.closed a h) hcurrent
    · exact hclosed a h

theorem bounded_rebuildSteps {l : RebuildLabel} (hreplaced : Replaced log s) (hs : Bounded log s)
    (hc : s.calls[c]? = some r) (h : ClientEndpoint.RebuildSteps s c r l t es) :
    Bounded (log ++ es) t := by
  obtain ⟨n, pc⟩ := r
  cases h with
  | installed fresh hpc =>
    obtain rfl : pc = .online fresh := hpc
    have hlow := (hreplaced.online c n fresh hc).1
    exact bounded_frame hs (Nat.le_of_lt hlow) (fun a => .inl) (fun a => .inl) (fun a => .inl)
      (by simp)
  | spawned old hpc =>
    obtain rfl : pc = .replaced old := hpc
    obtain ⟨fresh, hinstalled⟩ := hreplaced.pending c n old hc
    have hlow := hreplaced.installed c fresh old hinstalled
    refine bounded_frame hs (Nat.le_refl _) ?_ (fun a => .inl) (fun a => .inl) (by simp)
    intro a ha
    rw [ClientEndpoint.spawnClose, List.filterMap_append, List.mem_append] at ha
    rcases ha with h | h
    · exact .inl h
    revert h
    cases s.runtime with
    | true =>
      intro h
      obtain rfl : a = old := List.mem_singleton.1 h
      exact .inr (Nat.le_of_lt hlow)
    | false => exact nofun
  | _ =>
    exact bounded_frame hs (Nat.le_refl _) (fun a => .inl) (fun a => .inl) (fun a => .inl) (by simp)

/-- Every step keeps what is held outside the factory at or below the current endpoint. -/
theorem bounded_step (hreplaced : Replaced log s) (hs : Bounded log s)
    (h : ClientEndpoint.Steps s l t es) : Bounded (log ++ es) t := by
  cases h with
  | rebuild hc h => exact bounded_rebuildSteps hreplaced hs hc h
  | @polled i e hi =>
    have hlow : e ≤ s.current.endpoint :=
      hs.tasks e (List.mem_filterMap.2 ⟨_, List.mem_of_getElem? hi, rfl⟩)
    refine bounded_frame hs (Nat.le_refl _) ?_ (fun a => .inl) (fun a => .inl) ?_
    · intro a ha
      rcases mem_filterMap_of_set ha with h | h
      · exact .inl h
      · exact .inr (Option.some.inj h ▸ hlow)
    · intro a ha
      obtain rfl : a = e := by simpa using ha
      exact hlow
  | finished hi | abandoned hi =>
    refine bounded_frame hs (Nat.le_refl _) ?_ (fun a => .inl) (fun a => .inl) (by simp)
    exact fun a ha => .inl ((mem_filterMap_of_set ha).resolve_right nofun)
  | clone =>
    refine bounded_frame hs (Nat.le_refl _) (fun a => .inl) ?_ (fun a => .inl) (by simp)
    intro a ha
    rcases List.mem_append.1 ha with h | h
    · exact .inl h
    · exact .inr (Nat.le_of_eq (List.mem_singleton.1 h))
  | dropClone i =>
    exact bounded_frame hs (Nat.le_refl _) (fun a => .inl)
      (fun a ha => .inl (List.mem_of_mem_eraseIdx ha)) (fun a => .inl) (by simp)
  | close =>
    refine bounded_frame hs (Nat.le_refl _) (fun a => .inl) (fun a => .inl) ?_ ?_
    · exact fun a ha => .inr (Nat.le_of_eq (Option.some.inj ha).symm)
    · intro a ha
      obtain rfl : a = s.current.endpoint := by simpa using ha
      exact Nat.le_refl _
  | closed => exact bounded_frame hs (Nat.le_refl _) (fun a => .inl) (fun a => .inl) nofun (by simp)
  | call | release | shutdown =>
    exact bounded_frame hs (Nat.le_refl _) (fun a => .inl) (fun a => .inl) (fun a => .inl) (by simp)

/-- Nothing outside the factory is above the current endpoint in any run. -/
theorem bounded_of_run (hrun : clientEndpoint.run {} ls = some (s, log)) : Bounded log s := by
  have hrule := Machine.tracking_log_rule
    (P := fun log s => (Serial log s ∧ Replaced log s) ∧ Bounded log s) ?_ ?_ ?_ hrun
  · exact hrule.2
  · rintro log s l t es ⟨⟨hserial, hreplaced⟩, hs⟩ hact
    have h := ClientEndpoint.steps_of_act hact
    exact ⟨⟨serial_step hserial h, replaced_step hserial hreplaced h⟩, bounded_step hreplaced hs h⟩
  · rintro log s a ⟨⟨hserial, hreplaced⟩, hs⟩
    refine ⟨⟨serial_drop hserial a, replaced_drop hreplaced a⟩, ?_⟩
    exact bounded_frame hs (Nat.le_refl _) (fun a => .inl) (fun a => .inl) (fun a => .inl) (by simp)
  · obtain ⟨hserial, -, hreplaced⟩ := invariants_of_run (clientEndpoint.run_nil {})
    exact ⟨⟨hserial, hreplaced⟩, ⟨nofun, nofun, nofun, nofun⟩⟩

/-- Nobody else has the endpoint of the call in the factory. -/
theorem not_owned_of_move (hserial : Serial log s) (hreplaced : Replaced log s) {n : Nat}
    {fresh : Endpoint} (hc : s.calls[c]? = some ⟨n, .online fresh⟩) :
    fresh ∉ (s.calls.set c ⟨n, .cancelled⟩).filterMap (·.pc.owns) := by
  intro h
  obtain ⟨⟨n', pc⟩, hr, howns⟩ := List.mem_filterMap.1 h
  obtain ⟨d, hd⟩ := List.mem_iff_getElem?.1 hr
  rcases getElem?_set_cases hd with ⟨-, hmoved⟩ | ⟨hne, hd⟩
  · rw [hmoved] at howns
    cases howns
  cases pc with
  | online e =>
    have hlock := (hserial.exclusive d _ hd trivial).symm.trans (hserial.exclusive c _ hc trivial)
    exact hne (Option.some.inj hlock)
  | replaced old =>
    obtain rfl : old = fresh := Option.some.inj howns
    obtain ⟨e, hinstalled⟩ := hreplaced.pending d n' old hd
    exact Nat.lt_asymm (hreplaced.online c n old hc).1 (hreplaced.installed d e old hinstalled)
  | queued | binding | closing | returned ok | cancelled => cases howns

/-- **A rebuild cancelled in the online wait always loses its endpoint**, whatever else
happened before: the call has the only handle on it, and nobody has closed it. -/
theorem cancelled_online_loses (hrun : clientEndpoint.run {} ls = some (s, log)) {n : Nat}
    {fresh : Endpoint} (hc : s.calls[c]? = some ⟨n, .online fresh⟩)
    (hstep : clientEndpoint.step s (.rebuild c .cancel) = some (t, es)) :
    .dropped fresh ∈ es ∧ .closeCalled fresh ∉ log ++ es := by
  obtain ⟨hserial, -, hreplaced⟩ := invariants_of_run hrun
  have hbounded := bounded_of_run hrun
  have habove := (hreplaced.online c n fresh hc).1
  obtain ⟨es', hact, rfl⟩ := Machine.tracking_step_eq_some.1 hstep
  obtain ⟨rfl, rfl⟩ : { s.move c ⟨n, .cancelled⟩ with rebuilding := none } = t ∧
      [.cancelled c] = es' := by
    simpa [ClientEndpoint.act, ClientEndpoint.rebuildStep, ClientEndpoint.cancel, hc] using hact
  have hheld : fresh ∈ s.held :=
    held_call (List.mem_filterMap.2 ⟨_, List.mem_of_getElem? hc, rfl⟩)
  refine ⟨List.mem_append_right _ (List.mem_map_of_mem (mem_lostHandles.2 ⟨hheld, ?_⟩)), ?_⟩
  · intro h
    rcases mem_held.1 h with h | h | h | h | h
    · exact Nat.ne_of_gt habove (mem_slot.1 h).2
    · exact not_owned_of_move hserial hreplaced hc h
    · exact Nat.not_le_of_lt habove (hbounded.tasks fresh h)
    · exact Nat.not_le_of_lt habove (hbounded.clones fresh h)
    · exact Nat.not_le_of_lt habove (hbounded.teardown fresh h)
  · intro h
    have hlog : .closeCalled fresh ∈ log := by simpa using h
    exact Nat.not_le_of_lt habove (hbounded.closed fresh hlog)

theorem cancelled_online_loses_first : ∃ s t log es,
    clientEndpoint.run {} [.call, .rebuild 0 .lock, .rebuild 0 (.bind true)] = some (s, log) ∧
      clientEndpoint.step s (.rebuild 0 .cancel) = some (t, es) ∧
      .dropped 1 ∈ es ∧ .closeCalled 1 ∉ log ++ es := by
  have heval : (clientEndpoint.run {} [.call, .rebuild 0 .lock, .rebuild 0 (.bind true)]).bind
      (fun r => (clientEndpoint.step r.1 (.rebuild 0 .cancel)).map fun _ => r.1.calls[0]?) =
      some (some ⟨0, .online 1⟩) := by decide
  obtain ⟨⟨s, log⟩, hrun, hrest⟩ := Option.bind_eq_some_iff.1 heval
  obtain ⟨⟨t, es⟩, hstep, hc⟩ := Option.map_eq_some_iff.1 hrest
  exact ⟨s, t, log, es, hrun, hstep, cancelled_online_loses hrun hc hstep⟩

end Flextunnel.Analysis
