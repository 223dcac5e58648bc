import Flextunnel.Analysis.SetupFailures

/-!
# A port that passes from one task to another

`apply` aborts the task of a forward and starts another one for the same port in one go. The
abort is only a request, and the listeners belong to tasks of the aborted task, which are asked to
stop only when that one is dropped. So the new task may find the port taken (`collision_fails`).
-/

set_option autoImplicit false

namespace Flextunnel.Analysis

open Lib Model Model.ForwardManager

def bindsAt : RunMove → Option Stack
  | .stack k (.binds _) => some k
  | _ => none

def refusedAt : RunMove → Option Stack
  | .stack k (.binds (.error _)) => some k
  | _ => none

/-- The lists that the manager is given have distinct ids and ports, and a bind fails only where
one of the manager's own tasks listens: no other process has the port. -/
def PortsAreOurs (s : Listeners) : ListenerLabel → Prop
  | .apply specs => (specs.map ForwardSpec.id).Nodup ∧ (specs.map ForwardSpec.localPort).Nodup
  | .tick => True
  | .run i move => ∀ run ∈ s.runs[i]?, ∀ k ∈ refusedAt move,
      s.held k run.task.spec.localPort = true

/-- When a task that the manager has binds a stack, no aborted task listens at that address. -/
def ReleasedBefore (s : Listeners) : ListenerLabel → Prop
  | .run i move => ∀ run ∈ s.runs[i]?, run.aborted = false → ∀ k ∈ bindsAt move,
      ∀ old ∈ s.runs, old.aborted = true → old.task.spec.localPort = run.task.spec.localPort →
        old.holds k = false
  | _ => True

instance decidablePortsAreOurs (s : Listeners) : (label : ListenerLabel) →
    Decidable (PortsAreOurs s label)
  | .apply specs => inferInstanceAs (Decidable
      ((specs.map ForwardSpec.id).Nodup ∧ (specs.map ForwardSpec.localPort).Nodup))
  | .tick => .isTrue trivial
  | .run i move => inferInstanceAs (Decidable (∀ run ∈ s.runs[i]?, ∀ k ∈ refusedAt move,
      s.held k run.task.spec.localPort = true))

instance decidableReleasedBefore (s : Listeners) : (label : ListenerLabel) →
    Decidable (ReleasedBefore s label)
  | .apply _ | .tick => .isTrue trivial
  | .run i move => inferInstanceAs (Decidable (∀ run ∈ s.runs[i]?, run.aborted = false →
      ∀ k ∈ bindsAt move, ∀ old ∈ s.runs, old.aborted = true →
        old.task.spec.localPort = run.task.spec.localPort → old.holds k = false))

/-- The forwards that a manager has have different ports and have not failed: a stack with an
error has the other one up beside it. -/
structure NoneFailed (s : Listeners) : Prop where
  tracked : Tracked s
  agrees : ∀ run ∈ s.runs, Agrees run
  ports : ∀ t ∈ s.manager.tasks, ∀ t' ∈ s.manager.tasks,
    t.spec.localPort = t'.spec.localPort → t = t'
  carried : ∀ run ∈ s.runs, run.aborted = false → ∀ k,
    (run.shared.health.get k).error.isSome = true → (run.shared.health.get k.other).up = true

section Step

variable {s : Listeners}

theorem ports_apply {m : ForwardManager} {specs : List ForwardSpec}
    (hports : (specs.map ForwardSpec.localPort).Nodup) :
    ∀ t ∈ (m.apply specs).1.tasks, ∀ t' ∈ (m.apply specs).1.tasks,
      t.spec.localPort = t'.spec.localPort → t = t' := by
  intro t ht t' ht' hport
  have hspec : t.spec = t'.spec :=
    List.inj_on_of_nodup_map hports (spec_mem_of_apply ht) (spec_mem_of_apply ht') hport
  exact eq_of_id_eq ht ht' (congrArg ForwardSpec.id hspec)

/-- No task that the manager has is failed. -/
theorem NoneFailed.not_failed (h : NoneFailed s) {task : ForwardTask}
    (htask : task ∈ s.manager.tasks) (reason : String) : s.stateOf task ≠ .failed reason := by
  intro hstate
  obtain ⟨run, hrun, rfl, hsame⟩ := exists_run_of_stateOf (by rw [hstate]; simp)
  obtain ⟨run', hrun', heq⟩ := List.mem_map.1 ((h.tracked.current run.task).1 htask)
  obtain ⟨htask', haborted⟩ := Prod.mk.inj heq
  obtain rfl := h.tracked.eq_of_task_eq hrun' hrun htask'
  -- both stacks have an error, so the second one is up
  rw [hstate, run'.shared.folded] at hsame
  have herror := foldStacks_failed_iff.1 ⟨reason, hsame⟩
  have hup := h.carried run' hrun haborted .v4 (herror .v4)
  have hclean := (run'.shared.health.get (Stack.other .v4)).clean hup
  simpa [hclean] using herror (Stack.other .v4)

/-- A bind of a current task does not meet another listener. -/
theorem NoneFailed.not_refused (h : NoneFailed s) {i : Nat} {k : Stack} {e : ListenError}
    {run : ForwardRun} (hrun : s.runs[i]? = some run) (haborted : run.aborted = false)
    (hpc : run.holds k = false)
    (hours : PortsAreOurs s (.run i (.stack k (.binds (.error e)))))
    (hbefore : ReleasedBefore s (.run i (.stack k (.binds (.error e))))) : False := by
  have hmem := List.mem_of_getElem? hrun
  obtain ⟨old, hold, hholds⟩ := List.any_eq_true.1 (hours run hrun k rfl)
  obtain ⟨hholds, hport⟩ : old.holds k = true ∧
      old.task.spec.localPort = run.task.spec.localPort := by simpa using hholds
  have hcurrent : ∀ r ∈ s.runs, r.aborted = false → r.task ∈ s.manager.tasks := fun r hr hr' =>
    (h.tracked.current r.task).2 (hr' ▸ mem_roster hr)
  cases hold' : old.aborted with
  | true =>
    rw [hbefore run hrun haborted k rfl old hold hold' hport] at hholds
    cases hholds
  | false =>
    have htask := h.ports _ (hcurrent old hold hold') _ (hcurrent run hmem haborted) hport
    rw [h.tracked.eq_of_task_eq hold hmem htask, hpc] at hholds
    cases hholds

theorem carried_setStack {shared : ForwardShared} {k : Stack} {health : StackHealth}
    (hcases : health.up = true ∨ (shared.health.get k.other).up = true) :
    ∀ j, ((shared.setStack k health).health.get j).error.isSome = true →
      ((shared.setStack k health).health.get j.other).up = true := by
  have hclean : ∀ health : StackHealth, health.error.isSome = true → health.up = false := by
    intro health herror
    refine Bool.eq_false_iff.2 fun hup => ?_
    rw [health.clean hup] at herror
    cases herror
  intro j hj
  rcases Stack.eq_or_eq_other k j with rfl | rfl
  · simp only [ForwardShared.setStack, PerStack.get_set_self] at hj
    simp only [ForwardShared.setStack, PerStack.get_set_other]
    exact hcases.resolve_left (by simp [hclean health hj])
  · simp only [ForwardShared.setStack, PerStack.get_set_other] at hj
    simp only [ForwardShared.setStack, Stack.other_other, PerStack.get_set_self]
    exact hcases.resolve_right (by simp [hclean _ hj])

/-- After a move a stack with an error has the other one up beside it. -/
theorem NoneFailed.carried_step (h : NoneFailed s) {i : Nat} {move : RunMove}
    {run run' : ForwardRun} {recorded : Option (Stack × StackHealth)}
    (hrun : s.runs[i]? = some run) (hmove : RunStep run move run' recorded)
    (hours : PortsAreOurs s (.run i move)) (hbefore : ReleasedBefore s (.run i move))
    (hother : OtherStackUp s (.run i move)) (haborted : run.aborted = false) (k : Stack)
    (hk : ((run'.record recorded).1.shared.health.get k).error.isSome = true) :
    ((run'.record recorded).1.shared.health.get k.other).up = true := by
  have hcarried := h.carried run (List.mem_of_getElem? hrun) haborted
  cases hmove with
  | quiet => exact hcarried k hk
  | bound => exact carried_setStack (.inl rfl) k hk
  | refused hpc =>
    exact (h.not_refused hrun haborted (by simp [ForwardRun.holds, hpc, StackPc.holds]) hours
      hbefore).elim
  | givenUp e hgives => exact carried_setStack (.inr (hother run hrun _ hgives)) k hk

/-- Every guarded step keeps the invariant. -/
theorem NoneFailed.step {t : Listeners} {label : ListenerLabel} {es : List ListenerEvent}
    (h : NoneFailed s) (hours : PortsAreOurs s label) (hbefore : ReleasedBefore s label)
    (hother : OtherStackUp s label) (hstep : ListenerStep s label t es) : NoneFailed t := by
  cases hstep with
  | apply specs =>
    refine ⟨h.tracked.apply specs, ?_, ports_apply hours.2, ?_⟩
    · exact forall_runs_apply h.agrees (fun _ _ hr => ⟨hr.up, hr.down⟩) fun t _ => agrees_start t
    · refine forall_runs_apply h.carried ?_ ?_
      · exact fun r b hr hkept => hr (Bool.or_eq_false_iff.1 hkept).1
      · rintro t - - (_ | _) hk <;> cases hk
  | tick =>
    rcases tick_cases s with hidle | ⟨⟨task, htask, reason, hstate⟩, -⟩
    · rw [hidle]
      exact h
    · exact absurd hstate (h.not_failed htask reason)
  | @run i move run run' recorded hrun hfree hmove =>
    obtain ⟨htask, haborted⟩ := task_step hmove
    refine ⟨h.tracked.set hrun htask haborted, ?_, h.ports, ?_⟩
    · exact forall_runs_set h.agrees ((h.agrees run (List.mem_of_getElem? hrun)).step hmove)
    · refine forall_runs_set h.carried fun hkept => ?_
      exact h.carried_step hrun hmove hours hbefore hother (haborted ▸ hkept)

end Step

/-- **No forward fails for its own manager's sake.** If the lists have distinct ids and ports that
no other process has, a task binds only after the aborted tasks have let go of its address, and a
stack is given up only while the other one is up, then no forward is ever reported as failed. -/
theorem no_forward_fails {s t : Listeners} {labels : List ListenerLabel}
    {log : List ListenerEvent} (hinit : listeners.init s)
    (hours : listeners.Guarded PortsAreOurs s labels)
    (hbefore : listeners.Guarded ReleasedBefore s labels)
    (hother : listeners.Guarded OtherStackUp s labels)
    (hrun : listeners.run s labels = some (t, log)) :
    ∀ status ∈ t.statuses, ∀ reason, status.state ≠ .failed reason := by
  have h₀ : NoneFailed s :=
    ⟨tracked_init hinit, by simp [hinit.2], by simp [hinit.1, ForwardManager.empty],
      by simp [hinit.2]⟩
  have h : NoneFailed t := by
    refine listeners.guarded_invariant ?_ h₀ (hours.and (hbefore.and hother)) hrun
    exact fun s label t es hguard h hstep => h.step hguard.1 hguard.2.1 hguard.2.2 (.of_step hstep)
  intro status hstatus reason
  obtain ⟨task, htask, rfl⟩ := List.mem_map.1 hstatus
  exact h.not_failed htask reason

/-! ## A new target for a port -/

/-- The target of a forward changes while it listens on both stacks, and its new task starts. -/
def webRetarget : List ListenerLabel :=
  webStarts ++ [.run 0 (.stack .v6 (.binds (.ok ()))),
    .apply [⟨"web", 8080, .domain "intranet" 81⟩], .run 1 .starts]

/-- The runtime drops the old task and those of its stacks, and then the new one binds. -/
def webHandsOver : List ListenerLabel :=
  webRetarget ++ [.run 0 .dropped, .run 0 (.stack .v4 .cancelled), .run 0 (.stack .v6 .cancelled),
    .run 1 (.stack .v4 (.binds (.ok ()))), .run 1 (.stack .v6 (.binds (.ok ())))]

def webCollides : List ListenerLabel :=
  webRetarget ++ [.run 1 (.stack .v4 (.binds (.error portTaken))),
    .run 1 (.stack .v6 (.binds (.error portTaken)))]

theorem no_forward_fails_handsOver :
    ∃ t log, listeners.run webOnly webHandsOver = some (t, log) ∧
      ∀ status ∈ t.statuses, ∀ reason, status.state ≠ .failed reason := by
  have hsome : (listeners.run webOnly webHandsOver).isSome = true := by decide
  obtain ⟨⟨t, log⟩, hrun⟩ := Option.isSome_iff_exists.1 hsome
  exact ⟨t, log, hrun, no_forward_fails ⟨rfl, rfl⟩ (by decide) (by decide) (by decide) hrun⟩

/-- The lists have distinct ids and ports, nobody else has the port and no listener is given up;
but the forward fails because its old task has not let go of the port. -/
theorem collision_fails :
    listeners.init webOnly ∧ listeners.Guarded PortsAreOurs webOnly webCollides ∧
      listeners.Guarded OtherStackUp webOnly webCollides ∧
      (listeners.run webOnly webCollides).map (fun r => r.1.statuses) =
        some [⟨"web", .failed "port 8080 is in use"⟩] :=
  ⟨⟨rfl, rfl⟩, by decide, by decide, by decide⟩

end Flextunnel.Analysis
