import Flextunnel.Analysis.ForwardTasks

/-!
# Failures after the setup

A tick switches every failed forward off, on the ground that a forward only fails while it is set
up. A stack that was up is marked as down when its listener is given up, though, and if the other
stack is not up at that moment the forward fails (`lost_listener_switched_off`).
-/

set_option autoImplicit false

namespace Flextunnel.Analysis

open Lib Model

/-- A stack is given up only while the other stack of the forward is up. -/
def OtherStackUp (s : Listeners) : ListenerLabel → Prop
  | .run i move => ∀ run ∈ s.runs[i]?, ∀ k ∈ run.givesUp move,
      (run.shared.health.get k.other).up = true
  | _ => True

instance decidableOtherStackUp (s : Listeners) : (label : ListenerLabel) →
    Decidable (OtherStackUp s label)
  | .apply _ | .tick => .isTrue trivial
  | .run i move => inferInstanceAs (Decidable (∀ run ∈ s.runs[i]?, ∀ k ∈ run.givesUp move,
      (run.shared.health.get k.other).up = true))

/-- A task reports that its forward failed, or the forward is switched off for it. -/
def IsFailure (task : ForwardTask) : ListenerEvent → Prop
  | .reported t (.failed _) => t = task
  | .switchedOff t => t = task
  | _ => False

/-- A task that has reported that it listens has a stack that is up, and no task failed after it
listened. -/
structure UpSinceListening (log : List ListenerEvent) (s : Listeners) : Prop where
  tracked : Tracked s
  known : ∀ task state, .reported task state ∈ log → task.handle < s.manager.nextHandle
  agrees : ∀ run ∈ s.runs, Agrees run
  stays : ∀ run ∈ s.runs, .reported run.task .listening ∈ log →
    ∃ k, (run.shared.health.get k).up = true
  never : ∀ task, log.Pairwise fun e e' => e = .reported task .listening → ¬ IsFailure task e'

/-! ## A move of one forward -/

section Move

variable {run run' : ForwardRun} {move : RunMove} {recorded : Option (Stack × StackHealth)}

/-- While no stack is given up alone, a forward with a stack up keeps one up. -/
theorem up_step (hagrees : Agrees run) (hmove : RunStep run move run' recorded)
    (hother : ∀ k ∈ run.givesUp move, (run.shared.health.get k.other).up = true)
    (hup : ∃ k, (run.shared.health.get k).up = true) :
    ∃ k, ((run'.record recorded).1.shared.health.get k).up = true := by
  cases hmove with
  | quiet => exact hup
  | @bound k => exact ⟨k, by simp [ForwardRun.record, ForwardShared.setStack, StackHealth.isUp]⟩
  | @refused k _ _ _ hpc =>
    -- the stack that fails to bind was down, so the other one is up
    obtain ⟨j, hj⟩ := hup
    rcases Stack.eq_or_eq_other k j with rfl | rfl
    · rw [hagrees.down j (by simp [hpc, StackPc.unbound])] at hj
      cases hj
    · exact ⟨k.other, by simpa [ForwardRun.record, ForwardShared.setStack] using hj⟩
  | @givenUp _ k _ _ hgives =>
    exact ⟨k.other, by simpa [ForwardRun.record, ForwardShared.setStack] using hother k hgives⟩

theorem state_of_reported {state : ForwardState} (h : (run'.record recorded).2 = some state) :
    (run'.record recorded).1.shared.state = state := by
  cases recorded with
  | none => cases h
  | some r => exact Option.some.inj h

theorem task_step (hmove : RunStep run move run' recorded) :
    (run'.record recorded).1.task = run.task ∧
      (run'.record recorded).1.aborted = run.aborted := by
  cases hmove <;> exact ⟨rfl, rfl⟩

end Move

/-! ## A step of the listeners -/

section Step

variable {log : List ListenerEvent} {s : Listeners}

/-- A forward that has failed has never listened. -/
theorem UpSinceListening.not_listened (h : UpSinceListening log s) {task : ForwardTask}
    {reason : String} (hstate : s.stateOf task = .failed reason) :
    .reported task .listening ∉ log := by
  intro hmem
  obtain ⟨run, hrun, rfl, hsame⟩ := exists_run_of_stateOf (by rw [hstate]; simp)
  obtain ⟨k, hup⟩ := h.stays run hrun hmem
  exact not_failed_of_up hup reason (hsame.trans hstate)

/-- New lists, and forwards switched off, keep the invariant. -/
theorem UpSinceListening.apply (h : UpSinceListening log s) (specs : List ForwardSpec)
    (forwards : List PortForward) {tasks : List ForwardTask}
    (hfailed : ∀ task ∈ tasks, ∃ reason, s.stateOf task = .failed reason) :
    UpSinceListening (log ++ tasks.map .switchedOff) { s.apply specs with forwards } := by
  have hold : ∀ task state, ListenerEvent.reported task state ∈ log ++ tasks.map .switchedOff →
      .reported task state ∈ log := by simp
  refine ⟨⟨(h.tracked.apply specs).1, (h.tracked.apply specs).2, (h.tracked.apply specs).3⟩,
    ?_, ?_, ?_, ?_⟩
  · intro task state hmem
    exact Nat.lt_of_lt_of_le (h.known task state (hold _ _ hmem)) (tasks_apply _ _).2.2
  · exact forall_runs_apply h.agrees (fun _ _ hr => ⟨hr.up, hr.down⟩) fun t _ => agrees_start t
  · refine forall_runs_apply (fun r hr hmem => h.stays r hr (hold _ _ hmem)) (fun _ _ hr => hr) ?_
    -- the handle of a task that starts is new
    intro t ht hmem
    exact absurd (h.known t _ (hold _ _ hmem)) (Nat.not_lt_of_le (handle_of_started ht).1)
  intro task
  refine List.pairwise_append.2 ⟨h.never task, ?_, ?_⟩
  · exact List.pairwise_map.2 (List.pairwise_of_forall fun _ _ => by simp)
  rintro e he e' he' rfl hfailure
  obtain ⟨t, ht, rfl⟩ := List.mem_map.1 he'
  obtain rfl : t = task := hfailure
  obtain ⟨reason, hstate⟩ := hfailed t ht
  exact h.not_listened hstate he

/-- Every guarded step keeps it. -/
theorem UpSinceListening.step {t : Listeners} {label : ListenerLabel} {es : List ListenerEvent}
    (h : UpSinceListening log s) (hother : OtherStackUp s label)
    (hstep : ListenerStep s label t es) : UpSinceListening (log ++ es) t := by
  cases hstep with
  | apply specs =>
    have hnone : ∀ task ∈ ([] : List ForwardTask), ∃ reason, s.stateOf task = .failed reason := by
      simp
    exact h.apply specs s.forwards hnone
  | tick =>
    rcases tick_cases s with hidle | ⟨-, forwards, tasks, htick, hfailed⟩
    · rw [hidle]
      simpa using h
    · rw [htick]
      exact h.apply (enabledSpecs forwards) forwards hfailed
  | @run i move run run' recorded hrun hfree hmove =>
    have hmem := List.mem_of_getElem? hrun
    obtain ⟨htask, haborted⟩ := task_step hmove
    have hkept (hlistened : .reported run.task .listening ∈ log) :=
      up_step (h.agrees run hmem) hmove (hother run hrun) (h.stays run hmem hlistened)
    have hnew : ∀ task state, .reported task state ∈
        ((run'.record recorded).2.map (ListenerEvent.reported run.task)).toList →
          task = run.task ∧ (run'.record recorded).1.shared.state = state := by
      intro task state he
      obtain ⟨state', hstate, heq⟩ := Option.map_eq_some_iff.1 (Option.mem_toList.1 he)
      obtain ⟨rfl, rfl⟩ := ListenerEvent.reported.inj heq
      exact ⟨rfl, state_of_reported hstate⟩
    refine ⟨h.tracked.set hrun htask haborted, ?_, ?_, ?_, ?_⟩
    · intro task state he
      rcases List.mem_append.1 he with he | he
      · exact h.known task state he
      · rw [(hnew task state he).1]
        exact h.tracked.fresh _ (mem_roster hmem)
    · exact forall_runs_set h.agrees ((h.agrees run hmem).step hmove)
    · intro r hr hlistened
      obtain ⟨j, hj⟩ := List.mem_iff_getElem?.1 hr
      rcases getElem?_set_cases hj with ⟨rfl, rfl⟩ | ⟨hne, hj⟩
      · rw [htask] at hlistened
        rcases List.mem_append.1 hlistened with hold | he
        · exact hkept hold
        · have hstate := (hnew _ _ he).2
          rw [ForwardShared.folded] at hstate
          exact foldStacks_listening_iff.1 hstate
      · have hold := (List.mem_append.1 hlistened).resolve_right fun he =>
          hne (h.tracked.index_eq hj hrun (hnew _ _ he).1)
        exact h.stays r (List.mem_of_getElem? hj) hold
    · intro task
      refine List.pairwise_append.2 ⟨h.never task, ?_, ?_⟩
      · cases (run'.record recorded).2 <;> simp
      rintro e hold (⟨t, state⟩ | t) he rfl hfailure
      · obtain ⟨rfl, hstate⟩ := hnew t state he
        cases state with
        | starting | listening => exact hfailure
        | failed reason =>
          obtain rfl : run.task = task := hfailure
          obtain ⟨k, hup⟩ := hkept hold
          exact not_failed_of_up hup reason hstate
      · obtain ⟨state, -, ⟨⟩⟩ := Option.map_eq_some_iff.1 (Option.mem_toList.1 he)

end Step

/-- **A forward fails only while it is set up.** In every run in which a stack is given up only
while the other one is up, no task reports that its forward failed after it reported that it
listens, and no forward is switched off then. -/
theorem failed_only_before_listening {s t : Listeners} {labels : List ListenerLabel}
    {log : List ListenerEvent} (hinit : listeners.init s)
    (hother : listeners.Guarded OtherStackUp s labels)
    (hrun : listeners.run s labels = some (t, log)) (task : ForwardTask) :
    log.Pairwise fun e e' => e = .reported task .listening → ¬ IsFailure task e' := by
  have h₀ : UpSinceListening [] s :=
    ⟨tracked_init hinit, by simp, by simp [hinit.2], by simp, fun _ => .nil⟩
  refine (listeners.guarded_log_rule (P := UpSinceListening) ?_ h₀ hother hrun).never task
  exact fun log s label t es hguard h hstep => h.step hguard (.of_step hstep)

/-! ## One forward -/

def webOnly : Listeners where
  forwards := [⟨"web", "", 8080, "intranet", 80, true⟩]
  manager := .empty
  runs := []

def webTask : ForwardTask := ⟨⟨"web", 8080, .domain "intranet" 80⟩, 0⟩

def deadSocket : ListenError := ⟨.other, false, "Bad file descriptor"⟩

def portTaken : ListenError := ⟨.addrInUse, false, "Address already in use"⟩

def webStarts : List ListenerLabel :=
  [.apply (enabledSpecs webOnly.forwards), .run 0 .starts, .run 0 (.stack .v4 (.binds (.ok ())))]

def webRebinds : List ListenerLabel :=
  webStarts ++ [.run 0 (.stack .v6 (.binds (.ok ()))),
    .run 0 (.stack .v4 (.accepts (.error deadSocket))), .tick,
    .run 0 (.stack .v4 (.binds (.ok ())))]

theorem failed_only_before_listening_rebinds :
    ∃ t log, listeners.run webOnly webRebinds = some (t, log) ∧
      log.Pairwise fun e e' => e = .reported webTask .listening → ¬ IsFailure webTask e' := by
  have hlog : (listeners.run webOnly webRebinds).map Prod.snd =
      some (List.replicate 4 (.reported webTask .listening)) := by decide
  obtain ⟨t, hrun⟩ := listeners.exists_run_of_log hlog
  exact ⟨t, _, hrun, failed_only_before_listening ⟨rfl, rfl⟩ (by decide) hrun webTask⟩

/-- One stack is up and the port is taken on the other; the one that is up loses its socket, and
the next tick switches the forward off. -/
theorem lost_listener_switched_off :
    listeners.init webOnly ∧
      ∃ t, listeners.run webOnly (webStarts ++ [.run 0 (.stack .v6 (.binds (.error portTaken))),
          .run 0 (.stack .v4 (.accepts (.error deadSocket))), .tick]) =
        some (t, [.reported webTask .listening, .reported webTask .listening,
          .reported webTask (.failed "port 8080 is in use"), .switchedOff webTask]) :=
  ⟨⟨rfl, rfl⟩, listeners.exists_run_of_log (by decide)⟩

end Flextunnel.Analysis
