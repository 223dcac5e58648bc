import Flextunnel.Analysis.Reconciling
import Flextunnel.Model.Listeners

/-!
# The tasks of the forwards

What holds of the tasks of the forwards in every run, whatever is bound or given up.
-/

set_option autoImplicit false

namespace Flextunnel.Analysis

open Lib Model Model.ForwardManager

/-! ## Tasks that are started -/

section Started

variable {m : ForwardManager} {specs : List ForwardSpec}

theorem tasks_foldl_start (m : ForwardManager) (specs : List ForwardSpec) :
    ∃ new, (specs.foldl start m).tasks = m.tasks ++ new ∧
      (new.map ForwardTask.handle).Nodup ∧ (∀ t ∈ new, m.nextHandle ≤ t.handle) ∧
      m.nextHandle ≤ (specs.foldl start m).nextHandle := by
  induction specs generalizing m with
  | nil => exact ⟨[], by simp⟩
  | cons spec specs ih =>
    obtain ⟨new, htasks, hnodup, hnew, hle⟩ := ih (m.start spec)
    cases hhas : m.hasTask spec.id with
    | true =>
      rw [start_of_hasTask hhas] at htasks hnew hle
      rw [List.foldl_cons, start_of_hasTask hhas]
      exact ⟨new, htasks, hnodup, hnew, hle⟩
    | false =>
      have hnext : (m.start spec).nextHandle = m.nextHandle + 1 := by
        rw [start, dif_neg (by rw [hhas]; exact Bool.false_ne_true)]
      rw [hnext] at hnew hle
      rw [tasks_start_of_not_hasTask hhas, List.append_assoc] at htasks
      refine ⟨⟨spec, m.nextHandle⟩ :: new, htasks, ?_, ?_, Nat.le_of_succ_le hle⟩
      · refine List.nodup_cons.2 ⟨fun hmem => ?_, hnodup⟩
        obtain ⟨t, ht, heq⟩ := List.mem_map.1 hmem
        exact absurd (hnew t ht) (by rw [heq]; exact Nat.not_succ_le_self _)
      intro t ht
      rcases List.mem_cons.1 ht with rfl | ht
      · exact Nat.le_refl _
      · exact Nat.le_of_succ_le (hnew t ht)

/-- Applying a list keeps the tasks that are wanted and starts those that are missing. -/
theorem tasks_apply (m : ForwardManager) (specs : List ForwardSpec) :
    (m.apply specs).1.tasks = m.tasks.filter (isDesired specs) ++ m.started specs ∧
      ((m.started specs).map ForwardTask.handle).Nodup ∧
      m.nextHandle ≤ (m.apply specs).1.nextHandle := by
  obtain ⟨new, htasks, hnodup, hnew, hle⟩ :=
    tasks_foldl_start (m.retain (isDesired specs)) specs
  have hold : (m.tasks.filter (isDesired specs)).filter (fun t => m.nextHandle ≤ t.handle) =
      [] := by
    refine List.filter_eq_nil_iff.2 fun t ht => ?_
    simpa using m.fresh t (List.mem_of_mem_filter ht)
  have hstarted : m.started specs = new := by
    unfold started apply
    rw [htasks, List.filter_append]
    have hkeep : new.filter (fun t => m.nextHandle ≤ t.handle) = new :=
      List.filter_eq_self.2 fun t ht => decide_eq_true (hnew t ht)
    rw [hkeep]
    exact congrArg (· ++ new) hold
  rw [hstarted]
  exact ⟨htasks, hnodup, hle⟩

theorem handle_of_started {t : ForwardTask} (h : t ∈ m.started specs) :
    m.nextHandle ≤ t.handle ∧ t.handle < (m.apply specs).1.nextHandle := by
  obtain ⟨hmem, hle⟩ := List.mem_filter.1 h
  exact ⟨by simpa using hle, (m.apply specs).1.fresh t hmem⟩

theorem spec_mem_of_apply {t : ForwardTask} (h : t ∈ (m.apply specs).1.tasks) :
    t.spec ∈ specs := by
  rcases exists_task_apply.1 ⟨t, h, rfl⟩ with ⟨-, -, -, hlast⟩ | ⟨-, hfirst⟩
  · exact (mem_of_lastSpec hlast).1
  · exact mem_of_firstSpec hfirst

end Started

/-! ## What the manager knows of its tasks -/

def roster (s : Listeners) : List (ForwardTask × Bool) := s.runs.map fun r => (r.task, r.aborted)

/-- The manager has the tasks that were not aborted, and no two tasks have one handle. -/
structure Tracked (s : Listeners) : Prop where
  current : ∀ t, t ∈ s.manager.tasks ↔ (t, false) ∈ roster s
  distinct : ((roster s).map fun e => e.1.handle).Nodup
  fresh : ∀ e ∈ roster s, e.1.handle < s.manager.nextHandle

section Tracked

variable {s : Listeners} {run run' : ForwardRun}

theorem mem_roster (h : run ∈ s.runs) : (run.task, run.aborted) ∈ roster s :=
  List.mem_map_of_mem h

theorem Tracked.eq_of_task_eq (h : Tracked s) (hrun : run ∈ s.runs) (hrun' : run' ∈ s.runs)
    (htask : run.task = run'.task) : run = run' := by
  have hnodup : (s.runs.map fun r => r.task.handle).Nodup := by
    simpa [roster, Function.comp_def] using h.distinct
  exact List.inj_on_of_nodup_map hnodup hrun hrun' (congrArg ForwardTask.handle htask)

/-- A task is in one place. -/
theorem Tracked.index_eq (h : Tracked s) {i j : Nat} (hi : s.runs[i]? = some run)
    (hj : s.runs[j]? = some run') (htask : run.task = run'.task) : i = j := by
  have hrun := h.eq_of_task_eq (List.mem_of_getElem? hi) (List.mem_of_getElem? hj) htask
  have hnodup : s.runs.Nodup := by
    refine List.Nodup.of_map (fun r => r.task.handle) ?_
    simpa [roster, Function.comp_def] using h.distinct
  exact (List.getElem?_inj (List.getElem?_eq_some_iff.1 hi).1 hnodup).1 (hi.trans (hrun ▸ hj.symm))

theorem Tracked.set (h : Tracked s) {i : Nat} (hi : s.runs[i]? = some run)
    (htask : run'.task = run.task) (haborted : run'.aborted = run.aborted) :
    Tracked { s with runs := s.runs.set i run' } := by
  have hroster : roster { s with runs := s.runs.set i run' } = roster s := by
    obtain ⟨hlt, hget⟩ := List.getElem?_eq_some_iff.1 hi
    have hsame : (run'.task, run'.aborted) = (run.task, run.aborted) := by rw [htask, haborted]
    have hself : s.runs.set i run = s.runs := by rw [← hget, List.set_getElem_self]
    unfold roster
    rw [List.map_set, hsame, ← List.map_set (f := fun r : ForwardRun => (r.task, r.aborted)), hself]
  exact ⟨hroster ▸ h.current, hroster ▸ h.distinct, hroster ▸ h.fresh⟩

/-- A list that is applied keeps the manager in step with its tasks. -/
theorem Tracked.apply (h : Tracked s) (specs : List ForwardSpec) : Tracked (s.apply specs) := by
  obtain ⟨htasks, hnodup, hle⟩ := tasks_apply s.manager specs
  have hroster : roster (s.apply specs) =
      ((roster s).map fun e => (e.1, e.2 || (s.manager.apply specs).2.contains e.1)) ++
        (s.manager.started specs).map fun t => (t, false) := by
    simp [roster, Listeners.apply, started, ForwardRun.start, Function.comp_def]
  constructor
  · intro t
    -- a task is aborted if the manager had it and it is not wanted
    have hkept : t ∈ s.manager.tasks.filter (isDesired specs) ↔
        (t, false) ∈ (roster s).map fun e =>
          (e.1, e.2 || (s.manager.apply specs).2.contains e.1) := by
      have habort : (s.manager.apply specs).2.contains t = true ↔
          t ∈ s.manager.tasks ∧ isDesired specs t = false := by
        simp [ForwardManager.apply]
      simp only [List.mem_filter, h.current, List.mem_map, Prod.mk.injEq, Bool.or_eq_false_iff,
        Prod.exists]
      constructor
      · rintro ⟨hmem, hdesired⟩
        refine ⟨t, false, hmem, rfl, rfl, Bool.eq_false_iff.2 fun hcontains => ?_⟩
        rw [(habort.1 hcontains).2] at hdesired
        cases hdesired
      rintro ⟨t', aborted, hmem, rfl, rfl, hcontains⟩
      refine ⟨hmem, Bool.not_eq_false _ ▸ fun hdesired => ?_⟩
      rw [habort.2 ⟨(h.current t').2 hmem, hdesired⟩] at hcontains
      cases hcontains
    rw [hroster, List.mem_append, ← hkept]
    simp [Listeners.apply, htasks]
  · rw [hroster, List.map_append, List.map_map, List.map_map, List.nodup_append]
    refine ⟨h.distinct, hnodup, fun n hn n' hn' => ?_⟩
    obtain ⟨e, he, rfl⟩ := List.mem_map.1 hn
    obtain ⟨t, ht, rfl⟩ := List.mem_map.1 hn'
    exact Nat.ne_of_lt (Nat.lt_of_lt_of_le (h.fresh e he) (handle_of_started ht).1)
  · intro e he
    rw [hroster, List.mem_append] at he
    rcases he with he | he
    · obtain ⟨e', he', rfl⟩ := List.mem_map.1 he
      exact Nat.lt_of_lt_of_le (h.fresh e' he') hle
    · obtain ⟨t, ht, rfl⟩ := List.mem_map.1 he
      exact (handle_of_started ht).2

theorem tracked_init (h : listeners.init s) : Tracked s := by
  obtain ⟨hmanager, hruns⟩ := h
  constructor <;> simp [roster, hmanager, hruns, ForwardManager.empty]

end Tracked

/-! ## The state of a forward -/

variable {health : PerStack StackHealth} {forwards : List PortForward}

/-- A forward listens when a stack is up. -/
theorem foldStacks_listening_iff {port : UInt16} :
    foldStacks port health = .listening ↔ ∃ k, (health.get k).up = true := by
  have hup : (health.v4.up || health.v6.up) = true ↔ ∃ k, (health.get k).up = true := by
    rw [Bool.or_eq_true]
    exact ⟨fun h => h.elim (fun h => ⟨.v4, h⟩) fun h => ⟨.v6, h⟩,
      fun ⟨k, h⟩ => by cases k <;> simp_all [PerStack.get]⟩
  rw [← hup]
  unfold foldStacks
  split
  · simp [*]
  next hdown =>
    refine iff_of_false ?_ hdown
    split
    · split <;> simp
    · simp

/-- A forward has failed when both stacks report an error. -/
theorem foldStacks_failed_iff {port : UInt16} :
    (∃ reason, foldStacks port health = .failed reason) ↔
      ∀ k, (health.get k).error.isSome = true := by
  constructor
  · rintro ⟨reason, h⟩
    unfold foldStacks at h
    split at h
    · cases h
    split at h
    next h4 h6 =>
      intro k
      cases k <;> simp [PerStack.get, h4, h6]
    · cases h
  intro h
  have hdown : ∀ k, (health.get k).up = false := by
    refine fun k => Bool.eq_false_iff.2 fun hup => ?_
    have herror := h k
    rw [(health.get k).clean hup] at herror
    cases herror
  have hany : (health.v4.up || health.v6.up) = false :=
    Bool.or_eq_false_iff.2 ⟨hdown .v4, hdown .v6⟩
  obtain ⟨⟨kind, text⟩, h4⟩ := Option.isSome_iff_exists.1 (h .v4)
  obtain ⟨⟨kind', text'⟩, h6⟩ := Option.isSome_iff_exists.1 (h .v6)
  simp only [PerStack.get] at h4 h6
  simp only [foldStacks, hany, h4, h6, Bool.false_eq_true, if_false]
  by_cases hkind : kind = .addrInUse ∨ kind' = .addrInUse
  · exact ⟨_, if_pos hkind⟩
  · exact ⟨_, if_neg hkind⟩

theorem not_failed_of_up {shared : ForwardShared} {k : Stack}
    (hup : (shared.health.get k).up = true) (reason : String) :
    shared.state ≠ .failed reason := by
  rw [shared.folded, foldStacks_listening_iff.2 ⟨k, hup⟩]
  simp

/-! ## The stacks and their tasks -/

/-- A stack is up while its task has the listener and down while it is in its bind loop. -/
structure Agrees (run : ForwardRun) : Prop where
  up : ∀ k, run.holds k = true → (run.shared.health.get k).up = true
  down : ∀ k, (run.tasks.get k).pc.unbound = true → (run.shared.health.get k).up = false

section Agrees

variable {run run' : ForwardRun} {move : RunMove} {recorded : Option (Stack × StackHealth)}

theorem agrees_start (task : ForwardTask) : Agrees (.start task) := by
  constructor
  · rintro (_ | _) h <;> cases h
  · rintro (_ | _) - <;> rfl

theorem Agrees.set (h : Agrees run) {k : Stack} {task : StackTask} {health : StackHealth}
    (hup : task.pc.holds = true → health.up = true)
    (hdown : task.pc.unbound = true → health.up = false) :
    Agrees { run with tasks := run.tasks.set k task, shared := run.shared.setStack k health } := by
  constructor
  · intro j hj
    rcases Stack.eq_or_eq_other k j with rfl | rfl
    · simp only [ForwardRun.holds, PerStack.get_set_self] at hj
      simpa [ForwardShared.setStack] using hup hj
    · simp only [ForwardRun.holds, PerStack.get_set_other] at hj
      simpa [ForwardShared.setStack] using h.up _ hj
  intro j hj
  rcases Stack.eq_or_eq_other k j with rfl | rfl
  · simp only [PerStack.get_set_self] at hj
    simpa [ForwardShared.setStack] using hdown hj
  · simp only [PerStack.get_set_other] at hj
    simpa [ForwardShared.setStack] using h.down _ hj

/-- Every step of a task keeps its stack as it reports it. -/
theorem Agrees.step (h : Agrees run) (hmove : RunStep run move run' recorded) :
    Agrees (run'.record recorded).1 := by
  cases hmove with
  | quiet move phase hholds hunbound =>
    exact ⟨fun k hk => h.up k (hholds k hk), fun k hk => h.down k (hunbound k hk)⟩
  | bound hpc htask => exact h.set (fun _ => rfl) (by simp [htask, StackPc.unbound])
  | refused hpc htask => exact h.set (by simp [htask, StackPc.holds]) fun _ => rfl
  | givenUp e hgives htask => exact h.set (by simp [htask]) fun _ => rfl

end Agrees

/-! ## Every run of a manager -/

section Runs

variable {s : Listeners}

theorem forall_runs_set {P : ForwardRun → Prop} {i : Nat} {run : ForwardRun}
    (h : ∀ r ∈ s.runs, P r) (hrun : P run) : ∀ r ∈ s.runs.set i run, P r := by
  intro r hr
  rcases List.mem_or_eq_of_mem_set hr with hr | rfl
  · exact h r hr
  · exact hrun

theorem forall_runs_apply {P : ForwardRun → Prop} {specs : List ForwardSpec}
    (h : ∀ r ∈ s.runs, P r) (haborted : ∀ r b, P r → P { r with aborted := r.aborted || b })
    (hstart : ∀ t ∈ s.manager.started specs, P (.start t)) :
    ∀ r ∈ (s.apply specs).runs, P r := by
  intro r hr
  rcases List.mem_append.1 hr with hr | hr
  · obtain ⟨r', hr', rfl⟩ := List.mem_map.1 hr
    exact haborted r' _ (h r' hr')
  · obtain ⟨t, ht, rfl⟩ := List.mem_map.1 hr
    exact hstart t ht

theorem exists_run_of_stateOf {task : ForwardTask} (h : s.stateOf task ≠ .starting) :
    ∃ run ∈ s.runs, run.task = task ∧ run.shared.state = s.stateOf task := by
  unfold Listeners.stateOf at h ⊢
  cases hfind : s.runs.find? fun run => run.task == task with
  | none => simp [hfind] at h
  | some run =>
    exact ⟨run, List.mem_of_find?_eq_some hfind, by simpa using List.find?_some hfind, rfl⟩

end Runs

/-! ## Forwards that are switched off -/

theorem enabled_of_disableFailed {status : ForwardStatus} {f : PortForward}
    (hf : f ∈ (disableFailed forwards status).1) (hon : f.enabled = true) : f ∈ forwards := by
  unfold disableFailed at hf
  split at hf
  · split at hf
    next i hi =>
      obtain ⟨j, hj⟩ := List.mem_iff_getElem?.1 hf
      rw [List.getElem?_modify] at hj
      split at hj
      · obtain ⟨g, -, rfl⟩ := Option.map_eq_some_iff.1 hj
        cases hon
      · exact List.mem_of_getElem? (by simpa using hj)
    · exact hf
  · exact hf

/-- Only a forward that is on and has failed is switched off. -/
theorem of_disabled {statuses : List ForwardStatus} {e : String × String}
    (h : e ∈ (disableFailedForwards forwards statuses).2) :
    ⟨e.1, .failed e.2⟩ ∈ statuses ∧ ∃ f ∈ forwards, f.id = e.1 ∧ f.enabled = true := by
  have hone : ∀ fs status, e ∈ (disableFailed fs status).2 →
      status = ⟨e.1, .failed e.2⟩ ∧ ∃ f ∈ fs, f.id = e.1 ∧ f.enabled = true := by
    intro fs status he
    unfold disableFailed at he
    split at he
    next hstate =>
      split at he
      next i hi =>
        obtain rfl := List.mem_singleton.1 he
        obtain ⟨hlt, hfound, -⟩ := List.findIdx?_eq_some_iff_getElem.1 hi
        exact ⟨by simp [← hstate], fs[i], List.getElem_mem hlt, by simpa using hfound⟩
      · cases he
    · cases he
  induction statuses generalizing forwards with
  | nil => cases h
  | cons status statuses ih =>
    rw [disableFailedForwards_cons] at h
    rcases List.mem_append.1 h with h | h
    · obtain ⟨rfl, hf⟩ := hone _ _ h
      exact ⟨List.mem_cons_self, hf⟩
    · obtain ⟨hmem, f, hf, hid, hon⟩ := ih h
      exact ⟨List.mem_cons_of_mem _ hmem, f, enabled_of_disableFailed hf hon, hid, hon⟩

/-- A tick does nothing, or switches forwards off whose tasks have failed. -/
theorem tick_cases (s : Listeners) :
    s.tick = (s, []) ∨
      (∃ task ∈ s.manager.tasks, ∃ reason, s.stateOf task = .failed reason) ∧
      ∃ (forwards : List PortForward) (tasks : List ForwardTask),
        s.tick = ({ s.apply (enabledSpecs forwards) with forwards }, tasks.map .switchedOff) ∧
          ∀ task ∈ tasks, ∃ reason, s.stateOf task = .failed reason := by
  have hfailed : ∀ e ∈ (disableFailedForwards s.forwards s.statuses).2,
      ∃ task ∈ s.manager.tasks, task.spec.id = e.1 ∧ s.stateOf task = .failed e.2 := by
    intro e he
    obtain ⟨task, htask, hstatus⟩ := List.mem_map.1 (of_disabled he).1
    obtain ⟨hid, hstate⟩ := ForwardStatus.mk.inj hstatus
    exact ⟨task, htask, hid, hstate⟩
  by_cases hnil : (disableFailedForwards s.forwards s.statuses).2 = []
  · exact .inl (if_pos hnil)
  refine .inr ⟨?_, _, _, if_neg hnil, ?_⟩
  · obtain ⟨e, he⟩ := List.exists_mem_of_ne_nil _ hnil
    obtain ⟨task, htask, -, hstate⟩ := hfailed e he
    exact ⟨task, htask, e.2, hstate⟩
  intro task htask
  obtain ⟨htask, hany⟩ := List.mem_filter.1 htask
  obtain ⟨e, he, hid⟩ := List.any_eq_true.1 hany
  obtain ⟨task', htask', hid', hstate⟩ := hfailed e he
  obtain rfl : task' = task := eq_of_id_eq htask' htask (hid'.trans (by simpa using hid))
  exact ⟨e.2, hstate⟩

end Flextunnel.Analysis
