import Flextunnel.Model.ForwardManager

/-!
# Reconciling the listeners with a list

`apply` decides what to keep from a map of the list, where the last spec of an id counts, and what
to start from the list itself, where the first one does. The two agree unless the list has
different specs for one id; then a listener that was just started is aborted the next time.
-/

set_option autoImplicit false

namespace Flextunnel.Analysis

open Lib Model Model.ForwardManager

def firstSpec (forwards : List ForwardSpec) (id : String) : Option ForwardSpec :=
  (forwards.filter fun f => f.id == id).head?

def lastSpec (forwards : List ForwardSpec) (id : String) : Option ForwardSpec :=
  (forwards.filter fun f => f.id == id).getLast?

/-- What reconciling means: one task for each id of the list, a task with a spec of the list is
left alone, and doing it again does nothing. -/
structure Reconciles (m : ForwardManager) (forwards : List ForwardSpec) : Prop where
  one : ∀ id, (m.apply forwards).1.hasTask id = true ↔ id ∈ forwards.map ForwardSpec.id
  kept : ∀ t ∈ m.tasks, t.spec ∈ forwards →
    t ∈ (m.apply forwards).1.tasks ∧ t ∉ (m.apply forwards).2
  settled : (m.apply forwards).1.apply forwards = ((m.apply forwards).1, [])

variable {m : ForwardManager} {forwards : List ForwardSpec}

/-! ## The specs of a list -/

variable {t : ForwardTask} {spec : ForwardSpec}

/-- The map of the list has the last spec of each id. -/
theorem isDesired_iff :
    isDesired forwards t = true ↔ lastSpec forwards t.spec.id = some t.spec := by
  have hfilter : (forwards.map fun f => (f.id, f)).filter (fun e => e.1 == t.spec.id) =
      (forwards.filter fun f => f.id == t.spec.id).map fun f => (f.id, f) := by
    rw [List.filter_map]
    rfl
  unfold isDesired desired lastSpec
  rw [decide_eq_true_eq, Table.lookup_collect, hfilter, List.getLast?_map, Option.map_map]
  simp

theorem mem_of_lastSpec {id : String} (h : lastSpec forwards id = some spec) :
    spec ∈ forwards ∧ spec.id = id := by
  have hmem := List.mem_filter.1 (List.mem_of_getLast? h)
  exact ⟨hmem.1, by simpa using hmem.2⟩

theorem mem_of_firstSpec {id : String} (h : firstSpec forwards id = some spec) :
    spec ∈ forwards := by
  rw [firstSpec, List.head?_filter] at h
  exact List.mem_of_find?_eq_some h

theorem exists_firstSpec (h : spec ∈ forwards) :
    ∃ first, firstSpec forwards spec.id = some first ∧ first.id = spec.id := by
  have hfind : (forwards.find? fun f => f.id == spec.id).isSome = true :=
    List.find?_isSome.2 ⟨spec, h, beq_self_eq_true _⟩
  obtain ⟨first, hfirst⟩ := Option.isSome_iff_exists.1 hfind
  have hid := List.find?_some hfirst
  exact ⟨first, by rw [firstSpec, List.head?_filter, hfirst], by simpa using hid⟩

/-! ## What runs -/

theorem eq_of_id_eq {t' : ForwardTask} (ht : t ∈ m.tasks) (ht' : t' ∈ m.tasks)
    (hid : t.spec.id = t'.spec.id) : t = t' :=
  List.inj_on_of_nodup_map m.nodup ht ht' hid

/-- What runs after `apply`: a task that was kept, or one started from a first spec. -/
theorem exists_task_apply :
    (∃ t ∈ (m.apply forwards).1.tasks, t.spec = spec) ↔
      (∃ t ∈ m.tasks, t.spec = spec ∧ lastSpec forwards spec.id = some spec) ∨
        (∀ t ∈ m.tasks, t.spec.id = spec.id → lastSpec forwards spec.id ≠ some t.spec) ∧
          firstSpec forwards spec.id = some spec := by
  unfold apply firstSpec
  rw [exists_task_foldl_start, List.head?_filter]
  refine or_congr ?_ (and_congr_left' ?_)
  · simp only [retain, List.mem_filter, isDesired_iff]
    constructor
    · rintro ⟨t, ⟨ht, hlast⟩, rfl⟩
      exact ⟨t, ht, rfl, hlast⟩
    · rintro ⟨t, ht, rfl, hlast⟩
      exact ⟨t, ⟨ht, hlast⟩, rfl⟩
  rw [← Bool.not_eq_true, hasTask_iff]
  simp only [retain, List.mem_filter, isDesired_iff, not_exists, not_and]
  constructor
  · intro h t ht hid hlast
    exact h t ⟨ht, hid ▸ hlast⟩ hid
  · rintro h t ⟨ht, hlast⟩ hid
    exact h t ht hid (hid ▸ hlast)

theorem hasTask_apply_iff {id : String} :
    (m.apply forwards).1.hasTask id = true ↔ id ∈ forwards.map ForwardSpec.id := by
  rw [hasTask_iff, List.mem_map]
  constructor
  · rintro ⟨t, ht, rfl⟩
    rcases exists_task_apply.1 ⟨t, ht, rfl⟩ with ⟨-, -, -, hlast⟩ | ⟨-, hfirst⟩
    · exact ⟨t.spec, (mem_of_lastSpec hlast).1, rfl⟩
    · exact ⟨t.spec, mem_of_firstSpec hfirst, rfl⟩
  rintro ⟨spec, hspec, rfl⟩
  by_cases hruns : ∃ t ∈ m.tasks, t.spec.id = spec.id ∧ lastSpec forwards spec.id = some t.spec
  · obtain ⟨t, ht, hid, hlast⟩ := hruns
    rw [← hid] at hlast
    obtain ⟨t', ht', hspec'⟩ := exists_task_apply.2 (.inl ⟨t, ht, rfl, hlast⟩)
    exact ⟨t', ht', by rw [hspec', hid]⟩
  obtain ⟨first, hfirst, hid⟩ := exists_firstSpec hspec
  rw [← hid] at hfirst hruns
  obtain ⟨t, ht, hspec'⟩ := exists_task_apply.2 (.inr ⟨fun t ht htid hlast =>
    hruns ⟨t, ht, htid, hlast⟩, hfirst⟩)
  exact ⟨t, ht, by rw [hspec', hid]⟩

/-- A task is left alone when its spec is the last of its id. -/
theorem kept_iff (ht : t ∈ m.tasks) :
    t ∈ (m.apply forwards).1.tasks ∧ t ∉ (m.apply forwards).2 ↔
      lastSpec forwards t.spec.id = some t.spec := by
  rw [← isDesired_iff]
  constructor
  · rintro ⟨-, habort⟩
    by_contra hdesired
    exact habort (List.mem_filter.2 ⟨ht, by simpa using hdesired⟩)
  intro hdesired
  refine ⟨mem_foldl_start_of_mem (List.mem_filter.2 ⟨ht, hdesired⟩), fun habort => ?_⟩
  have hnot := (List.mem_filter.1 habort).2
  rw [hdesired] at hnot
  cases hnot

/-- Nothing is to be done when every task has the last spec of its id. -/
theorem apply_eq_self_iff (hids : ∀ f ∈ forwards, m.hasTask f.id = true) :
    m.apply forwards = (m, []) ↔ ∀ t ∈ m.tasks, lastSpec forwards t.spec.id = some t.spec := by
  simp only [← isDesired_iff]
  constructor
  · intro h t ht
    have habort : m.tasks.filter (fun t => !isDesired forwards t) = [] := (Prod.mk.inj h).2
    simpa using List.filter_eq_nil_iff.1 habort t ht
  intro hall
  have hretain : m.retain (isDesired forwards) = m := by
    unfold retain
    congr 1
    exact List.filter_eq_self.2 hall
  have habort : m.tasks.filter (fun t => !isDesired forwards t) = [] :=
    List.filter_eq_nil_iff.2 fun t ht => by simp [hall t ht]
  unfold apply
  rw [hretain, foldl_start_of_hasTask hids, habort]

/-- **The listeners are reconciled with a list exactly where its first and last specs agree**, or
the last one already runs. -/
theorem apply_reconciles_iff (m : ForwardManager) (forwards : List ForwardSpec) :
    Reconciles m forwards ↔ ∀ spec ∈ forwards,
      (∃ t ∈ m.tasks, lastSpec forwards spec.id = some t.spec) ∨
        firstSpec forwards spec.id = lastSpec forwards spec.id ∧
          ∀ t ∈ m.tasks, t.spec.id = spec.id → t.spec ∉ forwards := by
  have hids : ∀ f ∈ forwards, (m.apply forwards).1.hasTask f.id = true := fun f hf =>
    hasTask_apply_iff.2 (List.mem_map_of_mem hf)
  constructor
  · intro h spec hspec
    by_cases hruns : ∃ t ∈ m.tasks, lastSpec forwards spec.id = some t.spec
    · exact .inl hruns
    refine .inr ⟨?_, fun t ht hid hmem => ?_⟩
    · -- the first spec was started, and is not aborted again
      obtain ⟨first, hfirst, hid⟩ := exists_firstSpec hspec
      rw [← hid] at hfirst hruns ⊢
      obtain ⟨t, ht, rfl⟩ := exists_task_apply.2
        (.inr ⟨fun t ht _ hlast => hruns ⟨t, ht, hlast⟩, hfirst⟩)
      rw [hfirst, (apply_eq_self_iff hids).1 h.settled t ht]
    · have hlast := (kept_iff ht).1 (h.kept t ht hmem)
      exact hruns ⟨t, ht, hid ▸ hlast⟩
  intro h
  refine ⟨fun id => hasTask_apply_iff, fun t ht hmem => (kept_iff ht).2 ?_,
    (apply_eq_self_iff hids).2 fun t ht => ?_⟩
  · rcases h t.spec hmem with ⟨t', ht', hlast⟩ | ⟨-, hnone⟩
    · rwa [eq_of_id_eq ht' ht (mem_of_lastSpec hlast).2] at hlast
    · exact absurd hmem (hnone t ht rfl)
  rcases exists_task_apply.1 ⟨t, ht, rfl⟩ with ⟨-, -, -, hlast⟩ | ⟨hnone, hfirst⟩
  · exact hlast
  -- a task that was just started
  rcases h t.spec (mem_of_firstSpec hfirst) with ⟨t', ht', hlast⟩ | ⟨hsame, -⟩
  · exact absurd hlast (hnone t' ht' (mem_of_lastSpec hlast).2)
  · rw [← hsame, hfirst]

def twoPorts : List PortForward :=
  [⟨"web", "", 8080, "intranet", 80, true⟩, ⟨"web", "", 8081, "intranet", 80, true⟩]

/-- The listener of the first forward is started, and aborted and started again by applying the
same list. -/
theorem repeated_id_restarts :
    (ForwardManager.new (enabledSpecs twoPorts)).tasks =
        [⟨⟨"web", 8080, .domain "intranet" 80⟩, 0⟩] ∧
      ((ForwardManager.new (enabledSpecs twoPorts)).apply (enabledSpecs twoPorts)).2 =
        [⟨⟨"web", 8080, .domain "intranet" 80⟩, 0⟩] ∧
      ((ForwardManager.new (enabledSpecs twoPorts)).apply (enabledSpecs twoPorts)).1.tasks =
        [⟨⟨"web", 8080, .domain "intranet" 80⟩, 1⟩] :=
  ⟨rfl, rfl, rfl⟩

end Flextunnel.Analysis
