import Flextunnel.Model.FfiForwards
import Flextunnel.Analysis.Reconciling

/-!
# The listeners after a call of the iOS app

`ForwardManager::apply` reconciles a list whose ids are distinct; `flextunnel_set_forwards` lets no
other list through.
-/

set_option autoImplicit false

namespace Flextunnel.Analysis

open Lib Model

/-- What a call asks of the forwards that are switched on. -/
@[mk_iff]
structure Acceptable (forwards : List FfiForward) : Prop where
  each : ∀ f ∈ forwards,
    f.id ≠ "" ∧ f.localPort ≠ 0 ∧ Text.trim f.remoteHost ≠ "" ∧ f.remotePort ≠ 0
  apart : forwards.Pairwise fun f g => f.id ≠ g.id ∧ f.localPort ≠ g.localPort

/-- The check passes the forwards that can be accepted and clash with none before. -/
theorem checkForwards_eq_ok_iff {ids : List String} {ports : List UInt16}
    {forwards : List FfiForward} {specs : List ForwardSpec} :
    checkForwards ids ports forwards = .ok specs ↔
      specs = forwards.map FfiForward.spec ∧ Acceptable forwards ∧
        ∀ f ∈ forwards, f.id ∉ ids ∧ f.localPort ∉ ports := by
  induction forwards generalizing ids ports specs with
  | nil =>
    have hnil : Acceptable [] := ⟨by simp, .nil⟩
    simp [checkForwards, hnil, eq_comm]
  | cons f rest ih =>
    have hmap {x : Except String (List ForwardSpec)} : x.map (f.spec :: ·) = .ok specs ↔
        ∃ specs', x = .ok specs' ∧ specs = f.spec :: specs' := by
      cases x <;> simp [Except.map, eq_comm]
    rw [checkForwards]
    split_ifs with hid hport htarget
    -- what is checked of `f` is also asked of it
    · grind [Acceptable]
    · grind [Acceptable]
    · grind [Acceptable]
    · simp only [hmap, ih, List.map_cons, List.mem_cons, acceptable_iff, List.pairwise_cons]
      grind

section

variable {m : ForwardManager} {forwards : List ForwardSpec} {spec : ForwardSpec}

theorem lastSpec_eq_some_iff (hids : (forwards.map ForwardSpec.id).Nodup) :
    lastSpec forwards spec.id = some spec ↔ spec ∈ forwards := by
  refine ⟨fun h => (mem_of_lastSpec h).1, fun h => ?_⟩
  have hne : forwards.filter (fun f => f.id == spec.id) ≠ [] :=
    List.ne_nil_of_mem (List.mem_filter.2 ⟨h, beq_self_eq_true _⟩)
  obtain ⟨last, hlast⟩ := Option.isSome_iff_exists.1 (List.getLast?_isSome.2 hne)
  obtain ⟨hmem, hid⟩ := mem_of_lastSpec hlast
  rw [lastSpec, hlast, List.inj_on_of_nodup_map hids hmem h hid]

theorem firstSpec_eq_some_iff (hids : (forwards.map ForwardSpec.id).Nodup) :
    firstSpec forwards spec.id = some spec ↔ spec ∈ forwards := by
  refine ⟨mem_of_firstSpec, fun h => ?_⟩
  obtain ⟨first, hfirst, hid⟩ := exists_firstSpec h
  rw [hfirst, List.inj_on_of_nodup_map hids (mem_of_firstSpec hfirst) h hid]

theorem exists_task_apply_iff (hids : (forwards.map ForwardSpec.id).Nodup) :
    (∃ t ∈ (m.apply forwards).1.tasks, t.spec = spec) ↔ spec ∈ forwards := by
  rw [exists_task_apply, lastSpec_eq_some_iff hids, firstSpec_eq_some_iff hids]
  constructor
  · rintro (⟨-, -, -, h⟩ | ⟨-, h⟩)
    · exact h
    · exact h
  intro h
  by_cases hold : ∃ t ∈ m.tasks, t.spec = spec
  · obtain ⟨t, ht, hspec⟩ := hold
    exact .inl ⟨t, ht, hspec, h⟩
  · refine .inr ⟨fun t ht hid hlast => hold ⟨t, ht, ?_⟩, h⟩
    rw [(lastSpec_eq_some_iff hids).2 h] at hlast
    exact (Option.some.inj hlast).symm

/-- What runs after `apply` is the list, if its ids are distinct. -/
theorem specs_apply_perm (hids : (forwards.map ForwardSpec.id).Nodup) :
    ((m.apply forwards).1.tasks.map ForwardTask.spec).Perm forwards := by
  have hspecs : ((m.apply forwards).1.tasks.map ForwardTask.spec).Nodup := by
    refine List.Nodup.of_map ForwardSpec.id ?_
    rw [List.map_map]
    exact (m.apply forwards).1.nodup
  refine (List.perm_ext_iff_of_nodup hspecs (List.Nodup.of_map _ hids)).2 fun spec => ?_
  rw [← exists_task_apply_iff hids, List.mem_map]

end

/-- The forwards a call hands to the manager are switched on and can be accepted. -/
def Succeeds (h : FfiHandle) (json : ForwardsJson) (forwards : List FfiForward) : Prop :=
  h.poisoned = false ∧ Acceptable forwards ∧
    ∃ configured, json = .array configured ∧ forwards = configured.filter (·.enabled)

/-- The listeners are those of the forwards, and of the ones that were there before just those are
left that are still wanted. -/
def InForce (before after : ForwardManager) (forwards : List FfiForward) : Prop :=
  (after.tasks.map ForwardTask.spec).Perm (forwards.map FfiForward.spec) ∧
    ∀ t ∈ before.tasks, t ∈ after.tasks ↔ t.spec ∈ forwards.map FfiForward.spec

/-- What `apply` does with forwards that can be accepted. -/
theorem inForce_apply {m : ForwardManager} {forwards : List FfiForward} (h : Acceptable forwards) :
    InForce m (m.apply (forwards.map FfiForward.spec)).1 forwards := by
  have hids : ((forwards.map FfiForward.spec).map ForwardSpec.id).Nodup := by
    rw [List.map_map]
    exact List.pairwise_map.2 (h.apart.imp fun h => h.1)
  refine ⟨specs_apply_perm hids, fun t ht => ⟨fun h => ?_, fun h => ?_⟩⟩
  · exact (exists_task_apply_iff hids).1 ⟨t, h, rfl⟩
  · exact ((kept_iff ht).2 ((lastSpec_eq_some_iff hids).2 h)).1

/-- **A call of the app puts its forwards in force, or nothing.** With a null handle it returns -1.
Else it returns 1 just if it can take the lock and the forwards that are switched on have their own
ids and ports and a target; then the listeners are theirs, and those still wanted are the same tasks
as before. In every other case it returns 0 and leaves the listeners as they were. -/
theorem set_forwards_in_force (handle : Option FfiHandle) (json : ForwardsJson) :
    match handle with
    | none => (setForwards handle json).code = -1 ∧ (setForwards handle json).handle = none
    | some h =>
      (∃ forwards m, Succeeds h json forwards ∧ (setForwards handle json).code = 1 ∧
        (setForwards handle json).handle = some { h with manager := m } ∧
        InForce h.manager m forwards) ∨
      (∀ forwards, ¬ Succeeds h json forwards) ∧
        (setForwards handle json).code = 0 ∧ (setForwards handle json).handle = some h := by
  cases handle with
  | none => exact ⟨rfl, rfl⟩
  | some h =>
    cases json with
    | null | notUtf8 | invalid => exact .inr ⟨by simp [Succeeds], rfl, rfl⟩
    | array configured =>
      dsimp only [setForwards]
      cases hcheck : checkForwards [] [] (configured.filter (·.enabled)) with
      | error text =>
        refine .inr ⟨?_, rfl, rfl⟩
        rintro _ ⟨-, hacc, _, ⟨⟩, rfl⟩
        cases hcheck.symm.trans (checkForwards_eq_ok_iff.2 ⟨rfl, hacc, fun _ _ => by simp⟩)
      | ok specs =>
        obtain ⟨rfl, hacc, -⟩ := checkForwards_eq_ok_iff.1 hcheck
        cases hpoisoned : h.poisoned with
        | true => exact .inr ⟨by simp [Succeeds, hpoisoned], rfl, rfl⟩
        | false =>
          exact .inl ⟨_, _, ⟨hpoisoned, hacc, configured, rfl, rfl⟩, rfl, rfl, inForce_apply hacc⟩

end Flextunnel.Analysis
