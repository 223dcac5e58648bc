import Flextunnel.Model.Forwards
import Flextunnel.Model.Routing

/-!
# The listeners of the port forwards

`ForwardManager::apply` makes the running listeners match a list of forwards: it aborts those the
list does not have and starts those that are missing. The list may name an id more than once.

The manager's map is keyed by the id in a task's spec, so it is a list of tasks with distinct ids.
A task is known by its handle; the handles of later tasks are greater. What a task does, and its
status, is in `Listeners`.

Unnamed source lines are of `core/proxy/forward.rs`.
-/

set_option autoImplicit false

namespace Flextunnel.Model

open Lib

/-- SOURCE: 27-31 -/
structure ForwardSpec where
  id : String
  localPort : UInt16
  target : Target
deriving DecidableEq, Repr

/-- SOURCE: 142-146 -/
structure ForwardTask where
  spec : ForwardSpec
  handle : Nat
deriving DecidableEq, Repr

/-- SOURCE: 152-156 -/
structure ForwardManager where
  tasks : List ForwardTask
  nextHandle : Nat
  nodup : (tasks.map fun t => t.spec.id).Nodup
  fresh : ∀ t ∈ tasks, t.handle < nextHandle

namespace ForwardManager

def hasTask (m : ForwardManager) (id : String) : Bool := m.tasks.any fun t => t.spec.id == id

theorem hasTask_iff {m : ForwardManager} {id : String} :
    m.hasTask id = true ↔ ∃ t ∈ m.tasks, t.spec.id = id := by
  simp [hasTask]

/-- Keep the tasks that are wanted; the others are aborted.
SOURCE: 174-180 -/
def retain (m : ForwardManager) (keep : ForwardTask → Bool) : ForwardManager where
  tasks := m.tasks.filter keep
  nextHandle := m.nextHandle
  nodup := m.nodup.sublist (List.filter_sublist.map _)
  fresh := fun t ht => m.fresh t (List.mem_of_mem_filter ht)

/-- Start a task that is missing.
SOURCE: 181-198 -/
def start (m : ForwardManager) (spec : ForwardSpec) : ForwardManager :=
  if h : m.hasTask spec.id then m
  else
    { tasks := m.tasks ++ [⟨spec, m.nextHandle⟩]
      nextHandle := m.nextHandle + 1
      nodup := by
        rw [List.map_append, List.nodup_append]
        refine ⟨m.nodup, List.nodup_singleton _, ?_⟩
        intro id hid other hother
        obtain ⟨t, ht, rfl⟩ := List.mem_map.1 hid
        obtain rfl := List.mem_singleton.1 hother
        exact fun heq => h (hasTask_iff.2 ⟨t, ht, heq⟩)
      fresh := by
        intro t ht
        rcases List.mem_append.1 ht with ht | ht
        · exact Nat.lt_succ_of_lt (m.fresh t ht)
        · rw [List.mem_singleton.1 ht]
          exact Nat.lt_succ_self _ }

/-- The specs by id; of two specs with one id the later counts.
SOURCE: 172-173 -/
def desired (forwards : List ForwardSpec) : Table ForwardSpec :=
  Table.collect (forwards.map fun f => (f.id, f))

/-- Whether a task is the one that is wanted.
SOURCE: 174-180 -/
def isDesired (forwards : List ForwardSpec) (t : ForwardTask) : Bool :=
  (desired forwards).lookup t.spec.id = some t.spec

/-- The manager after `apply`, and the tasks it aborted.
SOURCE: 170-199 -/
def apply (m : ForwardManager) (forwards : List ForwardSpec) : ForwardManager × List ForwardTask :=
  (forwards.foldl start (m.retain (isDesired forwards)),
    m.tasks.filter fun t => !isDesired forwards t)

def started (m : ForwardManager) (forwards : List ForwardSpec) : List ForwardTask :=
  (m.apply forwards).1.tasks.filter fun t => m.nextHandle ≤ t.handle

def empty : ForwardManager where
  tasks := []
  nextHandle := 0
  nodup := List.nodup_nil
  fresh := by simp

/-- SOURCE: 159-167 -/
def new (forwards : List ForwardSpec) : ForwardManager := (empty.apply forwards).1

end ForwardManager

/-- SOURCE: core/forwards.rs:50-59 -/
def PortForward.spec (f : PortForward) : ForwardSpec where
  id := f.id
  localPort := f.localPort
  target := .domain f.remoteHost f.remotePort

/-- The specs of the forwards that are switched on.
SOURCE: core/forwards.rs:84-90 -/
def enabledSpecs (forwards : List PortForward) : List ForwardSpec :=
  (forwards.filter fun f => f.enabled).map PortForward.spec

/-! ## What starting does -/

namespace ForwardManager

variable {m : ForwardManager} {spec : ForwardSpec} {forwards : List ForwardSpec}

theorem start_of_hasTask (h : m.hasTask spec.id = true) : m.start spec = m := dif_pos h

theorem tasks_start_of_not_hasTask (h : m.hasTask spec.id = false) :
    (m.start spec).tasks = m.tasks ++ [⟨spec, m.nextHandle⟩] := by
  rw [start, dif_neg (by rw [h]; exact Bool.false_ne_true)]

theorem mem_tasks_start {t : ForwardTask} :
    t ∈ (m.start spec).tasks ↔
      t ∈ m.tasks ∨ m.hasTask spec.id = false ∧ t = ⟨spec, m.nextHandle⟩ := by
  cases h : m.hasTask spec.id with
  | true => simp [start_of_hasTask h]
  | false => simp [tasks_start_of_not_hasTask h]

theorem mem_foldl_start_of_mem {t : ForwardTask} (h : t ∈ m.tasks) :
    t ∈ (forwards.foldl start m).tasks := by
  induction forwards generalizing m with
  | nil => exact h
  | cons f forwards ih => exact ih (mem_tasks_start.2 (.inl h))

/-- Starting forwards that all have their tasks changes nothing. -/
theorem foldl_start_of_hasTask (h : ∀ f ∈ forwards, m.hasTask f.id = true) :
    forwards.foldl start m = m := by
  induction forwards with
  | nil => rfl
  | cons f forwards ih =>
    rw [List.foldl_cons, start_of_hasTask (h f (by simp))]
    exact ih fun g hg => h g (List.mem_cons_of_mem f hg)

/-- After the starts a forward has its task if it had, or if it is the first of a new id. -/
theorem exists_task_foldl_start {spec : ForwardSpec} :
    (∃ t ∈ (forwards.foldl start m).tasks, t.spec = spec) ↔
      (∃ t ∈ m.tasks, t.spec = spec) ∨
        m.hasTask spec.id = false ∧ forwards.find? (fun f => f.id == spec.id) = some spec := by
  induction forwards generalizing m with
  | nil => simp
  | cons f forwards ih =>
    rw [List.foldl_cons, ih]
    cases hf : m.hasTask f.id with
    | true =>
      -- nothing is started, and what is missing has another id
      rw [start_of_hasTask hf]
      refine or_congr_right (and_congr_right fun hmissing => ?_)
      have hid : f.id ≠ spec.id := by
        intro heq
        rw [heq, hmissing] at hf
        cases hf
      rw [List.find?_cons_of_neg (by simpa using hid)]
    | false =>
      have hhas : (m.start f).hasTask spec.id = (m.hasTask spec.id || f.id == spec.id) := by
        simp [hasTask, tasks_start_of_not_hasTask hf]
      have hruns : (∃ t ∈ (m.start f).tasks, t.spec = spec) ↔
          (∃ t ∈ m.tasks, t.spec = spec) ∨ f = spec := by
        simp [tasks_start_of_not_hasTask hf, or_and_right, exists_or]
      rw [hhas, hruns, or_assoc]
      refine or_congr_right ?_
      by_cases hid : f.id = spec.id
      · have hmissing : m.hasTask spec.id = false := hid ▸ hf
        rw [List.find?_cons_of_pos (by simpa using hid)]
        simp [hmissing, hid]
      · have hne : f ≠ spec := fun heq => hid (congrArg ForwardSpec.id heq)
        rw [List.find?_cons_of_neg (by simpa using hid)]
        simp [hid, hne]

end ForwardManager

end Flextunnel.Model
