import Flextunnel.Lib.Machine
import Mathlib.Data.List.Dedup

/-!
# Handles and what is owed to them

A resource lives as long as somebody holds a handle on it. `tracking` adds to a machine
the moment a resource loses its last handle: it is held before a step and no longer after
it, and the step emits `dropped`.

`drop_rule` shows that every resource was closed before it was dropped, from two lists a
state gives: the resources it holds, and among them those it still owes a close. A step
must pass each debt on or close the resource, and may take on only resources that were
held already or that it owes.
-/

set_option autoImplicit false

namespace Flextunnel.Lib

section Handles

variable {σ ι ε α : Type} [DecidableEq α]

/-- The resources held before a step and not after it. -/
def lostHandles (held : σ → List α) (s t : σ) : List α :=
  (held s).dedup.filter fun a => a ∉ held t

theorem mem_lostHandles {held : σ → List α} {s t : σ} {a : α} :
    a ∈ lostHandles held s t ↔ a ∈ held s ∧ a ∉ held t := by
  simp only [lostHandles, List.mem_filter, List.mem_dedup, decide_eq_true_eq]

namespace Machine

variable (m : Machine σ ι ε) (held : σ → List α) (dropped : α → ε)

/-- The machine that also emits what each step dropped. -/
def tracking : Machine σ ι ε where
  init := m.init
  step s l := (m.step s l).map fun r => (r.1, r.2 ++ (lostHandles held s r.1).map dropped)

variable {m held dropped}

/-- A tracked step is the step itself, followed by the drops of the handles it lost. -/
theorem tracking_step_eq_some {s t : σ} {l : ι} {es : List ε} :
    (m.tracking held dropped).step s l = some (t, es) ↔
      ∃ es', m.step s l = some (t, es') ∧ es = es' ++ (lostHandles held s t).map dropped := by
  simp only [tracking, Option.map_eq_some_iff, Prod.mk.injEq]
  constructor
  · rintro ⟨⟨t', es'⟩, hstep, rfl, rfl⟩
    exact ⟨es', hstep, rfl⟩
  · rintro ⟨es', hstep, rfl⟩
    exact ⟨(t, es'), hstep, rfl, rfl⟩

/-- The invariant rule of a tracked machine: one step, and one drop. -/
theorem tracking_log_rule {P : List ε → σ → Prop}
    (hstep : ∀ log s l t es, P log s → m.step s l = some (t, es) → P (log ++ es) t)
    (hdrop : ∀ log s a, P log s → P (log ++ [dropped a]) s)
    {s t : σ} {ls : List ι} {log : List ε} (h₀ : P [] s)
    (hrun : (m.tracking held dropped).run s ls = some (t, log)) : P log t := by
  have hdrops (as : List α) (log : List ε) (s : σ) (h : P log s) : P (log ++ as.map dropped) s := by
    induction as generalizing log with
    | nil => simpa using h
    | cons a as ih =>
      have := ih (log ++ [dropped a]) (hdrop log s a h)
      rwa [List.append_assoc] at this
  refine (m.tracking held dropped).log_rule ?_ h₀ hrun
  intro log s l t es hP h
  obtain ⟨es', hm, rfl⟩ := tracking_step_eq_some.1 h
  rw [← List.append_assoc]
  exact hdrops _ _ _ (hstep log s l t es' hP hm)

/-- **The drop rule.** When every guarded step passes on what is owed or closes it, and
takes on nothing else, a resource is closed before it is dropped. -/
theorem drop_rule {C : σ → ι → Prop} {I : σ → Prop} {owed : σ → List α} {closed : α → ε}
    (hI : ∀ s l t es, C s l → I s → m.step s l = some (t, es) → I t)
    (hheld : ∀ s, I s → ∀ a ∈ owed s, a ∈ held s)
    (hquiet : ∀ s l t es a, m.step s l = some (t, es) → dropped a ∉ es)
    (howed : ∀ s l t es, C s l → I s → m.step s l = some (t, es) →
      ∀ a ∈ owed s, a ∈ owed t ∨ closed a ∈ es)
    (hnew : ∀ s l t es, C s l → I s → m.step s l = some (t, es) →
      ∀ a ∈ held t, a ∈ held s ∨ a ∈ owed t)
    {s t : σ} {ls : List ι} {log : List ε} (hs : I s) (h₀ : ∀ a ∈ held s, a ∈ owed s)
    (hC : (m.tracking held dropped).Guarded C s ls)
    (hrun : (m.tracking held dropped).run s ls = some (t, log)) :
    Preceded (fun b => ∃ a, b = dropped a) (fun x b => ∃ a, b = dropped a ∧ x = closed a) log := by
  have hrule := (m.tracking held dropped).guarded_log_rule
    (P := fun log s => I s ∧ (∀ a ∈ held s, a ∈ owed s ∨ closed a ∈ log) ∧
      Preceded (fun b => ∃ a, b = dropped a) (fun x b => ∃ a, b = dropped a ∧ x = closed a) log)
    (C := C) ?_ ⟨hs, fun a ha => .inl (h₀ a ha), preceded_nil _ _⟩ hC hrun
  · exact hrule.2.2
  intro log s l t es hc ⟨hi, hdebt, hprec⟩ hstep
  obtain ⟨es', hm, rfl⟩ := tracking_step_eq_some.1 hstep
  -- what was held is owed still, or closed by now
  have hclosed : ∀ a ∈ held s, a ∈ owed t ∨ closed a ∈ log ++ es' := by
    intro a ha
    rcases hdebt a ha with howe | hlog
    · rcases howed s l t es' hc hi hm a howe with ht | hes
      · exact .inl ht
      · exact .inr (List.mem_append_right _ hes)
    · exact .inr (List.mem_append_left _ hlog)
  refine ⟨hI s l t es' hc hi hm, ?_, ?_⟩
  · intro a ha
    rw [← List.append_assoc]
    rcases hnew s l t es' hc hi hm a ha with hs | ht
    · rcases hclosed a hs with howe | hlog
      · exact .inl howe
      · exact .inr (List.mem_append_left _ hlog)
    · exact .inl ht
  rw [← List.append_assoc]
  apply Preceded.append
  · apply hprec.append
    rintro b hb ⟨a, rfl⟩
    exact absurd hb (hquiet s l t es' a hm)
  rintro b hb ⟨a, rfl⟩
  obtain ⟨a', ha', heq⟩ := List.mem_map.1 hb
  obtain ⟨hin, hout⟩ := mem_lostHandles.1 ha'
  rcases hclosed a' hin with howe | hlog
  · exact absurd (hheld t (hI s l t es' hc hi hm) a' howe) hout
  · exact ⟨closed a', hlog, a', heq.symm, rfl⟩

end Machine

end Handles

/-! ## What many parties hold

Each party of a list may hold one resource; one of them moves. -/

section Parties

variable {σ α : Type} {xs : List σ} {x y : σ} {i : Nat} {f : σ → Option α} {a : α}

theorem mem_filterMap_set_self (hi : xs[i]? = some x) (hy : f y = some a) :
    a ∈ (xs.set i y).filterMap f := by
  exact List.mem_filterMap.2 ⟨y, List.mem_of_getElem? (getElem?_set_moved hi), hy⟩

/-- Moving one element keeps what the others hold. -/
theorem mem_filterMap_set_of_mem (hi : xs[i]? = some x) (h : a ∈ xs.filterMap f) :
    a ∈ (xs.set i y).filterMap f ∨ f x = some a := by
  obtain ⟨z, hz, ha⟩ := List.mem_filterMap.1 h
  obtain ⟨j, hj⟩ := List.mem_iff_getElem?.1 hz
  rcases getElem?_set_of_some (y := y) hi hj with ⟨-, rfl, -⟩ | ⟨-, hj⟩
  · exact .inr ha
  · exact .inl (List.mem_filterMap.2 ⟨z, List.mem_of_getElem? hj, ha⟩)

/-- Moving one element adds at most what it then holds. -/
theorem mem_filterMap_of_set (h : a ∈ (xs.set i y).filterMap f) :
    a ∈ xs.filterMap f ∨ f y = some a := by
  obtain ⟨z, hz, ha⟩ := List.mem_filterMap.1 h
  rcases List.mem_or_eq_of_mem_set hz with hz | rfl
  · exact .inl (List.mem_filterMap.2 ⟨z, hz, ha⟩)
  · exact .inr ha

end Parties

end Flextunnel.Lib
