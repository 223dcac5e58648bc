import Mathlib.Data.List.Forall2
import Mathlib.Data.List.Induction
import Mathlib.Data.List.TakeWhile

/-!
# Labelled machines that emit events

A `Machine` takes one atomic step per label and emits a list of events with it. All
nondeterminism sits in the labels, so a schedule is a list of labels, `run` replays it,
and a concrete schedule can be evaluated.

The second half is about the order of events in a log: `Preceded` (every `B` has an
earlier `A` it is related to), `Unless` (after an `A` no `B` before a `C`), `afterLast`
(what came after the last `A`), `Numbered` (events that take their numbers from counters). A
property "never `B` after `A`" is `List.Pairwise` of the standard library.
-/

set_option autoImplicit false

namespace Flextunnel.Lib

/-- A machine with states `σ`, labels `ι` and events `ε`: where it may start, and the
state and events of the step a label names, `none` when that step is not enabled. -/
structure Machine (σ ι ε : Type) where
  init : σ → Prop
  step : σ → ι → Option (σ × List ε)

namespace Machine

variable {σ ι ε : Type} (m : Machine σ ι ε)

/-- Replay a schedule: the state it ends in and the events it emitted, in order. -/
def run : σ → List ι → Option (σ × List ε)
  | s, [] => some (s, [])
  | s, l :: ls =>
    (m.step s l).bind fun r => (run r.1 ls).map fun r' => (r'.1, r.2 ++ r'.2)

@[simp] theorem run_nil (s : σ) : m.run s [] = some (s, []) := rfl

variable {log : List ε} {ls : List ι} {s t : σ} {C : σ → ι → Prop} {P : List ε → σ → Prop}

/-- A run is its first step and the run of the rest. -/
theorem run_cons_eq_some {u : σ} {l : ι} :
    m.run s (l :: ls) = some (u, log) ↔
      ∃ t es log', m.step s l = some (t, es) ∧ m.run t ls = some (u, log') ∧
        log = es ++ log' := by
  simp only [run, Option.bind_eq_some_iff, Option.map_eq_some_iff, Prod.mk.injEq]
  constructor
  · rintro ⟨⟨t, es⟩, hstep, ⟨u', log'⟩, hrun, rfl, rfl⟩
    exact ⟨t, es, log', hstep, hrun, rfl⟩
  · rintro ⟨t, es, log', hstep, hrun, rfl⟩
    exact ⟨(t, es), hstep, (u, log'), hrun, rfl, rfl⟩

/-- Two runs one after the other are one run. -/
theorem run_append {u : σ} {ls' : List ι} {log' : List ε} (h : m.run s ls = some (t, log))
    (h' : m.run t ls' = some (u, log')) : m.run s (ls ++ ls') = some (u, log ++ log') := by
  induction ls generalizing s log with
  | nil =>
    cases h
    exact h'
  | cons l ls ih =>
    obtain ⟨r, es, rest, hstep, hrun, rfl⟩ := m.run_cons_eq_some.1 h
    exact m.run_cons_eq_some.2 ⟨r, es, rest ++ log', hstep, ih hrun, List.append_assoc ..⟩

/-- Every step of the schedule is taken from a state that meets the guard `C`. -/
def Guarded (C : σ → ι → Prop) (s : σ) : List ι → Prop
  | [] => True
  | l :: ls => C s l ∧ ∀ t es, m.step s l = some (t, es) → Guarded C t ls

variable {m} in
theorem Guarded.cons {l : ι} {es : List ε} (hstep : m.step s l = some (t, es)) (hC : C s l)
    (h : m.Guarded C t ls) : m.Guarded C s (l :: ls) := by
  refine ⟨hC, fun t' es' hstep' => ?_⟩
  rw [hstep] at hstep'
  cases hstep'
  exact h

variable {m} in
theorem Guarded.and {D : σ → ι → Prop} (hC : m.Guarded C s ls) (hD : m.Guarded D s ls) :
    m.Guarded (fun s l => C s l ∧ D s l) s ls := by
  induction ls generalizing s with
  | nil => trivial
  | cons l ls ih => exact ⟨⟨hC.1, hD.1⟩, fun t es hstep => ih (hC.2 t es hstep) (hD.2 t es hstep)⟩

variable {m} in
/-- Guarded runs one after the other are one guarded run. -/
theorem Guarded.append {ls' : List ι} (hC : m.Guarded C s ls) (hrun : m.run s ls = some (t, log))
    (hC' : m.Guarded C t ls') : m.Guarded C s (ls ++ ls') := by
  induction ls generalizing s log with
  | nil =>
    cases hrun
    exact hC'
  | cons l ls ih =>
    obtain ⟨u, es, log', hu, hrest, -⟩ := m.run_cons_eq_some.1 hrun
    exact .cons hu hC.1 (ih (hC.2 u es hu) hrest)

/-- A guard on the labels alone holds along every schedule of such labels. -/
theorem guarded_of_mem (hC : ∀ l ∈ ls, ∀ s, C s l) (s : σ) : m.Guarded C s ls := by
  induction ls generalizing s with
  | nil => trivial
  | cons l ls ih =>
    exact ⟨hC l List.mem_cons_self s, fun t _ _ =>
      ih (fun l' hl' => hC l' (List.mem_cons_of_mem _ hl')) t⟩

theorem guarded_of_forall (hC : ∀ s l, C s l) (s : σ) (ls : List ι) :
    m.Guarded C s ls := m.guarded_of_mem (fun l _ s => hC s l) s

/-- Whether a schedule is guarded can be evaluated, for a guard that can. -/
def decideGuarded {C : σ → ι → Prop} [∀ s l, Decidable (C s l)] :
    (s : σ) → (ls : List ι) → Decidable (m.Guarded C s ls)
  | _, [] => .isTrue trivial
  | s, l :: ls =>
    match h : m.step s l with
    | none => decidable_of_iff (C s l) ⟨fun hc => ⟨hc, by simp [h]⟩, And.left⟩
    | some (t, es) =>
      haveI := decideGuarded (C := C) t ls
      decidable_of_iff (C s l ∧ m.Guarded C t ls) (by
        simp only [Guarded, h, Option.some.injEq, Prod.mk.injEq, and_imp]
        constructor
        · rintro ⟨hc, hrest⟩
          exact ⟨hc, fun _ _ ht _ => ht ▸ hrest⟩
        · rintro ⟨hc, hrest⟩
          exact ⟨hc, hrest t es rfl rfl⟩)

instance {C : σ → ι → Prop} [∀ s l, Decidable (C s l)] (s : σ) (ls : List ι) :
    Decidable (m.Guarded C s ls) :=
  m.decideGuarded s ls

/-- **The history rule.** A property of the log so far and the current state that every
guarded step preserves holds at the end of every guarded run. -/
theorem history_rule (hstep : ∀ log s l t es, C s l → P log s → m.step s l = some (t, es) →
      P (log ++ es) t) {log₀ : List ε} (h₀ : P log₀ s) (hC : m.Guarded C s ls)
    (hrun : m.run s ls = some (t, log)) : P (log₀ ++ log) t := by
  induction ls generalizing s log₀ log with
  | nil =>
    cases hrun
    simpa using h₀
  | cons l ls ih =>
    obtain ⟨u, es, log', hu, hrest, rfl⟩ := m.run_cons_eq_some.1 hrun
    have hP := hstep log₀ s l u es hC.1 h₀ hu
    have := ih hP (hC.2 u es hu) hrest
    rwa [List.append_assoc] at this

/-- What every guarded step keeps of the log and the state, every guarded run keeps. -/
theorem guarded_log_rule (hstep : ∀ log s l t es, C s l → P log s → m.step s l = some (t, es) →
      P (log ++ es) t) (h₀ : P [] s) (hC : m.Guarded C s ls) (hrun : m.run s ls = some (t, log)) :
    P log t := by
  simpa using m.history_rule hstep h₀ hC hrun

/-- What every step keeps of the log and the state, every run keeps. -/
theorem log_rule (hstep : ∀ log s l t es, P log s → m.step s l = some (t, es) → P (log ++ es) t)
    (h₀ : P [] s) (hrun : m.run s ls = some (t, log)) : P log t := by
  have hC := m.guarded_of_forall (C := fun _ _ => True) (fun _ _ => trivial) s ls
  exact m.guarded_log_rule (fun log s l t es _ => hstep log s l t es) h₀ hC hrun

/-- The invariant rule of runs whose steps meet a guard. -/
theorem guarded_invariant {P : σ → Prop}
    (hstep : ∀ s l t es, C s l → P s → m.step s l = some (t, es) → P t) (h₀ : P s)
    (hC : m.Guarded C s ls) (hrun : m.run s ls = some (t, log)) : P t :=
  m.guarded_log_rule (P := fun _ s => P s)
    (fun _ s l t es hc hp h => hstep s l t es hc hp h) h₀ hC hrun

/-- What every step keeps of the state, every run keeps. -/
theorem invariant_rule {P : σ → Prop} (hstep : ∀ s l t es, P s → m.step s l = some (t, es) → P t)
    (h₀ : P s) (hrun : m.run s ls = some (t, log)) : P t :=
  m.log_rule (P := fun _ s => P s) (fun _ s l t es hp h => hstep s l t es hp h) h₀ hrun

/-- The rule for a property that also looks at the labels so far. -/
theorem labels_rule {P : List ι → List ε → σ → Prop}
    (hstep : ∀ ls log s l t es, P ls log s → m.step s l = some (t, es) →
      P (ls ++ [l]) (log ++ es) t) (h₀ : P [] [] s) (hrun : m.run s ls = some (t, log)) :
    P ls log t := by
  suffices hfrom : ∀ ls₀ log₀, P ls₀ log₀ s → P (ls₀ ++ ls) (log₀ ++ log) t from hfrom [] [] h₀
  clear h₀
  induction ls generalizing s log with
  | nil =>
    cases hrun
    simp
  | cons l ls ih =>
    obtain ⟨u, es, log', hu, hrest, rfl⟩ := m.run_cons_eq_some.1 hrun
    intro ls₀ log₀ h
    simpa using ih hrest _ _ (hstep _ _ _ _ _ _ h hu)

/-- A counter that no step raises by more than one is at most the number of steps above where it
started. -/
theorem counter_le (count : σ → Nat)
    (hstep : ∀ s l t es, m.step s l = some (t, es) → count t ≤ count s + 1)
    (hrun : m.run s ls = some (t, log)) : count t ≤ count s + ls.length := by
  refine m.labels_rule (P := fun ls _ t => count t ≤ count s + ls.length) ?_ (Nat.le_refl _) hrun
  intro ls _ r l t es hr hl
  have := hstep r l t es hl
  rw [List.length_append, List.length_singleton]
  omega

/-- An event of a run was emitted by one of its steps. -/
theorem exists_step_of_mem {u : σ} {e : ε} (hrun : m.run s ls = some (u, log)) (he : e ∈ log) :
    ∃ pre l post t t' log₁ es, ls = pre ++ l :: post ∧ m.run s pre = some (t, log₁) ∧
      m.step t l = some (t', es) ∧ e ∈ es := by
  induction ls generalizing s log with
  | nil =>
    cases hrun
    simp at he
  | cons l ls ih =>
    obtain ⟨t, es, log', ht, hrest, rfl⟩ := m.run_cons_eq_some.1 hrun
    rcases List.mem_append.1 he with he | he
    · exact ⟨[], l, ls, s, t, [], es, rfl, rfl, ht, he⟩
    · obtain ⟨pre, l', post, v, v', log₁, es', rfl, hpre, hv, he'⟩ := ih hrest he
      exact ⟨l :: pre, l', post, v, v', es ++ log₁, es', rfl,
        m.run_cons_eq_some.2 ⟨t, es, log₁, ht, hpre, rfl⟩, hv, he'⟩

theorem exists_run_of_log (h : (m.run s ls).map Prod.snd = some log) :
    ∃ t, m.run s ls = some (t, log) := by
  obtain ⟨⟨t, log'⟩, hrun, rfl⟩ := Option.map_eq_some_iff.1 h
  exact ⟨t, hrun⟩

/-- The machine that logs the label of each step before its events. -/
def logged : Machine σ ι (ι ⊕ ε) where
  init := m.init
  step s l := (m.step s l).map fun r => (r.1, .inl l :: r.2.map .inr)

/-- A step of the logged machine puts its label before its events. -/
theorem logged_step_eq_some {l : ι} {es : List (ι ⊕ ε)} :
    m.logged.step s l = some (t, es) ↔
      ∃ es', m.step s l = some (t, es') ∧ es = .inl l :: es'.map .inr := by
  simp only [logged, Option.map_eq_some_iff, Prod.mk.injEq]
  constructor
  · rintro ⟨⟨t', es'⟩, hstep, rfl, rfl⟩
    exact ⟨es', hstep, rfl⟩
  · rintro ⟨es', hstep, rfl⟩
    exact ⟨(t, es'), hstep, rfl, rfl⟩

/-- Two machines that step side by side run side by side. -/
theorem run_lockstep {m m' : Machine σ ι ε} {R : ε → ε → Prop}
    (hstep : ∀ s l t es, m.step s l = some (t, es) →
      ∃ es', m'.step s l = some (t, es') ∧ List.Forall₂ R es es')
    (hrun : m.run s ls = some (t, log)) :
    ∃ log', m'.run s ls = some (t, log') ∧ List.Forall₂ R log log' := by
  induction ls generalizing s log with
  | nil =>
    cases hrun
    exact ⟨[], rfl, .nil⟩
  | cons l ls ih =>
    obtain ⟨u, es, log₁, hu, hrest, rfl⟩ := m.run_cons_eq_some.1 hrun
    obtain ⟨es', hu', hes⟩ := hstep s l u es hu
    obtain ⟨log₁', hrest', hlog⟩ := ih hrest
    exact ⟨es' ++ log₁', m'.run_cons_eq_some.2 ⟨u, es', log₁', hu', hrest', rfl⟩,
      List.rel_append hes hlog⟩

/-- If a step always brings a measure down until the goal, a run reaches the goal. -/
theorem exists_run_of_measure {P G : σ → Prop} {A : ι → Prop} (f : σ → Nat)
    (hstep : ∀ s, P s → ¬ G s → ∃ l t es, A l ∧ m.step s l = some (t, es) ∧ P t ∧ f t < f s)
    (hs : P s) :
    ∃ ls t log, (∀ l ∈ ls, A l) ∧ ls.length ≤ f s ∧ m.run s ls = some (t, log) ∧ P t ∧ G t := by
  induction hn : f s using Nat.strong_induction_on generalizing s with
  | h n ih =>
    by_cases hG : G s
    · exact ⟨[], s, [], by simp, by simp, rfl, hs, hG⟩
    obtain ⟨l, u, es, hl, hu, hPu, hlt⟩ := hstep s hs hG
    obtain ⟨ls, t, log, hls, hlen, hrun, hPt, hGt⟩ := ih (f u) (hn ▸ hlt) hPu rfl
    refine ⟨l :: ls, t, es ++ log, List.forall_mem_cons.2 ⟨hl, hls⟩, ?_,
      m.run_cons_eq_some.2 ⟨u, es, log, hu, hrun, rfl⟩, hPt, hGt⟩
    rw [List.length_cons]
    omega

/-- A part of a machine that is a machine itself runs as that machine. -/
theorem run_project {σ' ι' ε' : Type} {m : Machine σ ι ε} {n : Machine σ' ι' ε'} {f : σ → σ'}
    {g : ε → Option ε'} (hstep : ∀ s l t es, m.step s l = some (t, es) →
      f t = f s ∧ es.filterMap g = [] ∨ ∃ l', n.step (f s) l' = some (f t, es.filterMap g))
    (hrun : m.run s ls = some (t, log)) : ∃ ls', n.run (f s) ls' = some (f t, log.filterMap g) := by
  induction ls generalizing s log with
  | nil =>
    cases hrun
    exact ⟨[], rfl⟩
  | cons l ls ih =>
    obtain ⟨u, es, log₁, hu, hrest, rfl⟩ := m.run_cons_eq_some.1 hrun
    obtain ⟨ls', hls'⟩ := ih hrest
    rw [List.filterMap_append]
    rcases hstep s l u es hu with ⟨hsame, hnone⟩ | ⟨l', hl'⟩
    · exact ⟨ls', by rw [hnone, List.nil_append, ← hsame, hls']⟩
    · exact ⟨l' :: ls', n.run_cons_eq_some.2 ⟨_, _, _, hl', hls', rfl⟩⟩

end Machine

/-! ## Many parties

A machine of many parties keeps them in a list: a party joins at its end and moves in place. -/

section Parties

variable {α : Type} {xs : List α} {x y : α} {i j : Nat}

theorem getElem?_concat_of_some (h : xs[i]? = some y) : (xs ++ [x])[i]? = some y := by
  rw [List.getElem?_append_left (List.getElem?_eq_some_iff.1 h).1, h]

theorem getElem?_concat_cases (h : (xs ++ [x])[i]? = some y) :
    xs[i]? = some y ∨ i = xs.length ∧ y = x := by
  rcases Nat.lt_or_ge i xs.length with hlt | hge
  · rw [List.getElem?_append_left hlt] at h
    exact .inl h
  · rw [List.getElem?_append_right hge] at h
    obtain ⟨hi, rfl⟩ : i - xs.length = 0 ∧ x = y := by simpa [List.getElem?_singleton] using h
    exact .inr ⟨by omega, rfl⟩

/-- After one element moved: the moved one, or another one as it was. -/
theorem getElem?_set_cases (h : (xs.set i x)[j]? = some y) :
    j = i ∧ y = x ∨ j ≠ i ∧ xs[j]? = some y := by
  by_cases hij : i = j
  · subst hij
    obtain ⟨-, rfl⟩ : i < xs.length ∧ x = y := by simpa [List.getElem?_set] using h
    exact .inl ⟨rfl, rfl⟩
  · rw [List.getElem?_set_ne hij] at h
    exact .inr ⟨fun hji => hij hji.symm, h⟩

theorem map_set_same {β : Type} {f : α → β} (hi : xs[i]? = some x) (hf : f y = f x) :
    (xs.set i y).map f = xs.map f := by
  refine List.ext_getElem? fun j => ?_
  by_cases hij : i = j
  · subst hij
    simp [List.getElem?_set_self', hi, hf]
  · simp [List.getElem?_set_ne hij]

theorem getElem?_set_moved (hi : xs[i]? = some x) : (xs.set i y)[i]? = some y :=
  List.getElem?_set_self (List.getElem?_eq_some_iff.1 hi).1

theorem getElem?_set_of_some (hi : xs[i]? = some x) {z : α} (hj : xs[j]? = some z) :
    j = i ∧ z = x ∧ (xs.set i y)[j]? = some y ∨ j ≠ i ∧ (xs.set i y)[j]? = some z := by
  by_cases hij : i = j
  · subst hij
    exact .inl ⟨rfl, Option.some.inj (hj.symm.trans hi), getElem?_set_moved hi⟩
  · exact .inr ⟨fun hji => hij hji.symm, (List.getElem?_set_ne hij).trans hj⟩

theorem all_getElem?_set {p : α → Bool} (hi : xs[i]? = some x) (hkeep : p x = true → p y = true)
    (h : xs[j]?.all p = true) : (xs.set i y)[j]?.all p = true := by
  rw [Option.all_eq_true] at h ⊢
  intro z hz
  rcases getElem?_set_cases hz with ⟨rfl, rfl⟩ | ⟨-, hz⟩
  · exact hkeep (h x hi)
  · exact h z hz

end Parties

/-! ## The order of events in a log -/

section Log

variable {ε : Type}

variable {es log post : List ε} {p : ε → Bool}

/-- An event of two logs in a row is in the first or in the second. -/
theorem split_append {pre : List ε} {a : ε} (h : log ++ es = pre ++ a :: post) :
    (∃ post', post = post' ++ es ∧ log = pre ++ a :: post') ∨
      ∃ mid, pre = log ++ mid ∧ es = mid ++ a :: post := by
  rcases List.append_eq_append_iff.1 h with ⟨mid, hpre, hes⟩ | ⟨mid, hlog, hpost⟩
  · exact .inr ⟨mid, hpre, hes⟩
  cases mid with
  | nil => exact .inr ⟨[], by simpa using hlog.symm, by simpa using hpost.symm⟩
  | cons b mid =>
    cases hpost
    exact .inl ⟨mid, rfl, hlog⟩

theorem split_concat {pre : List ε} {e a : ε} (h : log ++ [e] = pre ++ a :: post) :
    (log = pre ∧ e = a ∧ post = []) ∨ ∃ post', post = post' ++ [e] ∧ log = pre ++ a :: post' := by
  rcases split_append h with hold | ⟨mid, hpre, he⟩
  · exact .inr hold
  obtain ⟨rfl, rfl, rfl⟩ : mid = [] ∧ a = e ∧ post = [] := by
    rcases List.append_eq_singleton_iff.1 he.symm with ⟨hmid, htail⟩ | ⟨-, htail⟩
    · simpa [hmid] using htail
    · cases htail
  exact .inl ⟨by simpa using hpre.symm, rfl, rfl⟩

/-- Every event of the log that satisfies `B` has an earlier event `R` relates to it. -/
def Preceded (B : ε → Prop) (R : ε → ε → Prop) (log : List ε) : Prop :=
  ∀ pre b post, log = pre ++ b :: post → B b → ∃ a ∈ pre, R a b

theorem preceded_nil (B : ε → Prop) (R : ε → ε → Prop) : Preceded B R [] := by
  intro pre b post h
  simp at h

/-- A log stays preceded when its new events are. -/
theorem Preceded.append {B : ε → Prop} {R : ε → ε → Prop} (h : Preceded B R log)
    (hes : ∀ b ∈ es, B b → ∃ a ∈ log, R a b) : Preceded B R (log ++ es) := by
  intro pre b post heq hb
  rcases split_append heq with ⟨post', -, hlog⟩ | ⟨mid, rfl, hmid⟩
  · exact h pre b post' hlog hb
  · obtain ⟨a, ha, hR⟩ := hes b (by simp [hmid]) hb
    exact ⟨a, List.mem_append_left _ ha, hR⟩

/-- An `A` has happened and no `C` has happened since. -/
def Since (A C : ε → Prop) (log : List ε) : Prop :=
  ∃ pre a post, log = pre ++ a :: post ∧ A a ∧ ∀ c ∈ post, ¬ C c

theorem not_since_nil (A C : ε → Prop) : ¬ Since A C [] := by
  rintro ⟨pre, a, post, h, -⟩
  simp at h

/-- One more event: it is the `A`, or it is no `C` after one. -/
theorem since_concat (A C : ε → Prop) (log : List ε) (e : ε) :
    Since A C (log ++ [e]) ↔ A e ∨ (Since A C log ∧ ¬ C e) := by
  constructor
  · rintro ⟨pre, a, post, heq, ha, hpost⟩
    rcases split_concat heq with ⟨rfl, rfl, rfl⟩ | ⟨post', rfl, rfl⟩
    · exact .inl ha
    · exact .inr ⟨⟨pre, a, post', rfl, ha, fun c hc => hpost c (by simp [hc])⟩, hpost e (by simp)⟩
  rintro (ha | ⟨⟨pre, a, post, rfl, ha, hpost⟩, he⟩)
  · exact ⟨log, e, [], rfl, ha, by simp⟩
  refine ⟨pre, a, post ++ [e], by simp, ha, ?_⟩
  intro c hc
  rcases List.mem_append.1 hc with hc | hc
  · exact hpost c hc
  · obtain rfl : c = e := by simpa using hc
    exact he

/-- Events that are no `A` leave the last `A` where it was. -/
theorem Since.of_append {A C : ε → Prop} (h : Since A C (log ++ es)) (hes : ∀ e ∈ es, ¬ A e) :
    Since A C log ∧ ∀ e ∈ es, ¬ C e := by
  induction es using List.reverseRecOn with
  | nil => exact ⟨by simpa using h, by simp⟩
  | append_singleton es e ih =>
    rw [← List.append_assoc] at h
    rcases (since_concat A C _ e).1 h with ha | ⟨h, hc⟩
    · exact absurd ha (hes e (by simp))
    obtain ⟨hlog, hnone⟩ := ih h fun e' he' => hes e' (by simp [he'])
    refine ⟨hlog, fun c hmem => ?_⟩
    rcases List.mem_append.1 hmem with hmem | hmem
    · exact hnone c hmem
    · rwa [List.mem_singleton.1 hmem]

/-- Between an `A` and a later `B` there is a `C`. -/
def Unless (A C B : ε → Prop) (log : List ε) : Prop :=
  ∀ pre a mid b post, log = pre ++ a :: (mid ++ b :: post) → A a → B b → ∃ c ∈ mid, C c

theorem unless_nil (A C B : ε → Prop) : Unless A C B [] := by
  intro pre a mid b post h
  simp at h

/-- A log stays safe when a new `B` comes after no open `A`. -/
theorem Unless.concat {A C B : ε → Prop} {e : ε} (h : Unless A C B log)
    (he : B e → ¬ Since A C log) : Unless A C B (log ++ [e]) := by
  intro pre a mid b post heq ha hb
  have heq' : log ++ [e] = (pre ++ a :: mid) ++ b :: post := by simpa using heq
  rcases split_concat heq' with ⟨rfl, rfl, rfl⟩ | ⟨post', rfl, rfl⟩
  · by_contra hno
    exact he hb ⟨pre, a, mid, rfl, ha, fun c hc hC => hno ⟨c, hc, hC⟩⟩
  · exact h pre a mid b post' (by simp) ha hb

/-- What came after the last event that satisfies `p`, or the whole log if none does. -/
def afterLast (p : ε → Bool) (log : List ε) : List ε :=
  (log.reverse.takeWhile fun e => !p e).reverse

@[simp] theorem afterLast_nil (p : ε → Bool) : afterLast p [] = [] := rfl

theorem afterLast_concat (p : ε → Bool) (log : List ε) (e : ε) :
    afterLast p (log ++ [e]) = if p e then [] else afterLast p log ++ [e] := by
  unfold afterLast
  rw [List.reverse_concat]
  by_cases hp : p e <;> simp [hp]

theorem afterLast_append (log : List ε) (hpost : ∀ e ∈ post, p e = false) :
    afterLast p (log ++ post) = afterLast p log ++ post := by
  rw [afterLast, List.reverse_append, List.takeWhile_append_of_pos (by simpa using hpost),
    List.reverse_append, List.reverse_reverse, afterLast]

theorem afterLast_suffix (p : ε → Bool) (log : List ε) : afterLast p log <:+ log := by
  have h := List.reverse_suffix.2 (List.takeWhile_prefix (fun e => !p e) (l := log.reverse))
  rwa [List.reverse_reverse] at h

theorem eq_false_of_mem_afterLast {e : ε} (h : e ∈ afterLast p log) : p e = false := by
  simpa using List.mem_takeWhile_imp (List.mem_reverse.1 h)

/-- The events since the last `A` are at least `n` when the last `n` are none. -/
theorem le_length_afterLast_iff (p : ε → Bool) (log : List ε) (n : Nat) :
    n ≤ (afterLast p log).length ↔
      ∃ pre post, log = pre ++ post ∧ post.length = n ∧ ∀ e ∈ post, p e = false := by
  constructor
  · intro hn
    obtain ⟨pre, hpre⟩ := afterLast_suffix p log
    -- the last `n` of what came after
    refine ⟨pre ++ (afterLast p log).take ((afterLast p log).length - n),
      (afterLast p log).drop ((afterLast p log).length - n), ?_, ?_, fun e he => ?_⟩
    · rw [List.append_assoc, List.take_append_drop, hpre]
    · rw [List.length_drop]
      omega
    · exact eq_false_of_mem_afterLast (List.mem_of_mem_drop he)
  · rintro ⟨pre, post, rfl, rfl, hpost⟩
    rw [afterLast_append pre hpost, List.length_append]
    omega

theorem afterLast_or {q : ε → Bool} (h : ∀ e ∈ afterLast p log, q e = false) :
    afterLast (fun e => p e || q e) log = afterLast p log := by
  induction log using List.reverseRecOn with
  | nil => rfl
  | append_singleton log e ih =>
    rw [afterLast_concat] at h
    rw [afterLast_concat, afterLast_concat]
    by_cases hp : p e
    · simp [hp]
    rw [if_neg hp] at h
    have hq : q e = false := h e (by simp)
    simp only [hp, hq, Bool.or_false, Bool.false_eq_true, if_false]
    rw [ih fun e' he' => h e' (by simp [he'])]

/-- The events that `tag` picks out are numbered, for each index on its own, by a counter that
has gone past them all, and no number is given to two different things. -/
structure Numbered {α : Type} (tag : ε → Option (Nat × Nat × α)) (count : Nat → Nat)
    (log : List ε) : Prop where
  lt : ∀ e ∈ log, ∀ i n a, tag e = some (i, n, a) → n < count i
  unique : ∀ e ∈ log, ∀ e' ∈ log, ∀ i n a a', tag e = some (i, n, a) →
    tag e' = some (i, n, a') → a = a'

section Numbered

variable {α : Type} {tag : ε → Option (Nat × Nat × α)} {count count' : Nat → Nat} {log : List ε}

theorem numbered_nil : Numbered tag count [] := ⟨by simp, by simp⟩

/-- Events without a number keep the log numbered. -/
theorem Numbered.append {es : List ε} (h : Numbered tag count log)
    (hle : ∀ i, count i ≤ count' i) (hes : ∀ e ∈ es, tag e = none) :
    Numbered tag count' (log ++ es) := by
  have hold : ∀ e ∈ log ++ es, ∀ i n a, tag e = some (i, n, a) → e ∈ log := by
    intro e he i n a htag
    refine (List.mem_append.1 he).resolve_right fun hnew => ?_
    rw [hes e hnew] at htag
    cases htag
  constructor
  · intro e he i n a htag
    exact Nat.lt_of_lt_of_le (h.lt e (hold e he i n a htag) i n a htag) (hle i)
  · intro e he e' he' i n a a' htag htag'
    exact h.unique e (hold e he i n a htag) e' (hold e' he' i n a' htag') i n a a' htag htag'

/-- An event that takes its number from its counter keeps the log numbered. -/
theorem Numbered.concat {e : ε} {i n : Nat} {a : α} (h : Numbered tag count log)
    (hle : ∀ j, count j ≤ count' j) (htag : tag e = some (i, n, a)) (hn : count i = n)
    (hlt : n < count' i) : Numbered tag count' (log ++ [e]) := by
  subst hn
  have hfresh : ∀ e' ∈ log, ∀ b, tag e' ≠ some (i, count i, b) := fun e' he' b htag' =>
    Nat.lt_irrefl _ (h.lt e' he' _ _ _ htag')
  constructor
  · intro e' he' j n b htag'
    cases List.mem_append.1 he' with
    | inl hold => exact Nat.lt_of_lt_of_le (h.lt e' hold j n b htag') (hle j)
    | inr hnew =>
      obtain rfl := List.mem_singleton.1 hnew
      rw [htag] at htag'
      cases htag'
      exact hlt
  intro e₁ he₁ e₂ he₂ j n b c htag₁ htag₂
  cases List.mem_append.1 he₁ with
  | inl hold₁ =>
    cases List.mem_append.1 he₂ with
    | inl hold₂ => exact h.unique e₁ hold₁ e₂ hold₂ j n b c htag₁ htag₂
    | inr hnew₂ =>
      obtain rfl := List.mem_singleton.1 hnew₂
      rw [htag] at htag₂
      cases htag₂
      exact absurd htag₁ (hfresh e₁ hold₁ b)
  | inr hnew₁ =>
    obtain rfl := List.mem_singleton.1 hnew₁
    rw [htag] at htag₁
    cases htag₁
    cases List.mem_append.1 he₂ with
    | inl hold₂ => exact absurd htag₂ (hfresh e₂ hold₂ c)
    | inr hnew₂ =>
      obtain rfl := List.mem_singleton.1 hnew₂
      rw [htag] at htag₂
      cases htag₂
      rfl

end Numbered

end Log

end Flextunnel.Lib
