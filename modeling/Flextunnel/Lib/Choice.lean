import Mathlib.Data.List.Induction
import Flextunnel.Lib.Basic

/-!
# Choices that do not depend on an order

Two ways a program picks one of several candidates: the last one of greatest weight, and the
first match in a sorted list. Where no two candidates tie, neither choice depends on the order
in which the candidates come. A traversal of one collection in two orders succeeds in both or
in neither, and sorting makes the results equal.
-/

set_option autoImplicit false

namespace Flextunnel.Lib

variable {α : Type} {xs : List α} {x : α}

/-! ## The last element of greatest weight -/

section LastMax

variable {weight : α → Nat}

/-- An iterator's `max_by_key`: of several elements of greatest weight, the last one. -/
def lastMax (weight : α → Nat) (xs : List α) : Option α :=
  xs.foldl (fun best x => if best.all fun y => weight y ≤ weight x then some x else best) none

theorem lastMax_concat (xs : List α) (x : α) :
    lastMax weight (xs ++ [x]) =
      if (lastMax weight xs).all fun y => weight y ≤ weight x then some x
      else lastMax weight xs :=
  List.foldl_concat ..

theorem lastMax_eq_none_iff : lastMax weight xs = none ↔ xs = [] := by
  induction xs using List.reverseRecOn with
  | nil => exact iff_of_true rfl rfl
  | append_singleton xs z _ =>
    rw [lastMax_concat]
    cases lastMax weight xs with
    | none => simp
    | some best => split <;> simp

/-- The chosen element is in the list and no other weighs more. -/
theorem lastMax_eq_some (h : lastMax weight xs = some x) :
    x ∈ xs ∧ ∀ y ∈ xs, weight y ≤ weight x := by
  induction xs using List.reverseRecOn generalizing x with
  | nil => cases h
  | append_singleton xs z ih =>
    rw [lastMax_concat] at h
    cases hbest : lastMax weight xs with
    | none =>
      obtain rfl := lastMax_eq_none_iff.1 hbest
      cases h
      simp
    | some best =>
      obtain ⟨hmem, hmax⟩ := ih hbest
      rw [hbest] at h
      split at h
      next hle =>
        obtain rfl := Option.some.inj h
        have hle : weight best ≤ weight z := by simpa using hle
        refine ⟨by simp, fun y hy => ?_⟩
        rcases List.mem_append.1 hy with hy | hy
        · exact (hmax y hy).trans hle
        · rw [List.mem_singleton.1 hy]
      next hlt =>
        obtain rfl := Option.some.inj h
        have hlt : weight z < weight best := by simpa using hlt
        refine ⟨by simp [hmem], fun y hy => ?_⟩
        rcases List.mem_append.1 hy with hy | hy
        · exact hmax y hy
        · rw [List.mem_singleton.1 hy]
          exact hlt.le

/-- **Where weights tell the elements apart, the choice is the element of greatest weight.** -/
theorem lastMax_eq_some_iff (hinj : ∀ y ∈ xs, ∀ z ∈ xs, weight y = weight z → y = z) :
    lastMax weight xs = some x ↔ x ∈ xs ∧ ∀ y ∈ xs, weight y ≤ weight x := by
  refine ⟨lastMax_eq_some, fun ⟨hmem, hmax⟩ => ?_⟩
  cases hchoice : lastMax weight xs with
  | none =>
    rw [lastMax_eq_none_iff] at hchoice
    exact absurd hmem (by simp [hchoice])
  | some z =>
    obtain ⟨hz, hzmax⟩ := lastMax_eq_some hchoice
    rw [hinj z hz x hmem (le_antisymm (hmax z hz) (hzmax x hmem))]

end LastMax

/-! ## The first match in a sorted list -/

/-- **The first match in a sorted list comes before every other match.** -/
theorem find?_eq_some_iff_of_pairwise {R : α → α → Prop} {p : α → Bool} (hsorted : xs.Pairwise R)
    (hrefl : ∀ a, R a a) (hanti : ∀ a ∈ xs, ∀ b ∈ xs, R a b → R b a → a = b) :
    xs.find? p = some x ↔ x ∈ xs ∧ p x = true ∧ ∀ y ∈ xs, p y = true → R x y := by
  have hfirst {z : α} (hz : xs.find? p = some z) :
      z ∈ xs ∧ p z = true ∧ ∀ y ∈ xs, p y = true → R z y := by
    obtain ⟨hpz, before, after, hxs, hbefore⟩ := List.find?_eq_some_iff_append.1 hz
    refine ⟨List.mem_of_find?_eq_some hz, hpz, fun y hy hpy => ?_⟩
    rw [hxs] at hy hsorted
    rcases List.mem_append.1 hy with hy | hy
    · exact absurd hpy (by simpa using hbefore y hy)
    · rcases List.mem_cons.1 hy with rfl | hy
      · exact hrefl y
      · exact (List.pairwise_cons.1 (List.pairwise_append.1 hsorted).2.1).1 y hy
  refine ⟨hfirst, fun ⟨hmem, hpx, hleast⟩ => ?_⟩
  cases hfound : xs.find? p with
  | none => exact absurd hpx (List.find?_eq_none.1 hfound x hmem)
  | some z =>
    obtain ⟨hz, hpz, hzleast⟩ := hfirst hfound
    rw [hanti z hz x hmem (hzleast x hmem hpx) (hleast z hz hpz)]

/-! ## One collection in two orders -/

section Orders

variable {β ε κ : Type} {ys : List α}

/-- Where no two elements tie, sorting does not see the order of the input. -/
theorem insertionSort_eq_of_perm {R : α → α → Prop} [DecidableRel R] [Std.Total R] [IsTrans α R]
    (hanti : ∀ a ∈ xs, ∀ b ∈ xs, R a b → R b a → a = b) (h : xs.Perm ys) :
    xs.insertionSort R = ys.insertionSort R := by
  refine List.Perm.eq_of_pairwise (fun a b ha hb => ?_) (List.pairwise_insertionSort R xs)
    (List.pairwise_insertionSort R ys)
    ((List.perm_insertionSort R xs).trans (h.trans (List.perm_insertionSort R ys).symm))
  exact hanti a ((List.mem_insertionSort R).1 ha) b (h.mem_iff.2 ((List.mem_insertionSort R).1 hb))

section Key

variable [LinearOrder κ] (key : α → κ)

theorem total_key : Std.Total fun a b : α => ¬ key b < key a := by
  refine ⟨fun a b => ?_⟩
  simp only [not_lt]
  exact le_total _ _

theorem trans_key : IsTrans α fun a b : α => ¬ key b < key a := by
  refine ⟨fun a b c hab hbc => ?_⟩
  simp only [not_lt] at *
  exact hab.trans hbc

variable [DecidableRel fun a b : α => ¬ key b < key a]

/-- Sorted by key, the keys ascend. -/
theorem pairwise_insertionSort_key (xs : List α) :
    (xs.insertionSort fun a b => ¬ key b < key a).Pairwise fun a b => key a ≤ key b := by
  have := total_key key
  have := trans_key key
  exact (List.pairwise_insertionSort _ xs).imp not_lt.1

/-- With distinct keys, sorting by key does not see the order of the input. -/
theorem insertionSort_key_eq_of_perm (hnodup : (xs.map key).Nodup) (h : xs.Perm ys) :
    xs.insertionSort (fun a b => ¬ key b < key a) =
      ys.insertionSort fun a b => ¬ key b < key a := by
  have := total_key key
  have := trans_key key
  refine insertionSort_eq_of_perm (fun a ha b hb hab hba => ?_) h
  exact List.inj_on_of_nodup_map hnodup ha hb (le_antisymm (not_lt.1 hab) (not_lt.1 hba))

end Key

theorem exists_mapM_eq_ok_iff {f : α → Except ε β} :
    (∃ zs, xs.mapM f = .ok zs) ↔ ∀ x ∈ xs, ∃ z, f x = .ok z := by
  induction xs with
  | nil => simp [pure, Except.pure]
  | cons x xs ih =>
    rw [List.forall_mem_cons, ← ih, List.mapM_cons]
    constructor
    · rintro ⟨zs, h⟩
      obtain ⟨z, hz, h⟩ := bind_eq_ok.1 h
      obtain ⟨rest, hrest, -⟩ := bind_eq_ok.1 h
      exact ⟨⟨z, hz⟩, rest, hrest⟩
    · rintro ⟨⟨z, hz⟩, rest, hrest⟩
      exact ⟨z :: rest, bind_eq_ok.2 ⟨z, hz, bind_eq_ok.2 ⟨rest, hrest, rfl⟩⟩⟩

/-- A traversal of a permuted list succeeds, with the results permuted. -/
theorem mapM_perm {f : α → Except ε β} {zs : List β} (h : xs.Perm ys) (hxs : xs.mapM f = .ok zs) :
    ∃ zs', ys.mapM f = .ok zs' ∧ zs.Perm zs' := by
  obtain ⟨zs', hzs'⟩ : ∃ zs', ys.mapM f = .ok zs' :=
    exists_mapM_eq_ok_iff.2 fun y hy => exists_mapM_eq_ok_iff.1 ⟨zs, hxs⟩ y (h.mem_iff.2 hy)
  refine ⟨zs', hzs', ?_⟩
  rw [← filterMap_toOption_of_mapM_eq_ok hxs, ← filterMap_toOption_of_mapM_eq_ok hzs']
  exact h.filterMap _

end Orders

end Flextunnel.Lib
