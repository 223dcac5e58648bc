import Mathlib.Data.List.Nodup
import Mathlib.Data.List.Pairwise

/-!
# Records that hold values apart

Records with a key, each holding a list of values, such that no value is held twice: neither by one
record nor by two. Where no two records have one key this is the same as all the values in one list
without a duplicate; as a statement about the members of the list it is kept by every change that
drops records, shrinks them, or replaces one.
-/

set_option autoImplicit false

namespace Flextunnel.Lib

variable {α κ β : Type} {key : α → κ} {held : α → List β} {xs ys : List α}

/-- No record holds a value twice, and no two records with different keys hold the same value. -/
structure Apart (key : α → κ) (held : α → List β) (xs : List α) : Prop where
  nodup : ∀ x ∈ xs, (held x).Nodup
  disjoint : ∀ x ∈ xs, ∀ y ∈ xs, key x ≠ key y → (held x).Disjoint (held y)

theorem disjoint_of_nodup_flatMap (h : (xs.flatMap held).Nodup) {x y : α} (hx : x ∈ xs)
    (hy : y ∈ xs) (hne : x ≠ y) : (held x).Disjoint (held y) := by
  have hsymm : Std.Symm (Function.onFun List.Disjoint held) := ⟨fun _ _ => List.disjoint_symm⟩
  exact (List.nodup_flatMap.1 h).2.forall hx hy hne

namespace Apart

/-- With distinct keys, records are apart when all their values are one list without a duplicate. -/
theorem iff_nodup_flatMap (hkeys : (xs.map key).Nodup) :
    Apart key held xs ↔ (xs.flatMap held).Nodup := by
  constructor
  · rintro ⟨hnodup, hdisjoint⟩
    rw [List.Nodup, List.pairwise_map] at hkeys
    refine List.nodup_flatMap.2 ⟨hnodup, ?_⟩
    exact hkeys.imp_of_mem fun {x y} hx hy hne => hdisjoint x hx y hy hne
  · intro h
    refine ⟨(List.nodup_flatMap.1 h).1, fun x hx y hy hne => ?_⟩
    exact disjoint_of_nodup_flatMap h hx hy fun heq => hne (congrArg key heq)

/-- Records stay apart when some are dropped or shrunk. -/
theorem fewer (h : Apart key held xs)
    (hys : ∀ y ∈ ys, ∃ x ∈ xs, key y = key x ∧ (held y).Sublist (held x)) : Apart key held ys where
  nodup y hy := by
    obtain ⟨x, hx, -, hsub⟩ := hys y hy
    exact (h.nodup x hx).sublist hsub
  disjoint y hy z hz hne := by
    obtain ⟨x, hx, hyx, hsub⟩ := hys y hy
    obtain ⟨w, hw, hzw, hsub'⟩ := hys z hz
    have hdisjoint := h.disjoint x hx w hw (by rwa [← hyx, ← hzw])
    exact fun b hb hb' => hdisjoint (hsub.subset hb) (hsub'.subset hb')

/-- Records stay apart when one is replaced by a record that is apart from the others. -/
theorem replaced (h : Apart key held xs) {new : α} (hys : ∀ y ∈ ys, y ∈ xs ∨ y = new)
    (hnew : (held new).Nodup)
    (hapart : ∀ x ∈ xs, key x ≠ key new → (held new).Disjoint (held x)) : Apart key held ys where
  nodup y hy := by
    obtain hy | rfl := hys y hy
    · exact h.nodup y hy
    · exact hnew
  disjoint y hy z hz hne := by
    obtain hy | rfl := hys y hy
    · obtain hz | rfl := hys z hz
      · exact h.disjoint y hy z hz hne
      · exact List.disjoint_symm (hapart y hy hne)
    · obtain hz | rfl := hys z hz
      · exact hapart z hz hne.symm
      · exact absurd rfl hne

end Apart

end Flextunnel.Lib
