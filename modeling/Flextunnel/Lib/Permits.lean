import Flextunnel.Lib.Machine

/-!
# Permits

A semaphore hands out permits to the parties of a list, each of which has one or has none. What is
free and what is held always add up to the size of the semaphore: `Permits` is kept by a party that
joins with a permit (`join`), and by one that moves and gives its permit back or keeps what it has
(`leave`, `keep`).
-/

set_option autoImplicit false

namespace Flextunnel.Lib

variable {α : Type} {p : α → Bool} {xs : List α} {x y : α} {i size free : Nat}

/-- How many parties of a kind there are, after one has moved. -/
theorem countP_set_moved (hi : xs[i]? = some x) :
    (xs.set i y).countP p + (p x).toNat = xs.countP p + (p y).toNat := by
  induction xs generalizing i with
  | nil => simp at hi
  | cons z xs ih =>
    cases i with
    | zero =>
      obtain rfl : z = x := by simpa using hi
      simp only [List.set_cons_zero, List.countP_cons]
      cases p z <;> cases p y <;> simp
    | succ i =>
      have := ih (i := i) (by simpa using hi)
      simp only [List.set_cons_succ, List.countP_cons]
      omega

/-- The free permits and those that are held are all there are. -/
def Permits (size free : Nat) (p : α → Bool) (xs : List α) : Prop := free + xs.countP p = size

/-- Taking a permit admits one element. -/
theorem Permits.join (h : Permits size (free + 1) p xs) (hx : p x = true) :
    Permits size free p (xs ++ [x]) := by
  simp only [Permits, List.countP_append, List.countP_singleton, hx] at h ⊢
  simp only [if_true]
  omega

/-- An element that leaves gives its permit back. -/
theorem Permits.leave (h : Permits size free p xs) (hi : xs[i]? = some x) (hx : p x = true)
    (hy : p y = false) : Permits size (free + 1) p (xs.set i y) := by
  have := countP_set_moved (p := p) (y := y) hi
  simp only [hx, hy, Bool.toNat_true, Bool.toNat_false, Permits] at this h ⊢
  omega

/-- A move that neither joins nor leaves keeps the count. -/
theorem Permits.keep (h : Permits size free p xs) (hi : xs[i]? = some x) (hxy : p y = p x) :
    Permits size free p (xs.set i y) := by
  have := countP_set_moved (p := p) (y := y) hi
  rw [hxy] at this
  simp only [Permits] at h ⊢
  omega

end Flextunnel.Lib
