import Flextunnel.Lib.Basic

/-!
# Matching by pieces and by leading bits

Two notions a matcher on texts and addresses is measured against: the pieces of a list
between the occurrences of a separator, and the leading bits of a byte string. A list
ends in a separator and `xs` exactly when its last pieces are those of `xs` and it has
more pieces than these. Bytes with all but their leading bits cleared are equal exactly
when these bits are.
-/

set_option autoImplicit false

namespace Flextunnel.Lib

/-! ## Pieces -/

section Pieces

variable {α : Type} {sep : α} {xs ys : List α}

/-- Joining two lists of pieces puts one separator between them. -/
theorem intercalate_append {ls ms : List (List α)} (hls : ls ≠ []) (hms : ms ≠ []) :
    [sep].intercalate (ls ++ ms) = [sep].intercalate ls ++ sep :: [sep].intercalate ms := by
  induction ls with
  | nil => exact absurd rfl hls
  | cons l ls ih =>
    by_cases hnil : ls = []
    · subst hnil
      rw [List.singleton_append, List.intercalate_cons_of_ne_nil hms]
      simp
    have happend : ls ++ ms ≠ [] := by simp [hnil]
    rw [List.cons_append, List.intercalate_cons_of_ne_nil happend, ih hnil,
      List.intercalate_cons_of_ne_nil hnil]
    simp

variable [DecidableEq α]

/-- No piece holds the separator. -/
theorem not_mem_of_mem_splitOn {piece : List α} (h : piece ∈ xs.splitOn sep) : sep ∉ piece := by
  induction xs generalizing piece with
  | nil =>
    obtain rfl : piece = [] := by simpa using h
    simp
  | cons x xs ih =>
    rw [List.splitOn_cons_eq_if_modifyHead] at h
    by_cases hx : x = sep
    · rw [if_pos (by simpa using hx)] at h
      rcases List.mem_cons.1 h with rfl | h
      · simp
      · exact ih h
    rw [if_neg (by simpa using hx)] at h
    cases hpieces : xs.splitOn sep with
    | nil => exact absurd hpieces (List.splitOn_ne_nil sep xs)
    | cons first others =>
      rw [hpieces] at ih h
      rcases List.mem_cons.1 h with rfl | h
      · have hfirst := ih List.mem_cons_self
        simpa [hfirst, eq_comm] using hx
      · exact ih (List.mem_cons_of_mem _ h)

/-- **A suffix after a separator is a proper suffix of the pieces.** -/
theorem cons_isSuffix_iff_splitOn :
    (sep :: xs) <:+ ys ↔
      xs.splitOn sep <:+ ys.splitOn sep ∧ xs.splitOn sep ≠ ys.splitOn sep := by
  constructor
  · rintro ⟨before, rfl⟩
    have hsplit := List.splitOn_append_cons_self (a := sep) before xs
    have hbefore := List.splitOn_ne_nil sep before
    rw [hsplit]
    refine ⟨⟨_, rfl⟩, fun heq => hbefore ?_⟩
    have hlen := congrArg List.length heq
    rw [List.length_append] at hlen
    exact List.length_eq_zero_iff.1 (by omega)
  rintro ⟨⟨before, hpieces⟩, hne⟩
  have hbefore : before ≠ [] := by
    rintro rfl
    exact hne hpieces
  refine ⟨[sep].intercalate before, ?_⟩
  calc [sep].intercalate before ++ sep :: xs
      = [sep].intercalate before ++ sep :: [sep].intercalate (xs.splitOn sep) := by
        rw [List.intercalate_splitOn]
    _ = [sep].intercalate (before ++ xs.splitOn sep) :=
        (intercalate_append hbefore (List.splitOn_ne_nil sep xs)).symm
    _ = ys := by rw [hpieces, List.intercalate_splitOn]

/-- Ending in a separator and a text is having its pieces as a proper tail. -/
theorem endsWith_cons_iff_splitChar {c : Char} {s t : String} :
    Text.endsWith (String.ofList (c :: s.toList)) t = true ↔
      Text.splitChar c s <:+ Text.splitChar c t ∧ Text.splitChar c s ≠ Text.splitChar c t := by
  have hback (u : String) : (Text.splitChar c u).map String.toList = u.toList.splitOn c := by
    simp [Text.splitChar, Function.comp_def]
  rw [Text.endsWith_iff_toList, String.toList_ofList, cons_isSuffix_iff_splitOn, ← hback s,
    ← hback t]
  have hinj : Function.Injective String.toList := fun a b h => String.toList_inj.1 h
  constructor
  · rintro ⟨hsuffix, hne⟩
    have hsuffix' := hsuffix.map String.ofList
    simp only [List.map_map, Function.comp_def, String.ofList_toList, List.map_id'] at hsuffix'
    exact ⟨hsuffix', fun heq => hne (congrArg _ heq)⟩
  · rintro ⟨hsuffix, hne⟩
    exact ⟨hsuffix.map String.toList, fun heq => hne (List.map_injective_iff.2 hinj heq)⟩

/-- A text of three pieces is these pieces with the separator between them. -/
theorem eq_of_splitChar_eq_three {c : Char} {s x y z : String}
    (h : Text.splitChar c s = [x, y, z]) :
    s = x ++ String.singleton c ++ y ++ String.singleton c ++ z ∧
      c ∉ x.toList ∧ c ∉ y.toList ∧ c ∉ z.toList := by
  have hlists : s.toList.splitOn c = [x.toList, y.toList, z.toList] := by
    have hmap := congrArg (List.map String.toList) h
    simpa [Text.splitChar, Function.comp_def] using hmap
  have hpiece (piece : List Char) (hin : piece ∈ [x.toList, y.toList, z.toList]) : c ∉ piece :=
    not_mem_of_mem_splitOn (hlists ▸ hin)
  refine ⟨?_, hpiece _ (by simp), hpiece _ (by simp), hpiece _ (by simp)⟩
  apply String.toList_inj.1
  have hjoin : [c].intercalate (s.toList.splitOn c) = s.toList := List.intercalate_splitOn c
  rw [hlists] at hjoin
  rw [← hjoin]
  simp [List.intercalate]

end Pieces

/-! ## Leading bits -/

/-- The bits of a byte, the highest first. -/
def bitsOfByte (b : UInt8) : List Bool :=
  (List.range 8).map fun i => b.toNat.testBit (7 - i)

/-- The bits of a byte string. -/
def bits (bs : List UInt8) : List Bool := bs.flatMap bitsOfByte

theorem length_bitsOfByte (b : UInt8) : (bitsOfByte b).length = 8 := by
  simp [bitsOfByte]

theorem take_bits_cons (n : Nat) (b : UInt8) (bs : List UInt8) :
    (bits (b :: bs)).take n = (bitsOfByte b).take n ++ (bits bs).take (n - 8) := by
  rw [bits, List.flatMap_cons, List.take_append, length_bitsOfByte]
  rfl

/-- The first bits of two bytes agree when the bytes do above the others. -/
theorem take_bitsOfByte_eq_iff {n : Nat} (hn : n ≤ 8) {a b : UInt8} :
    (bitsOfByte a).take n = (bitsOfByte b).take n ↔
      a.toNat / 2 ^ (8 - n) = b.toNat / 2 ^ (8 - n) := by
  have hlt (c : UInt8) (i : Nat) (hi : 8 ≤ i) : c.toNat.testBit i = false := by
    apply Nat.testBit_lt_two_pow
    have hc := c.toNat_lt
    have hpow : 2 ^ 8 ≤ 2 ^ i := Nat.pow_le_pow_right (by omega) hi
    omega
  have htake (c : UInt8) : (bitsOfByte c).take n =
      (List.range n).map fun i => c.toNat.testBit (7 - i) := by
    rw [bitsOfByte, ← List.map_take, List.take_range, Nat.min_eq_left hn]
  rw [htake, htake, List.map_inj_left, ← Nat.shiftRight_eq_div_pow, ← Nat.shiftRight_eq_div_pow]
  constructor
  · intro hbits
    apply Nat.eq_of_testBit_eq
    intro j
    rw [Nat.testBit_shiftRight, Nat.testBit_shiftRight]
    by_cases hj : 8 ≤ 8 - n + j
    · rw [hlt a _ hj, hlt b _ hj]
    · have hbit := hbits (n - 1 - j) (List.mem_range.2 (by omega))
      have hidx : 7 - (n - 1 - j) = 8 - n + j := by omega
      rwa [hidx] at hbit
  intro hshift i hi
  have hi' := List.mem_range.1 hi
  have hbit := congrArg (fun m => m.testBit (n - 1 - i)) hshift
  simp only [Nat.testBit_shiftRight] at hbit
  have hidx : 8 - n + (n - 1 - i) = 7 - i := by omega
  rwa [hidx] at hbit

end Flextunnel.Lib
