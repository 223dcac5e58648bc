import Mathlib.Data.List.TakeWhile
import Mathlib.Data.Nat.Digits.Defs
import Flextunnel.Lib.Basic

/-!
# Splitting text, and numbers in it

What the splitting functions of `Text` return, as equations between lists of characters: the text
is its pieces with the separator between them, and the piece the separator was searched in does
not have it. `parseUnsigned` reads the decimal notation of a number (`IsDecimal`), and the sign
it tolerates; every number's own text is such a notation.
-/

set_option autoImplicit false

namespace Flextunnel.Lib.Text

/-! ## Splitting -/

variable {c : Char} {s : String}

theorem dropWhile_ne_eq_cons_iff {d : Char} {cs before after : List Char} :
    cs.takeWhile (· != c) = before ∧ cs.dropWhile (· != c) = d :: after ↔
      d = c ∧ cs = before ++ c :: after ∧ c ∉ before := by
  constructor
  · rintro ⟨rfl, hdrop⟩
    have hhead := List.head?_dropWhile_not (· != c) cs
    rw [hdrop] at hhead
    obtain rfl : d = c := by simpa using hhead
    refine ⟨rfl, ?_, fun hmem => ?_⟩
    · rw [← hdrop, List.takeWhile_append_dropWhile]
    · simpa using List.mem_takeWhile_imp hmem
  rintro ⟨rfl, rfl, hbefore⟩
  have hall : ∀ a ∈ before, (a != d) = true := by
    intro a ha
    rw [bne_iff_ne]
    rintro rfl
    exact hbefore ha
  rw [List.takeWhile_append_of_pos hall, List.dropWhile_append_of_pos hall]
  simp

theorem exists_dropWhile_ne_eq_cons_iff {cs before after : List Char} :
    (cs.takeWhile (· != c) = before ∧ ∃ d, cs.dropWhile (· != c) = d :: after) ↔
      cs = before ++ c :: after ∧ c ∉ before := by
  constructor
  · rintro ⟨htake, d, hdrop⟩
    exact (dropWhile_ne_eq_cons_iff.1 ⟨htake, hdrop⟩).2
  · intro h
    obtain ⟨htake, hdrop⟩ := dropWhile_ne_eq_cons_iff.2 ⟨rfl, h⟩
    exact ⟨htake, c, hdrop⟩

/-- The first split: no separator before it. -/
theorem splitOnce_eq_some_iff {before after : String} :
    splitOnce c s = some (before, after) ↔
      s.toList = before.toList ++ c :: after.toList ∧ c ∉ before.toList := by
  have hsplit : splitOnce c s = some (before, after) ↔ s.toList.takeWhile (· != c) = before.toList ∧
      ∃ d, s.toList.dropWhile (· != c) = d :: after.toList := by
    unfold splitOnce
    split
    next hnil => simp [hnil]
    next d rest hcons =>
      simp [hcons, ← String.toList_inj]
  rw [hsplit]
  exact exists_dropWhile_ne_eq_cons_iff

/-- The last split: no separator after it. -/
theorem rsplitOnce_eq_some_iff {before after : String} :
    rsplitOnce c s = some (before, after) ↔
      s.toList = before.toList ++ c :: after.toList ∧ c ∉ after.toList := by
  have hsplit : rsplitOnce c s = some (before, after) ↔
      s.toList.reverse.takeWhile (· != c) = after.toList.reverse ∧
        ∃ d, s.toList.reverse.dropWhile (· != c) = d :: before.toList.reverse := by
    unfold rsplitOnce
    split
    next hnil => simp [hnil]
    next d rest hcons =>
      simp [hcons, ← String.toList_inj, List.reverse_eq_iff, and_comm]
  have hturn : s.toList.reverse = after.toList.reverse ++ c :: before.toList.reverse ∧
      c ∉ after.toList.reverse ↔ s.toList = before.toList ++ c :: after.toList ∧
        c ∉ after.toList := by
    rw [List.reverse_eq_iff, List.mem_reverse]
    simp
  rw [hsplit, ← hturn]
  exact exists_dropWhile_ne_eq_cons_iff

/-- There is no split where the separator does not occur. -/
theorem rsplitOnce_eq_none_iff : rsplitOnce c s = none ↔ c ∉ s.toList := by
  unfold rsplitOnce
  split
  next hnil =>
    rw [List.dropWhile_eq_nil_iff] at hnil
    simp only [true_iff]
    intro hmem
    simpa using hnil c (List.mem_reverse.2 hmem)
  next d rest hcons =>
    obtain ⟨rfl, hs, -⟩ := dropWhile_ne_eq_cons_iff.1 ⟨rfl, hcons⟩
    have hmem : d ∈ s.toList.reverse := by
      rw [hs]
      simp
    simpa using hmem

theorem mem_intercalate {sep : Char} {pieces : List (List Char)}
    (h : c ∈ [sep].intercalate pieces) :
    c = sep ∨ ∃ piece ∈ pieces, c ∈ piece := by
  induction pieces with
  | nil => simp at h
  | cons piece pieces ih =>
    cases pieces with
    | nil => exact .inr ⟨piece, by simp, by simpa using h⟩
    | cons next pieces =>
      rw [List.intercalate_cons_cons] at h
      rcases List.mem_append.1 h with h | h
      · rcases List.mem_append.1 h with h | h
        · exact .inr ⟨piece, by simp, h⟩
        · exact .inl (List.mem_singleton.1 h)
      · rcases ih h with rfl | ⟨other, hother, hc⟩
        · exact .inl rfl
        · exact .inr ⟨other, List.mem_cons_of_mem _ hother, hc⟩

/-- Every character but the separator is in a piece. -/
theorem mem_splitChar {sep : Char} (hc : c ∈ s.toList) :
    c = sep ∨ ∃ piece ∈ splitChar sep s, c ∈ piece.toList := by
  have hjoin : [sep].intercalate (s.toList.splitOn sep) = s.toList := List.intercalate_splitOn sep
  rw [← hjoin] at hc
  refine (mem_intercalate hc).imp_right ?_
  rintro ⟨piece, hpiece, hc⟩
  exact ⟨String.ofList piece, List.mem_map_of_mem hpiece, by rwa [String.toList_ofList]⟩

/-- Text without whitespace is not trimmed. -/
theorem trim_eq_self (h : ∀ c ∈ s.toList, isWhitespace c = false) : trim s = s := by
  have hdrop (cs : List Char) (hcs : ∀ c ∈ cs, isWhitespace c = false) :
      cs.dropWhile isWhitespace = cs := by
    cases cs with
    | nil => rfl
    | cons c cs => rw [List.dropWhile_cons, hcs c (by simp), if_neg (by simp)]
  rw [trim, trimList, hdrop _ h, hdrop _ fun c hc => h c (List.mem_reverse.1 hc),
    List.reverse_reverse, String.ofList_toList]

/-! ## Numbers -/

/-- A decimal notation of a number; leading zeros are allowed. -/
def IsDecimal (digits : List Char) (n : Nat) : Prop :=
  digits ≠ [] ∧ (∀ c ∈ digits, c.isDigit = true) ∧
    digits.foldl (fun acc c => acc * 10 + (c.toNat - '0'.toNat)) 0 = n

theorem IsDecimal.not_mem {digits : List Char} {n : Nat} (h : IsDecimal digits n)
    (hc : c.isDigit = false) : c ∉ digits := by
  intro hmem
  rw [h.2.1 c hmem] at hc
  cases hc

/-- What parses: digits after an optional plus sign, with a value below the bound. -/
theorem parseUnsigned_eq_some_iff {bound n : Nat} :
    parseUnsigned bound s = some n ↔
      ∃ digits, (s.toList = digits ∨ s.toList = '+' :: digits) ∧ IsDecimal digits n ∧
        n < bound := by
  have hdigits {digits : List Char} {value : Nat}
      (hvalue : digits.foldl (fun acc c => acc * 10 + (c.toNat - '0'.toNat)) 0 = value) :
      (if !digits.isEmpty && digits.all Char.isDigit && value < bound then some value else none) =
        some n ↔ IsDecimal digits n ∧ n < bound := by
    subst hvalue
    unfold IsDecimal
    simp only [Option.ite_none_right_eq_some, Bool.and_eq_true, Bool.not_eq_true',
      List.isEmpty_eq_false_iff, List.all_eq_true, decide_eq_true_eq, Option.some.injEq]
    constructor
    · rintro ⟨⟨⟨hne, hall⟩, hlt⟩, rfl⟩
      exact ⟨⟨hne, hall, rfl⟩, hlt⟩
    · rintro ⟨⟨hne, hall, rfl⟩, hlt⟩
      exact ⟨⟨⟨hne, hall⟩, hlt⟩, rfl⟩
  unfold parseUnsigned
  dsimp only
  rw [hdigits rfl]
  cases hstrip : s.toList.dropPrefix? ['+'] with
  | none =>
    constructor
    · intro h
      exact ⟨s.toList, .inl rfl, h⟩
    rintro ⟨digits, hs | hs, h⟩
    · rw [Option.getD_none, hs]
      exact h
    · have hsome : s.toList.dropPrefix? ['+'] = some digits :=
        List.dropPrefix?_eq_some_iff.2 ⟨['+'], hs, by simp⟩
      cases hstrip.symm.trans hsome
  | some rest =>
    obtain ⟨p, hs, hp⟩ := List.dropPrefix?_eq_some_iff.1 hstrip
    obtain rfl : p = ['+'] := by simpa using hp
    rw [Option.getD_some]
    constructor
    · intro h
      exact ⟨rest, .inr hs, h⟩
    rintro ⟨digits, hdigits' | hdigits', h⟩
    · -- a sign is no digit
      refine absurd ?_ (h.1.not_mem (c := '+') (by decide))
      rw [← hdigits', hs]
      simp
    · obtain rfl : rest = digits := List.tail_eq_of_cons_eq (hs.symm.trans hdigits')
      exact h

/-- The digits of a number have its value. -/
theorem isDecimal_toDigits (n : Nat) : IsDecimal (Nat.toDigits 10 n) n := by
  refine ⟨Nat.toDigits_ne_nil, fun c hc => Nat.isDigit_of_mem_toDigits (by omega) (by omega) hc, ?_⟩
  -- the last digit comes off the end
  induction n using Nat.strong_induction_on with
  | _ n ih =>
    rw [Nat.toDigits_eq_if (by omega)]
    have hdigit (d : Nat) (hd : d < 10) : (Nat.digitChar d).toNat - '0'.toNat = d := by
      rw [Nat.toNat_digitChar_of_lt_ten hd]
      exact Nat.add_sub_cancel_left ..
    split
    next hlt => simpa using hdigit n hlt
    next hge =>
      rw [List.foldl_append, ih (n / 10) (by omega), List.foldl_cons, List.foldl_nil,
        hdigit _ (Nat.mod_lt _ (by omega))]
      omega

theorem isDecimal_toString (n : Nat) : IsDecimal (toString n).toList n := by
  have hchars : (toString n).toList = Nat.toDigits 10 n := String.toList_ofList
  rw [hchars]
  exact isDecimal_toDigits n

end Flextunnel.Lib.Text
