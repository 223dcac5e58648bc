import Mathlib.Data.Nat.Digits.Defs
import Flextunnel.Lib.Words
import Flextunnel.Model.Forms

/-!
# Names and ids the app makes up

Every name the app stores passes `is_valid_name`: the forms normalize what a user types, and
the import merge numbers a name that is taken.
-/

set_option autoImplicit false

namespace Flextunnel.Analysis

open Lib Lib.Text Model

/-! ## Valid names -/

variable {name desired : String}

/-- A valid name is short, not empty and has single spaces between its words. -/
theorem isValidName_iff :
    isValidName name = true ↔
      name.toList ≠ [] ∧ name.toList.length ≤ 64 ∧ SingleSpaced name.toList := by
  simp only [isValidName, Bool.and_eq_true, Bool.not_eq_true', decide_eq_true_eq,
    List.isEmpty_eq_false_iff, bne_iff_ne, containsText_two_spaces_iff, List.any_eq_false]
  constructor
  · rintro ⟨⟨⟨⟨⟨hne, hlen⟩, hhead⟩, hlast⟩, hchain⟩, hblank⟩
    refine ⟨hne, hlen, fun c hc hw => ?_, hhead, hlast, hchain⟩
    have := hblank c hc
    simp only [hw, true_and, ne_eq, not_not] at this
    exact this
  · rintro ⟨hne, hlen, hs⟩
    refine ⟨⟨⟨⟨⟨hne, hlen⟩, hs.head⟩, hs.last⟩, hs.chain⟩, fun c hc hboth => ?_⟩
    exact hboth.2 (hs.blank c hc hboth.1)

theorem toList_ne_nil {s : String} (h : s ≠ "") : s.toList ≠ [] := by
  intro hnil
  apply h
  rw [← String.ofList_toList (s := s), hnil]

theorem isValidName_normalizeName (hne : normalizeName name ≠ "")
    (hlen : (normalizeName name).toList.length ≤ 64) : isValidName (normalizeName name) = true :=
  isValidName_iff.2 ⟨toList_ne_nil hne, hlen, singleSpaced_join_splitWhitespace name⟩

/-! ## Numbered names -/

theorem shorten_spec (suffixLen : Nat) (cs : List Char) :
    ∃ popped, cs = popped ++ shorten suffixLen cs ∧
      (shorten suffixLen cs = [] ∨
        byteLen (String.ofList (shorten suffixLen cs).reverse) + suffixLen ≤ 64) := by
  induction cs with
  | nil => exact ⟨[], rfl, .inl rfl⟩
  | cons c cs ih =>
    unfold shorten
    split
    · obtain ⟨popped, hcs, hroom⟩ := ih
      exact ⟨c :: popped, by rw [List.cons_append, ← hcs], hroom⟩
    next hfits => exact ⟨[], rfl, .inr (by omega)⟩

theorem shorten_ne_nil {suffixLen : Nat} (hsuffix : suffixLen ≤ 60) {cs : List Char}
    (hcs : cs ≠ []) : shorten suffixLen cs ≠ [] := by
  induction cs with
  | nil => exact absurd rfl hcs
  | cons c cs ih =>
    unfold shorten
    split
    next hlong =>
      apply ih
      rintro rfl
      have hone := (byteLen_bounds (String.ofList [c])).2
      simp only [String.toList_ofList, List.length_singleton, List.reverse_singleton] at hone hlong
      omega
    · simp

theorem trimEnd_ne_nil {cs : List Char} {c : Char} (hhead : cs.head? = some c)
    (hc : isWhitespace c = false) : (cs.reverse.dropWhile isWhitespace).reverse ≠ [] := by
  intro hnil
  rw [List.reverse_eq_nil_iff, List.dropWhile_eq_nil_iff] at hnil
  have := hnil c (by simpa using List.mem_of_head? hhead)
  rw [hc] at this
  cases this

theorem not_isWhitespace_repr (n : Nat) : ∀ c ∈ n.repr.toList, isWhitespace c = false := by
  intro c hc
  have hdigit : c.isDigit = true := by
    apply Nat.isDigit_of_mem_toDigits (b := 10) (n := n) (by omega) (by omega)
    simpa [Nat.repr] using hc
  simp only [Char.isDigit, Bool.and_eq_true, decide_eq_true_eq] at hdigit
  have hlow : 48 ≤ c.toNat := hdigit.1
  have hhigh : c.toNat ≤ 57 := hdigit.2
  simp only [isWhitespace, Bool.or_eq_false_iff, Bool.and_eq_false_iff, decide_eq_false_iff_not,
    beq_eq_false_iff_ne]
  omega

theorem repr_ne_empty (n : Nat) : n.repr ≠ "" := by
  intro h
  have := congrArg String.toList h
  simp [Nat.repr, Nat.toDigits_ne_nil] at this

/-- A valid name that is cut by bytes, trimmed and numbered is valid. -/
theorem isValidName_numberedName (h : isValidName desired = true) {n : Nat} (hn : n < 10 ^ 10) :
    isValidName (numberedName desired n) = true := by
  obtain ⟨hne, -, hs⟩ := isValidName_iff.1 h
  -- the number takes at most ten digits
  have hdigits : n.repr.toList.length ≤ 10 := by
    rw [String.length_toList]
    exact Nat.repr_length n 10 (by omega) hn
  have hsuffixList : (" - " ++ n.repr).toList = ' ' :: '-' :: ' ' :: n.repr.toList := by
    rw [String.toList_append]
    rfl
  have hsuffix : byteLen (" - " ++ n.repr) ≤ 52 := by
    have hle := (byteLen_bounds (" - " ++ n.repr)).2
    rw [hsuffixList] at hle
    simp only [List.length_cons] at hle
    omega
  -- the cut leaves a nonempty head of the name and room for the number
  obtain ⟨popped, hpopped, hroom⟩ :=
    shorten_spec (byteLen (" - " ++ n.repr)) desired.toList.reverse
  have hleft : shorten (byteLen (" - " ++ n.repr)) desired.toList.reverse ≠ [] :=
    shorten_ne_nil (by omega) (by simpa using hne)
  have hname : (numberedName desired n).toList =
      ((shorten (byteLen (" - " ++ n.repr)) desired.toList.reverse).dropWhile
        isWhitespace).reverse ++ ' ' :: '-' :: ' ' :: n.repr.toList := by
    rw [← hsuffixList]
    simp only [numberedName, trimEnd, String.toList_append, String.toList_ofList,
      List.reverse_reverse]
    rfl
  generalize shorten (byteLen (" - " ++ n.repr)) desired.toList.reverse = left at *
  have hcut : desired.toList = left.reverse ++ popped.reverse := by
    rw [← List.reverse_append, ← hpopped, List.reverse_reverse]
  have hkept : SingleSpaced (left.dropWhile isWhitespace).reverse := by
    rw [hcut] at hs
    simpa using hs.trimEnd_left
  have hkeptNe : (left.dropWhile isWhitespace).reverse ≠ [] := by
    obtain ⟨c, hc⟩ : ∃ c, left.reverse.head? = some c :=
      Option.ne_none_iff_exists'.1 (by simpa using hleft)
    have hhead : desired.toList.head? = some c := by rw [hcut, List.head?_append, hc]; rfl
    have hword : isWhitespace c = false := by
      by_contra hw
      rw [Bool.not_eq_false] at hw
      apply hs.head
      rw [hhead, hs.blank c (List.mem_of_head? hhead) hw]
    simpa using trimEnd_ne_nil hc hword
  have hdash : SingleSpaced ['-'] := .of_word (List.forall_mem_singleton.2 rfl)
  have hnumber : SingleSpaced ('-' :: ' ' :: n.repr.toList) :=
    hdash.append (.of_word (not_isWhitespace_repr n)) (by simp) (toList_ne_nil (repr_ne_empty n))
  refine isValidName_iff.2 ⟨?_, ?_, ?_⟩
  · rw [hname]
    simp
  · have hkeptLen := (List.dropWhile_suffix isWhitespace (l := left)).length_le
    have hleftLen := (byteLen_bounds (String.ofList left.reverse)).1
    have hsuffixLen := (byteLen_bounds (" - " ++ n.repr)).1
    rw [hsuffixList] at hsuffixLen
    rw [String.toList_ofList, List.length_reverse] at hleftLen
    have hroom := hroom.resolve_left hleft
    rw [hname, List.length_append, List.length_reverse]
    omega
  · rw [hname]
    exact hkept.append hnumber hkeptNe (by simp)

/-! ## Free names -/

theorem firstFree_ok {taken : String → Bool} {tries n : Nat}
    (h : firstFree desired taken tries n = .ok name) :
    taken name = false ∧ ∃ k, k < n + tries ∧ name = numberedName desired k := by
  induction tries generalizing n with
  | zero => cases h
  | succ tries ih =>
    unfold firstFree at h
    split at h
    · obtain ⟨hfree, k, hk, hname⟩ := ih h
      exact ⟨hfree, k, by omega, hname⟩
    next hfree =>
      have hname := Except.ok.inj h
      exact ⟨by rw [← hname]; simpa using hfree, n, by omega, hname.symm⟩

/-- A name that is chosen is free and valid. -/
theorem uniqueName_ok {taken : String → Bool} (h : uniqueName desired taken = .ok name)
    (hdesired : isValidName desired = true) : taken name = false ∧ isValidName name = true := by
  unfold uniqueName at h
  split at h
  next hfree =>
    cases h
    exact ⟨by simpa using hfree, hdesired⟩
  · obtain ⟨hfree, k, hk, rfl⟩ := firstFree_ok h
    exact ⟨hfree, isValidName_numberedName hdesired (by omega)⟩

/-! ## Random ids -/

theorem exists_digit_of_mem_randomId {n : UInt64} {c : Char} (h : c ∈ (randomId n).toList) :
    ∃ d < 16, c = Nat.digitChar d := by
  simp only [randomId, hex16, String.toList_ofList, List.mem_map] at h
  obtain ⟨i, -, rfl⟩ := h
  exact ⟨_, Nat.mod_lt _ (by omega), rfl⟩

theorem length_randomId (n : UInt64) : (randomId n).toList.length = 16 := by
  simp [randomId, hex16]

/-- A random id is not empty and not one of the reserved ids of the sealed map. -/
theorem randomId_wellFormed (n : UInt64) :
    randomId n ≠ "" ∧ isReservedSecretId (randomId n) = false := by
  have hlen := length_randomId n
  have hne : ∀ s : String, s.toList.length ≠ 16 → randomId n ≠ s := by
    rintro s hs rfl
    exact hs hlen
  refine ⟨hne "" (by decide), ?_⟩
  simp only [isReservedSecretId, Bool.or_eq_false_iff, beq_eq_false_iff_ne]
  refine ⟨⟨hne _ (by decide), hne _ (by decide)⟩, ?_⟩
  -- a relay id starts with a letter that is no digit
  rw [Option.isSome_eq_false_iff, Option.isNone_iff_eq_none, Option.eq_none_iff_forall_ne_some]
  intro rest hrest
  have hmem : 'r' ∈ (randomId n).toList := by
    rw [stripPrefix_eq_some_iff.1 hrest, String.toList_append]
    exact List.mem_append_left _ (by decide)
  obtain ⟨d, hd, hr⟩ := exists_digit_of_mem_randomId hmem
  have hno : ∀ d < 16, 'r' ≠ Nat.digitChar d := by decide
  exact hno d hd hr

end Flextunnel.Analysis
