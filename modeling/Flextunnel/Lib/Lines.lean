import Mathlib.Data.List.DropRight
import Mathlib.Data.List.TakeWhile
import Flextunnel.Lib.Basic
import Flextunnel.Lib.Bytes

/-!
# Lines and their terminators

`terminated` prints lines with CR LF after each of them; `splitCrlf` and `crlfLines` take
a byte string apart at its CR LFs. Printing what was taken apart gives the byte string
back (`terminated_crlfLines`), no piece holds a CR LF of its own, and lines without a CR
are taken apart as they were printed (`crlfLines_terminated`).
-/

set_option autoImplicit false

namespace Flextunnel.Lib

namespace Reader

/-- Each line with CR LF after it. -/
def terminated (lines : List (List UInt8)) : List UInt8 :=
  lines.flatMap (· ++ [13, 10])

@[simp] theorem terminated_nil : terminated [] = [] := rfl

@[simp] theorem terminated_cons (line : List UInt8) (lines : List (List UInt8)) :
    terminated (line :: lines) = line ++ 13 :: 10 :: terminated lines := by
  simp [terminated]

@[simp] theorem terminated_append (lines lines' : List (List UInt8)) :
    terminated (lines ++ lines') = terminated lines ++ terminated lines' := by
  simp [terminated]

/-- No CR LF occurs. -/
def NoCrlf (bs : List UInt8) : Prop := ¬ [13, 10] <:+: bs

/-! ## The first line -/

variable {bs line rest : List UInt8}

/-- Induction along the search for the first line end. -/
@[elab_as_elim]
theorem splitCrlf_induction_on {motive : List UInt8 → List UInt8 → Prop}
    (h : splitCrlf bs = some (line, rest)) (found : motive (13 :: 10 :: rest) [])
    (skip : ∀ b c bs line, ¬ (b = 13 ∧ c = 10) → splitCrlf (c :: bs) = some (line, rest) →
      motive (c :: bs) line → motive (b :: c :: bs) (b :: line)) : motive bs line := by
  induction bs generalizing line with
  | nil => cases h
  | cons b bs ih =>
    cases bs with
    | nil => cases h
    | cons c bs =>
      rw [splitCrlf] at h
      split at h
      next hcrlf =>
        cases h
        obtain ⟨rfl, rfl⟩ := hcrlf
        exact found
      next hcrlf =>
        obtain ⟨⟨line', rest'⟩, hsplit, ⟨⟩⟩ := Option.map_eq_some_iff.1 h
        exact skip b c bs line' hcrlf hsplit (ih hsplit)

/-- A split gives back the bytes, and its line holds no line end. -/
theorem splitCrlf_eq_some (h : splitCrlf bs = some (line, rest)) :
    bs = line ++ 13 :: 10 :: rest ∧ NoCrlf line := by
  refine splitCrlf_induction_on h ?_ ?_
  · refine ⟨rfl, fun hin => ?_⟩
    have := hin.length_le
    simp at this
  rintro b c bs line hcrlf - ⟨hbs, hline⟩
  refine ⟨by rw [hbs]; rfl, ?_⟩
  rintro ⟨before, after, hin⟩
  cases before with
  | nil =>
    -- a CR LF at the very start is the one that was tested for
    cases line with
    | nil => simp at hin
    | cons d line =>
      have hb : b = 13 := by simpa using (List.cons.inj hin).1.symm
      have hd : d = 10 := by
        have := (List.cons.inj hin).2
        simpa using (List.cons.inj this).1.symm
      have hc : c = d := (List.cons.inj hbs).1
      exact hcrlf ⟨hb, hc.trans hd⟩
  | cons d before => exact hline ⟨before, after, (List.cons.inj hin).2⟩

/-- Bytes that end in a line end can be split. -/
theorem exists_splitCrlf (h : [13, 10] <:+ bs) : ∃ line rest, splitCrlf bs = some (line, rest) := by
  induction bs with
  | nil => simp at h
  | cons b bs ih =>
    cases bs with
    | nil =>
      have := h.length_le
      simp at this
    | cons c bs =>
      by_cases hcrlf : b = 13 ∧ c = 10
      · exact ⟨[], bs, by rw [splitCrlf, if_pos hcrlf]⟩
      have htail : [13, 10] <:+ c :: bs := by
        obtain ⟨before, heq⟩ := h
        cases before with
        | nil =>
          simp at heq
          exact absurd ⟨heq.1.symm, heq.2.1.symm⟩ hcrlf
        | cons d before => exact ⟨before, (List.cons.inj heq).2⟩
      obtain ⟨line, rest, hsplit⟩ := ih htail
      exact ⟨b :: line, rest, by rw [splitCrlf, if_neg hcrlf, hsplit]; rfl⟩

/-- A line without a carriage return is split off as it is. -/
theorem splitCrlf_append (hline : 13 ∉ line) (rest : List UInt8) :
    splitCrlf (line ++ 13 :: 10 :: rest) = some (line, rest) := by
  induction line with
  | nil => rfl
  | cons b line ih =>
    have hb : b ≠ 13 := fun h => hline (by simp [h])
    have hrest := ih fun h => hline (by simp [h])
    cases line with
    | nil =>
      simp only [List.nil_append] at hrest
      simp [splitCrlf, hb]
    | cons c line =>
      simp only [List.cons_append] at hrest ⊢
      rw [splitCrlf, if_neg (fun h => hb h.1), hrest]
      rfl

/-- Further bytes do not change the first line. -/
theorem splitCrlf_append_right (h : splitCrlf bs = some (line, rest)) (more : List UInt8) :
    splitCrlf (bs ++ more) = some (line, rest ++ more) := by
  refine splitCrlf_induction_on h rfl ?_
  intro b c bs line hcrlf _ ih
  rw [List.cons_append] at ih
  rw [List.cons_append, List.cons_append, splitCrlf, if_neg hcrlf, ih]
  rfl

/-! ## All lines -/

/-- The first line is the bytes up to the first line end. -/
theorem crlfLinesFrom_eq_cons (h : splitCrlf bs = some (line, rest)) (before : List UInt8) :
    crlfLinesFrom before bs = (before ++ line) :: crlfLines rest := by
  revert before
  refine splitCrlf_induction_on h ?_ ?_
  · intro before
    rw [crlfLinesFrom, if_pos ⟨rfl, rfl⟩, List.append_nil]
    rfl
  · intro b c bs line hcrlf _ ih before
    rw [crlfLinesFrom, if_neg hcrlf, ih, List.append_assoc]
    rfl

theorem crlfLines_eq_cons (h : splitCrlf bs = some (line, rest)) :
    crlfLines bs = line :: crlfLines rest :=
  crlfLinesFrom_eq_cons h []

theorem crlf_suffix_rest (h : [13, 10] <:+ line ++ 13 :: 10 :: rest) :
    rest = [] ∨ [13, 10] <:+ rest := by
  have hrest : rest <:+ line ++ 13 :: 10 :: rest := ⟨line ++ [13, 10], by simp⟩
  by_cases hlen : 2 ≤ rest.length
  · exact .inr (List.suffix_of_suffix_length_le h hrest hlen)
  cases rest with
  | nil => exact .inl rfl
  | cons x rest =>
    -- one byte alone would put the LF of the first terminator where a CR is
    rw [List.length_cons] at hlen
    obtain rfl : rest = [] := List.length_eq_zero_iff.1 (by omega)
    have hpair : [10, x] <:+ line ++ 13 :: 10 :: [x] := ⟨line ++ [13], by simp⟩
    have heq := (List.suffix_of_suffix_length_le h hpair (by simp)).eq_of_length rfl
    simp at heq

/-- **Printing the lines gives the byte string back**, and no line holds a CR LF. -/
theorem terminated_crlfLines (h : bs = [] ∨ [13, 10] <:+ bs) :
    terminated (crlfLines bs) = bs ∧ ∀ line ∈ crlfLines bs, NoCrlf line := by
  induction hn : bs.length using Nat.strongRecOn generalizing bs with
  | ind n ih =>
    rcases h with rfl | h
    · exact ⟨rfl, fun line hline => nomatch hline⟩
    obtain ⟨line, rest, hsplit⟩ := exists_splitCrlf h
    obtain ⟨rfl, hline⟩ := splitCrlf_eq_some hsplit
    have hlt : rest.length < n := by
      rw [← hn]
      simp
      omega
    obtain ⟨hprint, hlines⟩ := ih rest.length hlt (crlf_suffix_rest h) rfl
    rw [crlfLines_eq_cons hsplit]
    refine ⟨by rw [terminated_cons, hprint], ?_⟩
    intro l hl
    rcases List.mem_cons.1 hl with rfl | hl
    · exact hline
    · exact hlines l hl

/-- **Lines without CR are taken apart as they were printed.** -/
theorem crlfLines_terminated {lines : List (List UInt8)} (h : ∀ line ∈ lines, 13 ∉ line) :
    crlfLines (terminated lines) = lines := by
  induction lines with
  | nil => rfl
  | cons line lines ih =>
    have hline := h line (by simp)
    have hrest := ih fun l hl => h l (by simp [hl])
    rw [terminated_cons, crlfLines_eq_cons (splitCrlf_append hline _), hrest]

/-- A line end after whole lines adds an empty line. -/
theorem crlfLines_append_crlf (h : bs = [] ∨ [13, 10] <:+ bs) :
    crlfLines (bs ++ [13, 10]) = crlfLines bs ++ [[]] := by
  induction hn : bs.length using Nat.strongRecOn generalizing bs with
  | ind n ih =>
    rcases h with rfl | h
    · rfl
    obtain ⟨line, rest, hsplit⟩ := exists_splitCrlf h
    obtain ⟨rfl, -⟩ := splitCrlf_eq_some hsplit
    have hlt : rest.length < n := by
      rw [← hn]
      simp
      omega
    have hrest := ih rest.length hlt (crlf_suffix_rest h) rfl
    rw [crlfLines_eq_cons (splitCrlf_append_right hsplit _), crlfLines_eq_cons hsplit, hrest,
      List.cons_append]

/-! ## Text -/

@[simp] theorem utf8_append (a b : String) : utf8 (a ++ b) = utf8 a ++ utf8 b := by
  simp [utf8, String.toByteArray_append]

/-- ASCII text is encoded byte by byte. -/
theorem utf8_ofList_of_ascii {cs : List Char} (h : ∀ c ∈ cs, c.toNat < 128) :
    utf8 (String.ofList cs) = cs.map fun c => UInt8.ofNat c.toNat := by
  induction cs with
  | nil => rfl
  | cons c cs ih =>
    have hc : c.utf8Size = 1 := by
      rw [Char.utf8Size_eq_one_iff, UInt32.le_iff_toNat_le]
      exact Nat.le_of_lt_succ (h c (by simp))
    have hrest := ih fun d hd => h d (by simp [hd])
    have hcons : String.ofList (c :: cs) = String.ofList [c] ++ String.ofList cs := by
      apply String.toList_inj.1
      simp
    have hone : utf8 (String.ofList [c]) = [UInt8.ofNat c.toNat] := by
      simp only [utf8, String.toUTF8, String.toByteArray_ofList, List.utf8Encode_singleton,
        String.utf8EncodeChar_eq_singleton hc]
      rfl
    rw [hcons, utf8_append, hone, hrest]
    rfl

/-- Trimming drops a tail of blanks. -/
theorem exists_trimAsciiEnd (s : String) :
    ∃ tail : List Char, s = Text.trimAsciiEnd s ++ String.ofList tail ∧
      ∀ c ∈ tail, c = ' ' ∨ c = '\t' ∨ c = '\n' ∨ c = '\x0c' ∨ c = '\r' := by
  let isSpace := fun c : Char => c == ' ' || c == '\t' || c == '\n' || c == '\x0c' || c == '\r'
  refine ⟨(s.toList.reverse.takeWhile isSpace).reverse, ?_, ?_⟩
  · apply String.toList_inj.1
    have hsplit := congrArg List.reverse (List.takeWhile_append_dropWhile (p := isSpace)
      (l := s.toList.reverse))
    rw [List.reverse_append, List.reverse_reverse] at hsplit
    rw [String.toList_append, Text.trimAsciiEnd, String.toList_ofList, String.toList_ofList]
    exact hsplit.symm
  · intro c hc
    have hspace := List.mem_takeWhile_imp (List.mem_reverse.1 hc)
    simpa [isSpace, or_assoc] using hspace

theorem trimAsciiEnd_trimAsciiEnd (s : String) :
    Text.trimAsciiEnd (Text.trimAsciiEnd s) = Text.trimAsciiEnd s := by
  simp [Text.trimAsciiEnd, List.dropWhile_idempotent]

end Reader

end Flextunnel.Lib
