import Mathlib.Data.List.Chain
import Mathlib.Data.List.Infix
import Mathlib.Data.String.Basic
import Flextunnel.Lib.Basic

/-!
# Words separated by single spaces

`SingleSpaced` is the shape of a text that is words with one space between them: no other
whitespace, no space at either end, no two spaces in a row. Splitting a text at whitespace
and joining the pieces gives such a text; so does appending a word, and so does cutting such
a text off anywhere and trimming its end.

The length of a text in bytes is between one and four times its length in characters, and
tells the ends of a text apart.
-/

set_option autoImplicit false

namespace Flextunnel.Lib

namespace Text

/-! ## Bytes and characters -/

theorem byteLen_ofList_cons (c : Char) (cs : List Char) :
    byteLen (String.ofList (c :: cs)) = c.utf8Size + byteLen (String.ofList cs) := by
  simp only [byteLen, String.utf8ByteSize_ofList, String.utf8Len_cons]
  omega

theorem byteLen_append (s t : String) : byteLen (s ++ t) = byteLen s + byteLen t :=
  String.utf8ByteSize_append

/-- A character has one byte to four. -/
theorem byteLen_bounds (s : String) :
    s.toList.length ≤ byteLen s ∧ byteLen s ≤ 4 * s.toList.length := by
  obtain ⟨cs, rfl⟩ : ∃ cs, s = String.ofList cs := ⟨s.toList, String.ofList_toList.symm⟩
  rw [String.toList_ofList]
  induction cs with
  | nil => simp [byteLen]
  | cons c cs ih =>
    have hpos := c.utf8Size_pos
    have hfour := c.utf8Size_le_four
    rw [byteLen_ofList_cons, List.length_cons]
    omega

variable {s : String} {cs : List Char}

/-- ASCII text has as many bytes as characters. -/
theorem byteLen_of_ascii (h : ∀ c ∈ s.toList, c.toNat < 128) : byteLen s = s.toList.length := by
  obtain ⟨cs, rfl⟩ : ∃ cs, s = String.ofList cs := ⟨s.toList, String.ofList_toList.symm⟩
  rw [String.toList_ofList] at h ⊢
  induction cs with
  | nil => simp [byteLen]
  | cons c cs ih =>
    have hone : c.utf8Size = 1 := Char.utf8Size_eq_one_iff.2 (Nat.le_of_lt_succ (h c (by simp)))
    rw [byteLen_ofList_cons, hone, ih fun d hd => h d (List.mem_cons_of_mem c hd), List.length_cons]
    omega

theorem byteLen_le_of_suffix {t : String} (h : s.toList <:+ t.toList) : byteLen s ≤ byteLen t := by
  obtain ⟨before, hbefore⟩ := h
  have ht : t = String.ofList before ++ s := by
    apply String.toList_inj.1
    simp [← hbefore]
  rw [ht, byteLen_append]
  omega

/-- Of two tails of a text the shorter is a tail of the longer. -/
theorem suffix_of_byteLen_le {t u : String} (hs : s.toList <:+ u.toList)
    (ht : t.toList <:+ u.toList) (hle : byteLen s ≤ byteLen t) : s.toList <:+ t.toList := by
  rcases List.suffix_or_suffix_of_suffix hs ht with h | ⟨before, hbefore⟩
  · exact h
  have hsplit : s = String.ofList before ++ t := by
    apply String.toList_inj.1
    simp [← hbefore]
  have hnil : before = [] := by
    have hlen := (byteLen_bounds (String.ofList before)).1
    rw [hsplit, byteLen_append] at hle
    rw [String.toList_ofList] at hlen
    exact List.length_eq_zero_iff.1 (by omega)
  rw [← hbefore, hnil]
  exact List.suffix_refl _

/-! ## Single spaces -/

/-- Not both spaces. -/
def NotBothSpaces (a b : Char) : Prop := ¬(a = ' ' ∧ b = ' ')

/-- Words with single spaces between them. -/
structure SingleSpaced (cs : List Char) : Prop where
  blank : ∀ c ∈ cs, isWhitespace c = true → c = ' '
  head : cs.head? ≠ some ' '
  last : cs.getLast? ≠ some ' '
  chain : cs.IsChain NotBothSpaces

theorem isWhitespace_space : isWhitespace ' ' = true := by decide

theorem SingleSpaced.of_word (h : ∀ c ∈ cs, isWhitespace c = false) : SingleSpaced cs := by
  have hspace : ' ' ∉ cs := by
    intro hmem
    have := h _ hmem
    rw [isWhitespace_space] at this
    cases this
  refine ⟨fun c hc hw => ?_, fun hh => hspace (List.mem_of_head? hh),
    fun hl => hspace (List.mem_of_getLast? hl), ?_⟩
  · rw [h c hc] at hw
    cases hw
  induction cs with
  | nil => exact .nil
  | cons c cs ih =>
    rw [List.isChain_cons]
    refine ⟨fun d _ hboth => hspace (hboth.1 ▸ List.mem_cons_self), ?_⟩
    exact ih (fun d hd => h d (List.mem_cons_of_mem c hd))
      fun hmem => hspace (List.mem_cons_of_mem c hmem)

/-- Two single-spaced texts with a space between them. -/
theorem SingleSpaced.append {ds : List Char} (hcs : SingleSpaced cs) (hds : SingleSpaced ds)
    (hcs₀ : cs ≠ []) (hds₀ : ds ≠ []) : SingleSpaced (cs ++ ' ' :: ds) := by
  refine ⟨fun c hc hw => ?_, ?_, ?_, ?_⟩
  · rcases List.mem_append.1 hc with hc | hc
    · exact hcs.blank c hc hw
    · rcases List.mem_cons.1 hc with hc | hc
      · exact hc
      · exact hds.blank c hc hw
  · rw [List.head?_append_of_ne_nil _ hcs₀]
    exact hcs.head
  · rw [List.getLast?_append, List.getLast?_cons]
    cases hl : ds.getLast? with
    | none => exact absurd (List.getLast?_eq_none_iff.1 hl) hds₀
    | some d =>
      have := hds.last
      rw [hl] at this
      simpa using this
  · rw [List.isChain_append, List.isChain_cons]
    refine ⟨hcs.chain, ⟨fun d hd hboth => hds.head ?_, hds.chain⟩, fun c hc d hd hboth => ?_⟩
    · rw [← hboth.2]
      exact hd
    · apply hcs.last
      rw [← hboth.1]
      exact hc

/-- What precedes in a single-spaced text is single-spaced once trimmed. -/
theorem SingleSpaced.trimEnd_left {ds : List Char} (h : SingleSpaced (cs ++ ds)) :
    SingleSpaced (cs.reverse.dropWhile isWhitespace).reverse := by
  -- what is trimmed off is the rest of the cut text
  obtain ⟨ws, hws⟩ := List.dropWhile_suffix isWhitespace (l := cs.reverse)
  have hcut : (cs.reverse.dropWhile isWhitespace).reverse ++ ws.reverse = cs := by
    rw [← List.reverse_append, hws, List.reverse_reverse]
  have hlast : ∀ c, (cs.reverse.dropWhile isWhitespace).reverse.getLast? = some c →
      isWhitespace c = false := by
    intro c hc
    rw [List.getLast?_reverse] at hc
    have := List.head?_dropWhile_not isWhitespace cs.reverse
    rw [hc] at this
    simpa using this
  generalize (cs.reverse.dropWhile isWhitespace).reverse = kept at hcut hlast
  subst hcut
  rw [List.append_assoc] at h
  refine ⟨fun c hc => h.blank c (List.mem_append_left _ hc), fun hh => h.head ?_, fun hl => ?_,
    h.chain.left_of_append⟩
  · rw [List.head?_append, hh]
    rfl
  · have := hlast _ hl
    rw [isWhitespace_space] at this
    cases this

/-! ## Joined words -/

theorem exists_cons_splitOnP (cs : List Char) :
    ∃ first rest, cs.splitOnP isWhitespace = first :: rest :=
  List.exists_cons_of_ne_nil (List.splitOnP_ne_nil _ _)

/-- A word holds no whitespace. -/
theorem not_isWhitespace_of_mem_splitOnP {word : List Char} (h : word ∈ cs.splitOnP isWhitespace) :
    ∀ c ∈ word, isWhitespace c = false := by
  induction cs generalizing word with
  | nil =>
    rw [List.splitOnP_nil, List.mem_singleton] at h
    subst h
    simp
  | cons d cs ih =>
    rw [List.splitOnP_cons_eq_if_modifyHead] at h
    split at h
    · rcases List.mem_cons.1 h with rfl | h
      · simp
      · exact ih h
    next hd =>
      -- `d` is put in front of the first piece
      obtain ⟨first, rest, hsplit⟩ := exists_cons_splitOnP cs
      rw [hsplit, List.modifyHead_cons] at h
      rcases List.mem_cons.1 h with rfl | h
      · intro c hc
        rcases List.mem_cons.1 hc with rfl | hc
        · simpa using hd
        · exact ih (by rw [hsplit]; exact List.mem_cons_self) c hc
      · exact ih (by rw [hsplit]; exact List.mem_cons_of_mem first h)

/-- Words with a space between them are single-spaced. -/
theorem SingleSpaced.intercalate {words : List (List Char)}
    (hwords : ∀ word ∈ words, word ≠ [] ∧ ∀ c ∈ word, isWhitespace c = false) :
    SingleSpaced ([' '].intercalate words) ∧ (words ≠ [] → [' '].intercalate words ≠ []) := by
  induction words with
  | nil => exact ⟨.of_word (by simp), fun h => absurd rfl h⟩
  | cons word words ih =>
    obtain ⟨hne, hword⟩ := hwords word List.mem_cons_self
    obtain ⟨hrest, hrest₀⟩ := ih fun w hw => hwords w (List.mem_cons_of_mem word hw)
    cases words with
    | nil =>
      rw [List.intercalate_singleton]
      exact ⟨.of_word hword, fun _ => hne⟩
    | cons next words =>
      rw [List.intercalate_cons_cons, List.append_assoc, List.singleton_append]
      exact ⟨(SingleSpaced.of_word hword).append hrest hne (hrest₀ (by simp)), by simp⟩

/-- Splitting at whitespace and joining with spaces gives single-spaced text. -/
theorem singleSpaced_join_splitWhitespace (s : String) :
    SingleSpaced (join " " (splitWhitespace s)).toList := by
  simp only [join, splitWhitespace, String.toList_ofList, List.map_map]
  refine (SingleSpaced.intercalate fun word hword => ?_).1
  obtain ⟨piece, hpiece, rfl⟩ := List.mem_map.1 hword
  obtain ⟨hmem, hne⟩ := List.mem_filter.1 hpiece
  simp only [Function.comp, String.toList_ofList]
  exact ⟨by simpa using hne, not_isWhitespace_of_mem_splitOnP hmem⟩

/-- Where all whitespace is spaces, the pieces give the text back. -/
theorem intercalate_splitOnP (h : ∀ c ∈ cs, isWhitespace c = true → c = ' ') :
    [' '].intercalate (cs.splitOnP isWhitespace) = cs := by
  induction cs with
  | nil => rfl
  | cons c cs ih =>
    have hrest := ih fun d hd => h d (List.mem_cons_of_mem c hd)
    rw [List.splitOnP_cons_eq_if_modifyHead]
    obtain ⟨first, rest, hsplit⟩ := exists_cons_splitOnP cs
    rw [hsplit] at hrest ⊢
    split
    next hc =>
      rw [List.intercalate_cons_cons, hrest, h c List.mem_cons_self hc]
      rfl
    rw [List.modifyHead_cons]
    cases rest with
    | nil =>
      rw [List.intercalate_singleton] at hrest ⊢
      rw [hrest]
    | cons next rest =>
      rw [List.intercalate_cons_cons] at hrest ⊢
      rw [List.append_assoc] at hrest ⊢
      rw [List.cons_append, hrest]

/-- Without two spaces in a row no piece after the first is empty. -/
theorem ne_nil_of_mem_tail_splitOnP (hblank : ∀ c ∈ cs, isWhitespace c = true → c = ' ')
    (hlast : cs.getLast? ≠ some ' ') (hchain : cs.IsChain NotBothSpaces) :
    ∀ word ∈ (cs.splitOnP isWhitespace).tail, word ≠ [] := by
  induction cs with
  | nil => simp [List.splitOnP_nil]
  | cons c cs ih =>
    have hblank' : ∀ d ∈ cs, isWhitespace d = true → d = ' ' :=
      fun d hd => hblank d (List.mem_cons_of_mem c hd)
    have hchain' : cs.IsChain NotBothSpaces := hchain.tail
    cases cs with
    | nil =>
      rw [List.splitOnP_cons_eq_if_modifyHead, List.splitOnP_nil]
      split
      next hc => exact absurd (by rw [hblank c (by simp) hc]; rfl) hlast
      · simp
    | cons d ds =>
      have hlast' : (d :: ds).getLast? ≠ some ' ' := by
        rwa [List.getLast?_cons_cons] at hlast
      have htail := ih hblank' hlast' hchain'
      rw [List.splitOnP_cons_eq_if_modifyHead]
      split
      next hc =>
        -- the text goes on with a character that is no space
        have hd : ¬ isWhitespace d = true := by
          intro hd
          rw [List.isChain_cons] at hchain
          exact hchain.1 d rfl ⟨hblank c (by simp) hc, hblank d (by simp) hd⟩
        rw [List.tail_cons]
        rw [List.splitOnP_cons_eq_if_modifyHead, if_neg hd] at htail ⊢
        obtain ⟨first, rest, hsplit⟩ := exists_cons_splitOnP ds
        rw [hsplit, List.modifyHead_cons] at htail ⊢
        intro word hword
        rcases List.mem_cons.1 hword with rfl | hword
        · simp
        · exact htail word hword
      · obtain ⟨first, rest, hsplit⟩ := exists_cons_splitOnP (d :: ds)
        rw [hsplit] at htail ⊢
        exact htail

/-- Single-spaced text is not changed by splitting and joining. -/
theorem join_splitWhitespace (h : SingleSpaced s.toList) : join " " (splitWhitespace s) = s := by
  have hpieces : (s.toList.splitOnP isWhitespace).filter (!·.isEmpty) =
      s.toList.splitOnP isWhitespace ∨ s.toList = [] := by
    cases hs : s.toList with
    | nil => exact .inr rfl
    | cons c cs =>
      rw [hs] at h
      refine .inl (List.filter_eq_self.2 fun word hword => ?_)
      have htail := ne_nil_of_mem_tail_splitOnP h.blank h.last h.chain
      have hc : ¬ isWhitespace c = true := fun hc =>
        h.head (by rw [h.blank c (by simp) hc]; rfl)
      rw [List.splitOnP_cons_eq_if_modifyHead, if_neg hc] at htail hword
      obtain ⟨first, rest, hsplit⟩ := exists_cons_splitOnP cs
      rw [hsplit, List.modifyHead_cons] at htail hword
      rcases List.mem_cons.1 hword with rfl | hword
      · rfl
      · simpa using htail word hword
  have hmap : ∀ words : List (List Char), (words.map String.ofList).map String.toList = words := by
    intro words
    rw [List.map_map]
    exact (List.map_congr_left fun w _ => String.toList_ofList).trans (List.map_id _)
  rw [join, splitWhitespace, hmap]
  apply String.toList_inj.1
  rw [String.toList_ofList]
  rcases hpieces with hall | hnil
  · rw [hall]
    exact intercalate_splitOnP h.blank
  · rw [hnil]
    rfl

/-- Two spaces in a row, as text and as neighbours. -/
theorem containsText_two_spaces_iff :
    containsText "  " s = false ↔ s.toList.IsChain NotBothSpaces := by
  simp only [containsText, List.any_eq_false, List.mem_tails]
  generalize s.toList = cs
  have hpair : "  ".toList = [' ', ' '] := by decide
  rw [hpair]
  constructor
  · intro h
    induction cs with
    | nil => exact .nil
    | cons c cs ih =>
      rw [List.isChain_cons]
      refine ⟨fun d hd hboth => ?_,
        ih fun rest hrest => h rest (hrest.trans (List.suffix_cons c cs))⟩
      obtain ⟨ds, rfl⟩ := List.head?_eq_some_iff.1 hd
      exact h _ (List.suffix_refl _) (by simp [hboth.1, hboth.2])
  intro h rest hrest hfound
  obtain ⟨before, rfl⟩ := hrest
  obtain ⟨after, rfl⟩ := List.isPrefixOf_iff_prefix.1 hfound
  have hchain := h.right_of_append
  simp only [List.cons_append, List.isChain_cons] at hchain
  exact hchain.1 ' ' (by simp) ⟨rfl, rfl⟩

end Text

end Flextunnel.Lib
