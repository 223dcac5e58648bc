import Mathlib.Algebra.Group.Nat.Defs
import Mathlib.Data.List.Basic
import Mathlib.Data.List.Sort
import Mathlib.Data.List.AList

/-!
# Text, tables and results

The string operations of a standard library that a program over `str` uses, each as a
function that evaluates: whitespace trimming, ASCII case folding, stripping a known head
or tail, splitting at a character. Text is `String`; the operations go through its list
of characters.

A `Table` is a map whose iteration order is part of the value: the map of a language
whose hash maps iterate in an unspecified order is any table with these entries.
-/

set_option autoImplicit false

namespace Flextunnel.Lib

namespace Text

/-- The Unicode property `White_Space`. -/
def isWhitespace (c : Char) : Bool :=
  let n := c.toNat
  (9 ≤ n && n ≤ 13) || n == 0x20 || n == 0x85 || n == 0xA0 || n == 0x1680 ||
    (0x2000 ≤ n && n ≤ 0x200A) || n == 0x2028 || n == 0x2029 || n == 0x202F ||
    n == 0x205F || n == 0x3000

/-- Drop the characters satisfying `p` from both ends of a list. -/
def trimList (p : Char → Bool) (cs : List Char) : List Char :=
  ((cs.dropWhile p).reverse.dropWhile p).reverse

/-- Drop leading and trailing whitespace. -/
def trim (s : String) : String :=
  String.ofList (trimList isWhitespace s.toList)

/-- Drop every leading and trailing `c`. -/
def trimMatches (c : Char) (s : String) : String :=
  String.ofList (trimList (· == c) s.toList)

/-- The ASCII letters in lower case, every other character unchanged. -/
def toAsciiLowercase (s : String) : String :=
  String.ofList (s.toList.map Char.toLower)

/-- Equality up to ASCII case. -/
def eqIgnoreAsciiCase (a b : String) : Bool :=
  a.toList.map Char.toLower == b.toList.map Char.toLower

/-- The rest of `s` after the head `p`. -/
def stripPrefix (p s : String) : Option String :=
  (s.toList.dropPrefix? p.toList).map String.ofList

/-- The rest of `s` before the tail `p`. -/
def stripSuffix (p s : String) : Option String :=
  (s.toList.dropSuffix? p.toList).map String.ofList

/-- Whether `s` ends in `p`. -/
def endsWith (p s : String) : Bool :=
  p.toList.isSuffixOf s.toList

/-- Whether `c` occurs in `s`. -/
def containsChar (c : Char) (s : String) : Bool :=
  s.toList.contains c

/-- Whether `p` occurs in `s`. -/
def containsText (p s : String) : Bool :=
  s.toList.tails.any fun rest => p.toList.isPrefixOf rest

/-- The pieces of `s` between the occurrences of `c`. -/
def splitChar (c : Char) (s : String) : List String :=
  (s.toList.splitOn c).map String.ofList

/-- What comes before and after the first `c`. -/
def splitOnce (c : Char) (s : String) : Option (String × String) :=
  match s.toList.dropWhile (· != c) with
  | [] => none
  | _ :: after => some (String.ofList (s.toList.takeWhile (· != c)), String.ofList after)

/-- What comes before and after the last `c`. -/
def rsplitOnce (c : Char) (s : String) : Option (String × String) :=
  match s.toList.reverse.dropWhile (· != c) with
  | [] => none
  | _ :: before =>
    some (String.ofList before.reverse, String.ofList (s.toList.reverse.takeWhile (· != c)).reverse)

/-- An unsigned number below `bound`: decimal digits, after an optional `+`. -/
def parseUnsigned (bound : Nat) (s : String) : Option Nat :=
  let digits := (s.toList.dropPrefix? ['+']).getD s.toList
  let value := digits.foldl (fun acc c => acc * 10 + (c.toNat - '0'.toNat)) 0
  if !digits.isEmpty && digits.all Char.isDigit && value < bound then some value else none

/-- Drop trailing ASCII whitespace. -/
def trimAsciiEnd (s : String) : String :=
  let isSpace := fun c : Char => c == ' ' || c == '\t' || c == '\n' || c == '\x0c' || c == '\r'
  String.ofList (s.toList.reverse.dropWhile isSpace).reverse

/-- The length in bytes of the UTF-8 encoding. -/
def byteLen (s : String) : Nat :=
  s.utf8ByteSize

/-- Drop trailing whitespace. -/
def trimEnd (s : String) : String :=
  String.ofList (s.toList.reverse.dropWhile isWhitespace).reverse

/-- The nonempty pieces between whitespace. -/
def splitWhitespace (s : String) : List String :=
  ((s.toList.splitOnP isWhitespace).filter (!·.isEmpty)).map String.ofList

/-- The pieces with `sep` between them. -/
def join (sep : String) (pieces : List String) : String :=
  String.ofList (sep.toList.intercalate (pieces.map String.toList))

/-- A 64-bit number as sixteen hexadecimal digits. -/
def hex16 (n : UInt64) : String :=
  String.ofList ((List.range 16).map fun i => Nat.digitChar (n.toNat / 16 ^ (15 - i) % 16))

/-- Stripping a head finds exactly the texts that start with it. -/
theorem stripPrefix_eq_some_iff {p s rest : String} :
    stripPrefix p s = some rest ↔ s = p ++ rest := by
  simp only [stripPrefix, Option.map_eq_some_iff, List.dropPrefix?_eq_some_iff, beq_iff_eq]
  constructor
  · rintro ⟨cs, ⟨p', hs, rfl⟩, rfl⟩
    apply String.toList_inj.1
    rw [hs, String.toList_append, String.toList_ofList]
  · rintro rfl
    exact ⟨rest.toList, ⟨p.toList, String.toList_append, rfl⟩, String.ofList_toList⟩

/-- Stripping a tail finds exactly the texts that end in it. -/
theorem stripSuffix_eq_some_iff {p s rest : String} :
    stripSuffix p s = some rest ↔ s = rest ++ p := by
  simp only [stripSuffix, Option.map_eq_some_iff, List.dropSuffix?_eq_some_iff, beq_iff_eq]
  constructor
  · rintro ⟨cs, ⟨p', hs, rfl⟩, rfl⟩
    apply String.toList_inj.1
    rw [hs, String.toList_append, String.toList_ofList]
  · rintro rfl
    exact ⟨rest.toList, ⟨p.toList, String.toList_append, rfl⟩, String.ofList_toList⟩

theorem endsWith_iff_toList {p s : String} : endsWith p s = true ↔ p.toList <:+ s.toList :=
  List.isSuffixOf_iff_suffix

/-- Case folding works character by character. -/
theorem toAsciiLowercase_append (a b : String) :
    toAsciiLowercase (a ++ b) = toAsciiLowercase a ++ toAsciiLowercase b := by
  apply String.toList_inj.1
  simp [toAsciiLowercase]

/-- Equality up to case is equality of the folded texts. -/
theorem eqIgnoreAsciiCase_iff {a b : String} :
    eqIgnoreAsciiCase a b = true ↔ toAsciiLowercase a = toAsciiLowercase b := by
  simp [eqIgnoreAsciiCase, toAsciiLowercase, String.ofList_inj]

end Text

/-- A finite map with one of its iteration orders. -/
abbrev Table (ν : Type) := AList (fun _ : String => ν)

namespace Table

variable {ν : Type}

/-- The entries in iteration order. -/
def toPairs (t : Table ν) : List (String × ν) :=
  t.entries.map fun e => (e.1, e.2)

/-- One map in two iteration orders. -/
def Same (t t' : Table ν) : Prop := t.entries.Perm t'.entries

variable {t : Table ν}

/-- A table iterates over exactly the entries a lookup finds. -/
theorem mem_toPairs_iff {k : String} {v : ν} : (k, v) ∈ t.toPairs ↔ t.lookup k = some v := by
  rw [← Option.mem_def, AList.mem_lookup_iff, toPairs, List.mem_map]
  constructor
  · rintro ⟨⟨k', v'⟩, he, heq⟩
    cases heq
    exact he
  · intro he
    exact ⟨⟨k, v⟩, he, rfl⟩

/-- No key is met twice in an iteration. -/
theorem nodup_keys_toPairs (t : Table ν) : (t.toPairs.map Prod.fst).Nodup := by
  have hkeys : t.toPairs.map Prod.fst = t.entries.keys := by
    simp [toPairs, List.keys, Function.comp_def]
  rw [hkeys]
  exact t.nodupKeys

theorem nodup_toPairs (t : Table ν) : t.toPairs.Nodup := t.nodup_keys_toPairs.of_map

theorem Same.refl (t : Table ν) : Same t t := List.Perm.refl _

variable {t' : Table ν}

theorem Same.symm (h : Same t t') : Same t' t := List.Perm.symm h

theorem Same.trans {t'' : Table ν} (h : Same t t') (h' : Same t' t'') : Same t t'' :=
  List.Perm.trans h h'

theorem Same.toPairs (h : Same t t') : t.toPairs.Perm t'.toPairs :=
  h.map _

/-- A lookup does not see the iteration order. -/
theorem Same.lookup (h : Same t t') (k : String) : t.lookup k = t'.lookup k :=
  AList.perm_lookup h

/-- Tables with the same lookups differ in iteration order only. -/
theorem same_of_lookup (h : ∀ k, t.lookup k = t'.lookup k) : Same t t' := by
  apply List.lookup_ext t.nodupKeys t'.nodupKeys
  intro k v
  exact iff_of_eq (congrArg (v ∈ ·) (h k))

/-- The map of a list of pairs; of two pairs with one key the later counts. -/
def collect (pairs : List (String × ν)) : Table ν :=
  pairs.foldl (fun t e => t.insert e.1 e.2) ∅

/-- Inserting pairs one by one: the last pair with the key wins over the table. -/
theorem lookup_foldl_insert (pairs : List (String × ν)) (t : Table ν) (k : String) :
    (pairs.foldl (fun t e => t.insert e.1 e.2) t).lookup k =
      ((pairs.filter (·.1 == k)).getLast?.map Prod.snd).or (t.lookup k) := by
  induction pairs generalizing t with
  | nil => simp
  | cons e pairs ih =>
    rw [List.foldl_cons, ih]
    by_cases hk : e.1 = k
    · subst hk
      cases hl : pairs.filter (·.1 == e.1) with
      | nil => simp [hl]
      | cons f fs =>
        simp only [List.filter_cons, beq_self_eq_true, if_true, hl, List.getLast?_cons_cons]
        rw [List.getLast?_eq_some_getLast (List.cons_ne_nil f fs)]
        rfl
    · have hne : k ≠ e.1 := fun h => hk h.symm
      simp [hk, AList.lookup_insert_ne hne]

/-- A lookup in a collected table is the last pair with the key. -/
theorem lookup_collect (pairs : List (String × ν)) (k : String) :
    (collect pairs).lookup k = (pairs.filter (·.1 == k)).getLast?.map Prod.snd := by
  simp [collect, lookup_foldl_insert]

variable {pairs : List (String × ν)}

theorem lookup_collect_eq_none {k : String} (h : k ∉ pairs.map Prod.fst) :
    (collect pairs).lookup k = none := by
  have hnil : pairs.filter (·.1 == k) = [] := by
    apply List.filter_eq_nil_iff.2
    intro e he hk
    exact h (List.mem_map.2 ⟨e, he, by simpa using hk⟩)
  rw [lookup_collect, hnil]
  rfl

/-- Where no key repeats, every pair is found. -/
theorem lookup_collect_of_mem {k : String} {v : ν} (hnodup : (pairs.map Prod.fst).Nodup)
    (h : (k, v) ∈ pairs) : (collect pairs).lookup k = some v := by
  rw [lookup_collect]
  cases hl : (pairs.filter (·.1 == k)).getLast? with
  | none =>
    have hmem : (k, v) ∈ pairs.filter (·.1 == k) := by simp [h]
    rw [List.getLast?_eq_none_iff] at hl
    simp [hl] at hmem
  | some e =>
    obtain ⟨he, hk⟩ := List.mem_filter.1 (List.mem_of_getLast? hl)
    have heq : e = (k, v) :=
      List.inj_on_of_nodup_map hnodup he h (by simpa using hk)
    simp [heq]

end Table

/-! ## Results -/

section Results

variable {ε ε' α β : Type}

variable {e : ε} {x : Except ε α} {f : α → Except ε β} {xs : List α} {ys : List β}

theorem ite_error_eq_ok {c : Prop} [Decidable c] {a : α} :
    (if c then .error e else x) = .ok a ↔ ¬c ∧ x = .ok a := by
  by_cases hc : c <;> simp [hc]

/-- A sequence succeeds exactly when both steps do. -/
theorem bind_eq_ok {b : β} : (x >>= f) = .ok b ↔ ∃ a, x = .ok a ∧ f a = .ok b := by
  cases x <;> simp [bind, Except.bind]

theorem mapError_eq_ok {g : ε → ε'} {a : α} : x.mapError g = .ok a ↔ x = .ok a := by
  cases x <;> simp [Except.mapError]

/-- A sequence fails in its first step, or in its second after the first succeeded. -/
theorem bind_eq_error : (x >>= f) = .error e ↔ x = .error e ∨ ∃ a, x = .ok a ∧ f a = .error e := by
  cases x <;> simp [bind, Except.bind]

theorem mapError_ne_error {g : ε → ε'} {e' : ε'} (h : ∀ e, g e ≠ e') :
    x.mapError g ≠ .error e' := by
  cases x <;> simp [Except.mapError, h]

theorem map_eq_error {g : α → β} : x.map g = .error e ↔ x = .error e := by
  cases x <;> simp [Except.map]

theorem map_eq_ok {g : α → β} {b : β} : x.map g = .ok b ↔ ∃ a, x = .ok a ∧ g a = b := by
  cases x <;> simp [Except.map]

/-- A traversal that succeeds gives each element its own result. -/
theorem forall₂_of_mapM_eq_ok (h : xs.mapM f = .ok ys) :
    List.Forall₂ (fun x y => f x = .ok y) xs ys := by
  induction xs generalizing ys with
  | nil =>
    cases h
    exact .nil
  | cons x xs ih =>
    rw [List.mapM_cons] at h
    obtain ⟨z, hz, h⟩ := bind_eq_ok.1 h
    obtain ⟨zs, hzs, h⟩ := bind_eq_ok.1 h
    obtain rfl : z :: zs = ys := Except.ok.inj h
    exact .cons hz (ih hzs)

/-- A traversal fails with the error of one of the elements. -/
theorem exists_of_mapM_eq_error (h : xs.mapM f = .error e) : ∃ x ∈ xs, f x = .error e := by
  induction xs with
  | nil => cases h
  | cons x xs ih =>
    rw [List.mapM_cons, bind_eq_error] at h
    rcases h with h | ⟨z, -, h⟩
    · exact ⟨x, List.mem_cons_self, h⟩
    rcases bind_eq_error.1 h with h | ⟨zs, -, h⟩
    · obtain ⟨y, hy, hfy⟩ := ih h
      exact ⟨y, List.mem_cons_of_mem x hy, hfy⟩
    · cases h

/-- The results of a traversal are those of the elements. -/
theorem mem_iff_of_mapM_eq_ok (h : xs.mapM f = .ok ys) {y : β} :
    y ∈ ys ↔ ∃ x ∈ xs, f x = .ok y := by
  replace h := forall₂_of_mapM_eq_ok h
  induction h with
  | nil => simp
  | @cons x z xs ys hz _ ih =>
    have hhead : f x = .ok y ↔ y = z := by rw [hz, Except.ok.injEq, eq_comm]
    simp only [List.mem_cons, ih, or_and_right, exists_or, exists_eq_left, hhead]

/-- Skipping failures changes nothing where there are none. -/
theorem filterMap_toOption_of_mapM_eq_ok (h : xs.mapM f = .ok ys) :
    xs.filterMap (fun x => (f x).toOption) = ys := by
  replace h := forall₂_of_mapM_eq_ok h
  induction h with
  | nil => rfl
  | cons hz _ ih =>
    rw [List.filterMap_cons, hz, ih]
    rfl

/-- What every step of a traversal keeps, the whole list keeps. -/
theorem map_eq_map_of_mapM_eq_ok {γ : Type} {g : β → γ} {g' : α → γ} (h : xs.mapM f = .ok ys)
    (hstep : ∀ x y, f x = .ok y → g y = g' x) : ys.map g = xs.map g' := by
  replace h := forall₂_of_mapM_eq_ok h
  induction h with
  | nil => rfl
  | cons hz _ ih => rw [List.map_cons, List.map_cons, hstep _ _ hz, ih]

/-- The invariant rule of a fallible fold. -/
theorem foldlM_invariant {f : β → α → Except ε β} {P : β → Prop}
    (hstep : ∀ b a b', P b → f b a = .ok b' → P b') {b b' : β} (hb : P b)
    (h : xs.foldlM f b = .ok b') : P b' := by
  induction xs generalizing b with
  | nil =>
    cases h
    exact hb
  | cons x xs ih =>
    rw [List.foldlM_cons] at h
    obtain ⟨mid, hmid, hrest⟩ := bind_eq_ok.1 h
    exact ih (hstep b x mid hb hmid) hrest

/-- A fold that succeeds has taken a successful step at every element. -/
theorem exists_step_of_foldlM_eq_ok {f : β → α → Except ε β} {b b' : β} (h : xs.foldlM f b = .ok b')
    {x : α} (hx : x ∈ xs) : ∃ c c', f c x = .ok c' := by
  induction xs generalizing b with
  | nil => cases hx
  | cons y xs ih =>
    rw [List.foldlM_cons] at h
    obtain ⟨mid, hmid, hrest⟩ := bind_eq_ok.1 h
    rcases List.mem_cons.1 hx with rfl | hx
    · exact ⟨b, mid, hmid⟩
    · exact ih hrest hx

/-- A list of checks passes when each of them does. -/
theorem forM_eq_ok_iff {f : α → Except ε Unit} : xs.forM f = .ok () ↔ ∀ x ∈ xs, f x = .ok () := by
  induction xs with
  | nil => simp [pure, Except.pure]
  | cons x xs ih =>
    rw [List.forM_eq_forM, List.forM_cons, bind_eq_ok]
    simp only [List.mem_cons, forall_eq_or_imp, ← ih, List.forM_eq_forM]
    constructor
    · rintro ⟨⟨⟩, hx, hxs⟩
      exact ⟨hx, hxs⟩
    · rintro ⟨hx, hxs⟩
      exact ⟨(), hx, hxs⟩

/-- A list of checks fails with the error of one of them. -/
theorem exists_of_forM_eq_error {f : α → Except ε Unit} (h : xs.forM f = .error e) :
    ∃ x ∈ xs, f x = .error e := by
  induction xs with
  | nil => cases h
  | cons x xs ih =>
    rw [List.forM_eq_forM, List.forM_cons, bind_eq_error] at h
    rcases h with h | ⟨_, -, h⟩
    · exact ⟨x, List.mem_cons_self, h⟩
    · obtain ⟨y, hy, hfy⟩ := ih h
      exact ⟨y, List.mem_cons_of_mem x hy, hfy⟩

end Results

/-! ## Keyed lists -/

section Keyed

variable {α κ : Type} [DecidableEq κ] {key : α → κ} {x y : α} {xs : List α}

/-- Replace the first entry with the key of `x` by `x`, or append `x`. -/
def upsert (key : α → κ) (x : α) : List α → List α
  | [] => [x]
  | y :: ys => if key y = key x then x :: ys else y :: upsert key x ys

/-- An upsert brings in nothing but the new entry. -/
theorem mem_of_mem_upsert (h : y ∈ upsert key x xs) : y = x ∨ y ∈ xs := by
  induction xs with
  | nil => simpa [upsert] using h
  | cons z zs ih =>
    unfold upsert at h
    split at h
    · rcases List.mem_cons.1 h with h | h
      · exact .inl h
      · exact .inr (List.mem_cons_of_mem z h)
    · rcases List.mem_cons.1 h with rfl | h
      · exact .inr List.mem_cons_self
      · exact (ih h).imp_right (List.mem_cons_of_mem z)

/-- An upsert loses no key. -/
theorem exists_mem_upsert (h : y ∈ xs) : ∃ z ∈ upsert key x xs, key z = key y := by
  induction xs with
  | nil => cases h
  | cons z zs ih =>
    unfold upsert
    split
    next hsame =>
      rcases List.mem_cons.1 h with rfl | h
      · exact ⟨x, List.mem_cons_self, hsame.symm⟩
      · exact ⟨y, List.mem_cons_of_mem x h, rfl⟩
    rcases List.mem_cons.1 h with rfl | h
    · exact ⟨y, List.mem_cons_self, rfl⟩
    · obtain ⟨u, hu, hkey⟩ := ih h
      exact ⟨u, List.mem_cons_of_mem z hu, hkey⟩

/-- An entry with a new key is appended. -/
theorem upsert_eq_concat (h : ∀ y ∈ xs, key y ≠ key x) : upsert key x xs = xs ++ [x] := by
  induction xs with
  | nil => rfl
  | cons z zs ih =>
    have hz : key z ≠ key x := h z List.mem_cons_self
    rw [upsert, if_neg hz, ih fun y hy => h y (List.mem_cons_of_mem z hy)]
    rfl

/-- An entry with a known key replaces the one at its position. -/
theorem upsert_eq_set {pos : Nat} (hnodup : (xs.map key).Nodup) (hpos : xs[pos]? = some y)
    (hkey : key y = key x) : upsert key x xs = xs.set pos x := by
  induction xs generalizing pos with
  | nil => simp at hpos
  | cons z zs ih =>
    obtain ⟨hz, hzs⟩ := List.nodup_cons.1 hnodup
    cases pos with
    | zero =>
      cases hpos
      rw [upsert, if_pos hkey]
      rfl
    | succ pos =>
      have hpos : zs[pos]? = some y := by simpa using hpos
      have hne : key z ≠ key x := by
        intro hsame
        apply hz
        rw [hsame, ← hkey]
        exact List.mem_map_of_mem (List.mem_of_getElem? hpos)
      rw [upsert, if_neg hne, ih hzs hpos]
      rfl

/-- An upsert does not touch the entries with other keys. -/
theorem filter_upsert {q : α → Bool} (hq : ∀ y, key y = key x → q y = false) :
    (upsert key x xs).filter q = xs.filter q := by
  induction xs with
  | nil => simp [upsert, hq x rfl]
  | cons z zs ih =>
    unfold upsert
    split
    next hsame => simp [hq x rfl, hq z hsame]
    · rw [List.filter_cons, List.filter_cons, ih]

/-- A pairwise relation survives an upsert whose entry keeps it with all the others. -/
theorem pairwise_upsert {R : α → α → Prop} (hsymm : ∀ a b, R a b → R b a)
    (hxs : xs.Pairwise R) (hkey : ∀ a b, R a b → key a ≠ key b)
    (hx : ∀ y ∈ xs, key y ≠ key x → R x y) : (upsert key x xs).Pairwise R := by
  induction xs with
  | nil => exact List.pairwise_singleton R x
  | cons z zs ih =>
    obtain ⟨hz, hzs⟩ := List.pairwise_cons.1 hxs
    unfold upsert
    split
    next hsame =>
      -- the entries after the replaced one have other keys
      refine List.pairwise_cons.2 ⟨fun y hy => ?_, hzs⟩
      apply hx y (List.mem_cons_of_mem z hy)
      rw [← hsame]
      exact (hkey z y (hz y hy)).symm
    next hother =>
      refine List.pairwise_cons.2
        ⟨fun y hy => ?_, ih hzs fun y hy => hx y (List.mem_cons_of_mem z hy)⟩
      rcases mem_of_mem_upsert hy with rfl | hy
      · exact hsymm _ _ (hx z List.mem_cons_self hother)
      · exact hz y hy

end Keyed

end Flextunnel.Lib
