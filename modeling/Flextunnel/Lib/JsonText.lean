import Mathlib.Algebra.GroupWithZero.Nat
import Flextunnel.Lib.Lines
import Flextunnel.Lib.Words

/-!
# JSON text

A writer of JSON in compact form, as bytes: no whitespace, entries in the order given,
text in UTF-8 with the quotes, backslashes and control characters escaped. Every form has
its size beside it (`length_string`, `length_array`), so that the size of a document is
computed from its parts, and none of them writes a control character (`ControlFree`), so that a
document fits on a line.
-/

set_option autoImplicit false

namespace Flextunnel.Lib

namespace JsonText

open Reader

/-- A hexadecimal digit. -/
def hexDigit (n : Nat) : UInt8 := UInt8.ofNat (if n < 10 then 48 + n else 87 + n)

/-- A byte of a text: the two-character escapes, `\u00xx` for the other control
characters, anything else as it is. -/
def escapeByte (b : UInt8) : List UInt8 :=
  if b = 34 then [92, 34]
  else if b = 92 then [92, 92]
  else if b = 8 then [92, 98]
  else if b = 9 then [92, 116]
  else if b = 10 then [92, 110]
  else if b = 12 then [92, 102]
  else if b = 13 then [92, 114]
  else if b < 32 then [92, 117, 48, 48, hexDigit (b.toNat / 16), hexDigit (b.toNat % 16)]
  else [b]

/-- A text in quotes. -/
def string (s : String) : List UInt8 := 34 :: (utf8 s).flatMap escapeByte ++ [34]

/-- A number without sign, fraction and exponent. -/
def number (n : Nat) : List UInt8 := utf8 (toString n)

def bool (b : Bool) : List UInt8 := if b then utf8 "true" else utf8 "false"

/-- The entries, separated by commas, in brackets. -/
def array (items : List (List UInt8)) : List UInt8 := 91 :: [44].intercalate items ++ [93]

/-- The members, separated by commas, in braces. -/
def object (members : List (String × List UInt8)) : List UInt8 :=
  123 :: [44].intercalate (members.map fun m => string m.1 ++ 58 :: m.2) ++ [125]

/-! ## Sizes -/

/-- How many bytes a byte of a text takes. -/
def escapedSize (b : UInt8) : Nat :=
  if b = 34 ∨ b = 92 ∨ b = 8 ∨ b = 9 ∨ b = 10 ∨ b = 12 ∨ b = 13 then 2
  else if b < 32 then 6
  else 1

/-- The size of a text, with its quotes. -/
def stringSize (s : String) : Nat := 2 + ((utf8 s).map escapedSize).sum

/-- The size of entries of the given sizes, with the brackets and the commas. -/
def arraySize (sizes : List Nat) : Nat := 2 + sizes.sum + (sizes.length - 1)

theorem length_escapeByte (b : UInt8) : (escapeByte b).length = escapedSize b := by
  unfold escapeByte escapedSize
  repeat' split
  all_goals simp_all

/-- The length of an escaped text is the sum of its escapes and two quotes. -/
@[simp] theorem length_string (s : String) : (string s).length = stringSize s := by
  have hbytes : ((utf8 s).flatMap escapeByte).length = ((utf8 s).map escapedSize).sum := by
    rw [List.length_flatMap]
    simp only [length_escapeByte]
  simp only [string, stringSize, List.length_append, List.length_cons, List.length_nil, hbytes]
  omega

/-- Items with a comma between them. -/
theorem length_intercalate (items : List (List UInt8)) :
    ([44].intercalate items).length = (items.map List.length).sum + (items.length - 1) := by
  induction items with
  | nil => rfl
  | cons item items ih =>
    by_cases hnil : items = []
    · subst hnil
      simp
    have hpos := List.length_pos_iff.2 hnil
    rw [List.intercalate_cons_of_ne_nil hnil]
    simp only [List.length_append, List.length_cons, List.length_nil, ih, List.map_cons,
      List.sum_cons]
    omega

@[simp] theorem length_array (items : List (List UInt8)) :
    (array items).length = arraySize (items.map List.length) := by
  simp only [array, arraySize, List.length_append, List.length_cons, List.length_nil,
    length_intercalate, List.length_map]
  omega

theorem length_array_map {α : Type} (f : α → List UInt8) (xs : List α) :
    (array (xs.map f)).length = arraySize (xs.map fun x => (f x).length) := by
  rw [length_array, List.map_map]
  rfl

theorem length_array_pair (x y : List UInt8) :
    (array [x, y]).length = 3 + x.length + y.length := by
  simp only [length_array, List.map_cons, List.map_nil, arraySize, List.sum_cons, List.sum_nil,
    List.length_cons, List.length_nil]
  omega

@[simp] theorem length_object (members : List (String × List UInt8)) :
    (object members).length = arraySize (members.map fun m => stringSize m.1 + 1 + m.2.length) := by
  have hmember (m : String × List UInt8) :
      (string m.1 ++ 58 :: m.2).length = stringSize m.1 + 1 + m.2.length := by
    simp only [List.length_append, List.length_cons, length_string]
    omega
  simp only [object, arraySize, List.length_append, List.length_cons, List.length_nil,
    length_intercalate, List.length_map, List.map_map, Function.comp_def, hmember]
  omega

/-- A number below `10 ^ k` is written in at most `4 * k` bytes. -/
theorem length_number_le {n k : Nat} (hk : 0 < k) (hn : n < 10 ^ k) :
    (number n).length ≤ 4 * k := by
  have hdigits : n.repr.length ≤ k := (Nat.length_repr_le_iff hk).2 hn
  have hbytes : (utf8 n.repr).length ≤ 4 * n.repr.length := by
    rw [← String.length_toList]
    exact (Text.byteLen_bounds n.repr).2
  rw [number]
  show (utf8 n.repr).length ≤ 4 * k
  omega

theorem arraySize_perm {sizes sizes' : List Nat} (h : sizes.Perm sizes') :
    arraySize sizes = arraySize sizes' := by
  rw [arraySize, arraySize, h.sum_nat, h.length_eq]

/-! ## Control characters -/

/-- No control character of ASCII occurs. -/
def ControlFree (bs : List UInt8) : Prop := ∀ b ∈ bs, 32 ≤ b

instance ControlFree.decidable (bs : List UInt8) : Decidable (ControlFree bs) :=
  List.decidableBAll (fun b : UInt8 => 32 ≤ b) bs

theorem ControlFree.notMem {bs : List UInt8} (h : ControlFree bs) {b : UInt8} (hb : b < 32) :
    b ∉ bs := fun hmem => absurd (h b hmem) (UInt8.not_le.2 hb)

theorem ControlFree.append {bs cs : List UInt8} (hbs : ControlFree bs) (hcs : ControlFree cs) :
    ControlFree (bs ++ cs) := by
  intro b hb
  exact (List.mem_append.1 hb).elim (hbs b) (hcs b)

theorem ControlFree.cons {b : UInt8} {bs : List UInt8} (hb : 32 ≤ b) (hbs : ControlFree bs) :
    ControlFree (b :: bs) := by
  intro c hc
  cases List.mem_cons.1 hc with
  | inl h => exact h ▸ hb
  | inr h => exact hbs c h

theorem le_hexDigit {n : Nat} (hn : n < 16) : 32 ≤ hexDigit n := by
  rw [UInt8.le_iff_toNat_le, hexDigit, UInt8.toNat_ofNat']
  split <;> simp <;> omega

/-- Escaping leaves no control character. -/
theorem controlFree_escapeByte (b : UInt8) : ControlFree (escapeByte b) := by
  have hbyte := b.toNat_lt
  unfold escapeByte
  -- the two-character escapes
  iterate 7
    split
    · decide
  split
  · have hstart : ControlFree [92, 117, 48, 48] := by decide
    exact hstart.append
      (.cons (le_hexDigit (by omega)) (.cons (le_hexDigit (by omega)) (by decide)))
  next hctl => exact .cons (UInt8.not_lt.1 hctl) (by decide)

/-- A text is written without control characters. -/
theorem controlFree_string (s : String) : ControlFree (string s) := by
  refine .append (.cons (by decide) fun b hb => ?_) (by decide)
  obtain ⟨c, -, hc⟩ := List.mem_flatMap.1 hb
  exact controlFree_escapeByte c b hc

/-- A number is written without control characters. -/
theorem controlFree_number (n : Nat) : ControlFree (number n) := by
  have hdigit : ∀ c ∈ Nat.toDigits 10 n, 48 ≤ c.toNat ∧ c.toNat ≤ 57 := by
    intro c hc
    have h := Nat.isDigit_of_mem_toDigits (b := 10) (n := n) (by decide) (by decide) hc
    simp only [Char.isDigit, Bool.and_eq_true, decide_eq_true_eq] at h
    exact ⟨UInt32.le_iff_toNat_le.1 h.1, UInt32.le_iff_toNat_le.1 h.2⟩
  have hbytes : number n = (Nat.toDigits 10 n).map fun c => UInt8.ofNat c.toNat := by
    rw [← utf8_ofList_of_ascii fun c hc => by have := hdigit c hc; omega,
      ← Nat.repr_eq_ofList_toDigits]
    rfl
  rw [hbytes]
  intro b hb
  obtain ⟨c, hc, rfl⟩ := List.mem_map.1 hb
  have h := hdigit c hc
  rw [UInt8.le_iff_toNat_le, UInt8.toNat_ofNat']
  simp
  omega

/-- Commas are no control characters. -/
theorem controlFree_intercalate {items : List (List UInt8)} (h : ∀ item ∈ items, ControlFree item) :
    ControlFree ([44].intercalate items) := by
  induction items with
  | nil => decide
  | cons item items ih =>
    have hitem := h item List.mem_cons_self
    have hrest := ih fun i hi => h i (List.mem_cons_of_mem _ hi)
    by_cases hnil : items = []
    · subst hnil
      simpa using hitem
    · rw [List.intercalate_cons_of_ne_nil hnil]
      exact (hitem.append (by decide)).append hrest

/-- An object is written without control characters if its values are. -/
theorem controlFree_object {members : List (String × List UInt8)}
    (h : ∀ m ∈ members, ControlFree m.2) : ControlFree (object members) := by
  refine .append (.cons (by decide) (controlFree_intercalate ?_)) (by decide)
  intro item hitem
  obtain ⟨m, hm, rfl⟩ := List.mem_map.1 hitem
  exact (controlFree_string m.1).append (.cons (by decide) (h m hm))

end JsonText

end Flextunnel.Lib
