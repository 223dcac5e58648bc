import Mathlib.Data.List.Basic

/-!
# Buffered streams

A `Chunks α` is a stream as a buffered reader meets it: cut into pieces, none of them empty,
since an empty buffer is how the end of the stream shows. A reader sees the first piece
(`fillBuf`) and says how much of it it used (`consume`); a `Limited` stream hides what lies
behind a limit.

The reads built on these two are specified by the elements of the stream alone: `readUntil`
takes what stands `through` the first delimiter (`readUntil_eq`), `readExact` takes a number of
elements (`readExact_eq`). Where the stream was cut makes no difference.
-/

set_option autoImplicit false

namespace Flextunnel.Lib

variable {α : Type}

/-- A stream, in the pieces it arrives in. -/
structure Chunks (α : Type) where
  pieces : List (List α)
  nonempty : ∀ piece ∈ pieces, piece ≠ []

namespace Chunks

/-- The stream with its empty pieces left out. -/
def ofPieces (pieces : List (List α)) : Chunks α where
  pieces := pieces.filter (!·.isEmpty)
  nonempty := by simp

/-- What the stream holds. -/
def contents (r : Chunks α) : List α := r.pieces.flatten

/-- What the buffer shows: the next piece, nothing at the end of the stream. -/
def fillBuf (r : Chunks α) : List α := r.pieces.headD []

/-- The stream after the first `n` elements of the buffer were used. -/
def consume (r : Chunks α) (n : Nat) : Chunks α :=
  ofPieces (r.fillBuf.drop n :: r.pieces.tail)

@[simp] theorem contents_ofPieces (pieces : List (List α)) :
    (ofPieces pieces).contents = pieces.flatten := by
  simp [contents, ofPieces, List.flatten_filter_not_isEmpty]

theorem fillBuf_append_tail (r : Chunks α) : r.fillBuf ++ r.pieces.tail.flatten = r.contents := by
  obtain ⟨pieces, hne⟩ := r
  cases pieces <;> rfl

theorem fillBuf_isPrefix (r : Chunks α) : r.fillBuf <+: r.contents :=
  ⟨r.pieces.tail.flatten, r.fillBuf_append_tail⟩

theorem fillBuf_eq_nil_iff {r : Chunks α} : r.fillBuf = [] ↔ r.contents = [] := by
  obtain ⟨pieces, hne⟩ := r
  cases pieces with
  | nil => exact ⟨fun _ => rfl, fun _ => rfl⟩
  | cons piece pieces =>
    have hpiece : piece ≠ [] := hne piece List.mem_cons_self
    simp [fillBuf, contents, hpiece]

theorem contents_consume {r : Chunks α} {n : Nat} (hn : n ≤ r.fillBuf.length) :
    (r.consume n).contents = r.contents.drop n := by
  rw [consume, contents_ofPieces, List.flatten_cons, ← r.fillBuf_append_tail,
    List.drop_append_of_le_length hn]

end Chunks

/-! ## A limit on what is read -/

/-- A stream of which no more than `limit` elements may be read. -/
structure Limited (α : Type) where
  inner : Chunks α
  limit : Nat

namespace Limited

def fillBuf (t : Limited α) : List α := t.inner.fillBuf.take t.limit

def consume (t : Limited α) (n : Nat) : Limited α where
  inner := t.inner.consume (min n t.limit)
  limit := t.limit - min n t.limit

/-- The part of the stream that may be read. -/
def window (t : Limited α) : List α := t.inner.contents.take t.limit

variable {t : Limited α}

theorem fillBuf_eq_nil_iff : t.fillBuf = [] ↔ t.window = [] := by
  rw [fillBuf, window, List.take_eq_nil_iff, List.take_eq_nil_iff, Chunks.fillBuf_eq_nil_iff]

theorem contents_consume {n : Nat} (hn : n ≤ t.fillBuf.length) :
    (t.consume n).inner.contents = t.inner.contents.drop n := by
  have hle : n ≤ t.limit ∧ n ≤ t.inner.fillBuf.length := by
    simpa only [fillBuf, List.length_take, Nat.le_min] using hn
  rw [consume, Nat.min_eq_left hle.1, Chunks.contents_consume hle.2]

/-- What a limited reader can still give is its buffer and what is left once that is consumed. -/
theorem window_eq_append (t : Limited α) :
    t.window = t.fillBuf ++ (t.consume t.fillBuf.length).window := by
  have hlen : t.fillBuf.length ≤ t.limit := List.length_take_le ..
  have hlimit : (t.consume t.fillBuf.length).limit = t.limit - t.fillBuf.length := by
    rw [consume, Nat.min_eq_left hlen]
  have hbuf : t.window.take t.fillBuf.length = t.fillBuf := by
    rw [window, List.take_take, Nat.min_eq_left hlen, ← t.inner.fillBuf_append_tail]
    simp only [fillBuf, List.length_take]
    rw [List.take_append_of_le_length (Nat.min_le_right ..), ← List.take_take, List.take_length]
  have hafter : (t.consume t.fillBuf.length).window = t.window.drop t.fillBuf.length := by
    rw [window, window, contents_consume (Nat.le_refl _), hlimit, List.drop_take]
  have hsplit := List.take_append_drop t.fillBuf.length t.window
  rw [hafter]
  rw [hbuf] at hsplit
  exact hsplit.symm

/-- Consuming a buffer that is not empty shortens what is left. -/
theorem length_consume_lt (h : t.fillBuf ≠ []) :
    (t.consume t.fillBuf.length).inner.contents.length < t.inner.contents.length := by
  have hbuf := List.length_pos_iff.2 h
  have hpart : t.fillBuf.length ≤ t.inner.fillBuf.length := List.length_take_le' ..
  have hle := t.inner.fillBuf_isPrefix.length_le
  rw [contents_consume (Nat.le_refl _), List.length_drop]
  omega

end Limited

/-! ## Reading to a delimiter -/

section ReadUntil

variable [DecidableEq α]

/-- What stands up to the first `d`, with it; everything if there is none. -/
def through (d : α) (xs : List α) : List α := xs.take (xs.idxOf d + 1)

theorem through_isPrefix (d : α) (xs : List α) : through d xs <+: xs := List.take_prefix ..

variable {d : α} {xs : List α}

theorem through_of_notMem (h : d ∉ xs) : through d xs = xs := by
  rw [through, List.idxOf_eq_length h, List.take_of_length_le (Nat.le_succ _)]

/-- Up to and with the first delimiter. -/
theorem through_append_cons (h : d ∉ xs) (ys : List α) : through d (xs ++ d :: ys) = xs ++ [d] := by
  rw [through, List.idxOf_append_of_notMem h, List.idxOf_cons_self, Nat.add_zero,
    List.take_length_add_append]
  rfl

theorem through_append_of_mem (h : d ∈ xs) (ys : List α) : through d (xs ++ ys) = through d xs := by
  obtain ⟨before, after, rfl, hbefore⟩ := List.eq_append_cons_of_mem h
  rw [List.append_assoc, List.cons_append, through_append_cons hbefore, through_append_cons hbefore]

/-- A piece without the delimiter is read past. -/
theorem through_append_of_notMem (h : d ∉ xs) (ys : List α) :
    through d (xs ++ ys) = xs ++ through d ys := by
  rw [through, List.idxOf_append_of_notMem h, Nat.add_assoc, List.take_length_add_append,
    ← through]

theorem getLast?_through (h : d ∈ xs) : (through d xs).getLast? = some d := by
  obtain ⟨before, after, rfl, hbefore⟩ := List.eq_append_cons_of_mem h
  rw [through_append_cons hbefore, List.getLast?_concat]

/-- Append to `buf` what the stream holds through the first `d`, one buffer at a time; the
count of what was taken starts at `read`. -/
def readUntil (d : α) (t : Limited α) (buf : List α) (read : Nat) : Nat × List α × Limited α :=
  if d ∈ t.fillBuf then
    let used := t.fillBuf.idxOf d + 1
    (read + used, buf ++ t.fillBuf.take used, t.consume used)
  else if t.fillBuf = [] then (read, buf, t)
  else
    let used := t.fillBuf.length
    readUntil d (t.consume used) (buf ++ t.fillBuf) (read + used)
termination_by t.inner.contents.length
decreasing_by exact Limited.length_consume_lt ‹_›

/-- **Reading to a delimiter does not depend on where the stream was cut.** -/
theorem readUntil_eq (d : α) (t : Limited α) (buf : List α) (read : Nat) :
    ∃ rest : Limited α,
      readUntil d t buf read =
          (read + (through d t.window).length, buf ++ through d t.window, rest) ∧
        rest.inner.contents = t.inner.contents.drop (through d t.window).length := by
  fun_induction readUntil d t buf read with
  | case1 t buf read hmem used =>
    have hthrough : through d t.window = t.fillBuf.take used := by
      rw [t.window_eq_append, through_append_of_mem hmem]
      rfl
    have hused : used ≤ t.fillBuf.length := List.idxOf_lt_length_iff.2 hmem
    have hlen : (through d t.window).length = used := by
      rw [hthrough, List.length_take, Nat.min_eq_left hused]
    refine ⟨t.consume used, ?_, ?_⟩
    · rw [hlen, hthrough]
    · rw [hlen, Limited.contents_consume hused]
  | case2 t buf read hmem hnil =>
    have hthrough : through d t.window = [] := by
      rw [Limited.fillBuf_eq_nil_iff.1 hnil]
      rfl
    exact ⟨t, by simp [hthrough], by simp [hthrough]⟩
  | case3 t buf read hmem hnil used ih =>
    obtain ⟨rest, heq, hrest⟩ := ih
    have hthrough : through d t.window = t.fillBuf ++ through d (t.consume used).window := by
      conv_lhs => rw [t.window_eq_append, through_append_of_notMem hmem]
    have hlen : (through d t.window).length =
        used + (through d (t.consume used).window).length := by
      rw [hthrough, List.length_append]
    refine ⟨rest, ?_, ?_⟩
    · rw [heq, hlen, hthrough, List.append_assoc, Nat.add_assoc]
    · rw [hrest, hlen, Limited.contents_consume (Nat.le_refl _), List.drop_drop]

/-- A read that takes bytes shortens what is left. -/
theorem length_readUntil_lt {t : Limited α} {buf : List α} (h : (readUntil d t buf 0).1 ≠ 0) :
    (readUntil d t buf 0).2.2.inner.contents.length < t.inner.contents.length := by
  obtain ⟨rest, heq, hrest⟩ := readUntil_eq d t buf 0
  rw [heq] at h ⊢
  have hle : (through d t.window).length ≤ t.inner.contents.length :=
    ((through_isPrefix d t.window).trans (List.take_prefix ..)).length_le
  simp only [hrest, List.length_drop]
  omega

end ReadUntil

/-! ## Reading a number of elements -/

/-- Up to `n` elements, as many as the buffer shows; none at the end of the stream. -/
def Chunks.read (r : Chunks α) (n : Nat) : List α × Chunks α :=
  let part := r.fillBuf.take n
  (part, r.consume part.length)

namespace Chunks

/-- A read takes its bytes from the front. -/
theorem read_append (r : Chunks α) (n : Nat) :
    (r.read n).1 ++ (r.read n).2.contents = r.contents := by
  have hlen : (r.fillBuf.take n).length ≤ r.fillBuf.length := List.length_take_le' ..
  have hpart : r.contents.take (r.fillBuf.take n).length = r.fillBuf.take n := by
    rw [← r.fillBuf_append_tail, List.take_append_of_le_length hlen, List.length_take,
      ← List.take_take, List.take_length]
  have hsplit := List.take_append_drop (r.fillBuf.take n).length r.contents
  rw [hpart] at hsplit
  rw [read, contents_consume hlen]
  exact hsplit

theorem length_read_le (r : Chunks α) (n : Nat) : (r.read n).1.length ≤ n := List.length_take_le ..

variable {r : Chunks α}

theorem read_eq_nil_iff {n : Nat} (hn : 0 < n) : (r.read n).1 = [] ↔ r.contents = [] := by
  rw [← fillBuf_eq_nil_iff, read, List.take_eq_nil_iff]
  exact or_iff_right (Nat.pos_iff_ne_zero.1 hn)

theorem length_read_lt {n : Nat} (h : ¬ (r.read n).1.isEmpty) :
    (r.read n).2.contents.length < r.contents.length := by
  have hpos : 0 < (r.read n).1.length := List.length_pos_iff.2 fun hnil => h (by simp [hnil])
  rw [← r.read_append n, List.length_append]
  omega

/-- Exactly `n` elements, one buffer at a time; `none` if the stream ends before. -/
def readExact (r : Chunks α) (n : Nat) : Option (List α × Chunks α) :=
  if n = 0 then some ([], r)
  else if (r.read n).1.isEmpty then none
  else
    (readExact (r.read n).2 (n - (r.read n).1.length)).map fun out =>
      ((r.read n).1 ++ out.1, out.2)
termination_by r.contents.length
decreasing_by exact length_read_lt ‹_›

/-- An exact read shortens what is left by its size. -/
theorem length_readExact {rest : Chunks α} {n : Nat} {taken : List α}
    (h : r.readExact n = some (taken, rest)) : rest.contents.length + n = r.contents.length := by
  fun_induction readExact r n generalizing taken rest with
  | case1 r =>
    cases h
    rfl
  | case2 r n hpos hempty => cases h
  | case3 r n hpos hempty ih =>
    obtain ⟨out, hout, ⟨⟩⟩ := Option.map_eq_some_iff.1 h
    have hsplit := congrArg List.length (r.read_append n)
    have hle := r.length_read_le n
    have hmore := ih hout
    rw [List.length_append] at hsplit
    omega

/-- **Reading a number of elements does not depend on where the stream was cut.** -/
theorem readExact_eq {xs ys : List α} (h : r.contents = xs ++ ys) :
    ∃ rest : Chunks α, r.readExact xs.length = some (xs, rest) ∧ rest.contents = ys := by
  generalize hn : xs.length = n
  fun_induction readExact r n generalizing xs with
  | case1 r =>
    obtain rfl := List.length_eq_zero_iff.1 hn
    exact ⟨r, rfl, h⟩
  | case2 r n hpos hempty =>
    have hnil : r.contents = [] :=
      (read_eq_nil_iff (Nat.pos_of_ne_zero hpos)).1 (List.isEmpty_iff.1 hempty)
    rw [h, List.append_eq_nil_iff] at hnil
    rw [hnil.1] at hn
    exact absurd hn.symm hpos
  | case3 r n hpos hempty ih =>
    -- the read took the beginning of what is wanted
    have hle : (r.read n).1.length ≤ xs.length := hn ▸ r.length_read_le n
    obtain ⟨more, rfl⟩ : (r.read n).1 <+: xs :=
      List.prefix_of_prefix_length_le ⟨_, r.read_append n⟩ ⟨ys, h.symm⟩ hle
    have hmore : (r.read n).2.contents = more ++ ys := by
      have happend := r.read_append n
      rw [h, List.append_assoc] at happend
      exact List.append_cancel_left happend
    have hlen : more.length = n - (r.read n).1.length := by
      rw [List.length_append] at hn
      omega
    obtain ⟨rest, heq, hrest⟩ := ih hmore hlen
    exact ⟨rest, by rw [heq]; rfl, hrest⟩

end Chunks

end Flextunnel.Lib
