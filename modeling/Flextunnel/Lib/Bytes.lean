import Mathlib.Data.List.Basic

/-!
# Reading and writing byte streams

A `Reader` takes bytes off the front of a stream and may fail. Two relations describe
one, each with its rules for sequencing:

* `Reads r bs a`: given `bs` and anything after it, `r` returns `a` and leaves exactly
  what followed `bs`;
* `Took r P`: whenever `r` succeeds, what it took off the stream and what it returned
  are related by `P`.

A codec round-trips when its reader `Reads` every encoding, and is canonical when its
reader `Took` nothing but encodings (`IsCodec`). Both are proved along the `do` block of
the reader.

Numbers are big-endian; text is UTF-8.
-/

set_option autoImplicit false

namespace Flextunnel.Lib

/-- A fallible reader of a byte stream. -/
abbrev Reader (ε α : Type) := StateT (List UInt8) (Except ε) α

namespace Reader

variable {ε α β : Type}

/-- `r` reads `bs` as `a` and leaves the rest of the stream. -/
def Reads (r : Reader ε α) (bs : List UInt8) (a : α) : Prop :=
  ∀ rest, r.run (bs ++ rest) = .ok (a, rest)

/-- Whatever `r` returns is related by `P` to the bytes it took. -/
def Took (r : Reader ε α) (P : List UInt8 → α → Prop) : Prop :=
  ∀ bs a rest, r.run bs = .ok (a, rest) → ∃ pre, bs = pre ++ rest ∧ P pre a

theorem reads_pure (a : α) : Reads (pure a : Reader ε α) [] a := fun _ => rfl

variable {bs : List UInt8} {P : List UInt8 → α → Prop} {r : Reader ε α}

/-- Readers in sequence read the bytes of both. -/
theorem Reads.bind {f : α → Reader ε β} {cs : List UInt8} {a : α} {b : β} (hr : Reads r bs a)
    (hf : Reads (f a) cs b) : Reads (r >>= f) (bs ++ cs) b := by
  intro rest
  have h := hr (cs ++ rest)
  rw [List.append_assoc, StateT.run_bind, h]
  exact hf rest

theorem Reads.bind_pure {a : α} (hr : Reads r bs a) (g : α → β) :
    Reads (r >>= fun x => pure (g x)) bs (g a) := by
  have h := hr.bind (f := fun x => (pure (g x) : Reader ε β)) (reads_pure (g a))
  rwa [List.append_nil] at h

theorem took_pure {a : α} (h : P [] a) : Took (pure a : Reader ε α) P := by
  intro bs b rest hrun
  have hpure : (a, bs) = (b, rest) := Except.ok.inj hrun
  cases hpure
  exact ⟨[], rfl, h⟩

theorem took_throw (e : ε) : Took (throw e : Reader ε α) P := by
  intro bs a rest hrun
  cases hrun

theorem took_lift {x : Except ε α} (h : ∀ a, x = .ok a → P [] a) :
    Took (liftM x : Reader ε α) P := by
  intro bs a rest hrun
  cases x with
  | error e => cases hrun
  | ok b =>
    have hpure : (b, bs) = (a, rest) := Except.ok.inj hrun
    obtain ⟨rfl, rfl⟩ := Prod.mk.inj hpure
    exact ⟨[], rfl, h b rfl⟩

/-- What a sequence took is what its parts took, one after the other. -/
theorem Took.bind {f : α → Reader ε β} {Q : List UInt8 → β → Prop} (hr : Took r P)
    (hf : ∀ a p, P p a → Took (f a) fun q b => Q (p ++ q) b) : Took (r >>= f) Q := by
  intro bs b rest hrun
  rw [StateT.run_bind] at hrun
  cases hra : r.run bs with
  | error e =>
    rw [hra] at hrun
    cases hrun
  | ok ap =>
    obtain ⟨a, mid⟩ := ap
    rw [hra] at hrun
    obtain ⟨p, rfl, hp⟩ := hr bs a mid hra
    obtain ⟨q, rfl, hq⟩ := hf a p hp mid b rest hrun
    exact ⟨p ++ q, (List.append_assoc ..).symm, hq⟩

/-! ## Codecs -/

/-- On the values satisfying `dom`, `r` reads back what `write` writes; `r` accepts nothing
else. -/
structure IsCodec {ε' : Type} (write : α → Except ε' (List UInt8)) (dom : α → Prop)
    (r : Reader ε α) : Prop where
  reads : ∀ {a : α} {bytes : List UInt8}, dom a → write a = .ok bytes → Reads r bytes a
  took : Took r fun bytes a => write a = .ok bytes ∧ dom a

/-- A codec accepts exactly what its writer writes. -/
theorem IsCodec.run_eq_ok_iff {ε' : Type} {write : α → Except ε' (List UInt8)} {dom : α → Prop}
    (hcodec : IsCodec write dom r) {bytes rest : List UInt8} {a : α} :
    r.run bytes = .ok (a, rest) ↔ dom a ∧ ∃ pre, write a = .ok pre ∧ bytes = pre ++ rest := by
  constructor
  · intro hrun
    obtain ⟨pre, hbytes, hwrite, hdom⟩ := hcodec.took bytes a rest hrun
    exact ⟨hdom, pre, hwrite, hbytes⟩
  · rintro ⟨hdom, pre, hwrite, rfl⟩
    exact hcodec.reads hdom hwrite rest

/-! ## Bytes -/

/-- One byte, or `eof` at the end of the stream. -/
def u8 (eof : ε) : Reader ε UInt8 := fun bs =>
  match bs with
  | b :: rest => .ok (b, rest)
  | [] => .error eof

/-- Exactly `n` bytes. -/
def exactly (eof : ε) (n : Nat) : Reader ε { bs : List UInt8 // bs.length = n } := fun bs =>
  if h : n ≤ bs.length then .ok (⟨bs.take n, by simp [h]⟩, bs.drop n) else .error eof

theorem reads_u8 (eof : ε) (b : UInt8) : Reads (u8 eof) [b] b := fun _ => rfl

theorem reads_exactly (eof : ε) {n : Nat} (h : bs.length = n) :
    Reads (exactly eof n) bs ⟨bs, h⟩ := by
  subst h
  intro rest
  show exactly eof bs.length (bs ++ rest) = _
  rw [exactly, dif_pos (by simp)]
  simp

theorem took_u8 (eof : ε) : Took (u8 eof) fun p b => p = [b] := by
  intro bs b rest hrun
  cases bs with
  | nil => cases hrun
  | cons c bs =>
    obtain ⟨rfl, rfl⟩ : c = b ∧ bs = rest := by
      simpa [StateT.run, u8] using hrun
    exact ⟨[c], rfl, rfl⟩

/-- A read of `n` bytes takes the bytes it returns. -/
theorem took_exactly (eof : ε) (n : Nat) : Took (exactly eof n) fun p b => p = b.1 := by
  intro bs b rest hrun
  by_cases hn : n ≤ bs.length
  · have hok : exactly eof n bs = .ok (⟨bs.take n, by simp [hn]⟩, bs.drop n) := dif_pos hn
    rw [StateT.run, hok] at hrun
    cases hrun
    exact ⟨bs.take n, (List.take_append_drop n bs).symm, rfl⟩
  · have herr : exactly eof n bs = .error eof := dif_neg hn
    rw [StateT.run, herr] at hrun
    cases hrun

/-- A 16-bit number as two bytes, high byte first. -/
def be16 (n : UInt16) : List UInt8 :=
  [UInt8.ofNat (n.toNat / 256), UInt8.ofNat (n.toNat % 256)]

/-- A 16-bit number, high byte first. -/
def u16 (eof : ε) : Reader ε UInt16 := do
  let hi ← u8 eof
  let lo ← u8 eof
  return UInt16.ofNat (hi.toNat * 256 + lo.toNat)

/-- Two big-endian bytes give the number back. -/
theorem ofNat_be16 (n : UInt16) :
    UInt16.ofNat ((UInt8.ofNat (n.toNat / 256)).toNat * 256 +
      (UInt8.ofNat (n.toNat % 256)).toNat) = n := by
  have hn := n.toNat_lt
  apply UInt16.toNat_inj.1
  simp only [UInt16.toNat_ofNat', UInt8.toNat_ofNat']
  omega

/-- A number read from two bytes is written as those bytes. -/
theorem be16_ofNat (hi lo : UInt8) :
    be16 (UInt16.ofNat (hi.toNat * 256 + lo.toNat)) = [hi, lo] := by
  have hhi := hi.toNat_lt
  have hlo := lo.toNat_lt
  simp only [be16, UInt16.toNat_ofNat', List.cons.injEq, and_true]
  constructor <;>
    (apply UInt8.toNat_inj.1
     simp only [UInt8.toNat_ofNat']
     omega)

theorem reads_u16 (eof : ε) (n : UInt16) : Reads (u16 eof) (be16 n) n := by
  intro rest
  show Except.ok (UInt16.ofNat _, rest) = _
  rw [ofNat_be16]

theorem took_u16 (eof : ε) : Took (u16 eof) fun p n => p = be16 n := by
  refine (took_u8 eof).bind fun hi p hp => (took_u8 eof).bind fun lo q hq => took_pure ?_
  rw [hp, hq, be16_ofNat]
  rfl

/-- A 32-bit number as four bytes, high byte first; `n` is taken modulo `2 ^ 32`. -/
def be32 (n : Nat) : List UInt8 :=
  [UInt8.ofNat (n / 16777216), UInt8.ofNat (n / 65536), UInt8.ofNat (n / 256), UInt8.ofNat n]

/-- A 32-bit number, high byte first. -/
def u32 (eof : ε) : Reader ε Nat := do
  let b₃ ← u8 eof
  let b₂ ← u8 eof
  let b₁ ← u8 eof
  let b₀ ← u8 eof
  return ((b₃.toNat * 256 + b₂.toNat) * 256 + b₁.toNat) * 256 + b₀.toNat

theorem reads_u32 (eof : ε) {n : Nat} (hn : n < 4294967296) : Reads (u32 eof) (be32 n) n := by
  intro rest
  show Except.ok (_, rest) = _
  simp only [UInt8.toNat_ofNat']
  congr 2
  omega

/-- The number a byte string denotes, high byte first. -/
def ofBe (bs : List UInt8) : Nat := bs.foldl (fun n b => n * 256 + b.toNat) 0

/-- Four big-endian bytes give the number back. -/
theorem ofBe_be32 {n : Nat} (hn : n < 4294967296) : ofBe (be32 n) = n := by
  simp only [ofBe, be32, List.foldl_cons, List.foldl_nil, UInt8.toNat_ofNat']
  omega

/-! ## Text -/

/-- The UTF-8 encoding of a text. -/
def utf8 (s : String) : List UInt8 := s.toUTF8.data.toList

/-- The text a byte string encodes, if it is valid UTF-8. -/
def ofUtf8 (bs : List UInt8) : Option String := String.fromUTF8? ⟨bs.toArray⟩

/-- Decoding undoes encoding. -/
theorem ofUtf8_utf8 (s : String) : ofUtf8 (utf8 s) = some s := by
  have hbytes : (⟨(utf8 s).toArray⟩ : ByteArray) = s.toUTF8 := by
    rw [utf8, Array.toArray_toList]
  rw [ofUtf8, hbytes]
  exact dif_pos s.isValidUTF8

/-- Bytes that decode are the encoding of what they decode to. -/
theorem utf8_of_ofUtf8 {s : String} (h : ofUtf8 bs = some s) : utf8 s = bs := by
  unfold ofUtf8 String.fromUTF8? at h
  split at h <;> cases h
  rfl

/-- The character at the head of a byte string that starts with `b`, and how many bytes of
the rest belong to it. What is not UTF-8 is read as U+FFFD, one for each longest part that
could have begun a character. -/
def lossyHead (b : UInt8) (rest : List UInt8) : Char × Nat :=
  let n := b.toNat
  let cont := fun (lo hi : Nat) (i : Nat) =>
    ((rest[i]?).map UInt8.toNat).filter fun m => lo ≤ m && m ≤ hi
  let replacement := Char.ofNat 0xFFFD
  if n < 0x80 then (Char.ofNat n, 0)
  else if 0xC2 ≤ n && n ≤ 0xDF then
    match cont 0x80 0xBF 0 with
    | some x => (Char.ofNat ((n - 0xC0) * 64 + (x - 0x80)), 1)
    | none => (replacement, 0)
  else if 0xE0 ≤ n && n ≤ 0xEF then
    match cont (if n = 0xE0 then 0xA0 else 0x80) (if n = 0xED then 0x9F else 0xBF) 0 with
    | none => (replacement, 0)
    | some x =>
      match cont 0x80 0xBF 1 with
      | some y => (Char.ofNat ((n - 0xE0) * 4096 + (x - 0x80) * 64 + (y - 0x80)), 2)
      | none => (replacement, 1)
  else if 0xF0 ≤ n && n ≤ 0xF4 then
    match cont (if n = 0xF0 then 0x90 else 0x80) (if n = 0xF4 then 0x8F else 0xBF) 0 with
    | none => (replacement, 0)
    | some x =>
      match cont 0x80 0xBF 1 with
      | none => (replacement, 1)
      | some y =>
        match cont 0x80 0xBF 2 with
        | some z =>
          (Char.ofNat ((n - 0xF0) * 262144 + (x - 0x80) * 4096 + (y - 0x80) * 64 + (z - 0x80)), 3)
        | none => (replacement, 2)
  else (replacement, 0)

/-- The characters of a byte string, after `skip` bytes that were already read. -/
def lossyChars : (skip : Nat) → List UInt8 → List Char
  | _, [] => []
  | skip + 1, _ :: rest => lossyChars skip rest
  | 0, b :: rest =>
    let (c, taken) := lossyHead b rest
    c :: lossyChars taken rest

/-- The text of a byte string, with U+FFFD for what is not UTF-8. -/
def ofUtf8Lossy (bs : List UInt8) : String := String.ofList (lossyChars 0 bs)

/-! ## Lines -/

/-- The pieces of a byte string that end in CR LF, and what follows the last one if there
is anything; `line` is what was read of the current piece. -/
def crlfLinesFrom (line : List UInt8) : List UInt8 → List (List UInt8)
  | [] => if line.isEmpty then [] else [line]
  | [b] => [line ++ [b]]
  | b :: c :: rest =>
    if b = 13 ∧ c = 10 then line :: crlfLinesFrom [] rest
    else crlfLinesFrom (line ++ [b]) (c :: rest)

/-- What comes before and after the first CR LF. -/
def splitCrlf : List UInt8 → Option (List UInt8 × List UInt8)
  | b :: c :: rest =>
    if b = 13 ∧ c = 10 then some ([], rest)
    else (splitCrlf (c :: rest)).map fun r => (b :: r.1, r.2)
  | _ => none

/-- The lines of a byte string whose lines end in CR LF. -/
def crlfLines (bs : List UInt8) : List (List UInt8) := crlfLinesFrom [] bs

end Reader

end Flextunnel.Lib
