import Mathlib.Data.List.Basic

/-!
# A frame on its way through a pipe

A `Pipe` is a reliable stream in one direction: what is put in at one end comes out at the
other in the same order, a piece at a time, until the pipe is closed. Closing may lose the end
of what is under way.

`Carries p frame out got` follows one frame: `out` is still to be put in, `got` has been taken
out. Every move of a pipe keeps it, and it says that what was taken out is a beginning of the
frame, and that nothing is left behind when the whole frame is out.
-/

set_option autoImplicit false

namespace Flextunnel.Lib

variable {α : Type}

/-- What is under way, and whether the pipe takes more. -/
structure Pipe (α : Type) where
  flight : List α := []
  closed : Bool := false
deriving DecidableEq, Repr

namespace Pipe

/-- Put the next `n` elements of `out` in: the pipe, and what is left of `out`. -/
def put (p : Pipe α) (n : Nat) (out : List α) : Option (Pipe α × List α) :=
  if !p.closed && 0 < n && n ≤ out.length then
    some ({ p with flight := p.flight ++ out.take n }, out.drop n)
  else none

/-- Take the next `n` elements out. -/
def get (p : Pipe α) (n : Nat) : Option (List α × Pipe α) :=
  if 0 < n && n ≤ p.flight.length then
    some (p.flight.take n, { p with flight := p.flight.drop n })
  else none

/-- Close the pipe; the first `keep` elements under way still come out. -/
def close (p : Pipe α) (keep : Nat) : Pipe α := { flight := p.flight.take keep, closed := true }

theorem put_eq_some_iff {p q : Pipe α} {n : Nat} {out rest : List α} :
    p.put n out = some (q, rest) ↔ p.closed = false ∧ 0 < n ∧ n ≤ out.length ∧
      { p with flight := p.flight ++ out.take n } = q ∧ out.drop n = rest := by
  simp only [put, Option.ite_none_right_eq_some, Bool.and_eq_true, Bool.not_eq_true',
    decide_eq_true_eq, Option.some.injEq, Prod.mk.injEq, and_assoc]

theorem get_eq_some_iff {p q : Pipe α} {n : Nat} {taken : List α} :
    p.get n = some (taken, q) ↔ 0 < n ∧ n ≤ p.flight.length ∧ p.flight.take n = taken ∧
      { p with flight := p.flight.drop n } = q := by
  simp only [get, Option.ite_none_right_eq_some, Bool.and_eq_true, decide_eq_true_eq,
    Option.some.injEq, Prod.mk.injEq, and_assoc]

end Pipe

/-- `frame` is on its way: `out` is not in the pipe yet, `got` is out of it again. Nothing is
missing between the two while the pipe is open. -/
def Carries (p : Pipe α) (frame out got : List α) : Prop :=
  ∃ sent, sent ++ out = frame ∧ got ++ p.flight <+: sent ∧
    (p.closed = false → got ++ p.flight = sent)

section Carries

variable {p q : Pipe α} {frame out got rest taken : List α} {n : Nat}

theorem Carries.start (hflight : p.flight = []) : Carries p frame frame [] :=
  ⟨[], rfl, by simp [hflight], fun _ => by simp [hflight]⟩

/-- Writing moves bytes from the writer's rest into the pipe. -/
theorem Carries.put (h : Carries p frame out got) (hput : p.put n out = some (q, rest)) :
    Carries q frame rest got := by
  obtain ⟨hopen, -, -, rfl, rfl⟩ := Pipe.put_eq_some_iff.1 hput
  obtain ⟨sent, hframe, -, hall⟩ := h
  have hflight := hall hopen
  refine ⟨sent ++ out.take n, ?_, ?_, fun _ => ?_⟩
  · rw [List.append_assoc, List.take_append_drop, hframe]
  · exact ⟨[], by rw [List.append_nil, ← List.append_assoc, hflight]⟩
  · rw [← List.append_assoc, hflight]

/-- Reading moves bytes from the pipe to the reader. -/
theorem Carries.get (h : Carries p frame out got) (hget : p.get n = some (taken, q)) :
    Carries q frame out (got ++ taken) := by
  obtain ⟨-, -, rfl, rfl⟩ := Pipe.get_eq_some_iff.1 hget
  obtain ⟨sent, hframe, hbegin, hall⟩ := h
  have hjoin : (got ++ p.flight.take n) ++ p.flight.drop n = got ++ p.flight := by
    rw [List.append_assoc, List.take_append_drop]
  refine ⟨sent, hframe, ?_, fun hopen => ?_⟩
  · rwa [hjoin]
  · rw [hjoin, hall hopen]

/-- Closing loses bytes in flight, never the order. -/
theorem Carries.close (h : Carries p frame out got) (keep : Nat) :
    Carries (p.close keep) frame out got := by
  obtain ⟨sent, hframe, hbegin, -⟩ := h
  refine ⟨sent, hframe, ?_, nofun⟩
  exact ((List.prefix_append_right_inj got).2 (List.take_prefix keep p.flight)).trans hbegin

/-- What was read is a prefix of the frame. -/
theorem Carries.got_isPrefix (h : Carries p frame out got) : got <+: frame := by
  obtain ⟨sent, rfl, hbegin, -⟩ := h
  exact (List.prefix_append got p.flight).trans (hbegin.trans (List.prefix_append sent out))

/-- A frame that was read whole leaves nothing behind. -/
theorem Carries.whole (h : Carries p frame out frame) : out = [] ∧ p.flight = [] := by
  obtain ⟨sent, hframe, hbegin, -⟩ := h
  have hlen := hbegin.length_le
  have hframe' := congrArg List.length hframe
  rw [List.length_append] at hlen hframe'
  exact ⟨List.length_eq_zero_iff.1 (by omega), List.length_eq_zero_iff.1 (by omega)⟩

end Carries

end Flextunnel.Lib
