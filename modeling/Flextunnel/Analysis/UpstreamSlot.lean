import Flextunnel.Model.Upstream
import Mathlib.Data.List.Chain

/-!
# The slot of an outbound bridge

A stream that finds a connection in the slot of a bridge finds one whose handshake the other server
accepted, and the loop behind the slot never tries again without a wait.
-/

set_option autoImplicit false

namespace Flextunnel.Analysis

open Lib Model

/-- After the end of an attempt or a connection there is a wait of a second to a minute, and the
jitter. -/
def Pauses (e e' : UpstreamEvent) : Prop :=
  e.ends = true →
    ∃ backoff, e' = .slept backoff ∧ second ≤ backoff ∧ backoff ≤ 61 * second

/-- What the log ends with, by where the loop is. -/
def LogEnd (log : List UpstreamEvent) (attempt : Nat) : UpstreamPc → Prop
  | .start => log = []
  | .top => attempt ≠ 0 ∨ log = []
  | .sleeping backoff => second ≤ backoff ∧ backoff ≤ 61 * second
  | _ => ∀ e ∈ log.getLast?, e.ends = false

structure SlotInv (json : Json) (log : List UpstreamEvent) (s : Upstream) : Prop where
  slot : s.pc ≠ .start → ∀ conn, s.slot = some conn ↔ s.pc = .serving conn
  accepted : ∀ conn, s.pc = .serving conn →
    ∃ bytes, .up conn bytes ∈ log ∧ bridgeHandshake json bytes = .ok ()
  waits : log.IsChain Pauses
  follows : LogEnd log s.attempt s.pc

theorem calculateBackoff_bounds {attempt jitterMs : Nat} (h : jitterMs ≤ reconnectJitterMaxMs) :
    second ≤ calculateBackoff attempt jitterMs ∧
      calculateBackoff attempt jitterMs ≤ 61 * second := by
  have hpos : 1 ≤ min (2 ^ min (attempt - 1) 16) reconnectBackoffMaxSecs :=
    Nat.le_min.2 ⟨Nat.one_le_two_pow, by decide⟩
  have hle : min (2 ^ min (attempt - 1) 16) reconnectBackoffMaxSecs ≤ 60 := Nat.min_le_right _ _
  unfold calculateBackoff
  simp only [reconnectJitterMaxMs, second] at *
  omega

section

variable {json : Json} {log es : List UpstreamEvent} {s t : Upstream}

theorem isChain_concat (h : log.IsChain Pauses) {e : UpstreamEvent}
    (hlast : ∀ e' ∈ log.getLast?, Pauses e' e) : (log ++ [e]).IsChain Pauses := by
  refine List.isChain_append.2 ⟨h, .singleton e, fun x hx y hy => ?_⟩
  cases hy
  exact hlast x hx

/-- The chain goes on with any event, if no attempt or connection has just ended. -/
theorem pauses_of_end (h : ∀ e ∈ log.getLast?, e.ends = false)
    {e : UpstreamEvent} : ∀ e' ∈ log.getLast?, Pauses e' e :=
  fun e' he' hends => absurd hends (by simp [h e' he'])

/-- A failed attempt leaves the slot empty. -/
theorem SlotInv.fail (h : SlotInv json log s)
    (hlast : ∀ e ∈ log.getLast?, e.ends = false) (hslot : s.slot = none)
    (e : ProxyError) : SlotInv json (log ++ (s.fail e).2) (s.fail e).1 where
  slot _ conn := by simp [Upstream.fail, hslot]
  accepted conn := by simp [Upstream.fail]
  waits := isChain_concat h.waits (pauses_of_end hlast)
  follows := .inl (by simp [Upstream.fail])

theorem SlotInv.slot_eq_none (h : SlotInv json log s) (hstart : s.pc ≠ .start)
    (hpc : ∀ conn, s.pc ≠ .serving conn) : s.slot = none :=
  Option.eq_none_iff_forall_ne_some.2 fun conn hconn => hpc conn ((h.slot hstart conn).1 hconn)

/-- Every step of the loop keeps the slot and the waits. -/
theorem slotInv_step {l : UpstreamLabel} (h : SlotInv json log s)
    (hstep : s.step json l = some (t, es)) : SlotInv json (log ++ es) t := by
  have hfollows := h.follows
  unfold Upstream.step at hstep
  split at hstep
  case h_9 => cases hstep
  all_goals
    rename_i hpc
    rw [hpc] at hfollows
  case h_1 =>
    cases hstep
    rw [List.append_nil]
    exact ⟨by simp, by simp, h.waits, .inr hfollows⟩
  case h_8 =>
    cases hstep
    exact ⟨by simp, by simp, isChain_concat h.waits (pauses_of_end hfollows), .inl (by simp)⟩
  -- everywhere else the slot is empty
  all_goals have hslot := h.slot_eq_none (by simp [hpc]) (by simp [hpc])
  case h_2 =>
    split_ifs at hstep with hzero hjitter <;> cases hstep <;> rw [List.append_nil]
    · obtain rfl : log = [] := hfollows.resolve_left (by simp [hzero])
      exact ⟨by simp [hslot], by simp, h.waits, by simp [LogEnd]⟩
    · exact ⟨by simp [hslot], by simp, h.waits, calculateBackoff_bounds hjitter⟩
  case h_3 =>
    cases hstep
    refine ⟨by simp [hslot], by simp, ?_, by simp [LogEnd, UpstreamEvent.ends]⟩
    exact isChain_concat h.waits fun e he _ => ⟨_, rfl, hfollows⟩
  case h_4 =>
    cases hstep
    rw [List.append_nil]
    exact ⟨by simp [hslot], by simp, h.waits, hfollows⟩
  case h_5 =>
    split at hstep <;> cases hstep
    case h_1 hok =>
      refine ⟨by simp, ?_, isChain_concat h.waits (pauses_of_end hfollows), ?_⟩
      · rintro _ ⟨⟩
        exact ⟨_, by simp, hok⟩
      · simp [LogEnd, UpstreamEvent.ends]
    case h_2 e _ => exact h.fail hfollows hslot e
  all_goals
    cases hstep
    exact h.fail hfollows hslot _

/-- **A bridge's slot holds the connection that is served, or nothing.** Once the loop has cleared
the slot: it is filled exactly while the loop serves its connection, whose handshake the other
server accepted in this run; and every failed attempt and lost connection is followed by a wait of
one second to 61. -/
theorem upstream_slot_served {ls : List UpstreamLabel} (hs : (bridgeUpstream json).init s)
    (hrun : (bridgeUpstream json).run s ls = some (t, log)) :
    (t.pc ≠ .start → ∀ conn, t.slot = some conn ↔ t.pc = .serving conn) ∧
    (∀ conn, t.pc = .serving conn →
      ∃ bytes, .up conn bytes ∈ log ∧ bridgeHandshake json bytes = .ok ()) ∧
    log.IsChain Pauses := by
  have hpc : s.pc = .start := hs
  have hstart : SlotInv json [] s := ⟨by simp [hpc], by simp [hpc], .nil, by simp [LogEnd, hpc]⟩
  have h := (bridgeUpstream json).log_rule
    (fun _ _ _ _ _ h hstep => slotInv_step h hstep) hstart hrun
  exact ⟨h.slot, h.accepted, h.waits⟩

end

/-- The first attempt fails; the second comes up, over the slot of an earlier run. -/
def secondAttempt : List UpstreamLabel :=
  [.begin, .next 0, .connect (.error (.network "refused")), .next 100, .slept, .connect (.ok ()),
    .response (.ok [0, 0, 0, 1, 0])]

theorem upstream_slot_served_second : ∃ t log,
    (bridgeUpstream (oneResponseJson (.acceptedWith 0 {}))).run { slot := some 9 } secondAttempt =
      some (t, log) ∧ t.slot = some 0 ∧ t.pc = .serving 0 ∧ log.IsChain Pauses := by
  have hs : (bridgeUpstream (oneResponseJson (.acceptedWith 0 {}))).init { slot := some 9 } := rfl
  have hrun : (bridgeUpstream (oneResponseJson (.acceptedWith 0 {}))).run { slot := some 9 }
      secondAttempt = some _ := rfl
  exact ⟨_, _, hrun, rfl, rfl, (upstream_slot_served hs hrun).2.2⟩

end Flextunnel.Analysis
