import Flextunnel.Model.Listeners

/-!
# When a listener is bound again

An accept that fails says little by itself: a peer that gave up and a dead socket give the same
error. `AcceptRetry` counts the aborted accepts in a row and gives the listener up at the fourth;
everything else that it is told, a success, a new socket or another error, starts the count again.

`consecutiveAborts_after` reads the counter off the history, and `rebinds_iff` is what follows for
the next error.
-/

set_option autoImplicit false

namespace Flextunnel.Analysis

open Lib Model

/-! ## What the counter is told -/

inductive AcceptCall where
  | success
  | error (e : ListenError)
  | rebind
  | wait
deriving DecidableEq, Repr

/-- SOURCE: core/proxy/client.rs:1314-1372 -/
def AcceptCall.feed (retry : AcceptRetry) : AcceptCall → AcceptRetry
  | .success | .rebind => .reset
  | .error e => (retry.recordError e).1
  | .wait => retry.waitRetry

def AcceptCall.after (history : List AcceptCall) : AcceptRetry := history.foldl AcceptCall.feed {}

def AcceptCall.aborts : AcceptCall → Bool
  | .error e => classifyAcceptError e = .aborted
  | _ => false

def AcceptCall.results (history : List AcceptCall) : List AcceptCall :=
  history.filter fun call => call ≠ .wait

/-! ## The counter -/

theorem recordError_consecutiveAborts (retry : AcceptRetry) (e : ListenError) :
    (retry.recordError e).1.consecutiveAborts =
      if classifyAcceptError e = .aborted then retry.consecutiveAborts + 1 else 0 := rfl

/-- A rebind is asked for a broken listener, or at the limit. -/
theorem recordError_eq_rebind_iff (retry : AcceptRetry) (e : ListenError) :
    (retry.recordError e).2 = .rebind ↔ classifyAcceptError e = .broken ∨
      rebindAfterConsecutiveAborts ≤ (retry.recordError e).1.consecutiveAborts := by
  have hne : AcceptOutcome.rebind ≠ .retry := by decide
  exact hne.ite_eq_left_iff

/-- **The counter is the number of aborts since the last result of another kind.** -/
theorem consecutiveAborts_after (history : List AcceptCall) :
    (AcceptCall.after history).consecutiveAborts =
      (afterLast (fun call => !call.aborts) (AcceptCall.results history)).length := by
  induction history using List.reverseRecOn with
  | nil => rfl
  | append_singleton history call ih =>
    have hafter : AcceptCall.after (history ++ [call]) =
        call.feed (AcceptCall.after history) := by simp [AcceptCall.after]
    rw [hafter]
    by_cases hwait : call = .wait
    · subst hwait
      simpa [AcceptCall.results, AcceptCall.feed, AcceptRetry.waitRetry] using ih
    have hresults : AcceptCall.results (history ++ [call]) =
        AcceptCall.results history ++ [call] := by simp [AcceptCall.results, hwait]
    rw [hresults, afterLast_concat]
    cases call with
    | success => rfl
    | rebind => rfl
    | wait => exact absurd rfl hwait
    | error e =>
      rw [AcceptCall.feed, recordError_consecutiveAborts, ih]
      by_cases habort : classifyAcceptError e = .aborted <;> simp [AcceptCall.aborts, habort]

/-- The source's counter is a `u64`, which does not wrap within `2 ^ 64` calls. -/
theorem consecutiveAborts_le (history : List AcceptCall) :
    (AcceptCall.after history).consecutiveAborts ≤ history.length := by
  rw [consecutiveAborts_after]
  exact (afterLast_suffix _ _).length_le.trans (List.length_filter_le _ _)

/-- **A listener is bound again when it is broken, or at the fourth abort in a row.** After any
calls, `record_error` asks for a rebind exactly if its error is one of a broken listener, or an
abort with three results before it that are all aborts. No descriptors left starts the count again.
-/
theorem rebinds_iff (history : List AcceptCall) (e : ListenError) :
    (((AcceptCall.after history).recordError e).2 = .rebind ↔
      classifyAcceptError e = .broken ∨
        classifyAcceptError e = .aborted ∧ ∃ earlier recent,
          AcceptCall.results history = earlier ++ recent ∧
            recent.length = rebindAfterConsecutiveAborts - 1 ∧ ∀ r ∈ recent, r.aborts = true) ∧
    (e.noDescriptors = true →
      ((AcceptCall.after history).recordError e).2 = .retry ∧
        ((AcceptCall.after history).recordError e).1.consecutiveAborts = 0) := by
  constructor
  · rw [recordError_eq_rebind_iff, recordError_consecutiveAborts, consecutiveAborts_after]
    refine or_congr_right ?_
    by_cases habort : classifyAcceptError e = .aborted
    · rw [if_pos habort, and_iff_right habort]
      have hlast := le_length_afterLast_iff (fun call => !call.aborts)
        (AcceptCall.results history) (rebindAfterConsecutiveAborts - 1)
      simp only [Bool.not_eq_false'] at hlast
      rw [← hlast]
      simp only [rebindAfterConsecutiveAborts]
      omega
    · simp [habort, rebindAfterConsecutiveAborts]
  intro hnone
  have hpressure : classifyAcceptError e = .resourcePressure := by
    simp [classifyAcceptError, hnone]
  have hzero : ((AcceptCall.after history).recordError e).1.consecutiveAborts = 0 := by
    simp [recordError_consecutiveAborts, hpressure]
  refine ⟨?_, hzero⟩
  cases hout : ((AcceptCall.after history).recordError e).2 with
  | retry => rfl
  | rebind =>
    rw [recordError_eq_rebind_iff, hpressure, hzero] at hout
    simp [rebindAfterConsecutiveAborts] at hout

end Flextunnel.Analysis
