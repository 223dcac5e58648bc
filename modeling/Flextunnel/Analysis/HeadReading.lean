import Flextunnel.Model.HttpExchange

/-!
# What the HTTP front-end reads and writes

A head ends with the first blank line (`IsHead`). The front-end takes a head off the stream and
not a byte more, if the head ends within the size cap; otherwise it takes as many bytes as the cap
allows, or all there are.
-/

set_option autoImplicit false

namespace Flextunnel.Analysis

open Lib Lib.Reader Model

def IsHead (head : List UInt8) : Prop :=
  [13, 10, 13, 10] <:+ head ∧ ∀ pre, pre <+: head → [13, 10, 13, 10] <:+ pre → pre = head

def Open (head : List UInt8) : Prop := ∀ pre, pre <+: head → ¬ [13, 10, 13, 10] <:+ pre

theorem open_nil : Open [] := by
  intro pre hpre hend
  rw [List.prefix_nil.1 hpre] at hend
  exact absurd hend.length_le (by decide)

theorem Open.append {head : List UInt8} (h : Open head) {b : UInt8}
    (hend : ¬ [13, 10, 13, 10] <:+ head ++ [b]) : Open (head ++ [b]) := by
  intro pre hpre
  rcases List.prefix_concat_iff.1 hpre with rfl | hpre
  · exact hend
  · exact h pre hpre

/-- A head within the cap is read, and nothing behind it. -/
theorem headLoop_of_isHead {head pre rest : List UInt8} (hopen : Open head)
    (hhead : IsHead (head ++ pre)) (hlen : (head ++ pre).length ≤ maxHttpHeader) :
    headLoop head (pre ++ rest) = (.ok (head ++ pre), rest) := by
  induction pre generalizing head with
  | nil =>
    rw [List.append_nil] at hhead
    exact absurd hhead.1 (hopen head List.prefix_rfl)
  | cons b pre ih =>
    have hmore : head ++ b :: pre = head ++ [b] ++ pre := by simp
    rw [hmore] at hhead hlen ⊢
    rw [List.cons_append, headLoop]
    split
    next hend =>
      -- the first blank line ends the head
      have hsame := hhead.2 _ (List.prefix_append _ _) (List.isSuffixOf_iff_suffix.1 hend)
      obtain rfl : pre = [] := List.self_eq_append_right.1 hsame
      simp
    next hend =>
      rw [List.isSuffixOf_iff_suffix] at hend
      have hroom : ¬ maxHttpHeader ≤ (head ++ [b]).length := by
        intro hfull
        rw [List.length_append] at hlen
        obtain rfl : pre = [] := List.eq_nil_of_length_eq_zero (by omega)
        rw [List.append_nil] at hhead
        exact hend hhead.1
      rw [if_neg hroom]
      exact ih (hopen.append hend) hhead hlen

/-- Without one the loop reads up to the cap or to the end of the stream. -/
theorem headLoop_of_no_head {head bytes : List UInt8} (hopen : Open head)
    (hroom : head.length < maxHttpHeader)
    (hnone : ∀ pre rest, bytes = pre ++ rest → IsHead (head ++ pre) →
      maxHttpHeader < (head ++ pre).length) :
    headLoop head bytes =
      (.error (if maxHttpHeader ≤ head.length + bytes.length then .oversized else .eof),
        bytes.drop (maxHttpHeader - head.length)) := by
  induction bytes generalizing head with
  | nil =>
    rw [List.length_nil, if_neg (by omega), List.drop_nil]
    rfl
  | cons b bytes ih =>
    have hend : ¬ [13, 10, 13, 10] <:+ head ++ [b] := by
      intro hend
      have hhead : IsHead (head ++ [b]) := by
        refine ⟨hend, fun pre hpre hpreEnd => ?_⟩
        rcases List.prefix_concat_iff.1 hpre with rfl | hpre
        · rfl
        · exact absurd hpreEnd (hopen pre hpre)
      have hlong := hnone [b] bytes rfl hhead
      rw [List.length_append, List.length_singleton] at hlong
      omega
    rw [headLoop, if_neg (by rwa [List.isSuffixOf_iff_suffix])]
    rw [List.length_append, List.length_singleton, List.length_cons]
    split
    next hfull =>
      have hone : maxHttpHeader - head.length = 1 := by omega
      rw [if_pos (by omega), hone]
      rfl
    next hmore =>
      have hnone' : ∀ pre rest, bytes = pre ++ rest → IsHead (head ++ [b] ++ pre) →
          maxHttpHeader < (head ++ [b] ++ pre).length := by
        intro pre rest hbytes hhead
        rw [List.append_assoc] at hhead ⊢
        exact hnone (b :: pre) rest (by rw [hbytes]; rfl) hhead
      have hloop := ih (hopen.append hend) (by simp; omega) hnone'
      have hdrop : maxHttpHeader - head.length = maxHttpHeader - (head.length + 1) + 1 := by omega
      rw [hloop, hdrop, List.drop_succ_cons, List.length_append, List.length_singleton]
      rw [Nat.add_right_comm, Nat.add_assoc]

/-! ## Rejections -/

theorem headerLine_ne_eof {line : List UInt8} : headerLine line ≠ .error .eof := by
  unfold headerLine
  split
  · exact nofun
  split
  · exact nofun
  split
  · exact nofun
  · dsimp only
    split <;> exact nofun

theorem rewriteForward_ne_eof {method requestTarget version : String} {block : List UInt8} :
    rewriteForward method requestTarget version block ≠ .error .eof := by
  unfold rewriteForward
  split
  · split <;> exact nofun
  dsimp only
  split
  · exact nofun
  split
  · exact nofun
  intro h
  rcases bind_eq_error.1 h with h | ⟨headers, -, h⟩
  · obtain ⟨line, -, hline⟩ := exists_of_mapM_eq_error h
    exact headerLine_ne_eof hline
  · cases h

theorem parseRequest_ne_eof {line : String} {block : List UInt8} :
    parseRequest line block ≠ .error .eof := by
  unfold parseRequest
  split
  · split
    · exact nofun
    split
    · exact nofun
    split
    · split <;> exact nofun
    · intro h
      exact rewriteForward_ne_eof (map_eq_error.1 h)
  · exact nofun

/-- Every rejection of a head writes one response. -/
theorem responses_of_parseHead {head : List UInt8} {e : HttpError} (h : parseHead head = .error e) :
    ∃ code reason, e.responses = [httpError code reason] := by
  have hne : e ≠ .eof := by
    rintro rfl
    unfold parseHead at h
    dsimp only at h
    split at h
    · cases h
    · split at h
      · cases h
      · exact parseRequest_ne_eof h
  cases e with
  | eof => exact absurd rfl hne
  | _ => exact ⟨_, _, rfl⟩

/-- **The HTTP front-end reads a head and nothing after it, and answers what it rejects once.** -/
theorem head_read_and_answered (bytes : List UInt8) :
    (∀ head rest, bytes = head ++ rest → IsHead head → head.length ≤ maxHttpHeader →
      ∃ socket, readRequestOn.run.run ⟨bytes, []⟩ = (parseHead head, socket) ∧
        socket.rest = rest ∧
        (∀ request, parseHead head = .ok request → socket.written = []) ∧
        ∀ e, parseHead head = .error e →
          ∃ code reason, socket.written = [httpError code reason]) ∧
    ((∀ head rest, bytes = head ++ rest → IsHead head → maxHttpHeader < head.length) →
      (maxHttpHeader ≤ bytes.length → readRequestOn.run.run ⟨bytes, []⟩ =
        (.error .oversized, ⟨bytes.drop maxHttpHeader, [httpError 400 "Bad Request"]⟩)) ∧
      (bytes.length < maxHttpHeader →
        readRequestOn.run.run ⟨bytes, []⟩ = (.error .eof, ⟨[], []⟩))) := by
  constructor
  · rintro head rest rfl hhead hlen
    have hloop : headLoop [] (head ++ rest) = (.ok head, rest) :=
      headLoop_of_isHead open_nil hhead hlen
    refine ⟨(⟨rest, []⟩ : HttpSocket).answer (parseHead head), ?_, ?_, ?_, ?_⟩
    · rw [readRequestOn_run, hloop]
    · cases parseHead head <;> rfl
    · intro request hrequest
      rw [hrequest]
      rfl
    · intro e he
      rw [he]
      exact responses_of_parseHead he
  intro hnone
  have hroom : ([] : List UInt8).length < maxHttpHeader := by decide
  have hloop := headLoop_of_no_head open_nil hroom hnone
  rw [List.length_nil, Nat.zero_add, Nat.sub_zero] at hloop
  constructor
  · intro hlong
    rw [readRequestOn_run, hloop, if_pos hlong]
    rfl
  · intro hshort
    rw [readRequestOn_run, hloop, if_neg (by omega), List.drop_eq_nil_of_le (by omega)]
    exact congrArg (Prod.mk _) (HttpSocket.answer_eof _)

end Flextunnel.Analysis
