import Flextunnel.Model.ClientSteps

/-!
# When a client reports a duplicate server

The tracker keeps the distinct nonces it saw and the last one (`Tracks`). That is enough to decide a
property of the whole sequence: whether some nonce came back after a different one (`Reappears`).
-/

set_option autoImplicit false

namespace Flextunnel.Analysis

open Lib Model

def observed (nonces : List Nonce) : ServerNonceTracker × Bool :=
  nonces.foldl (fun s nonce =>
    let seen := observeServerNonce s.1 s.2 nonce
    (seen.1, seen.2.1)) ({}, false)

def reports (nonces : List Nonce) (nonce : Nonce) : Bool :=
  (observeServerNonce (observed nonces).1 (observed nonces).2 nonce).2.2

def Reappears (nonces : List Nonce) (m : Nat) : Prop :=
  m < nonces.length ∧
    ∃ i j, i < j ∧ j < m ∧ nonces[i]? = nonces[m]? ∧ nonces[j]? ≠ nonces[i]?

/-! ## The tracker -/

theorem observed_concat (nonces : List Nonce) (nonce : Nonce) :
    observed (nonces ++ [nonce]) =
      ((observeServerNonce (observed nonces).1 (observed nonces).2 nonce).1,
        (observeServerNonce (observed nonces).1 (observed nonces).2 nonce).2.1) := by
  rw [observed, List.foldl_append]
  rfl

structure Tracks (nonces : List Nonce) (t : ServerNonceTracker) : Prop where
  history : ∀ n, n ∈ t.history ↔ n ∈ nonces
  last : t.last = nonces.getLast?

variable {nonces : List Nonce} {nonce : Nonce} {ctx : ClientCtx} {s : Client}

/-- An observation keeps the tracker in step with the sequence. -/
theorem tracks_concat {t : ServerNonceTracker} (h : Tracks nonces t) (duplicate : Bool)
    (nonce : Nonce) : Tracks (nonces ++ [nonce]) (observeServerNonce t duplicate nonce).1 := by
  have hlast : (nonces ++ [nonce]).getLast? = some nonce := by simp
  have hadded (n : Nonce) : n ∈ t.history ++ [nonce] ↔ n ∈ nonces ++ [nonce] := by
    simp [h.history]
  have hkept (hseen : nonce ∈ t.history) (n : Nonce) : n ∈ t.history ↔ n ∈ nonces ++ [nonce] := by
    rw [← hadded, List.mem_append, List.mem_singleton]
    exact ⟨.inl, fun hn => hn.elim id fun heq => heq ▸ hseen⟩
  unfold observeServerNonce
  split
  next last heq =>
    split
    next hsame =>
      subst hsame
      have hold : last ∈ nonces := List.mem_of_getLast? (h.last ▸ heq)
      exact ⟨hkept ((h.history last).2 hold), by rw [heq, hlast]⟩
    · split
      next hseen => exact ⟨hkept hseen, hlast.symm⟩
      · exact ⟨hadded, hlast.symm⟩
  · exact ⟨hadded, hlast.symm⟩

theorem tracks_observed (nonces : List Nonce) : Tracks nonces (observed nonces).1 := by
  induction nonces using List.reverseRecOn with
  | nil => exact ⟨fun n => Iff.rfl, rfl⟩
  | append_singleton nonces nonce ih =>
    rw [observed_concat]
    exact tracks_concat ih _ _

/-- An observation raises the flag when its nonce came back. -/
theorem observeServerNonce_flag {t : ServerNonceTracker} (h : Tracks nonces t) (duplicate : Bool)
    (nonce : Nonce) : let back := nonce ∈ nonces ∧ nonces.getLast? ≠ some nonce
    ((observeServerNonce t duplicate nonce).2.1 = true ↔ duplicate = true ∨ back) ∧
      ((observeServerNonce t duplicate nonce).2.2 = true ↔ duplicate = false ∧ back) := by
  intro back
  have hback : back ↔ nonce ∈ t.history ∧ t.last ≠ some nonce := by rw [h.history, h.last]
  rw [hback]
  unfold observeServerNonce
  split
  next last heq =>
    split
    next hsame => simp [heq, hsame]
    next hdiff =>
      split
      next hseen => simp [heq, hdiff, hseen]
      next hnew => simp [hnew]
  next heq =>
    have hempty : nonce ∉ t.history := by
      have hnil : nonces = [] := List.getLast?_eq_none_iff.1 (h.last.symm.trans heq)
      rw [h.history, hnil]
      exact List.not_mem_nil
    simp [hempty]

/-! ## The whole sequence -/

/-- Whether a nonce reappears is a matter of the observations up to it. -/
theorem Reappears.congr {nonces' : List Nonce} {m : Nat}
    (hget : ∀ i ≤ m, nonces[i]? = nonces'[i]?) (h : Reappears nonces m) : Reappears nonces' m := by
  obtain ⟨hlen, i, j, hij, hjm, hsame, hdiff⟩ := h
  rw [hget i (by omega), hget m le_rfl] at hsame
  rw [hget j (by omega), hget i (by omega)] at hdiff
  have hlen' := List.getElem?_eq_some_iff.1
    ((hget m le_rfl).symm.trans (List.getElem?_eq_getElem hlen))
  exact ⟨hlen'.1, i, j, hij, hjm, hsame, hdiff⟩

theorem reappears_concat_of_lt {m : Nat} (hm : m < nonces.length) :
    Reappears (nonces ++ [nonce]) m ↔ Reappears nonces m := by
  have hget (i : Nat) (hi : i ≤ m) : (nonces ++ [nonce])[i]? = nonces[i]? :=
    List.getElem?_append_left (by omega)
  exact ⟨.congr hget, .congr fun i hi => (hget i hi).symm⟩

theorem reappears_of_back (hmem : nonce ∈ nonces) (hlast : nonces.getLast? ≠ some nonce) :
    Reappears (nonces ++ [nonce]) nonces.length := by
  obtain ⟨i, hi⟩ := List.mem_iff_getElem?.1 hmem
  have hlen : i < nonces.length := (List.getElem?_eq_some_iff.1 hi).1
  rw [List.getLast?_eq_getElem?] at hlast
  have hij : i ≠ nonces.length - 1 := by
    rintro rfl
    exact hlast hi
  refine ⟨by simp, i, nonces.length - 1, by omega, by omega, ?_, ?_⟩
  · rw [List.getElem?_append_left hlen, hi, List.getElem?_concat_length]
  · rwa [List.getElem?_append_left (by omega), List.getElem?_append_left hlen, hi]

/-- A nonce that comes back by a repetition, which the code skips, had come back before. -/
theorem reappears_of_repeated (hlast : nonces.getLast? = some nonce)
    (h : Reappears (nonces ++ [nonce]) nonces.length) : Reappears nonces (nonces.length - 1) := by
  obtain ⟨-, i, j, hij, hj, hsame, hdiff⟩ := h
  rw [List.getLast?_eq_getElem?] at hlast
  rw [List.getElem?_append_left (by omega), List.getElem?_concat_length] at hsame
  rw [List.getElem?_append_left (by omega), List.getElem?_append_left (by omega), hsame] at hdiff
  have hne : j ≠ nonces.length - 1 := by
    rintro rfl
    exact hdiff hlast
  refine ⟨by omega, i, j, hij, by omega, ?_, ?_⟩
  · rw [hsame, hlast]
  · rwa [hsame]

theorem reappears_last (hnew : ∀ m < nonces.length, ¬ Reappears nonces m) :
    Reappears (nonces ++ [nonce]) nonces.length ↔
      nonce ∈ nonces ∧ nonces.getLast? ≠ some nonce := by
  constructor
  · intro h
    constructor
    · obtain ⟨-, i, j, hij, hj, hsame, -⟩ := h
      rw [List.getElem?_append_left (by omega), List.getElem?_concat_length] at hsame
      exact List.mem_of_getElem? hsame
    · intro hlast
      have hearlier := reappears_of_repeated hlast h
      exact hnew _ hearlier.1 hearlier
  · rintro ⟨hmem, hlast⟩
    exact reappears_of_back hmem hlast

/-- The flag is up once some nonce came back. -/
theorem flag_iff_reappears (nonces : List Nonce) :
    (observed nonces).2 = true ↔ ∃ m < nonces.length, Reappears nonces m := by
  induction nonces using List.reverseRecOn with
  | nil => simp [observed]
  | append_singleton nonces nonce ih =>
    have hflag := (observeServerNonce_flag (tracks_observed nonces) (observed nonces).2 nonce).1
    rw [observed_concat, hflag, ih]
    constructor
    · rintro (⟨m, hm, h⟩ | ⟨hmem, hlast⟩)
      · exact ⟨m, by rw [List.length_append]; omega, (reappears_concat_of_lt hm).2 h⟩
      · exact ⟨nonces.length, by simp, reappears_of_back hmem hlast⟩
    rintro ⟨m, hm, h⟩
    by_cases hold : ∃ m < nonces.length, Reappears nonces m
    · exact .inl hold
    have hnew : ∀ m < nonces.length, ¬ Reappears nonces m :=
      fun m hm h => hold ⟨m, hm, h⟩
    have hend : m = nonces.length := by
      by_contra hne
      rw [List.length_append, List.length_singleton] at hm
      have hlt : m < nonces.length := by omega
      exact hnew m hlt ((reappears_concat_of_lt hlt).1 h)
    rw [hend] at h
    exact .inr ((reappears_last hnew).1 h)

theorem reappears_take {k m : Nat} (hm : m < k) :
    Reappears (nonces.take k) m ↔ Reappears nonces m := by
  have hget (i : Nat) (hi : i ≤ m) : (nonces.take k)[i]? = nonces[i]? :=
    List.getElem?_take_of_lt (by omega)
  exact ⟨.congr hget, .congr fun i hi => (hget i hi).symm⟩

/-- The observation that returns `true` is the first at which a nonce came back. -/
theorem reports_iff {m : Nat} (hm : nonces[m]? = some nonce) :
    reports (nonces.take m) nonce = true ↔
      Reappears nonces m ∧ ∀ m' < m, ¬ Reappears nonces m' := by
  have hlen : m < nonces.length := (List.getElem?_eq_some_iff.1 hm).1
  have htake : (nonces.take m).length = m := by rw [List.length_take]; omega
  have hnext : nonces.take m ++ [nonce] = nonces.take (m + 1) := by
    rw [List.take_add_one, hm]
    rfl
  have hflag := flag_iff_reappears (nonces.take m)
  have hreport :=
    (observeServerNonce_flag (tracks_observed (nonces.take m)) (observed (nonces.take m)).2 nonce).2
  rw [reports, hreport, ← Bool.not_eq_true, hflag, htake]
  have hnone : (¬ ∃ m' < m, Reappears (nonces.take m) m') ↔ ∀ m' < m, ¬ Reappears nonces m' := by
    constructor
    · intro h m' hm' hback
      exact h ⟨m', hm', (reappears_take hm').2 hback⟩
    · rintro h ⟨m', hm', hback⟩
      exact h m' hm' ((reappears_take hm').1 hback)
  rw [hnone]
  constructor
  · rintro ⟨hfirst, hmem, hlast⟩
    have hback := reappears_of_back hmem hlast
    rw [htake, hnext] at hback
    exact ⟨(reappears_take (by omega)).1 hback, hfirst⟩
  rintro ⟨hback, hfirst⟩
  refine ⟨hfirst, ?_⟩
  have hnew : ∀ m' < (nonces.take m).length, ¬ Reappears (nonces.take m) m' := by
    rw [htake]
    exact fun m' hm' h => hfirst m' hm' ((reappears_take hm').1 h)
  apply (reappears_last hnew).1
  rw [htake, hnext]
  exact (reappears_take (by omega)).2 hback

/-- **A duplicate server is reported exactly when a nonce came back after a different one**, by the
first observation that completes the pattern; a server whose nonce only ever changes to a fresh one
is never reported. -/
theorem duplicate_server_reported (nonces : List Nonce) :
    (∀ k ≤ nonces.length, (observed (nonces.take k)).2 = true ↔ ∃ m < k, Reappears nonces m) ∧
    (∀ m nonce, nonces[m]? = some nonce →
      (reports (nonces.take m) nonce = true ↔
        Reappears nonces m ∧ ∀ m' < m, ¬ Reappears nonces m')) ∧
    ((∀ m nonce, nonces[m]? = some nonce → nonce ∈ nonces.take m →
        nonces[m - 1]? = some nonce) →
      ∀ m nonce, nonces[m]? = some nonce →
        reports (nonces.take m) nonce = false ∧ (observed (nonces.take (m + 1))).2 = false) := by
  have hflag : ∀ k ≤ nonces.length,
      (observed (nonces.take k)).2 = true ↔ ∃ m < k, Reappears nonces m := by
    intro k hk
    rw [flag_iff_reappears, List.length_take, Nat.min_eq_left hk]
    constructor
    · rintro ⟨m, hm, h⟩
      exact ⟨m, hm, (reappears_take hm).1 h⟩
    · rintro ⟨m, hm, h⟩
      exact ⟨m, hm, (reappears_take hm).2 h⟩
  refine ⟨hflag, fun m nonce => reports_iff, ?_⟩
  intro hfresh
  -- a nonce that never comes back stays the same up to its last observation
  have hnever : ∀ m, ¬ Reappears nonces m := by
    intro m
    induction m with
    | zero =>
      rintro ⟨-, i, j, -, hj, -⟩
      omega
    | succ m ih =>
      rintro ⟨hlen, i, j, hij, hj, hsame, hdiff⟩
      have hget : nonces[m + 1]? = some nonces[m + 1] := List.getElem?_eq_getElem hlen
      have hmem : nonces[m + 1] ∈ nonces.take (m + 1) := by
        apply List.mem_of_getElem? (i := i)
        rw [List.getElem?_take_of_lt (by omega), hsame, hget]
      have hprev := hfresh (m + 1) _ hget hmem
      rw [Nat.add_sub_cancel] at hprev
      have hne : j ≠ m := by
        rintro rfl
        exact hdiff (by rw [hprev, hsame, hget])
      exact ih ⟨by omega, i, j, hij, by omega, by rw [hsame, hget, hprev], hdiff⟩
  intro m nonce hm
  have hlen : m < nonces.length := (List.getElem?_eq_some_iff.1 hm).1
  constructor
  · rw [← Bool.not_eq_true, reports_iff hm]
    exact fun h => hnever m h.1
  · rw [← Bool.not_eq_true, hflag (m + 1) hlen]
    rintro ⟨m', -, h⟩
    exact hnever m' h

example : (observed [1, 2, 2, 1]).2 = true ∧ (observed [1, 1, 2, 3]).2 = false := by decide

/-! ## The client -/

def FromObservations (s : Client) : Prop :=
  ∃ nonces, observed nonces = (s.tracker, s.duplicateServer)

theorem fromObservations_handshake (bytes : List UInt8) (h : FromObservations s) :
    FromObservations (s.handshake ctx bytes).1 := by
  obtain ⟨nonces, hnonces⟩ := h
  unfold Client.handshake
  split
  · exact ⟨nonces, hnonces⟩
  next response rest hread =>
    have hseen : observed (nonces ++ [response.serverInstanceNonce]) = _ :=
      observed_concat nonces response.serverInstanceNonce
    rw [hnonces] at hseen
    dsimp only
    repeat' split
    all_goals exact ⟨_, hseen⟩

theorem fromObservations_handleFailure {t : Client} {e : ProxyError} {jitterMs : Nat}
    {es : List ClientEvent} (h : FromObservations s)
    (hfail : s.handleFailure ctx e jitterMs = (t, es)) : FromObservations t := by
  obtain ⟨attempt, pc, reconnect, heq, -⟩ := s.handleFailure_cases ctx e jitterMs
  cases hfail.symm.trans heq
  exact h

/-- Every step of the manager observes at most one nonce. -/
theorem fromObservations_managerStep {t : Client} {l : ManagerLabel} {es : List ClientEvent}
    (h : FromObservations s) (hstep : ManagerStep ctx s l t es) : FromObservations t := by
  cases hstep with
  | failed hfail _ hresult =>
    refine fromObservations_handleFailure ?_ hresult
    cases hfail with
    | response _ _ => exact fromObservations_handshake _ h
    | _ => exact h
  | accepted _ _ => exact fromObservations_handshake _ h
  | _ => exact h

/-- **What a client knows of its server is what its handshakes observed**: in every run of
a new client, the flag and the tracker are those of some sequence of nonces. -/
theorem fromObservations_of_run {t : Client} {ls : List ClientLabel} {log : List ClientEvent}
    (hnew : s.tracker = {} ∧ s.duplicateServer = false)
    (hrun : (proxyClient ctx).run s ls = some (t, log)) : FromObservations t := by
  refine (proxyClient ctx).invariant_rule (P := FromObservations) ?_ ⟨[], ?_⟩ hrun
  · intro s l t es hs hstep
    cases clientStep_of_step hstep with
    | manager h => exact fromObservations_managerStep hs h
    | aside | aborted => exact hs
  · rw [hnew.1, hnew.2]
    rfl

end Flextunnel.Analysis
