import Flextunnel.Model.AtomicWrite

/-!
# The blocklist file is always complete

A call of `write_atomic` is alone with its temporary file, as long as running processes have
different numbers (`FreshPid`): no other call that is under way has its name. So what is renamed is
the whole document of the call.
-/

set_option autoImplicit false

namespace Flextunnel.Analysis

open Lib Model

/-- The temporary file has what the call has written so far; a call that is about to return `Ok` has
put its document in place. -/
def HasWritten (log : List DirEvent) (temps : TempName → Option (List UInt8)) (w : Writer) : Prop :=
  match w.pc with
  | .writing k => temps w.tmp = some (w.json.take k)
  | .renaming => temps w.tmp = some w.json
  | .returning true => .replaced w.call w.json ∈ log
  | _ => True

/-- The running processes have numbers of their own, and the calls under way have temporary files of
their own, with what they have written. -/
structure Separate (log : List DirEvent) (s : BlocklistDir) : Prop where
  pids : ∀ p q x y, s.processes p = some x → s.processes q = some y → x.pid = y.pid → p = q
  names : (s.calls.map Writer.tmp).Nodup
  live : ∀ w ∈ s.calls, ∃ x, s.processes w.process = some x ∧ x.pid = w.tmp.pid ∧ w.tmp.seq < x.seq
  contents : ∀ w ∈ s.calls, HasWritten log s.temps w
  returned : ∀ call json, .returned call json true ∈ log → .replaced call json ∈ log

/-- What the renames have made of the file, one after the other. -/
def replacedBy (file : Disk (List UInt8)) (log : List DirEvent) : Disk (List UInt8) :=
  log.foldl (fun file e => match e with
    | .replaced _ json => .present json
    | .returned .. => file) file

section

variable {s t : BlocklistDir} {i : Nat} {w : Writer} {pc : WriterPc}
  {temps : TempName → Option (List UInt8)} {es log : List DirEvent} {file : Disk (List UInt8)}

theorem HasWritten.frame (h : HasWritten log temps w) {temps' : TempName → Option (List UInt8)}
    (htemps : temps' w.tmp = temps w.tmp) : HasWritten (log ++ es) temps' w := by
  unfold HasWritten at h ⊢
  rw [htemps]
  split at h <;> simp_all

/-- What a call does to its own temporary file is no other call's concern. -/
theorem Separate.other (h : Separate log s) {j : Nat} {v : Writer} (hi : s.calls[i]? = some w)
    (hj : s.calls[j]? = some v) (hne : j ≠ i)
    (htemps : ∀ tmp, tmp ≠ w.tmp → temps tmp = s.temps tmp) : HasWritten (log ++ es) temps v := by
  have hlt := (List.getElem?_eq_some_iff.1 hj).1
  refine (h.contents v (List.mem_of_getElem? hj)).frame (htemps _ fun htmp => hne ?_)
  refine (List.getElem?_inj (by simpa using hlt) h.names).1 ?_
  rw [List.getElem?_map, List.getElem?_map, hi, hj, Option.map_some, Option.map_some, htmp]

theorem Separate.mem_replaced (h : Separate log s)
    (hes : ∀ call json, .returned call json true ∈ es → .replaced call json ∈ log) (call : Nat)
    (json : List UInt8) (hmem : .returned call json true ∈ log ++ es) :
    .replaced call json ∈ log ++ es := by
  rcases List.mem_append.1 hmem with hmem | hmem
  · exact List.mem_append_left _ (h.returned call json hmem)
  · exact List.mem_append_left _ (hes call json hmem)

/-- A call goes on, touching no temporary file but its own. -/
theorem Separate.moved (h : Separate log s) (hi : s.calls[i]? = some w)
    (htemps : ∀ tmp, tmp ≠ w.tmp → temps tmp = s.temps tmp)
    (hpc : HasWritten (log ++ es) temps { w with pc })
    (hes : ∀ call json, .returned call json true ∈ es → .replaced call json ∈ log) :
    Separate (log ++ es) { s with file, temps, calls := s.calls.set i { w with pc } } := by
  have hnames : (s.calls.set i { w with pc }).map Writer.tmp = s.calls.map Writer.tmp :=
    map_set_same hi rfl
  refine ⟨h.pids, hnames ▸ h.names, fun v hv => ?_, fun v hv => ?_, h.mem_replaced hes⟩
  · rcases List.mem_or_eq_of_mem_set hv with hv | rfl
    · exact h.live v hv
    · exact h.live w (List.mem_of_getElem? hi)
  obtain ⟨j, hj⟩ := List.mem_iff_getElem?.1 hv
  rcases getElem?_set_cases hj with ⟨-, rfl⟩ | ⟨hne, hj⟩
  · exact hpc
  · exact h.other hi hj hne htemps

/-- A call that returned `Ok` has put its document in place. -/
theorem Separate.finish (h : Separate log s) (hi : s.calls[i]? = some w) {ok : Bool}
    (hpc : w.pc = .returning ok) :
    Separate (log ++ [.returned w.call w.json ok]) { s with calls := s.calls.eraseIdx i } := by
  have hsub := List.eraseIdx_sublist s.calls i
  have hw := h.contents w (List.mem_of_getElem? hi)
  refine ⟨h.pids, h.names.sublist (hsub.map _), fun v hv => h.live v (hsub.subset hv),
    fun v hv => (h.contents v (hsub.subset hv)).frame rfl, h.mem_replaced fun call json hmem => ?_⟩
  cases List.mem_singleton.1 hmem
  simpa [HasWritten, hpc] using hw

/-- What a call does to the file system keeps the calls apart, and only a rename replaces the file.
-/
theorem io_step {op : FileOp} (h : Separate log s) (hi : s.calls[i]? = some w)
    (hstep : s.io i w op = some (t, es)) :
    Separate (log ++ es) t ∧ t.file = replacedBy s.file es := by
  have hw := h.contents w (List.mem_of_getElem? hi)
  have hupdate (contents : Option (List UInt8)) (tmp : TempName) (hne : tmp ≠ w.tmp) :
      Function.update s.temps w.tmp contents tmp = s.temps tmp :=
    Function.update_of_ne hne _ _
  unfold HasWritten at hw
  unfold BlocklistDir.io at hstep
  split at hstep
  case h_1 hpc =>
    cases hstep
    exact ⟨h.moved hi (hupdate _) (by simp [HasWritten, BlocklistDir.setTemp]) nofun, rfl⟩
  case h_2 k n hpc =>
    cases hstep
    rw [hpc] at hw
    refine ⟨h.moved hi (hupdate _) ?_ nofun, rfl⟩
    have hmore : (s.temps w.tmp).map (· ++ (w.json.drop k).take n) =
        some (w.json.take (k + n)) := by
      rw [hw, Option.map_some, List.take_add]
    simp only [BlocklistDir.setTemp, hmore]
    split
    · simp [HasWritten]
    · rename_i hle
      simp [HasWritten, List.take_of_length_le (Nat.not_lt.1 hle)]
  case h_3 hpc =>
    rw [hpc] at hw
    obtain ⟨contents, hc, heq⟩ := Option.map_eq_some_iff.1 hstep
    -- what is renamed is what this call wrote
    cases hw.symm.trans hc
    cases heq
    exact ⟨h.moved hi (hupdate _) (by simp [HasWritten]) (by simp), rfl⟩
  case h_4 ok hpc =>
    cases hstep
    cases ok with
    | true => exact ⟨h.moved hi (hupdate _) trivial nofun, rfl⟩
    | false => exact ⟨h.moved hi (fun _ _ => rfl) trivial nofun, rfl⟩
  case h_5 ok hpc =>
    cases hstep
    exact ⟨h.finish hi hpc, rfl⟩
  case h_9 => cases hstep
  all_goals
    cases hstep
    exact ⟨h.moved hi (fun _ _ => rfl) trivial nofun, rfl⟩

/-- The name of a new call is new. -/
theorem Separate.tmp_ne (h : Separate log s) {p : Nat} {x : Process}
    (hp : s.processes p = some x) : ⟨x.pid, x.seq⟩ ∉ s.calls.map Writer.tmp := by
  intro hmem
  obtain ⟨w, hw, htmp⟩ := List.mem_map.1 hmem
  obtain ⟨y, hy, hpid, hlt⟩ := h.live w hw
  rw [htmp] at hpid hlt
  cases h.pids _ _ _ _ hy hp hpid
  cases hy.symm.trans hp
  exact Nat.lt_irrefl _ hlt

/-- A process that starts, calls or ends leaves the numbers apart, if no other has its number. -/
theorem Separate.pids_update (h : Separate log s) {p : Nat} {y : Option Process}
    (hy : ∀ q, q ≠ p → ∀ x ∈ y, ∀ z ∈ s.processes q, z.pid ≠ x.pid) (q r : Nat) (x z : Process)
    (hq : Function.update s.processes p y q = some x)
    (hr : Function.update s.processes p y r = some z) (hpid : x.pid = z.pid) : q = r := by
  by_cases hqp : q = p <;> by_cases hrp : r = p
  · rw [hqp, hrp]
  · subst hqp
    rw [Function.update_self] at hq
    rw [Function.update_of_ne hrp] at hr
    exact absurd hpid.symm (hy r hrp x hq z hr)
  · subst hrp
    rw [Function.update_of_ne hqp] at hq
    rw [Function.update_self] at hr
    exact absurd hpid (hy q hqp z hr x hq)
  · rw [Function.update_of_ne hqp] at hq
    rw [Function.update_of_ne hrp] at hr
    exact h.pids q r x z hq hr hpid

/-- Every step does, if a process that starts has a number of its own. -/
theorem dir_step {l : DirLabel} (hl : FreshPid s l) (h : Separate log s)
    (hstep : s.step l = some (t, es)) :
    Separate (log ++ es) t ∧ t.file = replacedBy s.file es := by
  cases l with
  | start p pid =>
    obtain ⟨hfree, ⟨⟩⟩ := Option.ite_none_right_eq_some.1 hstep
    rw [List.append_nil]
    refine ⟨⟨?_, h.names, fun w hw => ?_, h.contents, h.returned⟩, rfl⟩
    · refine h.pids_update fun q _ x hx => ?_
      cases hx
      exact hl q
    obtain ⟨x, hx, hlt⟩ := h.live w hw
    have hne : w.process ≠ p := by
      rintro rfl
      cases hfree.symm.trans hx
    exact ⟨x, by simpa [hne] using hx, hlt⟩
  | crash p =>
    cases hstep
    have hsub := List.filter_sublist (p := fun w : Writer => w.process ≠ p) (l := s.calls)
    rw [List.append_nil]
    refine ⟨⟨?_, h.names.sublist (hsub.map _), fun w hw => ?_,
      fun w hw => h.contents w (hsub.subset hw), h.returned⟩, rfl⟩
    · exact h.pids_update fun _ _ _ hx => absurd hx (by simp)
    · obtain ⟨x, hx, hlt⟩ := h.live w (hsub.subset hw)
      have hne : w.process ≠ p := by simpa using (List.mem_filter.1 hw).2
      exact ⟨x, by simpa [hne] using hx, hlt⟩
  | call p json parent =>
    obtain ⟨x, hx, heq⟩ := Option.map_eq_some_iff.1 hstep
    cases parent with
    | false =>
      cases heq
      exact ⟨⟨h.pids, h.names, h.live, fun w hw => (h.contents w hw).frame rfl,
        h.mem_replaced (by simp)⟩, rfl⟩
    | true =>
      cases heq
      rw [List.append_nil]
      refine ⟨⟨?_, ?_, fun w hw => ?_, fun w hw => ?_, h.returned⟩, rfl⟩
      · refine h.pids_update fun q hq y hy z hz hpid => hq ?_
        cases hy
        exact h.pids q p z x hz hx hpid
      · rw [List.map_append]
        refine List.nodup_append.2 ⟨h.names, by simp, ?_⟩
        rintro tmp hmem _ hlast rfl
        obtain rfl := List.mem_singleton.1 hlast
        exact h.tmp_ne hx hmem
      · rcases List.mem_append.1 hw with hw | hw
        · obtain ⟨y, hy, hpid, hlt⟩ := h.live w hw
          by_cases hp : w.process = p
          · rw [hp] at hy
            cases hy.symm.trans hx
            exact ⟨{ x with seq := x.seq + 1 }, by simp [hp], hpid, Nat.lt_succ_of_lt hlt⟩
          · exact ⟨y, by simpa [hp] using hy, hpid, hlt⟩
        · obtain rfl := List.mem_singleton.1 hw
          exact ⟨_, Function.update_self .., rfl, Nat.lt_succ_self _⟩
      · rcases List.mem_append.1 hw with hw | hw
        · exact h.contents w hw
        · obtain rfl := List.mem_singleton.1 hw
          trivial
  | io i op =>
    obtain ⟨w, hi, hstep⟩ := Option.bind_eq_some_iff.1 hstep
    exact io_step h hi hstep

end

section

variable {s t : BlocklistDir} {ls : List DirLabel} {log : List DirEvent}

/-- **Whoever reads the blocklist file sees one call's whole document.** In every run, wherever
writes fail and processes end, the file is what the last call to put its document in place was
given, complete, or as it was at the start; and a call that returned `Ok` is one that did. -/
theorem file_of_last_writer (hs : blocklistDir.init s) (hpids : blocklistDir.Guarded FreshPid s ls)
    (hrun : blocklistDir.run s ls = some (t, log)) :
    t.file = replacedBy s.file log ∧
      ∀ call json, .returned call json true ∈ log → .replaced call json ∈ log := by
  have hstart : Separate [] s := by
    obtain ⟨hprocesses, hnone⟩ := hs
    exact ⟨by simp [hprocesses], by simp [hnone], by simp [hnone], by simp [hnone], by simp⟩
  obtain ⟨hsep, hfile⟩ : Separate log t ∧ t.file = replacedBy s.file log := by
    refine blocklistDir.guarded_log_rule
      (P := fun log t => Separate log t ∧ t.file = replacedBy s.file log)
      (fun log _ _ _ es hl h hstep => ?_) ⟨hstart, rfl⟩ hpids hrun
    obtain ⟨hsep, hfile⟩ := dir_step hl h.1 hstep
    refine ⟨hsep, ?_⟩
    rw [hfile, h.2, replacedBy, replacedBy, replacedBy, List.foldl_append]
  exact ⟨hfile, hsep.returned⟩

/-- A process ends in the middle of a write; the next one gets its number, and so its name. -/
def sameName : List DirLabel :=
  [.start 0 7, .call 0 [1, 2, 3] true, .io 0 .create, .io 0 (.append 2), .crash 0, .start 1 7,
    .call 1 [4, 5] true, .io 0 .create, .io 0 (.append 2), .io 0 .rename, .io 0 .finish]

def emptyDir : BlocklistDir where
  file := .missing
  temps := fun _ => none
  processes := fun _ => none

theorem file_of_last_writer_sameName : ∃ t log, blocklistDir.run emptyDir sameName = some (t, log) ∧
    log = [.replaced 1 [4, 5], .returned 1 [4, 5] true] ∧ t.file = .present [4, 5] := by
  have hfree (p : Nat) : Function.update (Function.update (Function.update emptyDir.processes 0
      (some { pid := 7 })) 0 (some { pid := 7, seq := 1 })) 0 none p = none := by
    cases p <;> rfl
  have hpids : blocklistDir.Guarded FreshPid emptyDir sameName :=
    .cons rfl (by simp [FreshPid, emptyDir]) <| .cons rfl trivial <| .cons rfl trivial <|
      .cons rfl trivial <| .cons rfl trivial <|
      .cons rfl (fun p x hx => absurd ((hfree p).symm.trans hx) (by simp)) <| .cons rfl trivial <|
      .cons rfl trivial <| .cons rfl trivial <| .cons rfl trivial <| .cons rfl trivial trivial
  have hrun : blocklistDir.run emptyDir sameName = some _ := rfl
  exact ⟨_, _, hrun, rfl, (file_of_last_writer ⟨fun _ => rfl, rfl⟩ hpids hrun).1⟩

end

end Flextunnel.Analysis
