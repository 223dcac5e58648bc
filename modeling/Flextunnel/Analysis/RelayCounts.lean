import Flextunnel.Lib.Permits
import Flextunnel.Model.Relays

/-!
# Every accepted connection is relayed once

The connections of a forward pass through three hands before they are relayed: the stack that
accepted them, the channel, and the loop while it waits for a permit. `Accounted` says that nothing
is lost or doubled on the way.
-/

set_option autoImplicit false

namespace Flextunnel.Analysis

open Lib Model

/-- The connections that met a fate, in order. -/
def met (fate : ConnFate) (log : List RelayEvent) : List Nat :=
  (log.filter (·.fate = fate)).map RelayEvent.conn

/-- Every accepted connection is where it should be: with its stack until it is handed on or
dropped, then in line for the loop, then in a relay, unless the task was dropped with it; and
permits and count are exact. -/
structure Accounted (log : List RelayEvent) (s : RelayLoop) : Prop where
  sides : (met .dropped log ++ met .handed log ++ (s.sides.v4.conns ++ s.sides.v6.conns)).Perm
    (List.range s.nextConn)
  line : met .handed log = s.relays.map Relay.conn ++ (s.waiting ++ met .abandoned log)
  running : s.pc ≠ .over → met .abandoned log = []
  permits : Permits maxActiveRelaysPerForward s.permits Relay.permitted s.relays
  active : s.active = s.relays.countP Relay.guarded

section

variable {log es : List RelayEvent} {s t : RelayLoop} {i : Nat} {r : Relay}

theorem met_append (fate : ConnFate) : met fate (log ++ es) = met fate log ++ met fate es := by
  rw [met, List.filter_append, List.map_append]
  rfl

theorem met_map (fate fate' : ConnFate) (conns : List Nat) :
    met fate (conns.map (.mk fate')) = if fate' = fate then conns else [] := by
  by_cases h : fate' = fate <;> simp [met, List.filter_map, Function.comp_def, h]

theorem count_conns (sides : PerStack StackSide) (k : Stack) (conn : Nat) :
    sides.v4.conns.count conn + sides.v6.conns.count conn =
      (sides.get k).conns.count conn + (sides.get k.other).conns.count conn := by
  cases k with
  | v4 => rfl
  | v6 => exact Nat.add_comm _ _

/-- A stack that moves takes its connections from what it had or what is new, and leaves them to
itself or to the log. -/
theorem Accounted.moveSide (h : Accounted log s) (k : Stack) (side : StackSide)
    (es : List RelayEvent) (new : List Nat)
    (hmoved : ∀ conn, (met .dropped es).count conn + (met .handed es).count conn +
      side.conns.count conn = (s.sides.get k).conns.count conn + new.count conn) :
    (met .dropped (log ++ es) ++ met .handed (log ++ es) ++
      ((s.sides.set k side).v4.conns ++ (s.sides.set k side).v6.conns)).Perm
      (List.range s.nextConn ++ new) := by
  refine List.perm_iff_count.2 fun conn => ?_
  have hall := List.perm_iff_count.1 h.sides conn
  have hold := count_conns s.sides k conn
  have hset := count_conns (s.sides.set k side) k conn
  have := hmoved conn
  rw [PerStack.get_set_self, PerStack.get_set_other] at hset
  simp only [met_append, List.count_append] at *
  omega

/-- A relay that moves is still the relay of its connection. -/
theorem Accounted.relay (h : Accounted log s) (hr : s.relays[i]? = some r) (pc : RelayPc)
    {permits active : Nat} {lastConnError : Option String}
    (hpermits : Permits maxActiveRelaysPerForward permits Relay.permitted
      (s.relays.set i { r with pc }))
    (hactive : active + r.guarded.toNat = s.active + (Relay.guarded { r with pc }).toNat) :
    Accounted log { s with
      permits, active, lastConnError, relays := s.relays.set i { r with pc } } := by
  have hconn : (s.relays.set i { r with pc }).map Relay.conn = s.relays.map Relay.conn :=
    map_set_same hr rfl
  refine ⟨h.sides, ?_, h.running, hpermits, ?_⟩
  · rw [hconn]
    exact h.line
  have hcount := countP_set_moved (p := Relay.guarded) (y := { r with pc }) hr
  have := h.active
  dsimp only
  omega

/-- A relay that ends gives its permit and its count back. -/
theorem Accounted.finish (h : Accounted log s) (hr : s.relays[i]? = some r)
    (hpc : r.pc ≠ .over) (lastConnError : Option String) :
    Accounted log { s.finish i r with lastConnError } := by
  have hover : (Relay.guarded { r with pc := .over }).toNat = 0 := rfl
  refine h.relay hr .over (h.permits.leave hr (by simpa [Relay.permitted] using hpc) rfl) ?_
  have hcount := countP_set_moved (p := Relay.guarded) (y := { r with pc := .over }) hr
  have := h.active
  simp only [RelayLoop.finish]
  omega

/-- Every step accounts for the connections it moves. -/
theorem accounted_step {l : RelayLabel} (h : Accounted log s) (hstep : s.step l = some (t, es)) :
    Accounted (log ++ es) t := by
  cases l with
  | accept k =>
    obtain ⟨hfree, ⟨⟩⟩ := Option.ite_none_right_eq_some.1 hstep
    rw [List.append_nil]
    refine ⟨?_, h.line, h.running, h.permits, h.active⟩
    rw [List.range_succ]
    have hsides := h.moveSide k (.handing s.nextConn) [] [s.nextConn]
      (by simp [hfree, met, StackSide.conns])
    simpa using hsides
  | hand k =>
    simp only [RelayLoop.step] at hstep
    split at hstep
    case h_1 conn hk =>
      obtain ⟨⟨hover, hfree⟩, ⟨⟩⟩ := Option.ite_none_right_eq_some.1 hstep
      have hnone := h.running hover
      refine ⟨?_, ?_, fun _ => ?_, h.permits, h.active⟩
      · have hsides := h.moveSide k .free [⟨.handed, conn⟩] [] (by simp [hk, met, StackSide.conns])
        simpa using hsides
      · rw [met_append, met_append, h.line, hnone]
        simp [met, RelayLoop.waiting, hfree]
      · rw [met_append, hnone]
        rfl
    case h_2 => cases hstep
  | stackEnds k =>
    cases hstep
    refine ⟨?_, ?_, ?_, h.permits, h.active⟩
    · have hsides := h.moveSide k .gone ((s.sides.get k).conns.map (.mk .dropped)) []
        (by simp [met_map, StackSide.conns])
      simpa using hsides
    · rw [met_append, met_append, met_map, met_map]
      simpa [RelayLoop.waiting] using h.line
    · rw [met_append, met_map]
      simpa using h.running
  | receive =>
    obtain ⟨hpc, hstep⟩ := Option.ite_none_right_eq_some.1 hstep
    have hline := h.line
    have hnone := h.running (by simp [hpc])
    split at hstep
    case h_1 conn hconn =>
      cases hstep
      rw [List.append_nil]
      refine ⟨h.sides, ?_, fun _ => hnone, h.permits, h.active⟩
      simpa [RelayLoop.waiting, hpc, hconn] using hline
    case h_2 hconn =>
      obtain ⟨-, ⟨⟩⟩ := Option.ite_none_right_eq_some.1 hstep
      rw [List.append_nil]
      refine ⟨h.sides, ?_, fun _ => hnone, h.permits, h.active⟩
      simpa [RelayLoop.waiting, hpc] using hline
  | acquire =>
    simp only [RelayLoop.step] at hstep
    split at hstep
    case h_1 conn permits hpc hpermits =>
      cases hstep
      rw [List.append_nil]
      refine ⟨h.sides, ?_, fun _ => h.running (by simp [hpc]), (hpermits ▸ h.permits).join rfl, ?_⟩
      · simpa [RelayLoop.waiting, hpc] using h.line
      · simpa [Relay.guarded] using h.active
    case h_2 => cases hstep
  | poll i =>
    obtain ⟨r, hr, hstep⟩ := Option.bind_eq_some_iff.1 hstep
    obtain ⟨hpc, ⟨⟩⟩ := Option.ite_none_right_eq_some.1 hstep
    rw [List.append_nil]
    refine h.relay hr .relaying (h.permits.keep hr ?_) ?_
    · simp only [Relay.permitted, hpc]
      rfl
    · simp [Relay.guarded, hpc]
  | ends i result =>
    obtain ⟨r, hr, hstep⟩ := Option.bind_eq_some_iff.1 hstep
    obtain ⟨hpc, ⟨⟩⟩ := Option.ite_none_right_eq_some.1 hstep
    rw [List.append_nil]
    exact h.finish hr (by simp [hpc]) _
  | cancelled i =>
    obtain ⟨r, hr, hstep⟩ := Option.bind_eq_some_iff.1 hstep
    obtain ⟨⟨-, hpc⟩, ⟨⟩⟩ := Option.ite_none_right_eq_some.1 hstep
    rw [List.append_nil]
    exact h.finish hr hpc _
  | dropped =>
    obtain ⟨hover, ⟨⟩⟩ := Option.ite_none_left_eq_some.1 hstep
    have hnone := h.running hover
    refine ⟨?_, ?_, fun ht => absurd rfl ht, h.permits, h.active⟩
    · rw [met_append, met_append, met_map, met_map]
      simpa using h.sides
    · rw [met_append, met_append, met_map, met_map, hnone]
      simpa [hnone, RelayLoop.waiting] using h.line

end

/-- The inbound sockets the forward has open. -/
def RelayLoop.sockets (s : RelayLoop) : Nat :=
  s.relays.countP Relay.permitted + s.waiting.length +
    (s.sides.v4.conns.length + s.sides.v6.conns.length)

section

variable {s t : RelayLoop} {ls : List RelayLabel} {log : List RelayEvent}

/-- Every connection is accounted for in every run. -/
theorem accounted_of_run (hs : relayLoop.init s) (hrun : relayLoop.run s ls = some (t, log)) :
    Accounted log t := by
  refine relayLoop.log_rule (fun _ _ _ _ _ h hstep => accounted_step h hstep) ?_ hrun
  obtain rfl : s = {} := hs
  exact ⟨.refl _, rfl, fun _ => rfl, rfl, rfl⟩

theorem length_waiting_le (s : RelayLoop) : s.waiting.length ≤ 2 := by
  have := Option.length_toList_le (o := s.channel)
  rw [RelayLoop.waiting, List.length_append]
  split <;> simp <;> omega

theorem length_conns_le (side : StackSide) : side.conns.length ≤ 1 := by
  cases side <;> simp [StackSide.conns]

/-- **No accepted connection is lost or relayed twice.** In every run of a forward a connection is
with its stack, in line, in a relay, or was dropped with its stack or, in line, with the task;
relays are in the order of the hand-overs. Permits and count are those of the live relays, at most
128, of which there is one if no permit is free; and at most 132 inbound sockets are open. -/
theorem accepted_relayed_once (hs : relayLoop.init s)
    (hrun : relayLoop.run s ls = some (t, log)) :
    Accounted log t ∧ (t.relays.map Relay.conn).Nodup ∧
      t.active ≤ maxActiveRelaysPerForward ∧
      (t.permits = 0 → ∃ r ∈ t.relays, r.permitted) ∧
      RelayLoop.sockets t ≤ maxActiveRelaysPerForward + 4 := by
  have h := accounted_of_run hs hrun
  have hpermits : t.permits + t.relays.countP Relay.permitted = maxActiveRelaysPerForward :=
    h.permits
  have hguard : t.relays.countP Relay.guarded ≤ t.relays.countP Relay.permitted := by
    refine List.countP_mono_left fun r _ hr => ?_
    have : r.pc = .relaying := by simpa [Relay.guarded] using hr
    simp [Relay.permitted, this]
  have hactive := h.active
  refine ⟨h, ?_, by omega, fun hnone => ?_, ?_⟩
  · have hnodup := (h.sides.nodup_iff).2 List.nodup_range
    have hhanded := (List.nodup_append.1 (List.nodup_append.1 hnodup).1).2.1
    rw [h.line] at hhanded
    exact (List.nodup_append.1 hhanded).1
  · refine List.countP_pos_iff.1 ?_
    rw [hnone, Nat.zero_add] at hpermits
    rw [hpermits]
    decide
  · have := length_waiting_le t
    have := length_conns_le t.sides.v4
    have := length_conns_le t.sides.v6
    rw [RelayLoop.sockets]
    omega

/-- Both stacks accept; the first connection is relayed and its relay ends, and the task is dropped
while the second is in line. -/
def bothStacks : List RelayLabel :=
  [.accept .v4, .hand .v4, .receive, .accept .v6, .acquire, .poll 0, .hand .v6, .receive,
    .ends 0 (.error "refused"), .dropped]

theorem accepted_relayed_once_both : ∃ t log, relayLoop.run {} bothStacks = some (t, log) ∧
    t.relays = [⟨0, .over⟩] ∧ met .abandoned log = [1] ∧ Accounted log t := by
  have hrun : relayLoop.run {} bothStacks = some _ := rfl
  exact ⟨_, _, hrun, rfl, rfl, (accepted_relayed_once rfl hrun).1⟩

end

end Flextunnel.Analysis
