import Flextunnel.Model.Client

/-!
# What the client's steps do

Frame lemmas for the parts of the manager, and `ManagerStep`: its moves, each with its guard
and its result. Proofs about runs go by cases on the moves and do not unfold `manage`.
`ClientStep` adds the moves that leave the manager where it is.
-/

set_option autoImplicit false

namespace Flextunnel.Model

open Lib

variable {ctx : ClientCtx} {s t : Client} {es : List ClientEvent}

/-! ## Parts of the manager -/

section Frames

variable (ctx : ClientCtx) (s : Client) (e : ProxyError) (jitterMs : Nat) (bytes : List UInt8)

/-- A failure ends the run or is waited out, and only the manager's own fields change. -/
theorem Client.handleFailure_cases :
    ∃ attempt pc reconnect, s.handleFailure ctx e jitterMs =
        ({ s with attempt, pc, reconnect }, (s.handleFailure ctx e jitterMs).2) ∧
      (pc = .ended (some e) ∧
          (s.handleFailure ctx e jitterMs).2 = [.failed e, .ended (some e)] ∨
        (∃ backoff, pc = .waiting backoff) ∧
          (s.handleFailure ctx e jitterMs).2 = [.failed e]) := by
  unfold Client.handleFailure
  split
  · exact ⟨s.attempt, .ended (some e), s.reconnect, rfl, .inl ⟨rfl, rfl⟩⟩
  dsimp only
  split
  · exact ⟨_, .ended (some e), s.reconnect, rfl, .inl ⟨rfl, rfl⟩⟩
  · exact ⟨_, _, _, rfl, .inr ⟨⟨_, rfl⟩, rfl⟩⟩

theorem Client.handshake_cases :
    ∃ tracker duplicateServer routes, (s.handshake ctx bytes).1 =
      { s with tracker, duplicateServer, routes } := by
  unfold Client.handshake
  split
  · exact ⟨s.tracker, s.duplicateServer, s.routes, rfl⟩
  dsimp only
  split
  · exact ⟨_, _, s.routes, rfl⟩
  split
  · exact ⟨_, _, s.routes, rfl⟩
  · split
    · exact ⟨_, _, s.routes, rfl⟩
    · exact ⟨_, _, _, rfl⟩

end Frames

/-! ## Parts of a local connection -/

section Local

variable {r conn : Nat} {request : LocalRequest} {e : ClientEvent}

theorem mem_successReply (he : e ∈ successReply r request) :
    e = .replied r Rep.success.code := by
  unfold successReply at he
  split at he
  · exact List.mem_singleton.1 he
  · cases he

/-- A direct request dials its own target and is then relayed or over. -/
theorem directConnect_cases (r : Nat) (request : LocalRequest) (net : Net)
    (deadline : Option Nat) :
    ((directConnect r request net deadline).1 = .relaying ∨
        (directConnect r request net deadline).1 = .done) ∧
      ∀ e ∈ (directConnect r request net deadline).2,
        (∃ events, e = .dialed r request.target events) ∨ ∃ rep, e = .replied r rep := by
  unfold directConnect
  dsimp only
  split
  · refine ⟨.inl rfl, fun e he => ?_⟩
    rcases List.mem_cons.1 he with rfl | he
    · exact .inl ⟨_, rfl⟩
    · exact .inr ⟨_, mem_successReply he⟩
  · refine ⟨.inr rfl, fun e he => ?_⟩
    rcases List.mem_pair.1 he with rfl | rfl
    · exact .inl ⟨_, rfl⟩
    · exact .inr ⟨_, rfl⟩
  · refine ⟨.inr rfl, fun e he => ?_⟩
    rcases List.mem_pair.1 he with rfl | rfl
    · exact .inl ⟨_, rfl⟩
    · exact .inr ⟨_, rfl⟩

/-- A tunneled request asks for its own target and is then relayed or over. -/
theorem openTunnel_cases (r : Nat) (request : LocalRequest) (conn : Nat) (result : OpenResult) :
    ((openTunnel r request conn result).1 = .relaying ∨
        (openTunnel r request conn result).1 = .done) ∧
      ∀ e ∈ (openTunnel r request conn result).2,
        e = .tunneled r conn request.target ∨ ∃ rep, e = .replied r rep := by
  unfold openTunnel
  dsimp only
  split
  · exact ⟨.inr rfl, fun e he => .inr ⟨_, List.mem_singleton.1 he⟩⟩
  · refine ⟨.inr rfl, fun e he => ?_⟩
    exact (List.mem_pair.1 he).imp_right fun h => ⟨_, h⟩
  · refine ⟨.inr rfl, fun e he => ?_⟩
    exact (List.mem_pair.1 he).imp_right fun h => ⟨_, h⟩
  · split
    · refine ⟨.inl rfl, fun e he => ?_⟩
      exact (List.mem_cons.1 he).imp_right fun h => ⟨_, mem_successReply h⟩
    · refine ⟨.inr rfl, fun e he => ?_⟩
      exact (List.mem_pair.1 he).imp_right fun h => ⟨_, h⟩

end Local

/-! ## Moves of the manager -/

inductive FailsWith (ctx : ClientCtx) (s : Client) :
    ManagerLabel → Client → ProxyError → Nat → Prop
  | addr {outcome : Except String Unit} {e : ProxyError} {jitterMs : Nat}
      (hpc : s.pc = .connecting) (haddr : ctx.resolveServerAddr = .error e) :
      FailsWith ctx s (.connect outcome jitterMs) s e jitterMs
  | connect {message : String} {jitterMs : Nat} (hpc : s.pc = .connecting) :
      FailsWith ctx s (.connect (.error message) jitterMs) s (.signaling message) jitterMs
  | brokenOff {conn : Nat} {e : ProxyError} {jitterMs : Nat} (hpc : s.pc = .handshaking conn)
      (he : e.breaksOff = true) : FailsWith ctx s (.brokenOff e jitterMs) s e jitterMs
  | response {conn : Nat} {bytes : List UInt8} {e : ProxyError} {jitterMs : Nat}
      (hpc : s.pc = .handshaking conn) (hshake : (s.handshake ctx bytes).2 = .error e) :
      FailsWith ctx s (.response bytes jitterMs) (s.handshake ctx bytes).1 e jitterMs
  | maintained {conn : Nat} {e : ProxyError} {jitterMs : Nat} (hpc : s.pc = .maintaining conn) :
      FailsWith ctx s (.maintained (.error e) jitterMs) s.clear e jitterMs

inductive ManagerStep (ctx : ClientCtx) (s : Client) :
    ManagerLabel → Client → List ClientEvent → Prop
  | clear (hpc : s.pc = .top) : ManagerStep ctx s .clear { s.clear with pc := .repair } []
  | rebuild (hpc : s.pc = .repair) (hdue : rebuildDue s.attempt s.lastRebuild s.now = true) :
      ManagerStep ctx s .repair { s with pc := .connecting, lastRebuild := some s.now }
        [.rebuild s.now]
  | nudge (hpc : s.pc = .repair) (hdue : rebuildDue s.attempt s.lastRebuild s.now = false) :
      ManagerStep ctx s .repair { s with pc := .connecting }
        (if 0 < s.attempt || s.pathReturned then [.nudge] else [])
  | connected {jitterMs : Nat} (hpc : s.pc = .connecting) :
      ManagerStep ctx s (.connect (.ok ()) jitterMs)
        { s with pc := .handshaking s.nextConn, nextConn := s.nextConn + 1 }
        [.connected s.nextConn s.duplicateServer]
  | failed {l : ManagerLabel} {u t : Client} {e : ProxyError} {jitterMs : Nat}
      {es : List ClientEvent} (hfail : FailsWith ctx s l u e jitterMs)
      (hjitter : jitterMs ≤ reconnectJitterMaxMs)
      (hresult : u.handleFailure ctx e jitterMs = (t, es)) : ManagerStep ctx s l t es
  | accepted {conn jitterMs : Nat} {bytes : List UInt8} {response : HelloResponse}
      {routedSet : RoutedSet} (hpc : s.pc = .handshaking conn)
      (hshake : (s.handshake ctx bytes).2 = .ok (response, routedSet)) :
      ManagerStep ctx s (.response bytes jitterMs)
        { (s.handshake ctx bytes).1 with
          pc := .publishing conn routedSet, attempt := 0, lastRebuild := none, reconnect := {} }
        [.accepted conn response routedSet]
  | publishPolicy {conn : Nat} {routedSet : RoutedSet} (hpc : s.pc = .publishing conn routedSet) :
      ManagerStep ctx s .publishPolicy
        { s with pc := .announcing conn, policy := some routedSet } [.policyPublished routedSet]
  | publishConn {conn : Nat} (hpc : s.pc = .announcing conn) :
      ManagerStep ctx s .publishConn { s with pc := .maintaining conn, current := some conn }
        [.connPublished conn]
  | returned {conn jitterMs : Nat} (hpc : s.pc = .maintaining conn) :
      ManagerStep ctx s (.maintained (.ok ()) jitterMs) { s.clear with pc := .ended none }
        [.ended none]
  | beginWait {backoff : Nat} (hpc : s.pc = .waiting backoff) :
      ManagerStep ctx s .beginWait
        { s with
          pc := if s.networkAvailable then .sleeping (s.now + backoff) s.background else .parked }
        []
  | timer {wakeAt : Nat} {backgrounded : Bool} (hpc : s.pc = .sleeping wakeAt backgrounded)
      (hdue : wakeAt ≤ s.now) :
      ManagerStep ctx s .timer { s with pc := .top, pathReturned := false } []
  | pathLost {wakeAt : Nat} {backgrounded : Bool} (hpc : s.pc = .sleeping wakeAt backgrounded)
      (hnet : s.networkAvailable = false) : ManagerStep ctx s .pathLost { s with pc := .parked } []
  | foregrounded {wakeAt : Nat} (hpc : s.pc = .sleeping wakeAt true)
      (hfg : s.background = false) : ManagerStep ctx s .foregrounded s.resetBackoff []
  | pathReturned (hpc : s.pc = .parked) (hnet : s.networkAvailable = true) :
      ManagerStep ctx s .pathReturned s.resetBackoff []

/-- Every step of the manager is one of these. -/
theorem managerStep_of_manage {l : ManagerLabel} (h : s.manage ctx l = some (t, es)) :
    ManagerStep ctx s l t es := by
  cases l
  case connect outcome jitterMs =>
    obtain ⟨⟨hpc, hjitter⟩, hconnect⟩ := Option.ite_none_right_eq_some.1 h
    split at hconnect
    next haddr => exact .failed (.addr hpc haddr) hjitter (Option.some.inj hconnect)
    · exact .failed (.connect hpc) hjitter (Option.some.inj hconnect)
    · cases hconnect
      exact .connected hpc
  case brokenOff e jitterMs =>
    simp only [Client.manage] at h
    split at h
    next conn hpc =>
      obtain ⟨hguard, h⟩ := Option.ite_none_right_eq_some.1 h
      exact .failed (.brokenOff hpc hguard.1) hguard.2 (Option.some.inj h)
    · cases h
  case response bytes jitterMs =>
    simp only [Client.manage] at h
    split at h
    next conn hpc =>
      obtain ⟨hjitter, h⟩ := Option.ite_none_right_eq_some.1 h
      split at h
      next u e hshake =>
        have hfail : FailsWith ctx s (.response bytes jitterMs)
            (s.handshake ctx bytes).1 e jitterMs := .response hpc (by rw [hshake])
        rw [hshake] at hfail
        exact .failed hfail hjitter (Option.some.inj h)
      next u response routedSet hshake =>
        cases h
        have hacc : ManagerStep ctx s (.response bytes jitterMs) _ _ :=
          .accepted hpc (congrArg Prod.snd hshake)
        rwa [hshake] at hacc
    · cases h
  case maintained result jitterMs =>
    simp only [Client.manage] at h
    split at h
    next conn hpc =>
      obtain ⟨hjitter, h⟩ := Option.ite_none_right_eq_some.1 h
      cases result with
      | error e => exact .failed (.maintained hpc) hjitter (Option.some.inj h)
      | ok u =>
        cases h
        exact .returned hpc
    · cases h
  case beginWait =>
    simp only [Client.manage] at h
    split at h <;> cases h
    next hpc => exact .beginWait hpc
  -- the labels that cannot fail: one branch moves the manager, or two for `repair`
  all_goals
    simp only [Client.manage] at h
    split at h
    all_goals
      try split at h
      all_goals cases h
  next hpc => exact .clear hpc
  next hpc hdue => exact .rebuild hpc hdue
  next hpc hdue => exact .nudge hpc (by simpa using hdue)
  next hpc => exact .publishPolicy hpc
  next hpc => exact .publishConn hpc
  next hpc hdue => exact .timer hpc hdue
  next hpc hnet => exact .pathLost hpc (by simpa using hnet)
  next backgrounded hpc hguard =>
    obtain ⟨rfl, hfg⟩ : backgrounded = true ∧ s.background = false := by simpa using hguard
    exact .foregrounded hpc hfg
  next hguard => exact .pathReturned hguard.1 hguard.2

/-! ## Moves of the client -/

def ClientEvent.IsLocal : ClientEvent → Prop
  | .received .. | .policyRead .. | .dialed .. | .tunneled .. | .replied .. => True
  | _ => False

theorem isLocal_waited {r : Nat} {purpose : WaitFor} {request : LocalRequest}
    {conn : Option Nat} {e : ClientEvent} (he : e ∈ (waited r purpose request conn).2) :
    e.IsLocal := by
  cases conn with
  | some conn => cases purpose <;> cases he
  | none =>
    cases purpose
    all_goals
      obtain rfl := List.mem_singleton.1 he
      trivial

/-- What a local connection does is none of the manager's events. -/
theorem isLocal_of_localStep {c : LocalConn} {r : Nat} {l : LocalLabel} {pc : LocalPc}
    (h : c.step s r l = some (pc, es)) : ∀ e ∈ es, e.IsLocal := by
  -- what `waited`, a dial and an opened stream emit
  have hwaited {purpose : WaitFor} {request : LocalRequest} {conn : Option Nat}
      (h : waited r purpose request conn = (pc, es)) : ∀ e ∈ es, e.IsLocal := by
    intro e he
    have hmem : e ∈ (waited r purpose request conn).2 := by rwa [h]
    exact isLocal_waited hmem
  intro e he
  unfold LocalConn.step at h
  split at h
  case h_1 | h_3 =>
    split at h <;> cases h
    · obtain rfl := List.mem_singleton.1 he
      trivial
    · cases he
  case h_9 =>
    split at h
    all_goals
      cases h
      obtain rfl := List.mem_singleton.1 he
      trivial
  case h_2 | h_13 =>
    cases h
    cases he
  case h_4 =>
    split at h
    · exact hwaited (Option.some.inj h) e he
    · cases h
      cases he
  case h_5 =>
    cases h
    cases he
  case h_6 | h_8 => exact hwaited (Option.some.inj h) e he
  case h_7 =>
    obtain ⟨conn, -, h⟩ := Option.map_eq_some_iff.1 h
    exact hwaited h e he
  case h_10 =>
    split at h
    all_goals
      cases h
      cases he
  case h_11 net deadline request _ =>
    have hes : es = (directConnect r request net deadline).2 := by rw [Option.some.inj h]
    rcases (directConnect_cases r request net deadline).2 e (hes ▸ he) with ⟨_, rfl⟩ | ⟨_, rfl⟩
    all_goals trivial
  case h_12 result request conn _ =>
    have hes : es = (openTunnel r request conn result).2 := by rw [Option.some.inj h]
    rcases (openTunnel_cases r request conn result).2 e (hes ▸ he) with rfl | ⟨_, rfl⟩
    all_goals trivial
  case h_14 => cases h

/-- The moves of the client: one of its manager, one that leaves the manager alone, or the
end of the run. -/
inductive ClientStep (ctx : ClientCtx) (s : Client) :
    ClientLabel → Client → List ClientEvent → Prop
  | manager {l : ManagerLabel} {t : Client} {es : List ClientEvent}
      (h : ManagerStep ctx s l t es) : ClientStep ctx s (.manager l) t es
  | aside {l : ClientLabel} {es : List ClientEvent} (background networkAvailable localClose : Bool)
      (now : Nat) (conns : List LocalConn) (hl : ∀ ml, l ≠ .manager ml)
      (hes : ∀ e ∈ es, e.IsLocal) :
      ClientStep ctx s l { s with background, networkAvailable, localClose, now, conns } es
  | aborted (hrunning : s.isRunning = true) :
      ClientStep ctx s .abort { s with pc := .ended none } [.ended none]

/-- Every step of the client is one of these. -/
theorem clientStep_of_step {l : ClientLabel} (h : s.step ctx l = some (t, es)) :
    ClientStep ctx s l t es := by
  cases l with
  | manager l => exact .manager (managerStep_of_manage h)
  | accept listener =>
    obtain ⟨-, ⟨⟩⟩ := Option.ite_none_right_eq_some.1 h
    exact .aside s.background s.networkAvailable s.localClose s.now _ nofun nofun
  | conn r l =>
    obtain ⟨c, -, h⟩ := Option.bind_eq_some_iff.1 h
    obtain ⟨⟨pc, es'⟩, hstep, ⟨⟩⟩ := Option.map_eq_some_iff.1 h
    exact .aside s.background s.networkAvailable s.localClose s.now _ nofun
      (isLocal_of_localStep hstep)
  | tick d =>
    cases h
    exact .aside s.background s.networkAvailable s.localClose _ s.conns nofun nofun
  | setBackground background =>
    cases h
    exact .aside background s.networkAvailable s.localClose s.now s.conns nofun nofun
  | setNetworkAvailable available =>
    cases h
    exact .aside s.background available s.localClose s.now s.conns nofun nofun
  | closeLocalListeners =>
    cases h
    exact .aside s.background s.networkAvailable true s.now s.conns nofun nofun
  | abort =>
    obtain ⟨hrunning, h⟩ := Option.ite_none_right_eq_some.1 h
    cases h
    exact .aborted hrunning

end Flextunnel.Model
