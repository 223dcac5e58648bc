import Flextunnel.Model.ClientSessions

/-!
# One client session a server

The supervisor refuses a connect to a server one of its sessions is for. It looks for that
session among the handles it keeps, and a removed profile's handle is dropped before its
session is even told to disconnect: the guard does not see it while it runs on
(`two_sessions_for_one_server`).
-/

set_option autoImplicit false

namespace Flextunnel.Analysis

open Lib Model

variable {s t : TunnelSupervisor} {l : TunnelLabel} {es : List TunnelEvent}

/-- The next command, when it is a connect, finds every session for its server that is still
there in the supervisor's map. -/
def ServersKnown (s : TunnelSupervisor) : TunnelLabel → Prop
  | .receive _ =>
    ∀ p ∈ s.queue.head?.bind fun
        | .connect profile _ => some profile
        | _ => none,
      ∀ x ∈ s.sessions.zipIdx, x.1.pc.rxOpen = true → x.1.profile.serverNodeId = p.serverNodeId →
        ∃ h ∈ s.handles, h.session = x.2
  | _ => True

/-- Handles name the server of their session, and of the sessions that hold their receiver
no two are for one server. -/
structure OneOpen (s : TunnelSupervisor) : Prop where
  handle : ∀ h ∈ s.handles, ∃ x : TunnelSession,
    s.sessions[h.session]? = some x ∧ x.profile.serverNodeId = h.serverNodeId
  distinct : ∀ (i j : Nat) (x y : TunnelSession), s.sessions[i]? = some x →
    s.sessions[j]? = some y → x.pc.rxOpen = true → y.pc.rxOpen = true →
    x.profile.serverNodeId = y.profile.serverNodeId → i = j

/-- Steps that keep the sessions keep their servers apart. -/
theorem OneOpen.keeps (hs : OneOpen s) (h : TunnelSupervisor.Keeps s t) : OneOpen t where
  handle hd hmem := by
    obtain ⟨x, hx, hnode⟩ := hs.handle hd (h.handles hd hmem)
    obtain ⟨y, hy, hprofile⟩ := h.forth _ x hx
    exact ⟨y, hy, by rw [hprofile, hnode]⟩
  distinct i j y z hy hz hyo hzo hnode := by
    obtain ⟨x, hx, hxp, hxo⟩ := h.back i y hy
    obtain ⟨x', hx', hxp', hxo'⟩ := h.back j z hz
    exact hs.distinct i j x x' hx hx' (hxo hyo) (hxo' hzo) (by rw [← hxp, ← hxp', hnode])

theorem mem_retained {h : TunnelHandle} {x : TunnelSession} (hmem : h ∈ s.handles)
    (hx : s.sessions[h.session]? = some x) (hopen : x.pc.rxOpen = true) :
    h ∈ s.retained.handles := by
  simp [TunnelSupervisor.retained, TunnelSupervisor.closed, hmem, hx, hopen]

/-- The guard lets a new session through only for a server that no session is for. -/
theorem OneOpen.spawn (hs : OneOpen s) {profile : Profile} {authKey : String}
    {rest : List TunnelCommand} (hqueue : s.queue = .connect profile authKey :: rest)
    (hknown : ServersKnown s (.receive (.ok ())))
    (hfree : ∀ h ∈ s.retained.handles, h.serverNodeId ≠ profile.serverNodeId) :
    OneOpen ({ s with queue := rest }.retained.spawnSession profile authKey (.ok ())).1 := by
  have hnew : ∀ (i : Nat) (x : TunnelSession), s.sessions[i]? = some x → x.pc.rxOpen = true →
      x.profile.serverNodeId ≠ profile.serverNodeId := by
    intro i x hx hopen hnode
    obtain ⟨h, hmem, rfl⟩ := hknown profile (by simp [hqueue]) (x, i)
      (List.mk_mem_zipIdx_iff_getElem?.2 hx) hopen hnode
    obtain ⟨x', hx', hnode'⟩ := hs.handle h hmem
    cases hx.symm.trans hx'
    exact hfree h (mem_retained hmem hx hopen) (hnode'.symm.trans hnode)
  -- a session of the new list is an old one or the one just spawned
  have hcases : ∀ (i : Nat) (x : TunnelSession),
      (s.sessions ++ [{ profile, authKey, forwards := profile.forwards }])[i]? = some x →
      s.sessions[i]? = some x ∨ i = s.sessions.length ∧ x.profile = profile := by
    intro i x hx
    rcases getElem?_concat_cases hx with hold | ⟨rfl, rfl⟩
    · exact .inl hold
    · exact .inr ⟨rfl, rfl⟩
  constructor
  · intro h hmem
    obtain hmem | hmem := List.mem_append.1 hmem
    · obtain ⟨x, hx, hnode⟩ := hs.handle h (TunnelSupervisor.retained_handles h hmem)
      exact ⟨x, getElem?_concat_of_some hx, hnode⟩
    · obtain rfl := List.mem_singleton.1 hmem
      exact ⟨_, List.getElem?_concat_length, rfl⟩
  intro i j x y hx hy hxo hyo hnode
  obtain hx | ⟨rfl, hxp⟩ := hcases i x hx <;> obtain hy | ⟨rfl, hyp⟩ := hcases j y hy
  · exact hs.distinct i j x y hx hy hxo hyo hnode
  · exact absurd (hnode.trans (by rw [hyp])) (hnew i x hx hxo)
  · exact absurd (hnode.symm.trans (by rw [hxp])) (hnew j y hy hyo)
  · rfl

/-- Every guarded step keeps them apart. -/
theorem OneOpen.step (hknown : ServersKnown s l) (hs : OneOpen s)
    (h : tunnelSupervisor.step s l = some (t, es)) : OneOpen t := by
  obtain hkeeps | ⟨profile, authKey, rest, rfl, hqueue, hfree, rfl⟩ :=
    TunnelSupervisor.step_cases h
  · exact hs.keeps hkeeps
  · exact hs.spawn hqueue hknown hfree

theorem TunnelPc.rxOpen_of_alive {pc : TunnelPc} (h : pc.alive = true) : pc.rxOpen = true := by
  cases pc <;> first | rfl | cases h

/-- **No two sessions for one server, while removed profiles' sessions are waited for**: in every
run in which a connect is handled only when every session for its server that is still there is in
the supervisor's map, two sessions that have made their endpoint and not ended are for different
servers. -/
theorem one_session_per_server {ls : List TunnelLabel} {log : List TunnelEvent}
    (hknown : tunnelSupervisor.Guarded ServersKnown {} ls)
    (hrun : tunnelSupervisor.run {} ls = some (s, log)) {i j : Nat} {x y : TunnelSession}
    (hx : s.sessions[i]? = some x) (hy : s.sessions[j]? = some y) (hxa : x.pc.alive = true)
    (hya : y.pc.alive = true) (hnode : x.profile.serverNodeId = y.profile.serverNodeId) :
    i = j := by
  have hinit : OneOpen {} := ⟨by simp, by simp⟩
  have hs : OneOpen s := tunnelSupervisor.guarded_invariant
    (fun _ _ _ _ hc hs h => OneOpen.step hc hs h) hinit hknown hrun
  exact hs.distinct i j x y hx hy (TunnelPc.rxOpen_of_alive hxa) (TunnelPc.rxOpen_of_alive hya)
    hnode

/-! ## Two runs -/

instance (s : TunnelSupervisor) : (l : TunnelLabel) → Decidable (ServersKnown s l)
  | .receive _ => inferInstanceAs (Decidable (∀ p ∈ _, ∀ x ∈ s.sessions.zipIdx, _ → _ →
      ∃ h ∈ s.handles, h.session = x.2))
  | .submit _ | .deliver | .session _ _ => .isTrue trivial

def nodeProfile (id : String) : Profile :=
  { id, name := id, serverNodeId := "node", authKeyId := "key", socksPort := none
    httpPort := none, relayUrls := [], relayAuthToken := none, forwards := [] }

def comesUp (id : String) (i : Nat) : List TunnelLabel :=
  [.submit (.connect (nodeProfile id) "secret"), .receive (.ok ()), .session i (.begin true),
    .session i (.created true), .session i (.bound true)]

def isRemoved (id : String) : List TunnelLabel :=
  [.submit (.removeProfile id), .receive (.ok ()), .deliver]

/-- A profile is removed, its session ends, and another profile for the same server is
connected: the second session is the only one. -/
theorem one_session_per_server_instance :
    ∃ (s : TunnelSupervisor) (log : List TunnelEvent) (y : TunnelSession),
      tunnelSupervisor.run {}
        (comesUp "a" 0 ++ isRemoved "a" ++ [.session 0 .command, .session 0 .closed] ++
          comesUp "b" 1) = some (s, log) ∧
      s.sessions.length = 2 ∧ s.sessions[1]? = some y ∧ y.pc = .running ∧
      ∀ (i : Nat) (x : TunnelSession), s.sessions[i]? = some x → x.pc.alive = true →
        x.profile.serverNodeId = "node" → i = 1 := by
  have hknown : tunnelSupervisor.Guarded ServersKnown {}
      (comesUp "a" 0 ++ isRemoved "a" ++ [.session 0 .command, .session 0 .closed] ++
        comesUp "b" 1) := by decide +kernel
  refine ⟨_, _, _, rfl, rfl, rfl, rfl, fun i x hx halive hnode => ?_⟩
  exact one_session_per_server hknown rfl hx rfl halive rfl hnode

/-- A profile is removed and, before its session takes the command, another profile for the
same server is connected: the guard does not see the first session, and both run. -/
theorem two_sessions_for_one_server :
    ∃ (s : TunnelSupervisor) (log : List TunnelEvent) (x y : TunnelSession),
      tunnelSupervisor.run {} (comesUp "a" 0 ++ isRemoved "a" ++ comesUp "b" 1) = some (s, log) ∧
      s.sessions[0]? = some x ∧ s.sessions[1]? = some y ∧ x.pc = .running ∧ y.pc = .running ∧
      x.profile.serverNodeId = "node" ∧ y.profile.serverNodeId = "node" :=
  ⟨_, _, _, _, rfl, rfl, rfl, rfl, rfl, rfl, rfl⟩

end Flextunnel.Analysis
