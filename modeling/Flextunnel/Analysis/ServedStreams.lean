import Flextunnel.Analysis.HandlerChecks
import Flextunnel.Model.StreamTasks

/-!
# Streams and the registry

A client's handler has its entry in the registry from its registration until it drops its guard
(`Registered`). The task of a stream accepted in between does not end with the handler: when the
heartbeats stop, the entry goes and the stream goes on.
-/

set_option autoImplicit false

namespace Flextunnel.Analysis

open Lib Model

section

variable {EndpointId PublicKey Doc : Type} [DecidableEq EndpointId] [DecidableEq PublicKey]
  {ctx : ServerCtx EndpointId PublicKey Doc} {c : Nat} {sh sh' : Shared EndpointId Doc}
  {h h' : Handler EndpointId} {l : HandlerLabel EndpointId} {es : List (ServerEvent EndpointId)}
  {id : EndpointId}

/-! ## What a move does to the numbers and the entries -/

/-- A handler takes the next connection number when it connects, and no other move counts. -/
theorem connSeq_move (hmove : HandlerStep ctx c sh h l h' sh' es) :
    h'.peer = h.peer ∧ h'.connSeq = h.connSeq ∧ sh'.nextConnSeq = sh.nextConnSeq ∨
      ¬ HoldsConn h.phase ∧ h'.connSeq = sh.nextConnSeq ∧
        sh'.nextConnSeq = sh.nextConnSeq + 1 := by
  cases hmove with
  | connected hphase hhook => exact .inr ⟨by rw [hphase]; exact id, rfl, rfl⟩
  | @heartbeat guard => cases guard <;> exact .inl ⟨rfl, rfl, rfl⟩
  | @drop guard =>
    rcases guard with _ | ⟨_ | _⟩
    all_goals exact .inl ⟨rfl, rfl, rfl⟩
  | selfBlock | blockClient => exact .inl ⟨rfl, rfl, Shared.block_nextConnSeq ..⟩
  | _ => exact .inl ⟨rfl, rfl, rfl⟩

/-- A move drops only the entry of its own handler, and that only when the guard goes. -/
theorem entry_kept (hmove : HandlerStep ctx c sh h l h' sh' es) {e : ConnEntry}
    (he : e ∈ sh.registry.entriesOf id)
    (hown : h.peer.map Prod.fst = some id → e.connSeq = h.connSeq →
      HoldsConn h.phase ∧ HoldsConn h'.phase) :
    ∃ e' ∈ sh'.registry.entriesOf id, e'.connSeq = e.connSeq ∧ e'.connection = e.connection := by
  cases hmove with
  | @registered remoteId alpn hello registry hphase hpeer hobserved hreg =>
    obtain ⟨-, rfl⟩ := Registry.tryRegister_ok hreg
    refine ⟨e, ?_, rfl, rfl⟩
    rw [Registry.entriesOf_insert]
    split
    next hid =>
      subst hid
      refine Registry.mem_insertEntry.2 (.inl ⟨he, fun hseq => ?_⟩)
      have hholds := (hown (by rw [hpeer]; rfl) hseq).1
      rw [hphase] at hholds
      exact hholds
    · exact he
  | duplicate hphase hpeer hobserved hreg =>
    exact ⟨e, by rwa [(Registry.tryRegister_error hreg).2.2 id], rfl, rfl⟩
  | @heartbeat guard since remoteId alpn seq hphase hpeer hopen =>
    cases guard with
    | bridge => exact ⟨e, he, rfl, rfl⟩
    | conn =>
      simp only [Shared.refresh, Registry.entriesOf_refresh]
      split
      · refine ⟨_, List.mem_map_of_mem he, ?_, ?_⟩ <;> split <;> rfl
      · exact ⟨e, he, rfl, rfl⟩
  | @drop guard remoteId alpn hphase hpeer =>
    refine ⟨e, ?_, rfl, rfl⟩
    cases guard with
    | none => exact he
    | some guard =>
      cases guard with
      | bridge => exact he
      | conn =>
        simp only [Shared.drop, Registry.entriesOf_drop]
        split
        next hid =>
          have hne : e.connSeq ≠ h.connSeq := fun hseq =>
            (hown (by rw [hpeer, hid]; rfl) hseq).2
          exact List.mem_filter.2 ⟨he, by simpa using hne⟩
        · exact he
  | selfBlock => exact ⟨e, by simpa [Shared.selfBlock] using he, rfl, rfl⟩
  | blockClient => exact ⟨e, by simpa [Shared.blockClient] using he, rfl, rfl⟩
  | _ => exact ⟨e, he, rfl, rfl⟩

/-- A handler that holds its guard after a move held it before, or has just registered. -/
theorem entry_of_holdsConn (hmove : HandlerStep ctx c sh h l h' sh' es)
    (hholds : HoldsConn h'.phase) :
    HoldsConn h.phase ∨ ∃ id alpn, h'.peer = some (id, alpn) ∧ .registered c id ∈ es ∧
      ∃ e ∈ sh'.registry.entriesOf id, e.connSeq = h'.connSeq ∧ e.connection = c := by
  cases hmove with
  | @registered remoteId alpn hello registry hphase hpeer hobserved hreg =>
    obtain ⟨-, rfl⟩ := Registry.tryRegister_ok hreg
    refine .inr ⟨remoteId, alpn, hpeer, List.mem_singleton_self _,
      ⟨h.connSeq, hello.clientInstanceNonce, sh.now, c, clientKey ctx alpn hello⟩, ?_, rfl, rfl⟩
    rw [Registry.entriesOf_insert, if_pos rfl]
    exact Registry.mem_insertEntry.2 (.inr rfl)
  | @reply write r hreply hsent =>
    refine .inl ?_
    rcases Phase.reply_cases hreply write with
      ⟨guard, routes, hphase, -, hnext⟩ | ⟨reason, -, -, hnext⟩
    · cases guard with
      | conn => rw [hphase]; trivial
      | bridge => rcases hnext with hnext | hnext <;> rw [hnext] at hholds <;> exact hholds.elim
    · rcases hnext with ⟨code, text, hnext⟩ | hnext <;> rw [hnext] at hholds <;>
        exact hholds.elim
  | @heartbeat guard _ _ _ _ hphase | @ack guard _ hphase | @served _ guard _ _ hphase =>
    cases guard with
    | conn => rw [hphase]; exact .inl trivial
    | bridge => exact hholds.elim
  | stream | connLost => exact .inl hholds
  | _ => exact hholds.elim

/-! ## The invariant -/

/-- The connections have distinct numbers, and a handler that holds its guard has its entry in the
registry.
SOURCE: core/proxy/server.rs:75-96, 519-525, 619-701 -/
structure Registered (s : Server EndpointId Doc) : Prop where
  connSeq_lt : ∀ (c : Nat) (h : Handler EndpointId), s.handlers[c]? = some h →
    h.peer.isSome = true → h.connSeq < s.shared.nextConnSeq
  connSeq_inj : ∀ (c d : Nat) (h k : Handler EndpointId), s.handlers[c]? = some h →
    s.handlers[d]? = some k → h.peer.isSome = true → k.peer.isSome = true →
      h.connSeq = k.connSeq → c = d
  entry : ∀ (c : Nat) (h : Handler EndpointId), s.handlers[c]? = some h → HoldsConn h.phase →
    ∃ id alpn, h.peer = some (id, alpn) ∧
      ∃ e ∈ s.shared.registry.entriesOf id, e.connSeq = h.connSeq ∧ e.connection = c

variable {s t : Server EndpointId Doc}

omit [DecidableEq EndpointId] in
theorem exists_before_moved {d : Nat} {k : Handler EndpointId}
    (hk : (s.moved c h' sh' l).handlers[d]? = some k) :
    ∃ k₀, (d = c ∧ k₀ = h' ∨ d ≠ c ∧ s.handlers[d]? = some k₀) ∧ k.phase = k₀.phase ∧
      k.peer = k₀.peer ∧ k.connSeq = k₀.connSeq := by
  obtain ⟨k₀, hk₀, ⟨rfl, -⟩ | ⟨rfl, -⟩⟩ := Server.getElem?_moved hk
  · exact ⟨k, hk₀, rfl, rfl, rfl⟩
  · exact ⟨k₀, hk₀, rfl, rfl, rfl⟩

/-- The number of a handler after its move is below the counter and no other's. -/
theorem Registered.moved_connSeq (hinv : Registered s) (hh : s.handlers[c]? = some h)
    (hmove : HandlerStep ctx c s.shared h l h' sh' es) (hpeer : h'.peer.isSome = true) :
    h'.connSeq < sh'.nextConnSeq ∧ ∀ (d : Nat) (k : Handler EndpointId), d ≠ c →
      s.handlers[d]? = some k → k.peer.isSome = true → h'.connSeq ≠ k.connSeq := by
  rcases connSeq_move hmove with ⟨hp, hs, hn⟩ | ⟨-, hs, hn⟩
  · rw [hp] at hpeer
    rw [hs, hn]
    exact ⟨hinv.connSeq_lt c h hh hpeer, fun d k hd hk hkpeer heq =>
      hd (hinv.connSeq_inj c d h k hh hk hpeer hkpeer heq).symm⟩
  · refine ⟨by omega, fun d k _ hk hkpeer heq => ?_⟩
    have hlt := hinv.connSeq_lt d k hk hkpeer
    omega

/-- A handler's move keeps the entries of all handlers. -/
theorem Registered.move (hinv : Registered s) (hh : s.handlers[c]? = some h)
    (hmove : HandlerStep ctx c s.shared h l h' sh' es) : Registered (s.moved c h' sh' l) := by
  have hnext : s.shared.nextConnSeq ≤ sh'.nextConnSeq := by
    have hseq := connSeq_move hmove
    omega
  refine ⟨?_, ?_, ?_⟩
  · intro d k hk hpeer
    obtain ⟨k₀, hk₀, -, hpeer₀, hseq₀⟩ := exists_before_moved hk
    rw [hpeer₀] at hpeer
    rw [hseq₀]
    rcases hk₀ with ⟨-, rfl⟩ | ⟨-, hk₀⟩
    · exact (hinv.moved_connSeq hh hmove hpeer).1
    · exact (hinv.connSeq_lt d k₀ hk₀ hpeer).trans_le hnext
  · intro d₁ d₂ k₁ k₂ hk₁ hk₂ hpeer₁ hpeer₂ heq
    obtain ⟨j₁, hj₁, -, hp₁, hs₁⟩ := exists_before_moved hk₁
    obtain ⟨j₂, hj₂, -, hp₂, hs₂⟩ := exists_before_moved hk₂
    rw [hp₁] at hpeer₁
    rw [hp₂] at hpeer₂
    rw [hs₁, hs₂] at heq
    rcases hj₁ with ⟨rfl, rfl⟩ | ⟨hne₁, hj₁⟩ <;> rcases hj₂ with ⟨rfl, rfl⟩ | ⟨hne₂, hj₂⟩
    · rfl
    · exact absurd heq ((hinv.moved_connSeq hh hmove hpeer₁).2 d₂ j₂ hne₂ hj₂ hpeer₂)
    · exact absurd heq.symm ((hinv.moved_connSeq hh hmove hpeer₂).2 d₁ j₁ hne₁ hj₁ hpeer₁)
    · exact hinv.connSeq_inj d₁ d₂ j₁ j₂ hj₁ hj₂ hpeer₁ hpeer₂ heq
  · intro d k hk hholds
    obtain ⟨k₀, hk₀, hphase₀, hpeer₀, hseq₀⟩ := exists_before_moved hk
    rw [hphase₀] at hholds
    rw [hpeer₀, hseq₀, Server.moved_shared]
    rcases hk₀ with ⟨rfl, rfl⟩ | ⟨hne, hk₀⟩
    · -- its own move: it registers here, or keeps its guard
      rcases entry_of_holdsConn hmove hholds with hheld | ⟨id, alpn, hpeer, -, hentry⟩
      · obtain ⟨id, alpn, hpeer, e, he, hseq, hconn⟩ := hinv.entry d h hh hheld
        obtain ⟨e', he', hseq', hconn'⟩ := entry_kept hmove he fun _ _ => ⟨hheld, hholds⟩
        rcases holdsConn_move hmove hheld with ⟨-, hp, hs⟩ | ⟨hexit, rfl⟩
        · exact ⟨id, alpn, hp.trans hpeer, e', he', by rw [hseq', hseq, hs], hconn'.trans hconn⟩
        · cases hmove with
          | drop | dropUnconnected => exact hholds.elim
          | gaveUp hl | served hl => exact hl.elim
      · exact ⟨id, alpn, hpeer, hentry⟩
    obtain ⟨id, alpn, hpeer, e, he, hseq, hconn⟩ := hinv.entry d k₀ hk₀ hholds
    obtain ⟨e', he', hseq', hconn'⟩ := entry_kept hmove he fun hp heq => by
      have hcd := hinv.connSeq_inj c d h k₀ hh hk₀ (by cases hq : h.peer <;> simp_all)
        (by rw [hpeer]; rfl) (by rw [← heq, hseq])
      exact absurd hcd.symm hne
    exact ⟨id, alpn, hpeer, e', he', hseq'.trans hseq, hconn'.trans hconn⟩

variable {l : ServerLabel EndpointId}

theorem Registered.loop (hinv : Registered s) (hloop : LoopStep s l t es) : Registered t := by
  cases hloop with
  | accept =>
    -- the new handler has neither a peer nor a guard
    refine ⟨?_, ?_, ?_⟩
    · intro c h hh hpeer
      rcases getElem?_concat_cases hh with hh | ⟨-, rfl⟩
      · exact hinv.connSeq_lt c h hh hpeer
      · cases hpeer
    · intro c d h k hh hk hp hq
      rcases getElem?_concat_cases hh with hh | ⟨-, rfl⟩
      · rcases getElem?_concat_cases hk with hk | ⟨-, rfl⟩
        · exact hinv.connSeq_inj c d h k hh hk hp hq
        · cases hq
      · cases hp
    · intro c h hh hholds
      rcases getElem?_concat_cases hh with hh | ⟨-, rfl⟩
      · exact hinv.entry c h hh hholds
      · exact hholds.elim
  | _ => exact ⟨hinv.connSeq_lt, hinv.connSeq_inj, hinv.entry⟩

/-- A step of the server keeps the entries. -/
theorem registered_step (hinv : Registered s) (hstep : s.step ctx l = some (t, es)) :
    Registered t := by
  rcases Server.step_cases hstep with hloop | ⟨c, hl, h, h', sh, rfl, hh, hmove, rfl⟩
  · exact hinv.loop hloop
  · exact hinv.move hh hmove

/-- A run numbers no more connections than it has steps, so the `u64` of the source does not wrap in
a run of fewer than `2 ^ 64` steps. -/
theorem nextConnSeq_le {ls : List (ServerLabel EndpointId)} {log : List (ServerEvent EndpointId)}
    (hrun : (proxyServer ctx).run s ls = some (t, log)) :
    t.shared.nextConnSeq ≤ s.shared.nextConnSeq + ls.length := by
  refine (proxyServer ctx).counter_le (fun s => s.shared.nextConnSeq) ?_ hrun
  intro s l t es hstep
  rcases Server.step_cases hstep with hloop | ⟨c, hl, h, h', sh, rfl, hh, hmove, rfl⟩
  · cases hloop <;> exact Nat.le_succ _
  · have hseq := connSeq_move hmove
    rw [Server.moved_shared]
    omega

/-! ## The tasks -/

def Server.Holds (s : Server EndpointId Doc) (c : Nat) : Prop :=
  ∃ h, s.handlers[c]? = some h ∧ HoldsConn h.phase

/-- No handler drops its guard while a stream of its client is served. -/
def outlivesStreams (s : Serving EndpointId Doc) : ServingLabel EndpointId → Bool
  | .server (.handler c .drop) => s.tasks.all fun task => task.fromBridge || task.connection != c
  | _ => true

/-- Only the drop of its own guard ends a handler's hold. -/
theorem Server.Holds.step (hc : Server.Holds s c) (hstep : s.step ctx l = some (t, es))
    (hl : l ≠ .handler c .drop) : Server.Holds t c := by
  obtain ⟨h, hh, hholds⟩ := hc
  rcases Server.step_cases hstep with hloop | ⟨d, hl', k, k', sh, rfl, hk, hmove, rfl⟩
  · cases hloop with
    | accept => exact ⟨h, getElem?_concat_of_some hh, hholds⟩
    | _ => exact ⟨h, hh, hholds⟩
  obtain ⟨h₁, h₀, hh₁, hcase, hphase, -, -⟩ := Server.exists_moved d k' sh hl' hh
  refine ⟨h₁, hh₁, ?_⟩
  rw [hphase]
  rcases hcase with ⟨rfl, rfl⟩ | ⟨-, rfl⟩
  · cases hh.symm.trans hk
    rcases holdsConn_move hmove hholds with ⟨hheld, -, -⟩ | ⟨-, rfl⟩
    · exact hheld
    · exact absurd rfl hl
  · exact hholds

/-- A client's stream is accepted by a handler that holds its guard. -/
theorem holds_of_stream (hstep : s.step ctx l = some (t, es))
    (hmem : ServerEvent.stream c false ∈ es) : Server.Holds s c ∧ l ≠ .handler c .drop := by
  rcases Server.step_cases hstep with hloop | ⟨d, hl, h, h', sh, rfl, hh, hmove, rfl⟩
  · cases hloop <;> simp at hmem
  cases hmove with
  | @stream guard hb hphase hopen =>
    obtain ⟨rfl, hguard⟩ : c = d ∧ false = (guard == .bridge) := by simpa using hmem
    refine ⟨⟨h, hh, ?_⟩, by simp⟩
    rw [hphase]
    cases guard with
    | conn => trivial
    | bridge => cases hguard
  | reply =>
    split at hmem
    · cases hmem
    · simp at hmem
  | _ => simp at hmem

omit [DecidableEq EndpointId] in
theorem mem_spawnedTasks {task : StreamTask} (h : task ∈ spawnedTasks es) :
    ServerEvent.stream task.connection task.fromBridge ∈ es := by
  obtain ⟨e, he, hsome⟩ := List.mem_filterMap.1 h
  cases e with
  | stream c fromBridge =>
    cases hsome
    exact he
  | _ => cases hsome

/-- The registry and the streams. The connection of every client's stream that is served has its
entry, under the client's id; and every entry is of a connection whose client was admitted and
whose handler has not returned.
SOURCE: core/proxy/server.rs:71-96, 295-298 -/
structure RegistryExact (ctx : ServerCtx EndpointId PublicKey Doc)
    (log : List (ServerEvent EndpointId)) (s : Serving EndpointId Doc) : Prop where
  served : ∀ task ∈ s.tasks, task.fromBridge = false →
    ∃ id alpn, s.server.peerOf task.connection = some (id, alpn) ∧
      ∃ e ∈ s.server.shared.registry.entriesOf id, e.connection = task.connection
  admitted : ∀ id, ∀ e ∈ s.server.shared.registry.entriesOf id, ∃ alpn hello,
    s.server.peerOf e.connection = some (id, alpn) ∧ Server.Holds s.server e.connection ∧
      AdmittedWith ctx log e.connection id alpn hello

structure ServingInv (ctx : ServerCtx EndpointId PublicKey Doc)
    (log : List (ServerEvent EndpointId)) (s : Serving EndpointId Doc) : Prop where
  auth : AuthInv ctx log s.server
  registered : Registered s.server
  tasks : ∀ task ∈ s.tasks, task.fromBridge = false → Server.Holds s.server task.connection

variable {log : List (ServerEvent EndpointId)} {sv sv' : Serving EndpointId Doc}

/-- A step outside the guard's early drop keeps the invariant of the served streams. -/
theorem servingInv_step {l : ServingLabel EndpointId} (hguard : outlivesStreams sv l = true)
    (hinv : ServingInv ctx log sv) (hstep : (servingServer ctx).step sv l = some (sv', es)) :
    ServingInv ctx (log ++ es) sv' := by
  cases l with
  | taskEnd i =>
    simp only [servingServer, Serving.step] at hstep
    split at hstep <;> cases hstep
    rw [List.append_nil]
    exact ⟨hinv.auth, hinv.registered, fun task htask =>
      hinv.tasks task (List.mem_of_mem_eraseIdx htask)⟩
  | server l =>
    obtain ⟨⟨t, es'⟩, ht, ⟨⟩⟩ := Option.map_eq_some_iff.1 hstep
    refine ⟨authInv_step hinv.auth ht, registered_step hinv.registered ht, ?_⟩
    intro task htask hclient
    have hholds : Server.Holds sv.server task.connection ∧
        l ≠ .handler task.connection .drop := by
      rcases List.mem_append.1 htask with hold | hnew
      · refine ⟨hinv.tasks task hold hclient, ?_⟩
        rintro rfl
        have hkept := List.all_eq_true.1 hguard task hold
        simp [hclient] at hkept
      · have hstream := mem_spawnedTasks hnew
        rw [hclient] at hstream
        exact holds_of_stream ht hstream
    exact hholds.1.step ht hholds.2

/-- The invariant gives both directions between entries and streams. -/
theorem ServingInv.registryExact (hinv : ServingInv ctx log sv) : RegistryExact ctx log sv := by
  refine ⟨?_, ?_⟩
  · intro task htask hclient
    obtain ⟨h, hh, hholds⟩ := hinv.tasks task htask hclient
    obtain ⟨id, alpn, hpeer, e, he, -, hconn⟩ := hinv.registered.entry _ h hh hholds
    exact ⟨id, alpn, by rw [Server.peerOf_eq hh, hpeer], e, he, hconn⟩
  · intro id e he
    obtain ⟨h, alpn, hello, hh, hpeer, -, hholds, ha, -⟩ := hinv.auth.registry id e he
    exact ⟨alpn, hello, by rw [Server.peerOf_eq hh, hpeer], ⟨h, hh, hholds⟩, ha⟩

/-- **The registry has the connection of every stream that is served, as long as no handler drops
its guard over a stream of its client** (`outlivesStreams`), and no entry but those of admitted
clients whose handlers run. -/
theorem served_streams_registered {s₀ : Serving EndpointId Doc}
    {ls : List (ServingLabel EndpointId)} (hinit : (servingServer ctx).init s₀)
    (hguard : (servingServer ctx).Guarded (fun s l => outlivesStreams s l = true) s₀ ls)
    (hrun : (servingServer ctx).run s₀ ls = some (sv, log)) : RegistryExact ctx log sv := by
  obtain ⟨hserver, htasks⟩ := hinit
  have hauth : AuthInv ctx [] s₀.server :=
    authInv_run hserver ((proxyServer ctx).run_nil s₀.server)
  have hhandlers : s₀.server.handlers = [] := hserver.2.1
  have h₀ : ServingInv ctx [] s₀ := by
    refine ⟨hauth, ⟨?_, ?_, ?_⟩, by simp [htasks]⟩ <;> simp [hhandlers]
  have hinv : ServingInv ctx log sv :=
    (servingServer ctx).guarded_log_rule
      (fun _ _ _ _ _ hg hinv hstep => servingInv_step hg hinv hstep) h₀ hguard hrun
  exact hinv.registryExact

end

/-! ## A laptop -/

def laptopStreams (c : Nat) (nonce : UInt8) : List (ServingLabel String) :=
  (laptopConnects c nonce 0).map .server ++
    [.server (.handler c .tryRegister), .server (.handler c (.reply .sent)),
      .server (.handler c .stream)]

def laptopGone (c : Nat) : List (ServingLabel String) :=
  [.server (.handler c .heartbeatError), .server (.handler c .drop)]

/-- The first stream ends before its handler returns, and the laptop connects again. -/
theorem served_streams_registered_laptop :
    ∃ sv log, (servingServer plainServer).run ⟨plainStart, []⟩
        (laptopStreams 0 1 ++ .taskEnd 0 :: laptopGone 0 ++ laptopStreams 1 2) = some (sv, log) ∧
      sv.tasks = [⟨1, false⟩] ∧ RegistryExact plainServer log sv := by
  have heval : ((servingServer plainServer).run ⟨plainStart, []⟩
      (laptopStreams 0 1 ++ .taskEnd 0 :: laptopGone 0 ++ laptopStreams 1 2)).map
        (fun r => r.1.tasks) = some [⟨1, false⟩] := by decide
  obtain ⟨⟨sv, log⟩, hrun, hs⟩ := Option.map_eq_some_iff.1 heval
  exact ⟨sv, log, hrun, hs,
    served_streams_registered ⟨⟨rfl, rfl, rfl, rfl, rfl⟩, rfl⟩ (by decide) hrun⟩

/-- The heartbeats break off while the stream goes on: the handler returns and takes the entry
with it, and the stream is still served. -/
theorem served_stream_unregistered :
    ∃ ls sv log, (servingServer plainServer).run ⟨plainStart, []⟩ ls = some (sv, log) ∧
      ¬ RegistryExact plainServer log sv := by
  have heval : ((servingServer plainServer).run ⟨plainStart, []⟩
      (laptopStreams 0 1 ++ laptopGone 0)).map (fun r =>
        (r.1.tasks, r.1.server.peerOf 0, r.1.server.shared.registry.entriesOf "laptop")) =
      some ([⟨0, false⟩], some ("laptop", .client), []) := by rfl
  obtain ⟨⟨sv, log⟩, hrun, hs⟩ := Option.map_eq_some_iff.1 heval
  obtain ⟨htasks, hs⟩ := Prod.mk.inj hs
  obtain ⟨hpeer, hentries⟩ := Prod.mk.inj hs
  refine ⟨_, sv, log, hrun, fun hexact => ?_⟩
  obtain ⟨id, alpn, hpeer', e, he, -⟩ :=
    hexact.served ⟨0, false⟩ (by rw [htasks]; exact List.mem_singleton.2 rfl) rfl
  cases hpeer.symm.trans hpeer'
  rw [hentries] at he
  cases he

end Flextunnel.Analysis
