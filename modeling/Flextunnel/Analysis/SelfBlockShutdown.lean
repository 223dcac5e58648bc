import Flextunnel.Model.ServerSteps

/-!
# What a self-block stops

A client that has seen two servers under one identity says so in its `Hello`; the server
then records itself as conflicted and signals its accept loop to return. The handlers
never look at the record, and the loop takes the signal in an arm of an unbiased select,
so a `Hello` read after the record is still accepted (`accepted_after_self_block`).
-/

set_option autoImplicit false

namespace Flextunnel.Analysis

open Lib Model

section

variable {EndpointId PublicKey Doc : Type} [DecidableEq EndpointId] [DecidableEq PublicKey]
  {ctx : ServerCtx EndpointId PublicKey Doc} {log es : List (ServerEvent EndpointId)}
  {s t : Server EndpointId Doc} {c : Nat} {h h' : Handler EndpointId}
  {sh sh' : Shared EndpointId Doc} {l : HandlerLabel EndpointId}

/-! ## The advisory -/

/-- Nothing was read from the connection or answered on it. -/
def Silent (log : List (ServerEvent EndpointId)) (c : Nat) : Prop :=
  (∀ hello, ServerEvent.helloRead c hello ∉ log) ∧ ∀ resp, ServerEvent.response c resp ∉ log

/-- Where a handler can be that has read this advisory. -/
def Advised (hello : Hello) : Phase → Prop
  | .decoded hello' => hello' = hello
  | .admitted hello' => hello' = hello
  | .rejecting _ | .selfBlocked | .stopping | .closing _ _ | .exiting none | .done => True
  | _ => False

structure HelloInv (log : List (ServerEvent EndpointId)) (c : Nat) (h : Handler EndpointId) :
    Prop where
  silent : h.phase = .accepting ∨ h.phase = .awaitHello → Silent log c
  advised : ∀ hello, ServerEvent.helloRead c hello ∈ log → hello.duplicateServerObserved = true →
    Advised hello h.phase ∧ ∀ resp, ServerEvent.response c resp ∈ log → resp.accepted = false

omit [DecidableEq EndpointId] in
theorem Silent.append (h₁ : Silent log c) (h₂ : Silent es c) : Silent (log ++ es) c :=
  ⟨fun hello hmem => (List.mem_append.1 hmem).elim (h₁.1 hello) (h₂.1 hello),
    fun resp hmem => (List.mem_append.1 hmem).elim (h₁.2 resp) (h₂.2 resp)⟩

omit [DecidableEq EndpointId] in
/-- Moves that neither read nor answer keep what a handler may still do. -/
theorem HelloInv.silent_move (hinv : HelloInv log c h) (hes : Silent es c)
    (hsilent : h'.phase = .accepting ∨ h'.phase = .awaitHello →
      h.phase = .accepting ∨ h.phase = .awaitHello)
    (hadvised : ∀ hello, hello.duplicateServerObserved = true → Advised hello h.phase →
      Advised hello h'.phase) : HelloInv (log ++ es) c h' := by
  refine ⟨fun hphase => (hinv.silent (hsilent hphase)).append hes, ?_⟩
  intro hello hread hobserved
  have hread' := (List.mem_append.1 hread).resolve_right (hes.1 hello)
  obtain ⟨hadv, hresp⟩ := hinv.advised hello hread' hobserved
  refine ⟨hadvised hello hobserved hadv, ?_⟩
  intro resp hmem
  exact hresp resp ((List.mem_append.1 hmem).resolve_right (hes.2 resp))

/-- A handler that read an advisory never comes to accept. -/
theorem helloInv_move (hinv : HelloInv log c h) (hmove : HandlerStep ctx c sh h l h' sh' es) :
    HelloInv (log ++ es) c h' := by
  cases hmove with
  | @helloRead bytes remoteId alpn hello hphase hpeer halpn =>
    have hsilent := hinv.silent (.inr hphase)
    refine ⟨by simp, ?_⟩
    intro hello' hread hobserved
    obtain rfl : hello' = hello := by simpa [hsilent.1] using hread
    exact ⟨rfl, fun resp hresp => by simp [hsilent.2] at hresp⟩
  | @reply write r hreply hsent =>
    have hold : ∀ hello, ServerEvent.helloRead c hello ∈ log ++
        (if h.closed = true ∨ write = .unencoded then [] else [.response c r.resp]) →
        ServerEvent.helloRead c hello ∈ log := by
      intro hello hread
      rcases List.mem_append.1 hread with hread | hread
      · exact hread
      · split at hread <;> simp at hread
    rcases Phase.reply_cases hreply write with
      ⟨guard, routes, hphase, -, hnext⟩ | ⟨reason, hresp, hphase, hnext⟩
    · -- a registered handler read no advisory
      refine ⟨?_, ?_⟩
      · rcases hnext with hnext | hnext <;> simp [hnext]
      intro hello hread hobserved
      have hadv := (hinv.advised hello (hold hello hread) hobserved).1
      rw [hphase] at hadv
      exact hadv.elim
    refine ⟨?_, ?_⟩
    · rcases hnext with ⟨code, text, hnext⟩ | hnext <;> simp [hnext]
    intro hello hread hobserved
    obtain ⟨-, hresps⟩ := hinv.advised hello (hold hello hread) hobserved
    refine ⟨?_, ?_⟩
    · rcases hnext with ⟨code, text, hnext⟩ | hnext <;> rw [hnext] <;> trivial
    intro resp hmem
    rcases List.mem_append.1 hmem with hmem | hmem
    · exact hresps resp hmem
    split at hmem
    · cases hmem
    · obtain rfl : resp = r.resp := by simpa using hmem
      rw [hresp]
      rfl
  | connected hphase hhook =>
    refine hinv.silent_move (by simp [Silent]) (fun _ => .inl hphase) ?_
    intro hello _ hadv
    rw [hphase] at hadv
    exact hadv.elim
  | gaveUp hl hphase =>
    refine hinv.silent_move (by simp [Silent]) (fun _ => hphase) ?_
    intro hello _ _
    trivial
  | admitted hphase hpeer hunblocked hauth =>
    refine hinv.silent_move (by simp [Silent]) (by simp) ?_
    intro hello _ hadv
    rwa [hphase] at hadv
  | registered hphase hpeer hobserved hreg | duplicate hphase hpeer hobserved hreg =>
    refine hinv.silent_move (by simp [Silent]) (by simp) ?_
    rintro hello htrue hadv
    rw [hphase] at hadv
    obtain rfl := hadv
    rw [hobserved] at htrue
    cases htrue
  | stream | connLost => exact hinv.silent_move (by simp [Silent]) id fun _ _ => id
  | hookRejected | refused | selfBlock | notify | close | drop | dropUnconnected =>
    exact hinv.silent_move (by simp [Silent]) (by simp) fun _ _ _ => trivial
  | bridgeHello hphase | blockClient hphase | closeDup hphase | bridgeRegister hphase
  | heartbeat hphase | ack hphase | served hl hphase =>
    refine hinv.silent_move (by simp [Silent]) (by simp) ?_
    intro hello _ hadv
    rw [hphase] at hadv
    exact hadv.elim

theorem silent_move_other {d : Nat} (hd : d ≠ c) (hmove : HandlerStep ctx c sh h l h' sh' es) :
    Silent es d := by
  cases hmove with
  | reply => split <;> simp [Silent, hd]
  | helloRead => simp [Silent, hd]
  | _ => simp [Silent]

/-! ## The signal -/

/-- A self-block's signal is on its way: a handler is about to give it, it is stored, or
the accept loop has returned. -/
def SignalPending (s : Server EndpointId Doc) : Prop :=
  (∃ d : Nat, ∃ k : Handler EndpointId, s.handlers[d]? = some k ∧ k.phase = .selfBlocked) ∨
    s.shared.shutdown = true ∨ ∃ b, s.loop = .returned b

/-- A self-blocked handler stays so until it gives the signal. -/
theorem selfBlocked_move (hphase : h.phase = .selfBlocked)
    (hmove : HandlerStep ctx c sh h l h' sh' es) :
    h'.phase = .selfBlocked ∨ sh'.shutdown = true := by
  cases hmove with
  | notify => exact .inr rfl
  | connLost | stream => exact .inl hphase
  | reply hreply hsent =>
    rw [hphase] at hreply
    cases hreply
  | gaveUp hl hphase₁ =>
    rcases hphase₁ with hphase₁ | hphase₁ <;> cases hphase.symm.trans hphase₁
  | served hl hphase₁ => cases hphase.symm.trans hphase₁
  | hookRejected hphase₁ | connected hphase₁ | bridgeHello hphase₁ | helloRead hphase₁
  | refused hphase₁ | admitted hphase₁ | selfBlock hphase₁ | registered hphase₁
  | duplicate hphase₁ | blockClient hphase₁ | closeDup hphase₁ | bridgeRegister hphase₁
  | close hphase₁ | heartbeat hphase₁ | ack hphase₁ | drop hphase₁
  | dropUnconnected hphase₁ => cases hphase.symm.trans hphase₁

/-- No move takes back a stored signal or a recorded conflict. -/
theorem signal_kept_move (hmove : HandlerStep ctx c sh h l h' sh' es) :
    (sh.shutdown = true → sh'.shutdown = true) ∧
      ∀ id, sh.blocklist.isServerConflicted id = true →
        sh'.blocklist.isServerConflicted id = true := by
  cases hmove with
  | selfBlock =>
    refine ⟨by simp [Shared.selfBlock], ?_⟩
    intro id hid
    simp [hid]
  | blockClient => exact ⟨by simp [Shared.blockClient], by simp⟩
  | notify => exact ⟨fun _ => rfl, fun _ hid => hid⟩
  | heartbeat | drop =>
    simp only [Shared.refresh, Shared.drop]
    split <;> exact ⟨id, fun _ => id⟩
  | _ => exact ⟨id, fun _ => id⟩

/-- A handler's move does not lose the signal. -/
theorem SignalPending.move (hpending : SignalPending s) (hh : s.handlers[c]? = some h)
    (hmove : HandlerStep ctx c s.shared h l h' sh' es) : SignalPending (s.moved c h' sh' l) := by
  rcases hpending with ⟨d, k, hk, hphase⟩ | hshutdown | hreturned
  · obtain ⟨k', k₀, hk', hk₀, hphase', -, -⟩ := Server.exists_moved c h' sh' l hk
    rcases hk₀ with ⟨rfl, rfl⟩ | ⟨-, rfl⟩
    · cases hh.symm.trans hk
      rcases selfBlocked_move hphase hmove with hself | hshutdown
      · exact .inl ⟨d, k', hk', hphase'.trans hself⟩
      · exact .inr (.inl hshutdown)
    · exact .inl ⟨d, k', hk', hphase'.trans hphase⟩
  · exact .inr (.inl ((signal_kept_move hmove).1 hshutdown))
  · exact .inr (.inr hreturned)

/-! ## The invariant -/

structure ShutdownInv (ctx : ServerCtx EndpointId PublicKey Doc)
    (log : List (ServerEvent EndpointId)) (s : Server EndpointId Doc) : Prop where
  hello : ∀ c h, s.handlers[c]? = some h → HelloInv log c h
  silent : ∀ c, s.handlers.length ≤ c → Silent log c
  recorded : ∀ c, ServerEvent.selfBlocked c ∈ log →
    s.shared.blocklist.isServerConflicted (ctx.crates.endpointIdText ctx.server.ownId) = true ∧
      SignalPending s
  spawned : ∀ c, c < s.handlers.length → ServerEvent.spawned c ∈ log
  returned : ∀ pre b post, log = pre ++ .loopReturned b :: post → (∃ b', s.loop = .returned b') ∧
    (∀ c, c < s.handlers.length → ServerEvent.spawned c ∈ pre) ∧
    ∀ c, ServerEvent.spawned c ∉ post

/-- A handler's move keeps the invariant. -/
theorem shutdownInv_handler (hinv : ShutdownInv ctx log s) (hh : s.handlers[c]? = some h)
    (hmove : HandlerStep ctx c s.shared h l h' sh' es) :
    ShutdownInv ctx (log ++ es) (s.moved c h' sh' l) := by
  have hquiet : ∀ e ∈ es, (∀ b, e ≠ .loopReturned b) ∧ ∀ d, e ≠ .spawned d := by
    cases hmove with
    | reply => split <;> simp
    | _ => simp
  refine ⟨?_, ?_, ?_, ?_, ?_⟩
  · intro d k hk
    obtain ⟨k₀, hk₀, hcase⟩ := Server.getElem?_moved hk
    have hinv₀ : HelloInv (log ++ es) d k₀ := by
      rcases hk₀ with ⟨rfl, rfl⟩ | ⟨hne, hk₀⟩
      · exact helloInv_move (hinv.hello d h hh) hmove
      · exact (hinv.hello d k₀ hk₀).silent_move (silent_move_other hne hmove) id fun _ _ => id
    rcases hcase with ⟨rfl, -⟩ | ⟨rfl, -⟩
    · exact hinv₀
    · exact ⟨hinv₀.silent, hinv₀.advised⟩
  · intro d hd
    rw [Server.length_moved] at hd
    have hne : d ≠ c := by
      rintro rfl
      exact absurd (List.getElem?_eq_some_iff.1 hh).1 (by omega)
    exact (hinv.silent d hd).append (silent_move_other hne hmove)
  · intro d hd
    rcases List.mem_append.1 hd with hold | hnew
    · obtain ⟨hconflicted, hpending⟩ := hinv.recorded d hold
      exact ⟨(signal_kept_move hmove).2 _ hconflicted, hpending.move hh hmove⟩
    cases hmove with
    | @selfBlock nowMs write remoteId alpn hello hphase hpeer hobserved =>
      obtain ⟨k', hk', hphase', -, -⟩ := Server.exists_moved_self
        { h with phase := .selfBlocked } (s.shared.selfBlock ctx remoteId nowMs write)
        (.selfBlock nowMs write) hh
      exact ⟨by simp, .inl ⟨c, k', hk', hphase'⟩⟩
    | reply => split at hnew <;> simp at hnew
    | _ => simp at hnew
  · intro d hd
    rw [Server.length_moved] at hd
    exact List.mem_append_left _ (hinv.spawned d hd)
  · intro pre b post heq
    rw [Server.length_moved]
    obtain ⟨post', rfl, hlog⟩ := (split_append heq).resolve_right fun ⟨mid, _, hes⟩ =>
      (hquiet (.loopReturned b) (by simp [hes])).1 b rfl
    obtain ⟨hreturned, hspawned, hpost⟩ := hinv.returned pre b post' hlog
    refine ⟨hreturned, hspawned, ?_⟩
    intro d hd
    rcases List.mem_append.1 hd with hd | hd
    · exact hpost d hd
    · exact (hquiet _ hd).2 d rfl

omit [DecidableEq EndpointId] in
theorem SignalPending.loop (hpending : SignalPending s) {l : ServerLabel EndpointId}
    (hloop : LoopStep s l t es) : SignalPending t := by
  cases hloop with
  | acquire hacq =>
    refine hpending.imp_right (Or.imp_right ?_)
    rintro ⟨b, hb⟩
    cases hacq.symm.trans hb
  | accept hsel =>
    rcases hpending with ⟨d, k, hk, hphase⟩ | hshutdown | ⟨b, hb⟩
    · exact .inl ⟨d, k, getElem?_concat_of_some hk, hphase⟩
    · exact .inr (.inl hshutdown)
    · cases hsel.symm.trans hb
  | endpointClosed => exact .inr (.inr ⟨false, rfl⟩)
  | shutdown => exact .inr (.inr ⟨true, rfl⟩)
  | tick => exact hpending

omit [DecidableEq EndpointId] [DecidableEq PublicKey] in
/-- A step of the accept loop keeps the invariant; a loop that has returned takes none. -/
theorem shutdownInv_loop (hinv : ShutdownInv ctx log s) {l : ServerLabel EndpointId}
    (hloop : LoopStep s l t es) : ShutdownInv ctx (log ++ es) t := by
  have hsilent : ∀ c, Silent es c := by
    cases hloop <;> simp [Silent]
  have hrecorded : ∀ c, ServerEvent.selfBlocked c ∈ log ++ es →
      t.shared.blocklist.isServerConflicted (ctx.crates.endpointIdText ctx.server.ownId) = true ∧
        SignalPending t := by
    intro c hc
    have hold : ServerEvent.selfBlocked c ∈ log := by
      refine (List.mem_append.1 hc).resolve_right ?_
      cases hloop <;> simp
    obtain ⟨hconflicted, hpending⟩ := hinv.recorded c hold
    refine ⟨?_, hpending.loop hloop⟩
    cases hloop <;> exact hconflicted
  have hhello : ∀ c h, s.handlers[c]? = some h → HelloInv (log ++ es) c h := fun c h hh =>
    (hinv.hello c h hh).silent_move (hsilent c) id fun _ _ => id
  have hsilent' : ∀ c, s.handlers.length ≤ c → Silent (log ++ es) c := fun c hc =>
    (hinv.silent c hc).append (hsilent c)
  -- a loop that has returned takes no further step
  have hrunning : s.loop = .acquiring ∨ s.loop = .selecting → ∀ pre b post,
      log ≠ pre ++ .loopReturned b :: post := by
    intro hpc pre b post heq
    obtain ⟨⟨b', hb'⟩, -⟩ := hinv.returned pre b post heq
    rcases hpc with hpc | hpc <;> cases hpc.symm.trans hb'
  cases hloop with
  | acquire hacq =>
    refine ⟨hhello, hsilent', hrecorded, ?_, ?_⟩
    · simpa using hinv.spawned
    · intro pre b post heq
      exact absurd (by simpa using heq) (hrunning (.inl hacq) pre b post)
  | accept hsel =>
    refine ⟨?_, ?_, hrecorded, ?_, ?_⟩
    · intro c h hh
      rcases getElem?_concat_cases hh with hh | ⟨rfl, -⟩
      · exact hhello c h hh
      · have hnone := hsilent' _ le_rfl
        exact ⟨fun _ => hnone, fun hello hread => absurd hread (hnone.1 hello)⟩
    · intro c hc
      refine hsilent' c ?_
      simp only [List.length_append, List.length_singleton] at hc
      omega
    · intro c hc
      rcases Nat.lt_or_ge c s.handlers.length with hlt | hge
      · exact List.mem_append_left _ (hinv.spawned c hlt)
      obtain rfl : c = s.handlers.length := by
        simp only [List.length_append, List.length_singleton] at hc
        omega
      simp
    · intro pre b post heq
      rcases split_concat heq with ⟨-, hne, -⟩ | ⟨post', -, hlog⟩
      · cases hne
      · exact absurd hlog (hrunning (.inr hsel) pre b post')
  | endpointClosed hsel | shutdown hsel =>
    refine ⟨hhello, hsilent', hrecorded, ?_, ?_⟩
    · intro c hc
      exact List.mem_append_left _ (hinv.spawned c hc)
    intro pre b post heq
    rcases split_concat heq with ⟨rfl, -, rfl⟩ | ⟨post', -, hlog⟩
    · exact ⟨⟨_, rfl⟩, hinv.spawned, nofun⟩
    · exact absurd hlog (hrunning (.inr hsel) pre b post')
  | tick =>
    refine ⟨hhello, hsilent', hrecorded, ?_, ?_⟩
    · simpa using hinv.spawned
    · simpa using hinv.returned

/-- **What a self-block stops.** In every run: a `Hello` that carries the advisory is never answered
as accepted; a recorded self-block stays, its signal on its way until the accept loop has returned;
and after that no handler is spawned, so whatever is answered then is answered by a handler spawned
before. -/
theorem self_block_stops_the_server {s₀ : Server EndpointId Doc}
    {ls : List (ServerLabel EndpointId)} (hinit : (proxyServer ctx).init s₀)
    (hrun : (proxyServer ctx).run s₀ ls = some (s, log)) :
    (∀ c hello resp, ServerEvent.helloRead c hello ∈ log → hello.duplicateServerObserved = true →
      ServerEvent.response c resp ∈ log → resp.accepted = false) ∧
    (∀ c, ServerEvent.selfBlocked c ∈ log →
      s.shared.blocklist.isServerConflicted (ctx.crates.endpointIdText ctx.server.ownId) = true ∧
        SignalPending s) ∧
    ∀ pre b post, log = pre ++ .loopReturned b :: post →
      (∀ c, ServerEvent.spawned c ∉ post) ∧
      ∀ c resp, ServerEvent.response c resp ∈ post → ServerEvent.spawned c ∈ pre := by
  obtain ⟨-, hhandlers, -⟩ := hinit
  have h₀ : ShutdownInv ctx [] s₀ := by
    refine ⟨?_, fun _ _ => ⟨nofun, nofun⟩, nofun, ?_, ?_⟩
    · intro c h hh
      simp [hhandlers] at hh
    · intro c hc
      simp [hhandlers] at hc
    · intro pre b post heq
      simp at heq
  have hinv : ShutdownInv ctx log s := by
    refine (proxyServer ctx).log_rule ?_ h₀ hrun
    intro log s l t es hinv hstep
    rcases Server.step_cases hstep with hloop | ⟨c, hl, h, h', sh, rfl, hh, hmove, rfl⟩
    · exact shutdownInv_loop hinv hloop
    · exact shutdownInv_handler hinv hh hmove
  have hknown : ∀ c, (∃ hello, ServerEvent.helloRead c hello ∈ log) ∨
      (∃ resp, ServerEvent.response c resp ∈ log) → c < s.handlers.length := by
    intro c hc
    by_contra hge
    obtain ⟨hread, hresp⟩ := hinv.silent c (by omega)
    rcases hc with ⟨hello, hc⟩ | ⟨resp, hc⟩
    · exact hread hello hc
    · exact hresp resp hc
  refine ⟨?_, hinv.recorded, ?_⟩
  · intro c hello resp hread hobserved hresp
    have hh := List.getElem?_eq_getElem (hknown c (.inl ⟨hello, hread⟩))
    exact ((hinv.hello c _ hh).advised hello hread hobserved).2 resp hresp
  intro pre b post heq
  obtain ⟨-, hspawned, hpost⟩ := hinv.returned pre b post heq
  refine ⟨hpost, ?_⟩
  intro c resp hresp
  exact hspawned c (hknown c (.inr ⟨resp, by simp [heq, hresp]⟩))

end

/-! ## An advisory and another laptop -/

/-- The laptop reports a duplicate server; the server records it and signals its loop. -/
def advisory : List (ServerLabel String) :=
  laptopConnects 0 1 1 ++ [.handler 0 (.selfBlock 0 (.ok ())), .handler 0 .notify]

/-- The advisory is rejected, and the loop returns. -/
theorem self_block_stops_the_server_advisory :
    ∃ s log, (proxyServer plainServer).run plainStart
        (advisory ++ [.handler 0 (.reply .sent), .acquire, .shutdown]) = some (s, log) ∧
      s.loop = .returned true ∧
      (∀ resp, ServerEvent.response 0 resp ∈ log → resp.accepted = false) ∧
      s.shared.blocklist.isServerConflicted "server" = true := by
  have heval : ((proxyServer plainServer).run plainStart
      (advisory ++ [.handler 0 (.reply .sent), .acquire, .shutdown])).map (fun r =>
        (r.1.loop, r.2[2]?, decide (ServerEvent.selfBlocked 0 ∈ r.2))) =
      some (.returned true, some (.helloRead 0 (laptopHello 1 true)), true) := by decide
  obtain ⟨⟨s, log⟩, hrun, hs⟩ := Option.map_eq_some_iff.1 heval
  obtain ⟨hloop, hread, hblocked⟩ : s.loop = .returned true ∧
      log[2]? = some (.helloRead 0 (laptopHello 1 true)) ∧
      ServerEvent.selfBlocked 0 ∈ log := by simpa using hs
  obtain ⟨hrejected, hrecorded, -⟩ :=
    self_block_stops_the_server ⟨rfl, rfl, rfl, rfl, rfl⟩ hrun
  exact ⟨s, log, hrun, hloop, fun resp => hrejected 0 _ resp (List.mem_of_getElem? hread) rfl,
    (hrecorded 0 hblocked).1⟩

/-- The loop hands over another connection before it takes the signal, and its handler,
which never looks at the record, accepts the `Hello` it reads after the self-block. -/
theorem accepted_after_self_block :
    ∃ ls s log pre post, (proxyServer plainServer).run plainStart ls = some (s, log) ∧
      log = pre ++ .selfBlocked 0 :: post ∧ (∃ hello, ServerEvent.helloRead 1 hello ∈ post) ∧
      ∃ resp, ServerEvent.response 1 resp ∈ post ∧ resp.accepted = true := by
  have heval : ((proxyServer plainServer).run plainStart (advisory ++ laptopConnects 1 1 0 ++
      [.handler 1 .tryRegister, .handler 1 (.reply .sent)])).map (fun r =>
        (r.2[4]?, r.2[7]?, r.2[10]?)) =
      some (some (.selfBlocked 0), some (.helloRead 1 (laptopHello 1 false)),
        some (.response 1 (.acceptedWith 7 (plainServer.server.acceptedRoutes textCrates)))) := by
    decide
  obtain ⟨⟨s, log⟩, hrun, hs⟩ := Option.map_eq_some_iff.1 heval
  obtain ⟨hself, hread, hresp⟩ : log[4]? = some (.selfBlocked 0) ∧
      log[7]? = some (.helloRead 1 (laptopHello 1 false)) ∧
      log[10]? = some (.response 1
        (.acceptedWith 7 (plainServer.server.acceptedRoutes textCrates))) := by simpa using hs
  obtain ⟨hlt, hget⟩ := List.getElem?_eq_some_iff.1 hself
  have hdrop : ∀ {n : Nat} {e : ServerEvent String}, log[5 + n]? = some e → e ∈ log.drop 5 :=
    fun h => List.mem_of_getElem? (List.getElem?_drop.trans h)
  refine ⟨_, s, log, log.take 4, log.drop 5, hrun, ?_, ⟨_, hdrop (n := 2) hread⟩,
    _, hdrop (n := 5) hresp, rfl⟩
  rw [← hget, List.getElem_cons_drop, List.take_append_drop]

end Flextunnel.Analysis
