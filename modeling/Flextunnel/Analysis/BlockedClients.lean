import Flextunnel.Analysis.HandlerChecks

/-!
# A blocked client id stays out

When two instances of a client id are live, the handler that notices puts the id on the
blocklist and closes the other connections. The check, the registration and the block are
separate steps under different locks, so a handler that passed its check before the block
registers and answers after it (`registered_after_block`).
-/

set_option autoImplicit false

namespace Flextunnel.Analysis

open Lib Model

section

variable {EndpointId PublicKey Doc : Type} [DecidableEq EndpointId] [DecidableEq PublicKey]
  {ctx : ServerCtx EndpointId PublicKey Doc}

/-- The handler of a client connection of this id. -/
def ClientOf (h : Handler EndpointId) (id : EndpointId) : Prop :=
  ∃ alpn, h.peer = some (id, alpn) ∧ alpn ≠ .bridge

instance (h : Handler EndpointId) (id : EndpointId) : Decidable (ClientOf h id) :=
  match hp : h.peer with
  | none => .isFalse fun ⟨_, hpeer, _⟩ => by simp [hp] at hpeer
  | some (id', alpn) =>
    decidable_of_iff (id' = id ∧ alpn ≠ .bridge) (by simp [ClientOf, hp, eq_comm])

/-- The event lets a client connection of the id in. -/
def LetsIn (s : Server EndpointId Doc) (id : EndpointId) : ServerEvent EndpointId → Prop
  | .registered _ id' => id' = id
  | .response c resp => resp.accepted = true ∧ ∃ alpn, s.peerOf c = some (id, alpn) ∧ alpn ≠ .bridge
  | _ => False

/-- A block does not miss this handler: it is neither between its check and its
registration, nor between its registration and its answer, and if it is served it is
closed or among the connections to be closed. -/
def Caught (dups : List Nat) (d : Nat) (k : Handler EndpointId) : Bool :=
  match k.phase with
  | .admitted hello => hello.duplicateServerObserved
  | .registered .conn => false
  | .serving .conn _ => k.closed || d ∈ dups
  | _ => true

/-- No block misses a handler of its id. -/
def blocksAll (s : Server EndpointId Doc) : ServerLabel EndpointId → Bool
  | .handler c (.blockClient _ _) =>
    match s.handlers[c]? with
    | none => true
    | some h =>
      match h.phase, h.peer with
      | .duplicate dups, some (id, _) =>
        s.handlers.zipIdx.all fun (k, d) => d = c ∨ ¬ ClientOf k id ∨ Caught dups d k
      | _, _ => true
  | _ => true

/-! ## The invariant -/

/-- Some handler is about to close the connection. -/
def TornDown (s : Server EndpointId Doc) (d : Nat) : Prop :=
  ∃ b : Nat, ∃ k : Handler EndpointId, ∃ dups, s.handlers[b]? = some k ∧
    k.phase = .tearingDown dups ∧ d ∈ dups

/-- What a handler of a blocked id may still be at. -/
def Locked (s : Server EndpointId Doc) (d : Nat) (closed : Bool) : Phase → Prop
  | .admitted hello => hello.duplicateServerObserved = true
  | .registered .conn => False
  | .serving .conn _ => closed = true ∨ TornDown s d
  | _ => True

structure LockInv (ctx : ServerCtx EndpointId PublicKey Doc) (log : List (ServerEvent EndpointId))
    (s : Server EndpointId Doc) : Prop where
  auth : AuthInv ctx log s
  blocked : ∀ c id, ServerEvent.blocked c id ∈ log →
    s.shared.blocklist.isClientBlocked (ctx.crates.endpointIdText id) = true
  locked : ∀ c id, ServerEvent.blocked c id ∈ log → ∀ d k, s.handlers[d]? = some k →
    ClientOf k id → Locked s d k.closed k.phase
  order : log.Pairwise fun e e' => ∀ c id, e = .blocked c id → ¬ LetsIn s id e'

variable {log es : List (ServerEvent EndpointId)} {s t : Server EndpointId Doc} {c : Nat}
  {id : EndpointId} {h h' : Handler EndpointId} {sh' : Shared EndpointId Doc}
  {l : HandlerLabel EndpointId}

/-- What an event of the past let in, it let in before the step. -/
theorem LetsIn.of_step (hauth : AuthInv ctx log s) {l : ServerLabel EndpointId}
    (hstep : s.step ctx l = some (t, es)) {e : ServerEvent EndpointId} (he : e ∈ log)
    (h : LetsIn t id e) : LetsIn s id e := by
  cases e with
  | registered c id' => exact h
  | response c resp =>
    obtain ⟨hacc, alpn, hpeer, hne⟩ := h
    have hnot : ¬ Rejection (.response c resp : ServerEvent EndpointId) := by
      rintro ⟨nonce, reason, rfl⟩
      cases hacc
    obtain ⟨d, p, hto, hp, -⟩ := (hauth.sent _ he).resolve_left hnot
    cases hto
    cases (hauth.peerOf_step hstep hp).symm.trans hpeer
    exact ⟨hacc, alpn, hp, hne⟩
  | _ => exact h.elim

/-- No move takes an id off the blocklist. -/
theorem isClientBlocked_move {sh : Shared EndpointId Doc} {id : String}
    (hmove : HandlerStep ctx c sh h l h' sh' es)
    (hid : sh.blocklist.isClientBlocked id = true) : sh'.blocklist.isClientBlocked id = true := by
  cases hmove with
  | selfBlock => simpa using hid
  | blockClient => simp [hid]
  | heartbeat | drop =>
    simp only [Shared.refresh, Shared.drop]
    split <;> exact hid
  | _ => exact hid

/-- A teardown still has a connection on its list until it closes it. -/
theorem TornDown.move {d : Nat} (htorn : TornDown s d) (hh : s.handlers[c]? = some h)
    (hmove : HandlerStep ctx c s.shared h l h' sh' es) :
    TornDown (s.moved c h' sh' l) d ∨ l = .closeDup d := by
  obtain ⟨b, k, dups, hk, hphase, hd⟩ := htorn
  obtain ⟨k', k₀, hk', hk₀, hphase', -, -⟩ := Server.exists_moved c h' sh' l hk
  rcases hk₀ with ⟨rfl, rfl⟩ | ⟨-, rfl⟩
  · cases hh.symm.trans hk
    have hstays : k₀.phase = .tearingDown dups → TornDown (s.moved b k₀ sh' l) d :=
      fun heq => ⟨b, k', dups, hk', hphase'.trans heq, hd⟩
    cases hmove with
    | @closeDup x dups' hphase₁ hx =>
      obtain rfl : dups = dups' := Phase.tearingDown.inj (hphase.symm.trans hphase₁)
      by_cases hxd : x = d
      · exact .inr (by rw [hxd])
      · have hmem : d ∈ dups.erase x := (List.mem_erase_of_ne (Ne.symm hxd)).2 hd
        exact .inl ⟨b, k', dups.erase x, hk', hphase', hmem⟩
    | @reply write r hreply hsent =>
      rcases Phase.reply_cases hreply write with
        ⟨guard, routes, hphase₁, -⟩ | ⟨reason, -, hphase₁ | hphase₁ | hphase₁, -⟩ <;>
        rw [hphase] at hphase₁
      · cases hphase₁
      · cases hphase₁
      · cases hphase₁
      · rw [Phase.tearingDown.inj hphase₁] at hd
        cases hd
    | connLost | stream => exact .inl (hstays hphase)
    | gaveUp hl hphase₁ =>
      rcases hphase₁ with hphase₁ | hphase₁ <;> cases hphase.symm.trans hphase₁
    | served hl hphase₁ => cases hphase.symm.trans hphase₁
    | hookRejected hphase₁ | connected hphase₁ | bridgeHello hphase₁ | helloRead hphase₁
    | refused hphase₁ | admitted hphase₁ | selfBlock hphase₁ | notify hphase₁
    | registered hphase₁ | duplicate hphase₁ | blockClient hphase₁ | bridgeRegister hphase₁
    | close hphase₁ | heartbeat hphase₁ | ack hphase₁ | drop hphase₁
    | dropUnconnected hphase₁ => cases hphase.symm.trans hphase₁
  · exact .inl ⟨b, k', dups, hk', hphase'.trans hphase, hd⟩

omit [DecidableEq EndpointId] in
theorem Locked.imp {d : Nat} {closed closed' : Bool} {phase : Phase}
    (hlocked : Locked s d closed phase)
    (himp : closed = true ∨ TornDown s d → closed' = true ∨ TornDown t d) :
    Locked t d closed' phase := by
  unfold Locked at hlocked ⊢
  split
  · exact hlocked
  · exact hlocked
  · exact himp hlocked
  · trivial

/-- The move of another handler keeps a handler locked. -/
theorem Locked.move_other {d : Nat} {closed closed' : Bool} {phase : Phase}
    (hlocked : Locked s d closed phase) (hh : s.handlers[c]? = some h)
    (hmove : HandlerStep ctx c s.shared h l h' sh' es) (hclosed : closed = true → closed' = true)
    (hdup : l = .closeDup d → closed' = true) :
    Locked (s.moved c h' sh' l) d closed' phase := by
  refine hlocked.imp ?_
  rintro (hlocked | htorn)
  · exact .inl (hclosed hlocked)
  · exact (htorn.move hh hmove).symm.imp_left hdup

/-- A locked handler stays locked under its own moves. -/
theorem Locked.move_self (hlocked : Locked s c h.closed h.phase)
    (hblocked : s.shared.blocklist.isClientBlocked (ctx.crates.endpointIdText id) = true)
    (hclient : ClientOf h id) (hh : s.handlers[c]? = some h)
    (hmove : HandlerStep ctx c s.shared h l h' sh' es) :
    Locked (s.moved c h' sh' l) c h'.closed h'.phase := by
  obtain ⟨alpn₀, hpeer₀, -⟩ := hclient
  have hopen : h.closed = false → (∃ hb, h.phase = .serving .conn hb) → l ≠ .closeDup c →
      TornDown (s.moved c h' sh' l) c := by
    rintro hclosed ⟨hb, hphase⟩ hl
    rw [hphase] at hlocked
    rcases hlocked with hlocked | htorn
    · exact absurd hlocked (by simp [hclosed])
    · exact (htorn.move hh hmove).resolve_right hl
  cases hmove with
  | @admitted remoteId alpn hello hphase hpeer hunblocked hauth =>
    cases hpeer.symm.trans hpeer₀
    rw [hblocked] at hunblocked
    cases hunblocked
  | @registered remoteId alpn hello registry hphase hpeer hobserved hreg =>
    rw [hphase] at hlocked
    exact absurd hlocked (by simp [Locked, hobserved])
  | @reply write r hreply hsent =>
    rcases Phase.reply_cases hreply write with
      ⟨guard, routes, hphase, -, hnext⟩ | ⟨reason, -, -, ⟨code, text, hnext⟩ | hnext⟩
    · rw [hphase] at hlocked
      cases guard with
      | conn => exact hlocked.elim
      | bridge => rcases hnext with hnext | hnext <;> rw [hnext] <;> trivial
    all_goals
      rw [hnext]
      trivial
  | @heartbeat guard _ _ _ _ hphase _ hclosed | @ack guard _ hphase hclosed =>
    cases guard with
    | conn => exact .inr (hopen hclosed ⟨_, hphase⟩ (by simp))
    | bridge => trivial
  | @stream guard hb hphase hclosed =>
    rw [hphase]
    cases guard with
    | conn => exact .inr (hopen hclosed ⟨_, hphase⟩ (by simp))
    | bridge => trivial
  | connLost =>
    have hlost : HandlerStep ctx c s.shared h .connLost { h with closed := true } s.shared [] :=
      .connLost
    exact hlocked.move_other hh hlost (fun _ => rfl) nofun
  | _ => trivial

/-- No move of a handler lets in an id that was blocked before. -/
theorem not_letsIn_move (hinv : LockInv ctx log s) (hh : s.handlers[c]? = some h)
    (hmove : HandlerStep ctx c s.shared h l h' sh' es) {b : Nat}
    (hb : ServerEvent.blocked b id ∈ log) {e : ServerEvent EndpointId} (he : e ∈ es) :
    ¬ LetsIn (s.moved c h' sh' l) id e := by
  have hv := (hinv.auth.vetted c h hh).justified
  have hlocked : ClientOf h id → Locked s c h.closed h.phase := hinv.locked b id hb c h hh
  intro hin
  cases hmove with
  | @registered remoteId alpn hello registry hphase hpeer hobserved hreg =>
    obtain rfl := List.mem_singleton.1 he
    obtain rfl : remoteId = id := hin
    rw [hphase] at hv hlocked
    obtain ⟨id', alpn', hpeer', ha⟩ := hv
    cases hpeer.symm.trans hpeer'
    have hobserved' := hlocked ⟨alpn, hpeer, ha.notBridge⟩
    simp [Locked, hobserved] at hobserved'
  | @reply write r hreply hsent =>
    split at he
    · cases he
    obtain rfl := List.mem_singleton.1 he
    obtain ⟨hacc, alpn, hpeer, hne⟩ := hin
    rcases Phase.reply_cases hreply write with
      ⟨guard, routes, hphase, -, -⟩ | ⟨reason, hresp, -, -⟩
    · have hp : h.peer = some (id, alpn) := by
        obtain ⟨k', hk', -, hpeer', -⟩ :=
          Server.exists_moved_self { h with phase := r.next write } s.shared (.reply write) hh
        rw [Server.peerOf_eq hk', hpeer'] at hpeer
        exact hpeer
      rw [hphase] at hv hlocked
      cases guard with
      | conn => exact hlocked ⟨alpn, hp, hne⟩
      | bridge =>
        obtain ⟨id', hp'⟩ := hv
        exact hne (Prod.mk.inj (Option.some.inj (hp.symm.trans hp'))).2
    · rw [hresp] at hacc
      cases hacc
  | hookRejected | connected | helloRead | admitted | selfBlock | blockClient | closeDup | close
  | stream | ack =>
    obtain rfl := List.mem_singleton.1 he
    exact hin
  | _ => cases he

/-- A block that misses no handler locks the others of its id. -/
theorem locked_of_blocksAll {nowMs : Nat} {write : Except String Unit} {dups : List Nat}
    {alpn : Alpn} (hguard : blocksAll s (.handler c (.blockClient nowMs write)) = true)
    (hh : s.handlers[c]? = some h) (hphase : h.phase = .duplicate dups)
    (hpeer : h.peer = some (id, alpn)) {d : Nat} {k : Handler EndpointId} (hd : d ≠ c)
    (hk : s.handlers[d]? = some k) (hclient : ClientOf k id) (ht : ∀ x ∈ dups, TornDown t x) :
    Locked t d k.closed k.phase := by
  have hall : ∀ k' d', (k', d') ∈ s.handlers.zipIdx →
      d' = c ∨ ¬ ClientOf k' id ∨ Caught dups d' k' = true := by
    simpa [blocksAll, hh, hphase, hpeer] using hguard
  have hcaught := ((hall k d (List.mem_zipIdx_iff_getElem?.2 hk)).resolve_left hd).resolve_left
    fun hnot => hnot hclient
  unfold Caught at hcaught
  unfold Locked
  split at hcaught
  next hello hphase' => simpa [hphase'] using hcaught
  · cases hcaught
  next hb hphase' =>
    rcases Bool.or_eq_true_iff.1 hcaught with hclosed | hmem
    · exact .inl hclosed
    · exact .inr (ht d (of_decide_eq_true hmem))
  · trivial

theorem LockInv.order_append (hinv : LockInv ctx log s) {l : ServerLabel EndpointId}
    (hstep : s.step ctx l = some (t, es)) (hone : es = [] ∨ ∃ e, es = [e])
    (hnew : ∀ b id, ServerEvent.blocked b id ∈ log → ∀ e ∈ es, ¬ LetsIn t id e) :
    (log ++ es).Pairwise fun e e' => ∀ c id, e = .blocked c id → ¬ LetsIn t id e' := by
  refine List.pairwise_append.2 ⟨?_, ?_, ?_⟩
  · refine hinv.order.imp_of_mem ?_
    intro e e' _ he' horder c id heq hin
    exact horder c id heq (hin.of_step hinv.auth hstep he')
  · rcases hone with rfl | ⟨e, rfl⟩
    · exact .nil
    · exact List.pairwise_singleton _ _
  · rintro e he e' he' c id rfl
    exact hnew c id he e' he'

/-- The loop's steps keep the lock. -/
theorem lockInv_loop (hinv : LockInv ctx log s) {l : ServerLabel EndpointId}
    (hstep : s.step ctx l = some (t, es)) (hloop : LoopStep s l t es) :
    LockInv ctx (log ++ es) t := by
  have hauth := authInv_loop hinv.auth hstep hloop
  have hquiet : ∀ e ∈ es, (∀ c id, e ≠ .blocked c id) ∧ ∀ id, ¬ LetsIn t id e := by
    cases hloop <;> simp [LetsIn]
  have hold : ∀ b id, ServerEvent.blocked b id ∈ log ++ es → ServerEvent.blocked b id ∈ log :=
    fun b id hb => (List.mem_append.1 hb).resolve_right fun hb => (hquiet _ hb).1 b id rfl
  have horder := hinv.order_append hstep (by cases hloop <;> simp)
    fun b id _ e he => (hquiet e he).2 id
  refine ⟨hauth, ?_, ?_, horder⟩
  · intro b id hb
    have hblocked := hinv.blocked b id (hold b id hb)
    cases hloop <;> exact hblocked
  intro b id hb d k hk hclient
  cases hloop with
  | accept hsel =>
    rcases getElem?_concat_cases hk with hk | ⟨-, rfl⟩
    · refine (hinv.locked b id (hold b id hb) d k hk hclient).imp (Or.imp_right ?_)
      rintro ⟨b', k', dups, hk', hphase', hmem⟩
      exact ⟨b', k', dups, getElem?_concat_of_some hk', hphase', hmem⟩
    · trivial
  | _ => exact hinv.locked b id (hold b id hb) d k hk hclient

theorem blocked_mem_move {b : Nat} {sh : Shared EndpointId Doc}
    (hmove : HandlerStep ctx c sh h l h' sh' es) (hb : ServerEvent.blocked b id ∈ es) :
    ∃ nowMs write dups alpn, l = .blockClient nowMs write ∧ h.phase = .duplicate dups ∧
      h.peer = some (id, alpn) ∧ h' = { h with phase := .tearingDown dups } ∧
      sh' = sh.blockClient ctx id nowMs write := by
  cases hmove with
  | @blockClient nowMs write remoteId alpn dups hphase hpeer =>
    obtain ⟨-, rfl⟩ : b = c ∧ id = remoteId := by simpa using hb
    exact ⟨nowMs, write, dups, alpn, rfl, hphase, hpeer, rfl, rfl⟩
  | reply => split at hb <;> simp at hb
  | _ => simp at hb

/-- After a handler's move every handler of a blocked id is locked. -/
theorem locked_move (hinv : LockInv ctx log s) (hguard : blocksAll s (.handler c l) = true)
    (hh : s.handlers[c]? = some h) (hmove : HandlerStep ctx c s.shared h l h' sh' es) {b : Nat}
    (hb : ServerEvent.blocked b id ∈ log ++ es) {d : Nat} {k : Handler EndpointId}
    (hk : (s.moved c h' sh' l).handlers[d]? = some k) (hclient : ClientOf k id) :
    Locked (s.moved c h' sh' l) d k.closed k.phase := by
  obtain ⟨k₀, hk₀, hcase⟩ := Server.getElem?_moved hk
  obtain ⟨hphase, hclient₀, hclosed, hdup⟩ : k.phase = k₀.phase ∧ ClientOf k₀ id ∧
      (k₀.closed = true → k.closed = true) ∧ (l = .closeDup d → k.closed = true) := by
    rcases hcase with ⟨rfl, hne⟩ | ⟨rfl, -⟩
    · exact ⟨rfl, hclient, fun h => h, fun h => absurd h hne⟩
    · exact ⟨rfl, hclient, fun _ => rfl, fun _ => rfl⟩
  rw [hphase]
  rcases List.mem_append.1 hb with hold | hnew
  · rcases hk₀ with ⟨rfl, rfl⟩ | ⟨-, hk₀⟩
    · rcases hmove.peer_cases with hpeer | ⟨-, hawait⟩
      · have hclient' : ClientOf h id := by
          unfold ClientOf at hclient₀ ⊢
          rwa [hpeer] at hclient₀
        have hlocked := hinv.locked b id hold d h hh hclient'
        have hself := hlocked.move_self (hinv.blocked b id hold) hclient' hh hmove
        exact hself.imp (Or.imp_left hclosed)
      · rw [hawait]
        trivial
    · exact (hinv.locked b id hold d k₀ hk₀ hclient₀).move_other hh hmove hclosed hdup
  obtain ⟨nowMs, write, dups, alpn, rfl, hdups, hpeer, rfl, rfl⟩ := blocked_mem_move hmove hnew
  rcases hk₀ with ⟨rfl, rfl⟩ | ⟨hne, hk₀⟩
  · trivial
  obtain ⟨k', hk', hphase', -, -⟩ := Server.exists_moved_self
    { h with phase := .tearingDown dups } (s.shared.blockClient ctx id nowMs write)
    (.blockClient nowMs write) hh
  have hlocked := locked_of_blocksAll hguard hh hdups hpeer hne hk₀ hclient₀
    fun x hx => ⟨c, k', dups, hk', hphase', hx⟩
  exact hlocked.imp (Or.imp_left hclosed)

/-- A handler's move keeps the lock. -/
theorem lockInv_handler (hinv : LockInv ctx log s) (hguard : blocksAll s (.handler c l) = true)
    (hh : s.handlers[c]? = some h)
    (hstep : s.step ctx (.handler c l) = some (s.moved c h' sh' l, es))
    (hmove : HandlerStep ctx c s.shared h l h' sh' es) :
    LockInv ctx (log ++ es) (s.moved c h' sh' l) := by
  refine ⟨authInv_handler hinv.auth hh hstep hmove, ?_, ?_, ?_⟩
  · intro b id hb
    rcases List.mem_append.1 hb with hold | hnew
    · exact isClientBlocked_move hmove (hinv.blocked b id hold)
    · obtain ⟨nowMs, write, dups, alpn, -, -, -, -, rfl⟩ := blocked_mem_move hmove hnew
      simp
  · intro b id hb d k hk hclient
    exact locked_move hinv hguard hh hmove hb hk hclient
  · refine hinv.order_append hstep hmove.events_le_one ?_
    intro b id hb e he
    exact not_letsIn_move hinv hh hmove hb he

/-- **A blocked client id stays out, as long as no block misses a handler** (`blocksAll`): no client
connection of the id is registered or answered as accepted after the block, and each one that is
still served is closed, or some handler is in the middle of a teardown that closes it. -/
theorem blocked_client_stays_out {s₀ : Server EndpointId Doc} {ls : List (ServerLabel EndpointId)}
    (hinit : (proxyServer ctx).init s₀)
    (hguard : (proxyServer ctx).Guarded (fun s l => blocksAll s l = true) s₀ ls)
    (hrun : (proxyServer ctx).run s₀ ls = some (s, log)) :
    (log.Pairwise fun e e' => ∀ c id, e = .blocked c id → ¬ LetsIn s id e') ∧
    ∀ c id, ServerEvent.blocked c id ∈ log → ∀ d k, s.handlers[d]? = some k → ClientOf k id →
      k.phase ≠ .registered .conn ∧
      ((∃ hb, k.phase = .serving .conn hb) → k.closed = true ∨ TornDown s d) := by
  have h₀ : LockInv ctx [] s₀ :=
    ⟨authInv_run hinit (Machine.run_nil _ _), nofun, nofun, .nil⟩
  have hinv : LockInv ctx log s := by
    refine (proxyServer ctx).guarded_log_rule ?_ h₀ hguard hrun
    intro log s l t es hg hinv hstep
    rcases Server.step_cases hstep with hloop | ⟨c, hl, h, h', sh, rfl, hh, hmove, rfl⟩
    · exact lockInv_loop hinv hstep hloop
    · exact lockInv_handler hinv hg hh hstep hmove
  refine ⟨hinv.order, ?_⟩
  intro c id hb d k hk hclient
  have hlocked := hinv.locked c id hb d k hk hclient
  refine ⟨?_, ?_⟩
  · intro hphase
    rwa [hphase] at hlocked
  · rintro ⟨hb', hphase⟩
    rwa [hphase] at hlocked

end

/-! ## Two laptops -/

/-- A laptop is served and a second instance of it is found to be a duplicate; `between`
is what happens before that one blocks the id and closes the first connection. -/
def duplicateFound (between : List (ServerLabel String)) : List (ServerLabel String) :=
  laptopConnects 0 1 0 ++ [.handler 0 .tryRegister, .handler 0 (.reply .sent)] ++
    laptopConnects 1 2 0 ++ [.handler 1 .tryRegister] ++ between ++
    [.handler 1 (.blockClient 0 (.ok ())), .handler 1 (.closeDup 0)]

/-- With no third connection of the id, the first one is closed and nothing is let in. -/
theorem blocked_client_stays_out_two_laptops :
    ∃ s log, (proxyServer plainServer).run plainStart (duplicateFound []) = some (s, log) ∧
      ServerEvent.blocked 1 "laptop" ∈ log ∧ s.handlers.map Handler.closed = [true, false] ∧
      log.Pairwise fun e e' => ∀ c id, e = .blocked c id → ¬ LetsIn s id e' := by
  have heval : ((proxyServer plainServer).run plainStart (duplicateFound [])).map (fun r =>
      (decide (ServerEvent.blocked 1 "laptop" ∈ r.2), r.1.handlers.map Handler.closed)) =
      some (true, [true, false]) := by decide
  obtain ⟨⟨s, log⟩, hrun, hs⟩ := Option.map_eq_some_iff.1 heval
  obtain ⟨hblocked, hclosed⟩ : ServerEvent.blocked 1 "laptop" ∈ log ∧
      s.handlers.map Handler.closed = [true, false] := by simpa using hs
  exact ⟨s, log, hrun, hblocked, hclosed,
    (blocked_client_stays_out ⟨rfl, rfl, rfl, rfl, rfl⟩ (by decide) hrun).1⟩

/-- A third connection of the id, a reconnect of the first instance, passes its check
before the block. It registers after it, is answered as accepted and served. -/
theorem registered_after_block :
    ∃ ls s log pre post, (proxyServer plainServer).run plainStart ls = some (s, log) ∧
      log = pre ++ .blocked 1 "laptop" :: post ∧ ServerEvent.registered 2 "laptop" ∈ post ∧
      (∃ resp, ServerEvent.response 2 resp ∈ post ∧ resp.accepted = true) ∧
      ServerEvent.stream 2 false ∈ post := by
  have heval : ((proxyServer plainServer).run plainStart (duplicateFound (laptopConnects 2 1 0) ++
      [.handler 2 .tryRegister, .handler 2 (.reply .sent), .handler 2 .stream])).map (fun r =>
        (r.2[14]?, r.2.drop 15)) =
      some (some (.blocked 1 "laptop"), [.closed 0 closeDuplicate "duplicate client id",
        .registered 2 "laptop",
        .response 2 (.acceptedWith 7 (plainServer.server.acceptedRoutes textCrates)),
        .stream 2 false]) := by decide
  obtain ⟨⟨s, log⟩, hrun, hs⟩ := Option.map_eq_some_iff.1 heval
  obtain ⟨hat, hpost⟩ := Prod.mk.inj hs
  obtain ⟨hlt, hget⟩ := List.getElem?_eq_some_iff.1 hat
  refine ⟨_, s, log, log.take 14, log.drop 15, hrun, ?_, ?_, ?_, ?_⟩
  · rw [← hget, List.getElem_cons_drop, List.take_append_drop]
  · rw [hpost]
    simp
  · rw [hpost]
    exact ⟨.acceptedWith 7 (plainServer.server.acceptedRoutes textCrates), by simp, rfl⟩
  · rw [hpost]
    simp

end Flextunnel.Analysis
