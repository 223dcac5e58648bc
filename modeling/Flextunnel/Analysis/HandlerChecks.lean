import Flextunnel.Model.ServerSteps

/-!
# Every handler is where its checks allow

Every point of a handler is tied to the checks that led there: a peer passed the allowlist
hook, a client's `Hello` was read, authenticated and found off the blocklist before its handler
registers anything. What is sent and what is registered inherit it, in every run.
-/

set_option autoImplicit false

namespace Flextunnel.Analysis

open Lib Model

section

variable {EndpointId PublicKey Doc : Type} [DecidableEq EndpointId] [DecidableEq PublicKey]
  {ctx : ServerCtx EndpointId PublicKey Doc}

/-! ## Points and checks -/

structure AdmittedWith (ctx : ServerCtx EndpointId PublicKey Doc)
    (log : List (ServerEvent EndpointId)) (c : Nat) (id : EndpointId) (alpn : Alpn)
    (hello : Hello) : Prop where
  notBridge : alpn ≠ .bridge
  helloRead : ServerEvent.helloRead c hello ∈ log
  authOk : authOk ctx alpn id hello = true
  admitted : ServerEvent.admitted c id ∈ log

def Justified (ctx : ServerCtx EndpointId PublicKey Doc) (log : List (ServerEvent EndpointId))
    (c : Nat) (peer : Option (EndpointId × Alpn)) : Phase → Prop
  | .accepting => peer = none
  | .decoded hello => ∃ id alpn, peer = some (id, alpn) ∧ alpn ≠ .bridge ∧
      ServerEvent.helloRead c hello ∈ log
  | .admitted hello => ∃ id alpn, peer = some (id, alpn) ∧ AdmittedWith ctx log c id alpn hello
  | .selfBlocked | .stopping | .duplicate _ | .tearingDown _ | .registered .conn
  | .serving .conn _ | .exiting (some .conn) =>
    ∃ id alpn hello, peer = some (id, alpn) ∧ AdmittedWith ctx log c id alpn hello
  | .bridgeAdmitted | .registered .bridge | .serving .bridge _ | .exiting (some .bridge) =>
    ∃ id, peer = some (id, .bridge)
  | _ => True

structure Vetted (ctx : ServerCtx EndpointId PublicKey Doc) (log : List (ServerEvent EndpointId))
    (c : Nat) (h : Handler EndpointId) : Prop where
  hook : ∀ id alpn, h.peer = some (id, alpn) → ctx.allowlists.afterHandshake alpn id = none
  justified : Justified ctx log c h.peer h.phase

variable {log es : List (ServerEvent EndpointId)} {c : Nat} {id : EndpointId} {alpn : Alpn}
  {hello : Hello} {h h' : Handler EndpointId} {sh sh' : Shared EndpointId Doc}
  {l : HandlerLabel EndpointId}

theorem AdmittedWith.append (ha : AdmittedWith ctx log c id alpn hello) :
    AdmittedWith ctx (log ++ es) c id alpn hello :=
  ⟨ha.notBridge, List.mem_append_left _ ha.helloRead, ha.authOk, List.mem_append_left _ ha.admitted⟩

theorem Justified.append {peer : Option (EndpointId × Alpn)} {phase : Phase}
    (hj : Justified ctx log c peer phase) : Justified ctx (log ++ es) c peer phase := by
  unfold Justified at hj ⊢
  split at hj
  · exact hj
  · obtain ⟨id, alpn, hpeer, hne, hread⟩ := hj
    exact ⟨id, alpn, hpeer, hne, List.mem_append_left _ hread⟩
  · obtain ⟨id, alpn, hpeer, ha⟩ := hj
    exact ⟨id, alpn, hpeer, ha.append⟩
  all_goals first
    | exact hj
    | (obtain ⟨id, alpn, hello, hpeer, ha⟩ := hj; exact ⟨id, alpn, hello, hpeer, ha.append⟩)

theorem Vetted.append (hv : Vetted ctx log c h) : Vetted ctx (log ++ es) c h :=
  ⟨hv.hook, hv.justified.append⟩

/-- Every move of a handler keeps it where its checks allow. -/
theorem vetted_move (hmove : HandlerStep ctx c sh h l h' sh' es) (hv : Vetted ctx log c h) :
    Vetted ctx (log ++ es) c h' := by
  have hj := hv.justified
  have hlog : Justified ctx (log ++ es) c h.peer h.phase := hj.append
  cases hmove with
  | connected hphase hhook =>
    refine ⟨?_, trivial⟩
    rintro id alpn hpeer
    cases hpeer
    exact hhook
  | @bridgeHello _ remoteId hphase hpeer => exact ⟨hv.hook, remoteId, hpeer⟩
  | @helloRead _ remoteId alpn hello hphase hpeer halpn =>
    exact ⟨hv.hook, remoteId, alpn, hpeer, halpn, by simp⟩
  | @admitted remoteId alpn hello hphase hpeer hblocked hauth =>
    rw [hphase] at hj
    obtain ⟨id', alpn', hpeer', hne, hread⟩ := hj
    cases hpeer.symm.trans hpeer'
    exact ⟨hv.hook, remoteId, alpn, hpeer, hne, List.mem_append_left _ hread, hauth, by simp⟩
  | selfBlock hphase | registered hphase | duplicate hphase =>
    rw [hphase] at hlog
    obtain ⟨id, alpn, hpeer, ha⟩ := hlog
    exact ⟨hv.hook, id, alpn, _, hpeer, ha⟩
  | notify hphase | blockClient hphase | closeDup hphase | bridgeRegister hphase =>
    rw [hphase] at hlog
    exact ⟨hv.hook, hlog⟩
  | @reply write r hreply hsent =>
    refine ⟨hv.hook, ?_⟩
    rcases Phase.reply_cases hreply write with
      ⟨guard, routes, hphase, -, hnext⟩ | ⟨reason, -, -, hnext⟩
    · rw [hphase] at hlog
      rcases hnext with hnext | hnext <;> rw [hnext] <;> cases guard <;> exact hlog
    · rcases hnext with ⟨code, text, hnext⟩ | hnext <;> rw [hnext] <;> trivial
  | stream | connLost => exact ⟨hv.hook, hlog⟩
  | @heartbeat guard _ _ _ _ hphase | @ack guard _ hphase | @served _ guard _ _ hphase =>
    rw [hphase] at hlog
    exact ⟨hv.hook, by cases guard <;> exact hlog⟩
  | _ => exact ⟨hv.hook, trivial⟩

/-! ## What is sent, and to whom -/

def sentTo : ServerEvent EndpointId → Option Nat
  | .hookRejected c _ _ | .response c _ | .closed c _ _ | .stream c _ | .ack c _ => some c
  | _ => none

/-- What a peer may be told without being authorized: a rejection or a close. -/
def Rejection : ServerEvent EndpointId → Prop
  | .response _ resp => ∃ nonce reason, resp = .rejected nonce reason
  | .stream _ _ => False
  | .ack _ _ => False
  | _ => True

def Entitled (ctx : ServerCtx EndpointId PublicKey Doc) (log : List (ServerEvent EndpointId))
    (c : Nat) (p : EndpointId × Alpn) : Prop :=
  ctx.allowlists.afterHandshake p.2 p.1 = none ∧
    (p.2 = .bridge ∨ ∃ hello, AdmittedWith ctx log c p.1 p.2 hello)

theorem Entitled.append {p : EndpointId × Alpn} (hen : Entitled ctx log c p) :
    Entitled ctx (log ++ es) c p :=
  ⟨hen.1, hen.2.imp_right fun ⟨hello, ha⟩ => ⟨hello, ha.append⟩⟩

/-- A handler that registered or serves has an entitled peer. -/
theorem Vetted.entitled (hv : Vetted ctx log c h) {guard : Guard}
    (hphase : h.phase = .registered guard ∨ ∃ hb, h.phase = .serving guard hb) :
    ∃ p, h.peer = some p ∧ Entitled ctx log c p := by
  have hj := hv.justified
  have hguard : (guard = .bridge ∧ ∃ id, h.peer = some (id, .bridge)) ∨
      ∃ id alpn hello, h.peer = some (id, alpn) ∧ AdmittedWith ctx log c id alpn hello := by
    rcases hphase with hphase | ⟨hb, hphase⟩ <;> rw [hphase] at hj <;> cases guard
    · exact .inr hj
    · exact .inl ⟨rfl, hj⟩
    · exact .inr hj
    · exact .inl ⟨rfl, hj⟩
  rcases hguard with ⟨-, id, hpeer⟩ | ⟨id, alpn, hello, hpeer, ha⟩
  · exact ⟨_, hpeer, hv.hook _ _ hpeer, .inl rfl⟩
  · exact ⟨_, hpeer, hv.hook _ _ hpeer, .inr ⟨hello, ha⟩⟩

/-- What a handler sends is a rejection, or its peer is entitled. -/
theorem sent_move (hmove : HandlerStep ctx c sh h l h' sh' es) (hv : Vetted ctx log c h)
    {e : ServerEvent EndpointId} (he : e ∈ es) :
    Rejection e ∨ sentTo e = some c ∧ ∃ p, h.peer = some p ∧ Entitled ctx log c p := by
  cases hmove with
  | @reply write r hreply hsent =>
    split at he
    · cases he
    obtain rfl := List.mem_singleton.1 he
    rcases Phase.reply_cases hreply write with
      ⟨guard, routes, hphase, -, -⟩ | ⟨reason, hresp, -, -⟩
    · exact .inr ⟨rfl, hv.entitled (.inl hphase)⟩
    · exact .inl ⟨_, reason, hresp⟩
  | @stream guard hb hphase hopen =>
    obtain rfl := List.mem_singleton.1 he
    exact .inr ⟨rfl, hv.entitled (.inr ⟨hb, hphase⟩)⟩
  | @ack guard seq hphase hopen =>
    obtain rfl := List.mem_singleton.1 he
    exact .inr ⟨rfl, hv.entitled (.inr ⟨_, hphase⟩)⟩
  | hookRejected | connected | helloRead | admitted | selfBlock | registered | blockClient
  | closeDup | close =>
    obtain rfl := List.mem_singleton.1 he
    exact .inl trivial
  | _ => cases he

/-! ## The registry -/

def HoldsConn : Phase → Prop
  | .registered .conn | .serving .conn _ | .exiting (some .conn) => True
  | _ => False

/-- A handler keeps its entry until it drops it. -/
theorem holdsConn_move (hmove : HandlerStep ctx c sh h l h' sh' es) (hh : HoldsConn h.phase) :
    (HoldsConn h'.phase ∧ h'.peer = h.peer ∧ h'.connSeq = h.connSeq) ∨
      h.phase = .exiting (some .conn) ∧ l = .drop := by
  cases hmove with
  | @reply write r hreply hsent =>
    rcases Phase.reply_cases hreply write with
      ⟨guard, routes, hphase, -, hnext⟩ | ⟨reason, -, hphase, -⟩
    · rw [hphase] at hh
      cases guard with
      | conn => rcases hnext with hnext | hnext <;> exact .inl ⟨by rw [hnext]; trivial, rfl, rfl⟩
      | bridge => exact hh.elim
    · rcases hphase with hphase | hphase | hphase <;> rw [hphase] at hh <;> exact hh.elim
  | @heartbeat guard _ _ _ _ hphase | @ack guard _ hphase | @served _ guard _ _ hphase =>
    rw [hphase] at hh
    cases guard with
    | conn => exact .inl ⟨trivial, rfl, rfl⟩
    | bridge => exact hh.elim
  | stream | connLost => exact .inl ⟨hh, rfl, rfl⟩
  | @drop guard remoteId alpn hphase hpeer =>
    rw [hphase] at hh
    match guard with
    | none | some .bridge => exact hh.elim
    | some .conn => exact .inr ⟨hphase, rfl⟩
  | gaveUp hl hphase =>
    rcases hphase with hphase | hphase <;> rw [hphase] at hh <;> exact hh.elim
  | hookRejected hphase | connected hphase | bridgeHello hphase | helloRead hphase
  | refused hphase | admitted hphase | selfBlock hphase | notify hphase | registered hphase
  | duplicate hphase | blockClient hphase | closeDup hphase | bridgeRegister hphase
  | close hphase | dropUnconnected hphase =>
    rw [hphase] at hh
    exact hh.elim

/-- An entry was there before, and it is not the one that a guard drops. -/
def EntryKept (sh : Shared EndpointId Doc) (h : Handler EndpointId) (l : HandlerLabel EndpointId)
    (id : EndpointId) (e : ConnEntry) : Prop :=
  ∃ e₀ ∈ sh.registry.entriesOf id, e₀.connection = e.connection ∧ e₀.connSeq = e.connSeq ∧
    e₀.clientKey = e.clientKey ∧
    (h.phase = .exiting (some .conn) → l = .drop → h.peer.map Prod.fst = some id →
      e₀.connSeq ≠ h.connSeq)

/-- An entry that is there was there before, or the handler of an admitted client made it. -/
theorem entry_move (hmove : HandlerStep ctx c sh h l h' sh' es) {e : ConnEntry}
    (he : e ∈ sh'.registry.entriesOf id) :
    EntryKept sh h l id e ∨
      ∃ alpn hello, h.phase = .admitted hello ∧ h.peer = some (id, alpn) ∧
        h' = { h with phase := .registered .conn } ∧ e.connection = c ∧
        e.connSeq = h.connSeq ∧ e.clientKey = clientKey ctx alpn hello := by
  have hkept (hmem : e ∈ sh.registry.entriesOf id) (hl : l ≠ .drop) : EntryKept sh h l id e :=
    ⟨e, hmem, rfl, rfl, rfl, fun _ hdrop => absurd hdrop hl⟩
  cases hmove with
  | @registered remoteId alpn hello registry hphase hpeer hobserved hreg =>
    obtain ⟨-, rfl⟩ := Registry.tryRegister_ok hreg
    rw [Registry.entriesOf_insert] at he
    split at he
    next hid =>
      subst hid
      rcases Registry.mem_insertEntry.1 he with ⟨he, -⟩ | rfl
      · exact .inl (hkept he (by simp))
      · exact .inr ⟨alpn, hello, hphase, hpeer, rfl, rfl, rfl, rfl⟩
    · exact .inl (hkept he (by simp))
  | duplicate hphase hpeer hobserved hreg =>
    refine .inl (hkept ?_ (by simp))
    rwa [(Registry.tryRegister_error hreg).2.2 id] at he
  | @heartbeat guard since remoteId alpn seq hphase hpeer hopen =>
    cases guard with
    | bridge => exact .inl (hkept he (by simp))
    | conn =>
      simp only [Shared.refresh, Registry.entriesOf_refresh] at he
      split at he
      · obtain ⟨e₀, he₀, rfl⟩ := List.mem_map.1 he
        refine .inl ⟨e₀, he₀, ?_, ?_, ?_, fun _ hdrop => by cases hdrop⟩ <;> split <;> rfl
      · exact .inl (hkept he (by simp))
  | @drop guard remoteId alpn hphase hpeer =>
    cases guard with
    | none => exact .inl ⟨e, he, rfl, rfl, rfl, fun hconn => by simp [hphase] at hconn⟩
    | some guard =>
      cases guard with
      | bridge => exact .inl ⟨e, he, rfl, rfl, rfl, fun hconn => by simp [hphase] at hconn⟩
      | conn =>
        simp only [Shared.drop, Registry.entriesOf_drop] at he
        split at he
        · obtain ⟨he, hseq⟩ := List.mem_filter.1 he
          exact .inl ⟨e, he, rfl, rfl, rfl, fun _ _ _ => by simpa using hseq⟩
        next hid =>
          refine .inl ⟨e, he, rfl, rfl, rfl, fun _ _ hpeer' => ?_⟩
          rw [hpeer] at hpeer'
          exact absurd (Option.some.inj hpeer').symm hid
  | dropUnconnected hphase hpeer =>
    exact .inl ⟨e, he, rfl, rfl, rfl, fun hconn => by simp [hphase] at hconn⟩
  | selfBlock => exact .inl (hkept (by simpa [Shared.selfBlock] using he) (by simp))
  | blockClient => exact .inl (hkept (by simpa [Shared.blockClient] using he) (by simp))
  | gaveUp hl | served hl =>
    refine .inl (hkept he ?_)
    rintro rfl
    exact hl
  | _ => exact .inl (hkept he (by simp))

/-! ## The invariant -/

/-- Every handler is vetted, everything sent is a rejection or went to an
entitled peer, and every registry entry belongs to an admitted client's handler. -/
structure AuthInv (ctx : ServerCtx EndpointId PublicKey Doc) (log : List (ServerEvent EndpointId))
    (s : Server EndpointId Doc) : Prop where
  vetted : ∀ c h, s.handlers[c]? = some h → Vetted ctx log c h
  sent : ∀ e ∈ log, Rejection e ∨
    ∃ c p, sentTo e = some c ∧ s.peerOf c = some p ∧ Entitled ctx log c p
  registry : ∀ id, ∀ e ∈ s.shared.registry.entriesOf id, ∃ h alpn hello,
    s.handlers[e.connection]? = some h ∧ h.peer = some (id, alpn) ∧ h.connSeq = e.connSeq ∧
      HoldsConn h.phase ∧ AdmittedWith ctx log e.connection id alpn hello ∧
      e.clientKey = clientKey ctx alpn hello

variable {s t : Server EndpointId Doc}

theorem AuthInv.peerOf_step (hinv : AuthInv ctx log s) {l : ServerLabel EndpointId}
    (hstep : s.step ctx l = some (t, es)) {p : EndpointId × Alpn} (hp : s.peerOf c = some p) :
    t.peerOf c = some p := by
  refine Server.peerOf_step hstep ?_ hp
  intro h hh hphase
  have hj := (hinv.vetted c h hh).justified
  rwa [hphase] at hj

theorem AuthInv.sent_append (hinv : AuthInv ctx log s) {l : ServerLabel EndpointId}
    (hstep : s.step ctx l = some (t, es))
    (hnew : ∀ e ∈ es, Rejection e ∨
      ∃ c p, sentTo e = some c ∧ s.peerOf c = some p ∧ Entitled ctx log c p) :
    ∀ e ∈ log ++ es, Rejection e ∨
      ∃ c p, sentTo e = some c ∧ t.peerOf c = some p ∧ Entitled ctx (log ++ es) c p := by
  intro e he
  have hold : Rejection e ∨
      ∃ c p, sentTo e = some c ∧ s.peerOf c = some p ∧ Entitled ctx log c p :=
    (List.mem_append.1 he).elim (hinv.sent e) (hnew e)
  refine hold.imp_right ?_
  rintro ⟨c, p, hto, hp, hen⟩
  exact ⟨c, p, hto, hinv.peerOf_step hstep hp, hen.append⟩

theorem authInv_loop (hinv : AuthInv ctx log s) {l : ServerLabel EndpointId}
    (hstep : s.step ctx l = some (t, es)) (hloop : LoopStep s l t es) :
    AuthInv ctx (log ++ es) t := by
  have hsent := hinv.sent_append hstep
  have hregistry : ∀ id, ∀ e ∈ s.shared.registry.entriesOf id, ∃ h alpn hello,
      s.handlers[e.connection]? = some h ∧ h.peer = some (id, alpn) ∧ h.connSeq = e.connSeq ∧
        HoldsConn h.phase ∧ AdmittedWith ctx (log ++ es) e.connection id alpn hello ∧
        e.clientKey = clientKey ctx alpn hello := by
    intro id e he
    obtain ⟨h, alpn, hello, hh, hpeer, hseq, hholds, ha, hkey⟩ := hinv.registry id e he
    exact ⟨h, alpn, hello, hh, hpeer, hseq, hholds, ha.append, hkey⟩
  cases hloop with
  | accept hsel =>
    refine ⟨?_, hsent (by simp [Rejection]), ?_⟩
    · intro c h hh
      rcases getElem?_concat_cases hh with hh | ⟨-, rfl⟩
      · exact (hinv.vetted c h hh).append
      · exact ⟨nofun, rfl⟩
    · intro id e he
      obtain ⟨h, alpn, hello, hh, hrest⟩ := hregistry id e he
      exact ⟨h, alpn, hello, getElem?_concat_of_some hh, hrest⟩
  | acquire | tick =>
    exact ⟨fun c h hh => (hinv.vetted c h hh).append, hsent (by simp), hregistry⟩
  | endpointClosed | shutdown =>
    exact ⟨fun c h hh => (hinv.vetted c h hh).append, hsent (by simp [Rejection]), hregistry⟩

/-- A move of a handler keeps the invariant. -/
theorem authInv_handler (hinv : AuthInv ctx log s) (hh : s.handlers[c]? = some h)
    (hstep : s.step ctx (.handler c l) = some (s.moved c h' sh' l, es))
    (hmove : HandlerStep ctx c s.shared h l h' sh' es) :
    AuthInv ctx (log ++ es) (s.moved c h' sh' l) := by
  have hv := hinv.vetted c h hh
  refine ⟨?_, hinv.sent_append hstep ?_, ?_⟩
  · intro d k hk
    obtain ⟨k₀, hk₀, hcase⟩ := Server.getElem?_moved hk
    have hv₀ : Vetted ctx (log ++ es) d k₀ := by
      rcases hk₀ with ⟨rfl, rfl⟩ | ⟨-, hk₀⟩
      · exact vetted_move hmove hv
      · exact (hinv.vetted d k₀ hk₀).append
    rcases hcase with ⟨rfl, -⟩ | ⟨rfl, -⟩
    · exact hv₀
    · exact ⟨hv₀.hook, hv₀.justified⟩
  · intro e he
    refine (sent_move hmove hv he).imp_right ?_
    rintro ⟨hto, p, hpeer, hen⟩
    exact ⟨c, p, hto, by rw [Server.peerOf_eq hh, hpeer], hen⟩
  · intro id e he
    rcases entry_move hmove he with ⟨e₀, he₀, hconn, hseq, hkey, hdrop⟩ |
      ⟨alpn, hello, hphase, hpeer, rfl, rfl, hseq, hkey⟩
    · obtain ⟨k, alpn, hello, hk, hpeer, hseq', hholds, ha, hkey'⟩ := hinv.registry id e₀ he₀
      rw [hconn] at hk ha
      obtain ⟨k', k₀, hk', hk₀, hphase₁, hpeer₁, hseq₁⟩ :=
        Server.exists_moved c h' sh' l hk
      have hcore : k₀.peer = some (id, alpn) ∧ k₀.connSeq = e₀.connSeq ∧ HoldsConn k₀.phase := by
        rcases hk₀ with ⟨heq, rfl⟩ | ⟨-, rfl⟩
        · rw [heq, hh] at hk
          cases hk
          -- the entry's own handler moved: it still holds its guard, or the entry is gone
          rcases holdsConn_move hmove hholds with ⟨hholds', hpeer', hseq''⟩ | ⟨hexit, hl⟩
          · exact ⟨hpeer'.trans hpeer, hseq''.trans hseq', hholds'⟩
          · exact absurd hseq'.symm (hdrop hexit hl (by simp [hpeer]))
        · exact ⟨hpeer, hseq', hholds⟩
      refine ⟨k', alpn, hello, hk', hpeer₁.trans hcore.1, ?_, ?_, ha.append, ?_⟩
      · rw [hseq₁, hcore.2.1, hseq]
      · rw [hphase₁]
        exact hcore.2.2
      · rw [← hkey, hkey']
    · have hj := hv.justified
      rw [hphase] at hj
      obtain ⟨id', alpn', hpeer', ha⟩ := hj
      cases hpeer.symm.trans hpeer'
      obtain ⟨k', hk', hphase₁, hpeer₁, hseq₁⟩ :=
        Server.exists_moved_self { h with phase := .registered .conn } sh' l hh
      exact ⟨k', alpn, hello, hk', hpeer₁.trans hpeer, by rw [hseq₁, hseq],
        by rw [hphase₁]; trivial, ha.append, hkey⟩

/-- Every step keeps the invariant. -/
theorem authInv_step (hinv : AuthInv ctx log s) {l : ServerLabel EndpointId}
    (hstep : s.step ctx l = some (t, es)) : AuthInv ctx (log ++ es) t := by
  rcases Server.step_cases hstep with hloop | ⟨c, hl, h, h', sh, rfl, hh, hmove, rfl⟩
  · exact authInv_loop hinv hstep hloop
  · exact authInv_handler hinv hh hstep hmove

/-- The invariant holds in every run. -/
theorem authInv_run {s₀ : Server EndpointId Doc} {ls : List (ServerLabel EndpointId)}
    (hinit : (proxyServer ctx).init s₀) (hrun : (proxyServer ctx).run s₀ ls = some (s, log)) :
    AuthInv ctx log s := by
  obtain ⟨-, hhandlers, hregistry, -, -⟩ := hinit
  have h₀ : AuthInv ctx [] s₀ := by
    refine ⟨?_, nofun, ?_⟩
    · intro c h hh
      simp [hhandlers] at hh
    · intro id e he
      simp [hregistry] at he
  exact (proxyServer ctx).log_rule (fun _ _ _ _ _ hinv hstep => authInv_step hinv hstep) h₀ hrun

end

end Flextunnel.Analysis
