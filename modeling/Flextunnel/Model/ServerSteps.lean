import Flextunnel.Model.Server

/-!
# What a step of the server can do

`HandlerStep` lists the moves of a handler with the facts each one rests on, and
`handlerStep_of_step` says that there are no others. Proofs about the server go through
these moves and never unfold the step function.
-/

set_option autoImplicit false

namespace Flextunnel.Model

open Lib

section Moved

variable {EndpointId PublicKey Doc : Type}

/-! ## A block changes the blocklist and its file only -/

section Block

variable (ctx : ServerCtx EndpointId PublicKey Doc) (sh : Shared EndpointId Doc)
  (added : BlockList × Bool) (write : Except String Unit)

@[simp] theorem Shared.block_registry : (sh.block ctx added write).registry = sh.registry := by
  unfold Shared.block
  split <;> rfl

@[simp] theorem Shared.block_now : (sh.block ctx added write).now = sh.now := by
  unfold Shared.block
  split <;> rfl

@[simp] theorem Shared.block_nextConnSeq :
    (sh.block ctx added write).nextConnSeq = sh.nextConnSeq := by
  unfold Shared.block
  split <;> rfl

@[simp] theorem Shared.block_shutdown : (sh.block ctx added write).shutdown = sh.shutdown := by
  unfold Shared.block
  split <;> rfl

variable {added} in
theorem Shared.block_blocklist (h : added.2 = false → added.1 = sh.blocklist) :
    (sh.block ctx added write).blocklist = added.1 := by
  unfold Shared.block
  split
  · rfl
  · exact (h rfl).symm

@[simp] theorem Shared.blocklist_blockClient (remoteId : EndpointId) (nowMs : Nat) :
    (sh.blockClient ctx remoteId nowMs write).blocklist =
      (sh.blocklist.addBlockedClient (ctx.crates.endpointIdText remoteId)
        "duplicate client id (concurrent live connections)" nowMs).1 := by
  refine Shared.block_blocklist ctx sh write ?_
  unfold BlockList.addBlockedClient
  split <;> simp

@[simp] theorem Shared.blocklist_selfBlock (remoteId : EndpointId) (nowMs : Nat) :
    (sh.selfBlock ctx remoteId nowMs write).blocklist =
      (sh.blocklist.addConflictedServer (ctx.crates.endpointIdText ctx.server.ownId)
        ("client " ++ ctx.crates.endpointIdText remoteId ++ " reported a duplicate-server pattern")
        nowMs).1 := by
  refine Shared.block_blocklist ctx sh write ?_
  unfold BlockList.addConflictedServer
  split <;> simp

end Block

/-! ## What is written, and when -/

/-- Only a registered handler accepts; every other reply is a rejection. -/
theorem Phase.reply_cases {ctx : ServerCtx EndpointId PublicKey Doc} {now : Nat} {phase : Phase}
    {r : Reply} (h : phase.reply ctx now = some r) (write : Write) :
    (∃ guard routes, phase = .registered guard ∧
      r.resp = .acceptedWith ctx.server.serverInstanceNonce routes ∧
      (r.next write = .serving guard (.reading now) ∨ r.next write = .exiting (some guard))) ∨
    (∃ reason, r.resp = .rejected ctx.server.serverInstanceNonce reason ∧
      (phase = .rejecting reason ∨ phase = .stopping ∨ phase = .tearingDown []) ∧
      ((∃ code text, r.next write = .closing code text) ∨ r.next write = .exiting none)) := by
  unfold Phase.reply at h
  split at h <;> cases h
  · refine .inr ⟨_, rfl, .inl rfl, ?_⟩
    cases write <;> simp [Reply.next]
  · refine .inr ⟨_, rfl, .inr (.inl rfl), ?_⟩
    cases write <;> simp [Reply.next]
  · refine .inr ⟨_, rfl, .inr (.inr rfl), ?_⟩
    cases write <;> simp [Reply.next]
  · refine .inl ⟨.conn, _, rfl, rfl, ?_⟩
    cases write <;> simp [Reply.next]
  · refine .inl ⟨.bridge, _, rfl, rfl, ?_⟩
    cases write <;> simp [Reply.next]

/-! ## A move changes one handler -/

@[simp] theorem Server.moved_shared (s : Server EndpointId Doc) (c : Nat)
    (h : Handler EndpointId) (sh : Shared EndpointId Doc) (l : HandlerLabel EndpointId) :
    (s.moved c h sh l).shared = sh := rfl

def Server.peerOf (s : Server EndpointId Doc) (c : Nat) : Option (EndpointId × Alpn) :=
  s.handlers[c]?.bind Handler.peer

variable {s : Server EndpointId Doc} {k : Handler EndpointId}

theorem Server.peerOf_eq {c : Nat} {h : Handler EndpointId} (hh : s.handlers[c]? = some h) :
    s.peerOf c = h.peer := by
  simp [Server.peerOf, hh]

theorem Server.length_moved (s : Server EndpointId Doc) (c : Nat) (h : Handler EndpointId)
    (sh : Shared EndpointId Doc) (l : HandlerLabel EndpointId) :
    (s.moved c h sh l).handlers.length = s.handlers.length := by
  cases l <;> simp [Server.moved]

theorem Server.getElem?_moved {c d : Nat} {h : Handler EndpointId} {sh : Shared EndpointId Doc}
    {l : HandlerLabel EndpointId} (hk : (s.moved c h sh l).handlers[d]? = some k) :
    ∃ k₀, (d = c ∧ k₀ = h ∨ d ≠ c ∧ s.handlers[d]? = some k₀) ∧
      (k = k₀ ∧ l ≠ .closeDup d ∨ k = { k₀ with closed := true } ∧ l = .closeDup d) := by
  by_cases hl : ∃ x, l = .closeDup x
  · obtain ⟨x, rfl⟩ := hl
    simp only [Server.moved, List.getElem?_modify] at hk
    obtain ⟨k₀, hk₀, rfl⟩ := Option.map_eq_some_iff.1 hk
    refine ⟨k₀, getElem?_set_cases hk₀, ?_⟩
    by_cases hx : x = d
    · subst hx
      exact .inr ⟨by simp, rfl⟩
    · exact .inl ⟨by simp [hx], by simpa using hx⟩
  · have hk' : (s.handlers.set c h)[d]? = some k := by
      cases l <;> first | exact hk | exact absurd ⟨_, rfl⟩ hl
    refine ⟨k, getElem?_set_cases hk', .inl ⟨rfl, fun h => hl ⟨d, h⟩⟩⟩

theorem Server.exists_moved {d : Nat} (c : Nat) (h : Handler EndpointId)
    (sh : Shared EndpointId Doc) (l : HandlerLabel EndpointId) (hd : s.handlers[d]? = some k) :
    ∃ k' k₀, (s.moved c h sh l).handlers[d]? = some k' ∧ (d = c ∧ k₀ = h ∨ d ≠ c ∧ k₀ = k) ∧
      k'.phase = k₀.phase ∧ k'.peer = k₀.peer ∧ k'.connSeq = k₀.connSeq := by
  have hlt := (List.getElem?_eq_some_iff.1 hd).1
  rw [← s.length_moved c h sh l] at hlt
  have hnew := List.getElem?_eq_getElem hlt
  obtain ⟨k₀, hk₀, hcase⟩ := Server.getElem?_moved hnew
  refine ⟨_, k₀, hnew, ?_, ?_⟩
  · rcases hk₀ with hk₀ | ⟨hne, hk₀⟩
    · exact .inl hk₀
    · exact .inr ⟨hne, Option.some.inj (hk₀.symm.trans hd)⟩
  · rcases hcase with ⟨heq, -⟩ | ⟨heq, -⟩ <;> rw [heq] <;> exact ⟨rfl, rfl, rfl⟩

theorem Server.exists_moved_self {c : Nat} (h : Handler EndpointId) (sh : Shared EndpointId Doc)
    (l : HandlerLabel EndpointId) (hk : s.handlers[c]? = some k) :
    ∃ k', (s.moved c h sh l).handlers[c]? = some k' ∧ k'.phase = h.phase ∧ k'.peer = h.peer ∧
      k'.connSeq = h.connSeq := by
  obtain ⟨k', k₀, hk', hk₀, hrest⟩ := Server.exists_moved c h sh l hk
  obtain rfl : k₀ = h := hk₀.elim And.right fun hne => absurd rfl hne.1
  exact ⟨k', hk', hrest⟩

end Moved

variable {EndpointId PublicKey Doc : Type} [DecidableEq EndpointId] [DecidableEq PublicKey]

def HandlerLabel.Plain : HandlerLabel EndpointId → Prop
  | .closeDup _ => False
  | .drop => False
  | _ => True

inductive HandlerStep (ctx : ServerCtx EndpointId PublicKey Doc) (c : Nat)
    (sh : Shared EndpointId Doc) (h : Handler EndpointId) :
    HandlerLabel EndpointId → Handler EndpointId → Shared EndpointId Doc →
      List (ServerEvent EndpointId) → Prop
  | hookRejected {remoteId : EndpointId} {alpn : Alpn} {reason : String}
      (hphase : h.phase = .accepting)
      (hhook : ctx.allowlists.afterHandshake alpn remoteId = some reason) :
      HandlerStep ctx c sh h (.tls remoteId alpn) { h with phase := .exiting none } sh
        [.hookRejected c closeNotAllowlisted reason]
  | connected {remoteId : EndpointId} {alpn : Alpn} (hphase : h.phase = .accepting)
      (hhook : ctx.allowlists.afterHandshake alpn remoteId = none) :
      HandlerStep ctx c sh h (.tls remoteId alpn)
        { h with phase := .awaitHello, peer := some (remoteId, alpn), connSeq := sh.nextConnSeq }
        { sh with nextConnSeq := sh.nextConnSeq + 1 } [.connected c remoteId alpn]
  | gaveUp {l : HandlerLabel EndpointId} (hl : l.Plain)
      (hphase : h.phase = .accepting ∨ h.phase = .awaitHello) :
      HandlerStep ctx c sh h l { h with phase := .exiting none } sh []
  | bridgeHello {bytes : List UInt8} {remoteId : EndpointId} (hphase : h.phase = .awaitHello)
      (hpeer : h.peer = some (remoteId, .bridge)) :
      HandlerStep ctx c sh h (.hello bytes) { h with phase := .bridgeAdmitted } sh []
  | helloRead {bytes : List UInt8} {remoteId : EndpointId} {alpn : Alpn} {hello : Hello}
      (hphase : h.phase = .awaitHello) (hpeer : h.peer = some (remoteId, alpn))
      (halpn : alpn ≠ .bridge) :
      HandlerStep ctx c sh h (.hello bytes) { h with phase := .decoded hello } sh
        [.helloRead c hello]
  | refused {remoteId : EndpointId} {alpn : Alpn} {hello : Hello} {reason : String}
      (hphase : h.phase = .decoded hello) (hpeer : h.peer = some (remoteId, alpn)) :
      HandlerStep ctx c sh h .check { h with phase := .rejecting reason } sh []
  | admitted {remoteId : EndpointId} {alpn : Alpn} {hello : Hello}
      (hphase : h.phase = .decoded hello) (hpeer : h.peer = some (remoteId, alpn))
      (hblocked : sh.blocklist.isClientBlocked (ctx.crates.endpointIdText remoteId) = false)
      (hauth : authOk ctx alpn remoteId hello = true) :
      HandlerStep ctx c sh h .check { h with phase := .admitted hello } sh [.admitted c remoteId]
  | selfBlock {nowMs : Nat} {write : Except String Unit} {remoteId : EndpointId} {alpn : Alpn}
      {hello : Hello} (hphase : h.phase = .admitted hello)
      (hpeer : h.peer = some (remoteId, alpn)) (hobserved : hello.duplicateServerObserved = true) :
      HandlerStep ctx c sh h (.selfBlock nowMs write) { h with phase := .selfBlocked }
        (sh.selfBlock ctx remoteId nowMs write) [.selfBlocked c]
  | notify (hphase : h.phase = .selfBlocked) :
      HandlerStep ctx c sh h .notify { h with phase := .stopping } { sh with shutdown := true } []
  | registered {remoteId : EndpointId} {alpn : Alpn} {hello : Hello}
      {registry : Registry EndpointId} (hphase : h.phase = .admitted hello)
      (hpeer : h.peer = some (remoteId, alpn)) (hobserved : hello.duplicateServerObserved = false)
      (hreg : sh.registry.tryRegister sh.now remoteId h.connSeq hello.clientInstanceNonce c
        (clientKey ctx alpn hello) = (registry, .ok ())) :
      HandlerStep ctx c sh h .tryRegister { h with phase := .registered .conn }
        { sh with registry } [.registered c remoteId]
  | duplicate {remoteId : EndpointId} {alpn : Alpn} {hello : Hello}
      {registry : Registry EndpointId} {dups : List Nat} (hphase : h.phase = .admitted hello)
      (hpeer : h.peer = some (remoteId, alpn)) (hobserved : hello.duplicateServerObserved = false)
      (hreg : sh.registry.tryRegister sh.now remoteId h.connSeq hello.clientInstanceNonce c
        (clientKey ctx alpn hello) = (registry, .error dups)) :
      HandlerStep ctx c sh h .tryRegister { h with phase := .duplicate dups }
        { sh with registry } []
  | blockClient {nowMs : Nat} {write : Except String Unit} {remoteId : EndpointId} {alpn : Alpn}
      {dups : List Nat} (hphase : h.phase = .duplicate dups)
      (hpeer : h.peer = some (remoteId, alpn)) :
      HandlerStep ctx c sh h (.blockClient nowMs write) { h with phase := .tearingDown dups }
        (sh.blockClient ctx remoteId nowMs write) [.blocked c remoteId]
  | closeDup {d : Nat} {dups : List Nat} (hphase : h.phase = .tearingDown dups) (hd : d ∈ dups) :
      HandlerStep ctx c sh h (.closeDup d) { h with phase := .tearingDown (dups.erase d) } sh
        [.closed d closeDuplicate "duplicate client id"]
  | bridgeRegister {remoteId : EndpointId} {alpn : Alpn} (hphase : h.phase = .bridgeAdmitted)
      (hpeer : h.peer = some (remoteId, alpn)) :
      HandlerStep ctx c sh h .bridgeRegister { h with phase := .registered .bridge }
        (sh.bridgeRegister remoteId h.connSeq) []
  | reply {write : Write} {r : Reply} (hreply : h.phase.reply ctx sh.now = some r)
      (hsent : ¬ (h.closed = true ∧ write = .sent)) :
      HandlerStep ctx c sh h (.reply write) { h with phase := r.next write } sh
        (if h.closed = true ∨ write = .unencoded then [] else [.response c r.resp])
  | close {code : Nat} {reason : String} (hphase : h.phase = .closing code reason) :
      HandlerStep ctx c sh h .close { h with phase := .exiting none, closed := true } sh
        [.closed c code reason]
  | stream {guard : Guard} {hb : Heartbeat} (hphase : h.phase = .serving guard hb)
      (hopen : h.closed = false) :
      HandlerStep ctx c sh h .stream h sh [.stream c (guard == .bridge)]
  | heartbeat {guard : Guard} {since : Nat} {remoteId : EndpointId} {alpn : Alpn} {seq : UInt64}
      (hphase : h.phase = .serving guard (.reading since))
      (hpeer : h.peer = some (remoteId, alpn)) (hopen : h.closed = false) :
      HandlerStep ctx c sh h (.heartbeat (.heartbeat seq))
        { h with phase := .serving guard (.acking seq) } (sh.refresh guard remoteId h.connSeq) []
  | ack {guard : Guard} {seq : UInt64} (hphase : h.phase = .serving guard (.acking seq))
      (hopen : h.closed = false) :
      HandlerStep ctx c sh h (.ack true) { h with phase := .serving guard (.reading sh.now) } sh
        [.ack c seq]
  | served {l : HandlerLabel EndpointId} {guard : Guard} {hb : Heartbeat} (hl : l.Plain)
      (hphase : h.phase = .serving guard hb) :
      HandlerStep ctx c sh h l { h with phase := .exiting (some guard) } sh []
  | connLost : HandlerStep ctx c sh h .connLost { h with closed := true } sh []
  | drop {guard : Option Guard} {remoteId : EndpointId} {alpn : Alpn}
      (hphase : h.phase = .exiting guard) (hpeer : h.peer = some (remoteId, alpn)) :
      HandlerStep ctx c sh h .drop { h with phase := .done } (sh.drop guard remoteId h.connSeq) []
  | dropUnconnected (hphase : h.phase = .exiting none) (hpeer : h.peer = none) :
      HandlerStep ctx c sh h .drop { h with phase := .done } sh []

variable {ctx : ServerCtx EndpointId PublicKey Doc} {c : Nat} {sh sh' : Shared EndpointId Doc}
  {h h' : Handler EndpointId} {es : List (ServerEvent EndpointId)}

variable {alpn : Alpn} {remoteId : EndpointId} {l : HandlerLabel EndpointId}

theorem handlerStep_tls (hphase : h.phase = .accepting)
    (hstep : h.tls ctx c sh remoteId alpn = (h', sh', es)) :
    HandlerStep ctx c sh h (.tls remoteId alpn) h' sh' es := by
  unfold Handler.tls at hstep
  split at hstep <;> cases hstep
  next reason hhook => exact .hookRejected hphase hhook
  next hhook => exact .connected hphase hhook

theorem handlerStep_hello {bytes : List UInt8} (hphase : h.phase = .awaitHello)
    (hpeer : h.peer = some (remoteId, alpn)) (hstep : h.hello ctx c alpn bytes = (h', es)) :
    HandlerStep ctx c sh h (.hello bytes) h' sh es := by
  unfold Handler.hello at hstep
  split at hstep
  · cases hstep
    exact .gaveUp trivial (.inr hphase)
  split at hstep
  next halpn =>
    subst halpn
    split at hstep <;> cases hstep
    · exact .gaveUp trivial (.inr hphase)
    · exact .bridgeHello hphase hpeer
  next halpn =>
    split at hstep <;> cases hstep
    · exact .gaveUp trivial (.inr hphase)
    · exact .helloRead hphase hpeer halpn

theorem handlerStep_check {hello : Hello} (hphase : h.phase = .decoded hello)
    (hpeer : h.peer = some (remoteId, alpn))
    (hstep : h.check ctx c sh remoteId alpn hello = (h', es)) :
    HandlerStep ctx c sh h .check h' sh es := by
  unfold Handler.check at hstep
  split at hstep
  · cases hstep
    exact .refused hphase hpeer
  split at hstep <;> cases hstep
  next hblocked hauth => exact .admitted hphase hpeer (by simpa using hblocked) hauth
  · exact .refused hphase hpeer

theorem handlerStep_tryRegister {hello : Hello} (hphase : h.phase = .admitted hello)
    (hpeer : h.peer = some (remoteId, alpn)) (hobserved : hello.duplicateServerObserved = false)
    (hstep : h.tryRegister ctx c sh remoteId alpn hello = (h', sh', es)) :
    HandlerStep ctx c sh h .tryRegister h' sh' es := by
  unfold Handler.tryRegister at hstep
  split at hstep <;> cases hstep
  next registry hreg => exact .registered hphase hpeer hobserved hreg
  next registry dups hreg => exact .duplicate hphase hpeer hobserved hreg

/-- **Every step of a handler is one of the moves.** -/
theorem handlerStep_of_step (hstep : h.step ctx c sh l = some (h', sh', es)) :
    HandlerStep ctx c sh h l h' sh' es := by
  cases l
  case tls =>
    obtain ⟨hphase, hstep⟩ := Option.ite_none_right_eq_some.1 hstep
    exact handlerStep_tls hphase (Option.some.inj hstep)
  case tryRegister =>
    simp only [Handler.step] at hstep
    split at hstep
    next hphase hpeer =>
      obtain ⟨hobserved, hstep⟩ := Option.ite_none_left_eq_some.1 hstep
      exact handlerStep_tryRegister hphase hpeer (by simpa using hobserved) (Option.some.inj hstep)
    · cases hstep
  case ack sent =>
    simp only [Handler.step] at hstep
    split at hstep
    next hphase =>
      cases sent with
      | true =>
        obtain ⟨hopen, hstep⟩ := Option.ite_none_left_eq_some.1 hstep
        cases hstep
        exact .ack hphase (by simpa using hopen)
      | false =>
        cases hstep
        exact .served trivial hphase
    · cases hstep
  case connLost =>
    cases hstep
    exact .connLost
  -- the other labels move the handler in one branch, two of them in two
  all_goals
    simp only [Handler.step] at hstep
    split at hstep
    all_goals
      try split at hstep
      all_goals cases hstep
  next hphase => exact .gaveUp trivial (.inl hphase)
  next hphase hpeer => exact handlerStep_hello hphase hpeer rfl
  next hphase => exact .gaveUp trivial (.inr hphase)
  next hphase hpeer => exact handlerStep_check hphase hpeer rfl
  next hphase hpeer hobserved => exact .selfBlock hphase hpeer hobserved
  next hphase => exact .notify hphase
  next hphase hpeer => exact .blockClient hphase hpeer
  next hphase hd => exact .closeDup hphase hd
  next hphase hpeer => exact .bridgeRegister hphase hpeer
  next hreply hsent => exact .reply hreply hsent
  next hphase => exact .close hphase
  next hphase hopen => exact .stream hphase (by simpa using hopen)
  next hphase hpeer hopen => exact .heartbeat hphase hpeer (by simpa using hopen)
  next hphase _ _ => exact .served trivial hphase
  next hphase => exact .served trivial hphase
  next hphase _ => exact .served trivial hphase
  next hphase _ => exact .served trivial hphase
  next hphase hpeer => exact .drop hphase hpeer
  next hphase hpeer => exact .dropUnconnected hphase hpeer

/-! ## Steps of the server -/

inductive LoopStep (s : Server EndpointId Doc) :
    ServerLabel EndpointId → Server EndpointId Doc → List (ServerEvent EndpointId) → Prop
  | acquire (hloop : s.loop = .acquiring) :
      LoopStep s .acquire { s with loop := .selecting, permits := s.permits + 1 } []
  | accept (hloop : s.loop = .selecting) :
      LoopStep s .accept { s with loop := .acquiring, handlers := s.handlers ++ [{}] }
        [.spawned s.handlers.length]
  | endpointClosed (hloop : s.loop = .selecting) :
      LoopStep s .endpointClosed { s with loop := .returned false, permits := s.permits - 1 }
        [.loopReturned false]
  | shutdown (hloop : s.loop = .selecting) (hpermit : s.shared.shutdown = true) :
      LoopStep s .shutdown
        { s with loop := .returned true, permits := s.permits - 1,
                 shared := { s.shared with shutdown := false } } [.loopReturned true]
  | tick {ns : Nat} :
      LoopStep s (.tick ns) { s with shared := { s.shared with now := s.shared.now + ns } } []

/-- Every step is one of the accept loop or of one handler. -/
theorem Server.step_cases {s t : Server EndpointId Doc} {l : ServerLabel EndpointId}
    (hstep : s.step ctx l = some (t, es)) :
    LoopStep s l t es ∨ ∃ c hl h h' sh, l = .handler c hl ∧ s.handlers[c]? = some h ∧
      HandlerStep ctx c s.shared h hl h' sh es ∧ t = s.moved c h' sh hl := by
  cases l
  case handler c hl =>
    simp only [Server.step] at hstep
    split at hstep
    · cases hstep
    next h hh =>
      split at hstep
      · cases hstep
      next h' sh es' hmove =>
        cases hstep
        exact .inr ⟨c, hl, h, h', sh, rfl, hh, handlerStep_of_step hmove, rfl⟩
  case tick =>
    cases hstep
    exact .inl .tick
  all_goals
    simp only [Server.step] at hstep
    split at hstep <;> cases hstep
  next hloop => exact .inl (.acquire hloop.1)
  next hloop => exact .inl (.accept hloop)
  next hloop => exact .inl (.endpointClosed hloop)
  next hloop => exact .inl (.shutdown hloop.1 hloop.2)

/-- A handler learns its peer from the TLS handshake and keeps it. -/
theorem HandlerStep.peer_cases (hmove : HandlerStep ctx c sh h l h' sh' es) :
    h'.peer = h.peer ∨ h.phase = .accepting ∧ h'.phase = .awaitHello := by
  cases hmove with
  | connected hphase hhook => exact .inr ⟨hphase, rfl⟩
  | _ => exact .inl rfl

theorem HandlerStep.events_le_one (hmove : HandlerStep ctx c sh h l h' sh' es) :
    es = [] ∨ ∃ e, es = [e] := by
  cases hmove with
  | reply => split <;> simp
  | _ => simp

/-- A peer that is known does not change. -/
theorem Server.peerOf_step {s t : Server EndpointId Doc} {l : ServerLabel EndpointId}
    (hstep : s.step ctx l = some (t, es))
    (haccepting : ∀ h, s.handlers[c]? = some h → h.phase = .accepting → h.peer = none)
    {p : EndpointId × Alpn} (hp : s.peerOf c = some p) : t.peerOf c = some p := by
  obtain ⟨h, hh, hpeer⟩ := Option.bind_eq_some_iff.1 hp
  rcases Server.step_cases hstep with hloop | ⟨d, hl, k, k', sh, rfl, hk, hmove, rfl⟩
  · cases hloop with
    | accept => simpa [Server.peerOf, getElem?_concat_of_some hh] using hpeer
    | _ => exact hp
  obtain ⟨k₁, k₀, hk₁, hk₀, -, hpeer₁, -⟩ := Server.exists_moved d k' sh hl hh
  rw [Server.peerOf_eq hk₁, hpeer₁]
  rcases hk₀ with ⟨rfl, rfl⟩ | ⟨-, rfl⟩
  · cases hh.symm.trans hk
    rcases hmove.peer_cases with heq | ⟨hphase, -⟩
    · rw [heq, hpeer]
    · rw [haccepting h hh hphase] at hpeer
      cases hpeer
  · exact hpeer

end Flextunnel.Model
