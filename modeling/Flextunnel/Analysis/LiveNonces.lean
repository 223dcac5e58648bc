import Flextunnel.Model.ServerSteps

/-!
# Two instances of one client id

A registration is refused while another instance of the id has a live entry. An entry that has gone
stale is passed over, its handler keeps running, and its next heartbeat makes it live again beside
the new one. The handler's read timeout does not rule this out: it runs from the end of the last
write, the entry's age from the last heartbeat read (`two_live_nonces`).
-/

set_option autoImplicit false

namespace Flextunnel.Analysis

open Lib Model

section

variable {EndpointId PublicKey Doc : Type} [DecidableEq EndpointId] [DecidableEq PublicKey]
  {ctx : ServerCtx EndpointId PublicKey Doc}

/-- Live entries of one id carry one instance nonce.
SOURCE: core/proxy/server.rs:71-73 -/
def OneLiveNonce (reg : Registry EndpointId) (now : Nat) : Prop :=
  ∀ id, ∀ e₁ ∈ reg.entriesOf id, ∀ e₂ ∈ reg.entriesOf id,
    e₁.live now → e₂.live now → e₁.nonce = e₂.nonce

/-- The heartbeat finds its entry live. -/
def refreshesLive (s : Server EndpointId Doc) : ServerLabel EndpointId → Bool
  | .handler c (.heartbeat (.heartbeat _)) =>
    match s.handlers[c]? with
    | none => true
    | some h =>
      match h.peer with
      | none => true
      | some (remoteId, _) => (s.shared.registry.entriesOf remoteId).all fun e =>
        e.connSeq ≠ h.connSeq ∨ e.live s.shared.now
  | _ => true

/-! ## What the registry operations preserve -/

variable {reg reg' : Registry EndpointId} {now connSeq connection : Nat} {remoteId : EndpointId}
  {nonce : Nonce} {clientKey : Option String}

theorem live_of_live_add {e : ConnEntry} {ns : Nat} (h : e.live (now + ns)) : e.live now := by
  unfold ConnEntry.live at h ⊢
  omega

theorem OneLiveNonce.of_subset (h : OneLiveNonce reg now)
    (hsub : ∀ id, ∀ e ∈ reg'.entriesOf id, e ∈ reg.entriesOf id) : OneLiveNonce reg' now :=
  fun id e₁ he₁ e₂ he₂ => h id e₁ (hsub id e₁ he₁) e₂ (hsub id e₂ he₂)

theorem OneLiveNonce.add {ns : Nat} (h : OneLiveNonce reg now) : OneLiveNonce reg (now + ns) :=
  fun id e₁ he₁ e₂ he₂ hl₁ hl₂ =>
    h id e₁ he₁ e₂ he₂ (live_of_live_add hl₁) (live_of_live_add hl₂)

/-- A registration that succeeds agrees with the live entries. -/
theorem OneLiveNonce.register (h : OneLiveNonce reg now)
    (hreg : reg.tryRegister now remoteId connSeq nonce connection clientKey = (reg', .ok ())) :
    OneLiveNonce reg' now := by
  obtain ⟨hlive, rfl⟩ := Registry.tryRegister_ok hreg
  intro id e₁ he₁ e₂ he₂ hl₁ hl₂
  rw [Registry.entriesOf_insert] at he₁ he₂
  split at he₁
  next hid =>
    rw [if_pos hid] at he₂
    -- old entries agree with the new one because the attempt succeeded
    rcases Registry.mem_insertEntry.1 he₁ with ⟨he₁, -⟩ | rfl <;>
      rcases Registry.mem_insertEntry.1 he₂ with ⟨he₂, -⟩ | rfl
    · exact h remoteId e₁ he₁ e₂ he₂ hl₁ hl₂
    · exact hlive e₁ he₁ hl₁
    · exact (hlive e₂ he₂ hl₂).symm
    · rfl
  next hid =>
    rw [if_neg hid] at he₂
    exact h id e₁ he₁ e₂ he₂ hl₁ hl₂

theorem exists_live_of_refresh {id : EndpointId} {e : ConnEntry}
    (hrefreshed : ∀ e ∈ reg.entriesOf remoteId, e.connSeq = connSeq → e.live now)
    (he : e ∈ (reg.refresh now remoteId connSeq).entriesOf id) (hl : e.live now) :
    ∃ e₀ ∈ reg.entriesOf id, e₀.live now ∧ e₀.nonce = e.nonce := by
  rw [Registry.entriesOf_refresh] at he
  split at he
  next hid =>
    obtain ⟨e₀, he₀, rfl⟩ := List.mem_map.1 he
    split at hl
    next hseq => exact ⟨e₀, he₀, hrefreshed e₀ (hid ▸ he₀) hseq, by simp [hseq]⟩
    next hseq => exact ⟨e₀, he₀, hl, by simp [hseq]⟩
  · exact ⟨e, he, hl, rfl⟩

/-- The refresh of a live entry brings no other nonce to life. -/
theorem OneLiveNonce.refresh (h : OneLiveNonce reg now)
    (hrefreshed : ∀ e ∈ reg.entriesOf remoteId, e.connSeq = connSeq → e.live now) :
    OneLiveNonce (reg.refresh now remoteId connSeq) now := by
  intro id e₁ he₁ e₂ he₂ hl₁ hl₂
  obtain ⟨e₁', he₁', hl₁', hn₁⟩ := exists_live_of_refresh hrefreshed he₁ hl₁
  obtain ⟨e₂', he₂', hl₂', hn₂⟩ := exists_live_of_refresh hrefreshed he₂ hl₂
  rw [← hn₁, ← hn₂]
  exact h id e₁' he₁' e₂' he₂' hl₁' hl₂'

theorem OneLiveNonce.drop (h : OneLiveNonce reg now) :
    OneLiveNonce (reg.drop remoteId connSeq) now := by
  refine h.of_subset ?_
  intro id e he
  rw [Registry.entriesOf_drop] at he
  split at he
  · exact (List.mem_filter.1 he).1
  · exact he

/-! ## Runs -/

/-- A handler's move keeps the nonces of an id alike. -/
theorem oneLiveNonce_move {c : Nat} {sh sh' : Shared EndpointId Doc} {h h' : Handler EndpointId}
    {l : HandlerLabel EndpointId} {es : List (ServerEvent EndpointId)}
    (hmove : HandlerStep ctx c sh h l h' sh' es)
    (hrefreshed : ∀ seq remoteId alpn, l = .heartbeat (.heartbeat seq) →
      h.peer = some (remoteId, alpn) →
        ∀ e ∈ sh.registry.entriesOf remoteId, e.connSeq = h.connSeq → e.live sh.now)
    (hinv : OneLiveNonce sh.registry sh.now) : OneLiveNonce sh'.registry sh'.now := by
  cases hmove with
  | registered hphase hpeer hobserved hreg => exact hinv.register hreg
  | duplicate hphase hpeer hobserved hreg =>
    refine hinv.of_subset fun id e he => ?_
    rwa [(Registry.tryRegister_error hreg).2.2 id] at he
  | @heartbeat guard since remoteId alpn seq hphase hpeer hopen =>
    cases guard with
    | conn => exact hinv.refresh (hrefreshed seq remoteId alpn rfl hpeer)
    | bridge => exact hinv
  | @drop guard remoteId alpn hphase hpeer =>
    rcases guard with _ | ⟨_ | _⟩
    · exact hinv
    · exact hinv.drop
    · exact hinv
  | selfBlock => simpa [Shared.selfBlock] using hinv
  | blockClient => simpa [Shared.blockClient] using hinv
  | _ => exact hinv

/-- A step of the server keeps them alike, also when time passes. -/
theorem oneLiveNonce_step {s t : Server EndpointId Doc} {l : ServerLabel EndpointId}
    {es : List (ServerEvent EndpointId)} (hguard : refreshesLive s l = true)
    (hinv : OneLiveNonce s.shared.registry s.shared.now)
    (hstep : s.step ctx l = some (t, es)) : OneLiveNonce t.shared.registry t.shared.now := by
  rcases Server.step_cases hstep with hloop | ⟨c, hl, h, h', sh, rfl, hh, hmove, rfl⟩
  · cases hloop with
    | tick => exact hinv.add
    | _ => exact hinv
  refine oneLiveNonce_move hmove ?_ hinv
  rintro seq remoteId alpn rfl hpeer e he hseq
  have hall : ∀ e ∈ s.shared.registry.entriesOf remoteId,
      ¬ e.connSeq = h.connSeq ∨ e.live s.shared.now := by
    simpa [refreshesLive, hh, hpeer] using hguard
  exact (hall e he).resolve_left fun hne => hne hseq

/-- **Live entries of one id carry one nonce, as long as every heartbeat finds its entry live**: in
every run in which no heartbeat refreshes an entry that has gone stale. -/
theorem live_entries_share_nonce {s₀ s : Server EndpointId Doc}
    {ls : List (ServerLabel EndpointId)} {log : List (ServerEvent EndpointId)}
    (hinit : (proxyServer ctx).init s₀)
    (hguard : (proxyServer ctx).Guarded (fun s l => refreshesLive s l = true) s₀ ls)
    (hrun : (proxyServer ctx).run s₀ ls = some (s, log)) :
    OneLiveNonce s.shared.registry s.shared.now := by
  have hempty : s₀.shared.registry = ∅ := hinit.2.2.1
  have h₀ : OneLiveNonce s₀.shared.registry s₀.shared.now := by
    intro id e₁ he₁
    rw [hempty, Registry.entriesOf_empty] at he₁
    cases he₁
  exact (proxyServer ctx).guarded_invariant
    (P := fun s => OneLiveNonce s.shared.registry s.shared.now)
    (fun _ _ _ _ hg hinv h => oneLiveNonce_step hg hinv h) h₀ hguard hrun

end

/-! ## Two laptops -/

def firstLaptop (stall : Nat) : List (ServerLabel String) :=
  laptopConnects 0 1 0 ++
    [.handler 0 .tryRegister, .tick (stall * second), .handler 0 (.reply .sent)]

/-- A laptop with this nonce registers after `wait` seconds, and a second later the first one's
heartbeat is read. -/
def secondLaptop (wait : Nat) (nonce : UInt8) : List (ServerLabel String) :=
  [.tick (wait * second)] ++ laptopConnects 1 nonce 0 ++
    [.handler 1 .tryRegister, .handler 1 (.reply .sent), .tick second,
      .handler 0 (.heartbeat (.heartbeat 1))]

/-- Two connections of one laptop are live at the same time. -/
theorem live_entries_share_nonce_one_laptop :
    ∃ s log, (proxyServer plainServer).run plainStart (firstLaptop 10 ++ secondLaptop 60 1) =
        some (s, log) ∧
      ((s.shared.registry.entriesOf "laptop").map fun e =>
        (e.nonce, decide (e.live s.shared.now))) = [(1, true), (1, true)] ∧
      OneLiveNonce s.shared.registry s.shared.now := by
  have heval : ((proxyServer plainServer).run plainStart
      (firstLaptop 10 ++ secondLaptop 60 1)).map (fun r =>
        ((r.1.shared.registry.entriesOf "laptop").map fun e =>
          (e.nonce, decide (e.live r.1.shared.now)))) = some [(1, true), (1, true)] := by decide
  obtain ⟨⟨s, log⟩, hrun, hs⟩ := Option.map_eq_some_iff.1 heval
  exact ⟨s, log, hrun, hs, live_entries_share_nonce ⟨rfl, rfl, rfl, rfl, rfl⟩ (by decide) hrun⟩

/-- The first response took ten seconds to write, so the handler reads until second 193
while its entry is stale from second 183 on. A second instance registers in between, and
the first one's heartbeat makes both live. -/
theorem two_live_nonces :
    ∃ ls s log, (proxyServer plainServer).run plainStart ls = some (s, log) ∧
      ¬ OneLiveNonce s.shared.registry s.shared.now := by
  have heval : ((proxyServer plainServer).run plainStart
      (firstLaptop 10 ++ secondLaptop 174 2)).map (fun r =>
        ((r.1.shared.registry.entriesOf "laptop").map fun e =>
          (e.nonce, decide (e.live r.1.shared.now)))) =
      some [(1, true), (2, true)] := by decide
  obtain ⟨⟨s, log⟩, hrun, hs⟩ := Option.map_eq_some_iff.1 heval
  refine ⟨_, s, log, hrun, fun hone => ?_⟩
  obtain ⟨e₁, he₁, h₁⟩ : ∃ e ∈ s.shared.registry.entriesOf "laptop",
      (e.nonce, decide (e.live s.shared.now)) = (1, true) :=
    List.mem_map.1 (by rw [hs]; simp)
  obtain ⟨e₂, he₂, h₂⟩ : ∃ e ∈ s.shared.registry.entriesOf "laptop",
      (e.nonce, decide (e.live s.shared.now)) = (2, true) :=
    List.mem_map.1 (by rw [hs]; simp)
  obtain ⟨hn₁, hl₁⟩ := Prod.mk.inj h₁
  obtain ⟨hn₂, hl₂⟩ := Prod.mk.inj h₂
  have heq := hone "laptop" e₁ he₁ e₂ he₂ (of_decide_eq_true hl₁) (of_decide_eq_true hl₂)
  rw [hn₁, hn₂] at heq
  exact absurd heq (by decide)

end Flextunnel.Analysis
