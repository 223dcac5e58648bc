import Flextunnel.Analysis.RouteAgreement
import Flextunnel.Model.ClientSteps

/-!
# Nothing is routed before a policy is known

Every dial and every stream in the log of a run has, before it, the read of the policy slot that
decided it; before that read, the publication of the set that was read; and before that, the
handshake that pushed the set. `Grounded` says how much of this chain a local connection has behind
it at each point, however often the tunnel went down while it waited there.
-/

set_option autoImplicit false

namespace Flextunnel.Analysis

open Lib Model

section

variable {ctx : ClientCtx} {log es : List ClientEvent} {r : Nat} {routedSet : RoutedSet}
  {target : Target} {way : LocalRoute} {s t : Client}

/-! ## The chain behind a routed request -/

/-- An accepted handshake brought the set. -/
def Pushed (ctx : ClientCtx) (log : List ClientEvent) (routedSet : RoutedSet) : Prop :=
  ∃ conn response, ClientEvent.accepted conn response routedSet ∈ log ∧
    response.accepted = true ∧
    RoutedSet.new ctx.ipNetwork response.routes.routedDomains
      response.routes.routedCidrs = .ok routedSet

/-- The manager published the set after it was pushed. -/
def Published (ctx : ClientCtx) (log : List ClientEvent) (routedSet : RoutedSet) : Prop :=
  ∃ pre post, log = pre ++ .policyPublished routedSet :: post ∧ Pushed ctx pre routedSet

/-- Local connection `r` read the set after it was published. -/
def ReadBy (ctx : ClientCtx) (log : List ClientEvent) (r : Nat) (routedSet : RoutedSet) : Prop :=
  ∃ pre post, log = pre ++ .policyRead r routedSet :: post ∧ Published ctx pre routedSet

def Decided (ctx : ClientCtx) (log : List ClientEvent) (r : Nat) (target : Target)
    (routedSet : RoutedSet) : Prop :=
  ClientEvent.received r target ∈ log ∧ ReadBy ctx log r routedSet

/-- The policy that local connection `r` read sends its target this way. -/
def Routed (ctx : ClientCtx) (log : List ClientEvent) (r : Nat) (target : Target)
    (way : LocalRoute) : Prop :=
  ∃ routedSet, Decided ctx log r target routedSet ∧ localRoute routedSet target = way

theorem Pushed.append (h : Pushed ctx log routedSet) : Pushed ctx (log ++ es) routedSet := by
  obtain ⟨conn, response, he, hrest⟩ := h
  exact ⟨conn, response, List.mem_append_left _ he, hrest⟩

theorem Published.append (h : Published ctx log routedSet) :
    Published ctx (log ++ es) routedSet := by
  obtain ⟨pre, post, rfl, hpushed⟩ := h
  exact ⟨pre, post ++ es, by simp, hpushed⟩

theorem ReadBy.append (h : ReadBy ctx log r routedSet) : ReadBy ctx (log ++ es) r routedSet := by
  obtain ⟨pre, post, rfl, hpublished⟩ := h
  exact ⟨pre, post ++ es, by simp, hpublished⟩

theorem Decided.append (h : Decided ctx log r target routedSet) :
    Decided ctx (log ++ es) r target routedSet :=
  ⟨List.mem_append_left _ h.1, h.2.append⟩

theorem Routed.append (h : Routed ctx log r target way) : Routed ctx (log ++ es) r target way := by
  obtain ⟨routedSet, hd, hway⟩ := h
  exact ⟨routedSet, hd.append, hway⟩

/-- What a local connection has behind it at each point. -/
def Grounded (ctx : ClientCtx) (log : List ClientEvent) (r : Nat) : LocalPc → Prop
  | .reading | .relaying | .done => True
  | .policy request | .wait .policy request _ | .reread request =>
    ClientEvent.received r request.target ∈ log
  | .route request routedSet => Decided ctx log r request.target routedSet
  | .dialing request => Routed ctx log r request.target .direct
  | .wait .tunnel request _ | .opening request _ => Routed ctx log r request.target .tunnel

/-- What a dial or a stream has behind it. -/
def Founded (ctx : ClientCtx) (log : List ClientEvent) : ClientEvent → Prop
  | .dialed r target _ => Routed ctx log r target .direct
  | .tunneled r _ target => Routed ctx log r target .tunnel
  | _ => True

theorem Grounded.append {pc : LocalPc} (h : Grounded ctx log r pc) :
    Grounded ctx (log ++ es) r pc := by
  cases pc with
  | reading | relaying | done => trivial
  | policy request | reread request => exact List.mem_append_left _ h
  | route request routedSet => exact Decided.append h
  | dialing request | opening request conn => exact Routed.append h
  | wait purpose request pc =>
    cases purpose with
    | policy => exact List.mem_append_left _ h
    | tunnel => exact Routed.append h

theorem Founded.append {e : ClientEvent} (h : Founded ctx log e) : Founded ctx (log ++ es) e := by
  cases e with
  | dialed | tunneled => exact Routed.append h
  | _ => trivial

/-! ## A step of a local connection -/

/-- A wait that is over leads on with what the connection had before. -/
theorem grounded_waited {purpose : WaitFor} {request : LocalRequest} {wpc : WaitPc}
    {conn : Option Nat} {pc : LocalPc} (hg : Grounded ctx log r (.wait purpose request wpc))
    (h : waited r purpose request conn = (pc, es)) :
    Grounded ctx (log ++ es) r pc ∧ ∀ e ∈ es, Founded ctx log e := by
  cases purpose <;> cases conn <;> cases h
  · exact ⟨trivial, by simp [Founded]⟩
  · exact ⟨List.mem_append_left _ hg, List.forall_mem_nil _⟩
  · exact ⟨trivial, by simp [Founded]⟩
  · exact ⟨Routed.append hg, List.forall_mem_nil _⟩

theorem decided_of_read (hreq : ClientEvent.received r target ∈ log)
    (hpublished : Published ctx log routedSet) :
    Decided ctx (log ++ [.policyRead r routedSet]) r target routedSet :=
  ⟨List.mem_append_left _ hreq, log, [], rfl, hpublished⟩

theorem grounded_of_settled {pc : LocalPc} (h : pc = .relaying ∨ pc = .done) :
    Grounded ctx log r pc := by
  rcases h with rfl | rfl <;> trivial

/-- A step of a local connection keeps it grounded, and what it dials or opens is founded. -/
theorem grounded_step {c : LocalConn} {l : LocalLabel} {pc : LocalPc}
    (hpolicy : ∀ routedSet, s.policy = some routedSet → Published ctx log routedSet)
    (hg : Grounded ctx log r c.pc) (hstep : c.step s r l = some (pc, es)) :
    Grounded ctx (log ++ es) r pc ∧ ∀ e ∈ es, Founded ctx log e := by
  unfold LocalConn.step at hstep
  split at hstep
  · -- read
    split at hstep <;> cases hstep
    · exact ⟨by simp [Grounded], by simp [Founded]⟩
    · exact ⟨trivial, List.forall_mem_nil _⟩
  · -- readTimeout
    cases hstep
    exact ⟨trivial, List.forall_mem_nil _⟩
  · -- lockPolicy
    next request hpc =>
    rw [hpc] at hg
    split at hstep <;> cases hstep
    next routedSet hset => exact ⟨decided_of_read hg (hpolicy routedSet hset), by simp [Founded]⟩
    · exact ⟨List.mem_append_left _ hg, List.forall_mem_nil _⟩
  · -- borrow
    next purpose request hpc =>
    rw [hpc] at hg
    split at hstep
    · exact grounded_waited hg (Option.some.inj hstep)
    cases hstep
    have hnext : Grounded ctx log r (.wait purpose request .acquire) := by
      cases purpose <;> exact hg
    exact ⟨hnext.append, List.forall_mem_nil _⟩
  · -- acquire
    next purpose request hpc =>
    rw [hpc] at hg
    cases hstep
    have hnext : ∀ next, Grounded ctx log r (.wait purpose request next) := by
      intro next
      cases purpose <;> exact hg
    exact ⟨(hnext _).append, List.forall_mem_nil _⟩
  · -- recheck
    next hpc =>
    rw [hpc] at hg
    exact grounded_waited hg (Option.some.inj hstep)
  · -- wake
    next hpc =>
    rw [hpc] at hg
    obtain ⟨conn, -, hwaited⟩ := Option.map_eq_some_iff.1 hstep
    exact grounded_waited hg hwaited
  · -- expire
    next hpc =>
    rw [hpc] at hg
    exact grounded_waited hg (Option.some.inj hstep)
  · -- relock
    next request hpc =>
    rw [hpc] at hg
    split at hstep <;> cases hstep
    next routedSet hset => exact ⟨decided_of_read hg (hpolicy routedSet hset), by simp [Founded]⟩
    · exact ⟨trivial, by simp [Founded]⟩
  · -- route
    next request routedSet hpc =>
    rw [hpc] at hg
    split at hstep
    all_goals
      next hroute =>
      cases hstep
      exact ⟨Routed.append ⟨routedSet, hg, hroute⟩, List.forall_mem_nil _⟩
  · -- dial
    next net deadline request hpc =>
    rw [hpc] at hg
    obtain ⟨hnext, hes⟩ := directConnect_cases r request net deadline
    rw [Option.some.inj hstep] at hnext hes
    refine ⟨grounded_of_settled hnext, fun e he => ?_⟩
    rcases hes e he with ⟨events, rfl⟩ | ⟨rep, rfl⟩
    · exact hg
    · trivial
  · -- openTunnel
    next result request conn hpc =>
    rw [hpc] at hg
    obtain ⟨hnext, hes⟩ := openTunnel_cases r request conn result
    rw [Option.some.inj hstep] at hnext hes
    refine ⟨grounded_of_settled hnext, fun e he => ?_⟩
    rcases hes e he with rfl | ⟨rep, rfl⟩
    · exact hg
    · trivial
  · -- finish
    cases hstep
    exact ⟨trivial, List.forall_mem_nil _⟩
  · cases hstep

/-! ## The invariant -/

/-- What is in the policy slot was published, what is about to be was pushed, every local connection
has behind it what its point needs, and so has every dial and stream. -/
structure FailClosedInv (ctx : ClientCtx) (log : List ClientEvent) (s : Client) : Prop where
  policy : ∀ routedSet, s.policy = some routedSet → Published ctx log routedSet
  publishing : ∀ conn routedSet, s.pc = .publishing conn routedSet → Pushed ctx log routedSet
  conns : ∀ r c, s.conns[r]? = some c → Grounded ctx log r c.pc
  events : ∀ pre e post, log = pre ++ e :: post → Founded ctx pre e

theorem FailClosedInv.events_append (hinv : FailClosedInv ctx log s)
    (hes : ∀ e ∈ es, Founded ctx log e) :
    ∀ pre e post, log ++ es = pre ++ e :: post → Founded ctx pre e := by
  intro pre e post heq
  rcases split_append heq with ⟨post', -, hlog⟩ | ⟨mid, rfl, hmid⟩
  · exact hinv.events pre e post' hlog
  · exact (hes e (by simp [hmid])).append

/-- A manager's step that fills no slot keeps the invariant. -/
theorem FailClosedInv.keep (hinv : FailClosedInv ctx log s) (hpolicy : t.policy = s.policy)
    (hconns : t.conns = s.conns) (hpc : ∀ conn routedSet, t.pc ≠ .publishing conn routedSet)
    (hes : ∀ e ∈ es, Founded ctx log e) : FailClosedInv ctx (log ++ es) t where
  policy := by
    rw [hpolicy]
    exact fun routedSet h => (hinv.policy routedSet h).append
  publishing := fun conn routedSet h => absurd h (hpc conn routedSet)
  conns := by
    rw [hconns]
    exact fun r c h => (hinv.conns r c h).append
  events := hinv.events_append hes

/-- A step of the manager publishes only what a handshake pushed. -/
theorem failClosed_manager {l : ManagerLabel} (hinv : FailClosedInv ctx log s)
    (hmove : ManagerStep ctx s l t es) : FailClosedInv ctx (log ++ es) t := by
  cases hmove with
  | @accepted conn _ bytes response routedSet hpc hshake =>
    obtain ⟨tracker, duplicateServer, routes, hframe⟩ := s.handshake_cases ctx bytes
    obtain ⟨-, haccepted, hnew⟩ :=
      handshake_eq_ok (show s.handshake ctx bytes = (_, .ok (response, routedSet)) from
        Prod.ext rfl hshake)
    rw [hframe]
    refine ⟨fun set h => (hinv.policy set h).append, ?_, fun r c h => (hinv.conns r c h).append,
      hinv.events_append (by simp [Founded])⟩
    rintro conn' set hset
    cases hset
    exact ⟨conn, response, by simp, haccepted, hnew⟩
  | @publishPolicy conn routedSet hpc =>
    refine ⟨?_, nofun, fun r c h => (hinv.conns r c h).append,
      hinv.events_append (by simp [Founded])⟩
    intro set hset
    cases hset
    exact ⟨log, [], rfl, hinv.publishing conn routedSet hpc⟩
  | @failed _ u _ e jitterMs _ hfail hjitter hresult =>
    obtain ⟨attempt, pc, reconnect, hframe, hend⟩ := u.handleFailure_cases ctx e jitterMs
    rw [hresult] at hframe hend
    cases hframe
    have hu : u.policy = s.policy ∧ u.conns = s.conns := by
      cases hfail with
      | response hpc hshake =>
        obtain ⟨tracker, duplicateServer, routes, hframe⟩ := s.handshake_cases ctx _
        rw [hframe]
        exact ⟨rfl, rfl⟩
      | _ => exact ⟨rfl, rfl⟩
    refine hinv.keep hu.1 hu.2 ?_ ?_
    · rintro conn routedSet (hpc : pc = _)
      rcases hend with ⟨rfl, -⟩ | ⟨⟨backoff, rfl⟩, -⟩ <;> cases hpc
    · rcases hend with ⟨-, rfl⟩ | ⟨-, rfl⟩ <;> simp [Founded]
  | nudge hpc hdue =>
    refine hinv.keep rfl rfl nofun ?_
    split <;> simp [Founded]
  | beginWait hpc =>
    refine hinv.keep rfl rfl ?_ nofun
    intro conn routedSet
    dsimp only
    split <;> exact nofun
  | clear | rebuild | connected | publishConn | returned | timer | pathLost | foregrounded
  | pathReturned => exact hinv.keep rfl rfl nofun (by simp [Founded])

/-- Every step of the client keeps the invariant. -/
theorem failClosed_step {l : ClientLabel} (hinv : FailClosedInv ctx log s)
    (hstep : s.step ctx l = some (t, es)) : FailClosedInv ctx (log ++ es) t := by
  cases l with
  | manager l => exact failClosed_manager hinv (managerStep_of_manage hstep)
  | accept listener =>
    simp only [Client.step] at hstep
    split at hstep <;> cases hstep
    refine ⟨fun set h => (hinv.policy set h).append,
      fun conn set h => (hinv.publishing conn set h).append, ?_, hinv.events_append (by simp)⟩
    intro r c hc
    rcases getElem?_concat_cases hc with hc | ⟨-, rfl⟩
    · exact (hinv.conns r c hc).append
    · trivial
  | conn r l =>
    obtain ⟨c, hc, hmap⟩ := Option.bind_eq_some_iff.1 hstep
    obtain ⟨⟨pc, es'⟩, hlocal, ⟨⟩⟩ := Option.map_eq_some_iff.1 hmap
    obtain ⟨hg, hes⟩ := grounded_step hinv.policy (hinv.conns r c hc) hlocal
    refine ⟨fun set h => (hinv.policy set h).append,
      fun conn set h => (hinv.publishing conn set h).append, ?_, hinv.events_append hes⟩
    intro r' c' hc'
    rcases getElem?_set_cases hc' with ⟨rfl, rfl⟩ | ⟨-, hc'⟩
    · exact hg
    · exact (hinv.conns r' c' hc').append
  | abort =>
    simp only [Client.step] at hstep
    split at hstep <;> cases hstep
    exact hinv.keep rfl rfl (by simp) (by simp [Founded])
  | tick d | setBackground b | setNetworkAvailable b | closeLocalListeners =>
    cases hstep
    exact ⟨fun set h => (hinv.policy set h).append,
      fun conn set h => (hinv.publishing conn set h).append,
      fun r c h => (hinv.conns r c h).append, hinv.events_append (by simp)⟩

/-- The invariant holds in every run. -/
theorem failClosedInv_of_run {s₀ : Client} {ls : List ClientLabel}
    (hinit : (proxyClient ctx).init s₀) (hrun : (proxyClient ctx).run s₀ ls = some (s, log)) :
    FailClosedInv ctx log s := by
  obtain ⟨htop, -, -, -, hpolicy, hconns⟩ := hinit
  refine (proxyClient ctx).log_rule (P := FailClosedInv ctx)
    (fun log s l t es hinv hstep => failClosed_step hinv hstep) ?_ hrun
  exact ⟨by simp [hpolicy], by simp [htop], by simp [hconns], by simp⟩

/-! ## Fail closed -/

theorem localRoute_eq_direct_iff : localRoute routedSet target = .direct ↔
    target.isReserved = false ∧ routedSet.allows target = false := by
  unfold localRoute
  cases target.isReserved <;> cases routedSet.allows target <;> simp

/-- **Requests fail closed.** In every run of a client, a request is dialed from the device only
when its target is not reserved and not allowed by rules that the request read, that were published
before that and that an accepted handshake of the run pushed before that; it is tunneled only after
the same chain, with rules that allow it or for a reserved target. -/
theorem requests_fail_closed (ctx : ClientCtx) {s₀ s : Client} {ls : List ClientLabel}
    {log : List ClientEvent} (hinit : (proxyClient ctx).init s₀)
    (hrun : (proxyClient ctx).run s₀ ls = some (s, log)) :
    (∀ pre r target events post, log = pre ++ .dialed r target events :: post →
      target.isReserved = false ∧ ∃ routedSet,
        Decided ctx pre r target routedSet ∧ routedSet.allows target = false) ∧
    (∀ pre r conn target post, log = pre ++ .tunneled r conn target :: post →
      ∃ routedSet, Decided ctx pre r target routedSet ∧
        (target.isReserved = true ∨ routedSet.allows target = true)) := by
  have hinv := failClosedInv_of_run hinit hrun
  constructor
  · intro pre r target events post hlog
    obtain ⟨routedSet, hd, hway⟩ := hinv.events pre _ post hlog
    obtain ⟨hreserved, hallows⟩ := localRoute_eq_direct_iff.1 hway
    exact ⟨hreserved, routedSet, hd, hallows⟩
  · intro pre r conn target post hlog
    obtain ⟨routedSet, hd, hway⟩ := hinv.events pre _ post hlog
    exact ⟨routedSet, hd, (localRoute_eq_tunnel_iff routedSet target).1 hway⟩

def elevenAddr : SocketAddr := .v4 ⟨[11, 0, 0, 7], rfl⟩ 80

/-- Connection 0 meets a stale tunnel and no policy and is refused; connection 1 is parked
while the tunnel comes up and is then tunneled; connection 2 asks for an address outside the
pushed network. -/
def parkedRun : List ClientLabel :=
  [.accept .socks, .conn 0 (.read tenSocks), .conn 0 .lockPolicy, .conn 0 .borrow,
    .conn 0 .relock, .manager .clear, .accept .socks, .conn 1 (.read tenSocks),
    .conn 1 .lockPolicy, .conn 1 .borrow, .conn 1 .acquire, .manager .repair,
    .manager (.connect (.ok ()) 0), .manager (.response [0, 0, 0, 1, 0] 0),
    .manager .publishPolicy, .manager .publishConn, .conn 1 .wake, .conn 1 .relock,
    .conn 1 .route, .conn 1 .borrow, .conn 1 (.openTunnel (.reply 0)), .accept .socks,
    .conn 2 (.read [5, 1, 0, 5, 1, 0, 1, 11, 0, 0, 7, 0, 80]), .conn 2 .lockPolicy,
    .conn 2 .route, .conn 2 (.dial quietNet none)]

/-- In this run a parked request is tunneled and a later one dialed directly, each after the
policy was pushed, published and read. -/
theorem requests_fail_closed_parked :
    ∃ s log pre₁ post₁ pre₂ post₂,
      (proxyClient (plainClient tenResponse tenNetwork)).run (startedClient (some 0)) parkedRun =
        some (s, log) ∧
      log = pre₁ ++ .tunneled 1 1 tenTarget :: post₁ ∧
      (∃ routedSet, Decided (plainClient tenResponse tenNetwork) pre₁ 1 tenTarget routedSet ∧
        (tenTarget.isReserved = true ∨ routedSet.allows tenTarget = true)) ∧
      log = pre₂ ++ .dialed 2 (.ip elevenAddr) [.connect elevenAddr] :: post₂ ∧
      (∃ routedSet, Decided (plainClient tenResponse tenNetwork) pre₂ 2 (.ip elevenAddr) routedSet ∧
        routedSet.allows (.ip elevenAddr) = false) := by
  have heval : ((proxyClient (plainClient tenResponse tenNetwork)).run (startedClient (some 0))
      parkedRun).map (fun r => decide (ClientEvent.tunneled 1 1 tenTarget ∈ r.2 ∧
        ClientEvent.dialed 2 (.ip elevenAddr) [.connect elevenAddr] ∈ r.2)) = some true := by
    decide
  obtain ⟨⟨s, log⟩, hrun, hmem⟩ := Option.map_eq_some_iff.1 heval
  obtain ⟨htunneled, hdialed⟩ := of_decide_eq_true hmem
  obtain ⟨pre₁, post₁, hlog₁⟩ := List.append_of_mem htunneled
  obtain ⟨pre₂, post₂, hlog₂⟩ := List.append_of_mem hdialed
  have hinit : (proxyClient (plainClient tenResponse tenNetwork)).init (startedClient (some 0)) :=
    ⟨rfl, rfl, rfl, rfl, rfl, rfl⟩
  obtain ⟨hdirect, htunnel⟩ := requests_fail_closed _ hinit hrun
  exact ⟨s, log, pre₁, post₁, pre₂, post₂, hrun, hlog₁, htunnel _ _ _ _ _ hlog₁, hlog₂,
    (hdirect _ _ _ _ _ hlog₂).2⟩

end

end Flextunnel.Analysis
