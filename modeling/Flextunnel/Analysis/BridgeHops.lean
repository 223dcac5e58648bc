import Flextunnel.Model.Streams
import Flextunnel.Analysis.HandlerChecks

/-!
# A request crosses at most one bridge

Over any set of servers with any bridges between them, cycles included, a request visits
at most two servers, unchanged. The reason is local: a visit that forwards makes the next
one a visit over a bridge (`next_of_visit`), and those do not forward. That a server knows
these by the ALPN of their connection is read off the server machine (`flagged_of_run`).
-/

set_option autoImplicit false

namespace Flextunnel.Analysis

open Lib Model

section

variable {EndpointId PublicKey : Type}
  {servers : EndpointId → Option (ProxyServer EndpointId PublicKey)}
  {server : ProxyServer EndpointId PublicKey} {v w : Visit EndpointId}
  {s s' : Option (Visit EndpointId)} {es log : List (PathEvent EndpointId)}

/-! ## One visit -/

def visits (log : List (PathEvent EndpointId)) : List (Visit EndpointId) :=
  log.filterMap fun
    | .handled v => some v
    | _ => none

theorem requests_unique {bytes : List UInt8} {t t' : Target} (h : Requests bytes t)
    (h' : Requests bytes t') : t = t' := by
  obtain ⟨rest, hread⟩ := h
  obtain ⟨rest', hread'⟩ := h'
  have hpair : (t, rest) = (t', rest') := Except.ok.inj (hread.symm.trans hread')
  exact (Prod.mk.inj hpair).1

theorem visits_of_visit (h : VisitStep server v s es) : visits es = [v] := by
  cases h <;> rfl

/-- A visit that forwards comes from a client, and the next one is over a bridge. -/
theorem next_of_visit (h : VisitStep server v (some w) es) :
    v.alpn ≠ .bridge ∧ w.alpn = .bridge ∧ w.bytes = v.bytes ∧
      (∃ requested, Requests v.bytes requested ∧ requested.isReserved = false ∧
        server.routedSet.allows requested = true) ∧
      es = [.handled v, .forwarded v.server w.server v.bytes] := by
  cases h with
  | forward hreq hres hallows halpn => exact ⟨halpn, rfl, rfl, ⟨_, hreq, hres, hallows⟩, rfl⟩

theorem forwarded_of_visit (h : VisitStep server v s es) {a b : EndpointId}
    {bytes : List UInt8} (he : PathEvent.forwarded a b bytes ∈ es) :
    bytes = v.bytes ∧ ∃ requested, Requests v.bytes requested ∧ requested.isReserved = false := by
  cases h with
  | forward hreq hres hallows halpn =>
    obtain ⟨-, -, hbytes⟩ : a = v.server ∧ b = _ ∧ bytes = v.bytes := by simpa using he
    exact ⟨hbytes, _, hreq, hres⟩
  | _ => simp at he

/-- A reserved request that is dialed: the server's loopback, under its own name and
without a lookup. -/
def LoopbackDial (requested target : Target) (events : List DialEvent) : Prop :=
  ∃ host port, requested = .domain host port ∧ isLocalhostHost host = true ∧
    target = .domain "localhost" port ∧ ∀ e ∈ events, ∃ addr, e = .connect addr

/-- A visit dials what its set allows, or loopback for a reserved request. -/
theorem dialed_of_visit (h : VisitStep server v s es) {a : EndpointId} {target : Target}
    {events : List DialEvent} (he : PathEvent.dialed a target events ∈ es) :
    ∃ requested, Requests v.bytes requested ∧
      (requested.isReserved = false → server.routedSet.allows requested = true) ∧
      (requested.isReserved = true → LoopbackDial requested target events) := by
  cases h with
  | @loopback host port events' rep hreq hres hhost hevents =>
    obtain ⟨-, rfl, rfl⟩ :
        a = v.server ∧ target = .domain "localhost" port ∧ events = events' := by
      simpa using he
    refine ⟨_, hreq, fun hno => ?_, fun _ => ⟨host, port, rfl, hhost, rfl, fun e he => ?_⟩⟩
    · exact absurd (hres.symm.trans hno) (by decide)
    · obtain ⟨addr, -, haddr⟩ := hevents e he
      exact ⟨addr, haddr⟩
  | exit hreq hres hallows =>
    exact ⟨_, hreq, fun _ => hallows, fun hyes => absurd (hyes.symm.trans hres) (by decide)⟩
  | _ => simp at he

/-! ## The whole path -/

inductive Path (servers : EndpointId → Option (ProxyServer EndpointId PublicKey))
    (v : Visit EndpointId) : List (PathEvent EndpointId) → Option (Visit EndpointId) → Prop
  | start : Path servers v [] (some v)
  | one {server : ProxyServer EndpointId PublicKey} {s : Option (Visit EndpointId)}
      {es : List (PathEvent EndpointId)} (hserver : servers v.server = some server)
      (hvisit : VisitStep server v s es) : Path servers v es s
  | two {server server' : ProxyServer EndpointId PublicKey} {w : Visit EndpointId}
      {es es' : List (PathEvent EndpointId)} (hserver : servers v.server = some server)
      (hvisit : VisitStep server v (some w) es) (hserver' : servers w.server = some server')
      (hvisit' : VisitStep server' w none es') : Path servers v (es ++ es') none

/-- A step of the path is a visit of the server the stream is at. -/
theorem requestPath_step {l : PathLabel}
    (hstep : (requestPath servers).step s l = some (s', es)) :
    ∃ v server, s = some v ∧ servers v.server = some server ∧ VisitStep server v s' es := by
  obtain ⟨v, rfl, hv⟩ := Option.bind_eq_some_iff.1 hstep
  obtain ⟨server, hserver, hvisit⟩ := Option.map_eq_some_iff.1 hv
  have h := server.visit_step v l
  rw [hvisit] at h
  exact ⟨v, server, rfl, hserver, h⟩

/-- Every run of a request is a path. -/
theorem path_of_run {ls : List PathLabel}
    (hrun : (requestPath servers).run (some v) ls = some (s, log)) : Path servers v log s := by
  refine (requestPath servers).log_rule ?_ .start hrun
  intro log s l t es hpath hstep
  obtain ⟨w, server', rfl, hserver', hvisit'⟩ := requestPath_step hstep
  cases hpath with
  | start => exact .one hserver' hvisit'
  | one hserver hvisit =>
    -- the second visit is over a bridge, so it does not go on
    have halpn := (next_of_visit hvisit).2.1
    cases t with
    | none => exact .two hserver hvisit hserver' hvisit'
    | some u => exact absurd halpn (next_of_visit hvisit').1

/-- **A request crosses at most one bridge.** At most two servers handle it, both from the bytes the
client sent; only a target outside the reserved namespace is forwarded; and what a server dials was
allowed by the set of every server visited, or is the loopback of a reserved request, dialed under
no alias and without a lookup. -/
theorem request_crosses_one_bridge
    (servers : EndpointId → Option (ProxyServer EndpointId PublicKey)) (v : Visit EndpointId)
    {ls : List PathLabel} {s : Option (Visit EndpointId)} {log : List (PathEvent EndpointId)}
    (hrun : (requestPath servers).run (some v) ls = some (s, log)) :
    (visits log).length ≤ 2 ∧
    (∀ w ∈ visits log, w.bytes = v.bytes) ∧
    (∀ a b bytes, PathEvent.forwarded a b bytes ∈ log →
      bytes = v.bytes ∧ ∀ requested, Requests v.bytes requested → requested.isReserved = false) ∧
    (∀ a target events, PathEvent.dialed a target events ∈ log →
      ∃ requested, Requests v.bytes requested ∧
        (requested.isReserved = false → ∀ w ∈ visits log, ∃ server,
          servers w.server = some server ∧ server.routedSet.allows requested = true) ∧
        (requested.isReserved = true → LoopbackDial requested target events)) := by
  cases path_of_run hrun with
  | start => simp [visits]
  | one hserver hvisit =>
    rw [visits_of_visit hvisit]
    refine ⟨by simp, by simp, ?_, ?_⟩
    · intro a b bytes he
      obtain ⟨hbytes, requested, hreq, hres⟩ := forwarded_of_visit hvisit he
      exact ⟨hbytes, fun t ht => requests_unique hreq ht ▸ hres⟩
    intro a target events he
    obtain ⟨requested, hreq, hallows, hloop⟩ := dialed_of_visit hvisit he
    refine ⟨requested, hreq, fun hres w hw => ?_, hloop⟩
    obtain rfl := List.mem_singleton.1 hw
    exact ⟨_, hserver, hallows hres⟩
  | @two server server' w es es' hserver hvisit hserver' hvisit' =>
    obtain ⟨-, -, hbytes, ⟨requested, hreq, hres, hallows⟩, rfl⟩ := next_of_visit hvisit
    have hvisits : visits ([.handled v, .forwarded v.server w.server v.bytes] ++ es') = [v, w] := by
      rw [visits, List.filterMap_append]
      exact congrArg _ (visits_of_visit hvisit')
    rw [hvisits]
    refine ⟨by simp, by simpa using hbytes, ?_, ?_⟩
    · intro a b bytes he
      refine ⟨?_, fun t ht => requests_unique hreq ht ▸ hres⟩
      rcases List.mem_append.1 he with he | he
      · exact (forwarded_of_visit hvisit he).1
      · exact (forwarded_of_visit hvisit' he).1.trans hbytes
    intro a target events he
    have he' : PathEvent.dialed a target events ∈ es' := by simpa using he
    obtain ⟨requested', hreq', hallows', hloop⟩ := dialed_of_visit hvisit' he'
    rw [hbytes] at hreq'
    obtain rfl := requests_unique hreq hreq'
    refine ⟨requested, hreq, fun _ u hu => ?_, hloop⟩
    rcases List.mem_cons.1 hu with rfl | hu
    · exact ⟨server, hserver, hallows⟩
    · obtain rfl := List.mem_singleton.1 hu
      exact ⟨server', hserver', hallows' hres⟩

/-- The request goes over the bridge, byte for byte, and is dialed there: the bridge back
is not taken. -/
theorem request_crosses_one_bridge_mutual :
    ∃ s log, (requestPath twoServers).run (some tenVisit)
        [⟨true, quietNet, none⟩, ⟨true, quietNet, none⟩] = some (s, log) ∧
      PathEvent.dialed "b" tenTarget [.connect (.v4 ⟨[10, 0, 0, 7], rfl⟩ 80)] ∈ log ∧
      (visits log).length ≤ 2 ∧
      ∀ a b bytes, PathEvent.forwarded a b bytes ∈ log → bytes = tenVisit.bytes := by
  have heval : ((requestPath twoServers).run (some tenVisit)
      [⟨true, quietNet, none⟩, ⟨true, quietNet, none⟩]).map (fun r =>
        decide (PathEvent.dialed "b" tenTarget [.connect (.v4 ⟨[10, 0, 0, 7], rfl⟩ 80)] ∈ r.2)) =
      some true := by decide
  obtain ⟨⟨s, log⟩, hrun, hdialed⟩ := Option.map_eq_some_iff.1 heval
  obtain ⟨hlen, -, hforwarded, -⟩ := request_crosses_one_bridge _ tenVisit hrun
  exact ⟨s, log, hrun, of_decide_eq_true hdialed, hlen, fun a b bytes he =>
    (hforwarded a b bytes he).1⟩

end

/-! ## The flag of a stream -/

section

variable {EndpointId PublicKey Doc : Type} [DecidableEq EndpointId] [DecidableEq PublicKey]
  {ctx : ServerCtx EndpointId PublicKey Doc} {s₀ s : Server EndpointId Doc}
  {log : List (ServerEvent EndpointId)}

def Flagged (log : List (ServerEvent EndpointId)) (s : Server EndpointId Doc) : Prop :=
  ∀ c fromBridge, ServerEvent.stream c fromBridge ∈ log →
    ∃ id alpn, s.peerOf c = some (id, alpn) ∧ fromBridge = (alpn == .bridge)

/-- A handler that serves holds the guard of its connection's kind. -/
theorem guard_of_serving {c : Nat} {h : Handler EndpointId} {guard : Guard} {hb : Heartbeat}
    (hv : Vetted ctx log c h) (hphase : h.phase = .serving guard hb) :
    ∃ id alpn, h.peer = some (id, alpn) ∧ (guard == .bridge) = (alpn == Alpn.bridge) := by
  have hj := hv.justified
  rw [hphase] at hj
  cases guard with
  | conn =>
    obtain ⟨id, alpn, hello, hpeer, ha⟩ := hj
    refine ⟨id, alpn, hpeer, ?_⟩
    have hne := ha.notBridge
    cases alpn <;> simp_all
  | bridge =>
    obtain ⟨id, hpeer⟩ := hj
    exact ⟨id, .bridge, hpeer, rfl⟩

/-- **The flag of a stream is its connection's ALPN**, in every run of a server: what
`ProxyServer.visit` assumes of the streams it is given. -/
theorem flagged_of_run {ls : List (ServerLabel EndpointId)}
    (hinit : (proxyServer ctx).init s₀) (hrun : (proxyServer ctx).run s₀ ls = some (s, log)) :
    Flagged log s := by
  have hauth : AuthInv ctx [] s₀ := authInv_run hinit ((proxyServer ctx).run_nil s₀)
  have h₀ : AuthInv ctx [] s₀ ∧ Flagged [] s₀ := ⟨hauth, fun _ _ he => nomatch he⟩
  refine ((proxyServer ctx).log_rule (P := fun log s => AuthInv ctx log s ∧ Flagged log s)
    ?_ h₀ hrun).2
  rintro log s l t es ⟨hinv, hflag⟩ hstep
  replace hstep : s.step ctx l = some (t, es) := hstep
  refine ⟨authInv_step hinv hstep, ?_⟩
  intro c fromBridge he
  rcases List.mem_append.1 he with he | he
  · obtain ⟨id, alpn, hpeer, hfrom⟩ := hflag c fromBridge he
    exact ⟨id, alpn, hinv.peerOf_step hstep hpeer, hfrom⟩
  rcases Server.step_cases hstep with hloop | ⟨d, hl, h, h', sh, rfl, hh, hmove, rfl⟩
  · cases hloop <;> simp at he
  cases hmove with
  | @stream guard hb hphase hopen =>
    obtain ⟨rfl, rfl⟩ : c = d ∧ fromBridge = (guard == .bridge) := by simpa using he
    obtain ⟨id, alpn, hpeer, hguard⟩ := guard_of_serving (hinv.vetted c h hh) hphase
    exact ⟨id, alpn, hinv.peerOf_step hstep (by rw [Server.peerOf_eq hh, hpeer]), hguard⟩
  | reply =>
    split at he <;> simp at he
  | _ => simp at he

end

def laptopServed : List (ServerLabel String) :=
  laptopConnects 0 1 0 ++ [.handler 0 .tryRegister, .handler 0 (.reply .sent), .handler 0 .stream]

theorem flagged_of_run_laptop : ∃ s log,
    (proxyServer plainServer).run plainStart laptopServed = some (s, log) ∧
      .stream 0 false ∈ log ∧ Flagged log s := by
  have hrun : (proxyServer plainServer).run plainStart laptopServed = some _ := rfl
  exact ⟨_, _, hrun, by decide, flagged_of_run ⟨rfl, rfl, rfl, rfl, rfl⟩ hrun⟩

end Flextunnel.Analysis
