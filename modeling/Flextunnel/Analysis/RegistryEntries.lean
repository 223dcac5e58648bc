import Mathlib.Data.List.Nodup
import Flextunnel.Analysis.ServedStreams

/-!
# One entry for each registered handler

The registry is two maps, one inside the other. `Keyed` says that no inner map is empty and that the
numbers in it are distinct. With the entries' handlers (`AuthInv`), the handlers' entries
(`Registered`) and the log of the registrations (`Announced`), this makes the registry exact.
-/

set_option autoImplicit false

namespace Flextunnel.Analysis

open Lib Model

/-! ## What the operations keep -/

section Keys

variable {EndpointId : Type} [DecidableEq EndpointId] {reg : Registry EndpointId}
  {now connSeq connection : Nat} {remoteId : EndpointId} {nonce : Nonce}
  {clientKey : Option String}

structure Keyed (reg : Registry EndpointId) : Prop where
  nonempty : ∀ id, reg.lookup id ≠ some []
  distinct : ∀ id, ((reg.entriesOf id).map ConnEntry.connSeq).Nodup

theorem keyed_empty : Keyed (∅ : Registry EndpointId) := ⟨by simp, by simp⟩

theorem Keyed.insert (h : Keyed reg) {per : List ConnEntry} (hper : per ≠ [])
    (hdistinct : (per.map ConnEntry.connSeq).Nodup) : Keyed (reg.insert remoteId per) := by
  constructor
  · intro id
    by_cases hid : id = remoteId
    · subst hid
      simpa using hper
    · rw [AList.lookup_insert_ne hid]
      exact h.nonempty id
  · intro id
    rw [Registry.entriesOf_insert]
    split
    · exact hdistinct
    · exact h.distinct id

theorem nodup_insertEntry {per : List ConnEntry} (e : ConnEntry)
    (h : (per.map ConnEntry.connSeq).Nodup) :
    ((Registry.insertEntry per e).map ConnEntry.connSeq).Nodup := by
  rw [Registry.insertEntry, List.map_append, List.nodup_append]
  refine ⟨h.sublist (List.filter_sublist.map _), List.nodup_singleton _, ?_⟩
  rintro seq hseq seq' hseq' rfl
  obtain ⟨e', he', rfl⟩ := List.mem_map.1 hseq
  have hne : e'.connSeq ≠ e.connSeq := by simpa using (List.mem_filter.1 he').2
  exact hne (by simpa using hseq')

/-- A registration, refused or not, keeps the inner maps filled and their numbers distinct. -/
theorem Keyed.tryRegister {reg' : Registry EndpointId} {result : Except (List Nat) Unit}
    (h : Keyed reg)
    (hreg : reg.tryRegister now remoteId connSeq nonce connection clientKey = (reg', result)) :
    Keyed reg' := by
  simp only [Registry.tryRegister] at hreg
  split at hreg <;> cases hreg
  · refine h.insert ?_ (nodup_insertEntry _ (h.distinct remoteId))
    simp [Registry.insertEntry]
  next hdups =>
    refine h.insert (fun hnil => hdups ?_) (h.distinct remoteId)
    simp [hnil, Registry.dups]

theorem map_connSeq_refresh (reg : Registry EndpointId) (id : EndpointId) :
    ((reg.refresh now remoteId connSeq).entriesOf id).map ConnEntry.connSeq =
      (reg.entriesOf id).map ConnEntry.connSeq := by
  rw [Registry.entriesOf_refresh]
  split
  · rw [List.map_map]
    refine List.map_congr_left fun e _ => ?_
    rw [Function.comp_apply]
    split <;> rfl
  · rfl

theorem Keyed.refresh (h : Keyed reg) : Keyed (reg.refresh now remoteId connSeq) := by
  refine ⟨fun id hid => ?_, fun id => by rw [map_connSeq_refresh]; exact h.distinct id⟩
  unfold Registry.refresh at hid
  split at hid
  · exact h.nonempty id hid
  next per hper =>
    by_cases heq : id = remoteId
    · subst heq
      obtain rfl : per = [] := by simpa using hid
      exact h.nonempty id hper
    · rw [AList.lookup_insert_ne heq] at hid
      exact h.nonempty id hid

/-- The guard's drop takes an inner map out with its last entry. -/
theorem Keyed.drop (h : Keyed reg) : Keyed (reg.drop remoteId connSeq) := by
  refine ⟨fun id hid => ?_, fun id => ?_⟩
  · unfold Registry.drop at hid
    split at hid
    · exact h.nonempty id hid
    by_cases heq : id = remoteId
    · subst heq
      split at hid
      · simp at hid
      next hleft => exact hleft (by simpa using hid)
    split at hid
    · rw [AList.lookup_erase_ne heq] at hid
      exact h.nonempty id hid
    · rw [AList.lookup_insert_ne heq] at hid
      exact h.nonempty id hid
  · rw [Registry.entriesOf_drop]
    split
    · exact (h.distinct id).sublist (List.filter_sublist.map _)
    · exact h.distinct id

/-- A heartbeat for an entry that is not there changes nothing. -/
theorem lookup_refresh_absent (h : ∀ e ∈ reg.entriesOf remoteId, e.connSeq ≠ connSeq)
    (id : EndpointId) : (reg.refresh now remoteId connSeq).lookup id = reg.lookup id := by
  unfold Registry.refresh
  split
  · rfl
  next per hper =>
    have hsame : (per.map fun e => if e.connSeq = connSeq then { e with lastSeen := now } else e) =
        per := by
      rw [List.map_congr_left (g := fun e => e), List.map_id']
      intro e he
      exact if_neg (h e (by simpa [Registry.entriesOf, hper] using he))
    rw [hsame]
    by_cases heq : id = remoteId
    · subst heq
      rw [AList.lookup_insert, hper]
    · rw [AList.lookup_insert_ne heq]

end Keys

section

variable {EndpointId PublicKey Doc : Type} [DecidableEq EndpointId] [DecidableEq PublicKey]
  {ctx : ServerCtx EndpointId PublicKey Doc} {c : Nat} {sh sh' : Shared EndpointId Doc}
  {h h' : Handler EndpointId} {l : HandlerLabel EndpointId} {es log : List (ServerEvent EndpointId)}
  {s t : Server EndpointId Doc}

/-- Every move of a handler keeps the maps keyed. -/
theorem keyed_move (hmove : HandlerStep ctx c sh h l h' sh' es) (hkeyed : Keyed sh.registry) :
    Keyed sh'.registry := by
  cases hmove with
  | registered _ _ _ hreg | duplicate _ _ _ hreg => exact hkeyed.tryRegister hreg
  | @heartbeat guard =>
    cases guard with
    | conn => exact hkeyed.refresh
    | bridge => exact hkeyed
  | @drop guard =>
    rcases guard with _ | ⟨_ | _⟩
    · exact hkeyed
    · exact hkeyed.drop
    · exact hkeyed
  | selfBlock => simpa [Shared.selfBlock] using hkeyed
  | blockClient => simpa [Shared.blockClient] using hkeyed
  | _ => exact hkeyed

/-! ## The log of the registrations -/

def Returned (s : Server EndpointId Doc) (c : Nat) : Prop :=
  ∃ h, s.handlers[c]? = some h ∧ h.phase = .done

/-- A handler that registered holds its guard until it has returned, and no other handler holds
one. -/
structure Announced (log : List (ServerEvent EndpointId)) (s : Server EndpointId Doc) : Prop where
  held : ∀ c id, .registered c id ∈ log → ∃ h alpn, s.handlers[c]? = some h ∧
    h.peer = some (id, alpn) ∧ (HoldsConn h.phase ∨ h.phase = .done)
  logged : ∀ c h, s.handlers[c]? = some h → HoldsConn h.phase → ∃ id alpn,
    h.peer = some (id, alpn) ∧ .registered c id ∈ log

/-- A handler that has returned stays so. -/
theorem done_move (hmove : HandlerStep ctx c sh h l h' sh' es) (hdone : h.phase = .done) :
    h'.phase = .done ∧ h'.peer = h.peer := by
  cases hmove with
  | connLost => exact ⟨hdone, rfl⟩
  | reply hreply =>
    rw [hdone] at hreply
    cases hreply
  | gaveUp hl hphase => rcases hphase with hphase | hphase <;> rw [hdone] at hphase <;> cases hphase
  | hookRejected hphase | connected hphase | bridgeHello hphase | helloRead hphase
  | refused hphase | admitted hphase | selfBlock hphase | notify hphase | registered hphase
  | duplicate hphase | blockClient hphase | closeDup hphase | bridgeRegister hphase
  | close hphase | stream hphase | heartbeat hphase | ack hphase | served _ hphase | drop hphase
  | dropUnconnected hphase =>
    rw [hdone] at hphase
    cases hphase

/-- A handler that has registered holds its guard until it has returned. -/
theorem held_move (hmove : HandlerStep ctx c sh h l h' sh' es)
    (hheld : HoldsConn h.phase ∨ h.phase = .done) :
    (HoldsConn h'.phase ∨ h'.phase = .done) ∧ h'.peer = h.peer := by
  rcases hheld with hholds | hdone
  · rcases holdsConn_move hmove hholds with ⟨hholds', hpeer, -⟩ | ⟨hexit, rfl⟩
    · exact ⟨.inl hholds', hpeer⟩
    · cases hmove with
      | drop | dropUnconnected => exact ⟨.inr rfl, rfl⟩
      | gaveUp hl | served hl => exact hl.elim
  · obtain ⟨hdone', hpeer⟩ := done_move hmove hdone
    exact ⟨.inr hdone', hpeer⟩

theorem registered_mem_move {d : Nat} {id : EndpointId}
    (hmove : HandlerStep ctx c sh h l h' sh' es) (hmem : .registered d id ∈ es) :
    d = c ∧ HoldsConn h'.phase ∧ ∃ alpn, h'.peer = some (id, alpn) := by
  cases hmove with
  | @registered remoteId alpn hello registry hphase hpeer =>
    obtain ⟨rfl, rfl⟩ : d = c ∧ id = remoteId := by simpa using hmem
    exact ⟨rfl, trivial, alpn, hpeer⟩
  | reply =>
    split at hmem
    all_goals simp at hmem
  | _ => simp at hmem

/-- A handler's move keeps the log and the guards in step. -/
theorem Announced.move (hinv : Announced log s) (hh : s.handlers[c]? = some h)
    (hmove : HandlerStep ctx c s.shared h l h' sh' es) :
    Announced (log ++ es) (s.moved c h' sh' l) := by
  constructor
  · intro d id hmem
    rcases List.mem_append.1 hmem with hold | hnew
    · obtain ⟨k, alpn, hk, hpeer, hheld⟩ := hinv.held d id hold
      obtain ⟨k', k₀, hk', hk₀, hphase₁, hpeer₁, -⟩ := Server.exists_moved c h' sh' l hk
      refine ⟨k', alpn, hk', ?_, ?_⟩
      all_goals rcases hk₀ with ⟨rfl, rfl⟩ | ⟨-, rfl⟩
      · cases hk.symm.trans hh
        rw [hpeer₁, (held_move hmove hheld).2, hpeer]
      · rw [hpeer₁, hpeer]
      · cases hk.symm.trans hh
        rw [hphase₁]
        exact (held_move hmove hheld).1
      · rwa [hphase₁]
    · obtain ⟨rfl, hholds, alpn, hpeer⟩ := registered_mem_move hmove hnew
      obtain ⟨k', hk', hphase₁, hpeer₁, -⟩ := Server.exists_moved_self h' sh' l hh
      exact ⟨k', alpn, hk', hpeer₁.trans hpeer, .inl (by rwa [hphase₁])⟩
  · intro d k hk hholds
    obtain ⟨k₀, hk₀, hphase₀, hpeer₀, -⟩ := exists_before_moved hk
    rw [hphase₀] at hholds
    rw [hpeer₀]
    rcases hk₀ with ⟨rfl, rfl⟩ | ⟨-, hk₀⟩
    · rcases entry_of_holdsConn hmove hholds with hheld | ⟨id, alpn, hpeer, hmem, -⟩
      · obtain ⟨id, alpn, hpeer, hmem⟩ := hinv.logged d h hh hheld
        exact ⟨id, alpn, by rw [(held_move hmove (.inl hheld)).2, hpeer],
          List.mem_append_left _ hmem⟩
      · exact ⟨id, alpn, hpeer, List.mem_append_right _ hmem⟩
    · obtain ⟨id, alpn, hpeer, hmem⟩ := hinv.logged d k₀ hk₀ hholds
      exact ⟨id, alpn, hpeer, List.mem_append_left _ hmem⟩

omit [DecidableEq EndpointId] in
theorem Announced.loop {l : ServerLabel EndpointId} (hinv : Announced log s)
    (hloop : LoopStep s l t es) : Announced (log ++ es) t := by
  have hno : ∀ c id, .registered c id ∉ es := by
    intro c id hmem
    cases hloop <;> simp at hmem
  constructor
  · intro c id hmem
    obtain ⟨h, alpn, hh, hrest⟩ :=
      hinv.held c id ((List.mem_append.1 hmem).resolve_right (hno c id))
    refine ⟨h, alpn, ?_, hrest⟩
    cases hloop with
    | accept => exact getElem?_concat_of_some hh
    | _ => exact hh
  intro c h hh hholds
  have hold : s.handlers[c]? = some h := by
    cases hloop with
    | accept =>
      rcases getElem?_concat_cases hh with hh | ⟨-, rfl⟩
      · exact hh
      · exact hholds.elim
    | _ => exact hh
  obtain ⟨id, alpn, hpeer, hmem⟩ := hinv.logged c h hold hholds
  exact ⟨id, alpn, hpeer, List.mem_append_left _ hmem⟩

/-! ## The invariant -/

structure EntryInv (ctx : ServerCtx EndpointId PublicKey Doc)
    (log : List (ServerEvent EndpointId)) (s : Server EndpointId Doc) : Prop where
  auth : AuthInv ctx log s
  registered : Registered s
  announced : Announced log s
  keyed : Keyed s.shared.registry

/-- A step of the server keeps the invariant. -/
theorem entryInv_step {l : ServerLabel EndpointId} (hinv : EntryInv ctx log s)
    (hstep : s.step ctx l = some (t, es)) : EntryInv ctx (log ++ es) t := by
  refine ⟨authInv_step hinv.auth hstep, registered_step hinv.registered hstep, ?_, ?_⟩
  all_goals rcases Server.step_cases hstep with hloop | ⟨c, hl, h, h', sh, rfl, hh, hmove, rfl⟩
  · exact hinv.announced.loop hloop
  · exact hinv.announced.move hh hmove
  · cases hloop <;> exact hinv.keyed
  · exact keyed_move hmove hinv.keyed

/-- The entry of a connection is known by the number of its handler. -/
theorem EntryInv.own_iff (hinv : EntryInv ctx log s) (hh : s.handlers[c]? = some h)
    {id : EndpointId} {e : ConnEntry} (he : e ∈ s.shared.registry.entriesOf id) :
    e.connection = c ↔
      h.peer.map Prod.fst = some id ∧ e.connSeq = h.connSeq ∧ HoldsConn h.phase := by
  obtain ⟨k, alpn, -, hk, hpeer, hseq, hholds, -⟩ := hinv.auth.registry id e he
  constructor
  · rintro rfl
    cases hk.symm.trans hh
    exact ⟨by rw [hpeer]; rfl, hseq.symm, hholds⟩
  rintro ⟨hid, heq, -⟩
  obtain ⟨p, hp, -⟩ := Option.map_eq_some_iff.1 hid
  exact hinv.registered.connSeq_inj e.connection c k h hk hh (by rw [hpeer]; rfl)
    (by rw [hp]; rfl) (by rw [hseq, heq])

theorem countP_eq_one_of_key {α : Type} {key : α → Nat} {p : α → Bool} {xs : List α} {x : α}
    (hkeys : (xs.map key).Nodup) (hx : x ∈ xs) (hp : p x = true)
    (hall : ∀ y ∈ xs, p y = true → key y = key x) : xs.countP p = 1 := by
  classical
  have hsame : ∀ y ∈ xs, (p y = true ↔ (y == x) = true) := by
    intro y hy
    rw [beq_iff_eq]
    constructor
    · intro hpy
      exact List.inj_on_of_nodup_map hkeys hy hx (hall y hy hpy)
    · rintro rfl
      exact hp
  rw [List.countP_congr hsame]
  exact List.count_eq_one_of_mem (List.Nodup.of_map key hkeys) hx

/-! ## The registry is exact -/

/-- The registry has one entry for each handler that has registered and not returned, under its
client's id, and no other entry; no inner map is empty; the return of a handler takes its own
entry out and leaves all others; and a heartbeat for an entry that is not there changes nothing.
SOURCE: core/proxy/server.rs:51-96, 440-469, 823-828 -/
structure ExactRegistry (ctx : ServerCtx EndpointId PublicKey Doc)
    (log : List (ServerEvent EndpointId)) (s : Server EndpointId Doc) : Prop where
  one : ∀ c id, .registered c id ∈ log → ¬ Returned s c →
    (s.shared.registry.entriesOf id).countP (fun e => e.connection = c) = 1
  only : ∀ id, ∀ e ∈ s.shared.registry.entriesOf id,
    .registered e.connection id ∈ log ∧ ¬ Returned s e.connection
  nonempty : ∀ id, s.shared.registry.lookup id ≠ some []
  exit : ∀ c t es, s.step ctx (.handler c .drop) = some (t, es) → ∀ id,
    t.shared.registry.entriesOf id =
      (s.shared.registry.entriesOf id).filter fun e => e.connection ≠ c
  late : ∀ now id connSeq, (∀ e ∈ s.shared.registry.entriesOf id, e.connSeq ≠ connSeq) → ∀ id',
    (s.shared.registry.refresh now id connSeq).lookup id' = s.shared.registry.lookup id'

/-- The return of a handler takes its own entry out and no other. -/
theorem EntryInv.exit (hinv : EntryInv ctx log s)
    (hstep : s.step ctx (.handler c .drop) = some (t, es)) (id : EndpointId) :
    t.shared.registry.entriesOf id =
      (s.shared.registry.entriesOf id).filter fun e => e.connection ≠ c := by
  rcases Server.step_cases hstep with hloop | ⟨d, hl, h, h', sh, heq, hh, hmove, rfl⟩
  · cases hloop
  cases heq
  have hown := fun (e : ConnEntry) (he : e ∈ s.shared.registry.entriesOf id) =>
    hinv.own_iff hh he
  -- without a guard there is no entry of its own
  have hnone (hholds : ¬ HoldsConn h.phase) : s.shared.registry.entriesOf id =
      (s.shared.registry.entriesOf id).filter fun e => e.connection ≠ c := by
    refine (List.filter_eq_self.2 fun e he => ?_).symm
    simpa using fun hc => hholds ((hown e he).1 hc).2.2
  rw [Server.moved_shared]
  cases hmove with
  | gaveUp hl | served hl => exact hl.elim
  | dropUnconnected hphase => exact hnone (by rw [hphase]; exact fun hno => hno)
  | @drop guard remoteId alpn hphase hpeer =>
    rcases guard with _ | ⟨_ | _⟩
    · exact hnone (by rw [hphase]; exact fun hno => hno)
    · rw [Shared.drop, Registry.entriesOf_drop]
      have hkeep : ∀ e ∈ s.shared.registry.entriesOf id,
          (e.connection = c ↔ remoteId = id ∧ e.connSeq = h.connSeq) := by
        intro e he
        rw [hown e he, hpeer, hphase]
        simp [HoldsConn]
      split
      next hid =>
        refine List.filter_congr fun e he => ?_
        simp [hkeep e he, hid]
      next hid =>
        refine (List.filter_eq_self.2 fun e he => ?_).symm
        have hne : remoteId ≠ id := fun heq => hid heq.symm
        simp [hkeep e he, hne]
    · exact hnone (by rw [hphase]; exact fun hno => hno)

/-- The invariant makes the registry exact. -/
theorem EntryInv.exact (hinv : EntryInv ctx log s) : ExactRegistry ctx log s where
  one c id hmem hrunning := by
    obtain ⟨h, alpn, hh, hpeer, hheld⟩ := hinv.announced.held c id hmem
    have hholds : HoldsConn h.phase := hheld.resolve_right fun hdone => hrunning ⟨h, hh, hdone⟩
    obtain ⟨id', alpn', hpeer', e, he, hseq, hconn⟩ := hinv.registered.entry c h hh hholds
    obtain ⟨rfl, rfl⟩ := Prod.mk.inj (Option.some.inj (hpeer'.symm.trans hpeer))
    refine countP_eq_one_of_key (hinv.keyed.distinct id') he (by simpa using hconn) ?_
    intro e' he' hown
    rw [((hinv.own_iff hh he').1 (by simpa using hown)).2.1, hseq]
  only id e he := by
    obtain ⟨h, alpn, -, hh, hpeer, -, hholds, -⟩ := hinv.auth.registry id e he
    constructor
    · obtain ⟨id', alpn', hpeer', hmem⟩ := hinv.announced.logged e.connection h hh hholds
      obtain ⟨rfl, rfl⟩ := Prod.mk.inj (Option.some.inj (hpeer'.symm.trans hpeer))
      exact hmem
    rintro ⟨k, hk, hdone⟩
    cases hk.symm.trans hh
    rw [hdone] at hholds
    exact hholds
  nonempty := hinv.keyed.nonempty
  exit _ _ _ hstep := hinv.exit hstep
  late _ _ _ habsent := lookup_refresh_absent habsent

/-- **The registry is exact** in every state that the server reaches, with handlers that end, fail
or are refused as duplicates in any order. -/
theorem registry_exact {s₀ : Server EndpointId Doc} {ls : List (ServerLabel EndpointId)}
    (hinit : (proxyServer ctx).init s₀) (hrun : (proxyServer ctx).run s₀ ls = some (s, log)) :
    ExactRegistry ctx log s := by
  have hauth : AuthInv ctx [] s₀ := authInv_run hinit ((proxyServer ctx).run_nil s₀)
  obtain ⟨-, hhandlers, hregistry, -, -⟩ := hinit
  have h₀ : EntryInv ctx [] s₀ := by
    refine ⟨hauth, ⟨?_, ?_, ?_⟩, ⟨?_, ?_⟩, hregistry ▸ keyed_empty⟩ <;> simp [hhandlers]
  exact ((proxyServer ctx).log_rule (fun _ _ _ _ _ hinv hstep => entryInv_step hinv hstep) h₀
    hrun).exact

end

/-! ## A reconnect that overlaps -/

/-- The laptop connects again from the same process, and then its first handler returns. -/
def overlappingReconnect : List (ServerLabel String) :=
  laptopConnects 0 1 0 ++ [.handler 0 .tryRegister, .handler 0 (.reply .sent)] ++
    laptopConnects 1 1 0 ++
    [.handler 1 .tryRegister, .handler 0 .heartbeatError, .handler 0 .drop]

theorem registry_exact_reconnect :
    ∃ s log, (proxyServer plainServer).run plainStart overlappingReconnect = some (s, log) ∧
      (s.shared.registry.entriesOf "laptop").map ConnEntry.connection = [1] ∧
      ExactRegistry plainServer log s := by
  have heval : ((proxyServer plainServer).run plainStart overlappingReconnect).map (fun r =>
      (r.1.shared.registry.entriesOf "laptop").map ConnEntry.connection) = some [1] := by decide
  obtain ⟨⟨s, log⟩, hrun, hs⟩ := Option.map_eq_some_iff.1 heval
  exact ⟨s, log, hrun, hs, registry_exact ⟨rfl, rfl, rfl, rfl, rfl⟩ hrun⟩

end Flextunnel.Analysis
