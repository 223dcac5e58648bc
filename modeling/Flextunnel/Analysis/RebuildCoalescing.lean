import Flextunnel.Model.ClientEndpoint

/-!
# Concurrent rebuilds

Any number of callers may find the endpoint dead at once. The lock lets one of them into
the factory at a time; the generation tells a caller whether an endpoint was installed
between its call and its turn, and then it takes that endpoint over. What a rebuild
replaces is handed to one close task.
-/

set_option autoImplicit false

namespace Flextunnel.Analysis

open Lib Model

/-! ## What the events say -/

def isInstall : EndpointEvent → Bool
  | .installed .. => true
  | _ => false

def builder : EndpointEvent → Option Nat
  | .factoryCalled c | .installed c _ _ => some c
  | _ => none

def Outdated (c : Nat) (log : List EndpointEvent) : Prop :=
  ∃ pre n mid, log = pre ++ .called c n :: mid ∧ ∃ e ∈ mid, isInstall e = true

/-! ## One step -/

variable {c : Nat} {es log : List EndpointEvent} {r : Rebuild} {s t : ClientEndpoint}
    {l : EndpointLabel}

theorem calls_of_rebuildSteps {l : RebuildLabel} (h : ClientEndpoint.RebuildSteps s c r l t es) :
    ∃ pc, t.calls = s.calls.set c ⟨r.seen, pc⟩ := by
  cases h <;> exact ⟨_, rfl⟩

theorem seen_of_steps (h : ClientEndpoint.Steps s l t es) (hc : s.calls[c]? = some r) :
    ∃ r', t.calls[c]? = some r' ∧ r'.seen = r.seen := by
  cases h with
  | call => exact ⟨r, getElem?_concat_of_some hc, rfl⟩
  | @rebuild c' l' r' t' es' hc' h' =>
    obtain ⟨pc, hcalls⟩ := calls_of_rebuildSteps h'
    rw [hcalls]
    rcases getElem?_set_of_some (y := ⟨r'.seen, pc⟩) hc' hc with ⟨-, rfl, hmoved⟩ | ⟨-, hother⟩
    · exact ⟨_, hmoved, rfl⟩
    · exact ⟨r, hother, rfl⟩
  | _ => exact ⟨r, hc, rfl⟩

theorem called_of_steps (h : ClientEndpoint.Steps s l t es) {n : Nat} (he : .called c n ∈ es) :
    es = [.called c n] ∧ n = s.current.generation ∧
      t.calls[c]? = some { seen := n } := by
  cases h with
  | call =>
    obtain ⟨rfl, rfl⟩ : c = s.calls.length ∧ n = s.current.generation := by simpa using he
    exact ⟨rfl, rfl, List.getElem?_concat_length⟩
  | rebuild hc h => cases h <;> simp at he
  | _ => simp at he

/-- Each install is one generation. -/
theorem generation_of_steps (h : ClientEndpoint.Steps s l t es) :
    t.current.generation = s.current.generation + es.countP isInstall := by
  cases h with
  | rebuild hc h => cases h <;> rfl
  | _ => rfl

/-- A call that leaves the factory was the only one in it. -/
theorem exclusive_of_rebuildSteps {l : RebuildLabel} (hc : s.calls[c]? = some r)
    (h : ClientEndpoint.RebuildSteps s c r l t es)
    (hexclusive : ∀ c r, s.calls[c]? = some r → r.pc.Building → s.rebuilding = some c) {c' : Nat}
    {r' : Rebuild} (hc' : t.calls[c']? = some r') (hbuilding : r'.pc.Building) :
    t.rebuilding = some c' := by
  -- nobody else is in the factory when a call leaves it
  have hleft (hpc : r.pc.Building) {r'' : Rebuild} (hset : (s.calls.set c r'')[c']? = some r') :
      r' = r'' := by
    rcases getElem?_set_cases hset with ⟨rfl, rfl⟩ | ⟨hne, hother⟩
    · rfl
    · have hlock := (hexclusive c r hc hpc).symm.trans (hexclusive c' r' hother hbuilding)
      exact absurd (Option.some.inj hlock).symm hne
  cases h with
  | coalesced | spawned | finished | cancelledOutside =>
    rcases getElem?_set_cases hc' with ⟨rfl, rfl⟩ | ⟨-, hother⟩
    · exact hbuilding.elim
    · exact hexclusive c' r' hother hbuilding
  | built hpc hfree =>
    rcases getElem?_set_cases hc' with ⟨rfl, rfl⟩ | ⟨-, hother⟩
    · rfl
    · cases hfree.symm.trans (hexclusive c' r' hother hbuilding)
  | bound hpc =>
    rcases getElem?_set_cases hc' with ⟨rfl, rfl⟩ | ⟨-, hother⟩
    · exact hexclusive c' r hc (by rw [hpc]; trivial)
    · exact hexclusive c' r' hother hbuilding
  | failed hpc | installed _ hpc =>
    rw [hleft (by rw [hpc]; trivial) hc'] at hbuilding
    exact hbuilding.elim
  | cancelledInside hpc =>
    rw [hleft hpc hc'] at hbuilding
    exact hbuilding.elim

theorem failed_of_steps (h : ClientEndpoint.Steps s l t es) (he : .factoryFailed c ∈ es) :
    t.current = s.current ∧ .returned c false ∈ es := by
  cases h with
  | rebuild hc h =>
    cases h with
    | failed =>
      obtain rfl : c = _ := by simpa using he
      exact ⟨rfl, by simp⟩
    | _ => simp at he
  | _ => simp at he

/-! ## The generation and the lock -/

/-- The generation counts the installs, the factory is used by whoever has the lock, and
a call observed the installs before it. -/
structure Serial (log : List EndpointEvent) (s : ClientEndpoint) : Prop where
  generation : s.current.generation = log.countP isInstall
  exclusive : ∀ c r, s.calls[c]? = some r → r.pc.Building → s.rebuilding = some c
  seen : ∀ pre c n post, log = pre ++ .called c n :: post →
    n = pre.countP isInstall ∧ ∃ r, s.calls[c]? = some r ∧ r.seen = n

/-- Every step keeps the count of the generation and the lock. -/
theorem serial_step (hs : Serial log s) (h : ClientEndpoint.Steps s l t es) :
    Serial (log ++ es) t where
  generation := by
    rw [generation_of_steps h, List.countP_append, hs.generation]
  exclusive := by
    intro c r hc hbuilding
    cases h with
    | rebuild hc' h => exact exclusive_of_rebuildSteps hc' h hs.exclusive hc hbuilding
    | call =>
      rcases getElem?_concat_cases hc with hold | ⟨-, rfl⟩
      · exact hs.exclusive c r hold hbuilding
      · exact hbuilding.elim
    | _ => exact hs.exclusive c r hc hbuilding
  seen := by
    intro pre c n post hlog
    rcases split_append hlog with ⟨post', -, hold⟩ | ⟨mid, rfl, hnew⟩
    · obtain ⟨hn, r, hc, hseen⟩ := hs.seen pre c n post' hold
      obtain ⟨r', hc', hseen'⟩ := seen_of_steps h hc
      exact ⟨hn, r', hc', hseen'.trans hseen⟩
    obtain ⟨hes, hn, hc⟩ := called_of_steps h (by rw [hnew]; simp : .called c n ∈ es)
    obtain rfl : mid = [] := by
      rw [hes] at hnew
      exact (List.append_eq_singleton_iff.1 hnew.symm).elim And.left fun h => nomatch h.2
    exact ⟨by rw [hn, hs.generation, List.append_nil], _, hc, rfl⟩

theorem serial_drop (hs : Serial log s) (a : Endpoint) : Serial (log ++ [.dropped a]) s where
  generation := by
    rw [List.countP_append, ← hs.generation]
    rfl
  exclusive := hs.exclusive
  seen := by
    intro pre c n post hlog
    rcases split_concat hlog with ⟨-, heq, -⟩ | ⟨post', -, hold⟩
    · cases heq
    · exact hs.seen pre c n post' hold

/-- A call that missed an install observed an older generation. -/
theorem seen_lt_of_outdated (hs : Serial log s) (hc : s.calls[c]? = some r) (h : Outdated c log) :
    r.seen < s.current.generation := by
  obtain ⟨pre, n, mid, hlog, hinstall⟩ := h
  obtain ⟨hn, r', hc', hseen⟩ := hs.seen pre c n mid hlog
  cases hc.symm.trans hc'
  have hmid : 0 < mid.countP isInstall := List.countP_pos_iff.2 hinstall
  rw [hs.generation, hlog, List.countP_append, List.countP_cons, hseen, hn]
  omega

/-! ## Coalescing -/

theorem returned_of_steps (h : ClientEndpoint.Steps s l t es) (hc : s.calls[c]? = some r)
    (hended : r.pc.active = false) : t.calls[c]? = some r := by
  cases h with
  | call => exact getElem?_concat_of_some hc
  | @rebuild c' l' r' t' es' hc' h' =>
    obtain ⟨pc, hcalls⟩ := calls_of_rebuildSteps h'
    rw [hcalls]
    rcases getElem?_set_of_some hc' hc with ⟨-, rfl, -⟩ | ⟨-, hother⟩
    · cases hended.symm.trans h'.active
    · exact hother
  | _ => exact hc

theorem queued_of_steps (h : ClientEndpoint.Steps s l t es)
    (ht : ∀ r, t.calls[c]? = some r → r.pc = .queued) :
    ∀ r, s.calls[c]? = some r → r.pc = .queued := by
  intro r hc
  cases h with
  | call => exact ht r (getElem?_concat_of_some hc)
  | @rebuild c' l' r' t' es' hc' h' =>
    by_cases heq : c' = c
    · subst heq
      cases h' <;> cases ht _ (getElem?_set_moved hc')
    · obtain ⟨pc, hcalls⟩ := calls_of_rebuildSteps h'
      apply ht r
      rw [hcalls, List.getElem?_set_ne heq, hc]
  | _ => exact ht r hc

theorem building_of_steps (h : ClientEndpoint.Steps s l t es) (hc : c ∈ es.filterMap builder) :
    (∃ r, s.calls[c]? = some r ∧ r.pc.active = true) ∧
      ∃ r, t.calls[c]? = some r ∧ r.pc ≠ .queued := by
  cases h with
  | @rebuild c' l' r' t' es' hc' h' =>
    have hactive := h'.active
    cases h' with
    | built | installed =>
      obtain rfl := List.mem_singleton.1 hc
      exact ⟨⟨r', hc', hactive⟩, _, getElem?_set_moved hc', nofun⟩
    | _ => cases hc
  | _ => cases hc

/-- A call that gets the lock builds if the generation is the one it observed. -/
theorem locked_of_steps (h : ClientEndpoint.Steps s l t es) (he : .locked c ∈ es) :
    ∃ r, s.calls[c]? = some r ∧ r.pc = .queued ∧
      (s.current.generation = r.seen ∧ es = [.locked c, .factoryCalled c] ∨
        es = [.locked c, .returned c true] ∧
          t.calls[c]? = some ⟨r.seen, .returned true⟩) := by
  cases h with
  | @rebuild c' l' r' t' es' hc' h' =>
    cases h' with
    | coalesced hpc =>
      obtain rfl : c = c' := by simpa using he
      exact ⟨r', hc', hpc, .inr ⟨rfl, getElem?_set_moved hc'⟩⟩
    | built hpc _ hgen =>
      obtain rfl : c = c' := by simpa using he
      exact ⟨r', hc', hpc, .inl ⟨hgen, rfl⟩⟩
    | _ => simp at he
  | _ => simp at he

/-- A call that waits has built nothing; one that got the lock after an install has
returned at once, and builds nothing ever. -/
structure Coalesced (log : List EndpointEvent) (s : ClientEndpoint) : Prop where
  waiting : ∀ c, (∀ r, s.calls[c]? = some r → r.pc = .queued) → c ∉ log.filterMap builder
  outdated : ∀ pre c post, log = pre ++ .locked c :: post → Outdated c pre →
    (∃ post', post = .returned c true :: post') ∧ c ∉ log.filterMap builder ∧
      ∃ r, s.calls[c]? = some r ∧ r.pc = .returned true

/-- Every step keeps that a call that missed an install builds nothing. -/
theorem coalesced_step (hserial : Serial log s) (hs : Coalesced log s)
    (h : ClientEndpoint.Steps s l t es) : Coalesced (log ++ es) t where
  waiting := by
    intro c hqueued hmem
    rw [List.filterMap_append] at hmem
    rcases List.mem_append.1 hmem with hold | hnew
    · exact hs.waiting c (queued_of_steps h hqueued) hold
    · obtain ⟨-, r, hc, hpc⟩ := building_of_steps h hnew
      exact hpc (hqueued r hc)
  outdated := by
    intro pre c post hlog houtdated
    rw [List.filterMap_append, List.mem_append, not_or]
    rcases split_append hlog with ⟨post', rfl, hold⟩ | ⟨mid, rfl, hnew⟩
    · obtain ⟨⟨tail, rfl⟩, hbuilt, r, hc, hpc⟩ := hs.outdated pre c post' hold houtdated
      refine ⟨⟨tail ++ es, rfl⟩, ⟨hbuilt, ?_⟩, r, ?_, hpc⟩
      · intro hnew
        obtain ⟨⟨r', hc', hactive⟩, -⟩ := building_of_steps h hnew
        cases hc.symm.trans hc'
        rw [hpc] at hactive
        cases hactive
      · exact returned_of_steps h hc (by rw [hpc]; rfl)
    -- the step is the one in which the call gets the lock
    have hfirst {x : EndpointEvent} (hes : es = [.locked c, x]) (hx : .locked c ≠ x) :
        [] = mid ∧ [x] = post := by
      rw [hes, ← List.nil_append [.locked c, x]] at hnew
      obtain ⟨hmid, -, hpost⟩ := (List.append_cons_inj_of_notMem List.not_mem_nil
        (by simpa using hx)).1 hnew
      exact ⟨hmid, hpost⟩
    obtain ⟨r, hc, hpc, hcase⟩ := locked_of_steps h (by rw [hnew]; simp : .locked c ∈ es)
    rcases hcase with ⟨hgen, hes⟩ | ⟨hes, hc'⟩
    · obtain ⟨rfl, -⟩ := hfirst hes nofun
      rw [List.append_nil] at houtdated
      have hlt := seen_lt_of_outdated hserial hc houtdated
      omega
    obtain ⟨-, rfl⟩ := hfirst hes nofun
    have hwaiting : ∀ r', s.calls[c]? = some r' → r'.pc = .queued := by
      intro r' hr'
      cases hc.symm.trans hr'
      exact hpc
    refine ⟨⟨[], rfl⟩, ⟨hs.waiting c hwaiting, ?_⟩, _, hc', rfl⟩
    rw [hes]
    exact List.not_mem_nil

theorem coalesced_drop (hs : Coalesced log s) (a : Endpoint) :
    Coalesced (log ++ [.dropped a]) s where
  waiting := by
    intro c hqueued
    rw [List.filterMap_append, List.mem_append, not_or]
    exact ⟨hs.waiting c hqueued, List.not_mem_nil⟩
  outdated := by
    intro pre c post hlog houtdated
    rw [List.filterMap_append, List.mem_append, not_or]
    rcases split_concat hlog with ⟨-, heq, -⟩ | ⟨post', rfl, hold⟩
    · cases heq
    · obtain ⟨⟨tail, rfl⟩, hbuilt, hreturned⟩ := hs.outdated pre c post' hold houtdated
      exact ⟨⟨_, rfl⟩, ⟨hbuilt, List.not_mem_nil⟩, hreturned⟩

/-! ## What is replaced -/

/-- The call is past the hand-over of what it replaced, if it replaced anything. -/
def Past : RebuildPc → Prop
  | .closing | .returned _ | .cancelled => True
  | _ => False

def isSwap : EndpointEvent → Bool
  | .installed .. | .handedToClose _ => true
  | _ => false

/-- Endpoints are installed in the order of their numbers, and each one that was replaced
is with the call that replaced it or was handed to one close. -/
structure Replaced (log : List EndpointEvent) (s : ClientEndpoint) : Prop where
  current : s.current.endpoint < s.bound
  online : ∀ (c n : Nat) fresh, s.calls[c]? = some ⟨n, .online fresh⟩ →
    s.current.endpoint < fresh ∧ fresh < s.bound
  installed : ∀ c fresh old, .installed c fresh old ∈ log → old < s.current.endpoint
  handed : ∀ old, .handedToClose old ∈ log → old < s.current.endpoint
  pending : ∀ (c n : Nat) old, s.calls[c]? = some ⟨n, .replaced old⟩ →
    ∃ fresh, .installed c fresh old ∈ log
  unique : ∀ c fresh c' fresh' old, .installed c fresh old ∈ log →
    .installed c' fresh' old ∈ log → c = c'
  once : ∀ c fresh old, .installed c fresh old ∈ log → ∃ r, s.calls[c]? = some r ∧
    (r.pc = .replaced old ∧ log.count (.handedToClose old) = 0 ∨
      Past r.pc ∧ log.count (.handedToClose old) = 1)

/-- A step that neither installs nor hands over keeps what was replaced. -/
theorem replaced_frame (hs : Replaced log s) (hes : ∀ e ∈ es, isSwap e = false)
    (hcurrent : t.current = s.current) (hbound : s.bound ≤ t.bound)
    (hnew : ∀ (c : Nat) r, t.calls[c]? = some r → s.calls[c]? = some r ∨
      (∀ old, r.pc ≠ .replaced old) ∧
        ∀ fresh, r.pc = .online fresh → s.current.endpoint < fresh ∧ fresh < t.bound)
    (hold : ∀ (c : Nat) r, s.calls[c]? = some r → t.calls[c]? = some r ∨
      (∀ old, r.pc ≠ .replaced old) ∧ ∃ r', t.calls[c]? = some r' ∧ (Past r.pc → Past r'.pc)) :
    Replaced (log ++ es) t := by
  have hlog {e : EndpointEvent} (hswap : isSwap e = true) (he : e ∈ log ++ es) : e ∈ log := by
    rcases List.mem_append.1 he with h | h
    · exact h
    · cases hswap.symm.trans (hes e h)
  have hcount (old : Endpoint) :
      (log ++ es).count (.handedToClose old) = log.count (.handedToClose old) := by
    have hzero : es.count (.handedToClose old) = 0 :=
      List.count_eq_zero.2 fun he => nomatch hes _ he
    rw [List.count_append, hzero, Nat.add_zero]
  constructor
  case current =>
    rw [hcurrent]
    exact Nat.lt_of_lt_of_le hs.current hbound
  case online =>
    intro c n fresh hc
    rw [hcurrent]
    rcases hnew c _ hc with h | h
    · obtain ⟨hlow, hhigh⟩ := hs.online c n fresh h
      exact ⟨hlow, Nat.lt_of_lt_of_le hhigh hbound⟩
    · exact h.2 fresh rfl
  case installed =>
    intro c fresh old he
    rw [hcurrent]
    exact hs.installed c fresh old (hlog rfl he)
  case handed =>
    intro old he
    rw [hcurrent]
    exact hs.handed old (hlog rfl he)
  case pending =>
    intro c n old hc
    rcases hnew c _ hc with h | h
    · obtain ⟨fresh, he⟩ := hs.pending c n old h
      exact ⟨fresh, List.mem_append_left _ he⟩
    · exact absurd rfl (h.1 old)
  case unique =>
    intro c fresh c' fresh' old he he'
    exact hs.unique c fresh c' fresh' old (hlog rfl he) (hlog rfl he')
  case once =>
    intro c fresh old he
    obtain ⟨r, hc, hcase⟩ := hs.once c fresh old (hlog rfl he)
    rw [hcount]
    rcases hold c r hc with h | ⟨hnot, r', hc', hpast⟩
    · exact ⟨r, h, hcase⟩
    · rcases hcase with ⟨hpc, -⟩ | ⟨hpc, hone⟩
      · exact absurd hpc (hnot old)
      · exact ⟨r', hc', .inr ⟨hpast hpc, hone⟩⟩

/-- A call that moves without a swap keeps what is replaced. -/
theorem replaced_move (hs : Replaced log s) (hes : ∀ e ∈ es, isSwap e = false)
    (hcurrent : t.current = s.current) (hbound : s.bound ≤ t.bound) {r' : Rebuild}
    (hc : s.calls[c]? = some r) (hcalls : t.calls = s.calls.set c r')
    (hnew : (∀ old, r'.pc ≠ .replaced old) ∧
      ∀ fresh, r'.pc = .online fresh → s.current.endpoint < fresh ∧ fresh < t.bound)
    (hold : (∀ old, r.pc ≠ .replaced old) ∧ (Past r.pc → Past r'.pc)) : Replaced (log ++ es) t := by
  apply replaced_frame hs hes hcurrent hbound
  · intro c' r'' h
    rw [hcalls] at h
    rcases getElem?_set_cases h with ⟨-, rfl⟩ | ⟨-, h⟩
    · exact .inr hnew
    · exact .inl h
  · intro c' r'' h
    rw [hcalls]
    rcases getElem?_set_of_some (y := r') hc h with ⟨-, rfl, hmoved⟩ | ⟨-, hother⟩
    · exact .inr ⟨hold.1, r', hmoved, hold.2⟩
    · exact .inl hother

/-- The endpoint that is replaced was not replaced before. -/
theorem replaced_install (hserial : Serial log s) (hs : Replaced log s) (hc : s.calls[c]? = some r)
    {fresh : Endpoint} (hpc : r.pc = .online fresh) :
    Replaced (log ++ [.installed c fresh s.current.endpoint]) (s.install c r.seen fresh).1 := by
  have hlock : s.rebuilding = some c := hserial.exclusive c r hc (by rw [hpc]; trivial)
  obtain ⟨n, pc⟩ := r
  obtain rfl : pc = .online fresh := hpc
  obtain ⟨hlow, hhigh⟩ := hs.online c n fresh hc
  have hmem {c' : Nat} {fresh' old : Endpoint}
      (he : .installed c' fresh' old ∈ log ++ [.installed c fresh s.current.endpoint]) :
      .installed c' fresh' old ∈ log ∨ c' = c ∧ fresh' = fresh ∧ old = s.current.endpoint := by
    simpa using he
  constructor
  case current => exact hhigh
  case online =>
    -- only one call is in the factory
    intro c' n' fresh' h
    rcases getElem?_set_cases h with ⟨-, heq⟩ | ⟨hne, h⟩
    · cases heq
    · have hlock' := hserial.exclusive c' _ h trivial
      exact absurd (Option.some.inj (hlock'.symm.trans hlock)) hne
  case installed =>
    intro c' fresh' old he
    rcases hmem he with h | ⟨-, -, rfl⟩
    · exact Nat.lt_trans (hs.installed c' fresh' old h) hlow
    · exact hlow
  case handed =>
    intro old he
    have hlog : .handedToClose old ∈ log := by simpa using he
    exact Nat.lt_trans (hs.handed old hlog) hlow
  case pending =>
    intro c' n' old h
    rcases getElem?_set_cases h with ⟨rfl, heq⟩ | ⟨-, h⟩
    · cases heq
      exact ⟨fresh, List.mem_append_right _ (List.mem_singleton_self _)⟩
    · obtain ⟨fresh', he⟩ := hs.pending c' n' old h
      exact ⟨fresh', List.mem_append_left _ he⟩
  case unique =>
    intro c₁ fresh₁ c₂ fresh₂ old he₁ he₂
    rcases hmem he₁ with h₁ | ⟨rfl, -, rfl⟩
    · rcases hmem he₂ with h₂ | ⟨rfl, -, rfl⟩
      · exact hs.unique c₁ fresh₁ c₂ fresh₂ old h₁ h₂
      · exact absurd (hs.installed c₁ fresh₁ _ h₁) (Nat.lt_irrefl _)
    · rcases hmem he₂ with h₂ | ⟨rfl, -, -⟩
      · exact absurd (hs.installed c₂ fresh₂ _ h₂) (Nat.lt_irrefl _)
      · rfl
  case once =>
    intro c' fresh' old he
    rw [List.count_append, List.count_singleton, if_neg (by simp), Nat.add_zero]
    rcases hmem he with h | ⟨rfl, -, rfl⟩
    · obtain ⟨r, hc', hcase⟩ := hs.once c' fresh' old h
      rcases getElem?_set_of_some hc hc' with ⟨-, rfl, -⟩ | ⟨-, hother⟩
      · rcases hcase with ⟨hpc', -⟩ | ⟨hpast, -⟩
        · cases hpc'
        · exact hpast.elim
      · exact ⟨r, hother, hcase⟩
    · refine ⟨_, getElem?_set_moved hc, .inl ⟨rfl, ?_⟩⟩
      exact List.count_eq_zero.2 fun h => absurd (hs.handed _ h) (Nat.lt_irrefl _)

/-- The endpoint that is handed over was not handed over before. -/
theorem replaced_spawn (hs : Replaced log s) (hc : s.calls[c]? = some r) {old : Endpoint}
    (hpc : r.pc = .replaced old) :
    Replaced (log ++ [.handedToClose old]) (s.spawnClose c r.seen old).1 := by
  obtain ⟨n, pc⟩ := r
  obtain rfl : pc = .replaced old := hpc
  obtain ⟨fresh, hinstalled⟩ := hs.pending c n old hc
  have hmem {c' : Nat} {fresh' old' : Endpoint}
      (he : .installed c' fresh' old' ∈ log ++ [.handedToClose old]) :
      .installed c' fresh' old' ∈ log := by simpa using he
  constructor
  case current => exact hs.current
  case online =>
    intro c' n' fresh' h
    rcases getElem?_set_cases h with ⟨-, heq⟩ | ⟨-, h⟩
    · cases heq
    · exact hs.online c' n' fresh' h
  case installed => exact fun c' fresh' old' he => hs.installed c' fresh' old' (hmem he)
  case handed =>
    intro old' he
    rcases List.mem_append.1 he with h | h
    · exact hs.handed old' h
    · obtain rfl : old' = old := by simpa using h
      exact hs.installed c fresh old' hinstalled
  case pending =>
    intro c' n' old' h
    rcases getElem?_set_cases h with ⟨-, heq⟩ | ⟨-, h⟩
    · cases heq
    · obtain ⟨fresh', he⟩ := hs.pending c' n' old' h
      exact ⟨fresh', List.mem_append_left _ he⟩
  case unique =>
    intro c₁ fresh₁ c₂ fresh₂ old' he₁ he₂
    exact hs.unique c₁ fresh₁ c₂ fresh₂ old' (hmem he₁) (hmem he₂)
  case once =>
    intro c' fresh' old' he
    obtain ⟨r, hc', hcase⟩ := hs.once c' fresh' old' (hmem he)
    rw [List.count_append]
    rcases getElem?_set_of_some hc hc' with ⟨-, rfl, hmoved⟩ | ⟨hne, hother⟩
    · rcases hcase with ⟨hpc', hzero⟩ | ⟨hpast, -⟩
      · obtain rfl : old = old' := by simpa using hpc'
        refine ⟨_, hmoved, .inr ⟨trivial, ?_⟩⟩
        rw [hzero, List.count_singleton_self]
      · exact hpast.elim
    have hold : old' ≠ old := by
      rintro rfl
      exact hne (hs.unique c' fresh' c fresh old' (hmem he) hinstalled)
    have hzero : [EndpointEvent.handedToClose old].count (.handedToClose old') = 0 :=
      List.count_eq_zero.2 (by simpa using hold)
    rw [hzero, Nat.add_zero]
    exact ⟨r, hother, hcase⟩

theorem replaced_rebuildSteps {l : RebuildLabel} (hserial : Serial log s) (hs : Replaced log s)
    (hc : s.calls[c]? = some r) (h : ClientEndpoint.RebuildSteps s c r l t es) :
    Replaced (log ++ es) t := by
  cases h with
  | installed fresh hpc => exact replaced_install hserial hs hc hpc
  | spawned old hpc => exact replaced_spawn hs hc hpc
  | bound hpc =>
    refine replaced_move hs (by simp [isSwap]) rfl (Nat.le_succ _) hc rfl ⟨nofun, ?_⟩ ?_
    · intro fresh heq
      obtain rfl := RebuildPc.online.inj heq
      exact ⟨hs.current, Nat.lt_succ_self _⟩
    · rw [hpc]
      exact ⟨nofun, False.elim⟩
  | built hpc | coalesced hpc | failed hpc | finished hpc | cancelledOutside hpc
  | cancelledInside hpc =>
    refine replaced_move hs (by simp [isSwap]) rfl (Nat.le_refl _) hc rfl ⟨nofun, nofun⟩ ?_
    constructor
    · intro old heq
      simp [heq, RebuildPc.Building] at hpc
    · simp_all [Past]

/-- Every step keeps that what is replaced is handed over once. -/
theorem replaced_step (hserial : Serial log s) (hs : Replaced log s)
    (h : ClientEndpoint.Steps s l t es) : Replaced (log ++ es) t := by
  cases h with
  | rebuild hc h => exact replaced_rebuildSteps hserial hs hc h
  | call =>
    refine replaced_frame hs (by simp [isSwap]) rfl (Nat.le_refl _) ?_ ?_
    · intro c r hc
      rcases getElem?_concat_cases hc with h | ⟨-, rfl⟩
      · exact .inl h
      · exact .inr ⟨nofun, nofun⟩
    · exact fun c r hc => .inl (getElem?_concat_of_some hc)
  | _ =>
    exact replaced_frame hs (by simp [isSwap]) rfl (Nat.le_refl _) (fun c r hc => .inl hc)
      fun c r hc => .inl hc

theorem replaced_drop (hs : Replaced log s) (a : Endpoint) : Replaced (log ++ [.dropped a]) s :=
  replaced_frame hs (by simp [isSwap]) rfl (Nat.le_refl _) (fun c r hc => .inl hc)
    fun c r hc => .inl hc

/-! ## Whole runs -/

/-- The three invariants hold in every run. -/
theorem invariants_of_run {ls : List EndpointLabel}
    (hrun : clientEndpoint.run {} ls = some (s, log)) :
    Serial log s ∧ Coalesced log s ∧ Replaced log s := by
  refine Machine.tracking_log_rule
    (P := fun log s => Serial log s ∧ Coalesced log s ∧ Replaced log s) ?_ ?_ ?_ hrun
  · rintro log s l t es ⟨hserial, hcoalesced, hreplaced⟩ hact
    have h := ClientEndpoint.steps_of_act hact
    exact ⟨serial_step hserial h, coalesced_step hserial hcoalesced h,
      replaced_step hserial hreplaced h⟩
  · rintro log s a ⟨hserial, hcoalesced, hreplaced⟩
    exact ⟨serial_drop hserial a, coalesced_drop hcoalesced a, replaced_drop hreplaced a⟩
  · refine ⟨⟨rfl, by simp, by simp⟩, ⟨by simp, by simp⟩, ⟨by decide, ?_, ?_, ?_, ?_, ?_, ?_⟩⟩
    all_goals simp

/-- A run makes no more generations than it has steps, so the `u64` of the source does not wrap in a
run of fewer than `2 ^ 64` steps. -/
theorem generation_le {ls : List EndpointLabel} (hrun : clientEndpoint.run s ls = some (t, log)) :
    t.current.generation ≤ s.current.generation + ls.length := by
  refine clientEndpoint.counter_le (fun s => s.current.generation) ?_ hrun
  intro s l t es hstep
  obtain ⟨es', hact, -⟩ := Machine.tracking_step_eq_some.1 hstep
  rw [generation_of_steps (ClientEndpoint.steps_of_act hact)]
  cases ClientEndpoint.steps_of_act hact with
  | rebuild hc h => cases h <;> simp [isInstall]
  | _ => simp [isInstall]

/-- **Concurrent rebuilds coalesce.** In every run: the generation is the number of installed
endpoints; at most one call is in the factory; a call that gets the lock after an install it did not
observe returns `Ok` at once; a factory that fails changes neither endpoint nor generation; and a
replaced endpoint is handed to exactly one close by the time its rebuild has gone on from the swap.
-/
theorem rebuilds_coalesce {ls : List EndpointLabel} {s : ClientEndpoint}
    {log : List EndpointEvent} (hrun : clientEndpoint.run {} ls = some (s, log)) :
    s.current.generation = log.countP isInstall ∧
    (∀ (c c' : Nat) r r', s.calls[c]? = some r → s.calls[c']? = some r' → r.pc.Building →
      r'.pc.Building → c = c') ∧
    (∀ pre c post, log = pre ++ .locked c :: post → Outdated c pre →
      (∃ post', post = .returned c true :: post') ∧ .factoryCalled c ∉ log ∧
        ∀ fresh old, .installed c fresh old ∉ log) ∧
    (∀ l t es c, clientEndpoint.step s l = some (t, es) → .factoryFailed c ∈ es →
      t.current = s.current ∧ .returned c false ∈ es) ∧
    (∀ c fresh old, .installed c fresh old ∈ log → ∃ r, s.calls[c]? = some r ∧
      (log.count (.handedToClose old) = 1 ∨
        r.pc = .replaced old ∧ log.count (.handedToClose old) = 0)) := by
  obtain ⟨hserial, hcoalesced, hreplaced⟩ := invariants_of_run hrun
  refine ⟨hserial.generation, ?_, ?_, ?_, ?_⟩
  · intro c c' r r' hc hc' hbuilding hbuilding'
    have hlock := hserial.exclusive c r hc hbuilding
    have hlock' := hserial.exclusive c' r' hc' hbuilding'
    exact Option.some.inj (hlock.symm.trans hlock')
  · intro pre c post hlog houtdated
    obtain ⟨hreturned, hbuilt, -⟩ := hcoalesced.outdated pre c post hlog houtdated
    refine ⟨hreturned, ?_, ?_⟩
    · exact fun h => hbuilt (List.mem_filterMap.2 ⟨_, h, rfl⟩)
    · exact fun fresh old h => hbuilt (List.mem_filterMap.2 ⟨_, h, rfl⟩)
  · intro l t es c hstep hfailed
    obtain ⟨es', hact, rfl⟩ := Machine.tracking_step_eq_some.1 hstep
    have hfailed' : .factoryFailed c ∈ es' := by simpa using hfailed
    obtain ⟨hcurrent, hreturned⟩ := failed_of_steps (ClientEndpoint.steps_of_act hact) hfailed'
    exact ⟨hcurrent, List.mem_append_left _ hreturned⟩
  · intro c fresh old he
    obtain ⟨r, hc, hcase⟩ := hreplaced.once c fresh old he
    exact ⟨r, hc, hcase.elim .inr fun h => .inl h.2⟩

/-- Two callers find the endpoint dead; the first one rebuilds it, the second one takes
the new endpoint over. -/
def twoCallers : List EndpointLabel :=
  [.call, .call, .rebuild 0 .lock, .rebuild 0 (.bind true), .rebuild 0 .install,
    .rebuild 1 .lock, .rebuild 0 .spawnClose, .task 0 .poll, .rebuild 0 .finish]

theorem rebuilds_coalesce_instance :
    ∃ s log, clientEndpoint.run {} twoCallers = some (s, log) ∧ s.current = ⟨1, 1⟩ ∧
      log.countP isInstall = 1 ∧ .returned 1 true ∈ log ∧ .factoryCalled 1 ∉ log ∧
      log.count (.handedToClose 0) = 1 := by
  have heval : (clientEndpoint.run {} twoCallers).map (fun r => (r.1.current, r.2)) =
      some (⟨1, 1⟩, [.called 0 0, .called 1 0, .locked 0, .factoryCalled 0, .bound 0 1,
        .installed 0 1 0, .locked 1, .returned 1 true, .handedToClose 0, .closeCalled 0,
        .returned 0 true]) := by decide
  obtain ⟨⟨s, log⟩, hrun, hs⟩ := Option.map_eq_some_iff.1 heval
  obtain ⟨hcurrent, rfl⟩ := Prod.mk.inj hs
  obtain ⟨hgeneration, -, hcoalesced, -, hhanded⟩ := rebuilds_coalesce hrun
  have houtdated : Outdated 1 [.called 0 0, .called 1 0, .locked 0, .factoryCalled 0,
      .bound 0 1, .installed 0 1 0] :=
    ⟨[.called 0 0], 0, _, rfl, .installed 0 1 0, by simp, rfl⟩
  obtain ⟨-, hfactory, -⟩ := hcoalesced _ 1 _ (by rfl) houtdated
  have hcurrent' : s.current = ⟨1, 1⟩ := hcurrent
  refine ⟨s, _, hrun, hcurrent, ?_, by simp, hfactory, ?_⟩
  · rw [← hgeneration, hcurrent']
  · obtain ⟨r, -, hone | ⟨-, hzero⟩⟩ := hhanded 0 1 0 (by simp)
    · exact hone
    · simp at hzero

end Flextunnel.Analysis
