import Mathlib.Data.List.AList
import Mathlib.Data.List.Dedup
import Mathlib.Data.List.Sort
import Flextunnel.Model.Signaling

/-!
# The registry of live connections

One map from a node id to the connections of that id, each with the instance nonce its
`Hello` carried and the time of its last heartbeat. `tryRegister` is the duplicate check
and the insertion under one lock; it reads the clock once.

The lemmas say what each operation does to the entries of every id (`entriesOf`), which
is all later proofs use.

Unnamed source lines are of `core/proxy/server.rs`.
-/

set_option autoImplicit false

namespace Flextunnel.Model

/-! ## Time -/

def second : Nat := 1000000000

/-- SOURCE: core/transport/mod.rs:53 -/
def heartbeatIntervalIdle : Nat := 60 * second

/-- SOURCE: core/transport/mod.rs:58 -/
def livenessGrace : Nat := 3 * second

/-- SOURCE: core/transport/mod.rs:64-66 -/
def livenessWindowOf (interval : Nat) : Nat := interval * 3 + livenessGrace

/-- SOURCE: core/transport/mod.rs:75 -/
def livenessWindow : Nat := livenessWindowOf heartbeatIntervalIdle

/-! ## Entries -/

/-- A registry entry; `connection` is the number of the handler it belongs to.
SOURCE: 58-69 -/
structure ConnEntry where
  connSeq : Nat
  nonce : Nonce
  lastSeen : Nat
  connection : Nat
  clientKey : Option String
deriving DecidableEq

/-- The entry was refreshed within the liveness window.
SOURCE: 453 -/
def ConnEntry.live (e : ConnEntry) (now : Nat) : Prop := now - e.lastSeen < livenessWindow

instance (e : ConnEntry) (now : Nat) : Decidable (e.live now) :=
  inferInstanceAs (Decidable (_ < _))

/-- `EndpointId → (conn_seq → entry)`.
SOURCE: 73 -/
abbrev Registry (EndpointId : Type) := AList (fun _ : EndpointId => List ConnEntry)

namespace Registry

variable {EndpointId : Type} [DecidableEq EndpointId]

def entriesOf (reg : Registry EndpointId) (id : EndpointId) : List ConnEntry :=
  (reg.lookup id).getD []

/-- The live connections of another instance.
SOURCE: 451-455 -/
def dups (per : List ConnEntry) (nonce : Nonce) (now : Nat) : List Nat :=
  (per.filter fun e => e.nonce ≠ nonce ∧ e.live now).map ConnEntry.connection

/-- `HashMap::insert`: an entry under the same number is replaced. -/
def insertEntry (per : List ConnEntry) (e : ConnEntry) : List ConnEntry :=
  per.filter (fun e' => e'.connSeq ≠ e.connSeq) ++ [e]

/-- The registry after the attempt, and the duplicates that made it fail. The inner map
is created before the check, so a failed attempt leaves it behind.
SOURCE: 440-469 -/
def tryRegister (reg : Registry EndpointId) (now : Nat) (remoteId : EndpointId) (connSeq : Nat)
    (nonce : Nonce) (connection : Nat) (clientKey : Option String) :
    Registry EndpointId × Except (List Nat) Unit :=
  let per := reg.entriesOf remoteId
  if (dups per nonce now).isEmpty then
    (reg.insert remoteId
      (insertEntry per { connSeq, nonce, lastSeen := now, connection, clientKey }), .ok ())
  else (reg.insert remoteId per, .error (dups per nonce now))

/-- A heartbeat refreshes the entry if it is still there.
SOURCE: 823-828 -/
def refresh (reg : Registry EndpointId) (now : Nat) (remoteId : EndpointId) (connSeq : Nat) :
    Registry EndpointId :=
  match reg.lookup remoteId with
  | none => reg
  | some per => reg.insert remoteId
      (per.map fun e => if e.connSeq = connSeq then { e with lastSeen := now } else e)

/-- `ConnGuard::drop`.
SOURCE: 85-96 -/
def drop (reg : Registry EndpointId) (remoteId : EndpointId) (connSeq : Nat) :
    Registry EndpointId :=
  match reg.lookup remoteId with
  | none => reg
  | some per =>
    if (per.filter fun e => e.connSeq ≠ connSeq).isEmpty then reg.erase remoteId
    else reg.insert remoteId (per.filter fun e => e.connSeq ≠ connSeq)

/-- The distinct keys of the registered clients, sorted.
SOURCE: 298-306 -/
def connectedClientKeys (reg : Registry EndpointId) : List String :=
  ((reg.entries.flatMap Sigma.snd).filterMap ConnEntry.clientKey).dedup.insertionSort (· ≤ ·)

/-! ### What the operations do to the entries -/

variable {reg : Registry EndpointId} {now connSeq connection : Nat} {id remoteId : EndpointId}
  {nonce : Nonce} {clientKey : Option String} {e : ConnEntry}

@[simp] theorem entriesOf_empty : entriesOf (∅ : Registry EndpointId) id = [] := rfl

theorem entriesOf_insert {per : List ConnEntry} :
    entriesOf (reg.insert remoteId per) id = if id = remoteId then per else reg.entriesOf id := by
  unfold entriesOf
  by_cases h : id = remoteId
  · subst h
    simp
  · rw [AList.lookup_insert_ne h, if_neg h]

theorem entriesOf_erase :
    entriesOf (reg.erase remoteId) id = if id = remoteId then [] else reg.entriesOf id := by
  unfold entriesOf
  by_cases h : id = remoteId
  · subst h
    simp
  · rw [AList.lookup_erase_ne h, if_neg h]

theorem mem_dups {per : List ConnEntry} {d : Nat} :
    d ∈ dups per nonce now ↔ ∃ e ∈ per, e.nonce ≠ nonce ∧ e.live now ∧ e.connection = d := by
  simp [dups, and_assoc]

/-- A client is registered when its live entries have its nonce. -/
theorem tryRegister_ok {reg' : Registry EndpointId}
    (h : reg.tryRegister now remoteId connSeq nonce connection clientKey = (reg', .ok ())) :
    (∀ e ∈ reg.entriesOf remoteId, e.live now → e.nonce = nonce) ∧
      reg' = reg.insert remoteId (insertEntry (reg.entriesOf remoteId)
        { connSeq, nonce, lastSeen := now, connection, clientKey }) := by
  simp only [tryRegister] at h
  split at h
  next hempty =>
    refine ⟨?_, (Prod.mk.inj h).1.symm⟩
    intro e he hlive
    by_contra hne
    have : e.connection ∈ dups (reg.entriesOf remoteId) nonce now :=
      mem_dups.2 ⟨e, he, hne, hlive, rfl⟩
    simp [List.isEmpty_iff.1 hempty] at this
  · cases (Prod.mk.inj h).2

/-- A duplicate gets the connections of the other instances, and no entry changes. -/
theorem tryRegister_error {reg' : Registry EndpointId} {ds : List Nat}
    (h : reg.tryRegister now remoteId connSeq nonce connection clientKey = (reg', .error ds)) :
    ds = dups (reg.entriesOf remoteId) nonce now ∧ ds ≠ [] ∧
      ∀ id, reg'.entriesOf id = reg.entriesOf id := by
  simp only [tryRegister] at h
  split at h
  · cases (Prod.mk.inj h).2
  next hempty =>
    obtain ⟨rfl, hds⟩ := Prod.mk.inj h
    obtain rfl := Except.error.inj hds
    refine ⟨rfl, fun hnil => hempty (by simp [hnil]), fun id => ?_⟩
    rw [entriesOf_insert]
    split
    next h => rw [h]
    · rfl

theorem mem_insertEntry {per : List ConnEntry} {e' : ConnEntry} :
    e' ∈ insertEntry per e ↔ (e' ∈ per ∧ e'.connSeq ≠ e.connSeq) ∨ e' = e := by
  simp [insertEntry]

/-- A heartbeat refreshes its own entry. -/
theorem entriesOf_refresh :
    entriesOf (reg.refresh now remoteId connSeq) id =
      if id = remoteId then
        (reg.entriesOf id).map fun e =>
          if e.connSeq = connSeq then { e with lastSeen := now } else e
      else reg.entriesOf id := by
  unfold refresh
  split
  next h =>
    split
    next hid =>
      subst hid
      simp [entriesOf, h]
    · rfl
  next per h =>
    rw [entriesOf_insert]
    split
    next hid =>
      subst hid
      simp [entriesOf, h]
    · rfl

/-- A dropped guard takes its own entry out. -/
theorem entriesOf_drop :
    entriesOf (reg.drop remoteId connSeq) id =
      if id = remoteId then (reg.entriesOf id).filter fun e => e.connSeq ≠ connSeq
      else reg.entriesOf id := by
  unfold drop
  split
  next h =>
    split
    next hid =>
      subst hid
      simp [entriesOf, h]
    · rfl
  next per h =>
    have hper : reg.entriesOf remoteId = per := by simp [entriesOf, h]
    by_cases hempty : (per.filter fun e => e.connSeq ≠ connSeq).isEmpty
    · rw [if_pos hempty, entriesOf_erase]
      split
      next hid => rw [hid, hper, List.isEmpty_iff.1 hempty]
      · rfl
    rw [if_neg hempty, entriesOf_insert]
    split
    next hid => rw [hid, hper]
    · rfl

theorem mem_connectedClientKeys {key : String} (h : key ∈ reg.connectedClientKeys) :
    ∃ id, ∃ e ∈ reg.entriesOf id, e.clientKey = some key := by
  simp only [connectedClientKeys, List.mem_insertionSort, List.mem_dedup, List.mem_filterMap,
    List.mem_flatMap] at h
  obtain ⟨e, ⟨⟨id, per⟩, hper, he⟩, hkey⟩ := h
  refine ⟨id, e, ?_, hkey⟩
  have hlookup : reg.lookup id = some per := AList.mem_lookup_iff.2 hper
  simpa [entriesOf, hlookup] using he

end Registry

end Flextunnel.Model
