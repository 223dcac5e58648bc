import Flextunnel.Model.ServerSteps

/-!
# The duplicate detections of one server

A server that confirms a duplicate client calls `block_client`, and one that is told of a duplicate
of itself calls `self_block`. Both record the id in memory and persist the whole list, under the
list's lock, so a detection is one step. The list is persisted only when the id is new on it: a
detection whose write failed is not made up for by another detection of the same id.

The machine takes the detections in any order, with any write failing; `detections_of_run` says
that those of a running server are such a sequence.
-/

set_option autoImplicit false

namespace Flextunnel.Model

open Lib

structure BlockRecords (Doc : Type) where
  blocklist : BlockList
  disk : Disk Doc

/-- One call of `block_client` or `self_block`, with the clock it reads and what a write of the
file comes to during it.
SOURCE: core/proxy/server.rs:388-424 -/
inductive Detection (EndpointId : Type) where
  | client (id : EndpointId) (reason : String) (nowMs : Nat) (write : Except String Unit)
  | server (reason : String) (nowMs : Nat) (write : Except String Unit)

inductive DetectedId where
  | client (id : String)
  | server (id : String)
deriving DecidableEq, Repr

inductive DetectionEvent where
  | detected (id : DetectedId)
  | persisted
  | persistFailed
deriving DecidableEq, Repr

/-- SOURCE: core/blocklist.rs:111-118 -/
def BlockList.lists (bl : BlockList) : DetectedId → Bool
  | .client id => bl.isClientBlocked id
  | .server id => bl.isServerConflicted id

def Disk.lists {Doc : Type} (json : BlocklistJson Doc) (disk : Disk Doc) (id : DetectedId) : Bool :=
  match BlockList.load json disk with
  | .ok bl => bl.lists id
  | .error _ => false

namespace Detection

variable {EndpointId : Type}

def write : Detection EndpointId → Except String Unit
  | .client _ _ _ write | .server _ _ write => write

variable {PublicKey : Type} (crates : Crates EndpointId PublicKey) (ownId : EndpointId)

def id : Detection EndpointId → DetectedId
  | .client id _ _ _ => .client (crates.endpointIdText id)
  | .server _ _ _ => .server (crates.endpointIdText ownId)

/-- The list with the id added, and whether it is new.
SOURCE: core/proxy/server.rs:391, 412 -/
def add (bl : BlockList) : Detection EndpointId → BlockList × Bool
  | .client id reason nowMs _ => bl.addBlockedClient (crates.endpointIdText id) reason nowMs
  | .server reason nowMs _ => bl.addConflictedServer (crates.endpointIdText ownId) reason nowMs

variable {crates ownId} {d : Detection EndpointId} {bl : BlockList}

theorem lists_add (k : DetectedId) : (d.add crates ownId bl).1.lists k = true ↔
    bl.lists k = true ∨ d.id crates ownId = k := by
  cases d <;> cases k <;> simp [add, id, BlockList.lists]

theorem add_of_listed (h : bl.lists (d.id crates ownId) = true) :
    d.add crates ownId bl = (bl, false) := by
  cases d <;> exact if_pos h

theorem add_of_not_listed (h : bl.lists (d.id crates ownId) = false) :
    d.add crates ownId bl = ((d.add crates ownId bl).1, true) := by
  refine Prod.ext rfl ?_
  cases d with
  | client => simp [add, BlockList.addBlockedClient, show bl.isClientBlocked _ = false from h]
  | server => simp [add, BlockList.addConflictedServer, show bl.isServerConflicted _ = false from h]

end Detection

section Steps

variable {EndpointId PublicKey Doc : Type} (crates : Crates EndpointId PublicKey)
  (json : BlocklistJson Doc) (ownId : EndpointId)

def Detection.persist (r : BlockRecords Doc) (d : Detection EndpointId) :
    Disk Doc × Except String Unit :=
  persistBlocklist json (d.add crates ownId r.blocklist).1 r.disk d.write

/-- SOURCE: core/proxy/server.rs:388-424 -/
def BlockRecords.detect (r : BlockRecords Doc) (d : Detection EndpointId) :
    BlockRecords Doc × List DetectionEvent :=
  match d.add crates ownId r.blocklist with
  | (blocklist, true) =>
    match d.persist crates json ownId r with
    | (disk, .ok ()) => ({ blocklist, disk }, [.detected (d.id crates ownId), .persisted])
    | (disk, .error _) => ({ blocklist, disk }, [.detected (d.id crates ownId), .persistFailed])
  | (_, false) => (r, [.detected (d.id crates ownId)])

def detections : Machine (BlockRecords Doc) (Detection EndpointId) DetectionEvent where
  init r := BlockList.load json r.disk = .ok r.blocklist
  step r d := some (r.detect crates json ownId d)

end Steps

section Cases

variable {EndpointId PublicKey Doc : Type} {crates : Crates EndpointId PublicKey}
  {json : BlocklistJson Doc} {ownId : EndpointId} {r : BlockRecords Doc} {d : Detection EndpointId}

/-- An id that is listed is not persisted again. -/
theorem BlockRecords.detect_of_listed (h : r.blocklist.lists (d.id crates ownId) = true) :
    r.detect crates json ownId d = (r, [.detected (d.id crates ownId)]) := by
  unfold detect
  rw [Detection.add_of_listed h]

theorem BlockRecords.detect_of_persisted (h : r.blocklist.lists (d.id crates ownId) = false)
    (hpersist : (d.persist crates json ownId r).2 = .ok ()) :
    r.detect crates json ownId d =
      ({ blocklist := (d.add crates ownId r.blocklist).1
         disk := (d.persist crates json ownId r).1 },
        [.detected (d.id crates ownId), .persisted]) := by
  have hok : d.persist crates json ownId r = ((d.persist crates json ownId r).1, .ok ()) :=
    Prod.ext rfl hpersist
  unfold detect
  rw [Detection.add_of_not_listed h, hok]

theorem BlockRecords.detect_of_failed (h : r.blocklist.lists (d.id crates ownId) = false)
    {e : String} (hpersist : (d.persist crates json ownId r).2 = .error e) :
    r.detect crates json ownId d =
      ({ r with blocklist := (d.add crates ownId r.blocklist).1 },
        [.detected (d.id crates ownId), .persistFailed]) := by
  have herror : d.persist crates json ownId r = (r.disk, .error e) := by
    refine Prod.ext ?_ hpersist
    exact persistBlocklist_error (Prod.ext rfl hpersist)
  unfold detect
  rw [Detection.add_of_not_listed h, herror]

theorem BlockRecords.detected_mem_detect (r : BlockRecords Doc) (d : Detection EndpointId) :
    .detected (d.id crates ownId) ∈ (r.detect crates json ownId d).2 := by
  unfold detect
  split
  · split <;> simp
  · simp

end Cases

/-! ## The detections of a running server -/

section Server

variable {EndpointId PublicKey Doc : Type} {ctx : ServerCtx EndpointId PublicKey Doc}

def Shared.records (sh : Shared EndpointId Doc) : BlockRecords Doc :=
  { blocklist := sh.blocklist, disk := sh.disk }

/-- A server's block does to list and file what the detection does. -/
theorem records_block (ctx : ServerCtx EndpointId PublicKey Doc) (sh : Shared EndpointId Doc)
    (d : Detection EndpointId) :
    (sh.block ctx (d.add ctx.crates ctx.server.ownId sh.blocklist) d.write).records =
      (sh.records.detect ctx.crates ctx.blocklistJson ctx.server.ownId d).1 := by
  by_cases hlisted : sh.blocklist.lists (d.id ctx.crates ctx.server.ownId) = true
  · rw [BlockRecords.detect_of_listed hlisted, Detection.add_of_listed hlisted]
    rfl
  have hnew : sh.blocklist.lists (d.id ctx.crates ctx.server.ownId) = false := by
    simpa using hlisted
  rw [Detection.add_of_not_listed hnew]
  cases hpersist : (d.persist ctx.crates ctx.blocklistJson ctx.server.ownId sh.records).2 with
  | ok =>
    rw [BlockRecords.detect_of_persisted (r := sh.records) hnew hpersist]
    rfl
  | error e =>
    rw [BlockRecords.detect_of_failed (r := sh.records) hnew hpersist]
    have hdisk := persistBlocklist_error (Prod.ext rfl hpersist)
    simp only [Shared.block, Shared.records]
    exact congrArg _ hdisk

def Detects (ctx : ServerCtx EndpointId PublicKey Doc) : ServerEvent EndpointId → DetectedId → Prop
  | .blocked _ id, k => k = .client (ctx.crates.endpointIdText id)
  | .selfBlocked _, k => k = .server (ctx.crates.endpointIdText ctx.server.ownId)
  | _, _ => False

/-- Some sequence of detections makes `r` of `r₀`, and every id the server has blocked is detected
in it. -/
def Replayed (ctx : ServerCtx EndpointId PublicKey Doc) (r₀ : BlockRecords Doc)
    (log : List (ServerEvent EndpointId)) (r : BlockRecords Doc) : Prop :=
  ∃ ds log', (detections ctx.crates ctx.blocklistJson ctx.server.ownId).run r₀ ds =
      some (r, log') ∧ ∀ e ∈ log, ∀ k, Detects ctx e k → .detected k ∈ log'

section Replayed

variable {r₀ r : BlockRecords Doc} {log es : List (ServerEvent EndpointId)}

theorem Replayed.same (h : Replayed ctx r₀ log r) (hes : ∀ e ∈ es, ∀ k, ¬ Detects ctx e k) :
    Replayed ctx r₀ (log ++ es) r := by
  obtain ⟨ds, log', hrun, hlog⟩ := h
  refine ⟨ds, log', hrun, fun e he k hk => ?_⟩
  rcases List.mem_append.1 he with he | he
  · exact hlog e he k hk
  · exact absurd hk (hes e he k)

/-- Events that detect no id but this one replay as its detection. -/
theorem Replayed.detect (h : Replayed ctx r₀ log r) (d : Detection EndpointId)
    (hes : ∀ e ∈ es, ∀ k, Detects ctx e k → k = d.id ctx.crates ctx.server.ownId) :
    Replayed ctx r₀ (log ++ es) (r.detect ctx.crates ctx.blocklistJson ctx.server.ownId d).1 := by
  obtain ⟨ds, log', hrun, hlog⟩ := h
  have hone : (detections ctx.crates ctx.blocklistJson ctx.server.ownId).run r [d] =
      some (r.detect ctx.crates ctx.blocklistJson ctx.server.ownId d) := by
    simp [Machine.run, detections]
  refine ⟨ds ++ [d], _, Machine.run_append _ hrun hone, fun e he k hk => ?_⟩
  rcases List.mem_append.1 he with he | he
  · exact List.mem_append_left _ (hlog e he k hk)
  · rw [hes e he k hk]
    exact List.mem_append_right _ (BlockRecords.detected_mem_detect r d)

end Replayed

variable [DecidableEq EndpointId] [DecidableEq PublicKey]

/-- A handler's move is at most one detection. -/
theorem detection_of_move {c : Nat} {sh sh' : Shared EndpointId Doc} {h h' : Handler EndpointId}
    {l : HandlerLabel EndpointId} {es : List (ServerEvent EndpointId)}
    (hmove : HandlerStep ctx c sh h l h' sh' es) :
    (∃ d, sh'.records = (sh.records.detect ctx.crates ctx.blocklistJson ctx.server.ownId d).1 ∧
      ∀ e ∈ es, ∀ k, Detects ctx e k → k = d.id ctx.crates ctx.server.ownId) ∨
    sh'.records = sh.records ∧ ∀ e ∈ es, ∀ k, ¬ Detects ctx e k := by
  cases hmove with
  | @selfBlock nowMs write remoteId =>
    have hrecords := records_block ctx sh (.server ("client " ++
      ctx.crates.endpointIdText remoteId ++ " reported a duplicate-server pattern") nowMs write)
    refine .inl ⟨_, hrecords, ?_⟩
    intro e he k hk
    rw [List.mem_singleton.1 he] at hk
    exact hk
  | @blockClient nowMs write remoteId =>
    have hrecords := records_block ctx sh
      (.client remoteId "duplicate client id (concurrent live connections)" nowMs write)
    refine .inl ⟨_, hrecords, ?_⟩
    intro e he k hk
    rw [List.mem_singleton.1 he] at hk
    exact hk
  | drop | heartbeat =>
    refine .inr ⟨?_, by simp⟩
    simp only [Shared.drop, Shared.refresh]
    split <;> rfl
  | reply =>
    refine .inr ⟨rfl, ?_⟩
    split <;> simp [Detects]
  | _ => exact .inr ⟨rfl, by simp [Detects]⟩

/-- **What a running server records is a sequence of detections.** In every run the list and the
file are what some sequence of detections makes of those the server started with. -/
theorem detections_of_run {s₀ s : Server EndpointId Doc} {ls : List (ServerLabel EndpointId)}
    {log : List (ServerEvent EndpointId)} (hrun : (proxyServer ctx).run s₀ ls = some (s, log)) :
    Replayed ctx s₀.shared.records log s.shared.records := by
  refine (proxyServer ctx).log_rule
    (P := fun log s => Replayed ctx s₀.shared.records log s.shared.records) ?_
    ⟨[], [], rfl, by simp⟩ hrun
  intro log s l t es hs hstep
  rcases Server.step_cases hstep with hloop | ⟨c, hl, h, h', sh, rfl, -, hmove, rfl⟩
  · cases hloop <;> exact hs.same (by simp [Detects])
  rw [Server.moved_shared]
  rcases detection_of_move hmove with ⟨d, hrecords, hes⟩ | ⟨hrecords, hes⟩
  · rw [hrecords]
    exact hs.detect d hes
  · rw [hrecords]
    exact hs.same hes

end Server

def toldOnce : List (ServerLabel String) :=
  laptopConnects 0 1 1 ++ [.handler 0 (.selfBlock 0 (.ok ()))]

theorem detections_of_run_toldOnce : ∃ s log,
    (proxyServer plainServer).run plainStart toldOnce = some (s, log) ∧ .selfBlocked 0 ∈ log ∧
      Replayed plainServer plainStart.shared.records log s.shared.records := by
  have hrun : (proxyServer plainServer).run plainStart toldOnce = some _ := rfl
  exact ⟨_, _, hrun, by decide, detections_of_run hrun⟩

end Flextunnel.Model
