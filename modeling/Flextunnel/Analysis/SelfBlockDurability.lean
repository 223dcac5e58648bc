import Flextunnel.Model.SharedBlocklist

/-!
# How long a self-block lasts

A server that finds its identity duplicated records its own id in the blocklist file, so
that `prepare` refuses every later start. Several servers share the file, and each
rewrites it from the snapshot it loaded when it started: one that started before the
self-block removes the record with its next block (`self_block_removed`).
-/

set_option autoImplicit false

namespace Flextunnel.Analysis

open Lib Model

section

variable {EndpointId PublicKey Doc : Type} {crates : Crates EndpointId PublicKey}
  {json : BlocklistJson Doc}

/-- A step that writes the file is taken by a process that read it after every other
process's self-block. -/
def writerCurrent (crates : Crates EndpointId PublicKey) (s : SharedBlocklist EndpointId Doc)
    (l : SharedLabel EndpointId) : Bool :=
  match l with
  | .start _ => true
  | .blockClient p _ _ _ write | .selfBlock p _ _ write =>
    match s.processes[p]? with
    | none => true
    | some x => !((blocked crates x l).2 && write.isOk) || x.current

/-! ## What a block does to the lists -/

theorem conflicted_of_load {disk : Disk Doc} {bl : BlockList}
    (h : BlockList.load json disk = .ok bl) (id : String) :
    disk.conflicted json id = bl.isServerConflicted id := by
  simp [Disk.conflicted, h]

/-- A block keeps every conflicted id and adds at most the server's own. -/
theorem isServerConflicted_blocked (crates : Crates EndpointId PublicKey)
    (x : ServerProcess EndpointId) (l : SharedLabel EndpointId) (id : String) :
    (x.blocklist.isServerConflicted id = true →
      (blocked crates x l).1.isServerConflicted id = true) ∧
    ((blocked crates x l).1.isServerConflicted id = true → id ≠ crates.endpointIdText x.ownId →
      x.blocklist.isServerConflicted id = true) := by
  cases l with
  | start secretKey => exact ⟨fun h => h, fun h _ => h⟩
  | blockClient p client reason nowMs write =>
    simp only [blocked, BlockList.isServerConflicted_addBlockedClient]
    exact ⟨fun h => h, fun h _ => h⟩
  | selfBlock p reason nowMs write =>
    simp only [blocked, BlockList.isServerConflicted_addConflictedServer, Bool.or_eq_true,
      beq_iff_eq]
    exact ⟨fun h => .inl h, fun h hne => h.resolve_right fun heq => hne heq.symm⟩

/-! ## The invariant -/

/-- Current snapshots and the file agree up to the owner's id, and every persisted self-block is in
the file. -/
structure DurableInv (crates : Crates EndpointId PublicKey) (json : BlocklistJson Doc)
    (log : List (SharedEvent EndpointId)) (s : SharedBlocklist EndpointId Doc) : Prop where
  fileInSnapshot : ∀ x ∈ s.processes, x.current = true → ∀ id,
    s.disk.conflicted json id = true → x.blocklist.isServerConflicted id = true
  snapshotInFile : ∀ x ∈ s.processes, x.current = true → ∀ id,
    id ≠ crates.endpointIdText x.ownId → x.blocklist.isServerConflicted id = true →
      s.disk.conflicted json id = true
  persisted : ∀ ownId, SharedEvent.conflictPersisted ownId ∈ log →
    s.disk.conflicted json (crates.endpointIdText ownId) = true

variable {log es : List (SharedEvent EndpointId)} {s t : SharedBlocklist EndpointId Doc}

/-- A process that starts has the file's conflicts. -/
theorem durableInv_start (hinv : DurableInv crates json log s) {ownId : EndpointId}
    {blocklist : BlockList} (hload : loadBlocklist crates json s.disk ownId = .ok blocklist) :
    DurableInv crates json log { s with processes := s.processes ++ [{ ownId, blocklist }] } := by
  obtain ⟨bl, hbl, hif⟩ := bind_eq_ok.1 hload
  have hdisk := conflicted_of_load (mapError_eq_ok.1 hbl)
  obtain rfl : bl = blocklist := by
    split at hif
    · cases hif
    · exact Except.ok.inj hif
  refine ⟨?_, ?_, hinv.persisted⟩
  · intro x hx hcur id hid
    rcases List.mem_append.1 hx with hx | hx
    · exact hinv.fileInSnapshot x hx hcur id hid
    · obtain rfl := List.mem_singleton.1 hx
      exact (hdisk id).symm.trans hid
  · intro x hx hcur id hne hid
    rcases List.mem_append.1 hx with hx | hx
    · exact hinv.snapshotInFile x hx hcur id hne hid
    · obtain rfl := List.mem_singleton.1 hx
      exact (hdisk id).trans hid

/-- A write by a current process keeps what the file lists. -/
theorem durableInv_persist (hinv : DurableInv crates json log s) {p : Nat}
    {x : ServerProcess EndpointId} (hx : s.processes[p]? = some x) {bl : BlockList}
    {write : Except String Unit} (hcur : write.isOk = true → x.current = true)
    (hkeeps : ∀ id, x.blocklist.isServerConflicted id = true → bl.isServerConflicted id = true)
    (hadds : ∀ id, bl.isServerConflicted id = true → id ≠ crates.endpointIdText x.ownId →
      x.blocklist.isServerConflicted id = true) :
    DurableInv crates json (log ++ (s.persist crates json p x bl write).2)
      (s.persist crates json p x bl write).1 := by
  have hxmem := List.mem_of_getElem? hx
  unfold SharedBlocklist.persist
  dsimp only
  split
  next disk hpersist =>
    have hdisk : ∀ id, disk.conflicted json id = bl.isServerConflicted id :=
      conflicted_of_load (load_persistBlocklist hpersist)
    have hxcur : x.current = true := by
      refine hcur ?_
      cases write with
      | ok u => rfl
      | error e =>
        unfold persistBlocklist at hpersist
        split at hpersist <;> simp_all
    -- nothing the file lists is lost
    have hfile : ∀ id, s.disk.conflicted json id = true → disk.conflicted json id = true := by
      intro id hid
      rw [hdisk]
      exact hkeeps id (hinv.fileInSnapshot x hxmem hxcur id hid)
    refine ⟨?_, ?_, ?_⟩
    · intro y hy hycur id hid
      rcases List.mem_or_eq_of_mem_set hy with hy | rfl
      · split at hy
        · obtain ⟨z, -, rfl⟩ := List.mem_map.1 hy
          cases hycur
        next hnews =>
          refine hinv.fileInSnapshot y hy hycur id ?_
          rw [hdisk] at hid
          by_cases hid' : id = crates.endpointIdText x.ownId
          · subst hid'
            simpa [hid] using hnews
          · exact hinv.snapshotInFile x hxmem hxcur id hid' (hadds id hid hid')
      · exact (hdisk id).symm.trans hid
    · intro y hy hycur id hne hid
      rcases List.mem_or_eq_of_mem_set hy with hy | rfl
      · split at hy
        · obtain ⟨z, -, rfl⟩ := List.mem_map.1 hy
          cases hycur
        · exact hfile id (hinv.snapshotInFile y hy hycur id hne hid)
      · exact (hdisk id).trans hid
    · intro ownId hmem
      rcases List.mem_append.1 hmem with hmem | hmem
      · exact hfile _ (hinv.persisted ownId hmem)
      · obtain ⟨hown, rfl⟩ : bl.isServerConflicted (crates.endpointIdText x.ownId) = true ∧
            ownId = x.ownId := by simpa using hmem
        exact (hdisk _).trans hown
  next disk e hpersist =>
    obtain rfl := persistBlocklist_error hpersist
    rw [List.append_nil]
    refine ⟨?_, ?_, hinv.persisted⟩
    · intro y hy hycur id hid
      rcases List.mem_or_eq_of_mem_set hy with hy | rfl
      · exact hinv.fileInSnapshot y hy hycur id hid
      · exact hkeeps id (hinv.fileInSnapshot x hxmem hycur id hid)
    intro y hy hycur id hne hid
    rcases List.mem_or_eq_of_mem_set hy with hy | rfl
    · exact hinv.snapshotInFile y hy hycur id hne hid
    · exact hinv.snapshotInFile x hxmem hycur id hne (hadds id hid hne)

theorem durableInv_block (hinv : DurableInv crates json log s) {p : Nat}
    {write : Except String Unit} {l : SharedLabel EndpointId}
    (hcur : ∀ x, s.processes[p]? = some x → (blocked crates x l).2 = true → write.isOk = true →
      x.current = true) (h : s.block crates json p write l = some (t, es)) :
    DurableInv crates json (log ++ es) t := by
  unfold SharedBlocklist.block at h
  split at h
  · cases h
  next x hx =>
    have hlists := isServerConflicted_blocked crates x l
    split at h
    next bl hbl =>
      obtain ⟨rfl, rfl⟩ : (s.persist crates json p x bl write).1 = t ∧
          (s.persist crates json p x bl write).2 = es := by
        rw [Option.some.inj h]
        exact ⟨rfl, rfl⟩
      simp only [hbl] at hlists
      refine durableInv_persist hinv hx (fun hok => hcur x hx (by rw [hbl]) hok) ?_ ?_
      · exact fun id => (hlists id).1
      · exact fun id => (hlists id).2
    · cases h
      rwa [List.append_nil]

/-- Every guarded step keeps the invariant. -/
theorem durableInv_step {l : SharedLabel EndpointId} (hguard : writerCurrent crates s l = true)
    (hinv : DurableInv crates json log s) (h : s.step crates json l = some (t, es)) :
    DurableInv crates json (log ++ es) t := by
  cases l with
  | start secretKey =>
    simp only [SharedBlocklist.step] at h
    split at h <;> cases h
    next blocklist hload =>
      rw [List.append_nil]
      exact durableInv_start hinv hload
  | blockClient | selfBlock =>
    refine durableInv_block hinv ?_ h
    intro x hx hadd hok
    simpa [writerCurrent, hx, hadd, hok] using hguard

/-- **A self-block lasts, as long as no outdated snapshot is written** (`writerCurrent`): an id that
was persisted as conflicted is in the file in every later state, and `prepare` refuses it there. -/
theorem self_block_durable [DecidableEq EndpointId] {s₀ s : SharedBlocklist EndpointId Doc}
    {ls : List (SharedLabel EndpointId)} {log : List (SharedEvent EndpointId)}
    (hinit : (sharedBlocklist crates json).init s₀)
    (hguard : (sharedBlocklist crates json).Guarded (fun s l => writerCurrent crates s l = true)
      s₀ ls)
    (hrun : (sharedBlocklist crates json).run s₀ ls = some (s, log)) {ownId : EndpointId}
    (hpersisted : SharedEvent.conflictPersisted ownId ∈ log) :
    s.disk.conflicted json (crates.endpointIdText ownId) = true ∧
      ∀ nonce opts, crates.secretToEndpointId opts.secretKey = ownId →
        ∃ e, prepare crates json s.disk nonce opts = .error e := by
  have hnone : s₀.processes = [] := hinit
  have hinv : DurableInv crates json log s :=
    (sharedBlocklist crates json).guarded_log_rule (P := DurableInv crates json)
      (fun _ _ _ _ _ hg hinv h => durableInv_step hg hinv h)
      ⟨by simp [hnone], by simp [hnone], by simp⟩ hguard hrun
  have hfile := hinv.persisted ownId hpersisted
  refine ⟨hfile, ?_⟩
  rintro nonce opts rfl
  cases hload : BlockList.load json s.disk with
  | error e => simp [Disk.conflicted, hload] at hfile
  | ok bl =>
    rw [conflicted_of_load hload] at hfile
    exact prepare_conflicted hload hfile

end

/-! ## Two servers -/

/-- Two servers start over a missing file, the first one blocks itself, and a third one
started after that blocks a client. -/
def laterServerWrites : List (SharedLabel String) :=
  [.start (Reader.utf8 "a"), .start (Reader.utf8 "b"), .selfBlock 0 "duplicate" 1 (.ok ()),
    .start (Reader.utf8 "c"), .blockClient 2 "client" "duplicate" 2 (.ok ())]

/-- The record of the first server survives the write of a server started after it. -/
theorem self_block_durable_later_server :
    ∃ s, (sharedBlocklist textCrates plainJson).run { disk := .missing } laterServerWrites =
        some (s, [.conflictPersisted "a"]) ∧ s.disk.conflicted plainJson "a" = true := by
  have hlog : ((sharedBlocklist textCrates plainJson).run { disk := .missing }
      laterServerWrites).map Prod.snd = some [.conflictPersisted "a"] := by decide
  obtain ⟨s, hrun⟩ := (sharedBlocklist textCrates plainJson).exists_run_of_log hlog
  have hinit : (sharedBlocklist textCrates plainJson).init { disk := .missing } := rfl
  exact ⟨s, hrun, (self_block_durable hinit (by decide) hrun (List.mem_singleton.2 rfl)).1⟩

/-- Two servers start over a missing file, the first one blocks itself, and the second
one blocks a client after that. -/
def earlierServerWrites : List (SharedLabel String) :=
  [.start (Reader.utf8 "a"), .start (Reader.utf8 "b"), .selfBlock 0 "duplicate" 1 (.ok ()),
    .blockClient 1 "client" "duplicate" 2 (.ok ())]

/-- The second server's write removes the first one's record, and `prepare` accepts the
conflicted identity again. -/
theorem self_block_removed :
    ∃ s, (sharedBlocklist textCrates plainJson).run { disk := .missing } earlierServerWrites =
        some (s, [.conflictPersisted "a"]) ∧
      s.disk.conflicted plainJson "a" = false ∧
      (prepare textCrates plainJson s.disk 0 (plainOptions "a")).isOk = true := by
  have heval : ((sharedBlocklist textCrates plainJson).run { disk := .missing }
      earlierServerWrites).map (fun r => (r.2, r.1.disk.conflicted plainJson "a",
        (prepare textCrates plainJson r.1.disk 0 (plainOptions "a")).isOk)) =
      some ([.conflictPersisted "a"], false, true) := by decide
  obtain ⟨⟨s, log⟩, hrun, hs⟩ := Option.map_eq_some_iff.1 heval
  obtain ⟨rfl, hconflicted, hprepare⟩ : log = [.conflictPersisted "a"] ∧
      s.disk.conflicted plainJson "a" = false ∧
      (prepare textCrates plainJson s.disk 0 (plainOptions "a")).isOk = true := by simpa using hs
  exact ⟨s, hrun, hconflicted, hprepare⟩

end Flextunnel.Analysis
