import Flextunnel.Model.Detections

/-!
# What the blocklist file lists

A detection persists the whole list, so a write that succeeds makes up for every write that failed
before it. But the list is persisted only when the detected id is new on it: when the write for an
id has failed, another detection of that id writes nothing.
-/

set_option autoImplicit false

namespace Flextunnel.Analysis

open Lib Model

def PersistFailed : DetectionEvent → Prop
  | .persistFailed => True
  | _ => False

def Persisted : DetectionEvent → Prop
  | .persisted => True
  | _ => False

/-! ## What is left unwritten -/

/-- A detection that writes nothing leaves unwritten what was. -/
theorem since_detected (log : List DetectionEvent) (k : DetectedId) :
    Since PersistFailed Persisted (log ++ [.detected k]) ↔ Since PersistFailed Persisted log := by
  simp [since_concat, PersistFailed, Persisted]

theorem not_since_persisted (log : List DetectionEvent) (k : DetectedId) :
    ¬ Since PersistFailed Persisted (log ++ [.detected k, .persisted]) := by
  rw [List.append_cons, since_concat]
  simp [PersistFailed, Persisted]

theorem since_persistFailed (log : List DetectionEvent) (k : DetectedId) :
    Since PersistFailed Persisted (log ++ [.detected k, .persistFailed]) := by
  rw [List.append_cons, since_concat]
  exact .inl trivial

/-! ## The list and the file -/

section

variable {EndpointId PublicKey Doc : Type} {crates : Crates EndpointId PublicKey}
  {json : BlocklistJson Doc} {ownId : EndpointId} {r t : BlockRecords Doc}
  {d : Detection EndpointId} {log es : List DetectionEvent}

theorem lists_of_load {disk : Disk Doc} {bl : BlockList} (h : BlockList.load json disk = .ok bl)
    (k : DetectedId) : disk.lists json k = bl.lists k := by
  simp [Disk.lists, h]

/-- Every detected id is on the list in memory, and the file is that list, or one that
lacks a detected id when the last attempt to persist failed. -/
structure RecordsInv (json : BlocklistJson Doc) (log : List DetectionEvent) (r : BlockRecords Doc) :
    Prop where
  listed : ∀ k, .detected k ∈ log → r.blocklist.lists k = true
  saved : ¬ Since PersistFailed Persisted log → BlockList.load json r.disk = .ok r.blocklist
  unsaved : Since PersistFailed Persisted log →
    ∃ k, .detected k ∈ log ∧ r.disk.lists json k = false

/-- A detection of an id that is listed keeps the invariant. -/
theorem RecordsInv.again (hinv : RecordsInv json log r) {k : DetectedId}
    (hlisted : r.blocklist.lists k = true) : RecordsInv json (log ++ [.detected k]) r := by
  refine ⟨fun k' hk' => ?_, fun h => hinv.saved (mt (since_detected log k).2 h), fun h => ?_⟩
  · rcases List.mem_append.1 hk' with hk' | hk'
    · exact hinv.listed k' hk'
    · obtain rfl : k' = k := by simpa using hk'
      exact hlisted
  · obtain ⟨k', hk', hmissing⟩ := hinv.unsaved ((since_detected log k).1 h)
    exact ⟨k', List.mem_append_left _ hk', hmissing⟩

theorem listed_add (hinv : RecordsInv json log r) {e : DetectionEvent}
    (he : ∀ k, e ≠ .detected k) :
    ∀ k, .detected k ∈ log ++ [.detected (d.id crates ownId), e] →
      (d.add crates ownId r.blocklist).1.lists k = true := by
  intro k hk
  refine (Detection.lists_add k).2 ?_
  rcases List.mem_append.1 hk with hk | hk
  · exact .inl (hinv.listed k hk)
  · rcases List.mem_cons.1 hk with hk | hk
    · exact .inr (DetectionEvent.detected.inj hk).symm
    · exact absurd (List.mem_singleton.1 hk).symm (he k)

variable (crates ownId) in
/-- Every detection keeps it, whether its write fails or not. -/
theorem recordsInv_detect (hinv : RecordsInv json log r) (d : Detection EndpointId) :
    RecordsInv json (log ++ (r.detect crates json ownId d).2) (r.detect crates json ownId d).1 := by
  by_cases hlisted : r.blocklist.lists (d.id crates ownId) = true
  · rw [BlockRecords.detect_of_listed hlisted]
    exact hinv.again hlisted
  have hnew : r.blocklist.lists (d.id crates ownId) = false := by simpa using hlisted
  cases hpersist : (d.persist crates json ownId r).2 with
  | ok =>
    rw [BlockRecords.detect_of_persisted hnew hpersist]
    refine ⟨listed_add hinv (by simp), fun _ => ?_, fun h => ?_⟩
    · exact load_persistBlocklist (Prod.ext rfl hpersist)
    · exact absurd h (not_since_persisted _ _)
  | error e =>
    rw [BlockRecords.detect_of_failed hnew hpersist]
    refine ⟨listed_add hinv (by simp), fun h => absurd (since_persistFailed _ _) h, fun _ => ?_⟩
    by_cases hbefore : Since PersistFailed Persisted log
    · obtain ⟨k, hk, hmissing⟩ := hinv.unsaved hbefore
      exact ⟨k, List.mem_append_left _ hk, hmissing⟩
    -- the file is the list as it was, and the id is new on it
    refine ⟨d.id crates ownId, by simp, ?_⟩
    rw [lists_of_load (hinv.saved hbefore)]
    exact hnew

/-- **What the file lists after a detection.** Whichever writes fail, after a detection during which
persisting would succeed the file lists every id detected so far if and only if the detected id was
new on the list, or no attempt to persist has failed since the last one that succeeded. -/
theorem detected_ids_listed_iff {r₀ : BlockRecords Doc} {ds : List (Detection EndpointId)}
    (hinit : (detections crates json ownId).init r₀)
    (hrun : (detections crates json ownId).run r₀ ds = some (r, log))
    (hstep : (detections crates json ownId).step r d = some (t, es))
    (hwrite : (d.persist crates json ownId r).2 = .ok ()) :
    (∀ k, .detected k ∈ log ++ es → t.disk.lists json k = true) ↔
      r.blocklist.lists (d.id crates ownId) = false ∨ ¬ Since PersistFailed Persisted log := by
  have hinv : RecordsInv json log r := by
    refine (detections crates json ownId).log_rule (P := RecordsInv json) ?_
      ⟨by simp, fun _ => hinit, fun h => absurd h (not_since_nil _ _)⟩ hrun
    intro log r d t es hinv hstep
    obtain ⟨rfl, rfl⟩ := Prod.mk.inj (Option.some.inj hstep)
    exact recordsInv_detect crates ownId hinv d
  have hdetect : r.detect crates json ownId d = (t, es) := Option.some.inj hstep
  have hnext : RecordsInv json (log ++ es) t := by
    simpa [hdetect] using recordsInv_detect crates ownId hinv d
  -- once the file is the list in memory, it has every detected id
  have hsaved (h : ¬ Since PersistFailed Persisted (log ++ es)) (k : DetectedId)
      (hk : .detected k ∈ log ++ es) : t.disk.lists json k = true := by
    rw [lists_of_load (hnext.saved h)]
    exact hnext.listed k hk
  by_cases hlisted : r.blocklist.lists (d.id crates ownId) = true
  · rw [BlockRecords.detect_of_listed hlisted] at hdetect
    cases hdetect
    constructor
    · refine fun hall => .inr fun hunsaved => ?_
      obtain ⟨k, hk, hmissing⟩ := hinv.unsaved hunsaved
      simp [hall k (List.mem_append_left _ hk)] at hmissing
    · rintro (hnew | hnone)
      · simp [hlisted] at hnew
      · exact hsaved (mt (since_detected _ _).1 hnone)
  · have hnew : r.blocklist.lists (d.id crates ownId) = false := by simpa using hlisted
    rw [BlockRecords.detect_of_persisted hnew hwrite] at hdetect
    cases hdetect
    exact ⟨fun _ => .inl hnew, fun _ => hsaved (not_since_persisted _ _)⟩

end

/-! ## A write that fails -/

def failsForTheFirst : List (Detection String) :=
  [.client "laptop" "duplicate" 0 (.error "disk full")]

/-- The write for the second client makes up for the first one's. -/
theorem detected_ids_listed_iff_second_client :
    ∃ r t es log, (detections textCrates plainJson "server").run
        { blocklist := {}, disk := .missing } failsForTheFirst = some (r, log) ∧
      Since PersistFailed Persisted log ∧
      (detections textCrates plainJson "server").step r (.client "phone" "duplicate" 1 (.ok ())) =
        some (t, es) ∧
      ∀ k, .detected k ∈ log ++ es → t.disk.lists plainJson k = true := by
  have hinit : (detections textCrates plainJson "server").init
      { blocklist := {}, disk := .missing } := rfl
  refine ⟨_, _, _, _, rfl, since_persistFailed [] _, rfl, ?_⟩
  have hrun : (detections textCrates plainJson "server").run { blocklist := {}, disk := .missing }
      failsForTheFirst = some (_, _) := rfl
  exact (detected_ids_listed_iff (d := .client "phone" "duplicate" 1 (.ok ())) hinit hrun rfl
    rfl).2 (.inl rfl)

/-- Two laptops tell the server of its duplicate; the file cannot be written for the first, and
could be for the second. -/
def toldTwice : List (ServerLabel String) :=
  laptopConnects 0 1 1 ++ laptopConnects 1 1 1 ++
    [.handler 0 (.selfBlock 0 (.error "disk full")), .handler 1 (.selfBlock 1 (.ok ()))]

/-- **A second detection does not make up for a failed write.** The server's own id is detected
twice, the second time with a file that can be written, and the file does not list it. -/
theorem detected_id_not_listed :
    ∃ r t log es d, (detections textCrates plainJson "server").init
        { blocklist := {}, disk := .missing } ∧
      (detections textCrates plainJson "server").run { blocklist := {}, disk := .missing }
        [.server "client laptop reported a duplicate-server pattern" 0 (.error "disk full")] =
          some (r, log) ∧
      (detections textCrates plainJson "server").step r d = some (t, es) ∧
      (d.persist textCrates plainJson "server" r).2 = .ok () ∧
      .detected (.server "server") ∈ log ++ es ∧
      t.disk.lists plainJson (.server "server") = false ∧
      ∃ s slog, (proxyServer plainServer).run plainStart toldTwice = some (s, slog) ∧
        s.shared.records = t ∧ .selfBlocked 0 ∈ slog ∧ .selfBlocked 1 ∈ slog := by
  refine ⟨_, _, _, _,
    .server "client laptop reported a duplicate-server pattern" 1 (.ok ()), rfl, rfl, rfl, rfl,
    by decide, by decide, _, _, rfl, rfl, by decide, by decide⟩

end Flextunnel.Analysis
