import Mathlib.Data.List.Basic

/-!
# The duplicate-id blocklist

The in-memory list, the file it is loaded from and the write that replaces the file. A
write puts a sibling file in place by a rename, so it either succeeds as a whole or
leaves the old contents; which of the two is not the program's choice and is an argument
here.

The contents of the file are a document `serde_json` produced: `BlocklistJson` holds the
encoder and the decoder, with the one fact about them a restart rests on, that a written
document is read back. The list's path only names the file in texts; there is one file.

Unnamed source lines are of `core/blocklist.rs`.
-/

set_option autoImplicit false

namespace Flextunnel.Model

/-- SOURCE: 29-36 -/
structure BlockEntry where
  id : String
  reason : String
  detectedAtMs : Nat
deriving DecidableEq, Repr

/-- SOURCE: 41-51 -/
structure BlockList where
  blockedClients : List BlockEntry := []
  conflictedServerIds : List BlockEntry := []
deriving DecidableEq, Repr

namespace BlockList

/-- SOURCE: 111-113 -/
def isClientBlocked (bl : BlockList) (id : String) : Bool :=
  bl.blockedClients.any fun e => e.id == id

/-- SOURCE: 116-118 -/
def isServerConflicted (bl : BlockList) (id : String) : Bool :=
  bl.conflictedServerIds.any fun e => e.id == id

/-- The list with the client added, and whether it is new.
SOURCE: 122-132 -/
def addBlockedClient (bl : BlockList) (id reason : String) (nowMs : Nat) : BlockList × Bool :=
  if bl.isClientBlocked id then (bl, false)
  else ({ bl with blockedClients :=
    bl.blockedClients ++ [{ id, reason, detectedAtMs := nowMs }] }, true)

/-- The list with the server added, and whether it is new.
SOURCE: 135-145 -/
def addConflictedServer (bl : BlockList) (id reason : String) (nowMs : Nat) : BlockList × Bool :=
  if bl.isServerConflicted id then (bl, false)
  else ({ bl with conflictedServerIds :=
    bl.conflictedServerIds ++ [{ id, reason, detectedAtMs := nowMs }] }, true)

variable {bl : BlockList} {id id' reason : String} {nowMs : Nat}

@[simp] theorem isClientBlocked_addBlockedClient :
    (bl.addBlockedClient id reason nowMs).1.isClientBlocked id' =
      (bl.isClientBlocked id' || id == id') := by
  unfold addBlockedClient
  split
  next h =>
    by_cases hid : id = id'
    · subst hid
      simp [h]
    · simp [hid]
  · simp [isClientBlocked, List.any_append]

@[simp] theorem isServerConflicted_addBlockedClient :
    (bl.addBlockedClient id reason nowMs).1.isServerConflicted id' = bl.isServerConflicted id' := by
  unfold addBlockedClient
  split <;> rfl

@[simp] theorem isServerConflicted_addConflictedServer :
    (bl.addConflictedServer id reason nowMs).1.isServerConflicted id' =
      (bl.isServerConflicted id' || id == id') := by
  unfold addConflictedServer
  split
  next h =>
    by_cases hid : id = id'
    · subst hid
      simp [h]
    · simp [hid]
  · simp [isServerConflicted, List.any_append]

@[simp] theorem isClientBlocked_addConflictedServer :
    (bl.addConflictedServer id reason nowMs).1.isClientBlocked id' = bl.isClientBlocked id' := by
  unfold addConflictedServer
  split <;> rfl

end BlockList

/-! ## The file -/

structure BlocklistJson (Doc : Type) where
  toJson : BlockList → Except String Doc
  fromJson : Doc → Except String BlockList
  fromJson_toJson : ∀ bl doc, toJson bl = .ok doc → fromJson doc = .ok bl

inductive Disk (Doc : Type) where
  | missing
  | unreadable (error : String)
  | present (doc : Doc)

/-- What `BlockList::load` fails with. -/
inductive LoadError where
  | parse (error : String)
  | read (error : String)
deriving DecidableEq, Repr

/-- SOURCE: 75-92 -/
def BlockList.load {Doc : Type} (json : BlocklistJson Doc) : Disk Doc → Except LoadError BlockList
  | .missing => .ok {}
  | .unreadable e => .error (.read e)
  | .present doc =>
    match json.fromJson doc with
    | .ok bl => .ok bl
    | .error e => .error (.parse e)

/-- The file after a persist, and whether it succeeded; `write` is what the atomic write
returned.
SOURCE: core/proxy/server.rs:852-855 -/
def persistBlocklist {Doc : Type} (json : BlocklistJson Doc) (bl : BlockList) (disk : Disk Doc)
    (write : Except String Unit) : Disk Doc × Except String Unit :=
  match json.toJson bl, write with
  | .ok doc, .ok () => (.present doc, .ok ())
  | .ok _, .error e => (disk, .error e)
  | .error e, _ => (disk, .error e)

theorem load_persistBlocklist {Doc : Type} {json : BlocklistJson Doc} {bl : BlockList}
    {disk disk' : Disk Doc} {write : Except String Unit}
    (h : persistBlocklist json bl disk write = (disk', .ok ())) :
    BlockList.load json disk' = .ok bl := by
  unfold persistBlocklist at h
  split at h
  next doc hdoc =>
    cases h
    simp [BlockList.load, json.fromJson_toJson bl doc hdoc]
  · cases (Prod.mk.inj h).2
  · cases (Prod.mk.inj h).2

theorem persistBlocklist_error {Doc : Type} {json : BlocklistJson Doc} {bl : BlockList}
    {disk disk' : Disk Doc} {write : Except String Unit} {e : String}
    (h : persistBlocklist json bl disk write = (disk', .error e)) : disk' = disk := by
  unfold persistBlocklist at h
  split at h
  · cases (Prod.mk.inj h).2
  · exact (Prod.mk.inj h).1.symm
  · exact (Prod.mk.inj h).1.symm

end Flextunnel.Model
