import Flextunnel.Lib.Machine
import Flextunnel.Model.Startup

/-!
# Server processes that share the blocklist file

Every server of a user loads the one blocklist file when it starts and rewrites it as a
whole when it blocks a client or itself. The machine interleaves any number of such
processes: a start is the load of `prepare`, and each block runs under the process's own
lock, so it is one step.

A process also remembers whether it is `current`: no other process has put its own id
into the file since this one read it. No branch of the program reads this; it is what
`Analysis.SelfBlockDurability` is stated with.
-/

set_option autoImplicit false

namespace Flextunnel.Model

open Lib

structure ServerProcess (EndpointId : Type) where
  ownId : EndpointId
  blocklist : BlockList
  current : Bool := true

structure SharedBlocklist (EndpointId Doc : Type) where
  disk : Disk Doc
  processes : List (ServerProcess EndpointId) := []

inductive SharedEvent (EndpointId : Type) where
  /-- A process wrote the file with its own id recorded as conflicted. -/
  | conflictPersisted (ownId : EndpointId)
deriving DecidableEq

inductive SharedLabel (EndpointId : Type) where
  | start (secretKey : List UInt8)
  | blockClient (p : Nat) (id : EndpointId) (reason : String) (nowMs : Nat)
      (write : Except String Unit)
  | selfBlock (p : Nat) (reason : String) (nowMs : Nat) (write : Except String Unit)

section

variable {EndpointId PublicKey Doc : Type} (crates : Crates EndpointId PublicKey)
  (json : BlocklistJson Doc)

/-- The list a block leaves in memory, and whether it is to be persisted.
SOURCE: core/proxy/server.rs:388-424 -/
def blocked (x : ServerProcess EndpointId) : SharedLabel EndpointId → BlockList × Bool
  | .blockClient _ id reason nowMs _ =>
    x.blocklist.addBlockedClient (crates.endpointIdText id) reason nowMs
  | .selfBlock _ reason nowMs _ =>
    x.blocklist.addConflictedServer (crates.endpointIdText x.ownId) reason nowMs
  | .start _ => (x.blocklist, false)

def Disk.conflicted (disk : Disk Doc) (id : String) : Bool :=
  match BlockList.load json disk with
  | .ok bl => bl.isServerConflicted id
  | .error _ => false

/-- Process `p` holds `bl` in memory and persists it: the file is replaced if the write
succeeds. If that puts the writer's own id into the file, every other process's view is
out of date.
SOURCE: core/proxy/server.rs:388-424, 852-855 -/
def SharedBlocklist.persist (s : SharedBlocklist EndpointId Doc) (p : Nat)
    (x : ServerProcess EndpointId) (bl : BlockList) (write : Except String Unit) :
    SharedBlocklist EndpointId Doc × List (SharedEvent EndpointId) :=
  let own := crates.endpointIdText x.ownId
  match persistBlocklist json bl s.disk write with
  | (disk, .ok ()) =>
    let news := bl.isServerConflicted own && !s.disk.conflicted json own
    let others := if news then s.processes.map fun y => { y with current := false }
      else s.processes
    ({ disk, processes := others.set p { x with blocklist := bl } },
      if bl.isServerConflicted own then [.conflictPersisted x.ownId] else [])
  | (disk, .error _) =>
    ({ disk, processes := s.processes.set p { x with blocklist := bl } }, [])

def SharedBlocklist.block (s : SharedBlocklist EndpointId Doc) (p : Nat)
    (write : Except String Unit) (l : SharedLabel EndpointId) :
    Option (SharedBlocklist EndpointId Doc × List (SharedEvent EndpointId)) :=
  match s.processes[p]? with
  | none => none
  | some x =>
    match blocked crates x l with
    | (bl, true) => some (s.persist crates json p x bl write)
    | (_, false) => some (s, [])

/-- SOURCE: core/server.rs:170-179,
core/proxy/server.rs:388-424 -/
def SharedBlocklist.step (s : SharedBlocklist EndpointId Doc) (l : SharedLabel EndpointId) :
    Option (SharedBlocklist EndpointId Doc × List (SharedEvent EndpointId)) :=
  match l with
  | .start secretKey =>
    let ownId := crates.secretToEndpointId secretKey
    match loadBlocklist crates json s.disk ownId with
    | .ok blocklist => some ({ s with processes := s.processes ++ [{ ownId, blocklist }] }, [])
    | .error _ => none
  | .blockClient p _ _ _ write => s.block crates json p write l
  | .selfBlock p _ _ write => s.block crates json p write l

def sharedBlocklist :
    Machine (SharedBlocklist EndpointId Doc) (SharedLabel EndpointId) (SharedEvent EndpointId) where
  init s := s.processes = []
  step := SharedBlocklist.step crates json

end

end Flextunnel.Model
