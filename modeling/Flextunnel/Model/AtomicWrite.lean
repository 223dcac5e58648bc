import Flextunnel.Lib.Machine
import Flextunnel.Model.Blocklist

/-!
# How the blocklist file is written

`persistBlocklist` replaces the file at once. Here `write_atomic` is taken apart into what it asks
of the file system, with any number of calls at a time, in any number of processes: the temporary
file is created (and emptied, if a process that had the same number left it behind), written piece
by piece and renamed, and only then the call returns; a process can end between any two of these.

A number is used again once its process has ended. `SEQ` starts at 0 in each process and is a `u64`:
the model is of processes that make fewer than `2 ^ 64` calls. Nothing keeps two processes in two
containers over one directory from having one number at one time: `FreshPid` says of a start that it
is not so, and results assume it by name. Files are told apart by name only, which is enough as long
as no two calls have one temporary file.

Unnamed source lines are of `core/blocklist.rs`.
-/

set_option autoImplicit false

namespace Flextunnel.Model

open Lib

/-- The end of the temporary file's name: `.{pid}.{seq}.tmp`.
SOURCE: 173-175 -/
structure TempName where
  pid : Nat
  seq : Nat
deriving DecidableEq, Repr

/-- Where a call of `write_atomic` is. -/
inductive WriterPc where
  | creating
  | writing (written : Nat)
  | renaming
  | removing
  | returning (ok : Bool)
deriving DecidableEq, Repr

structure Writer where
  call : Nat
  process : Nat
  tmp : TempName
  json : List UInt8
  pc : WriterPc := .creating
deriving DecidableEq, Repr

/-- A process, with its `SEQ`. -/
structure Process where
  pid : Nat
  seq : Nat := 0
deriving DecidableEq, Repr

/-- The file, the temporary files beside it, the processes that run and the calls that are under
way. -/
structure BlocklistDir where
  file : Disk (List UInt8)
  temps : TempName → Option (List UInt8)
  processes : Nat → Option Process
  calls : List Writer := []
  nextCall : Nat := 0

/-- What the file system does for a call, and the return of the call. -/
inductive FileOp where
  | create
  | append (n : Nat)
  | rename
  | fail
  | remove (ok : Bool)
  | finish
deriving DecidableEq, Repr

inductive DirLabel where
  | start (p pid : Nat)
  | crash (p : Nat)
  | call (p : Nat) (json : List UInt8) (parent : Bool)
  | io (i : Nat) (op : FileOp)
deriving DecidableEq, Repr

/-- A call puts its document in place; a call returns. -/
inductive DirEvent where
  | replaced (call : Nat) (json : List UInt8)
  | returned (call : Nat) (json : List UInt8) (ok : Bool)
deriving DecidableEq, Repr

namespace BlocklistDir

def setTemp (s : BlocklistDir) (w : Writer) (contents : Option (List UInt8)) : BlocklistDir :=
  { s with temps := Function.update s.temps w.tmp contents }

def move (s : BlocklistDir) (i : Nat) (w : Writer) (pc : WriterPc) : BlocklistDir :=
  { s with calls := s.calls.set i { w with pc } }

/-- SOURCE: 165-187 -/
def io (s : BlocklistDir) (i : Nat) (w : Writer) (op : FileOp) :
    Option (BlocklistDir × List DirEvent) :=
  match w.pc, op with
  | .creating, .create => some ((s.setTemp w (some [])).move i w (.writing 0), [])
  | .writing k, .append n =>
    let contents := (s.temps w.tmp).map (· ++ (w.json.drop k).take n)
    let pc := if k + n < w.json.length then .writing (k + n) else .renaming
    some ((s.setTemp w contents).move i w pc, [])
  | .renaming, .rename =>
    (s.temps w.tmp).map fun contents =>
      ({ (s.setTemp w none).move i w (.returning true) with file := .present contents },
        [.replaced w.call w.json])
  | .removing, .remove ok =>
    -- whether the temporary file can be removed is not looked at
    some ((if ok then s.setTemp w none else s).move i w (.returning false), [])
  | .returning ok, .finish =>
    some ({ s with calls := s.calls.eraseIdx i }, [.returned w.call w.json ok])
  | .creating, .fail | .writing _, .fail | .renaming, .fail => some (s.move i w .removing, [])
  | _, _ => none

def step (s : BlocklistDir) : DirLabel → Option (BlocklistDir × List DirEvent)
  | .start p pid =>
    if s.processes p = none then
      some ({ s with processes := Function.update s.processes p (some { pid }) }, [])
    else none
  | .crash p =>
    some ({ s with
      processes := Function.update s.processes p none
      calls := s.calls.filter (·.process ≠ p) }, [])
  | .call p json parent =>
    (s.processes p).map fun x =>
      if parent then
        ({ s with
          processes := Function.update s.processes p (some { x with seq := x.seq + 1 })
          calls := s.calls ++ [{ call := s.nextCall, process := p, tmp := ⟨x.pid, x.seq⟩, json }]
          nextCall := s.nextCall + 1 }, [])
      else ({ s with nextCall := s.nextCall + 1 }, [.returned s.nextCall json false])
  | .io i op => s.calls[i]?.bind fun w => s.io i w op

end BlocklistDir

/-- A process gets a number that no running one has. -/
def FreshPid (s : BlocklistDir) : DirLabel → Prop
  | .start _ pid => ∀ p, ∀ x ∈ s.processes p, x.pid ≠ pid
  | _ => True

/-- The runs start before the first process, over any file, and among temporary files that are
left. -/
def blocklistDir : Machine BlocklistDir DirLabel DirEvent where
  init s := (∀ p, s.processes p = none) ∧ s.calls = []
  step := BlocklistDir.step

end Flextunnel.Model
