import Flextunnel.Model.ForwardManager

/-!
# The forwards of the iOS app

The app replaces the whole set of its forwards with one call, `flextunnel_set_forwards`. The call
checks the forwards that are switched on and hands them to the manager of the listeners, or changes
nothing and says what is wrong.

Unnamed source lines are of `ffi/lib.rs`.
-/

set_option autoImplicit false

namespace Flextunnel.Model

open Lib

/-- SOURCE: 129-136 -/
structure FfiForward where
  id : String
  localPort : UInt16
  remoteHost : String
  remotePort : UInt16
  enabled : Bool
deriving DecidableEq, Repr

/-- SOURCE: 438-442 -/
def FfiForward.spec (f : FfiForward) : ForwardSpec where
  id := f.id
  localPort := f.localPort
  target := .domain (Text.trim f.remoteHost) f.remotePort

/-- What `forwards_json` points to. -/
inductive ForwardsJson where
  | null
  | notUtf8
  | invalid (error : String)
  | array (configured : List FfiForward)
deriving DecidableEq, Repr

/-- The loop over the enabled forwards, with the ids and ports it has inserted.
SOURCE: 421-443 -/
def checkForwards (ids : List String) (ports : List UInt16) :
    List FfiForward → Except String (List ForwardSpec)
  | [] => .ok []
  | f :: rest =>
    if f.id = "" ∨ f.id ∈ ids then .error "forward ids must be non-empty and unique"
    else if f.localPort = 0 ∨ f.localPort ∈ ports then
      .error "enabled forward local ports must be nonzero and unique"
    else if Text.trim f.remoteHost = "" ∨ f.remotePort = 0 then
      .error "forward targets require a host and nonzero port"
    else (checkForwards (f.id :: ids) (f.localPort :: ports) rest).map (f.spec :: ·)

/-- What a call finds behind its handle: the manager, and whether a panic has poisoned its lock. -/
structure FfiHandle where
  manager : ForwardManager
  poisoned : Bool := false

/-- What a call leaves behind its handle, returns, and writes into the caller's buffer. -/
structure SetForwards where
  handle : Option FfiHandle
  code : Int
  text : String

/-- A call with this handle, or with a null one.
SOURCE: 393-454 -/
def setForwards : Option FfiHandle → ForwardsJson → SetForwards
  | none, _ => ⟨none, -1, "null handle or forwards_json"⟩
  | some h, .null => ⟨some h, 0, "null handle or forwards_json"⟩
  | some h, .notUtf8 => ⟨some h, 0, "forwards_json is not valid UTF-8"⟩
  | some h, .invalid e => ⟨some h, 0, s!"invalid forwards JSON: {e}"⟩
  | some h, .array configured =>
    match checkForwards [] [] (configured.filter (·.enabled)) with
    | .error text => ⟨some h, 0, text⟩
    | .ok specs =>
      if h.poisoned then ⟨some h, 0, "forward manager lock failed"⟩
      else ⟨some { h with manager := (h.manager.apply specs).1 }, 1, ""⟩

end Flextunnel.Model
