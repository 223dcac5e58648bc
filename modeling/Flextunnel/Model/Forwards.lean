import Flextunnel.Lib.Basic
import Flextunnel.Model.Address

/-!
# Port forwards

The port forwards both clients store with a profile, the rules their forms apply to what a
user types, and what a failed listener does to the switch of its forward. `enabled` is
the one field of a forward that is not part of the stored document.

Unnamed source lines are of `core/forwards.rs`.
-/

set_option autoImplicit false

namespace Flextunnel.Model

open Lib

/-- SOURCE: 16-26 -/
structure PortForward where
  id : String
  label : String
  localPort : UInt16
  remoteHost : String
  remotePort : UInt16
  enabled : Bool
deriving DecidableEq, Repr

/-- SOURCE: 95-101 -/
def formatHostPort (host : String) (port : UInt16) : String :=
  if Text.containsChar ':' host then "[" ++ host ++ "]:" ++ toString port.toNat
  else host ++ ":" ++ toString port.toNat

namespace PortForward

/-- What is left of a forward in a stored document.
SOURCE: 23-25 -/
def persisted (f : PortForward) : PortForward := { f with enabled := false }

/-- SOURCE: 46-48 -/
def remoteEndpoint (f : PortForward) : String := formatHostPort f.remoteHost f.remotePort

/-- SOURCE: 33-40 -/
def displayName (f : PortForward) : String :=
  let label := Text.trim f.label
  if label = "" then f.remoteEndpoint else label

end PortForward

/-! ## The rules for what a user types -/

/-- SOURCE: 104 -/
def maxLabelLen : Nat := 64

/-- SOURCE: 107-113 -/
def validateLabel (input : String) : Except String String :=
  let label := Text.trim input
  if label.length > maxLabelLen then .error s!"Label must be {maxLabelLen} characters or fewer"
  else .ok label

/-- SOURCE: 115-122 -/
def parsePort (input what : String) : Except String UInt16 :=
  match Text.parseUnsigned 65536 (Text.trim input) with
  | some p => if p ≠ 0 then .ok (UInt16.ofNat p) else .error s!"{what} must be 1-65535"
  | none => .error s!"{what} must be 1-65535"

/-- The checks on one label of a host name.
SOURCE: 145-164 -/
def validateHostLabel (label : String) : Except String Unit :=
  if label = "" then .error "Remote host has an empty label — check the dots"
  else if Text.byteLen label > 63 then
    .error "Remote host has a label longer than 63 characters"
  else if label.toList.head? = some '-' ∨ label.toList.getLast? = some '-' then
    .error "Remote host labels can't start or end with a hyphen"
  else if !label.toList.all fun c => c.isAlphanum || c == '-' || c == '_' then
    .error "Remote host may only contain letters, digits, dots, hyphens and underscores"
  else .ok ()

/-- SOURCE: 129-166 -/
def validateRemoteHost (input : String) : Except String String :=
  let host := Text.trim input
  if host = "" then .error "Remote host is required"
  else
    let bare := ((Text.stripPrefix "[" host).bind (Text.stripSuffix "]")).getD host
    if (IpAddr.parse bare).isSome then .ok bare
    else if Text.byteLen host > 253 then
      .error "Remote host is too long (253 characters max)"
    else do
      (Text.splitChar '.' host).forM validateHostLabel
      return host

/-! ## Failed listeners -/

/-- SOURCE: core/proxy/forward.rs:35-39 -/
inductive ForwardState where
  | starting
  | listening
  | failed (reason : String)
deriving DecidableEq, Repr

/-- SOURCE: core/proxy/forward.rs:43-48 -/
structure ForwardStatus where
  id : String
  state : ForwardState
deriving DecidableEq, Repr

/-- Switch off the forward one status calls failed, if it is on.
SOURCE: 180-187 -/
def disableFailed (forwards : List PortForward) (status : ForwardStatus) :
    List PortForward × List (String × String) :=
  match status.state with
  | .failed reason =>
    match forwards.findIdx? fun f => f.id == status.id && f.enabled with
    | some i => (forwards.modify i fun f => { f with enabled := false }, [(status.id, reason)])
    | none => (forwards, [])
  | _ => (forwards, [])

/-- The forwards with every failed one switched off, and the reasons by id.
SOURCE: 174-190 -/
def disableFailedForwards (forwards : List PortForward) (statuses : List ForwardStatus) :
    List PortForward × List (String × String) :=
  statuses.foldl
    (fun (fs, disabled) status =>
      let r := disableFailed fs status
      (r.1, disabled ++ r.2))
    (forwards, [])

theorem disableFailedForwards_cons (forwards : List PortForward) (status : ForwardStatus)
    (statuses : List ForwardStatus) :
    disableFailedForwards forwards (status :: statuses) =
      ((disableFailedForwards (disableFailed forwards status).1 statuses).1,
        (disableFailed forwards status).2 ++
          (disableFailedForwards (disableFailed forwards status).1 statuses).2) := by
  have hfold : ∀ fs ss, disableFailedForwards fs ss =
      ss.foldl (fun acc s => ((disableFailed acc.1 s).1, acc.2 ++ (disableFailed acc.1 s).2))
        (fs, []) := fun _ _ => rfl
  -- the reasons found so far stay in front
  have hacc : ∀ (ss : List ForwardStatus) (fs : List PortForward) (found : List (String × String)),
      ss.foldl (fun acc s => ((disableFailed acc.1 s).1, acc.2 ++ (disableFailed acc.1 s).2))
          (fs, found) =
        ((disableFailedForwards fs ss).1, found ++ (disableFailedForwards fs ss).2) := by
    intro ss
    induction ss with
    | nil => exact fun fs found => by simp [disableFailedForwards]
    | cons s ss ih =>
      intro fs found
      rw [hfold, List.foldl_cons, List.foldl_cons, ih, ih, List.nil_append, List.append_assoc]
  rw [hfold, List.foldl_cons, hacc, List.nil_append]

def PortForward.off (f : PortForward) : PortForward := { f with enabled := false }

theorem map_off_modify {g : PortForward → PortForward} (hg : ∀ f, (g f).off = f.off)
    (forwards : List PortForward) (i : Nat) :
    (forwards.modify i g).map PortForward.off = forwards.map PortForward.off := by
  apply List.ext_getElem?
  intro j
  simp only [List.getElem?_map, List.getElem?_modify]
  cases forwards[j]? with
  | none => rfl
  | some f =>
    split
    · exact congrArg some (hg f)
    · rfl

theorem map_off_disableFailedForwards (forwards : List PortForward)
    (statuses : List ForwardStatus) :
    (disableFailedForwards forwards statuses).1.map PortForward.off =
      forwards.map PortForward.off := by
  have hone : ∀ fs status, (disableFailed fs status).1.map PortForward.off =
      fs.map PortForward.off := by
    intro fs status
    unfold disableFailed
    split
    · split
      · exact map_off_modify (g := fun f => { f with enabled := false }) (fun _ => rfl) fs _
      · rfl
    · rfl
  induction statuses generalizing forwards with
  | nil => rfl
  | cons status statuses ih =>
    rw [disableFailedForwards_cons]
    exact (ih _).trans (hone forwards status)

end Flextunnel.Model
