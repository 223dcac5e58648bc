import Flextunnel.Model.Server

/-!
# The tasks that serve streams

`serve_socks` spawns a task for every stream it accepts and forgets about it. `servingServer` is
the server with these tasks: an accepted stream starts one, and it ends when its stream does.
Nothing the connection's handler does ends a task, not even its return: the task holds its halves
of the stream, and dropping a handle to the connection leaves them open.
-/

set_option autoImplicit false

namespace Flextunnel.Model

open Lib

/-- A task that serves a stream, and the number of the connection the stream is on.
SOURCE: core/proxy/server.rs:773-777 -/
structure StreamTask where
  connection : Nat
  fromBridge : Bool
deriving DecidableEq, Repr

structure Serving (EndpointId Doc : Type) where
  server : Server EndpointId Doc
  tasks : List StreamTask := []

inductive ServingLabel (EndpointId : Type) where
  | server (l : ServerLabel EndpointId)
  /-- The stream of a task is done, or broken. -/
  | taskEnd (t : Nat)

/-- The tasks spawned for the streams accepted in a step.
SOURCE: core/proxy/server.rs:769-785 -/
def spawnedTasks {EndpointId : Type} (events : List (ServerEvent EndpointId)) : List StreamTask :=
  events.filterMap fun e =>
    match e with
    | .stream c fromBridge => some ⟨c, fromBridge⟩
    | _ => none

variable {EndpointId PublicKey Doc : Type} [DecidableEq EndpointId] [DecidableEq PublicKey]

def Serving.step (ctx : ServerCtx EndpointId PublicKey Doc) (s : Serving EndpointId Doc) :
    ServingLabel EndpointId → Option (Serving EndpointId Doc × List (ServerEvent EndpointId))
  | .server l =>
    (s.server.step ctx l).map fun r => (⟨r.1, s.tasks ++ spawnedTasks r.2⟩, r.2)
  | .taskEnd t =>
    if t < s.tasks.length then some ({ s with tasks := s.tasks.eraseIdx t }, []) else none

def servingServer (ctx : ServerCtx EndpointId PublicKey Doc) :
    Machine (Serving EndpointId Doc) (ServingLabel EndpointId) (ServerEvent EndpointId) where
  init s := (proxyServer ctx).init s.server ∧ s.tasks = []
  step := Serving.step ctx

end Flextunnel.Model
