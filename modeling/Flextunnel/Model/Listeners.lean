import Flextunnel.Lib.Machine
import Flextunnel.Model.ForwardManager

/-!
# The tasks behind a port forward

A forward has a task of its own (`run_forward`), and that one has a task for each loopback stack
(`run_stack`), which binds the port there, accepts, and binds again when its listener is dead.
What the two stacks report is folded into the state of the forward, and a tick of the session
switches forwards off by that state.

The machine runs the tasks of all forwards a manager has started, side by side. To abort a task
is only to ask for it: until the runtime drops the task it keeps what it holds and may go on, and
the tasks of its stacks are not asked before it is dropped. An address is bound by one listener
at a time. What a wait is for and how long it takes is not seen; relays are left out, and so are
the counts a status shows.

Unnamed source lines are of `core/proxy/forward.rs`.
-/

set_option autoImplicit false

namespace Flextunnel.Model

open Lib

/-! ## Failed binds and accepts -/

inductive ListenErrorKind where
  | addrInUse
  | connectionAborted
  | connectionReset
  | interrupted
  | other
deriving DecidableEq, Repr

/-- What is seen of an `io::Error`: its kind, whether its code says that there are no more file
descriptors, and its text. -/
structure ListenError where
  kind : ListenErrorKind
  noDescriptors : Bool
  text : String
deriving DecidableEq, Repr

/-- SOURCE: core/proxy/client.rs:1242-1258 -/
inductive AcceptFailure where
  | resourcePressure
  | aborted
  | broken
deriving DecidableEq, Repr

/-- SOURCE: core/proxy/client.rs:1260-1278 -/
def classifyAcceptError (e : ListenError) : AcceptFailure :=
  if e.noDescriptors then .resourcePressure
  else
    match e.kind with
    | .connectionAborted | .connectionReset | .interrupted => .aborted
    | _ => .broken

/-- SOURCE: core/proxy/client.rs:134 -/
def rebindAfterConsecutiveAborts : Nat := 4

/-- SOURCE: core/proxy/client.rs:1295-1300 -/
inductive AcceptOutcome where
  | rebind
  | retry
deriving DecidableEq, Repr

/-- SOURCE: core/proxy/client.rs:1308-1312 -/
structure AcceptRetry where
  consecutiveFailures : Nat := 0
  consecutiveAborts : Nat := 0
deriving DecidableEq, Repr

namespace AcceptRetry

/-- SOURCE: core/proxy/client.rs:1324-1334, 1353-1356 -/
def reset : AcceptRetry := {}

/-- SOURCE: core/proxy/client.rs:1337-1350 -/
def recordError (retry : AcceptRetry) (e : ListenError) : AcceptRetry × AcceptOutcome :=
  let failure := classifyAcceptError e
  let aborts := if failure = .aborted then retry.consecutiveAborts + 1 else 0
  ({ retry with consecutiveAborts := aborts },
    if failure = .broken ∨ rebindAfterConsecutiveAborts ≤ aborts then .rebind else .retry)

/-- SOURCE: core/proxy/client.rs:1359-1371 -/
def waitRetry (retry : AcceptRetry) : AcceptRetry :=
  { retry with consecutiveFailures := retry.consecutiveFailures + 1 }

end AcceptRetry

/-! ## The state of a forward -/

/-- SOURCE: 50-51 -/
inductive Stack where
  | v4
  | v6
deriving DecidableEq, Repr

namespace Stack

def other : Stack → Stack
  | .v4 => .v6
  | .v6 => .v4

/-- SOURCE: 361 -/
def label : Stack → String
  | .v4 => "IPv4"
  | .v6 => "IPv6"

theorem eq_or_eq_other (k j : Stack) : j = k ∨ j = k.other := by
  cases k <;> cases j <;> simp [other]

@[simp] theorem other_other (k : Stack) : k.other.other = k := by cases k <;> rfl

end Stack

structure PerStack (α : Type) where
  v4 : α
  v6 : α
deriving DecidableEq, Repr

namespace PerStack

variable {α : Type}

def get (p : PerStack α) : Stack → α
  | .v4 => p.v4
  | .v6 => p.v6

def set (p : PerStack α) (k : Stack) (a : α) : PerStack α :=
  match k with
  | .v4 => { p with v4 := a }
  | .v6 => { p with v6 := a }

@[simp] theorem get_set_self (p : PerStack α) (k : Stack) (a : α) : (p.set k a).get k = a := by
  cases k <;> rfl

@[simp] theorem get_set_other (p : PerStack α) (k : Stack) (a : α) :
    (p.set k a).get k.other = p.get k.other := by
  cases k <;> rfl

end PerStack

/-- How one stack stands: bound, or down with an error, or neither yet.
SOURCE: 55-58 -/
structure StackHealth where
  up : Bool
  error : Option (ListenErrorKind × String)
  clean : up = true → error = none
deriving DecidableEq, Repr

namespace StackHealth

def unresolved : StackHealth := ⟨false, none, by simp⟩

/-- SOURCE: 61-66 -/
def isUp : StackHealth := ⟨true, none, by simp⟩

/-- SOURCE: 68-73 -/
def down (e : ListenError) : StackHealth := ⟨false, some (e.kind, e.text), by simp⟩

end StackHealth

/-- The state of a forward by its two stacks.
SOURCE: 101-116 -/
def foldStacks (port : UInt16) (health : PerStack StackHealth) : ForwardState :=
  if health.v4.up || health.v6.up then .listening
  else
    match health.v4.error, health.v6.error with
    | some (kind, text), some (kind', _) =>
      if kind = .addrInUse ∨ kind' = .addrInUse then .failed s!"port {port.toNat} is in use"
      else .failed text
    | _, _ => .starting

/-- What a forward's tasks share. The state is always the one of the two stacks.
SOURCE: 76-82 -/
structure ForwardShared where
  port : UInt16
  health : PerStack StackHealth
  state : ForwardState
  folded : state = foldStacks port health
deriving DecidableEq, Repr

namespace ForwardShared

/-- SOURCE: 85-93 -/
def new (port : UInt16) : ForwardShared where
  port
  health := ⟨.unresolved, .unresolved⟩
  state := .starting
  folded := rfl

/-- SOURCE: 98-117 -/
def setStack (shared : ForwardShared) (k : Stack) (health : StackHealth) : ForwardShared where
  port := shared.port
  health := shared.health.set k health
  state := foldStacks shared.port (shared.health.set k health)
  folded := rfl

end ForwardShared

/-! ## The task of a stack -/

/-- Where `run_stack` stands: about to bind, waiting after a failed bind, in `accept`, handing an
accepted connection on, waiting after a failed accept, or over. A task that is over has the text
its join gives, until the forward's task has seen it. -/
inductive StackPc where
  | binding (attempt : Nat)
  | waiting (attempt : Nat)
  | accepting
  | handing
  | backingOff
  | over (detail : String)
  | reaped
deriving DecidableEq, Repr

namespace StackPc

def holds : StackPc → Bool
  | .accepting | .handing | .backingOff => true
  | _ => false

def unbound : StackPc → Bool
  | .binding _ | .waiting _ => true
  | _ => false

end StackPc

structure StackTask where
  pc : StackPc := .binding 0
  retry : AcceptRetry := {}
  aborted : Bool := false
deriving DecidableEq, Repr

inductive StackMove where
  | binds (result : Except ListenError Unit)
  | wakes
  | accepts (result : Except ListenError Unit)
  | hands (received : Bool)
  | panics (detail : String)
  | cancelled
deriving DecidableEq

/-- A move of `run_stack`, and the health it records.
SOURCE: 263-307 -/
def StackTask.step (task : StackTask) : StackMove → Option (StackTask × Option StackHealth)
  | .binds result =>
    match task.pc, result with
    | .binding _, .ok _ => some ({ task with pc := .accepting, retry := .reset }, some .isUp)
    | .binding attempt, .error e => some ({ task with pc := .waiting attempt }, some (.down e))
    | _, _ => none
  | .wakes =>
    match task.pc with
    | .waiting attempt => some ({ task with pc := .binding (attempt + 1) }, none)
    | .backingOff => some ({ task with pc := .accepting }, none)
    | _ => none
  | .accepts result =>
    match task.pc, result with
    | .accepting, .ok _ => some ({ task with pc := .handing, retry := .reset }, none)
    | .accepting, .error e =>
      match task.retry.recordError e with
      | (retry, .rebind) => some ({ task with pc := .binding 0, retry }, some (.down e))
      | (retry, .retry) => some ({ task with pc := .backingOff, retry := retry.waitRetry }, none)
    | _, _ => none
  | .hands received =>
    match task.pc with
    | .handing =>
      some ({ task with pc := if received then .accepting else .over "ended unexpectedly" }, none)
    | _ => none
  | .panics detail =>
    if task.pc.holds || task.pc.unbound then
      some ({ task with pc := .over ("failed: " ++ detail) }, none)
    else none
  | .cancelled =>
    if task.aborted then some ({ task with pc := .reaped }, none) else none

/-! ## The task of a forward -/

inductive RunPhase where
  | created
  | running
  | over
deriving DecidableEq, Repr

structure ForwardRun where
  task : ForwardTask
  aborted : Bool
  phase : RunPhase
  tasks : PerStack StackTask
  shared : ForwardShared
deriving DecidableEq, Repr

/-- A task as `apply` starts it.
SOURCE: 184-197 -/
def ForwardRun.start (task : ForwardTask) : ForwardRun where
  task
  aborted := false
  phase := .created
  tasks := ⟨{}, {}⟩
  shared := .new task.spec.localPort

/-- What can happen to the task of a forward: it starts its stacks, the runtime drops it, it sees
that a stack's task is over, it returns, or a stack's task moves. -/
inductive RunMove where
  | starts
  | dropped
  | reaps (k : Stack)
  | returns
  | stack (k : Stack) (move : StackMove)
deriving DecidableEq

def RunMove.acquires : RunMove → Option Stack
  | .stack k (.binds (.ok _)) => some k
  | _ => none

/-- What the supervision of the stacks records.
SOURCE: 356-366 -/
def listenerTaskError (k : Stack) (detail : String) : ListenError where
  kind := .other
  noDescriptors := false
  text := k.label ++ " listener task " ++ detail

namespace ForwardRun

def abortStacks (run : ForwardRun) : ForwardRun :=
  { run with
    phase := .over
    tasks := ⟨{ run.tasks.v4 with aborted := true }, { run.tasks.v6 with aborted := true }⟩ }

def neverStarted (run : ForwardRun) : ForwardRun :=
  { run with phase := .over, tasks := ⟨{ pc := .reaped }, { pc := .reaped }⟩ }

/-- The run after a move, and the health that was recorded with it. A connection is handed to a
forward's task in vain only when that one is gone.
SOURCE: 310-369 -/
def move (run : ForwardRun) : RunMove → Option (ForwardRun × Option (Stack × StackHealth))
  | .starts =>
    if run.phase = .created then some ({ run with phase := .running }, none) else none
  | .dropped =>
    if run.aborted then
      match run.phase with
      | .created => some (run.neverStarted, none)
      | .running => some (run.abortStacks, none)
      | .over => none
    else none
  | .reaps k =>
    match run.phase, (run.tasks.get k).pc with
    | .running, .over detail =>
      some ({ run with tasks := run.tasks.set k { run.tasks.get k with pc := .reaped } },
        some (k, .down (listenerTaskError k detail)))
    | _, _ => none
  | .returns =>
    let gone (pc : StackPc) : Bool := !pc.holds && !pc.unbound
    if run.phase = .running ∧ gone run.tasks.v4.pc ∧ gone run.tasks.v6.pc then
      some (run.abortStacks, none)
    else none
  | .stack k move =>
    if run.phase = .created ∨ run.phase = .running ∧ move = .hands false then none
    else
      ((run.tasks.get k).step move).map fun out =>
        ({ run with tasks := run.tasks.set k out.1 }, out.2.map fun health => (k, health))

/-- The run with the health that a move recorded, and the state that the forward then has. -/
def record (run : ForwardRun) : Option (Stack × StackHealth) → ForwardRun × Option ForwardState
  | none => (run, none)
  | some (k, health) =>
    let shared := run.shared.setStack k health
    ({ run with shared }, some shared.state)

def holds (run : ForwardRun) (k : Stack) : Bool := (run.tasks.get k).pc.holds

def givesUp (run : ForwardRun) : RunMove → Option Stack
  | .reaps k => some k
  | .stack k (.accepts (.error e)) =>
    if ((run.tasks.get k).retry.recordError e).2 = .rebind then some k else none
  | _ => none

end ForwardRun

/-! ## All tasks of a manager -/

structure Listeners where
  forwards : List PortForward
  manager : ForwardManager
  runs : List ForwardRun

namespace Listeners

def held (s : Listeners) (k : Stack) (port : UInt16) : Bool :=
  s.runs.any fun run => run.holds k && run.task.spec.localPort == port

def stateOf (s : Listeners) (task : ForwardTask) : ForwardState :=
  ((s.runs.find? fun run => run.task == task).map fun run => run.shared.state).getD .starting

/-- SOURCE: 201-211 -/
def statuses (s : Listeners) : List ForwardStatus :=
  s.manager.tasks.map fun task => ⟨task.spec.id, s.stateOf task⟩

/-- The tasks of a manager after `apply`, with those it aborted and those it started.
SOURCE: 170-199 -/
def apply (s : Listeners) (specs : List ForwardSpec) : Listeners :=
  let applied := s.manager.apply specs
  { s with
    manager := applied.1
    runs :=
      (s.runs.map fun run => { run with aborted := run.aborted || applied.2.contains run.task }) ++
        (s.manager.started specs).map ForwardRun.start }

end Listeners

/-- What happens to the listeners: the manager is given a list, the session's tick comes, or a
task moves. -/
inductive ListenerLabel where
  | apply (specs : List ForwardSpec)
  | tick
  | run (i : Nat) (move : RunMove)
deriving DecidableEq

inductive ListenerEvent where
  | reported (task : ForwardTask) (state : ForwardState)
  | switchedOff (task : ForwardTask)
deriving DecidableEq, Repr

namespace Listeners

/-- The forwards after a tick, and the tasks whose forwards were switched off.
SOURCE: cli/client_session.rs:339-349 -/
def tick (s : Listeners) : Listeners × List ListenerEvent :=
  let off := disableFailedForwards s.forwards s.statuses
  if off.2 = [] then (s, [])
  else
    ({ s.apply (enabledSpecs off.1) with forwards := off.1 },
      (s.manager.tasks.filter fun task => off.2.any fun e => e.1 == task.spec.id).map .switchedOff)

def step (s : Listeners) : ListenerLabel → Option (Listeners × List ListenerEvent)
  | .apply specs => some (s.apply specs, [])
  | .tick => some s.tick
  | .run i move =>
    (s.runs[i]?).bind fun run =>
      if move.acquires.any fun k => s.held k run.task.spec.localPort then none
      else
        (run.move move).map fun out =>
          let recorded := out.1.record out.2
          ({ s with runs := s.runs.set i recorded.1 }, (recorded.2.map (.reported run.task)).toList)

end Listeners

def listeners : Machine Listeners ListenerLabel ListenerEvent where
  init s := s.manager = .empty ∧ s.runs = []
  step := Listeners.step

/-! ## What a step can do -/

/-- A move of a forward's task or of one of its stacks: nothing is recorded, and no listener comes
up or bind loop is entered; or a stack binds, fails to bind, or is given up. -/
inductive RunStep (run : ForwardRun) :
    RunMove → ForwardRun → Option (Stack × StackHealth) → Prop
  | quiet (move : RunMove) (phase : RunPhase) {tasks : PerStack StackTask}
      (hholds : ∀ k, (tasks.get k).pc.holds → (run.tasks.get k).pc.holds)
      (hunbound : ∀ k, (tasks.get k).pc.unbound → (run.tasks.get k).pc.unbound) :
      RunStep run move { run with phase, tasks } none
  | bound {k : Stack} {attempt : Nat} {task : StackTask}
      (hpc : (run.tasks.get k).pc = .binding attempt) (htask : task.pc = .accepting) :
      RunStep run (.stack k (.binds (.ok ()))) { run with tasks := run.tasks.set k task }
        (some (k, .isUp))
  | refused {k : Stack} {e : ListenError} {attempt : Nat} {task : StackTask}
      (hpc : (run.tasks.get k).pc = .binding attempt) (htask : task.pc = .waiting attempt) :
      RunStep run (.stack k (.binds (.error e))) { run with tasks := run.tasks.set k task }
        (some (k, .down e))
  | givenUp {move : RunMove} {k : Stack} {task : StackTask} (e : ListenError)
      (hgives : run.givesUp move = some k) (htask : task.pc.holds = false) :
      RunStep run move { run with tasks := run.tasks.set k task } (some (k, .down e))

theorem RunStep.quiet_set {run : ForwardRun} (move : RunMove) {k : Stack} {task : StackTask}
    (hholds : task.pc.holds → (run.tasks.get k).pc.holds)
    (hunbound : task.pc.unbound → (run.tasks.get k).pc.unbound) :
    RunStep run move { run with tasks := run.tasks.set k task } none := by
  refine .quiet move run.phase (fun j => ?_) (fun j => ?_)
  all_goals
    rcases Stack.eq_or_eq_other k j with rfl | rfl
    · simpa
    · simp

/-- Every move of a stack is one of these. -/
theorem RunStep.of_stack {run : ForwardRun} {k : Stack} {move : StackMove} {task : StackTask}
    {recorded : Option StackHealth} (h : (run.tasks.get k).step move = some (task, recorded)) :
    RunStep run (.stack k move) { run with tasks := run.tasks.set k task }
      (recorded.map fun health => (k, health)) := by
  cases move with
  | binds result =>
    simp only [StackTask.step] at h
    split at h <;> cases h
    next hpc => exact .bound hpc rfl
    next hpc => exact .refused hpc rfl
  | wakes =>
    simp only [StackTask.step] at h
    split at h <;> cases h
    next hpc => exact .quiet_set _ (by simp [StackPc.holds]) (by simp [hpc, StackPc.unbound])
    next hpc => exact .quiet_set _ (by simp [hpc, StackPc.holds]) (by simp [StackPc.unbound])
  | accepts result =>
    simp only [StackTask.step] at h
    split at h
    next hpc =>
      cases h
      exact .quiet_set _ (by simp [hpc, StackPc.holds]) (by simp [StackPc.unbound])
    next e hpc =>
      split at h <;> cases h
      next retry hrebind => exact .givenUp e (by simp [ForwardRun.givesUp, hrebind]) rfl
      · exact .quiet_set _ (by simp [hpc, StackPc.holds]) (by simp [StackPc.unbound])
    · cases h
  | hands received =>
    simp only [StackTask.step] at h
    split at h <;> cases h
    next hpc =>
      refine .quiet_set _ (by simp [hpc, StackPc.holds]) ?_
      cases received <;> simp [StackPc.unbound]
  | panics detail | cancelled =>
    obtain ⟨-, ⟨⟩⟩ := Option.ite_none_right_eq_some.1 h
    exact .quiet_set _ (by simp [StackPc.holds]) (by simp [StackPc.unbound])

/-- Every move of a forward's task is one of these. -/
theorem RunStep.of_move {run run' : ForwardRun} {move : RunMove}
    {recorded : Option (Stack × StackHealth)} (h : run.move move = some (run', recorded)) :
    RunStep run move run' recorded := by
  have habort : RunStep run move run.abortStacks none :=
    .quiet move .over (fun k => by cases k <;> exact id) (fun k => by cases k <;> exact id)
  have hnever : RunStep run move run.neverStarted none :=
    .quiet move .over (fun k hk => by cases k <;> cases hk) (fun k hk => by cases k <;> cases hk)
  cases move with
  | starts =>
    obtain ⟨-, ⟨⟩⟩ := Option.ite_none_right_eq_some.1 h
    exact .quiet _ .running (fun _ => id) (fun _ => id)
  | dropped =>
    obtain ⟨-, heq⟩ := Option.ite_none_right_eq_some.1 h
    split at heq <;> cases heq
    · exact hnever
    · exact habort
  | returns =>
    obtain ⟨-, ⟨⟩⟩ := Option.ite_none_right_eq_some.1 h
    exact habort
  | reaps k =>
    simp only [ForwardRun.move] at h
    split at h <;> cases h
    exact .givenUp _ rfl rfl
  | stack k move =>
    obtain ⟨-, heq⟩ := Option.ite_none_left_eq_some.1 h
    obtain ⟨out, hstep, heq⟩ := Option.map_eq_some_iff.1 heq
    cases heq
    exact .of_stack hstep

inductive ListenerStep (s : Listeners) :
    ListenerLabel → Listeners → List ListenerEvent → Prop
  | apply (specs : List ForwardSpec) : ListenerStep s (.apply specs) (s.apply specs) []
  | tick : ListenerStep s .tick s.tick.1 s.tick.2
  | run {i : Nat} {move : RunMove} {run run' : ForwardRun}
      {recorded : Option (Stack × StackHealth)} (hrun : s.runs[i]? = some run)
      (hfree : ∀ k ∈ move.acquires, s.held k run.task.spec.localPort = false)
      (hmove : RunStep run move run' recorded) :
      ListenerStep s (.run i move) { s with runs := s.runs.set i (run'.record recorded).1 }
        ((run'.record recorded).2.map (.reported run.task)).toList

/-- Every step of the listeners is one of these. -/
theorem ListenerStep.of_step {s t : Listeners} {label : ListenerLabel} {es : List ListenerEvent}
    (h : s.step label = some (t, es)) : ListenerStep s label t es := by
  cases label with
  | apply specs =>
    cases h
    exact .apply specs
  | tick =>
    obtain ⟨rfl, rfl⟩ := Prod.ext_iff.1 (Option.some.inj h)
    exact .tick
  | run i move =>
    obtain ⟨run, hrun, heq⟩ := Option.bind_eq_some_iff.1 h
    obtain ⟨hfree, heq⟩ := Option.ite_none_left_eq_some.1 heq
    obtain ⟨out, hmove, heq⟩ := Option.map_eq_some_iff.1 heq
    cases heq
    refine .run hrun (fun k hk => ?_) (RunStep.of_move hmove)
    rw [Option.mem_def.1 hk] at hfree
    simpa using hfree

end Flextunnel.Model
