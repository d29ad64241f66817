/-
This file defines the container of listeners and the calls that control it.

The container knows the registered listeners and, while it runs, the loops it
has spawned. A call to control it is a list of actions that are taken one by
one, so that several calls may be under way at once: launching is a single
action, while halting asks the loops to shut down and then waits for them until
a deadline, behind which it aborts those that are left.
-/

import AccessFeed.Listening.Listener
import AccessFeed.Pipeline.Groups
import AccessFeed.Settings.Basic

namespace AccessFeed

open Settings (ConsumerSet)

/-- A loop of a listener, as spawned by the container. -/
structure ListenerLoop where
  spec : ListenerSpec
  phase : ListenerPhase := .starting
  shutdown : Bool := false
  aborted : Bool := false
deriving DecidableEq, Repr

namespace ListenerLoop

/-- Whether a loop has ended. -/
def isFinished (loop : ListenerLoop) : Bool :=
  loop.aborted || loop.phase == .stopped

/-- Whether a loop has nothing to do at a time. -/
def isBlocked (loop : ListenerLoop) (now : Nat) : Bool :=
  loop.aborted || loop.phase.isBlocked loop.shutdown now

/-- The time until which a loop waits. -/
def deadline? (loop : ListenerLoop) : Option Nat :=
  if loop.aborted then none else loop.phase.deadline?

end ListenerLoop

/-- The container of listeners: the registered ones, the numbers of the running loops, and all loops
ever spawned, in the order in which they were. -/
structure Container where
  registered : List ListenerSpec := []
  running : Option (List Nat) := none
  loops : List ListenerLoop := []
deriving DecidableEq, Repr

namespace Container

/-- Whether a loop has ended. A loop that was never spawned has. -/
def hasFinished (container : Container) (number : Nat) : Bool :=
  (container.loops[number]?.map ListenerLoop.isFinished).getD true

/-- The number of running loops that have not ended. -/
def activeCount (container : Container) : Nat :=
  ((container.running.getD []).filter fun number => !container.hasFinished number).length

/-- The listeners of a consumer set. -/
def listenersOf (set : ConsumerSet) : List ListenerSpec :=
  set.consumerNames.map fun consumer => ⟨set.stream, set.group, consumer⟩

/-- Registers a listener unless it is registered. -/
def register (container : Container) (spec : ListenerSpec) : Container :=
  if spec ∈ container.registered then container
  else { container with registered := container.registered ++ [spec] }

/-- Registers the listeners of a consumer set. -/
def registerSet (container : Container) (set : ConsumerSet) : Container :=
  (listenersOf set).foldl register container

/-- How many of some listeners are new when they are registered one by one. -/
def countNew (container : Container) : List ListenerSpec → Nat
  | [] => 0
  | spec :: rest =>
    (if spec ∈ container.registered then 0 else 1) + (container.register spec).countNew rest

/-- Applies a change to some loops. -/
def changeLoops (container : Container) (numbers : List Nat)
    (change : ListenerLoop → ListenerLoop) : Container :=
  { container with
    loops := numbers.foldl (fun loops number => loops.modify number change) container.loops }

/-- Spawns a loop for every registered listener. -/
def spawnAll (container : Container) : Container :=
  let first := container.loops.length
  { container with
    running := some ((List.range container.registered.length).map (first + ·))
    loops := container.loops ++ container.registered.map fun spec => { spec } }

/-- Lets go of the running loops and asks them to shut down. -/
def release (container : Container) (numbers : List Nat) : Container :=
  { container with running := none }.changeLoops numbers fun loop =>
    { loop with shutdown := true }

end Container

/-- An action of a call that controls the container. Registering and ensuring treat one consumer
set; draining waits for loops until a deadline. Resting stands for a container whose restart only
takes time. -/
inductive ControlAction
  | register (set : ConsumerSet) (phase : EnsurePhase)
  | ensure (set : ConsumerSet) (phase : EnsurePhase)
  | launch
  | halt
  | drain (loops : List Nat) (deadline : Nat)
  | rest (millis : Nat)
  | resting (until_ : Nat)

/-- The actions left of a call. A call without actions has returned. -/
abbrev ControlCall : Type := List ControlAction

namespace ControlCall

/-- The call that registers all listeners. -/
def registerAll (sets : List ConsumerSet) : ControlCall :=
  sets.map fun set => .register set .checking

/-- The call that registers all listeners and starts the container. -/
def startUp (sets : List ConsumerSet) : ControlCall :=
  registerAll sets ++ [.launch]

/-- The call that starts the container. -/
def start : ControlCall := [.launch]

/-- The call that stops the container. -/
def stop : ControlCall := [.halt]

/-- The call that stops the container, ensures all groups again, and starts it. -/
def restart (sets : List ConsumerSet) : ControlCall :=
  .halt :: sets.map (fun set => .ensure set .checking) ++ [.launch]

/-- Whether a call has returned. -/
def hasReturned (call : ControlCall) : Bool :=
  call.isEmpty

/-- How many new listeners the next action of a call registers. A call that registers all listeners
answers the sum over its actions. -/
def newListeners (call : ControlCall) (container : Container) : Nat :=
  match call with
  | .register set (.finished _) :: _ => container.countNew (Container.listenersOf set)
  | _ => 0

/-- The time until which a call waits. -/
def deadline? : ControlCall → Option Nat
  | .drain _ deadline :: _ => some deadline
  | .resting until_ :: _ => some until_
  | _ => none

/-- Whether a call has nothing to do at a time. -/
def isBlocked (call : ControlCall) (container : Container) (now : Nat) : Bool :=
  match call with
  | [] => true
  | .drain loops deadline :: _ => now < deadline && !loops.all container.hasFinished
  | .resting until_ :: _ => now < until_
  | _ => false

end ControlCall

namespace Control

/-- What a controlling action works on. -/
structure Scope where
  container : Container
  pipeline : Pipeline

/-- Starts the container unless it runs. -/
def launch (scope : Scope) : Scope :=
  if scope.container.running.isSome then
    { scope with pipeline := scope.pipeline.warn "Listener container is already running" }
  else
    { container := scope.container.spawnAll
      pipeline :=
        if scope.container.registered.isEmpty then
          scope.pipeline.warn "Starting listener container without registered listeners"
        else scope.pipeline }

/-- Aborts the loops that have not ended. -/
def abortAll : List Nat → Scope → Scope
  | [], scope => scope
  | number :: rest, scope =>
    if scope.container.hasFinished number then abortAll rest scope
    else
      abortAll rest
        { container := scope.container.changeLoops [number] fun loop =>
            { loop with aborted := true }
          pipeline := scope.pipeline.warn "Listener did not stop in time, aborting" }

/-- Takes a step of ensuring the group of a consumer set. When it is done a failure is logged. -/
def ensure (set : ConsumerSet) (message : String) (phase : EnsurePhase) (pipeline : Pipeline) :
    Option EnsurePhase × Pipeline :=
  match phase with
  | .finished (.ok ()) => (none, pipeline)
  | .finished (.error _) => (none, pipeline.error message)
  | phase =>
    let (phase, pipeline) := phase.step set.stream set.group pipeline
    (some phase, pipeline)

/-- Takes an action at a time, and answers the actions that take its place. -/
def act (grace now : Nat) (scope : Scope) : ControlAction → List ControlAction × Scope
  | .register set phase =>
    match ensure set "Failed to ensure consumer group" phase scope.pipeline with
    | (some phase, pipeline) => ([.register set phase], { scope with pipeline })
    | (none, pipeline) => ([], ⟨scope.container.registerSet set, pipeline⟩)
  | .ensure set phase =>
    match ensure set "Failed to ensure consumer group on restart" phase scope.pipeline with
    | (some phase, pipeline) => ([.ensure set phase], { scope with pipeline })
    | (none, pipeline) => ([], { scope with pipeline })
  | .launch => ([], launch scope)
  | .halt =>
    match scope.container.running with
    | none => ([], scope)
    | some numbers =>
      ([.drain numbers (now + grace)],
        { scope with container := scope.container.release numbers })
  | .drain numbers deadline =>
    if numbers.all scope.container.hasFinished then ([], scope)
    else if deadline ≤ now then ([], abortAll numbers scope)
    else ([.drain numbers deadline], scope)
  | .rest millis => ([.resting (now + millis)], scope)
  | .resting until_ => if until_ ≤ now then ([], scope) else ([.resting until_], scope)

/-- One step of a call at a time. -/
def step (grace now : Nat) (call : ControlCall) (scope : Scope) : ControlCall × Scope :=
  match call with
  | [] => ([], scope)
  | action :: rest =>
    let (actions, scope) := act grace now scope action
    (actions ++ rest, scope)

end Control

end AccessFeed
