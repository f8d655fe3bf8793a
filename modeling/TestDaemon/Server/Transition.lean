import TestDaemon.Server.Lifecycle

/-! # Starting and stopping under the lock

A start, a stop and the worker of a run work under the lock of the lifecycle, one after the other. Each
is cut into moves: a move does at most one thing that can be noticed without the lock. Before some moves
it has to wait.

| stage | waits for | the move |
|---|---|---|
| `entered` | | refuse, or publish that the server starts or stops |
| `starting binding` | the listener | |
| `starting refused` | | publish that the server is stopped |
| `starting bound` | | begin the run |
| `starting begun` | | give the run its worker |
| `starting staffed` | | publish that the server is running |
| `stopping cancelling` | | cancel the run |
| `stopping closing` | the end of the listener | |
| `stopping completing` | | take no further connections into account |
| `stopping draining` | the end of the connections | |
| `stopping ending` | | publish that the server is stopped |
| `leaving` | | leave the lock and return |
-/

namespace TestDaemon

/-- What a task is for. A worker stops one run when a connection of that run asks for it. -/
inductive TaskKind where
  | start
  | stop
  | worker (run : Nat)
  deriving DecidableEq, Repr

/-- What a task returns. A worker finds its run ended, is never asked to stop it, or is asked when
nobody uses the server any more. -/
inductive TaskResult where
  | started (bound : Except Error SocketAddress)
  | stopped (result : Except Error Unit)
  | overtaken
  | unasked
  | forsaken
  deriving Repr

/-- Whether a call fails. -/
def TaskResult.isError : TaskResult → Bool
  | started (.error _) | stopped (.error _) => true
  | _ => false

inductive StartStage where
  | binding
  | refused (error : Error)
  | bound (address : SocketAddress)
  | begun (run : Nat) (address : SocketAddress)
  | staffed (run : Nat) (address : SocketAddress)
  deriving DecidableEq, Repr

/-- How a start goes on with a listener, or without one. -/
def StartStage.ofBinding : Except Error SocketAddress → StartStage
  | .error error => .refused error
  | .ok address => .bound address

inductive StopStage where
  | cancelling
  | closing
  | completing
  | draining
  | ending
  deriving DecidableEq, Repr

/-- Where a task under the lock stands. -/
inductive Stage where
  | entered
  | starting (stage : StartStage)
  | stopping (run : Nat) (stage : StopStage)
  | leaving (result : TaskResult)
  deriving Repr

/-- What a move leads to, and what it publishes. -/
structure Move where
  stage : Stage
  lifecycle : Lifecycle
  publication : Option ServerState

namespace Move

def silent (stage : Stage) (lifecycle : Lifecycle) : Move := ⟨stage, lifecycle, none⟩

def telling (stage : Stage) (lifecycle : Lifecycle) : Move :=
  ⟨stage, lifecycle, some lifecycle.published⟩

variable (stage : Stage) (lifecycle : Lifecycle)

@[simp] theorem silent_stage : (silent stage lifecycle).stage = stage := rfl
@[simp] theorem silent_lifecycle : (silent stage lifecycle).lifecycle = lifecycle := rfl
@[simp] theorem silent_publication : (silent stage lifecycle).publication = none := rfl
@[simp] theorem telling_stage : (telling stage lifecycle).stage = stage := rfl
@[simp] theorem telling_lifecycle : (telling stage lifecycle).lifecycle = lifecycle := rfl
@[simp] theorem telling_publication :
    (telling stage lifecycle).publication = some lifecycle.published := rfl

end Move

namespace Lifecycle

/-- Refuse to start twice, or begin a start. -/
def enterStart (lifecycle : Lifecycle) : Move :=
  match lifecycle.current with
  | some _ => .silent (.leaving (.started (.error .alreadyRunning))) lifecycle
  | none => .telling (.starting .binding) (lifecycle.publish .starting)

/-- Refuse to stop what is not running, or begin to stop the run under way. -/
def enterStop (lifecycle : Lifecycle) : Move :=
  match lifecycle.current with
  | none => .silent (.leaving (.stopped (.error .notRunning))) lifecycle
  | some run => .telling (.stopping run .cancelling) lifecycle.withdraw

/-- The first move of a task. A worker goes on only if its run has not been cancelled. -/
def enter (lifecycle : Lifecycle) : TaskKind → Move
  | .start => lifecycle.enterStart
  | .stop => lifecycle.enterStop
  | .worker run =>
    if lifecycle.isCancelled run then .silent (.leaving .overtaken) lifecycle
    else lifecycle.enterStop

def advanceStart (lifecycle : Lifecycle) : StartStage → Option Move
  | .binding => none
  | .refused error =>
    some (.telling (.leaving (.started (.error error))) (lifecycle.publish .stopped))
  | .bound address =>
    some (.silent (.starting (.begun lifecycle.runs.length address)) (lifecycle.beginRun address))
  | .begun run address => some (.silent (.starting (.staffed run address)) lifecycle)
  | .staffed run address =>
    some (.telling (.leaving (.started (.ok address))) (lifecycle.announce run address))

def advanceStop (lifecycle : Lifecycle) (run : Nat) : StopStage → Move
  | .cancelling => .silent (.stopping run .closing) (lifecycle.cancel run)
  | .closing => .silent (.stopping run .completing) lifecycle
  | .completing => .silent (.stopping run .draining) (lifecycle.complete run)
  | .draining => .silent (.stopping run .ending) lifecycle
  | .ending => .telling (.leaving (.stopped (.ok ()))) (lifecycle.publish .stopped)

/-- The move at a stage; `none` where there is nothing left to do under the lock, or a listener has to
be bound first. -/
def move? (lifecycle : Lifecycle) (kind : TaskKind) : Stage → Option Move
  | .entered => some (lifecycle.enter kind)
  | .starting stage => lifecycle.advanceStart stage
  | .stopping run stage => some (lifecycle.advanceStop run stage)
  | .leaving _ => none

end Lifecycle

end TestDaemon
