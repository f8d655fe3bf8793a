import TestDaemon.Proofs.ServerSteps
import TestDaemon.Server

/-! # A server with one caller

What a start or a stop does to a server at once, for one caller at a time, the shared server can do step
by step while nobody interferes: the same lifecycle comes about, the same result is returned, the store is
as before, and the lock is free again.
-/

namespace TestDaemon

/-- What comes of listening on an address of a host. -/
def Host.bind (host : Host) (address : SocketAddress) : Except Error SocketAddress :=
  match host.listen address with
  | .error cause => .error (.bindFailed address cause)
  | .ok (bound, _) => .ok bound

namespace ServerAction

/-- The actions of a call that is refused. -/
def refusedAlone (call : ServerAction) (task : Nat) : List ServerAction :=
  [call, .lock task, .advance, .advance]

/-- The actions of a start that nobody interferes with. -/
def startAlone (task : Nat) : Except Error SocketAddress → List ServerAction
  | .error error => [.callStart, .lock task, .advance, .bind (.error error), .advance, .advance]
  | .ok address =>
    [.callStart, .lock task, .advance, .bind (.ok address), .advance, .advance, .advance, .advance]

/-- The actions of a stop that nobody interferes with. -/
def stopAlone (task run : Nat) : List ServerAction :=
  [.callStop, .lock task, .advance, .advance, .closeListener run, .advance, .advance, .advance, .advance,
    .advance]

end ServerAction

namespace Lifecycle

variable (lifecycle : Lifecycle) (run : Nat)

@[simp] theorem isListening_cancel :
    (lifecycle.cancel run).isListening run = lifecycle.isListening run := by
  simp [isListening, cancel, getElem?_updateRun, Option.any_map]

@[simp] theorem isListening_closeListener : (lifecycle.closeListener run).isListening run = false := by
  cases found : lifecycle.runs[run]? <;>
    simp [isListening, closeListener, getElem?_updateRun, found]

/-- A run that listened is complete once it has been completed. -/
theorem isComplete_wound (begun : lifecycle.isListening run = true) :
    (((lifecycle.cancel run).closeListener run).complete run).isComplete run = true := by
  obtain ⟨entry, found, _⟩ := (isListening_iff ..).mp begun
  simp [isComplete, complete, closeListener, cancel, getElem?_updateRun, found]

end Lifecycle

namespace SharedServer

variable {services : Services} {shared : SharedServer} {server : Server} {kind : TaskKind}

/-- The server with a new task that has just got the lock. -/
def entered (shared : SharedServer) (kind : TaskKind) : SharedServer :=
  { shared with
    tasks := shared.tasks ++ [⟨kind, .holding⟩]
    lock := some ⟨shared.tasks.length, kind, .entered⟩ }

/-- A call gets a lock that is free. -/
theorem run?_entered {action : ServerAction} (free : shared.lock = none)
    (calls : shared.step? services action = some (shared.call kind, [])) (actions : List ServerAction) :
    shared.run? services (action :: .lock shared.tasks.length :: actions) =
      (shared.entered kind).run? services actions := by
  have locks : (shared.call kind).step? services (.lock shared.tasks.length) =
      some (shared.entered kind, []) := by
    simp [step?, call, free, grant, setPhase, entered, List.modify_eq_take_drop]
  simp only [run?, calls, locks, Option.bind_eq_bind, Option.bind_some]
  cases (shared.entered kind).run? services actions <;> rfl

/-- The shared server can do what a start does. -/
theorem run?_start (host : Host) (free : shared.lock = none)
    (same : shared.lifecycle = server.lifecycle) :
    ∃ actions next events, shared.run? services actions = some (next, events) ∧
      next.lock = none ∧ next.lifecycle = (server.start host).2.1.lifecycle ∧
      next.shared = shared.shared ∧
      events.getLast? = some (.returned shared.tasks.length (.started (server.start host).1)) := by
  cases running : server.lifecycle.current with
  | some run =>
    refine ⟨ServerAction.refusedAlone .callStart shared.tasks.length, ?_⟩
    rw [ServerAction.refusedAlone, run?_entered free rfl]
    simp [run?, step?, entered, advance?, isReady, Lifecycle.move?, Lifecycle.enter,
      Lifecycle.enterStart, apply, Stage.recruits, release, setPhase, Server.start, same, running]
  | none =>
    refine ⟨ServerAction.startAlone shared.tasks.length (host.bind server.bindAddress), ?_⟩
    cases listened : host.listen server.bindAddress with
    | error cause =>
      rw [Host.bind, listened, ServerAction.startAlone, run?_entered free rfl]
      simp [run?, step?, entered, advance?, isReady, bind?, StartStage.ofBinding, Lifecycle.move?,
        Lifecycle.enter, Lifecycle.enterStart, Lifecycle.advanceStart, Lifecycle.publish, apply,
        Stage.recruits, release, setPhase, Server.start, same, running, listened]
    | ok bound =>
      rw [Host.bind, listened, ServerAction.startAlone, run?_entered free rfl]
      simp [run?, step?, entered, advance?, isReady, bind?, StartStage.ofBinding, Lifecycle.move?,
        Lifecycle.enter, Lifecycle.enterStart, Lifecycle.advanceStart, Lifecycle.publish,
        Lifecycle.beginRun, Lifecycle.announce, apply, Stage.recruits, release, setPhase, Server.start,
        same, running, listened]

/-- The shared server can do what a stop does, where the run under way listens and nobody is connected. -/
theorem run?_stop (host : Host) (free : shared.lock = none)
    (same : shared.lifecycle = server.lifecycle)
    (listens : ∀ run, server.lifecycle.current = some run → server.lifecycle.isListening run = true)
    (alone : ∀ run, shared.isConnected run = false) :
    ∃ actions next events, shared.run? services actions = some (next, events) ∧
      next.lock = none ∧ next.lifecycle = (server.stop host).2.1.lifecycle ∧
      next.shared = shared.shared ∧
      events.getLast? = some (.returned shared.tasks.length (.stopped (server.stop host).1)) := by
  cases running : server.lifecycle.current with
  | none =>
    refine ⟨ServerAction.refusedAlone .callStop shared.tasks.length, ?_⟩
    rw [ServerAction.refusedAlone, run?_entered free rfl]
    simp [run?, step?, entered, advance?, isReady, Lifecycle.move?, Lifecycle.enter,
      Lifecycle.enterStop, apply, Stage.recruits, release, setPhase, Server.stop, same, running]
  | some run =>
    refine ⟨ServerAction.stopAlone shared.tasks.length run, ?_⟩
    rw [ServerAction.stopAlone, run?_entered free rfl]
    have listening : server.lifecycle.withdraw.isListening run = true := listens run running
    have complete := Lifecycle.isComplete_wound _ run listening
    have nobody := alone run
    rw [isConnected] at nobody
    simp [run?, step?, entered, advance?, isReady, isConnected, Lifecycle.move?, Lifecycle.enter,
      Lifecycle.enterStop, Lifecycle.advanceStop, apply, Stage.recruits, release, setPhase, Server.stop,
      same, running, listening, complete, nobody]

end SharedServer

end TestDaemon
