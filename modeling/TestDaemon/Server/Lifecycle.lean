import TestDaemon.Address
import TestDaemon.Error

/-! # The life of a server

A server is started and stopped any number of times. Every successful start begins a run, which has a
listener, connections, a token that cancels them all, and room for one pending request to stop it. A
lock guards the run under way. The published state can be read without the lock.
-/

namespace TestDaemon

inductive ServerState where
  | stopped
  | starting
  | running (address : SocketAddress)
  | stopping
  deriving DecidableEq, Repr

namespace ServerState

def name : ServerState → String
  | stopped => "stopped"
  | starting => "starting"
  | running _ => "running"
  | stopping => "stopping"

/-- The form of a state in logs. -/
def text : ServerState → String
  | stopped => "Stopped"
  | starting => "Starting"
  | running address => s!"Running({address.text})"
  | stopping => "Stopping"

def isRunning : ServerState → Bool
  | running _ => true
  | _ => false

end ServerState

/-- A run of a server. Its listener and its connections may outlive the cancellation for a while. It is
complete once no connection can be added to those that a stop waits for. -/
structure Run where
  address : SocketAddress
  cancelled : Bool
  listening : Bool
  complete : Bool
  stopPending : Bool
  deriving DecidableEq, Repr

/-- A run at its beginning. -/
def Run.begin (address : SocketAddress) : Run := ⟨address, false, true, false, false⟩

namespace Error

def alreadyRunning : Error := ⟨.lifecycle, "Already running"⟩

def notRunning : Error := ⟨.lifecycle, "Server is not running"⟩

end Error

/-- All runs in the order of their starts, the one under way and the published state. -/
structure Lifecycle where
  runs : List Run
  current : Option Nat
  published : ServerState
  deriving DecidableEq, Repr

namespace Lifecycle

def initial : Lifecycle := ⟨[], none, .stopped⟩

/-- Change one run. -/
def updateRun (lifecycle : Lifecycle) (index : Nat) (change : Run → Run) : Lifecycle :=
  { lifecycle with runs := lifecycle.runs.modify index change }

/-- Whether a run has been cancelled, or has not begun. -/
def isCancelled (lifecycle : Lifecycle) (index : Nat) : Bool :=
  (lifecycle.runs[index]?).all (·.cancelled)

def isListening (lifecycle : Lifecycle) (index : Nat) : Bool :=
  (lifecycle.runs[index]?).any (·.listening)

def isComplete (lifecycle : Lifecycle) (index : Nat) : Bool :=
  (lifecycle.runs[index]?).any (·.complete)

def isStopPending (lifecycle : Lifecycle) (index : Nat) : Bool :=
  (lifecycle.runs[index]?).any (·.stopPending)

def publish (lifecycle : Lifecycle) (state : ServerState) : Lifecycle :=
  { lifecycle with published := state }

/-- Begin a run on the address that its listener has. -/
def beginRun (lifecycle : Lifecycle) (address : SocketAddress) : Lifecycle :=
  { lifecycle with runs := lifecycle.runs ++ [.begin address] }

/-- Make a run the one under way. -/
def announce (lifecycle : Lifecycle) (index : Nat) (address : SocketAddress) : Lifecycle :=
  { lifecycle with current := some index, published := .running address }

/-- Let no run be under way while the last one is wound up. -/
def withdraw (lifecycle : Lifecycle) : Lifecycle :=
  { lifecycle with current := none, published := .stopping }

/-- Cancel what belongs to a run. -/
def cancel (lifecycle : Lifecycle) (index : Nat) : Lifecycle :=
  lifecycle.updateRun index fun run => { run with cancelled := true }

def closeListener (lifecycle : Lifecycle) (index : Nat) : Lifecycle :=
  lifecycle.updateRun index fun run => { run with listening := false }

def complete (lifecycle : Lifecycle) (index : Nat) : Lifecycle :=
  lifecycle.updateRun index fun run => { run with complete := true }

/-- Note a request to stop a run. A request already pending makes this a no-op. -/
def requestStop (lifecycle : Lifecycle) (index : Nat) : Lifecycle :=
  lifecycle.updateRun index fun run => { run with stopPending := true }

/-- Consume the request to stop a run. -/
def takeStop (lifecycle : Lifecycle) (index : Nat) : Lifecycle :=
  lifecycle.updateRun index fun run => { run with stopPending := false }

variable (lifecycle : Lifecycle) (index other : Nat)

theorem getElem?_updateRun (change : Run → Run) :
    (lifecycle.updateRun index change).runs[other]? =
      if index = other then (lifecycle.runs[other]?).map change else lifecycle.runs[other]? := by
  rw [updateRun, List.getElem?_modify]
  split
  · rfl
  · exact Option.map_id'

theorem getElem?_beginRun (address : SocketAddress) :
    (lifecycle.beginRun address).runs[other]? =
      if other = lifecycle.runs.length then some (.begin address) else lifecycle.runs[other]? := by
  rw [beginRun, List.getElem?_append]
  grind

theorem isListening_iff : lifecycle.isListening index = true ↔
    ∃ run, lifecycle.runs[index]? = some run ∧ run.listening = true := by
  cases found : lifecycle.runs[index]? <;> simp [isListening, found]

theorem isCancelled_eq_false_iff : lifecycle.isCancelled index = false ↔
    ∃ run, lifecycle.runs[index]? = some run ∧ run.cancelled = false := by
  cases found : lifecycle.runs[index]? <;> simp [isCancelled, found]

theorem isStopPending_iff : lifecycle.isStopPending index = true ↔
    ∃ run, lifecycle.runs[index]? = some run ∧ run.stopPending = true := by
  cases found : lifecycle.runs[index]? <;> simp [isStopPending, found]

@[simp] theorem publish_runs (state : ServerState) : (lifecycle.publish state).runs = lifecycle.runs :=
  rfl
@[simp] theorem publish_current (state : ServerState) :
    (lifecycle.publish state).current = lifecycle.current := rfl
@[simp] theorem publish_published (state : ServerState) : (lifecycle.publish state).published = state :=
  rfl
@[simp] theorem beginRun_current (address : SocketAddress) :
    (lifecycle.beginRun address).current = lifecycle.current := rfl
@[simp] theorem beginRun_published (address : SocketAddress) :
    (lifecycle.beginRun address).published = lifecycle.published := rfl
@[simp] theorem announce_runs (address : SocketAddress) :
    (lifecycle.announce index address).runs = lifecycle.runs := rfl
@[simp] theorem announce_current (address : SocketAddress) :
    (lifecycle.announce index address).current = some index := rfl
@[simp] theorem announce_published (address : SocketAddress) :
    (lifecycle.announce index address).published = .running address := rfl
@[simp] theorem withdraw_runs : lifecycle.withdraw.runs = lifecycle.runs := rfl
@[simp] theorem withdraw_current : lifecycle.withdraw.current = none := rfl
@[simp] theorem withdraw_published : lifecycle.withdraw.published = .stopping := rfl
@[simp] theorem cancel_current : (lifecycle.cancel index).current = lifecycle.current := rfl
@[simp] theorem cancel_published : (lifecycle.cancel index).published = lifecycle.published := rfl
@[simp] theorem cancel_length : (lifecycle.cancel index).runs.length = lifecycle.runs.length :=
  List.length_modify ..

end Lifecycle

end TestDaemon
