import TestDaemon.Command
import TestDaemon.Reply
import TestDaemon.Store
import TestDaemon.TestResult

/-! # Serving requests

What a server does with a payload or a command line, apart from any connection. The services are its
importer and its executor; the context is what they act on: the store, the number of imports so far,
and whether a stop of the server has been requested.
-/

namespace TestDaemon

/-- Turns a payload into an archive. The serial number differs between the imports of one server, so
that an archive without a name of its own can be given a fresh one. -/
abbrev Importer := (serial : Nat) → (payload : Bytes) → Except Error Archive

/-- Runs one method of one class of an archive. -/
abbrev Executor := (archive : Archive) → (className method : String) → Except Error TestResult

/-- The runs of a test at which something happens. A run is told from others of the same test by the number
of frames that its connection has handled before. -/
def Occasions := (handled : Nat) → Bool

/-- It happens at every run or at none. -/
instance : Coe Bool Occasions := ⟨fun always _ => always⟩

/-- During which runs of a test the server begins to stop. -/
abbrev Interrupts := (archive : Archive) → (className method : String) → Occasions

structure Services where
  importer : Importer
  executor : Executor
  interrupts : Interrupts := fun _ _ _ => false

structure Context where
  store : Store
  imports : Nat
  stopRequested : Bool

def Error.notDeployed (id : String) : Error :=
  ⟨.notFound, "Archive with ID " ++ id ++ " is not deployed"⟩

/-- The reply to an undeploy of what is not deployed. -/
def Reply.unknownDeployment (id : String) : Reply :=
  .failed ("Deployment " ++ id ++ " could not be found in current deployments.")

/-- The answer to a command, and whether the server is to stop once it has been written. -/
inductive CommandReply where
  | respond (reply : Reply)
  | respondThenStop (reply : Reply)
  deriving DecidableEq, Repr

namespace Context

def new (store : Store) : Context := ⟨store, 0, false⟩

/-- Ask for a stop of the server. A request already pending makes this a no-op. -/
def requestStop (context : Context) : Context := { context with stopRequested := true }

/-- Whether a stop is requested; the request is consumed. -/
def takeStop (context : Context) : Bool × Context :=
  (context.stopRequested, { context with stopRequested := false })

/-- Import a payload and store it under its ID. -/
def ingest (services : Services) (context : Context) (payload : Bytes) :
    Except Error Reply × Context :=
  match services.importer context.imports payload with
  | .error error => (.error error, context)
  | .ok archive =>
    (.ok (.ok (Request.deployHead ++ archive.id)),
      { context with
        store := (context.store.insert archive.id archive).2
        imports := context.imports + 1 })

/-- Remove a deployment. -/
def undeploy (context : Context) (id : String) : Reply × Context :=
  match context.store.remove id with
  | (some _, store) => (.ok id, { context with store })
  | (none, _) => (.unknownDeployment id, context)

/-- An undeploy succeeds exactly if there is something to remove. -/
theorem undeploy_eq (context : Context) (id : String) :
    context.undeploy id =
      (if context.store.contains id then .ok id else .unknownDeployment id,
        { context with store := (context.store.remove id).2 }) := by
  obtain ⟨store, imports, stopRequested⟩ := context
  cases found : store.get? id with
  | some archive =>
    have contained : store.contains id = true := congrArg Option.isSome found
    simp only [undeploy, Store.remove, found, contained, if_true]
  | none =>
    have missing : store.contains id = false := congrArg Option.isSome found
    have same : (store.remove id).2 = store := by
      refine Store.ext_get? fun other => ?_
      rw [Store.get?_remove]
      split
      · next wanted => rw [wanted, found]
      · rfl
    simp only [same, missing, Bool.false_eq_true, if_false]
    simp only [undeploy, Store.remove, found]

/-- The archive, class and method that a command line would run. -/
def testRun? (context : Context) (line : String) : Option (Archive × String × String) :=
  match Command.parse line with
  | .ok (.test id className method) =>
    (context.store.get? id).map fun archive => (archive, className, method)
  | _ => none

/-- Run a test of a deployment. -/
def invoke (services : Services) (context : Context) (id className method : String) :
    Except Error Reply :=
  match context.store.get? id with
  | none => .error (.notDeployed id)
  | some archive => (services.executor archive className method).map fun result => .raw result.encode

/-- Read and carry out a command line. -/
def execute (services : Services) (context : Context) (line : String) :
    Except Error CommandReply × Context :=
  match Command.parse line with
  | .error error => (.error error, context)
  | .ok .stop => (.ok (.respondThenStop (.ok line)), context)
  | .ok (.undeploy id) =>
    let (reply, context) := context.undeploy id
    (.ok (.respond reply), context)
  | .ok (.test id className method) =>
    ((invoke services context id className method).map .respond, context)

/-- A summary for logs. -/
def describe (context : Context) : String :=
  s!"ServerContext \x7b deployments: {context.store.size}, .. \x7d"

end Context

end TestDaemon
