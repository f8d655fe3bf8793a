import TestDaemon.Client

/-! # Operations of a client

The operations as values, and what becomes of a client that carries out some of them in a row. One that
never returns ends the row.
-/

namespace TestDaemon

inductive ClientOperation where
  | deployBytes (archive : Bytes)
  | deploy (archive : Archive)
  | undeploy
  | undeployId (id : String)
  | invoke (className method : String)
  | invokeOn (id className method : String)
  | runTest (archive : Bytes) (className method : String)
  | stop
  | close

/-- What an operation returns if it succeeds. -/
inductive ClientAnswer where
  | done
  | deployed (id : String)
  | tested (result : TestResult)
  deriving DecidableEq, Repr

namespace Client

variable {σ : Type}

/-- Carry out one operation. -/
def perform (remote : Remote σ) (client : Client σ) :
    ClientOperation → Except Halt ClientAnswer × Client σ
  | .deployBytes archive =>
    let (result, client) := client.deployBytes remote archive
    (result.map .deployed, client)
  | .deploy archive =>
    let (result, client) := client.deploy remote archive
    (result.map .deployed, client)
  | .undeploy =>
    let (result, client) := client.undeploy remote
    (result.map fun _ => .done, client)
  | .undeployId id =>
    let (result, client) := client.undeployId remote id
    (result.map fun _ => .done, client)
  | .invoke className method =>
    let (result, client) := client.invoke remote className method
    (result.map .tested, client)
  | .invokeOn id className method =>
    let (result, client) := client.invokeOn remote id className method
    (result.map .tested, client)
  | .runTest archive className method =>
    let (result, client) := client.runTest remote archive className method
    (result.map .tested, client)
  | .stop =>
    let (result, client) := client.stop remote
    (result.map fun _ => .done, client)
  | .close => (.ok .done, client.close)

/-- Carry out operations in order: the result of each with the client after it. -/
def performAll (remote : Remote σ) (client : Client σ) :
    List ClientOperation → List (Except Halt ClientAnswer × Client σ)
  | [] => []
  | operation :: operations =>
    match client.perform remote operation with
    | (.error .waiting, after) => [(.error .waiting, after)]
    | (result, after) => (result, after) :: performAll remote after operations

end Client

end TestDaemon
