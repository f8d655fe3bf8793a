import TestDaemon.Client.Link
import TestDaemon.Reply
import TestDaemon.Zip.Writer

/-! # Clients

A client holds one connection and remembers the deployment that it made last. Every operation is an
exchange: a request is sent and one reply read. A failure of the link, and a result that cannot be
read, close the connection; a reply that reports a failure leaves it open.

| operation | reply on success | remembered deployment |
|---|---|---|
| deploy | `OK DPL <id>` | `<id>` |
| undeploy | a line with `OK ` at its start | none, if it was this one |
| test | an encoded result | as before |
-/

namespace TestDaemon

structure Client (σ : Type) where
  link : Link σ
  connected : Bool
  deployment : Option String

namespace Error

def closedClient : Error := ⟨.lifecycle, "client connection is closed"⟩

def nothingDeployed : Error := ⟨.lifecycle, "no archive deployed by this client"⟩

def unexpectedDeployReply (line : String) : Error :=
  ⟨.deploy, "unexpected deploy response: " ++ line⟩

/-- The error that a line reports which is not the expected one. -/
def remote (line : String) : Error :=
  match Text.after? Reply.errorHead line with
  | some text => ⟨.command, text⟩
  | none => ⟨.command, "unexpected response: " ++ line⟩

end Error

namespace Client

variable {σ : Type}

/-- A client on a fresh link. -/
def new (link : Link σ) : Client σ := ⟨link, true, none⟩

/-- Close the connection, if it is open. -/
def close (client : Client σ) : Client σ := { client with connected := false }

/-- Whether a failure of an exchange closes the connection. -/
def isFatal : Halt → Bool
  | .failed error => error.kind = .io || error.kind = .protocol
  | .waiting => false

/-- Use the link for one exchange. -/
def exchange {α : Type} (client : Client σ) (act : Link σ → Except Halt α × Link σ) :
    Except Halt α × Client σ :=
  if client.connected then
    let (outcome, link) := act client.link
    let client := { client with link }
    match outcome with
    | .ok value => (.ok value, client)
    | .error halt => (.error halt, if isFatal halt then client.close else client)
  else (.error (.failed .closedClient), client)

/-- Send a request and go on with the reply. -/
def request {α : Type} (remote : Remote σ) (client : Client σ) (bytes : Bytes)
    (receive : Link σ → Except Halt α × Link σ) : Except Halt α × Client σ :=
  client.exchange fun link =>
    match link.send remote bytes with
    | (.error halt, link) => (.error halt, link)
    | (.ok (), link) => receive link

/-- Deploy an archive's bytes and remember the ID that the peer gives it. -/
def deployBytes (remote : Remote σ) (client : Client σ) (archive : Bytes) :
    Except Halt String × Client σ :=
  match client.request remote (Request.ofDeploy archive) Link.readLine with
  | (.error halt, client) => (.error halt, client)
  | (.ok line, client) =>
    match Reply.deployedId? line with
    | none => (.error (.failed (.unexpectedDeployReply line)), client)
    | some id => (.ok id, { client with deployment := some id })

/-- Export an archive and deploy it. -/
def deploy (remote : Remote σ) (client : Client σ) (archive : Archive) :
    Except Halt String × Client σ :=
  match Zip.encode archive with
  | .error error => (.error (.failed error), client)
  | .ok bytes => client.deployBytes remote bytes

/-- Undeploy an ID. -/
def undeployId (remote : Remote σ) (client : Client σ) (id : String) :
    Except Halt Unit × Client σ :=
  match client.request remote (Request.ofCommand (Request.undeployCommand id)) Link.readLine with
  | (.error halt, client) => (.error halt, client)
  | (.ok line, client) =>
    if Text.startsWith Reply.okHead line then
      (.ok (), if client.deployment = some id then { client with deployment := none } else client)
    else (.error (.failed (.remote line)), client)

/-- Do something with the remembered deployment. -/
def withDeployment {α : Type} (client : Client σ) (act : String → Except Halt α × Client σ) :
    Except Halt α × Client σ :=
  match client.deployment with
  | none => (.error (.failed .nothingDeployed), client)
  | some id => act id

/-- Undeploy the remembered deployment. -/
def undeploy (remote : Remote σ) (client : Client σ) : Except Halt Unit × Client σ :=
  client.withDeployment (client.undeployId remote)

/-- Read the reply to a test: a result, or a line that reports an error. -/
def receiveResult (link : Link σ) : Except Halt (Except String TestResult) × Link σ :=
  match link.peek with
  | .error halt => (.error halt, link)
  | .ok byte =>
    if byte = 0x45 then
      let (line, link) := link.readLine
      (line.map .error, link)
    else
      let (result, link) := link.readResult
      (result.map .ok, link)

/-- Run a test in a deployment. -/
def invokeOn (remote : Remote σ) (client : Client σ) (id className method : String) :
    Except Halt TestResult × Client σ :=
  match client.request remote (Request.ofCommand (Request.testCommand id className method)) receiveResult with
  | (.error halt, client) => (.error halt, client)
  | (.ok (.ok result), client) => (.ok result, client)
  | (.ok (.error line), client) => (.error (.failed (.remote line)), client)

/-- Run a test in the remembered deployment. -/
def invoke (remote : Remote σ) (client : Client σ) (className method : String) :
    Except Halt TestResult × Client σ :=
  client.withDeployment fun id => client.invokeOn remote id className method

/-- Deploy an archive, run one test in it and undeploy it again if the connection is still open. A
failure of the test hides one of the undeploy. -/
def runTest (remote : Remote σ) (client : Client σ) (archive : Bytes) (className method : String) :
    Except Halt TestResult × Client σ :=
  match client.deployBytes remote archive with
  | (.error halt, client) => (.error halt, client)
  | (.ok _, client) =>
    match client.invoke remote className method with
    | (.error .waiting, client) => (.error .waiting, client)
    | (outcome, client) =>
      let (undeployed, client) := if client.connected then client.undeploy remote else (.ok (), client)
      match undeployed with
      | .error .waiting => (.error .waiting, client)
      | _ =>
        (match outcome, undeployed with
          | .error halt, _ => .error halt
          | .ok _, .error halt => .error halt
          | .ok result, .ok () => .ok result, client)

/-- Ask the peer to stop, and close the client. The acknowledgement is read if it comes. -/
def stop (remote : Remote σ) (client : Client σ) : Except Halt Unit × Client σ :=
  match client.request remote (Request.ofCommand Request.stopCommand) fun link => (.ok (), link) with
  | (.error halt, client) => (.error halt, client)
  | (.ok (), client) =>
    match client.exchange Link.readLine with
    | (.error .waiting, client) => (.error .waiting, client)
    | (_, client) => (.ok (), client.close)

end Client

end TestDaemon
