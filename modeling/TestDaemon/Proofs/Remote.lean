import TestDaemon.Proofs.ClientConnection
import TestDaemon.Proofs.Commands
import TestDaemon.Proofs.Dispatching
import TestDaemon.Proofs.Exchange
import TestDaemon.Proofs.Lines
import TestDaemon.Proofs.TestReply

/-! # Operations through a client

What a client's operations return, and what they leave on the server, is what comes of carrying them out
on the server's context directly. Only a deploy that fails differs: it is not answered, so that the
client learns of the end of the connection alone, and of nothing after it.
-/

namespace TestDaemon

open Request

/-- What a client asks of a server by name. -/
inductive RemoteOperation where
  | deploy (payload : Bytes)
  | undeploy (id : String)
  | test (id className method : String)

namespace RemoteOperation

def toClient : RemoteOperation → ClientOperation
  | deploy payload => .deployBytes payload
  | undeploy id => .undeployId id
  | test id className method => .invokeOn id className method

/-- Whether an operation can be written as a request that is read as it is meant. -/
def Sendable (limit : Nat) : RemoteOperation → Prop
  | deploy payload =>
    ¬ delimiter <:+: payload ∧ (Outgoing.deploy payload).body.length ≤ limit
  | undeploy id =>
    ¬ delimiter <:+: Utf8.encode id ∧ Text.trim id = id ∧ '\n' ∉ id.toList ∧
      (Utf8.encode (undeployCommand id)).length ≤ min commandLineLimit limit
  | test id className method =>
    (∀ text ∈ [id, className, method], ¬ delimiter <:+: Utf8.encode text ∧ IsWord text) ∧
      (Utf8.encode (testCommand id className method)).length ≤ min commandLineLimit limit

instance (limit : Nat) : (operation : RemoteOperation) → Decidable (operation.Sendable limit)
  | .deploy _ => inferInstanceAs (Decidable (_ ∧ _))
  | .undeploy _ => inferInstanceAs (Decidable (_ ∧ _))
  | .test .. => inferInstanceAs (Decidable (_ ∧ _))

end RemoteOperation

/-- A context that is acted on directly, as long as no deploy has failed. -/
structure Direct where
  context : Context
  usable : Bool

/-- An error that is reported in the reply to a command. -/
def Error.reported (error : Error) : Error :=
  ⟨.command, "Caught unexpected error servicing request: " ++ error.message⟩

/-- The report of an undeploy that finds nothing. -/
def Error.nothingToUndeploy (id : String) : Error :=
  ⟨.command, "Deployment " ++ id ++ " could not be found in current deployments."⟩

namespace Direct

/-- Carry out one operation. -/
def perform (services : Services) (direct : Direct) (operation : RemoteOperation) :
    Except Error ClientAnswer × Direct :=
  if direct.usable then
    match operation with
    | .deploy payload =>
      match services.importer direct.context.imports payload with
      | .error _ => (.error .closedByPeer, { direct with usable := false })
      | .ok archive =>
        (.ok (.deployed archive.id),
          { direct with context := (direct.context.ingest services payload).2 })
    | .undeploy id =>
      if direct.context.store.contains id then
        (.ok .done, { direct with context := (direct.context.undeploy id).2 })
      else (.error (.nothingToUndeploy id), direct)
    | .test id className method =>
      match direct.context.store.get? id with
      | none => (.error (Error.notDeployed id).reported, direct)
      | some archive =>
        match services.executor archive className method with
        | .error error => (.error error.reported, direct)
        | .ok result => (.ok (.tested result), direct)
  else (.error .closedClient, direct)

/-- Whether the text of the importer or the executor that an operation is answered with is one line. -/
def RepliesInLine (services : Services) (direct : Direct) : RemoteOperation → Prop
  | .deploy payload =>
    ∀ archive, services.importer direct.context.imports payload = .ok archive → OneLine archive.id
  | .undeploy _ => True
  | .test id className method =>
    ∀ archive error, direct.context.store.get? id = some archive →
      services.executor archive className method = .error error → OneLine error.message

/-- Carry out operations in order: the result of each with the state after it. -/
def performAll (services : Services) (direct : Direct) :
    List RemoteOperation → List (Except Error ClientAnswer × Direct)
  | [] => []
  | operation :: operations =>
    let (result, after) := direct.perform services operation
    (result, after) :: performAll services after operations

/-- Whether all operations that reach the server are answered in line. -/
def AllReplyInLine (services : Services) (direct : Direct) : List RemoteOperation → Prop
  | [] => True
  | operation :: operations =>
    (direct.usable → direct.RepliesInLine services operation) ∧
      AllReplyInLine services (direct.perform services operation).2 operations

end Direct

/-! ## Requests and answers -/

namespace Request

theorem clear_undeployHead {rest : Bytes} (clear : ¬ delimiter <:+: rest) :
    ¬ delimiter <:+: Utf8.encode undeployHead ++ rest := by
  have head : Utf8.encode undeployHead = Utf8.encode "CMD undeploy" ++ [0x20] := by decide +kernel
  rw [head, List.append_assoc]
  exact not_infix_append_space (by decide +kernel) clear

theorem clear_undeployCommand {id : String} (clear : ¬ delimiter <:+: Utf8.encode id) :
    ¬ delimiter <:+: Utf8.encode (undeployCommand id) := by
  rw [undeployCommand, Utf8.encode_append]
  exact clear_undeployHead clear

theorem clear_testCommand {id className method : String} (clearId : ¬ delimiter <:+: Utf8.encode id)
    (clearClass : ¬ delimiter <:+: Utf8.encode className)
    (clearMethod : ¬ delimiter <:+: Utf8.encode method) :
    ¬ delimiter <:+: Utf8.encode (testCommand id className method) := by
  have shape : Utf8.encode (testCommand id className method) =
      Utf8.encode "CMD test" ++ 0x20 :: (Utf8.encode id ++ 0x20 :: (Utf8.encode className ++
        0x20 :: Utf8.encode method)) := by
    have head : Utf8.encode testHead = Utf8.encode "CMD test" ++ [0x20] := by decide +kernel
    have space : Utf8.encode " " = [0x20] := by decide
    simp [testCommand, Utf8.encode_append, head, space]
  rw [shape]
  refine not_infix_append_space (by decide +kernel) (not_infix_append_space clearId ?_)
  exact not_infix_append_space clearClass clearMethod

theorem oneLine_undeployCommand {id : String} (line : OneLine id) : OneLine (undeployCommand id) :=
  OneLine.append (by decide) line

theorem oneLine_testCommand {id className method : String} (idLine : OneLine id)
    (classLine : OneLine className) (methodLine : OneLine method) :
    OneLine (testCommand id className method) := by
  have head : OneLine testHead := by decide
  have space : OneLine " " := by decide
  have withClass := ((head.append idLine).append space).append classLine
  exact (withClass.append space).append methodLine

end Request

/-- A line that begins with the marker is read as a command. -/
theorem Dispatcher.dispatch_line {text : String} (marked : commandMarker <+: Utf8.encode text)
    (line : OneLine text) (short : (Utf8.encode text).length ≤ commandLineLimit) :
    Dispatcher.new.dispatch (Utf8.encode text) = (.ok (.command text), .new) := by
  rw [dispatch_new_of_command marked, line.commandLine_encode short]
  rfl

theorem Dispatcher.dispatch_undeployCommand {id : String} (line : OneLine id)
    (short : (Utf8.encode (undeployCommand id)).length ≤ commandLineLimit) :
    Dispatcher.new.dispatch (Utf8.encode (undeployCommand id)) =
      (.ok (.command (undeployCommand id)), .new) :=
  dispatch_line (marked_undeployCommand id) (oneLine_undeployCommand line) short

theorem Error.oneLine_frameTooLong (limit : Nat) : OneLine (Error.frameTooLong limit).message := by
  have number : OneLine (toString limit) := by
    refine OneLine.of_clear fun c member => Timestamp.isBlank_of_isDigit ?_
    have digits : (toString limit).toList = Nat.toDigits 10 limit := Nat.toList_repr
    exact Nat.isDigit_of_mem_toDigits (by decide) (by decide) (digits ▸ member)
  have head : OneLine ("protocol" ++ ": ") := by decide
  have detail : OneLine ("frame too long: exceeded " ++ toString limit ++ " bytes") :=
    OneLine.append (OneLine.append (by decide) number) (by decide)
  exact head.append detail

theorem Store.contains_eq (store : Store) (id : String) : store.contains id = (store.get? id).isSome := rfl

namespace Context

variable {services : Services} {context : Context}

theorem respond_undeploy {id : String} (trimmed : Text.trim id = id) :
    context.respond services (undeployCommand id) = context.undeploy id := by
  simp only [respond, execute, Command.parse_undeploy trimmed]

theorem respond_test {id className method : String} (isId : IsWord id) (isClass : IsWord className)
    (isMethod : IsWord method) :
    context.respond services (testCommand id className method) =
      (match context.invoke services id className method with
        | .error error => .ofError error
        | .ok reply => reply, context) := by
  simp only [respond, execute, Command.parse_test isId isClass isMethod]
  cases context.invoke services id className method <;> rfl

end Context

/-! ## Exchanges -/

namespace Client

/-- A connected client takes what its peer delivers, and stays connected unless that is fatal. -/
theorem request_eq {σ α : Type} {remote : Remote σ} {client : Client σ} {bytes delivered : Bytes}
    {ending : Ending} {peer : σ} (connected : client.connected = true)
    (drained : client.link.unread = [])
    (reacts : remote.react client.link.peer bytes = ⟨none, delivered, ending, peer⟩)
    (receive : Link σ → Except Halt α × Link σ) :
    client.request remote bytes receive =
      match receive ⟨peer, delivered, ending⟩ with
      | (.ok value, link) => (.ok value, { client with link })
      | (.error halt, link) => (.error halt, { client with link, connected := !isFatal halt }) := by
  have sent : client.link.send remote bytes = (.ok (), ⟨peer, delivered, ending⟩) := by
    simp only [Link.send, reacts, drained, List.nil_append]
  simp only [request, exchange, connected, if_true, sent]
  rcases receive ⟨peer, delivered, ending⟩ with ⟨halt | value, link⟩
  · cases fatal : isFatal halt with
    | true => simp only [fatal, if_true, close, Bool.not_true]
    | false => simp only [fatal, Bool.false_eq_true, if_false, Bool.not_false]
  · rfl

theorem perform_closed {σ : Type} {remote : Remote σ} {client : Client σ}
    (closed : client.connected = false) (operation : RemoteOperation) :
    client.perform remote operation.toClient = (.error (.failed .closedClient), client) := by
  cases operation <;> exact perform_request_closed closed rfl

end Client

/-- A client between two operations on a context. -/
structure Client.Ready (services : Services) (limit : Nat) (context : Context) (client : Client Served) :
    Prop where
  connected : client.connected = true
  drained : client.link.unread = []
  idle : client.link.peer.Idle services limit context

/-- A client that has been closed, and the context that its connection has left. -/
structure Client.Left (context : Context) (client : Client Served) : Prop where
  closed : client.connected = false
  context_eq : client.link.peer.connection.context = context

namespace Client.Ready

variable {services : Services} {limit : Nat} {context : Context} {client : Client Served}

theorem forget (ready : client.Ready services limit context) (deployment : Option String) :
    { client with deployment }.Ready services limit context :=
  ⟨ready.connected, ready.drained, ready.idle⟩

/-- An exchange whose reply is read to its end. -/
theorem request {α : Type} {body output : Bytes} {request : Except Error Dispatch} {after : Context}
    {receive : Link Served → Except Halt α × Link Served} {value : α}
    (ready : client.Ready services limit context) (clear : ¬ delimiter <:+: body)
    (short : body.length ≤ limit) (dispatched : Dispatcher.new.dispatch body = (request, .new))
    (answered : context.answer services request = ⟨.ok .proceed, output, after⟩)
    (received : ∀ peer, receive ⟨peer, output, .silent⟩ = (.ok value, ⟨peer, [], .silent⟩)) :
    ∃ link, client.request (.serving services) (body ++ delimiter) receive =
        (.ok value, { client with link }) ∧ { client with link }.Ready services limit after := by
  obtain ⟨peer, reacts, _, next⟩ := ready.idle.react clear short dispatched
  rw [answered] at reacts next
  rw [if_pos rfl] at reacts
  refine ⟨⟨peer, [], .silent⟩, ?_, ready.connected, rfl, next rfl⟩
  rw [request_eq ready.connected ready.drained reacts, received]

/-- An exchange that ends the connection without a reply. -/
theorem request_fails {body : Bytes} {request : Except Error Dispatch} {error : Error}
    (ready : client.Ready services limit context) (clear : ¬ delimiter <:+: body)
    (short : body.length ≤ limit) (dispatched : Dispatcher.new.dispatch body = (request, .new))
    (answered : context.answer services request = ⟨.error error, [], context⟩) :
    ∃ after, client.request (.serving services) (body ++ delimiter) Link.readLine =
        (.error (.failed .closedByPeer), after) ∧ after.Left context := by
  obtain ⟨peer, reacts, context_eq, _⟩ := ready.idle.react clear short dispatched
  rw [answered] at reacts context_eq
  rw [if_neg (by simp)] at reacts
  have read : Link.readLine (⟨peer, [], .closed⟩ : Link Served) =
      (.error (.failed .closedByPeer), ⟨peer, [], .closed⟩) := rfl
  refine ⟨{ client with link := ⟨peer, [], .closed⟩, connected := false }, ?_, rfl, context_eq⟩
  rw [request_eq ready.connected ready.drained reacts, read]
  rfl

/-- An exchange whose request is past the limit. -/
theorem request_overlong {body : Bytes} (ready : client.Ready services limit context)
    (clear : ¬ delimiter <:+: body) (long : limit < body.length) :
    ∃ link, client.request (.serving services) (body ++ delimiter) Link.readLine =
        (.ok (Reply.errorHead ++ (Error.frameTooLong limit).message), { client with link }) ∧
      link.peer.connection.context = context := by
  obtain ⟨peer, reacts, context_eq⟩ := ready.idle.react_overlong clear long
  have line : OneLine (Reply.errorHead ++ (Error.frameTooLong limit).message) :=
    OneLine.append (by decide) (Error.oneLine_frameTooLong limit)
  refine ⟨⟨peer, [], .closed⟩, ?_, context_eq⟩
  rw [request_eq ready.connected ready.drained reacts, Reply.failed, line.readLine_alone]

end Client.Ready

/-- A client and the direct use of a context that it stands for. -/
inductive Agrees (services : Services) (limit : Nat) (client : Client Served) (direct : Direct) : Prop
  | ready (usable : direct.usable = true) (ready : client.Ready services limit direct.context)
  | left (unusable : direct.usable = false) (left : client.Left direct.context)

/-- What can be seen of a client after an operation. -/
def Client.observe (performed : Except Halt ClientAnswer × Client Served) :
    Except Halt ClientAnswer × Bool × Context :=
  (performed.1, performed.2.connected, performed.2.link.peer.connection.context)

/-- The same of a direct operation. -/
def Direct.observe (performed : Except Error ClientAnswer × Direct) :
    Except Halt ClientAnswer × Bool × Context :=
  (performed.1.mapError .failed, performed.2.usable, performed.2.context)

/-- Whether two operations return the same and lead to states that agree. -/
def Matches (services : Services) (limit : Nat) (performed : Except Halt ClientAnswer × Client Served)
    (direct : Except Error ClientAnswer × Direct) : Prop :=
  performed.1 = direct.1.mapError .failed ∧ Agrees services limit performed.2 direct.2

namespace Client.Ready

variable {services : Services} {limit : Nat} {context : Context} {client : Client Served}

theorem deployBytes_refused {payload : Bytes} {error : Error} (ready : client.Ready services limit context)
    (sendable : (RemoteOperation.deploy payload).Sendable limit)
    (refused : services.importer context.imports payload = .error error) :
    ∃ after, client.deployBytes (.serving services) payload = (.error (.failed .closedByPeer), after) ∧
      after.Left context := by
  obtain ⟨clear, short⟩ := sendable
  have clearBody : ¬ delimiter <:+: Utf8.encode deployHead ++ payload := by rwa [infix_deploy_iff]
  have answered : context.answer services (.ok (.deploy payload)) = ⟨.error error, [], context⟩ := by
    simp only [Context.answer, Context.ingest, refused]
  obtain ⟨after, exchanged, left⟩ := ready.request_fails clearBody short
    (Dispatcher.dispatch_deploy payload) answered
  refine ⟨after, ?_, left⟩
  simp only [deployBytes, ofDeploy, exchanged]

/-- A deploy is answered with the ID of the archive, which the client remembers. -/
theorem deployBytes_imported {payload : Bytes} {archive : Archive}
    (ready : client.Ready services limit context)
    (sendable : (RemoteOperation.deploy payload).Sendable limit)
    (imported : services.importer context.imports payload = .ok archive) (named : OneLine archive.id) :
    ∃ after, client.deployBytes (.serving services) payload = (.ok archive.id, after) ∧
      after.Ready services limit (context.ingest services payload).2 ∧
      after.deployment = some archive.id := by
  obtain ⟨clear, short⟩ := sendable
  have clearBody : ¬ delimiter <:+: Utf8.encode deployHead ++ payload := by rwa [infix_deploy_iff]
  have answered : context.answer services (.ok (.deploy payload)) =
      ⟨.ok .proceed, (Reply.line (Reply.okHead ++ (deployHead ++ archive.id))).encode,
        (context.ingest services payload).2⟩ := by
    simp only [Context.answer, Context.ingest, imported]
    rfl
  have line : OneLine (Reply.okHead ++ (deployHead ++ archive.id)) :=
    OneLine.append (by decide) (OneLine.append (by decide) named)
  obtain ⟨link, exchanged, next⟩ := ready.request clearBody short
    (Dispatcher.dispatch_deploy payload) answered (line.readLine_alone · .silent)
  refine ⟨{ client with link, deployment := some archive.id }, ?_, next.forget _, rfl⟩
  simp only [deployBytes, ofDeploy, exchanged, Reply.deployedId?_deployed]

theorem matches_deploy {payload : Bytes} (ready : client.Ready services limit context)
    (sendable : (RemoteOperation.deploy payload).Sendable limit)
    (inLine : (Direct.mk context true).RepliesInLine services (.deploy payload)) :
    Matches services limit (client.perform (.serving services) (.deployBytes payload))
      ((Direct.mk context true).perform services (.deploy payload)) := by
  cases imported : services.importer context.imports payload with
  | error error =>
    obtain ⟨after, deployed, left⟩ := ready.deployBytes_refused sendable imported
    simp only [perform, deployed, Direct.perform, imported, if_true]
    exact ⟨rfl, .left rfl left⟩
  | ok archive =>
    obtain ⟨after, deployed, next, -⟩ :=
      ready.deployBytes_imported sendable imported (inLine archive imported)
    simp only [perform, deployed, Direct.perform, imported, if_true]
    exact ⟨rfl, .ready rfl next⟩

theorem undeployId_found {id : String} {archive : Archive} (ready : client.Ready services limit context)
    (sendable : (RemoteOperation.undeploy id).Sendable limit)
    (found : context.store.get? id = some archive) :
    ∃ after, client.undeployId (.serving services) id = (.ok (), after) ∧
      after.Ready services limit (context.undeploy id).2 := by
  obtain ⟨clear, trimmed, noFeed, short⟩ := sendable
  have idLine : OneLine id := OneLine.of_trimmed noFeed trimmed
  have responds : context.respond services (undeployCommand id) = context.undeploy id :=
    Context.respond_undeploy trimmed
  have answered : context.answer services (.ok (.command (undeployCommand id))) =
      ⟨.ok .proceed, (Reply.line (Reply.okHead ++ id)).encode, (context.undeploy id).2⟩ := by
    simp only [Context.answer, responds, Context.undeploy, Store.remove, found]
    rfl
  have line : OneLine (Reply.okHead ++ id) := OneLine.append (by decide) idLine
  obtain ⟨link, exchanged, next⟩ := ready.request (Request.clear_undeployCommand clear) (by omega)
    (Dispatcher.dispatch_undeployCommand idLine (by omega)) answered (line.readLine_alone · .silent)
  simp only [undeployId, ofCommand, exchanged, Reply.startsWith_ok, if_true]
  refine ⟨_, rfl, ?_⟩
  split
  · exact next.forget none
  · exact next

theorem undeployId_missing {id : String} (ready : client.Ready services limit context)
    (sendable : (RemoteOperation.undeploy id).Sendable limit) (missing : context.store.get? id = none) :
    ∃ after, client.undeployId (.serving services) id = (.error (.failed (.nothingToUndeploy id)), after) ∧
      after.Ready services limit context := by
  obtain ⟨clear, trimmed, noFeed, short⟩ := sendable
  have idLine : OneLine id := OneLine.of_trimmed noFeed trimmed
  have responds : context.respond services (undeployCommand id) = context.undeploy id :=
    Context.respond_undeploy trimmed
  have answered : context.answer services (.ok (.command (undeployCommand id))) =
      ⟨.ok .proceed, (Reply.line (Reply.errorHead ++ (Error.nothingToUndeploy id).detail)).encode,
        context⟩ := by
    simp only [Context.answer, responds, Context.undeploy, Store.remove, missing]
    rfl
  have line : OneLine (Reply.errorHead ++ (Error.nothingToUndeploy id).detail) :=
    OneLine.append (by decide) (OneLine.append (OneLine.append (by decide) idLine) (by decide))
  obtain ⟨link, exchanged, next⟩ := ready.request (Request.clear_undeployCommand clear) (by omega)
    (Dispatcher.dispatch_undeployCommand idLine (by omega)) answered (line.readLine_alone · .silent)
  simp only [undeployId, ofCommand, exchanged, Reply.not_startsWith_ok, Bool.false_eq_true, if_false,
    Error.remote_failed]
  exact ⟨_, rfl, next⟩

theorem matches_undeploy {id : String} (ready : client.Ready services limit context)
    (sendable : (RemoteOperation.undeploy id).Sendable limit) :
    Matches services limit (client.perform (.serving services) (.undeployId id))
      ((Direct.mk context true).perform services (.undeploy id)) := by
  cases found : context.store.get? id with
  | some archive =>
    obtain ⟨after, undeployed, next⟩ := ready.undeployId_found sendable found
    have contained : context.store.contains id = true := by
      rw [Store.contains_eq, found, Option.isSome_some]
    simp only [perform, undeployed, Direct.perform, contained, if_true]
    exact ⟨rfl, .ready rfl next⟩
  | none =>
    obtain ⟨after, undeployed, next⟩ := ready.undeployId_missing sendable found
    have missing : context.store.contains id = false := by
      rw [Store.contains_eq, found, Option.isSome_none]
    simp only [perform, undeployed, Direct.perform, missing, Bool.false_eq_true, if_false, if_true]
    exact ⟨rfl, .ready rfl next⟩

/-- The error of a test is told by a line, whose first octet no result begins with. -/
theorem receiveResult_reported {error : Error} (line : OneLine error.message) (peer : Served) :
    receiveResult ⟨peer, (Reply.ofError error).encode, .silent⟩ =
      (.ok (.error (Reply.errorHead ++ error.reported.detail)), ⟨peer, [], .silent⟩) := by
  have reply : Reply.ofError error = .line (Reply.errorHead ++ error.reported.detail) := rfl
  have whole : OneLine (Reply.errorHead ++ error.reported.detail) :=
    OneLine.append (by decide) (OneLine.append (by decide) line)
  have read := whole.readLine_alone peer .silent
  have peeked : Link.peek (⟨peer, (Reply.line (Reply.errorHead ++ error.reported.detail)).encode, .silent⟩ :
      Link Served) = .ok 0x45 := by
    have head : Utf8.encode Reply.errorHead = [0x45, 0x52, 0x52, 0x20] := by decide
    rw [Reply.encode, Utf8.encode_append, head]
    rfl
  rw [reply]
  simp only [receiveResult, peeked, if_true, read]
  rfl

theorem receiveResult_alone (result : TestResult) (peer : Served) :
    receiveResult ⟨peer, result.encode, .silent⟩ = (.ok (.ok result), ⟨peer, [], .silent⟩) := by
  have read := receiveResult_encode result peer [] .silent
  rwa [List.append_nil] at read

theorem matches_test {id className method : String} (ready : client.Ready services limit context)
    (sendable : (RemoteOperation.test id className method).Sendable limit)
    (inLine : (Direct.mk context true).RepliesInLine services (.test id className method)) :
    Matches services limit (client.perform (.serving services) (.invokeOn id className method))
      ((Direct.mk context true).perform services (.test id className method)) := by
  obtain ⟨words, short⟩ := sendable
  obtain ⟨clearId, isId⟩ := words id (by simp)
  obtain ⟨clearClass, isClass⟩ := words className (by simp)
  obtain ⟨clearMethod, isMethod⟩ := words method (by simp)
  have clear := Request.clear_testCommand clearId clearClass clearMethod
  have idLine : OneLine id := OneLine.of_clear isId.clear
  have line := Request.oneLine_testCommand idLine (.of_clear isClass.clear) (.of_clear isMethod.clear)
  have dispatched := Dispatcher.dispatch_line (Request.marked_testCommand id className method) line (by omega)
  have responds : context.respond services (testCommand id className method) = _ :=
    Context.respond_test isId isClass isMethod
  -- The test is told of by a line if it has an error, and by its result else.
  have told (error : Error) (line : OneLine error.message)
      (invoked : context.invoke services id className method = .error error) :
      Matches services limit (client.perform (.serving services) (.invokeOn id className method))
        (.error error.reported, ⟨context, true⟩) := by
    have answered : context.answer services (.ok (.command (testCommand id className method))) =
        ⟨.ok .proceed, (Reply.ofError error).encode, context⟩ := by
      simp only [Context.answer, responds, invoked]
    obtain ⟨link, exchanged, next⟩ := ready.request clear (by omega) dispatched answered
      (receiveResult_reported line)
    simp only [perform, invokeOn, ofCommand, exchanged, Error.remote_failed]
    exact ⟨rfl, .ready rfl next⟩
  cases found : context.store.get? id with
  | none =>
    have notDeployed : OneLine (Error.notDeployed id).message :=
      OneLine.append (show OneLine ("not found" ++ ": ") by decide)
        (OneLine.append (OneLine.append (by decide) idLine) (by decide))
    have invoked : context.invoke services id className method = .error (.notDeployed id) := by
      simp only [Context.invoke, found]
    simp only [Direct.perform, if_true, found]
    exact told (.notDeployed id) notDeployed invoked
  | some archive =>
    cases executed : services.executor archive className method with
    | error error =>
      have invoked : context.invoke services id className method = .error error := by
        simp only [Context.invoke, found, executed]
        rfl
      simp only [Direct.perform, if_true, found, executed]
      exact told error (inLine archive error found executed) invoked
    | ok result =>
      have answered : context.answer services (.ok (.command (testCommand id className method))) =
          ⟨.ok .proceed, result.encode, context⟩ := by
        simp only [Context.answer, responds, Context.invoke, found, executed]
        rfl
      obtain ⟨link, exchanged, next⟩ := ready.request clear (by omega) dispatched answered
        (receiveResult_alone result)
      simp only [perform, invokeOn, ofCommand, exchanged, Direct.perform, if_true, found, executed]
      exact ⟨rfl, .ready rfl next⟩

end Client.Ready

/-! ## Sessions -/

section

variable {services : Services} {limit : Nat} {client : Client Served} {direct : Direct}

/-- One operation through a client is one direct operation. -/
theorem Agrees.perform (agrees : Agrees services limit client direct) {operation : RemoteOperation}
    (sendable : operation.Sendable limit)
    (inLine : direct.usable → direct.RepliesInLine services operation) :
    Matches services limit (client.perform (.serving services) operation.toClient)
      (direct.perform services operation) := by
  cases agrees with
  | ready usable ready =>
    obtain ⟨context, _⟩ := direct
    obtain rfl := usable
    cases operation with
    | deploy payload => exact ready.matches_deploy sendable (inLine rfl)
    | undeploy id => exact ready.matches_undeploy sendable
    | test id className method => exact ready.matches_test sendable (inLine rfl)
  | left unusable left =>
    have unused : direct.perform services operation = (.error .closedClient, direct) := by
      simp only [Direct.perform, unusable, Bool.false_eq_true, if_false]
    rw [Client.perform_closed left.closed, unused]
    exact ⟨rfl, .left unusable left⟩

theorem Matches.observe {performed : Except Halt ClientAnswer × Client Served}
    {done : Except Error ClientAnswer × Direct} (matching : Matches services limit performed done) :
    Client.observe performed = Direct.observe done := by
  obtain ⟨result, client⟩ := performed
  obtain ⟨expected, context, usable⟩ := done
  obtain ⟨same, agrees⟩ := matching
  rw [Client.observe, Direct.observe]
  cases agrees with
  | ready usable ready => rw [same, ready.connected, ready.idle.context_eq, usable]
  | left unusable left => rw [same, left.closed, left.context_eq, unusable]

/-- An operation that agrees with a direct one comes to an end. -/
theorem Matches.not_waiting {performed : Except Halt ClientAnswer × Client Served}
    {done : Except Error ClientAnswer × Direct} (matching : Matches services limit performed done) :
    performed.1 ≠ .error .waiting := by
  rw [matching.1]
  cases done.1 <;> simp [Except.mapError]

/-- A session through a client is a row of direct operations. -/
theorem Agrees.performAll (agrees : Agrees services limit client direct)
    {operations : List RemoteOperation} (sendable : ∀ operation ∈ operations, operation.Sendable limit)
    (inLine : direct.AllReplyInLine services operations) :
    (client.performAll (.serving services) (operations.map RemoteOperation.toClient)).map Client.observe =
      (direct.performAll services operations).map Direct.observe := by
  induction operations generalizing client direct with
  | nil => rfl
  | cons operation operations ih =>
    have matching := agrees.perform (sendable operation (List.mem_cons_self ..)) inLine.1
    have rest := ih matching.2 (fun other member => sendable other (List.mem_cons_of_mem _ member)) inLine.2
    have first := matching.observe
    have ends := matching.not_waiting
    rw [List.map_cons, Client.performAll, Direct.performAll]
    generalize client.perform (.serving services) operation.toClient = performed at first rest ends
    obtain ⟨result, after⟩ := performed
    dsimp only at first rest ends ⊢
    split
    · next same =>
      obtain ⟨rfl, _⟩ := Prod.mk.inj same
      exact absurd rfl ends
    · next same =>
      obtain ⟨rfl, rfl⟩ := Prod.mk.inj same
      rw [List.map_cons, List.map_cons, first, rest]

end

/-- What operations through a connected client return and leave on the server is what they return and
leave on its context directly, and a closed client reaches the server no more. -/
theorem Client.performAll_eq_direct (importer : Importer) (executor : Executor) (context : Context)
    (limit : Nat) (operations : List RemoteOperation)
    (sendable : ∀ operation ∈ operations, operation.Sendable limit)
    (inLine : (Direct.mk context true).AllReplyInLine { importer, executor } operations) :
    ((Client.new (Served.start context limit).link).performAll (.serving { importer, executor })
        (operations.map RemoteOperation.toClient)).map Client.observe =
      ((Direct.mk context true).performAll { importer, executor } operations).map Direct.observe ∧
    ∀ client : Client Served, client.connected = false → ∀ operation : RemoteOperation,
      client.perform (.serving { importer, executor }) operation.toClient =
        (.error (.failed .closedClient), client) := by
  have ready : (Client.new (Served.start context limit).link).Ready { importer, executor } limit context :=
    ⟨rfl, rfl, Served.idle_start importer executor context limit⟩
  exact ⟨Agrees.performAll (.ready rfl ready) sendable inLine,
    fun client closed operation => Client.perform_closed closed operation⟩

theorem Client.performAll_eq_direct_session :
    let importer : Importer := fun _ payload =>
      if payload = [] then .error ⟨.deploy, "no archive"⟩ else .ok (.new "a")
    let executor : Executor := fun _ _ method =>
      if method = "m" then .ok ⟨.failed, some "<ERR>", ⟨0, 5, by decide, by decide, by decide, by decide⟩,
        ⟨1, 0, by decide, by decide, by decide, by decide⟩⟩
      else .error ⟨.execution, "no method"⟩
    let operations : List RemoteOperation :=
      [.deploy [0x61], .test "a" "C" "m", .test "a" "C" "n", .undeploy "a", .undeploy "a", .deploy [],
        .undeploy "a"]
    (∀ operation ∈ operations, operation.Sendable 100) ∧
      (Direct.mk (.new .empty) true).AllReplyInLine { importer, executor } operations ∧
      (((Client.new (Served.start (.new .empty) 100).link).performAll (.serving { importer, executor })
          (operations.map RemoteOperation.toClient)).map Client.observe).map Prod.fst =
        [.ok (.deployed "a"),
          .ok (.tested ⟨.failed, some "<ERR>", ⟨0, 5, by decide, by decide, by decide, by decide⟩,
            ⟨1, 0, by decide, by decide, by decide, by decide⟩⟩),
          .error (.failed (Error.reported ⟨.execution, "no method"⟩)), .ok .done,
          .error (.failed (.nothingToUndeploy "a")), .error (.failed .closedByPeer),
          .error (.failed .closedClient)] := by
  intro importer executor operations
  have sendable : ∀ operation ∈ operations, operation.Sendable 100 := by decide +kernel
  have imports (serial : Nat) (archive : Archive) (imported : importer serial [0x61] = .ok archive) :
      OneLine archive.id := by
    obtain rfl := Except.ok.inj imported
    decide
  have refuses (serial : Nat) (archive : Archive) (imported : importer serial [] = .ok archive) :
      OneLine archive.id := nomatch imported
  have fails (archive : Archive) (method : String) (error : Error)
      (executed : executor archive "C" method = .error error) : OneLine error.message := by
    simp only [executor] at executed
    split at executed
    · exact nomatch executed
    · obtain rfl := Except.error.inj executed
      decide
  have inLine : (Direct.mk (.new .empty) true).AllReplyInLine { importer, executor } operations :=
    ⟨fun _ archive imported => imports 0 archive imported,
      fun _ archive error _ executed => fails archive "m" error executed,
      fun _ archive error _ executed => fails archive "n" error executed, fun _ => trivial, fun _ => trivial,
      fun _ archive refused => refuses 1 archive refused, fun _ => trivial, trivial⟩
  refine ⟨sendable, inLine, ?_⟩
  rw [(Client.performAll_eq_direct importer executor _ 100 operations sendable inLine).1]
  rfl

end TestDaemon
