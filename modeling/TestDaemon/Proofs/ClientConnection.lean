import TestDaemon.Client.Canned
import TestDaemon.Client.Operation
import TestDaemon.Proofs.Fallible
import Mathlib.Data.List.Basic

/-! # The connection of a client

Whatever its peer does, the result of an operation tells what has become of the connection. An operation
that asks for one thing ends the connection exactly if it fails by a fault of the link, or of the encoding
of what came over it, and keeps it as it was with any other result (`Client.Settled`). A client that is not
connected stays as it is: nothing connects it again, and nothing is sent.
-/

namespace TestDaemon

namespace ClientOperation

/-- The operations that ask for one thing and read the reply. -/
def isExchange : ClientOperation → Bool
  | deployBytes _ | undeploy | undeployId _ | invoke .. | invokeOn .. => true
  | deploy _ | runTest .. | stop | close => false

/-- The operations that begin with a request, whatever the client remembers. -/
def isRequest : ClientOperation → Bool
  | deployBytes _ | undeployId _ | invokeOn .. | stop => true
  | deploy _ | undeploy | invoke .. | runTest .. | close => false

/-- The operations after which a client is done. -/
def isFarewell : ClientOperation → Bool
  | stop | close => true
  | deployBytes _ | deploy _ | undeploy | undeployId _ | invoke .. | invokeOn .. | runTest .. => false

end ClientOperation

/-! ## Faults of the link -/

/-- The kinds of error that a link can raise. -/
def ErrorKind.isFault (kind : ErrorKind) : Prop := kind = .io ∨ kind = .protocol

theorem Client.isFatal_iff {error : Error} : Client.isFatal (.failed error) = true ↔ error.kind.isFault := by
  simp [Client.isFatal, ErrorKind.isFault]

/-- Whether what is done with a link can fail by faults alone. -/
def Link.Faulting {σ α : Type} (act : Link σ → Except Halt α × Link σ) : Prop :=
  ∀ link error, (act link).1 = .error (.failed error) → error.kind.isFault

namespace Link

variable {σ α : Type}

theorem isFault_of_starved {link : Link σ} {error : Error} (starved : link.starved = .failed error) :
    error.kind.isFault := by
  unfold Link.starved at starved
  cases ending : link.ending with
  | silent => simp [ending] at starved
  | closed =>
    obtain rfl : Error.closedByPeer = error := by simpa [ending] using starved
    exact .inl rfl
  | failed text =>
    obtain rfl : ⟨.io, text⟩ = error := by simpa [ending] using starved
    exact .inl rfl

theorem isFault_of_lineOf {bytes : Bytes} {error : Error} (read : lineOf bytes = .error (.failed error)) :
    error.kind.isFault := by
  unfold lineOf at read
  split at read
  · cases read
  · obtain rfl := Halt.failed.inj (Except.error.inj read)
    exact .inl rfl

theorem faulting_readLine : Faulting (readLine (σ := σ)) := by
  intro link error failed
  unfold readLine at failed
  split at failed
  · exact isFault_of_lineOf failed
  · split at failed
    · exact isFault_of_lineOf failed
    · exact isFault_of_starved (Except.error.inj failed)

theorem faulting_readResult : Faulting (readResult (σ := σ)) := by
  intro link error failed
  unfold readResult at failed
  split at failed
  · cases failed
  · next fault _ =>
    -- A fault in the encoding, or the lack of bytes that is behind it.
    have malformed {error : Error}
        (told : Halt.failed (.malformedResult link.unread fault) = .failed error) : error.kind.isFault := by
      obtain rfl := Halt.failed.inj told
      exact .inr rfl
    have told := Except.error.inj failed
    split at told
    · exact malformed told
    · exact isFault_of_starved told
    · exact isFault_of_starved told
    · exact malformed told

/-- A request that is sent first can only add a fault. -/
theorem Faulting.send {receive : Link σ → Except Halt α × Link σ} (faulting : Faulting receive)
    (remote : Remote σ) (bytes : Bytes) :
    Faulting fun link => match link.send remote bytes with
      | (.error halt, link) => (.error halt, link)
      | (.ok (), link) => receive link := by
  intro link error failed
  dsimp only at failed
  split at failed
  · next halt after sent =>
    unfold Link.send at sent
    dsimp only at sent
    split at sent
    · obtain rfl := Except.error.inj failed
      obtain rfl := Halt.failed.inj (Except.error.inj (Prod.mk.inj sent).1)
      exact .inl rfl
    · cases (Prod.mk.inj sent).1
  · exact faulting _ error failed

end Link

theorem Client.faulting_receiveResult {σ : Type} : Link.Faulting (Client.receiveResult (σ := σ)) := by
  intro link error failed
  unfold Client.receiveResult at failed
  split at failed
  · next halt peeked =>
    unfold Link.peek at peeked
    split at peeked
    · exact Link.isFault_of_starved ((Except.error.inj peeked).trans (Except.error.inj failed))
    · cases peeked
  · split at failed
    · exact Link.faulting_readLine link error (map_eq_error_iff.mp failed)
    · exact Link.faulting_readResult link error (map_eq_error_iff.mp failed)

/-! ## One operation -/

namespace Client

variable {σ α β : Type} {remote : Remote σ} {client : Client σ}

/-- What the result of an operation tells about the connection. -/
structure Settled (client : Client σ) (outcome : Except Halt α × Client σ) : Prop where
  broken : ∀ error, outcome.1 = .error (.failed error) → error.kind.isFault → outcome.2.connected = false
  answered : ∀ value, outcome.1 = .ok value → outcome.2.connected = client.connected
  reported : ∀ error, outcome.1 = .error (.failed error) → ¬ error.kind.isFault →
    error.kind ∈ [.command, .deploy, .lifecycle] ∧ outcome.2.connected = client.connected

namespace Settled

theorem error {halt : Halt} {after : Client σ}
    (settled : client.Settled ((.error halt, after) : Except Halt α × Client σ)) :
    client.Settled ((.error halt, after) : Except Halt β × Client σ) := by
  refine ⟨fun error failed => ?_, fun value answered => (nomatch answered), fun error failed => ?_⟩
  · obtain rfl := Except.error.inj failed
    exact settled.broken error rfl
  · obtain rfl := Except.error.inj failed
    exact settled.reported error rfl

/-- An answer may be put to use. -/
theorem ok {value : α} {after next : Client σ} (settled : client.Settled (.ok value, after))
    (same : next.connected = after.connected) (other : β) : client.Settled (.ok other, next) := by
  refine ⟨fun error failed => (nomatch failed), fun _ _ => ?_, fun error failed => (nomatch failed)⟩
  rw [same]
  exact settled.answered value rfl

/-- An answer may be a report of an error. -/
theorem report {value : α} {after : Client σ} (settled : client.Settled (.ok value, after)) {told : Error}
    (kind : told.kind ∈ [.command, .deploy, .lifecycle]) :
    client.Settled ((.error (.failed told), after) : Except Halt β × Client σ) := by
  have same := settled.answered value rfl
  refine ⟨fun error failed fault => ?_, fun value answered => (nomatch answered), fun error failed _ => ?_⟩
  · obtain rfl := Halt.failed.inj (Except.error.inj failed)
    rcases fault with io | protocol
    · simp [io] at kind
    · simp [protocol] at kind
  · obtain rfl := Halt.failed.inj (Except.error.inj failed)
    exact ⟨kind, same⟩

theorem map {outcome : Except Halt α × Client σ} (settled : client.Settled outcome) (f : α → β) :
    client.Settled (outcome.1.map f, outcome.2) := by
  obtain ⟨halt | value, after⟩ := outcome
  · exact settled.error
  · exact settled.ok rfl (f value)

end Settled

theorem refuse_settled {told : Error} (kind : told.kind ∈ [.command, .deploy, .lifecycle]) :
    client.Settled ((.error (.failed told), client) : Except Halt α × Client σ) := by
  have unchanged : client.Settled ((.ok (), client) : Except Halt Unit × Client σ) :=
    ⟨fun _ failed => (nomatch failed), fun _ _ => rfl, fun _ failed => (nomatch failed)⟩
  exact unchanged.report kind

theorem exchange_settled {act : Link σ → Except Halt α × Link σ} (faulting : Link.Faulting act)
    (client : Client σ) : client.Settled (client.exchange act) := by
  unfold exchange
  split
  · next connected =>
    cases acted : act client.link with
    | mk outcome link =>
      cases outcome with
      | ok value =>
        exact ⟨fun error failed => (nomatch failed), fun _ _ => rfl, fun error failed => (nomatch failed)⟩
      | error halt =>
        refine ⟨fun error failed fault => ?_, fun value answered => (nomatch answered), fun error failed sound => ?_⟩
        · obtain rfl := Except.error.inj failed
          simp only [if_pos (isFatal_iff.mpr fault), close]
        · obtain rfl := Except.error.inj failed
          exact absurd (faulting client.link error (congrArg Prod.fst acted)) sound
  · exact refuse_settled (by decide)

/-- A failed exchange leaves no connection. -/
theorem exchange_failed {act : Link σ → Except Halt α × Link σ} (faulting : Link.Faulting act)
    {error : Error} {after : Client σ} (failed : client.exchange act = (.error (.failed error), after)) :
    after.connected = false := by
  unfold exchange at failed
  split at failed
  · cases acted : act client.link with
    | mk outcome link =>
      rw [acted] at failed
      cases outcome with
      | ok value => cases (Prod.mk.inj failed).1
      | error halt =>
        obtain ⟨told, rfl⟩ := Prod.mk.inj failed
        obtain rfl := Except.error.inj told
        have fault := faulting client.link error (congrArg Prod.fst acted)
        simp only [if_pos (isFatal_iff.mpr fault), close]
  · next disconnected =>
    obtain ⟨-, rfl⟩ := Prod.mk.inj failed
    exact Bool.eq_false_iff.mpr disconnected

theorem request_settled {receive : Link σ → Except Halt α × Link σ} (faulting : Link.Faulting receive)
    (bytes : Bytes) : client.Settled (client.request remote bytes receive) :=
  exchange_settled (faulting.send remote bytes) client

theorem deployBytes_settled (archive : Bytes) : client.Settled (client.deployBytes remote archive) := by
  have settled : client.Settled (client.request remote (Request.ofDeploy archive) Link.readLine) :=
    request_settled Link.faulting_readLine _
  unfold deployBytes
  generalize client.request remote (Request.ofDeploy archive) Link.readLine = outcome at settled ⊢
  obtain ⟨halt | line, after⟩ := outcome
  · exact settled.error
  · dsimp only
    split
    · exact settled.report (by simp [Error.unexpectedDeployReply])
    · next id _ =>
      refine settled.ok ?_ id
      rfl

theorem remote_kind (line : String) : (Error.remote line).kind = .command := by
  unfold Error.remote
  split <;> rfl

theorem undeployId_settled (id : String) : client.Settled (client.undeployId remote id) := by
  have settled : client.Settled
      (client.request remote (Request.ofCommand (Request.undeployCommand id)) Link.readLine) :=
    request_settled Link.faulting_readLine _
  unfold undeployId
  generalize client.request remote _ Link.readLine = outcome at settled ⊢
  obtain ⟨halt | line, after⟩ := outcome
  · exact settled.error
  · dsimp only
    split
    · refine settled.ok ?_ ()
      split <;> rfl
    · exact settled.report (by rw [remote_kind]; decide)

theorem invokeOn_settled (id className method : String) :
    client.Settled (client.invokeOn remote id className method) := by
  have settled : client.Settled
      (client.request remote (Request.ofCommand (Request.testCommand id className method)) receiveResult) :=
    request_settled faulting_receiveResult _
  unfold invokeOn
  generalize client.request remote _ receiveResult = outcome at settled ⊢
  obtain ⟨halt | (line | result), after⟩ := outcome
  · exact settled.error
  · exact settled.report (by rw [remote_kind]; decide)
  · exact settled.ok rfl result

theorem withDeployment_settled {act : String → Except Halt α × Client σ}
    (settled : ∀ id, client.Settled (act id)) : client.Settled (client.withDeployment act) := by
  unfold withDeployment
  split
  · exact refuse_settled (by decide)
  · exact settled _

theorem perform_settled {operation : ClientOperation} (exchange : operation.isExchange = true) :
    client.Settled (client.perform remote operation) := by
  cases operation with
  | deployBytes archive => exact (deployBytes_settled archive).map _
  | undeploy => exact (withDeployment_settled undeployId_settled).map _
  | undeployId id => exact (undeployId_settled id).map _
  | invoke className method =>
    exact (withDeployment_settled fun id => invokeOn_settled id className method).map _
  | invokeOn id className method => exact (invokeOn_settled id className method).map _
  | deploy | runTest | stop | close => contradiction

/-! ## A client that is done -/

theorem exchange_closed (closed : client.connected = false) (act : Link σ → Except Halt α × Link σ) :
    client.exchange act = (.error (.failed .closedClient), client) := by
  simp only [exchange, closed, Bool.false_eq_true, if_false]

/-- A client that is not connected does nothing. -/
theorem request_closed (closed : client.connected = false) (bytes : Bytes)
    (receive : Link σ → Except Halt α × Link σ) :
    client.request remote bytes receive = (.error (.failed .closedClient), client) :=
  exchange_closed closed _

theorem close_closed (closed : client.connected = false) : client.close = client := by
  rw [close, ← closed]

theorem perform_request_closed (closed : client.connected = false) {operation : ClientOperation}
    (request : operation.isRequest = true) :
    client.perform remote operation = (.error (.failed .closedClient), client) := by
  cases operation with
  | deployBytes archive => simp only [perform, deployBytes, request_closed closed, Except.map]
  | undeployId id => simp only [perform, undeployId, request_closed closed, Except.map]
  | invokeOn id className method => simp only [perform, invokeOn, request_closed closed, Except.map]
  | stop => simp only [perform, stop, request_closed closed, Except.map]
  | deploy | undeploy | invoke | runTest | close => contradiction

/-- No operation changes a client that is not connected. -/
theorem perform_of_closed (closed : client.connected = false) (operation : ClientOperation) :
    (client.perform remote operation).2 = client := by
  have deploys (archive : Bytes) : (client.deployBytes remote archive).2 = client := by
    simp only [deployBytes, request_closed closed]
  have undeploys (id : String) : (client.undeployId remote id).2 = client := by
    simp only [undeployId, request_closed closed]
  have invokes (id className method : String) : (client.invokeOn remote id className method).2 = client := by
    simp only [invokeOn, request_closed closed]
  cases operation with
  | deployBytes archive => exact deploys archive
  | deploy archive =>
    simp only [perform, deploy]
    split
    · rfl
    · exact deploys _
  | undeploy =>
    simp only [perform, undeploy, withDeployment]
    split
    · rfl
    · exact undeploys _
  | undeployId id => exact undeploys id
  | invoke className method =>
    simp only [perform, invoke, withDeployment]
    split
    · rfl
    · exact invokes ..
  | invokeOn id className method => exact invokes id className method
  | runTest archive className method => simp only [perform, runTest, deployBytes, request_closed closed]
  | stop => simp only [perform, stop, request_closed closed]
  | close => exact close_closed closed

/-- A client that has been stopped or closed is not connected. -/
theorem perform_farewell {operation : ClientOperation} (farewell : operation.isFarewell = true)
    (returned : (client.perform remote operation).1 ≠ .error .waiting) :
    (client.perform remote operation).2.connected = false := by
  cases operation with
  | close => rfl
  | stop =>
    have silent : Link.Faulting fun link : Link σ => ((.ok (), link) : Except Halt Unit × Link σ) :=
      fun _ _ failed => nomatch failed
    simp only [perform, stop] at returned ⊢
    cases requested : client.request remote (Request.ofCommand Request.stopCommand)
        fun link => (.ok (), link) with
    | mk outcome after =>
      rw [requested] at returned
      cases outcome with
      | error halt =>
        cases halt with
        | waiting => exact absurd rfl returned
        | failed error => exact exchange_failed (silent.send remote _) requested
      | ok _ =>
        -- The acknowledgement is awaited, whatever it says.
        dsimp only at returned ⊢
        split
        · next acknowledged =>
          rw [acknowledged] at returned
          exact absurd rfl returned
        · rfl
  | deployBytes | deploy | undeploy | undeployId | invoke | invokeOn | runTest => contradiction

end Client

/-! ## Operations in a row -/

/-- One operation of a client, with the client before it and after it. -/
structure Turn (σ : Type) where
  before : Client σ
  operation : ClientOperation
  result : Except Halt ClientAnswer
  after : Client σ

namespace Client

variable {σ : Type} {remote : Remote σ} {client : Client σ}

/-- Whether an operation never returns. -/
def waits : Except Halt ClientAnswer → Bool
  | .error .waiting => true
  | _ => false

def turn (remote : Remote σ) (client : Client σ) (operation : ClientOperation) : Turn σ :=
  ⟨client, operation, (client.perform remote operation).1, (client.perform remote operation).2⟩

/-- The operations that a client carries out in a row, up to one that never returns. -/
def turns (remote : Remote σ) (client : Client σ) : List ClientOperation → List (Turn σ)
  | [] => []
  | operation :: operations =>
    let turn := client.turn remote operation
    turn :: if waits turn.result then [] else turns remote turn.after operations

theorem performAll_cons (remote : Remote σ) (client : Client σ) (operation : ClientOperation)
    (operations : List ClientOperation) :
    client.performAll remote (operation :: operations) =
      let turn := client.turn remote operation
      (turn.result, turn.after) :: if waits turn.result then [] else turn.after.performAll remote operations := by
  rw [performAll, turn]
  rcases client.perform remote operation with ⟨(error | _) | answer, after⟩ <;> rfl

/-- A row of turns says what the operations return, and what they leave. -/
theorem map_turns (remote : Remote σ) (client : Client σ) (operations : List ClientOperation) :
    (client.turns remote operations).map (fun turn => (turn.result, turn.after)) =
      client.performAll remote operations := by
  induction operations generalizing client with
  | nil => rfl
  | cons operation operations ih =>
    simp only [performAll_cons, turns, List.map_cons]
    split
    · rfl
    · rw [ih]

/-- The turns behind one of a row are a row of the client that it leaves. -/
theorem turns_split {operations : List ClientOperation} {prior later : List (Turn σ)} {turn : Turn σ}
    (split : client.turns remote operations = prior ++ turn :: later) :
    turn = turn.before.turn remote turn.operation ∧
      ∃ rest, later = turn.after.turns remote rest := by
  induction prior generalizing client operations with
  | nil =>
    cases operations with
    | nil => cases split
    | cons operation operations =>
      obtain ⟨rfl, rfl⟩ := List.cons_eq_cons.mp split
      refine ⟨rfl, ?_⟩
      split
      · exact ⟨[], rfl⟩
      · exact ⟨operations, rfl⟩
  | cons first prior ih =>
    cases operations with
    | nil => cases split
    | cons operation operations =>
      obtain ⟨-, rest⟩ := List.cons_eq_cons.mp split
      split at rest
      · exact absurd rest (by simp)
      · exact ih rest

/-- A client that is not connected stays as it is for good. -/
theorem turns_closed (closed : client.connected = false) (operations : List ClientOperation) :
    ∀ turn ∈ client.turns remote operations, turn.after = client ∧
      (turn.operation.isRequest = true → turn.result = .error (.failed .closedClient)) := by
  induction operations with
  | nil => exact fun turn member => nomatch member
  | cons operation operations ih =>
    have same : (client.turn remote operation).after = client := perform_of_closed closed operation
    intro turn member
    rcases List.mem_cons.mp member with rfl | later
    · exact ⟨same, fun request => congrArg Prod.fst (perform_request_closed closed request)⟩
    · rw [same] at later
      split at later
      · contradiction
      · exact ih turn later

end Client

/-- What a turn makes of the connection: what its result tells of it, that it is over with a farewell, and
that nothing comes of it where there is none. -/
structure Turn.Orderly {σ : Type} (turn : Turn σ) : Prop where
  settled : turn.operation.isExchange = true → turn.before.Settled (turn.result, turn.after)
  farewell : turn.operation.isFarewell = true → turn.result ≠ .error .waiting →
    turn.after.connected = false
  refused : turn.before.connected = false → turn.after = turn.before ∧
    (turn.operation.isRequest = true → turn.result = .error (.failed .closedClient))

theorem Client.turn_orderly {σ : Type} (remote : Remote σ) (client : Client σ)
    (operation : ClientOperation) : (client.turn remote operation).Orderly :=
  ⟨perform_settled, perform_farewell, fun closed =>
    ⟨perform_of_closed closed operation, fun request => congrArg Prod.fst (perform_request_closed closed request)⟩⟩

/-- The connection of a client, through any operations and with any peer. -/
theorem Client.turns_orderly {σ : Type} (remote : Remote σ) (client : Client σ)
    (operations : List ClientOperation) {prior later : List (Turn σ)} {turn : Turn σ}
    (split : client.turns remote operations = prior ++ turn :: later) :
    turn.Orderly ∧ (turn.after.connected = false → ∀ next ∈ later, next.after = turn.after ∧
      (next.operation.isRequest = true → next.result = .error (.failed .closedClient))) := by
  obtain ⟨same, rest, rfl⟩ := turns_split split
  refine ⟨?_, fun closed => turns_closed closed rest⟩
  rw [same]
  exact turn_orderly remote turn.before turn.operation

/-- A peer that answers a test by something else than a result. -/
theorem Client.turns_orderly_malformed :
    let client := Client.new (.canned (Utf8.encode "OK DPL a\r\n\x7b\x7dOK a\r\n"))
    let deployed := client.turn .canned (.deployBytes [0x61])
    let tested := deployed.after.turn .canned (.invoke "C" "m")
    let undeployed := tested.after.turn .canned .undeploy
    let stopped := undeployed.after.turn .canned .stop
    client.turns .canned [.deployBytes [0x61], .invoke "C" "m", .undeploy, .stop] =
        [deployed] ++ tested :: [undeployed, stopped] ∧
      tested.result = .error (.failed
        ⟨.protocol, "malformed test result: missing field `status` at line 1 column 2"⟩) ∧
      tested.before.connected = true ∧ tested.after.connected = false ∧
      stopped.after = tested.after ∧ stopped.result = .error (.failed .closedClient) := by
  intro client deployed tested undeployed stopped
  have row : client.turns .canned [.deployBytes [0x61], .invoke "C" "m", .undeploy, .stop] =
      [deployed] ++ tested :: [undeployed, stopped] := by
    have first : waits (client.turn .canned (.deployBytes [0x61])).result = false := by decide +kernel
    have second : waits tested.result = false := by decide +kernel
    have third : waits undeployed.result = false := by decide +kernel
    rw [turns, first, turns, second, turns, third]
    rfl
  have malformed : tested.result = .error (.failed
      ⟨.protocol, "malformed test result: missing field `status` at line 1 column 2"⟩) := by
    decide +kernel
  obtain ⟨orderly, final⟩ := turns_orderly .canned client _ row
  have disconnected := (orderly.settled rfl).broken _ malformed (.inr rfl)
  obtain ⟨same, refused⟩ := final disconnected stopped (by simp)
  exact ⟨row, malformed, by decide +kernel, disconnected, same, refused rfl⟩

end TestDaemon
