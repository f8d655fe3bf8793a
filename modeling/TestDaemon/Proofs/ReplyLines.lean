import TestDaemon.Client.Link
import TestDaemon.Proofs.Session
import TestDaemon.Proofs.Unbroken
import TestDaemon.Zip.Reader

/-! # Replies that are single lines

A reader of lines stays in step with a server that answers every request by a single line. The line of
a reply is a single one unless it repeats a text that nothing has cut at its first line feed: the name
of an archive, or a path in it.
-/

namespace TestDaemon

/-- What a peer takes of some bytes. -/
def Peer.taken (peer : Peer) (bytes : Bytes) : Bytes :=
  match peer.room with
  | none => bytes
  | some room => bytes.take room

/-- The reply to a frame, where there is one. -/
def Context.replyTo? (services : Services) (context : Context) : Except Error Dispatch → Option Reply
  | .error error => some (.ofError error)
  | .ok .pending => none
  | .ok .unsupported => some .unsupported
  | .ok (.command line) => some (context.respond services line).1
  | .ok (.deploy payload) =>
    match context.ingest services payload with
    | (.error _, _) => none
    | (.ok reply, _) => some reply

/-! ## What goes over the wire -/

namespace Connection

variable {services : Services} {connection : Connection}

theorem send_output (connection : Connection) (reply : Reply) :
    (connection.send reply).output = connection.peer.taken reply.encode := by
  rw [send, Peer.taken]
  cases connection.peer.room with
  | none => rfl
  | some room =>
    by_cases fits : reply.encode.length ≤ room
    · simp only [if_pos fits, List.take_of_length_le fits]
    · simp only [if_neg fits]
      cases connection.peer.refusal <;> rfl

theorem handleCommand_output (line : String) :
    (connection.handleCommand services line).output =
      connection.peer.taken (connection.context.respond services line).1.encode := by
  unfold handleCommand
  simp only [Context.respond, answer]
  rcases connection.context.execute services line with ⟨error | (reply | reply), after⟩
  · exact send_output ..
  · exact send_output ..
  · generalize same : Connection.mk after connection.decoder connection.dispatcher connection.phase _
      connection.peer connection.handled = answering
    have output := send_output answering reply
    have peer : answering.peer = connection.peer := by rw [← same]
    dsimp only
    split <;> rw [output, peer]

/-- What is written for a frame is what the peer takes of the reply. -/
theorem handleFrame_output (connection : Connection) (frame : Bytes) :
    (connection.handleFrame services frame).output =
      match connection.context.replyTo? services (connection.dispatcher.dispatch frame).1 with
      | none => []
      | some reply => connection.peer.taken reply.encode := by
  simp only [handleFrame, dispatchFrame, enter]
  rcases connection.dispatcher.dispatch frame with ⟨error | request, dispatcher⟩
  · exact send_output ..
  · cases request with
    | pending => rfl
    | unsupported => exact send_output ..
    | command line => exact handleCommand_output line
    | deploy payload =>
      simp only [handleDeploy, Context.replyTo?]
      rcases connection.context.ingest services payload with ⟨error | reply, after⟩
      · rfl
      · exact send_output ..

end Connection

/-! ## Single lines -/

/-- Whether bytes are one line, for a reader that stops at every line feed. -/
def IsSingleLine (bytes : Bytes) : Prop := bytes.count 0x0A = 1 ∧ bytes.getLast? = some 0x0A

instance (bytes : Bytes) : Decidable (IsSingleLine bytes) := inferInstanceAs (Decidable (_ ∧ _))

theorem Reply.isSingleLine_iff (text : String) : IsSingleLine (Reply.line text).encode ↔ Unbroken text := by
  have last : (Reply.line text).encode.getLast? = some 0x0A := by
    simp [encode, lineEnd]
  have count : (Reply.line text).encode.count 0x0A = (Utf8.encode text).count 0x0A + 1 := by
    rw [encode, List.count_append]
    rfl
  have feeds : 0x0A ∈ Utf8.encode text ↔ '\n' ∈ text.toList := by
    have occurs : [0x0A] <:+: Utf8.encode text ↔ [0x0A].map Utf8.charOf <:+: text.toList :=
      Utf8.infix_encode_iff (by decide) (Utf8.isPlain_of_all (by decide))
    rwa [List.singleton_infix_iff, List.map_singleton, List.singleton_infix_iff] at occurs
  rw [IsSingleLine, count, Unbroken, ← feeds, ← List.count_eq_zero]
  simp [last]

/-- A text that the reply to a request repeats. -/
inductive Context.Repeats (services : Services) (context : Context) : Except Error Dispatch → String → Prop
  | deployed {payload : Bytes} {archive : Archive}
    (imported : services.importer context.imports payload = .ok archive) :
    Repeats services context (.ok (.deploy payload)) archive.id
  | tested {line className method text : String} {archive : Archive}
    (run : context.testRun? line = some (archive, className, method))
    (repeated : archive.Repeated className text) : Repeats services context (.ok (.command line)) text

namespace Context

variable {importer : Importer} {startedAt finishedAt : Timestamp}
  {interrupts : Interrupts} {context : Context}

theorem ofError_eq_line {error : Error} {text : String} (told : Reply.ofError error = .line text) :
    Unbroken text ↔ Unbroken error.message := by
  obtain rfl := Reply.line.inj told
  have head : Unbroken Reply.errorHead := by decide
  have caught : Unbroken "Caught unexpected error servicing request: " := by decide
  simp [head, caught]

theorem unbroken_of_undeploy {id text : String} (clear : Unbroken id)
    (answered : (context.undeploy id).1 = .line text) : Unbroken text := by
  have ok : Unbroken Reply.okHead := by decide
  have bad : Unbroken Reply.errorHead := by decide
  have head : Unbroken "Deployment " := by decide
  have tail : Unbroken " could not be found in current deployments." := by decide
  rw [undeploy] at answered
  split at answered
  · obtain rfl := Reply.line.inj answered
    simpa [ok] using clear
  · obtain rfl := Reply.line.inj answered
    simpa [bad, head, tail] using clear

theorem unbroken_notDeployed {id : String} (clear : Unbroken id) : Unbroken (Error.notDeployed id).message := by
  simp only [Error.message, Error.notDeployed, unbroken_append]
  exact ⟨⟨by decide, by decide⟩, ⟨by decide, clear⟩, by decide⟩

/-- The reply to a command without a line feed. -/
theorem respond_line_iff {line text : String} (clear : Unbroken line)
    (answered : (context.respond ⟨importer, processExecutor startedAt finishedAt, interrupts⟩ line).1 =
      .line text) :
    Unbroken text ↔ ∀ archive className method, context.testRun? line = some (archive, className, method) →
      ∀ repeated, archive.Repeated className repeated → Unbroken repeated := by
  cases parsed : Command.parse line with
  | error error =>
    simp only [respond, execute, parsed] at answered
    have told := (ofError_eq_line answered).mpr (Command.unbroken_of_parse_error clear parsed)
    simpa [testRun?, parsed] using told
  | ok command =>
    cases command with
    | stop =>
      have ok : Unbroken Reply.okHead := by decide
      simp only [respond, execute, parsed] at answered
      obtain rfl := Reply.line.inj answered
      simpa [testRun?, parsed, ok] using clear
    | undeploy id =>
      have idClear := Command.unbroken_of_parse_undeploy clear parsed
      simp only [respond, execute, parsed] at answered
      simpa [testRun?, parsed] using unbroken_of_undeploy idClear answered
    | test id className method =>
      obtain ⟨idClear, classClear, -⟩ := Command.unbroken_of_parse_test parsed
      cases found : context.store.get? id with
      | none =>
        have invoked : context.invoke ⟨importer, processExecutor startedAt finishedAt, interrupts⟩ id
            className method = .error (.notDeployed id) := by simp only [invoke, found]
        simp only [respond, execute, parsed, invoked] at answered
        have told := (ofError_eq_line answered).mpr (unbroken_notDeployed idClear)
        simpa [testRun?, parsed, found] using told
      | some archive =>
        have run : context.testRun? line = some (archive, className, method) := by
          simp only [testRun?, parsed, found, Option.map_some]
        cases executed : processExecutor startedAt finishedAt archive className method with
        | ok result =>
          simp only [respond, execute, parsed, invoke, found, executed] at answered
          contradiction
        | error error =>
          simp only [respond, execute, parsed, invoke, found, executed] at answered
          rw [ofError_eq_line answered, unbroken_processExecutor_iff classClear executed, run]
          constructor
          · intro all other otherClass otherMethod same
            obtain ⟨rfl, rfl, rfl⟩ : archive = other ∧ className = otherClass ∧ method = otherMethod := by
              simpa using same
            exact all
          · exact fun all => all archive className method rfl

/-- The line that answers what a frame asks for. -/
theorem replyTo?_line_iff {dispatcher : Dispatcher} {frame : Bytes} {text : String}
    (answered : context.replyTo? ⟨importer, processExecutor startedAt finishedAt, interrupts⟩
      (dispatcher.dispatch frame).1 = some (.line text)) :
    Unbroken text ↔ ∀ repeated,
      context.Repeats ⟨importer, processExecutor startedAt finishedAt, interrupts⟩
        (dispatcher.dispatch frame).1 repeated → Unbroken repeated := by
  generalize dispatched : (dispatcher.dispatch frame).1 = request at answered ⊢
  rcases request with error | (line | payload | _ | _)
  · obtain rfl := Dispatcher.of_dispatch_error dispatched
    have told : Unbroken text := (ofError_eq_line (Option.some.inj answered)).mpr (by decide)
    exact iff_of_true told fun repeated repeats => by cases repeats
  · rw [respond_line_iff (Dispatcher.unbroken_of_dispatch dispatched) (Option.some.inj answered)]
    constructor
    · rintro all repeated (_ | ⟨run, repeats⟩)
      exact all _ _ _ run repeated repeats
    · exact fun all archive className method run repeated repeats => all repeated (.tested run repeats)
  · cases imported : importer context.imports payload with
    | error error =>
      simp only [replyTo?, ingest, imported] at answered
      contradiction
    | ok archive =>
      simp only [replyTo?, ingest, imported] at answered
      obtain rfl := Reply.line.inj (Option.some.inj answered)
      have ok : Unbroken Reply.okHead := by decide
      have head : Unbroken Request.deployHead := by decide
      simp only [unbroken_append, ok, head, true_and]
      constructor
      · rintro named repeated (⟨again⟩ | _)
        obtain rfl := Except.ok.inj (imported.symm.trans again)
        exact named
      · exact fun all => all _ (.deployed imported)
  · obtain rfl := Reply.line.inj (Option.some.inj answered)
    exact iff_of_true (by decide) fun repeated repeats => by cases repeats
  · contradiction

end Context

/-- A line that answers a frame is a single one exactly if every text that it repeats is. -/
theorem Connection.handleFrame_single_iff (importer : Importer) (startedAt finishedAt : Timestamp)
    (interrupts : Interrupts) (connection : Connection) (frame : Bytes) :
    let services : Services := ⟨importer, processExecutor startedAt finishedAt, interrupts⟩
    let request := (connection.dispatcher.dispatch frame).1
    let reply := connection.context.replyTo? services request
    (connection.handleFrame services frame).output =
        (match reply with
          | none => []
          | some reply => connection.peer.taken reply.encode) ∧
      ∀ text, reply = some (.line text) →
        (IsSingleLine (Reply.line text).encode ↔
          ∀ repeated, connection.context.Repeats services request repeated → Unbroken repeated) :=
  ⟨connection.handleFrame_output frame, fun text answered =>
    (Reply.isSingleLine_iff text).trans (Context.replyTo?_line_iff answered)⟩

theorem Connection.handleFrame_single_iff_named :
    let epoch : Timestamp := ⟨0, 0, by decide, by decide, by decide, by decide⟩
    let services : Services := ⟨fun _ => Zip.decode 0, processExecutor epoch epoch, fun _ _ _ => false⟩
    let connection := Connection.new (.new .empty) 100 .unlimited
    let payload := Zip.EndRecord.encode ⟨0, 0, 0, 0, 0, 0, Utf8.encode "a b"⟩
    let request := (connection.dispatcher.dispatch (Utf8.encode Request.deployHead ++ payload)).1
    connection.context.replyTo? services request = some (.line "OK DPL a b") ∧
      IsSingleLine (Reply.line "OK DPL a b").encode := by
  intro epoch services connection payload request
  have dispatched : (connection.dispatcher.dispatch (Utf8.encode Request.deployHead ++ payload)).1 =
      .ok (.deploy payload) := by decide +kernel
  have answered : connection.context.replyTo? services request = some (.line "OK DPL a b") := by
    decide +kernel
  have named : (Zip.decode 0 payload).toOption.map Archive.id = some "a b" := by decide +kernel
  have single := (handleFrame_single_iff (fun _ => Zip.decode 0) epoch epoch (fun _ _ _ => false) connection
    (Utf8.encode Request.deployHead ++ payload)).2 _ answered
  refine ⟨answered, single.mpr fun repeated repeats => ?_⟩
  rw [dispatched] at repeats
  cases repeats with
  | @deployed _ archive imported =>
    have imported : Zip.decode 0 payload = .ok archive := imported
    rw [imported] at named
    obtain name : archive.id = "a b" := Option.some.inj named
    rw [name]
    decide +kernel

/-- A client that reads the first line of this reply takes the rest for the reply to its next request. -/
theorem Connection.not_handleFrame_single_broken :
    let epoch : Timestamp := ⟨0, 0, by decide, by decide, by decide, by decide⟩
    let services : Services := ⟨fun _ => Zip.decode 0, processExecutor epoch epoch, fun _ _ _ => false⟩
    let handled := (Connection.new (.new .empty) 100 .unlimited).handleFrame services
      (Utf8.encode Request.deployHead ++ Zip.EndRecord.encode ⟨0, 0, 0, 0, 0, 0, Utf8.encode "a\nb"⟩)
    handled.output = Utf8.encode "OK DPL a\nb\r\n" ∧ ¬ IsSingleLine handled.output ∧
      (Link.readLine ⟨(), handled.output, .silent⟩).2.unread = Utf8.encode "b\r\n" := by
  decide +kernel

end TestDaemon
