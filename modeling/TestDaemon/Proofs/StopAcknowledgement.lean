import TestDaemon.Proofs.Course

/-! # Stops are requested as they are acknowledged

A connection asks for a stop of the server only behind the reply that acknowledges it. So a stop has been
requested exactly if the whole of such a reply has been taken, whatever else has been handled before and
wherever the peer has stopped reading.
-/

namespace TestDaemon

/-- Whether a handled frame is a stop command whose whole reply the peer has taken. -/
def Handling.AcknowledgesStop (handling : Handling) : Prop :=
  handling.request = .ok (.command "CMD stop") ∧ handling.output = Utf8.encode "OK CMD stop\r\n"

instance (handling : Handling) : Decidable handling.AcknowledgesStop :=
  inferInstanceAs (Decidable (_ ∧ _))

theorem Reply.encode_stopped : (Reply.ok Request.stopCommand).encode = Utf8.encode "OK CMD stop\r\n" := by
  decide

namespace Context

variable (services : Services) (context : Context)

theorem ingest_stopRequested (payload : Bytes) :
    (context.ingest services payload).2.stopRequested = context.stopRequested := by
  rw [ingest]
  cases services.importer context.imports payload <;> rfl

theorem execute_stopRequested (line : String) :
    (context.execute services line).2.stopRequested = context.stopRequested := by
  rw [execute]
  split
  · rfl
  · rfl
  · rw [undeploy_eq]
  · rfl

/-- Only the stop command is to have its effect behind its reply. -/
theorem of_execute_respondThenStop {services : Services} {context : Context} {line : String} {reply : Reply}
    (stops : (context.execute services line).1 = .ok (.respondThenStop reply)) :
    line = Request.stopCommand ∧ reply = .ok Request.stopCommand := by
  rw [execute] at stops
  split at stops
  · contradiction
  · next parsed =>
    obtain rfl := Command.parse_eq_stop_iff.mp parsed
    cases stops
    exact ⟨rfl, rfl⟩
  · cases stops
  · next id className method _ =>
    cases run : context.invoke services id className method with
    | error error => simp [run, Except.map] at stops
    | ok reply => simp [run, Except.map] at stops

theorem execute_stopCommand :
    context.execute services Request.stopCommand =
      (.ok (.respondThenStop (.ok Request.stopCommand)), context) := by
  rw [execute, Command.parse_eq_stop_iff.mpr rfl]

end Context

namespace Connection

variable {services : Services} {connection : Connection}

/-- A reply is written without an error exactly if the peer takes all of it. -/
theorem send_result_iff {reply : Reply} :
    (connection.send reply).result = .ok () ↔ (connection.send reply).output = reply.encode := by
  rw [send]
  cases connection.peer.room with
  | none => simp
  | some room =>
    by_cases fits : reply.encode.length ≤ room
    · simp [fits]
    · have short : reply.encode.take room ≠ reply.encode := by
        intro whole
        rw [← whole, List.length_take] at fits
        omega
      cases connection.peer.refusal <;> simp [fits, short]

/-- What a command leaves behind its reply. -/
theorem answerCommand_stopRequested (result : Except Error CommandReply) :
    (connection.answerCommand result).connection.context.stopRequested = true ↔
      connection.context.stopRequested = true ∨
        ∃ reply, result = .ok (.respondThenStop reply) ∧
          (connection.answerCommand result).output = reply.encode := by
  rcases result with error | (reply | reply)
  · simp [answerCommand, answer]
  · simp [answerCommand, answer]
  · have taken := @send_result_iff connection reply
    simp only [answerCommand]
    rcases sent : (connection.send reply).result with error | _
    · simp_all
    · simp_all [Context.requestStop]

theorem handling_stopRequested (frame : Bytes) :
    (connection.handling services frame).after.stopRequested = true ↔
      connection.context.stopRequested = true ∨ (connection.handling services frame).AcknowledgesStop := by
  simp only [handling, handleFrame, dispatchFrame, enter, Handling.AcknowledgesStop]
  rcases connection.dispatcher.dispatch frame with ⟨error | (line | payload | _ | _), dispatcher⟩
  · simp [answer]
  · simp only [handleCommand_eq, answerCommand_stopRequested, Context.execute_stopRequested]
    refine or_congr_right ⟨?_, ?_⟩
    · rintro ⟨reply, stops, whole⟩
      obtain ⟨rfl, rfl⟩ := Context.of_execute_respondThenStop stops
      exact ⟨rfl, whole.trans Reply.encode_stopped⟩
    · rintro ⟨stops, whole⟩
      have same : line = "CMD stop" := by simpa using stops
      obtain rfl : line = Request.stopCommand := same
      exact ⟨_, by rw [Context.execute_stopCommand], whole.trans Reply.encode_stopped.symm⟩
  · have kept := connection.context.ingest_stopRequested services payload
    simp only [handleDeploy]
    generalize connection.context.ingest services payload = outcome at kept ⊢
    obtain ⟨error | reply, context⟩ := outcome
    · simp
    · simpa [answer] using kept
  · simp [answer]
  · simp

end Connection

theorem Handling.Path.stopRequested_iff {services : Services} {first last : Context} {handled : List Handling}
    (path : Path services first handled last) :
    last.stopRequested = true ↔
      first.stopRequested = true ∨ ∃ handling ∈ handled, handling.AcknowledgesStop := by
  induction path with
  | nil => simp
  | cons _ ih => simp [ih, Connection.handling_stopRequested, or_assoc]

/-- After each handled frame, and at the end, a stop has been requested exactly if a stop command has been
acknowledged to the peer. What the peer takes is what it takes of the replies to the handled frames, and
nothing else but the report of a framing error, which ends the run. -/
theorem Connection.run_stopRequested_iff (services : Services) (context : Context) (limit : Nat) (peer : Peer)
    (events : List Event) (unasked : context.stopRequested = false) :
    let connection := Connection.new context limit peer
    let handled := connection.handlings services events
    let run := connection.run services events
    (∀ prior handling later, handled = prior ++ handling :: later →
      (handling.after.stopRequested = true ↔
        ∃ earlier ∈ prior ++ [handling], earlier.AcknowledgesStop)) ∧
    (run.connection.context.stopRequested = true ↔ ∃ handling ∈ handled, handling.AcknowledgesStop) ∧
    ∃ report, run.output = Handling.outputs handled ++ report ∧
      (report ≠ [] → ∃ error, run.finish = .error error) := by
  intro connection handled run
  have course := course_of_run services connection events
  have path : Handling.Path services connection.context handled run.connection.context := course.path
  have unasked : ¬ connection.context.stopRequested = true := by simp [connection, Connection.new, unasked]
  refine ⟨?_, path.stopRequested_iff.trans (or_iff_right unasked), course.output⟩
  intro prior handling later same
  rw [same] at path
  rw [path.split.stopRequested_iff, or_iff_right unasked]

/-- The first stop comes in two frames and is acknowledged; the peer takes only a part of the reply to the
second one, which has no effect of its own. -/
theorem Connection.run_stopRequested_iff_cut :
    let services : Services :=
      { importer := fun _ _ => .error ⟨.deploy, "refused"⟩
        executor := fun archive _ _ => .error ⟨.execution, archive.id⟩ }
    let connection := Connection.new (.new .empty) 100 ⟨some 20, some "broken pipe"⟩
    let events := [Event.received (Utf8.encode "CM<<EOF"), .received (Utf8.encode "D stop<<E"),
      .received (Utf8.encode "OFCMD stop<<EOFCMD undeploy a<<EOF")]
    let handled := connection.handlings services events
    let run := connection.run services events
    connection.context.stopRequested = false ∧
      handled.map Handling.output =
        [[], Utf8.encode "OK CMD stop\r\n", (Utf8.encode "OK CMD stop\r\n").take 7] ∧
      handled.map (fun handling => handling.after.stopRequested) = [false, true, true] ∧
      run.connection.context.stopRequested = true := by
  intro services connection events handled run
  obtain ⟨_, ends, _⟩ := run_stopRequested_iff services (.new .empty) 100 ⟨some 20, some "broken pipe"⟩ events rfl
  exact ⟨rfl, by decide +kernel, by decide +kernel, ends.mpr (by decide +kernel)⟩

end TestDaemon
