import TestDaemon.Client.Serving
import TestDaemon.Proofs.Requests

/-! # One exchange with a served connection

Between two requests a served connection is idle: nothing is buffered or carried over. A complete request
is then answered by exactly what it asks for. Afterwards the connection is idle again, on the context
that the answer leaves, or, if a deploy has failed, it has ended. A request past the limit is reported and
ends it as well.
-/

namespace TestDaemon

open Request

/-- How serving ends after a frame with nothing behind it. -/
def FrameOutcome.finish : FrameOutcome → Option Unit
  | .proceed => none
  | .close => some ()

namespace Connection

variable {services : Services} {connection : Connection}

/-- A buffer that holds one request is emptied by answering it. -/
theorem Undisturbed.serve_request {body : Bytes} (undisturbed : connection.Undisturbed services)
    (searched : connection.decoder.Searched)
    (split : Frame.splitFirst? connection.decoder.buffer = some (body, []))
    (short : body.length ≤ connection.decoder.limit) :
    connection.serve services false =
      let request := connection.dispatcher.dispatch body
      let answer := connection.context.answer services request.1
      ⟨answer.result.map FrameOutcome.finish, answer.output,
        { connection with
          context := answer.context
          decoder := ⟨connection.decoder.limit, 0, []⟩
          dispatcher := request.2
          phase := .awaitingFrame
          handled := connection.handled + 1 }⟩ := by
  have decoded : connection.decoder.next false =
      (.ok (some body), ⟨connection.decoder.limit, 0, []⟩) := by
    rw [FrameDecoder.next, if_neg Bool.false_ne_true, searched.decode_eq, split]
    exact if_neg (Nat.not_lt.mpr short)
  have given : { connection with decoder := ⟨connection.decoder.limit, 0, []⟩ }.Undisturbed services :=
    undisturbed.of_same rfl rfl
  have drained : (FrameDecoder.mk connection.decoder.limit 0 []).next false =
      (.ok none, ⟨connection.decoder.limit, 0, []⟩) := rfl
  rw [serve_frame undisturbed.running decoded, given.handleFrame]
  dsimp only
  rcases connection.context.answer services (connection.dispatcher.dispatch body).1
    with ⟨error | (proceed | close), output, after⟩
  · rfl
  · have empty : Connection.Undisturbed services { connection with
        context := after
        decoder := ⟨connection.decoder.limit, 0, []⟩
        dispatcher := (connection.dispatcher.dispatch body).2
        phase := .awaitingFrame
        handled := connection.handled + 1 } := undisturbed.of_same rfl rfl
    dsimp only
    rw [serve_none empty.running drained, List.append_nil]
    rfl
  · rfl

/-- A buffer that holds a request past the limit is reported. -/
theorem Undisturbed.serve_overlong {body rest : Bytes} (undisturbed : connection.Undisturbed services)
    (searched : connection.decoder.Searched)
    (split : Frame.splitFirst? connection.decoder.buffer = some (body, rest))
    (long : connection.decoder.limit < body.length) :
    connection.serve services false =
      ⟨.error (.frameTooLong connection.decoder.limit),
        (Reply.failed (Error.frameTooLong connection.decoder.limit).message).encode,
        { connection with decoder := { connection.decoder with searched := 0 } }⟩ := by
  have decoded : connection.decoder.next false =
      (.error (.frameTooLong connection.decoder.limit), { connection.decoder with searched := 0 }) := by
    rw [FrameDecoder.next, if_neg Bool.false_ne_true, searched.decode_eq, split]
    exact if_pos long
  have given : { connection with decoder := { connection.decoder with searched := 0 } }.Undisturbed services :=
    undisturbed.of_same rfl rfl
  rw [serve_error undisturbed.running decoded, Connection.reportFraming, given.send]

end Connection

namespace Served

/-- A connection between two requests. -/
structure Idle (services : Services) (limit : Nat) (context : Context) (served : Served) : Prop where
  ended_eq : served.ended = false
  undisturbed : served.connection.Undisturbed services
  searched : served.connection.decoder.Searched
  limit_eq : served.connection.decoder.limit = limit
  drained : served.connection.decoder.buffer = []
  dispatcher_eq : served.connection.dispatcher = .new
  context_eq : served.connection.context = context

theorem idle_start (importer : Importer) (executor : Executor) (context : Context) (limit : Nat) :
    (start context limit).Idle { importer, executor } limit context :=
  ⟨rfl, Connection.undisturbed_new importer executor context limit, FrameDecoder.searched_new limit,
    rfl, rfl, rfl, rfl⟩

variable {services : Services} {limit : Nat} {context : Context} {served : Served}

/-- A request that has been received is all that there is. -/
theorem Idle.fed {body : Bytes} (idle : served.Idle services limit context)
    (clear : ¬ delimiter <:+: body) :
    let fed := { served.connection with decoder := served.connection.decoder.feed (body ++ delimiter) }
    fed.Undisturbed services ∧ fed.decoder.Searched ∧
      Frame.splitFirst? fed.decoder.buffer = some (body, []) := by
  refine ⟨idle.undisturbed.of_same rfl rfl, idle.searched.feed _, ?_⟩
  rw [FrameDecoder.feed, idle.drained, List.nil_append]
  exact Frame.splitFirst?_append clear []

/-- The answer to a request that does not wait for a further one. -/
theorem Idle.react {body : Bytes} {request : Except Error Dispatch}
    (idle : served.Idle services limit context) (clear : ¬ delimiter <:+: body)
    (short : body.length ≤ limit) (dispatched : Dispatcher.new.dispatch body = (request, .new)) :
    ∃ after, served.react services (body ++ delimiter) =
        ⟨none, (context.answer services request).output,
          if (context.answer services request).result = .ok .proceed then .silent else .closed, after⟩ ∧
      after.connection.context = (context.answer services request).context ∧
      ((context.answer services request).result = .ok .proceed →
        after.Idle services limit (context.answer services request).context) := by
  obtain ⟨fed, searched, split⟩ := idle.fed clear
  obtain ⟨⟨context, decoder, dispatcher, phase, cancelled, peer, handled⟩, ended⟩ := served
  obtain ⟨rfl, undisturbed, _, limit_eq, _, rfl, rfl⟩ := idle
  have served := fed.serve_request searched split (limit_eq.symm ▸ short)
  simp only [dispatched] at served
  simp only [Served.react, Bool.false_eq_true, if_false, served]
  rcases context.answer services request with ⟨error | (proceed | close), output, after⟩
  · exact ⟨_, rfl, rfl, fun proceeds => by simp at proceeds⟩
  · refine ⟨_, rfl, rfl, fun _ => ⟨rfl, undisturbed.of_same rfl rfl, ?_, limit_eq, rfl, rfl, rfl⟩⟩
    exact FrameDecoder.searched_of_zero rfl
  · exact ⟨_, rfl, rfl, fun proceeds => by simp at proceeds⟩

/-- The answer to a request past the limit. -/
theorem Idle.react_overlong {body : Bytes} (idle : served.Idle services limit context)
    (clear : ¬ delimiter <:+: body) (long : limit < body.length) :
    ∃ after, served.react services (body ++ delimiter) =
        ⟨none, (Reply.failed (Error.frameTooLong limit).message).encode, .closed, after⟩ ∧
      after.connection.context = context := by
  obtain ⟨fed, searched, split⟩ := idle.fed clear
  obtain ⟨⟨context, decoder, dispatcher, phase, cancelled, peer, handled⟩, ended⟩ := served
  obtain ⟨rfl, _, _, limit_eq, _, rfl, rfl⟩ := idle
  have same : (decoder.feed (body ++ delimiter)).limit = limit := limit_eq
  have served := fed.serve_overlong searched split (same.symm ▸ long)
  simp only [same] at served
  simp only [Served.react, Bool.false_eq_true, if_false, served]
  exact ⟨_, rfl, rfl⟩

end Served

end TestDaemon
