import TestDaemon.Proofs.Framing

/-! # Sessions over a whole stream

A session serves the frames of a whole stream in order. A run serves them as they arrive; to a peer that
takes everything, and without a cancellation, it makes the same session of every division of the stream
into reads.
-/

namespace TestDaemon

open Request

namespace Context

/-- The reply to a command line and the context once it has been written. -/
def respond (services : Services) (context : Context) (line : String) : Reply × Context :=
  match context.execute services line with
  | (.error error, context) => (.ofError error, context)
  | (.ok (.respond reply), context) => (reply, context)
  | (.ok (.respondThenStop reply), context) => (reply, context.requestStop)

end Context

/-- What becomes of a frame: how the connection goes on, what it writes, and the context then. -/
structure Answer where
  result : Except Error FrameOutcome
  output : Bytes
  context : Context

/-- What becomes of a frame that asks for something. -/
def Context.answer (services : Services) (context : Context) : Except Error Dispatch → Answer
  | .error error => ⟨.ok .proceed, (Reply.ofError error).encode, context⟩
  | .ok .pending => ⟨.ok .proceed, [], context⟩
  | .ok .unsupported => ⟨.ok .close, Reply.unsupported.encode, context⟩
  | .ok (.command line) =>
    let (reply, context) := context.respond services line
    ⟨.ok .proceed, reply.encode, context⟩
  | .ok (.deploy payload) =>
    match context.ingest services payload with
    | (.error error, _) => ⟨.error error, [], context⟩
    | (.ok reply, context) => ⟨.ok .proceed, reply.encode, context⟩

namespace Connection

/-- A connection that nothing cancels and whose peer takes everything. -/
structure Undisturbed (services : Services) (connection : Connection) : Prop where
  patient : ∀ archive className method handled, services.interrupts archive className method handled = false
  running : connection.cancelled = false
  room : connection.peer.room = none

variable {services : Services}

theorem undisturbed_new (importer : Importer) (executor : Executor) (context : Context) (limit : Nat) :
    (Connection.new context limit .unlimited).Undisturbed { importer, executor } :=
  ⟨fun _ _ _ _ => rfl, rfl, rfl⟩

/-- Only the state of the cancellation and of the peer matters. -/
theorem Undisturbed.of_same {connection other : Connection}
    (undisturbed : connection.Undisturbed services) (cancelled : other.cancelled = connection.cancelled)
    (peer : other.peer = connection.peer) : other.Undisturbed services :=
  ⟨undisturbed.patient, cancelled.trans undisturbed.running, by rw [peer]; exact undisturbed.room⟩

theorem Undisturbed.send {connection : Connection} (undisturbed : connection.Undisturbed services)
    (reply : Reply) : connection.send reply = ⟨.ok (), reply.encode, connection⟩ := by
  simp only [Connection.send, undisturbed.room]

theorem Undisturbed.answer {connection : Connection} (undisturbed : connection.Undisturbed services)
    (reply : Reply) (outcome : FrameOutcome) :
    connection.answer reply outcome = ⟨.ok outcome, reply.encode, connection⟩ := by
  rw [Connection.answer, undisturbed.send]
  rfl

theorem Undisturbed.handleCommand {connection : Connection}
    (undisturbed : connection.Undisturbed services) (line : String) :
    connection.handleCommand services line =
      ⟨.ok .proceed, (connection.context.respond services line).1.encode,
        { connection with context := (connection.context.respond services line).2 }⟩ := by
  have open' (context : Context) : { connection with context }.Undisturbed services :=
    undisturbed.of_same rfl rfl
  obtain ⟨context, decoder, dispatcher, phase, cancelled, peer, handled⟩ := connection
  obtain rfl : cancelled = false := undisturbed.running
  -- No test interrupts the connection, whether the line would run one or not.
  cases tested : context.testRun? line
  all_goals
    simp only [Connection.handleCommand, tested, undisturbed.patient, Bool.or_false, Context.respond]
    rcases context.execute services line with ⟨error | (reply | reply), after⟩
    · exact (open' after).answer _ _
    · exact (open' after).answer _ _
    · simp only [(open' after).send]

/-- How an undisturbed connection handles a frame depends on its context and its dispatcher alone. -/
theorem Undisturbed.handleFrame {connection : Connection}
    (undisturbed : connection.Undisturbed services) (frame : Bytes) :
    connection.handleFrame services frame =
      let request := connection.dispatcher.dispatch frame
      let answer := connection.context.answer services request.1
      ⟨answer.result, answer.output,
        { connection with
          context := answer.context
          dispatcher := request.2
          phase := .awaitingFrame
          handled := connection.handled + 1 }⟩ := by
  have open' (context : Context) (dispatcher : Dispatcher) (phase : Phase) :
      { connection with context, dispatcher, phase }.Undisturbed services :=
    undisturbed.of_same rfl rfl
  obtain ⟨context, decoder, dispatcher, phase, cancelled, peer, handled⟩ := connection
  simp only [Connection.handleFrame, Connection.dispatchFrame, Connection.enter]
  rcases dispatcher.dispatch frame with ⟨error | request, dispatcher⟩
  · simp only [(open' ..).answer, Context.answer]
  · cases request with
    | pending => rfl
    | unsupported => simp only [(open' ..).answer, Context.answer]
    | command line => simp only [(open' ..).handleCommand, Context.answer]
    | deploy payload =>
      simp only [Connection.handleDeploy, Context.answer]
      rcases context.ingest services payload with ⟨error | reply, after⟩
      · rfl
      · simp only [(open' ..).answer]

theorem Undisturbed.after_handleFrame {connection : Connection}
    (undisturbed : connection.Undisturbed services) (frame : Bytes) :
    (connection.handleFrame services frame).connection.Undisturbed services ∧
      (connection.handleFrame services frame).connection.decoder = connection.decoder := by
  rw [undisturbed.handleFrame]
  exact ⟨undisturbed.of_same rfl rfl, rfl⟩

end Connection

/-! ## The session of a stream -/

/-- What a peer sees of a session, how the session ends, and the context then. -/
structure Session where
  output : Bytes
  finish : Except Error Unit
  context : Context

namespace Session

/-- A session with some output before it. -/
def behind (output : Bytes) (session : Session) : Session :=
  { session with output := output ++ session.output }

/-- The end of a session at a frame past the limit. -/
def overlong (limit : Nat) (context : Context) : Session :=
  ⟨(Reply.line s!"ERR protocol: frame too long: exceeded {limit} bytes").encode,
    .error ⟨.protocol, s!"frame too long: exceeded {limit} bytes"⟩, context⟩

/-- Handle frames in order until one ends the connection. A frame past the limit is reported, and so is
a tail that exceeds it by more than a delimiter; a shorter tail is dropped. -/
def ofFrames (services : Services) (limit : Nat) (connection : Connection) :
    List Bytes → Bytes → Session
  | [], tail =>
    if limit + delimiter.length < tail.length then overlong limit connection.context
    else ⟨[], .ok (), connection.context⟩
  | frame :: frames, tail =>
    if limit < frame.length then overlong limit connection.context
    else
      let handled := connection.handleFrame services frame
      match handled.result with
      | .error error => ⟨handled.output, .error error, handled.connection.context⟩
      | .ok .close => ⟨handled.output, .ok (), handled.connection.context⟩
      | .ok .proceed => (ofFrames services limit handled.connection frames tail).behind handled.output

/-- The session of a whole stream. -/
def ofStream (services : Services) (limit : Nat) (connection : Connection) (stream : Bytes) :
    Session :=
  ofFrames services limit connection (Frame.cut stream).1 (Frame.cut stream).2

end Session

/-- The session that a run makes. -/
def Connection.Run.session (run : Run) : Session := ⟨run.output, run.finish, run.connection.context⟩

theorem Error.frameTooLong_line (limit : Nat) :
    Reply.failed (Error.frameTooLong limit).message =
      .line s!"ERR protocol: frame too long: exceeded {limit} bytes" := by
  simp only [Reply.failed, Reply.errorHead, Error.message, Error.frameTooLong, ErrorKind.label,
    Reply.line.injEq, ← String.append_assoc]
  rfl

namespace Session

@[simp] theorem behind_behind (first second : Bytes) (session : Session) :
    (session.behind second).behind first = session.behind (first ++ second) := by
  simp [behind]

theorem ofFrames_overlong {services : Services} {limit : Nat} {connection : Connection}
    {parts : List Bytes × Bytes} (long : Frame.Overlong limit parts) :
    ofFrames services limit connection parts.1 parts.2 = overlong limit connection.context := by
  obtain ⟨frames, tail⟩ := parts
  cases frames with
  | nil => exact if_pos long
  | cons frame frames => exact if_pos long

/-- What the decoder of an undisturbed connection has read is not part of its session. -/
theorem ofFrames_decoder {services : Services} {connection : Connection}
    (undisturbed : connection.Undisturbed services) (decoder : FrameDecoder) (limit : Nat)
    (frames : List Bytes) (tail : Bytes) :
    ofFrames services limit { connection with decoder } frames tail =
      ofFrames services limit connection frames tail := by
  induction frames generalizing connection with
  | nil => rfl
  | cons frame frames ih =>
    have undisturbed' : { connection with decoder }.Undisturbed services :=
      undisturbed.of_same rfl rfl
    have next := (undisturbed.after_handleFrame frame).1
    rw [undisturbed.handleFrame] at next
    simp only [ofFrames, undisturbed.handleFrame, undisturbed'.handleFrame, ih next]

end Session

namespace Connection

open TestDaemon.Frame

variable {services : Services}

theorem Undisturbed.reportFraming {connection : Connection}
    (undisturbed : connection.Undisturbed services) (limit : Nat) :
    connection.reportFraming (.frameTooLong limit) =
      ⟨.error (.frameTooLong limit), (Session.overlong limit connection.context).output,
        connection⟩ := by
  rw [Connection.reportFraming, undisturbed.send, Error.frameTooLong_line]
  rfl

/-- A connection that has handled every frame it has received in full. -/
structure Waiting (services : Services) (limit : Nat) (connection : Connection) : Prop where
  undisturbed : connection.Undisturbed services
  searched : connection.decoder.Searched
  limit_eq : connection.decoder.limit = limit
  drained : splitFirst? connection.decoder.buffer = none
  short : connection.decoder.buffer.length ≤ limit + delimiter.length

/-- What serving the complete frames of a buffer comes to: the end of the session, whatever would
follow, or a wait for more, with the rest of the session behind what has been written. -/
inductive Serving (services : Services) (limit : Nat) (connection : Connection) :
    Step (Option Unit) → Prop
  | ended (finish : Except Error Unit) (output : Bytes) (after : Connection)
      (session : ∀ later,
        Session.ofStream services limit connection (connection.decoder.buffer ++ later) =
          ⟨output, finish, after.context⟩) :
      Serving services limit connection ⟨finish.map some, output, after⟩
  | waiting (output : Bytes) (after : Connection) (waits : after.Waiting services limit)
      (session : ∀ later,
        Session.ofStream services limit connection (connection.decoder.buffer ++ later) =
          (Session.ofStream services limit after (after.decoder.buffer ++ later)).behind output) :
      Serving services limit connection ⟨.ok none, output, after⟩

theorem Serving.behind {connection next : Connection} {limit : Nat} {output : Bytes}
    {step : Step (Option Unit)} (serving : Serving services limit next step)
    (session : ∀ later,
      Session.ofStream services limit connection (connection.decoder.buffer ++ later) =
        (Session.ofStream services limit next (next.decoder.buffer ++ later)).behind output) :
    Serving services limit connection { step with output := output ++ step.output } := by
  cases serving with
  | ended finish output' after session' =>
    refine .ended finish _ after fun later => ?_
    rw [session, session']
    rfl
  | waiting output' after waits session' =>
    refine .waiting _ after waits fun later => ?_
    rw [session, session', Session.behind_behind]

theorem with_decoder {connection : Connection} {decoder : FrameDecoder}
    (same : connection.decoder = decoder) : { connection with decoder } = connection := by
  rw [← same]

/-- A session goes on from its first frame, whatever decoder has given that frame. -/
theorem Undisturbed.ofStream_frame {connection : Connection} {limit : Nat} {frame : Bytes}
    {decoder : FrameDecoder} (undisturbed : connection.Undisturbed services)
    (split : splitFirst? connection.decoder.buffer = some (frame, decoder.buffer))
    (short : frame.length ≤ limit) (later : Bytes) :
    Session.ofStream services limit connection (connection.decoder.buffer ++ later) =
      let handled := { connection with decoder }.handleFrame services frame
      match handled.result with
      | .error error => ⟨handled.output, .error error, handled.connection.context⟩
      | .ok .close => ⟨handled.output, .ok (), handled.connection.context⟩
      | .ok .proceed =>
        (Session.ofStream services limit handled.connection
          (decoder.buffer ++ later)).behind handled.output := by
  rw [Session.ofStream, cut_append_of_some split,
    ← Session.ofFrames_decoder undisturbed decoder, Session.ofFrames,
    if_neg (Nat.not_lt.mpr short)]
  rfl

theorem Undisturbed.serve {connection : Connection} {limit : Nat}
    (undisturbed : connection.Undisturbed services) (searched : connection.decoder.Searched)
    (limit_eq : connection.decoder.limit = limit) :
    Serving services limit connection (connection.serve services false) := by
  fun_induction connection.serve services false with
  | case1 connection cancelled =>
    rw [undisturbed.running] at cancelled
    contradiction
  | case2 connection _ error decoder decoded =>
    -- The frame or the tail stays too long, whatever follows.
    obtain ⟨rfl, _, _, _, long⟩ := searched.of_error decoded
    rw [limit_eq] at long ⊢
    have undisturbed : { connection with decoder }.Undisturbed services :=
      undisturbed.of_same rfl rfl
    rw [undisturbed.reportFraming]
    exact .ended (.error (.frameTooLong limit)) _ _ fun later => Session.ofFrames_overlong (long later)
  | case3 connection _ decoder decoded =>
    obtain ⟨split, short, buffer, decoderLimit, next⟩ := searched.of_none decoded
    rw [limit_eq] at short decoderLimit
    rw [← buffer] at split short
    refine .waiting _ _ ⟨undisturbed.of_same rfl rfl, next, decoderLimit, split, short⟩ fun later => ?_
    rw [← buffer]
    exact (Session.ofFrames_decoder undisturbed decoder limit _ _).symm
  | case4 connection _ frame decoder decoded handled error result =>
    obtain ⟨split, short, _, _⟩ := searched.of_frame decoded
    rw [limit_eq] at short
    refine .ended (.error error) _ _ fun later => ?_
    rw [undisturbed.ofStream_frame split short]
    simp only [handled, result]
  | case5 connection _ frame decoder decoded handled result =>
    obtain ⟨split, short, _, _⟩ := searched.of_frame decoded
    rw [limit_eq] at short
    refine .ended (.ok ()) _ _ fun later => ?_
    rw [undisturbed.ofStream_frame split short]
    simp only [handled, result]
  | case6 connection _ frame decoder decoded handled result rest ih =>
    obtain ⟨split, short, decoderLimit, next⟩ := searched.of_frame decoded
    rw [limit_eq] at short decoderLimit
    have given : { connection with decoder }.Undisturbed services := undisturbed.of_same rfl rfl
    obtain ⟨after, same⟩ := given.after_handleFrame frame
    refine (ih (after.of_same rfl rfl) next decoderLimit).behind fun later => ?_
    rw [undisturbed.ofStream_frame split short]
    simp only [result, handled]
    exact congrArg
      (fun next => (Session.ofStream services limit next (decoder.buffer ++ later)).behind handled.output)
      (with_decoder same).symm

/-- At the end of the stream the unfinished frame is dropped. -/
theorem Waiting.serve_end {connection : Connection} {limit : Nat}
    (waits : connection.Waiting services limit) :
    connection.serve services true =
      ⟨.ok (some ()), [],
        { connection with decoder := { connection.decoder with searched := 0, buffer := [] } }⟩ := by
  have short : ¬ connection.decoder.limit + delimiter.length < connection.decoder.buffer.length := by
    rw [waits.limit_eq]
    exact Nat.not_lt.mpr waits.short
  have decoded : connection.decoder.next true =
      (.ok none, { connection.decoder with searched := 0, buffer := [] }) := by
    simp only [FrameDecoder.next, FrameDecoder.decodeEnd, waits.searched.decode_eq, waits.drained,
      if_neg short, if_true]
  exact serve_none waits.undisturbed.running decoded

theorem Waiting.ofStream {connection : Connection} {limit : Nat}
    (waits : connection.Waiting services limit) :
    Session.ofStream services limit connection connection.decoder.buffer =
      ⟨[], .ok (), connection.context⟩ := by
  rw [Session.ofStream, cut_of_none waits.drained]
  exact if_neg (Nat.not_lt.mpr waits.short)

theorem Undisturbed.run {connection : Connection} {limit : Nat}
    (undisturbed : connection.Undisturbed services) (searched : connection.decoder.Searched)
    (limit_eq : connection.decoder.limit = limit) (reads : List Bytes) :
    (connection.run services (reads.map .received)).session =
      Session.ofStream services limit connection (connection.decoder.buffer ++ reads.flatten) := by
  induction reads generalizing connection with
  | nil =>
    have serving := undisturbed.serve searched limit_eq
    rw [List.map_nil, Connection.run]
    generalize connection.serve services false = step at serving
    cases serving with
    | ended finish output after session =>
      rw [List.flatten_nil, session]
      rcases finish with error | ⟨⟩ <;> simp [Run.session, Run.output, Except.map]
    | waiting output after waits session =>
      rw [List.flatten_nil, session, List.append_nil, waits.ofStream]
      simp only [waits.serve_end]
      simp [Run.session, Run.output, Except.map, Session.behind]
  | cons read reads ih =>
    have serving := undisturbed.serve searched limit_eq
    rw [List.map_cons, Connection.run]
    generalize connection.serve services false = step at serving
    cases serving with
    | ended finish output after session =>
      rw [session]
      rcases finish with error | ⟨⟩ <;> simp [Run.session, Run.output, Except.map]
    | waiting output after waits session =>
      -- The rest of the run begins with a decoder that has searched all but the new read.
      have fed : { after with decoder := after.decoder.feed read }.Undisturbed services :=
        waits.undisturbed.of_same rfl rfl
      have rest := ih fed (waits.searched.feed read) waits.limit_eq
      rw [Session.ofStream, Session.ofFrames_decoder waits.undisturbed, ← Session.ofStream] at rest
      rw [session, List.flatten_cons, ← List.append_assoc]
      have buffer : (after.decoder.feed read).buffer = after.decoder.buffer ++ read := rfl
      rw [buffer] at rest
      rw [← rest]
      simp [Run.session, Run.output, Session.behind]

end Connection

/-- A run makes the session of its whole stream, wherever the reads fall. -/
theorem Connection.run_eq_session (importer : Importer) (executor : Executor) (context : Context)
    (limit : Nat) (reads : List Bytes) :
    ((Connection.new context limit .unlimited).run { importer, executor }
        (reads.map .received)).session =
      Session.ofStream { importer, executor } limit (Connection.new context limit .unlimited)
        reads.flatten :=
  (undisturbed_new importer executor context limit).run (FrameDecoder.searched_new limit) rfl reads

end TestDaemon
