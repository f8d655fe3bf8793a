import TestDaemon.Proofs.Course
import TestDaemon.Proofs.Session

/-! # Interrupted runs

A cancellation takes effect between frames. One that comes while a connection waits for bytes ends the run
as the end of the stream does. One that comes during a test lets its reply be written and keeps everything
behind it from being handled, so that the run is the one of a stream that ends with the frame of that test.
-/

namespace TestDaemon

/-- Whether the server begins to stop during all tests during which it does so by `interrupts`. -/
def Services.Covers (services : Services) (interrupts : Interrupts) : Prop :=
  ∀ archive className method handled, interrupts archive className method handled = true →
    services.interrupts archive className method handled = true

/-- Whether the server begins to stop during the test that a request asks for, behind a number of frames. -/
def Context.isInterrupted (services : Services) (context : Context) (handled : Nat) :
    Except Error Dispatch → Bool
  | .ok (.command line) =>
    match context.testRun? line with
    | some (archive, className, method) => services.interrupts archive className method handled
    | none => false
  | _ => false

/-- Whether the server begins to stop during the test that a handled frame asks for. -/
def Handling.IsInterrupted (services : Services) (handling : Handling) : Prop :=
  handling.before.isInterrupted services handling.number handling.request = true

instance (services : Services) (handling : Handling) : Decidable (handling.IsInterrupted services) :=
  inferInstanceAs (Decidable (_ = true))

/-- The session that a step makes. -/
def Step.session (step : Step Unit) : Session :=
  ⟨step.output, step.result, step.connection.context⟩

namespace Connection

/-- What is received before the first event of another kind. -/
def Event.stream : List Event → Bytes
  | .received bytes :: events => bytes ++ stream events
  | _ => []

theorem Event.stream_received (reads : List Bytes) : Event.stream (reads.map .received) = reads.flatten := by
  induction reads with
  | nil => rfl
  | cons read reads ih => rw [List.map_cons, stream, ih, List.flatten_cons]

variable {services : Services} {connection after : Connection} {events : List Event}
  {handled : List Handling} {step : Step Unit}

/-! ## While the next read is pending -/

theorem waits_of_serve (waits : (connection.serve services false).result = .ok none) :
    ∃ waiting : Connection, waiting.Decodes (.ok none) (connection.serve services false).connection := by
  fun_induction connection.serve services false with
  | case1 | case2 | case4 | case5 => simp [reportFraming] at waits
  | case3 connection running decoder decoded => exact ⟨connection, by simpa using running, decoded, rfl⟩
  | case6 connection _ frame decoder _ handled _ rest ih => exact ih waits

/-- At the end of the stream nothing more comes of a connection that waits for bytes. -/
theorem serve_end_of_waits (waits : (connection.serve services false).result = .ok none) :
    ∃ decoder, (connection.serve services false).connection.serve services true =
      ⟨.ok (some ()), [], { (connection.serve services false).connection with decoder }⟩ := by
  obtain ⟨waiting, decodes⟩ := waits_of_serve waits
  generalize (connection.serve services false).connection = after at decodes ⊢
  have running : after.cancelled = false := by rw [decodes.same]; exact decodes.running
  have ends : after.decoder.next true = _ := FrameDecoder.decodeEnd_of_waiting decodes.decoded
  exact ⟨_, serve_none running ends⟩

theorem run_session (services : Services) (connection : Connection) (events : List Event) :
    (connection.run services events).session =
      let served := connection.serve services false
      (runBehind services events served.result served.connection).session.behind served.output :=
  congrArg Step.session (run_eq services connection events)

/-- A cancellation while the next read is pending comes to the same as the end of the stream. -/
theorem run_append_cancelled (services : Services) (connection : Connection) (events later : List Event) :
    (connection.run services (events ++ .cancelled :: later)).session =
      (connection.run services events).session := by
  induction events generalizing connection with
  | nil =>
    simp only [run_session]
    rcases waits : (connection.serve services false).result with error | (_ | _)
    · rfl
    · obtain ⟨decoder, ends⟩ := serve_end_of_waits waits
      simp [runBehind, ends, Step.session, Except.map]
    · rfl
  | cons event events ih =>
    simp only [run_session]
    rcases (connection.serve services false).result with error | (_ | _)
    · rfl
    · cases event with
      | received bytes => exact congrArg (Session.behind _) (ih _)
      | cancelled => rfl
      | failed text => rfl
    · rfl

/-! ## During a test -/

theorem interrupted_eq (services : Services) (connection : Connection) (line : String) :
    connection.interrupted services line =
      connection.context.isInterrupted services connection.handled (.ok (.command line)) := rfl

/-- What a connection writes to a peer that takes everything depends on its context and its dispatcher
alone. -/
theorem handleFrame_unlimited (unlimited : connection.peer = .unlimited) (frame : Bytes) :
    connection.handleFrame services frame =
      let request := connection.dispatcher.dispatch frame
      let answer := connection.context.answer services request.1
      ⟨answer.result, answer.output,
        { connection with
          context := answer.context
          dispatcher := request.2
          phase := .awaitingFrame
          cancelled :=
            connection.cancelled || connection.context.isInterrupted services connection.handled request.1
          handled := connection.handled + 1 }⟩ := by
  obtain ⟨context, decoder, dispatcher, phase, cancelled, peer, handled⟩ := connection
  obtain rfl : peer = .unlimited := unlimited
  simp only [handleFrame, dispatchFrame, enter]
  rcases dispatcher.dispatch frame with ⟨error | (line | payload | _ | _), dispatcher⟩
  · simp [answer, send_unlimited, Except.map, Context.answer, Context.isInterrupted]
  · simp only [handleCommand_eq, interrupted_eq, Context.answer, Context.respond]
    rcases context.execute services line with ⟨error | (reply | reply), after⟩ <;>
      simp [answerCommand, answer, send_unlimited, Except.map]
  · simp only [handleDeploy, Context.answer, Context.isInterrupted]
    rcases context.ingest services payload with ⟨error | reply, after⟩ <;>
      simp [answer, send_unlimited, Except.map]
  · simp [answer, send_unlimited, Except.map, Context.answer, Context.isInterrupted]
  · simp [Context.answer, Context.isInterrupted]

/-- The handlings of the frames of a stream, one after the other: up to one that is too long, and up to one
behind which the connection does not go on. -/
def replay (services : Services) (limit : Nat) (connection : Connection) : List Bytes → List Handling
  | [] => []
  | frame :: frames =>
    if connection.cancelled = true ∨ limit < frame.length then []
    else
      connection.handling services frame ::
        match (connection.handleFrame services frame).result with
        | .ok .proceed => replay services limit (connection.handleFrame services frame).connection frames
        | _ => []

theorem unlimited_handleFrame (unlimited : connection.peer = .unlimited) (frame : Bytes) :
    (connection.handleFrame services frame).connection.peer = .unlimited := by
  rw [handleFrame_unlimited unlimited]
  exact unlimited

theorem handling_unlimited (unlimited : connection.peer = .unlimited) (frame : Bytes) :
    connection.handling services frame =
      let request := (connection.dispatcher.dispatch frame).1
      let answer := connection.context.answer services request
      ⟨connection.handled, frame, request, answer.result, answer.output, connection.context,
        answer.context⟩ := by
  rw [handling, handleFrame_unlimited unlimited]

/-- The handlings of a stream are not a matter of what the decoder has read. -/
theorem replay_decoder (unlimited : connection.peer = .unlimited) (decoder : FrameDecoder) (limit : Nat)
    (frames : List Bytes) :
    { connection with decoder }.replay services limit frames = connection.replay services limit frames := by
  induction frames generalizing connection with
  | nil => rfl
  | cons frame frames ih =>
    have unlimited' : { connection with decoder }.peer = .unlimited := unlimited
    have next := @ih (connection.handleFrame services frame).connection (unlimited_handleFrame unlimited frame)
    rw [handleFrame_unlimited unlimited] at next
    simp only [replay, handling_unlimited unlimited, handling_unlimited unlimited',
      handleFrame_unlimited unlimited, handleFrame_unlimited unlimited']
    rw [next]

theorem replay_eq_nil {limit : Nat} {parts : List Bytes × Bytes} (long : Frame.Overlong limit parts) :
    connection.replay services limit parts.1 = [] := by
  obtain ⟨frames, tail⟩ := parts
  cases frames with
  | nil => rfl
  | cons frame frames => exact if_pos (.inr long)

theorem replay_frame {limit : Nat} {frame : Bytes} (running : connection.cancelled = false)
    (short : frame.length ≤ limit) (frames : List Bytes) :
    connection.replay services limit (frame :: frames) =
      connection.handling services frame ::
        match (connection.handleFrame services frame).result with
        | .ok .proceed => replay services limit (connection.handleFrame services frame).connection frames
        | _ => [] := by
  rw [replay, if_neg (by simp [running, short])]

theorem Decodes.running_after {result : Except Error (Option Bytes)}
    (decodes : connection.Decodes result after) : after.cancelled = false := by
  rw [decodes.same]
  exact decodes.running

theorem Decodes.peer {result : Except Error (Option Bytes)} (decodes : connection.Decodes result after) :
    after.peer = connection.peer := by
  rw [decodes.same]

/-- A run handles what the replay of its stream handles, wherever its reads fall. -/
theorem Course.replay (course : Course services connection events handled step)
    (searched : connection.decoder.Searched) (unlimited : connection.peer = .unlimited) :
    handled = connection.replay services connection.decoder.limit
      (Frame.cut (connection.decoder.buffer ++ Event.stream events)).1 := by
  -- The three ends of a course that waits for bytes have no frame left.
  have nothing {connection after : Connection} (searched : connection.decoder.Searched)
      (decodes : connection.Decodes (.ok none) after) :
      [] = connection.replay services connection.decoder.limit
        (Frame.cut (connection.decoder.buffer ++ [])).1 := by
    obtain ⟨split, _⟩ := searched.of_none decodes.decoded
    rw [List.append_nil, Frame.cut_of_none split]
    rfl
  induction course with
  | @cancelled connection events cancelled =>
    cases (Frame.cut (connection.decoder.buffer ++ Event.stream events)).1 with
    | nil => rfl
    | cons frame frames => exact (if_pos (.inl cancelled)).symm
  | refused decodes =>
    obtain ⟨_, _, _, _, long⟩ := searched.of_error decodes.decoded
    exact (replay_eq_nil (long _)).symm
  | @concluded connection after events frame decodes concludes =>
    obtain ⟨split, short, _, _⟩ := searched.of_frame decodes.decoded
    rw [Frame.cut_append_of_some split, ← replay_decoder unlimited after.decoder, ← decodes.same,
      replay_frame decodes.running_after short]
    split
    · next proceeds => exact absurd proceeds concludes
    · rfl
  | @handled connection after events frame handled rest decodes proceeds _ ih =>
    obtain ⟨split, short, limit, next⟩ := searched.of_frame decodes.decoded
    have open' : after.peer = .unlimited := decodes.peer.trans unlimited
    have goesOn := ih next (unlimited_handleFrame open' frame)
    rw [Frame.cut_append_of_some split, ← replay_decoder unlimited after.decoder, ← decodes.same,
      replay_frame decodes.running_after short, proceeds, goesOn,
      replay_decoder (unlimited_handleFrame open' frame)]
    simp only [limit]
  | @fed connection after bytes events handled rest decodes _ ih =>
    obtain ⟨_, _, buffer, limit, next⟩ := searched.of_none decodes.decoded
    have open' : after.peer = .unlimited := decodes.peer.trans unlimited
    have goesOn := ih (next.feed bytes) open'
    rw [goesOn, replay_decoder open', decodes.same, replay_decoder unlimited]
    simp only [FrameDecoder.feed, limit, buffer, List.append_assoc, Event.stream]
  | ended decodes | stopped decodes | broken decodes => exact nothing searched decodes

/-- Every handled frame is answered in full. -/
theorem Course.answered (course : Course services connection events handled step)
    (unlimited : connection.peer = .unlimited) :
    ∀ handling ∈ handled, handling.before.answer services handling.request =
      ⟨handling.result, handling.output, handling.after⟩ := by
  induction course with
  | cancelled _ | refused _ | ended _ | stopped _ | broken _ => simp
  | @concluded connection after _ frame decodes _ =>
    have open' : after.peer = .unlimited := decodes.peer.trans unlimited
    simp [handling_unlimited open']
  | @handled connection after _ frame handled _ decodes _ _ ih =>
    have open' : after.peer = .unlimited := decodes.peer.trans unlimited
    refine List.forall_mem_cons.mpr ⟨?_, ih (unlimited_handleFrame open' frame)⟩
    simp [handling_unlimited open']
  | @fed connection after _ _ _ _ decodes _ ih => exact ih (decodes.peer.trans unlimited)

theorem Course.of_cancelled (course : Course services connection events handled step)
    (cancelled : connection.cancelled = true) : handled = [] ∧ step.result = .ok () := by
  cases course with
  | cancelled _ => exact ⟨rfl, rfl⟩
  | refused decodes | concluded decodes _ | handled decodes _ _ | fed decodes _ | ended decodes
  | stopped decodes | broken decodes =>
    rw [decodes.running] at cancelled
    contradiction

end Connection

/-- What a test that the server interrupts comes to. -/
theorem Handling.IsInterrupted.request {services : Services} {handling : Handling}
    (interrupted : handling.IsInterrupted services) :
    ∃ line, handling.request = .ok (.command line) ∧
      (handling.before.answer services handling.request) =
        ⟨.ok .proceed, (handling.before.respond services line).1.encode,
          (handling.before.respond services line).2⟩ := by
  rcases asked : handling.request with error | (line | payload | _ | _)
  case ok.command => exact ⟨line, rfl, rfl⟩
  all_goals
    rw [IsInterrupted, asked] at interrupted
    contradiction

namespace Connection

variable {services : Services} {connection after : Connection} {events : List Event}
  {handled : List Handling} {step : Step Unit}

/-- Behind the frame of an interrupted test nothing is handled, and the run ends without an error. -/
theorem Course.of_interrupted (course : Course services connection events handled step)
    (unlimited : connection.peer = .unlimited) {prior later : List Handling} {handling : Handling}
    (same : handled = prior ++ handling :: later) (interrupted : handling.IsInterrupted services) :
    later = [] ∧ step.result = .ok () ∧ ∀ earlier ∈ handled, earlier.result = .ok .proceed := by
  induction course generalizing prior with
  | cancelled _ | refused _ | ended _ | stopped _ | broken _ => simp at same
  | @concluded connection after _ frame decodes concludes =>
    have open' : after.peer = .unlimited := decodes.peer.trans unlimited
    obtain ⟨rfl, single⟩ | ⟨_, empty⟩ := List.append_eq_singleton_iff.mp same.symm
    case inr => cases empty
    obtain ⟨rfl, rfl⟩ := List.cons.inj single
    obtain ⟨line, _, answer⟩ := interrupted.request
    refine absurd ?_ concludes
    rw [handling_unlimited open'] at answer
    rw [handleFrame_unlimited open']
    exact congrArg Answer.result answer
  | @handled connection after _ frame handled rest decodes proceeds goesOn ih =>
    have open' : after.peer = .unlimited := decodes.peer.trans unlimited
    rcases prior with _ | ⟨first, prior⟩
    -- The frame of the test is the first one: it leaves the connection cancelled.
    · obtain ⟨rfl, rfl⟩ := List.cons.inj same
      have cancelled : (after.handleFrame services frame).connection.cancelled = true := by
        rw [Handling.IsInterrupted, handling_unlimited open'] at interrupted
        rw [handleFrame_unlimited open']
        simp [interrupted]
      obtain ⟨rfl, ends⟩ := goesOn.of_cancelled cancelled
      exact ⟨rfl, ends, by simpa [Connection.handling] using proceeds⟩
    · obtain ⟨_, behind⟩ := List.cons.inj same
      obtain ⟨last, ends, earlier⟩ := ih (unlimited_handleFrame open' frame) behind
      exact ⟨last, ends, List.forall_mem_cons.mpr ⟨proceeds, earlier⟩⟩
  | @fed connection after _ _ _ _ decodes _ ih => exact ih (decodes.peer.trans unlimited) same

/-! ## The stream that is cut -/

theorem answer_interrupts (context : Context) (interrupts : Interrupts)
    (request : Except Error Dispatch) :
    context.answer { services with interrupts } request = context.answer services request := by
  rcases request with error | (line | payload | _ | _) <;> rfl

theorem isInterrupted_of_covers {interrupts : Interrupts}
    (covers : services.Covers interrupts) {context : Context} {number : Nat}
    {request : Except Error Dispatch}
    (interrupted : context.isInterrupted { services with interrupts } number request = true) :
    context.isInterrupted services number request = true := by
  rcases request with error | (line | payload | _ | _)
  case ok.command =>
    rcases run : context.testRun? line with _ | ⟨archive, className, method⟩
    · simp [Context.isInterrupted, run] at interrupted
    · simp only [Context.isInterrupted, run] at interrupted ⊢
      exact covers _ _ _ _ interrupted
  all_goals contradiction

theorem replay_frames (services : Services) (limit : Nat) (connection : Connection) (frames : List Bytes) :
    (connection.replay services limit frames).map Handling.frame <+: frames ∧
      ∀ handling ∈ connection.replay services limit frames, handling.frame.length ≤ limit := by
  induction frames generalizing connection with
  | nil => simp [replay]
  | cons frame frames ih =>
    rw [replay]
    split
    · simp
    · next going =>
      have short : frame.length ≤ limit := Nat.not_lt.mp fun long => going (.inr long)
      split
      · obtain ⟨begins, shorter⟩ := ih (connection.handleFrame services frame).connection
        exact ⟨List.prefix_cons_inj _ |>.mpr begins, List.forall_mem_cons.mpr ⟨short, shorter⟩⟩
      · exact ⟨by simp [handling], by simpa [handling] using short⟩

/-- The frames that have been handled are handled in the same way where they are all that comes, and where
the server is interrupted less often. -/
theorem replay_handled (unlimited : connection.peer = .unlimited)
    {interrupts : Interrupts} (covers : services.Covers interrupts)
    {cancelled : Bool} (earlier : cancelled = true → connection.cancelled = true) (limit : Nat)
    (frames : List Bytes) :
    { connection with cancelled }.replay { services with interrupts } limit
        ((connection.replay services limit frames).map Handling.frame) =
      connection.replay services limit frames := by
  induction frames generalizing connection cancelled with
  | nil => rfl
  | cons frame frames ih =>
    rw [replay]
    split
    · rfl
    · next going =>
      have short : frame.length ≤ limit := Nat.not_lt.mp fun long => going (.inr long)
      have running : { connection with cancelled }.cancelled = false :=
        Bool.eq_false_iff.mpr fun set => going (.inl (earlier set))
      have unlimited' : { connection with cancelled }.peer = .unlimited := unlimited
      -- Where the connection goes on uncancelled, so does the one that is interrupted less often.
      have implied : (cancelled || connection.context.isInterrupted { services with interrupts }
            connection.handled (connection.dispatcher.dispatch frame).1) = true →
          (connection.handleFrame services frame).connection.cancelled = true := by
        rw [handleFrame_unlimited unlimited]
        simp only [Bool.or_eq_true]
        exact Or.imp earlier (isInterrupted_of_covers covers)
      have next := @ih (connection.handleFrame services frame).connection
        (unlimited_handleFrame unlimited frame) _ implied
      rw [List.map_cons, handling, replay_frame running short]
      simp only [handling_unlimited unlimited', handleFrame_unlimited unlimited,
        handleFrame_unlimited unlimited', answer_interrupts] at next ⊢
      rcases (connection.context.answer services (connection.dispatcher.dispatch frame).1).result with
        error | (_ | _)
      · rfl
      · simp only [next]
      · rfl

/-- A run ends without an error if its stream keeps to the limit, no read fails and every frame lets the
connection go on. -/
theorem Course.result_of_proceeds (course : Course services connection events handled step)
    (searched : connection.decoder.Searched)
    (fit : Frame.Fit connection.decoder.limit
      (Frame.cut (connection.decoder.buffer ++ Event.stream events)))
    (intact : ∀ text, .failed text ∉ events)
    (proceeds : ∀ handling ∈ handled, handling.result = .ok .proceed) : step.result = .ok () := by
  induction course with
  | cancelled _ | ended _ | stopped _ => rfl
  | refused decodes =>
    obtain ⟨_, _, _, _, long⟩ := searched.of_error decodes.decoded
    exact absurd (long _) fit.not_overlong
  | concluded decodes concludes => exact absurd (proceeds _ (List.mem_singleton_self _)) concludes
  | handled decodes _ _ ih =>
    obtain ⟨split, short, limit, next⟩ := searched.of_frame decodes.decoded
    rw [Frame.cut_append_of_some split] at fit
    refine ih next ?_ intact fun handling member => proceeds handling (List.mem_cons_of_mem _ member)
    rw [← limit] at fit
    exact ⟨fun other member => fit.1 other (List.mem_cons_of_mem _ member), fit.2⟩
  | fed decodes _ ih =>
    obtain ⟨_, _, buffer, limit, next⟩ := searched.of_none decodes.decoded
    refine ih (next.feed _) ?_ (fun text member => intact text (List.mem_cons_of_mem _ member)) proceeds
    simpa only [FrameDecoder.feed, limit, buffer, List.append_assoc, Event.stream] using fit
  | @broken connection _ text events _ => exact absurd (List.mem_cons_self ..) (intact text)

end Connection

/-- Leading frames of a stream are the frames of a leading part of it. -/
theorem Frame.of_prefix_cut {frames : List Bytes} {stream : Bytes} (begins : frames <+: (cut stream).1) :
    joined frames [] <+: stream ∧ cut (joined frames []) = (frames, []) := by
  obtain ⟨behind, division⟩ := begins
  have clear := (cut_clear stream).1
  rw [← division] at clear
  refine ⟨⟨joined behind (cut stream).2, ?_⟩, cut_joined (fun frame member => ?_) (by decide)⟩
  · conv_rhs => rw [← joined_cut stream, ← division]
    simp [joined]
  · exact clear frame (List.mem_append_left _ member)

theorem Handling.Path.last_eq {services : Services} {first last : Context} {prior : List Handling}
    {handling : Handling} (path : Path services first (prior ++ [handling]) last) : last = handling.after := by
  induction prior generalizing first with
  | nil =>
    cases path with
    | cons rest =>
      generalize Handling.after _ = context at rest ⊢
      cases rest
      rfl
  | cons earlier prior ih =>
    cases path with
    | cons rest => exact ih rest

namespace Connection

variable {services : Services} {connection : Connection} {events : List Event} {step : Step Unit}

/-- The session of a run that ends without an error is that of the frames that it handles. -/
theorem Course.session {prior : List Handling} {handling : Handling}
    (course : Course services connection events (prior ++ [handling]) step) (ends : step.result = .ok ()) :
    step.session = ⟨Handling.outputs (prior ++ [handling]), .ok (), handling.after⟩ := by
  obtain ⟨report, output, failed⟩ := course.output
  obtain rfl : report = [] := by
    by_contra reported
    obtain ⟨error, fails⟩ := failed reported
    rw [ends] at fails
    contradiction
  rw [Step.session, output, ends, course.path.last_eq, List.append_nil]

/-- Where the frames that a run has handled are all that comes, they are what is handled, and the run ends
without an error if each of them lets it go on. -/
theorem run_handled (unlimited : connection.peer = .unlimited)
    {interrupts : Interrupts} (covers : services.Covers interrupts)
    {handled : List Handling} {stream : Bytes}
    (replayed : handled = connection.replay services connection.decoder.limit (Frame.cut stream).1)
    (proceeds : ∀ handling ∈ handled, handling.result = .ok .proceed)
    {reads : List Bytes} (division : reads.flatten = Frame.joined (handled.map Handling.frame) []) :
    let cut := { connection with decoder := .new connection.decoder.limit }
    let run := cut.run { services with interrupts } (reads.map .received)
    Course { services with interrupts } cut (reads.map .received) handled run.toStep ∧
      run.finish = .ok () := by
  intro cut run
  obtain ⟨begins, short⟩ := replay_frames services connection.decoder.limit connection (Frame.cut stream).1
  rw [← replayed] at begins short
  have parts : Frame.cut (cut.decoder.buffer ++ Event.stream (reads.map .received)) =
      (handled.map Handling.frame, []) := by
    rw [Event.stream_received, division]
    exact (Frame.of_prefix_cut begins).2
  have searched : cut.decoder.Searched := FrameDecoder.searched_new _
  have course := course_of_run { services with interrupts } cut (reads.map .received)
  have same : cut.handlings { services with interrupts } (reads.map .received) = handled := by
    rw [course.replay searched unlimited, parts, replay_decoder unlimited, replayed]
    exact replay_handled unlimited covers id _ _
  rw [same] at course
  refine ⟨course, course.result_of_proceeds searched ?_ (by simp) proceeds⟩
  rw [parts]
  exact ⟨List.forall_mem_map.mpr short, Nat.zero_le _⟩

/-- To a peer that takes everything, a cancellation while the next read is pending comes to the same as the
end of the stream, whatever would follow. One during the test of a frame lets the whole reply be written;
nothing behind that frame is handled, and the run ends without an error, as it does where the stream ends
with the frame, however that stream is read and whether or not the test is interrupted there. The
connection may have been served before. -/
theorem run_cancelled (services : Services) (connection : Connection)
    (searched : connection.decoder.Searched) (unlimited : connection.peer = .unlimited)
    (events : List Event) :
    let run := connection.run services events
    (∀ later, (connection.run services (events ++ .cancelled :: later)).session = run.session) ∧
    ∀ prior handling later, connection.handlings services events = prior ++ handling :: later →
      handling.IsInterrupted services →
      let handled := prior ++ [handling]
      let stream := Frame.joined (handled.map Handling.frame) []
      later = [] ∧
      (∃ line, handling.request = .ok (.command line) ∧
        handling.output = (handling.before.respond services line).1.encode) ∧
      run.session = ⟨Handling.outputs handled, .ok (), handling.after⟩ ∧
      stream <+: connection.decoder.buffer ++ Event.stream events ∧
      ∀ interrupts, services.Covers interrupts → ∀ reads : List Bytes, reads.flatten = stream →
        ({ connection with decoder := .new connection.decoder.limit }.run { services with interrupts }
          (reads.map .received)).session = run.session := by
  intro run
  refine ⟨run_append_cancelled services connection events, ?_⟩
  intro prior handling later same interrupted handled stream
  have course := course_of_run services connection events
  obtain ⟨rfl, ends, proceeds⟩ := course.of_interrupted unlimited same interrupted
  have replayed := course.replay searched unlimited
  have answered := course.answered unlimited handling (by simp [same])
  rw [same] at course proceeds replayed
  obtain ⟨begins, _⟩ := replay_frames services connection.decoder.limit connection
    (Frame.cut (connection.decoder.buffer ++ Event.stream events)).1
  rw [← replayed] at begins
  have session : run.session = _ := course.session ends
  refine ⟨rfl, ?_, session, (Frame.of_prefix_cut begins).1, ?_⟩
  · obtain ⟨line, asked, answer⟩ := interrupted.request
    exact ⟨line, asked, congrArg Answer.output (answered.symm.trans answer)⟩
  · intro interrupts covers reads division
    obtain ⟨course', ends'⟩ := run_handled unlimited covers replayed proceeds division
    exact (course'.session ends').trans session.symm

/-- The server begins to stop during the second run of a test. Both runs are answered; the undeploy that has
come with the same read is not handled. -/
theorem run_cancelled_pipelined :
    let services : Services :=
      { importer := fun _ _ => .error ⟨.deploy, "refused"⟩
        executor := fun archive className _ => .error ⟨.execution, archive.id ++ className⟩
        interrupts := fun _ _ _ handled => handled == 1 }
    let connection := Connection.new (.new (Store.empty.insert "a" (.new "a")).2) 100 .unlimited
    let events := [Event.received (Utf8.encode "CMD test a C m<<EOFCMD test a C m<<EOFCMD undeploy a<<EOFCM"),
      .received (Utf8.encode "D stop<<EOF")]
    let alone := [Utf8.encode "CMD test a C m<<EOFCMD te", Utf8.encode "st a C m<<EOF"]
    let run := connection.run services events
    let reply := (Reply.ofError ⟨.execution, "aC"⟩).encode
    run.output = reply ++ reply ∧ run.finish = .ok () ∧
      (connection.run services (alone.map .received)).session = run.session := by
  intro services connection events alone run reply
  let handled := connection.handlings services events
  have nonempty : handled ≠ [] := List.ne_nil_of_length_pos (by decide +kernel)
  have same : handled = handled.dropLast ++ [handled.getLast nonempty] := (List.dropLast_concat_getLast nonempty).symm
  have interrupted : ∀ last ∈ handled.getLast?, last.IsInterrupted services := by decide +kernel
  obtain ⟨-, cut⟩ := run_cancelled services connection (FrameDecoder.searched_new 100) rfl events
  obtain ⟨-, -, session, -, alike⟩ := cut _ _ [] same (interrupted _ (List.getLast_mem_getLast? nonempty))
  rw [← same] at session alike
  have output : Handling.outputs handled = reply ++ reply := by decide +kernel
  refine ⟨(congrArg Session.output session).trans output, congrArg Session.finish session, ?_⟩
  exact alike services.interrupts (fun _ _ _ _ => id) alone (by decide +kernel)

end Connection

end TestDaemon
