import TestDaemon.Connection

/-! # Peers that stop reading

A connection writes one reply after the other. A peer that takes only so many bytes gets the first ones of
what a peer without a limit gets. The frame whose reply is cut off still has its effect, no later frame is
handled, and the connection ends with an error.
-/

namespace TestDaemon

/-- The error of a write that a peer does not take in full. -/
def Error.unwritten : (refusal : Option String) → Error
  | some text => ⟨.io, text⟩
  | none => .droppedReply

/-- What a connection writes at one go: what there is to write for a frame, or the report of a framing
error. The context is the one right after it. -/
structure Written where
  output : Bytes
  context : Context
  framing : Option Error

/-- The end of a connection whose peer does not take a writing in full. -/
def Written.failure (refusal : Option String) (writing : Written) : Error :=
  writing.framing.getD (.unwritten refusal)

namespace Connection

/-! ## The writings of a connection -/

/-- What is written while the frames of the buffer are served. -/
def servedWritings (services : Services) (ended : Bool) (connection : Connection) : List Written :=
  if connection.cancelled then []
  else match _ : connection.decoder.next ended with
    | (.error error, decoder) =>
      let reported := { connection with decoder }.reportFraming error
      [⟨reported.output, reported.connection.context, some error⟩]
    | (.ok none, _) => []
    | (.ok (some frame), decoder) =>
      let handled := { connection with decoder }.handleFrame services frame
      ⟨handled.output, handled.connection.context, none⟩ ::
        match handled.result with
        | .ok .proceed => servedWritings services ended { handled.connection with decoder }
        | _ => []
termination_by connection.decoder.buffer.length
decreasing_by exact FrameDecoder.next_length ‹_›

/-- What is written in the course of a run. -/
def writings (services : Services) (connection : Connection) (events : List Event) : List Written :=
  let served := connection.serve services false
  connection.servedWritings services false ++
    match served.result with
    | .ok none =>
      match events with
      | [] => served.connection.servedWritings services true
      | .received bytes :: events =>
        let fed := { served.connection with decoder := served.connection.decoder.feed bytes }
        writings services fed events
      | _ => []
    | _ => []

theorem servedWritings_eq (services : Services) (ended : Bool) (connection : Connection) :
    connection.servedWritings services ended =
      if connection.cancelled then []
      else match connection.decoder.next ended with
        | (.error error, decoder) =>
          let reported := { connection with decoder }.reportFraming error
          [⟨reported.output, reported.connection.context, some error⟩]
        | (.ok none, _) => []
        | (.ok (some frame), decoder) =>
          let handled := { connection with decoder }.handleFrame services frame
          ⟨handled.output, handled.connection.context, none⟩ ::
            match handled.result with
            | .ok .proceed => servedWritings services ended { handled.connection with decoder }
            | _ => [] := by
  rw [servedWritings]
  congr 1
  split
  all_goals
    next decoded => rw [decoded]

/-! ## A reply that is cut off -/

/-- A connection with a peer that takes `room` more bytes. -/
def limited (connection : Connection) (refusal : Option String) (room : Nat) : Connection :=
  { connection with peer := ⟨some room, refusal⟩ }

end Connection

/-- A step that writes at most one reply, and the same step for any number of bytes that the peer takes. -/
structure Step.Clipped {α : Type} (refusal : Option String) (whole : Step α) (clipped : Nat → Step α) :
    Prop where
  unlimited : whole.connection.peer = .unlimited
  fits : ∀ {room}, whole.output.length ≤ room →
    clipped room = ⟨whole.result, whole.output,
      whole.connection.limited refusal (room - whole.output.length)⟩
  cut : ∀ {room}, room < whole.output.length →
    (clipped room).result = .error (.unwritten refusal) ∧ (clipped room).output = whole.output.take room ∧
      (clipped room).connection.context.store = whole.connection.context.store

namespace Connection

variable {services : Services} {connection : Connection} {refusal : Option String}

theorem send_unlimited (unlimited : connection.peer = .unlimited) (reply : Reply) :
    connection.send reply = ⟨.ok (), reply.encode, connection⟩ := by
  simp only [send, unlimited, Peer.unlimited]

theorem clipped_send (refusal : Option String) (unlimited : connection.peer = .unlimited) (reply : Reply) :
    (connection.send reply).Clipped refusal fun room => (connection.limited refusal room).send reply := by
  rw [send_unlimited unlimited]
  refine ⟨unlimited, fun fits => ?_, fun cut => ?_⟩
  · simp only [send, limited, if_pos fits]
  · simp only [send, limited, if_neg (Nat.not_le.mpr cut)]
    cases refusal <;> exact ⟨rfl, rfl, rfl⟩

theorem clipped_silent {α : Type} (unlimited : connection.peer = .unlimited) (result : Except Error α) :
    Step.Clipped refusal ⟨result, [], connection⟩ fun room =>
      ⟨result, [], connection.limited refusal room⟩ :=
  ⟨unlimited, fun _ => rfl, fun cut => absurd cut (Nat.not_lt_zero _)⟩

theorem clipped_answer (unlimited : connection.peer = .unlimited) (reply : Reply) (outcome : FrameOutcome) :
    (connection.answer reply outcome).Clipped refusal fun room =>
      (connection.limited refusal room).answer reply outcome := by
  have sent := clipped_send refusal unlimited reply
  refine ⟨sent.unlimited, fun {room} fits => ?_, fun {room} cut => ?_⟩
  · simp only [answer, sent.fits fits]
  · obtain ⟨result, output, store⟩ := sent.cut cut
    simp only [answer, result]
    exact ⟨rfl, output, store⟩

/-- Answer what has become of a command. -/
def answerCommand (connection : Connection) : Except Error CommandReply → Step FrameOutcome
  | .error error => connection.answer (.ofError error) .proceed
  | .ok (.respond reply) => connection.answer reply .proceed
  | .ok (.respondThenStop reply) =>
    let sent := connection.send reply
    match sent.result with
    | .error error => ⟨.error error, sent.output, sent.connection⟩
    | .ok () =>
      ⟨.ok .proceed, sent.output, { sent.connection with context := sent.connection.context.requestStop }⟩

/-- Whether the server begins to stop while a command line is carried out. -/
def interrupted (services : Services) (connection : Connection) (line : String) : Bool :=
  match connection.context.testRun? line with
  | some (archive, className, method) => services.interrupts archive className method connection.handled
  | none => false

theorem handleCommand_eq (services : Services) (connection : Connection) (line : String) :
    connection.handleCommand services line =
      answerCommand { connection with
        context := (connection.context.execute services line).2
        cancelled := connection.cancelled || connection.interrupted services line }
          (connection.context.execute services line).1 := by
  unfold handleCommand
  rcases connection.context.execute services line with ⟨error | (reply | reply), context⟩ <;> rfl

theorem clipped_answerCommand (unlimited : connection.peer = .unlimited)
    (result : Except Error CommandReply) :
    (connection.answerCommand result).Clipped refusal fun room =>
      (connection.limited refusal room).answerCommand result := by
  rcases result with error | (reply | reply)
  · exact clipped_answer unlimited _ _
  · exact clipped_answer unlimited _ _
  · have sent := clipped_send refusal unlimited reply
    simp only [answerCommand]
    rw [send_unlimited unlimited] at sent ⊢
    refine ⟨unlimited, fun {room} fits => ?_, fun {room} cut => ?_⟩
    · simp only [sent.fits fits]
      rfl
    · obtain ⟨result, output, store⟩ := sent.cut cut
      simp only [result]
      exact ⟨trivial, output, store⟩

theorem clipped_handleCommand (unlimited : connection.peer = .unlimited) (line : String) :
    (connection.handleCommand services line).Clipped refusal fun room =>
      (connection.limited refusal room).handleCommand services line := by
  simp only [handleCommand_eq]
  refine clipped_answerCommand ?_ _
  exact unlimited

theorem clipped_handleDeploy (unlimited : connection.peer = .unlimited) (payload : Bytes) :
    (connection.handleDeploy services payload).Clipped refusal fun room =>
      (connection.limited refusal room).handleDeploy services payload := by
  have peer (context : Context) : Connection.peer { connection with context } = .unlimited := unlimited
  simp only [handleDeploy, limited]
  rcases connection.context.ingest services payload with ⟨error | reply, context⟩
  · exact clipped_silent unlimited _
  · exact clipped_answer (peer context) _ _

/-- The handling of a frame writes at most one reply, after it has had its effect. -/
theorem clipped_handleFrame (services : Services) (refusal : Option String)
    (unlimited : connection.peer = .unlimited) (frame : Bytes) :
    (connection.handleFrame services frame).Clipped refusal fun room =>
      (connection.limited refusal room).handleFrame services frame := by
  have peer (dispatcher : Dispatcher) (phase : Phase) :
      Connection.peer { connection with dispatcher, phase } = .unlimited := unlimited
  have dispatched : ((connection.enter .dispatching).dispatchFrame services frame).Clipped refusal fun room =>
      ((connection.limited refusal room).enter .dispatching).dispatchFrame services frame := by
    simp only [dispatchFrame, enter, limited]
    rcases connection.dispatcher.dispatch frame with ⟨error | (line | payload | _ | _), dispatcher⟩
    · exact clipped_answer (peer ..) _ _
    · exact clipped_handleCommand (peer ..) _
    · exact clipped_handleDeploy (peer ..) _
    · exact clipped_answer (peer ..) _ _
    · exact clipped_silent (peer ..) _
  refine ⟨dispatched.unlimited, fun {room} fits => ?_, fun {room} cut => ?_⟩
  · simp only [handleFrame, dispatched.fits fits]
    rfl
  · exact dispatched.cut cut

end Connection

/-! ## Where an output is cut off -/

/-- All bytes of some writings. -/
def Written.outputs (writings : List Written) : Bytes := writings.flatMap Written.output

/-- The output of some writings is cut off inside one of them. The store is the one right after this
writing, and the error is the one for it. -/
def Written.CutOff (refusal : Option String) (room : Nat) (writings : List Written) (store : Store)
    (error : Error) : Prop :=
  ∃ before writing after, writings = before ++ writing :: after ∧ (outputs before).length ≤ room ∧
    room < (outputs before).length + writing.output.length ∧ store = writing.context.store ∧
      error = writing.failure refusal

namespace Written

variable {refusal : Option String} {room : Nat} {writings : List Written} {store : Store} {error : Error}

theorem outputs_append (first second : List Written) :
    outputs (first ++ second) = outputs first ++ outputs second :=
  List.flatMap_append

theorem CutOff.append (cutOff : CutOff refusal room writings store error) (later : List Written) :
    CutOff refusal room (writings ++ later) store error := by
  obtain ⟨before, writing, after, rfl, fits, cut, stored, failed⟩ := cutOff
  exact ⟨before, writing, after ++ later, by simp, fits, cut, stored, failed⟩

theorem CutOff.behind {earlier : List Written} (fits : (outputs earlier).length ≤ room)
    (cutOff : CutOff refusal (room - (outputs earlier).length) writings store error) :
    CutOff refusal room (earlier ++ writings) store error := by
  obtain ⟨before, writing, after, rfl, fits', cut, stored, failed⟩ := cutOff
  have length : (outputs (earlier ++ before)).length =
      (outputs earlier).length + (outputs before).length := by
    rw [outputs_append, List.length_append]
  exact ⟨earlier ++ before, writing, after, by simp, by omega, by omega, stored, failed⟩

end Written

/-- Steps that write some writings, and the same for any number of bytes that the peer takes. -/
structure Step.Curtailed {α : Type} (refusal : Option String) (writings : List Written) (whole : Step α)
    (curtailed : Nat → Step α) : Prop where
  unlimited : whole.connection.peer = .unlimited
  written : whole.output = Written.outputs writings
  fits : ∀ {room}, whole.output.length ≤ room →
    curtailed room = ⟨whole.result, whole.output,
      whole.connection.limited refusal (room - whole.output.length)⟩
  cut : ∀ {room}, room < whole.output.length →
    (curtailed room).output = whole.output.take room ∧ ∃ error, (curtailed room).result = .error error ∧
      Written.CutOff refusal room writings (curtailed room).connection.context.store error

namespace Step

variable {α β : Type} {refusal : Option String} {whole : Step α} {limited : Nat → Step α}

theorem Clipped.curtailed (clipped : whole.Clipped refusal limited) :
    whole.Curtailed refusal [⟨whole.output, whole.connection.context, none⟩] limited where
  unlimited := clipped.unlimited
  written := (List.append_nil _).symm
  fits := clipped.fits
  cut {room} cut := by
    obtain ⟨result, output, store⟩ := clipped.cut cut
    refine ⟨output, _, result, [], _, [], rfl, Nat.zero_le _, ?_, store, rfl⟩
    simpa [Written.outputs] using cut

theorem curtailed_silent {connection : Connection} (unlimited : connection.peer = .unlimited)
    (result : Except Error α) :
    Curtailed refusal [] ⟨result, [], connection⟩ fun room =>
      ⟨result, [], connection.limited refusal room⟩ :=
  ⟨unlimited, rfl, fun _ => rfl, fun cut => absurd cut (Nat.not_lt_zero _)⟩

theorem Curtailed.mapped {writings : List Written} (curtailed : whole.Curtailed refusal writings limited)
    (f : α → β) :
    Curtailed refusal writings ⟨whole.result.map f, whole.output, whole.connection⟩ fun room =>
      ⟨(limited room).result.map f, (limited room).output, (limited room).connection⟩ where
  unlimited := curtailed.unlimited
  written := curtailed.written
  fits {room} fits := by rw [curtailed.fits fits]
  cut {room} cut := by
    obtain ⟨output, error, result, cutOff⟩ := curtailed.cut cut
    exact ⟨output, error, congrArg (Except.map f) result, cutOff⟩

/-- Some steps and then others, which are not taken if the peer has stopped reading. -/
theorem Curtailed.followed {first : Step β} {early : Nat → Step β} {rest : Step α} {late : Nat → Step α}
    {earlier later : List Written} (begun : first.Curtailed refusal earlier early)
    (ended : rest.Curtailed refusal later late)
    (all : whole = ⟨rest.result, first.output ++ rest.output, rest.connection⟩)
    (goesOn : ∀ room, first.output.length ≤ room → limited room =
      ⟨(late (room - first.output.length)).result,
        first.output ++ (late (room - first.output.length)).output,
        (late (room - first.output.length)).connection⟩)
    (stops : ∀ room error, (early room).result = .error error →
      limited room = ⟨.error error, (early room).output, (early room).connection⟩) :
    whole.Curtailed refusal (earlier ++ later) limited where
  unlimited := by
    rw [all]
    exact ended.unlimited
  written := by
    rw [all, Written.outputs_append, ← begun.written, ← ended.written]
  fits {room} fits := by
    subst all
    simp only [List.length_append] at fits ⊢
    have first' : first.output.length ≤ room := by omega
    have rest' : rest.output.length ≤ room - first.output.length := by omega
    rw [goesOn room first', ended.fits rest', Nat.sub_sub]
  cut {room} cut := by
    subst all
    simp only [List.length_append] at cut ⊢
    rcases Nat.lt_or_ge room first.output.length with early' | late'
    · obtain ⟨output, error, result, cutOff⟩ := begun.cut early'
      rw [stops room error result]
      refine ⟨?_, error, rfl, cutOff.append later⟩
      rw [output, List.take_append_of_le_length (Nat.le_of_lt early')]
    · obtain ⟨output, error, result, cutOff⟩ := ended.cut (Nat.sub_lt_left_of_lt_add late' cut)
      rw [goesOn room late']
      refine ⟨?_, error, result, ?_⟩
      · simp only [output, List.take_append, List.take_of_length_le late']
      · rw [begun.written] at late' cutOff ⊢
        exact cutOff.behind late'

end Step

namespace Connection

variable {services : Services} {ended : Bool} {connection : Connection} {decoder : FrameDecoder}
  {refusal : Option String}

/-- The report of a framing error ends the connection with this error, whether it is taken or not. -/
theorem curtailed_reportFraming (unlimited : connection.peer = .unlimited) (error : Error) :
    let reported := connection.reportFraming error
    reported.Curtailed refusal [⟨reported.output, reported.connection.context, some error⟩] fun room =>
      (connection.limited refusal room).reportFraming error := by
  have sent := clipped_send refusal unlimited (.failed error.message)
  refine ⟨sent.unlimited, (List.append_nil _).symm, fun {room} fits => ?_, fun {room} cut => ?_⟩
  · simp only [reportFraming] at fits ⊢
    rw [sent.fits fits]
  · simp only [reportFraming] at cut ⊢
    obtain ⟨-, output, store⟩ := sent.cut cut
    refine ⟨output, error, rfl, [], _, [], rfl, Nat.zero_le _, ?_, store, rfl⟩
    simpa [Written.outputs] using cut

/-- What is served behind a frame that has been handled. -/
def serveBehind (services : Services) (ended : Bool) (decoder : FrameDecoder)
    (result : Except Error FrameOutcome) (after : Connection) : Step (Option Unit) :=
  match result with
  | .error error => ⟨.error error, [], after⟩
  | .ok .close => ⟨.ok (some ()), [], after⟩
  | .ok .proceed => serve services ended { after with decoder }

theorem serve_frame_eq {frame : Bytes} (running : connection.cancelled = false)
    (decoded : connection.decoder.next ended = (.ok (some frame), decoder)) :
    connection.serve services ended =
      let handled := { connection with decoder }.handleFrame services frame
      let rest := serveBehind services ended decoder handled.result handled.connection
      ⟨rest.result, handled.output ++ rest.output, rest.connection⟩ := by
  rw [serve_frame running decoded]
  simp only [serveBehind]
  rcases handleFrame services { connection with decoder } frame
    with ⟨error | (proceed | close), output, after⟩
  · simp only [List.append_nil]
  · rfl
  · simp only [List.append_nil]

theorem curtailed_serveBehind {after : Connection} (unlimited : after.peer = .unlimited)
    (result : Except Error FrameOutcome)
    (serves : (serve services ended { after with decoder }).Curtailed refusal
      (servedWritings services ended { after with decoder })
      fun room => serve services ended (limited { after with decoder } refusal room)) :
    (serveBehind services ended decoder result after).Curtailed refusal
      (match result with
        | .ok .proceed => servedWritings services ended { after with decoder }
        | _ => [])
      fun room => serveBehind services ended decoder result (after.limited refusal room) := by
  rcases result with error | (proceed | close)
  · exact Step.curtailed_silent unlimited _
  · exact serves
  · exact Step.curtailed_silent unlimited _

/-- The induction goes along the frames of the buffer. -/
theorem curtailed_serve (connection : Connection) (unlimited : connection.peer = .unlimited) :
    (connection.serve services ended).Curtailed refusal (connection.servedWritings services ended)
      fun room => (connection.limited refusal room).serve services ended := by
  have given (decoder : FrameDecoder) : Connection.peer { connection with decoder } = .unlimited := unlimited
  cases cancelled : connection.cancelled with
  | true =>
    have others (room : Nat) : (connection.limited refusal room).serve services ended = _ :=
      serve_cancelled cancelled
    rw [servedWritings_eq, if_pos cancelled]
    simp only [others, serve_cancelled cancelled]
    exact Step.curtailed_silent unlimited _
  | false =>
    have running : ¬ connection.cancelled = true := by
      rw [cancelled]
      exact Bool.false_ne_true
    rcases decoded : connection.decoder.next ended with ⟨error | (none | frame), decoder⟩
    · have others (room : Nat) : (connection.limited refusal room).serve services ended = _ :=
        serve_error cancelled decoded
      rw [servedWritings_eq, if_neg running, decoded]
      simp only [others, serve_error cancelled decoded]
      exact curtailed_reportFraming (given decoder) error
    · have others (room : Nat) : (connection.limited refusal room).serve services ended = _ :=
        serve_none cancelled decoded
      rw [servedWritings_eq, if_neg running, decoded]
      simp only [others, serve_none cancelled decoded]
      exact Step.curtailed_silent (given decoder) _
    · have begun := clipped_handleFrame services refusal (given decoder) frame
      have later := curtailed_serve
        { (handleFrame services { connection with decoder } frame).connection with decoder } begun.unlimited
      have others (room : Nat) : (connection.limited refusal room).serve services ended = _ :=
        serve_frame_eq cancelled decoded
      rw [servedWritings_eq, if_neg running, decoded]
      refine begun.curtailed.followed (curtailed_serveBehind begun.unlimited _ later)
        (serve_frame_eq cancelled decoded) ?_ ?_
      · intro room fits
        rw [others]
        have handled : handleFrame services (limited { connection with decoder } refusal room) frame = _ :=
          begun.fits fits
        simp only [limited] at handled ⊢
        simp only [handled]
      · intro room error result
        rw [others]
        simp only [limited] at result ⊢
        simp only [result, serveBehind, List.append_nil]
termination_by connection.decoder.buffer.length
decreasing_by exact FrameDecoder.next_length decoded

/-! ## Runs -/

/-- A run as a single step. -/
def Run.toStep (run : Run) : Step Unit := ⟨run.finish, run.output, run.connection⟩

/-- What a run comes to once the frames of the buffer are served. -/
def runBehind (services : Services) (events : List Event) (result : Except Error (Option Unit))
    (after : Connection) : Step Unit :=
  match result with
  | .error error => ⟨.error error, [], after⟩
  | .ok (some ()) => ⟨.ok (), [], after⟩
  | .ok none =>
    match events with
    | [] =>
      let last := after.serve services true
      ⟨last.result.map fun _ => (), last.output, last.connection⟩
    | .received bytes :: events =>
      (run services { after with decoder := after.decoder.feed bytes } events).toStep
    | .cancelled :: _ => ⟨.ok (), [], { after with cancelled := true }⟩
    | .failed text :: _ => ⟨.error ⟨.io, text⟩, [], after⟩

theorem run_eq (services : Services) (connection : Connection) (events : List Event) :
    (connection.run services events).toStep =
      let served := connection.serve services false
      let rest := runBehind services events served.result served.connection
      ⟨rest.result, served.output ++ rest.output, rest.connection⟩ := by
  rw [run.eq_def]
  rcases connection.serve services false with ⟨error | (_ | closed), output, after⟩
  · simp [Run.toStep, Run.output, runBehind]
  · rcases events with _ | ⟨bytes | _ | text, events⟩ <;> simp [Run.toStep, Run.output, runBehind]
  · simp [Run.toStep, Run.output, runBehind]

theorem curtailed_run (connection : Connection) (unlimited : connection.peer = .unlimited)
    (events : List Event) :
    (connection.run services events).toStep.Curtailed refusal (connection.writings services events)
      fun room => ((connection.limited refusal room).run services events).toStep := by
  have begun : (connection.serve services false).Curtailed refusal _ _ := curtailed_serve connection unlimited
  have others (room : Nat) : ((connection.limited refusal room).run services events).toStep = _ :=
    run_eq services (connection.limited refusal room) events
  rw [writings.eq_def]
  refine begun.followed (?_ : Step.Curtailed refusal _ _ fun room =>
    runBehind services events (connection.serve services false).result
      ((connection.serve services false).connection.limited refusal room)) (run_eq ..) ?_ ?_
  · have after := begun.unlimited
    generalize connection.serve services false = served at after ⊢
    obtain ⟨error | (_ | closed), output, served⟩ := served
    · exact Step.curtailed_silent after _
    · rcases events with _ | ⟨bytes | _ | text, events⟩
      · exact (curtailed_serve served after).mapped fun _ => ()
      · exact curtailed_run { served with decoder := served.decoder.feed bytes } after events
      · have stopped : Connection.peer { served with cancelled := true } = .unlimited := after
        exact Step.curtailed_silent stopped _
      · exact Step.curtailed_silent after _
    · exact Step.curtailed_silent after _
  · intro room fits
    have served : (connection.limited refusal room).serve services false = _ := begun.fits fits
    simp only [others, served]
  · intro room error result
    rw [others]
    simp only [result, runBehind, List.append_nil]

/-- A peer that takes only `room` bytes gets the first ones of what a peer without a limit gets. If that is
not all, the run ends with an error, and the store is the one right after the frame whose reply is cut off. -/
theorem run_limited (services : Services) (context : Context) (limit room : Nat) (refusal : Option String)
    (events : List Event) :
    let whole := (Connection.new context limit .unlimited).run services events
    let writings := (Connection.new context limit .unlimited).writings services events
    let cut := (Connection.new context limit ⟨some room, refusal⟩).run services events
    whole.output = Written.outputs writings ∧ cut.output = whole.output.take room ∧
      (whole.output.length ≤ room →
        cut.finish = whole.finish ∧ cut.connection.context = whole.connection.context) ∧
      (room < whole.output.length →
        ∃ error, cut.finish = .error error ∧
          Written.CutOff refusal room writings cut.connection.context.store error) := by
  intro whole writings cut
  have curtailed : whole.toStep.Curtailed refusal writings _ :=
    curtailed_run (.new context limit .unlimited) rfl events
  have taken (fits : whole.output.length ≤ room) : cut.toStep = _ := curtailed.fits fits
  refine ⟨curtailed.written, ?_, fun fits => ?_, fun beyond => (curtailed.cut beyond).2⟩
  · rcases Nat.lt_or_ge room whole.output.length with beyond | fits
    · exact (curtailed.cut beyond).1
    · rw [List.take_of_length_le fits]
      exact congrArg Step.output (taken fits)
  · exact ⟨congrArg Step.result (taken fits),
      congrArg (fun step => step.connection.context) (taken fits)⟩

/-- The reply to the first of two undeploys is cut off: the first one has had its effect, the second one
has not. -/
theorem run_limited_undeploys :
    let services : Services :=
      { importer := fun _ _ => .error ⟨.deploy, "refused"⟩, executor := fun _ _ _ => .error ⟨.execution, ""⟩ }
    let context := Context.new ((Store.empty.insert "a" (.new "a")).2.insert "b" (.new "b")).2
    let events := [Event.received (Request.ofCommand "CMD undeploy a" ++ Request.ofCommand "CMD undeploy b")]
    let writings := (Connection.new context 100 .unlimited).writings services events
    let cut := (Connection.new context 100 ⟨some 3, none⟩).run services events
    cut.output = Utf8.encode "OK " ∧
      (∃ error, cut.finish = .error error ∧
        Written.CutOff none 3 writings cut.connection.context.store error) ∧
      cut.connection.context.store.ids = ["b"] := by
  intro services context events writings cut
  obtain ⟨-, output, -, beyond⟩ := run_limited services context 100 3 none events
  have whole : ((Connection.new context 100 .unlimited).run services events).output =
      Utf8.encode "OK a\r\nOK b\r\n" := by decide +kernel
  have kept : cut.connection.context.store.ids = ["b"] := by decide +kernel
  rw [whole] at output beyond
  exact ⟨output.trans (by decide +kernel), beyond (by decide +kernel), kept⟩

end Connection

end TestDaemon
