import TestDaemon.Proofs.Framing
import TestDaemon.Proofs.LimitedPeer

/-! # The course of a run

A run decodes and handles frames until no complete one is left, and then takes its next event. `Course`
has one rule for each thing that can happen next; every run takes such a course (`course_of_run`), and
what holds of all runs follows by induction on it. The frames that are handled on the way are recorded
with what each of them asks for and comes to.
-/

namespace TestDaemon

/-- A frame that a connection handles: the number of those before it, what it asks for, how the connection
goes on, what the peer takes of the reply, and the contexts before and after it. -/
structure Handling where
  number : Nat
  frame : Bytes
  request : Except Error Dispatch
  result : Except Error FrameOutcome
  output : Bytes
  before : Context
  after : Context

/-- What peers take of the replies to handled frames. -/
def Handling.outputs (handled : List Handling) : Bytes := handled.flatMap Handling.output

namespace FrameDecoder

/-- A decoder that waits for more bytes gives nothing at the end of the stream. -/
theorem decodeEnd_of_waiting {decoder after : FrameDecoder} (waits : decoder.decode = (.ok none, after)) :
    after.decodeEnd = (.ok none, { after with searched := 0, buffer := [] }) := by
  have length : Request.delimiter.length = 5 := rfl
  unfold decode at waits
  simp only at waits
  split at waits
  · split at waits <;> simp at waits
  · split at waits
    · simp at waits
    · next short =>
      obtain ⟨-, rfl⟩ := Prod.mk.inj waits
      -- The whole buffer is searched, and what is looked at again is shorter than a delimiter.
      have again : Bytes.findFrom? Request.delimiter (decoder.buffer.length - (Request.delimiter.length - 1))
          (decoder.buffer.drop (decoder.buffer.length - (Request.delimiter.length - 1))) = none := by
        by_contra found
        obtain ⟨position, found⟩ := Option.ne_none_iff_exists'.mp found
        obtain ⟨behind, within⟩ := Bytes.findFrom?_bound found
        rw [List.length_drop] at within
        omega
      simp only [decodeEnd, decode, again, if_neg short]

end FrameDecoder

namespace Connection

/-- The handling of a frame. -/
def handling (services : Services) (connection : Connection) (frame : Bytes) : Handling :=
  let step := connection.handleFrame services frame
  ⟨connection.handled, frame, (connection.dispatcher.dispatch frame).1, step.result, step.output,
    connection.context, step.connection.context⟩

/-- The frames that are handled while the buffer is served. -/
def servedHandlings (services : Services) (ended : Bool) (connection : Connection) : List Handling :=
  if connection.cancelled then []
  else match _ : connection.decoder.next ended with
    | (.ok (some frame), decoder) =>
      let handled := { connection with decoder }.handleFrame services frame
      { connection with decoder }.handling services frame ::
        match handled.result with
        | .ok .proceed => servedHandlings services ended { handled.connection with decoder }
        | _ => []
    | _ => []
termination_by connection.decoder.buffer.length
decreasing_by exact FrameDecoder.next_length ‹_›

/-- The frames that are handled in the course of a run. -/
def handlings (services : Services) (connection : Connection) (events : List Event) : List Handling :=
  let served := connection.serve services false
  connection.servedHandlings services false ++
    match served.result with
    | .ok none =>
      match events with
      | [] => served.connection.servedHandlings services true
      | .received bytes :: events =>
        let fed := { served.connection with decoder := served.connection.decoder.feed bytes }
        handlings services fed events
      | _ => []
    | _ => []

theorem servedHandlings_eq (services : Services) (ended : Bool) (connection : Connection) :
    connection.servedHandlings services ended =
      if connection.cancelled then []
      else match connection.decoder.next ended with
        | (.ok (some frame), decoder) =>
          let handled := { connection with decoder }.handleFrame services frame
          { connection with decoder }.handling services frame ::
            match handled.result with
            | .ok .proceed => servedHandlings services ended { handled.connection with decoder }
            | _ => []
        | _ => [] := by
  rw [servedHandlings]
  congr 1
  split
  all_goals
    simp only [*]

/-- A connection that is not cancelled decodes its buffer. -/
structure Decodes (connection : Connection) (result : Except Error (Option Bytes)) (after : Connection) :
    Prop where
  running : connection.cancelled = false
  decoded : connection.decoder.decode = (result, after.decoder)
  same : after = { connection with decoder := after.decoder }

/-- How a run goes on from a connection, with the frames that it handles and what it comes to. -/
inductive Course (services : Services) : Connection → List Event → List Handling → Step Unit → Prop
  | cancelled {connection : Connection} {events : List Event} (cancelled : connection.cancelled = true) :
    Course services connection events [] ⟨.ok (), [], connection⟩
  | refused {connection after : Connection} {events : List Event} {error : Error}
    (decodes : connection.Decodes (.error error) after) :
    Course services connection events []
      ⟨.error error, (after.reportFraming error).output, (after.reportFraming error).connection⟩
  | concluded {connection after : Connection} {events : List Event} {frame : Bytes}
    (decodes : connection.Decodes (.ok (some frame)) after)
    (concludes : (after.handleFrame services frame).result ≠ .ok .proceed) :
    Course services connection events [after.handling services frame]
      ⟨(after.handleFrame services frame).result.map fun _ => (),
        (after.handleFrame services frame).output, (after.handleFrame services frame).connection⟩
  | handled {connection after : Connection} {events : List Event} {frame : Bytes} {handled : List Handling}
    {rest : Step Unit} (decodes : connection.Decodes (.ok (some frame)) after)
    (proceeds : (after.handleFrame services frame).result = .ok .proceed)
    (goesOn : Course services
      { (after.handleFrame services frame).connection with decoder := after.decoder } events handled rest) :
    Course services connection events (after.handling services frame :: handled)
      { rest with output := (after.handleFrame services frame).output ++ rest.output }
  | fed {connection after : Connection} {bytes : Bytes} {events : List Event} {handled : List Handling}
    {rest : Step Unit} (decodes : connection.Decodes (.ok none) after)
    (goesOn : Course services { after with decoder := after.decoder.feed bytes } events handled rest) :
    Course services connection (.received bytes :: events) handled rest
  | ended {connection after : Connection} (decodes : connection.Decodes (.ok none) after) :
    Course services connection [] []
      ⟨.ok (), [], { after with decoder := { after.decoder with searched := 0, buffer := [] } }⟩
  | stopped {connection after : Connection} {events : List Event}
    (decodes : connection.Decodes (.ok none) after) :
    Course services connection (.cancelled :: events) [] ⟨.ok (), [], { after with cancelled := true }⟩
  | broken {connection after : Connection} {text : String} {events : List Event}
    (decodes : connection.Decodes (.ok none) after) :
    Course services connection (.failed text :: events) [] ⟨.error ⟨.io, text⟩, [], after⟩

variable {services : Services} {connection after : Connection} {result : Except Error (Option Bytes)}

/-- What is handled once the frames of the buffer are served. -/
def handlingsBehind (services : Services) (events : List Event) (result : Except Error (Option Unit))
    (after : Connection) : List Handling :=
  match result with
  | .ok none =>
    match events with
    | [] => after.servedHandlings services true
    | .received bytes :: events =>
      handlings services { after with decoder := after.decoder.feed bytes } events
    | _ => []
  | _ => []

theorem handlings_eq (services : Services) (connection : Connection) (events : List Event) :
    connection.handlings services events =
      connection.servedHandlings services false ++
        handlingsBehind services events (connection.serve services false).result
          (connection.serve services false).connection := by
  rw [handlings.eq_def, handlingsBehind.eq_def]

/-- Serving takes the course of the frames in the buffer, up to a wait. -/
theorem course_of_serve (connection : Connection) (events : List Event)
    (goesOn : ∀ {waiting after : Connection}, waiting.Decodes (.ok none) after →
      Course services waiting events (handlingsBehind services events (.ok none) after)
        (runBehind services events (.ok none) after)) :
    let served := connection.serve services false
    let rest := runBehind services events served.result served.connection
    Course services connection events
      (connection.servedHandlings services false ++
        handlingsBehind services events served.result served.connection)
      ⟨rest.result, served.output ++ rest.output, rest.connection⟩ := by
  cases cancelled : connection.cancelled with
  | true =>
    rw [servedHandlings_eq, if_pos cancelled, serve_cancelled cancelled]
    exact .cancelled cancelled
  | false =>
    have running : ¬ connection.cancelled = true := by
      rw [cancelled]
      exact Bool.false_ne_true
    rcases decoded : connection.decoder.next false with ⟨error | (_ | frame), decoder⟩
    · have decodes : connection.Decodes (.error error) { connection with decoder } := ⟨cancelled, decoded, rfl⟩
      rw [servedHandlings_eq, if_neg running, decoded, serve_error cancelled decoded]
      have refuses : Course services connection events _ _ := .refused decodes
      simpa [runBehind, handlingsBehind, reportFraming] using refuses
    · have decodes : connection.Decodes (.ok none) { connection with decoder } := ⟨cancelled, decoded, rfl⟩
      rw [servedHandlings_eq, if_neg running, decoded, serve_none cancelled decoded]
      exact goesOn decodes
    · have decodes : connection.Decodes (.ok (some frame)) { connection with decoder } :=
        ⟨cancelled, decoded, rfl⟩
      rw [servedHandlings_eq, if_neg running, decoded, serve_frame cancelled decoded]
      rcases result : (handleFrame services { connection with decoder } frame).result
        with error | (proceed | close)
      · have concludes : Course services connection events _ _ := .concluded decodes (by simp [result])
        simpa [result, runBehind, handlingsBehind, Except.map] using concludes
      · have later := course_of_serve
          { (handleFrame services { connection with decoder } frame).connection with decoder } events goesOn
        simpa [result] using Course.handled decodes result later
      · have concludes : Course services connection events _ _ := .concluded decodes (by simp [result])
        simpa [result, runBehind, handlingsBehind, Except.map] using concludes
termination_by connection.decoder.buffer.length
decreasing_by exact FrameDecoder.next_length decoded

/-- Every run takes its course. -/
theorem course_of_run (services : Services) (connection : Connection) (events : List Event) :
    Course services connection events (connection.handlings services events)
      (connection.run services events).toStep := by
  induction events generalizing connection with
  | nil =>
    rw [handlings_eq, run_eq]
    refine course_of_serve connection [] fun {waiting after} decodes => ?_
    have running : after.cancelled = false := by rw [decodes.same]; exact decodes.running
    have ends : after.decoder.next true = _ := FrameDecoder.decodeEnd_of_waiting decodes.decoded
    have course : Course services waiting [] _ _ := .ended decodes
    simpa [handlingsBehind, runBehind, serve_none running ends, servedHandlings_eq, running, ends,
      Except.map] using course
  | cons event events ih =>
    rw [handlings_eq, run_eq]
    refine course_of_serve connection _ fun {waiting after} decodes => ?_
    cases event with
    | received bytes => exact .fed decodes (ih _)
    | cancelled => exact .stopped decodes
    | failed text => exact .broken decodes

/-! ## What a course leaves -/

@[simp] theorem send_context (connection : Connection) (reply : Reply) :
    (connection.send reply).connection.context = connection.context := by
  simp only [send]
  split
  · rfl
  · split
    · rfl
    · split <;> rfl

theorem Decodes.context (decodes : connection.Decodes result after) : after.context = connection.context := by
  rw [decodes.same]

end Connection

/-- Frames that are handled one after the other, each in the context that the one before it has left. -/
inductive Handling.Path (services : Services) : Context → List Handling → Context → Prop
  | nil (context : Context) : Path services context [] context
  | cons {connection : Connection} {frame : Bytes} {handled : List Handling} {last : Context}
    (rest : Path services (connection.handling services frame).after handled last) :
    Path services connection.context (connection.handling services frame :: handled) last

namespace Handling

variable {services : Services} {first last : Context} {prior later : List Handling} {handling : Handling}

/-- Every handled frame ends a path of its own. -/
theorem Path.split (path : Path services first (prior ++ handling :: later) last) :
    Path services first (prior ++ [handling]) handling.after := by
  induction prior generalizing first with
  | nil =>
    cases path with
    | cons rest => exact .cons (.nil _)
  | cons earlier prior ih =>
    cases path with
    | cons rest => exact .cons (ih rest)

end Handling

namespace Connection

variable {services : Services} {connection : Connection} {events : List Event} {handled : List Handling}
  {step : Step Unit}

theorem Course.path (course : Course services connection events handled step) :
    Handling.Path services connection.context handled step.connection.context := by
  induction course with
  | cancelled _ => exact .nil _
  | refused decodes =>
    rw [← decodes.context, reportFraming, send_context]
    exact .nil _
  | concluded decodes _ =>
    rw [← decodes.context]
    exact .cons (.nil _)
  | handled decodes _ _ ih =>
    rw [← decodes.context]
    exact .cons ih
  | fed decodes _ ih =>
    rw [← decodes.context]
    exact ih
  | ended decodes | stopped decodes | broken decodes =>
    rw [← decodes.context]
    exact .nil _

/-- What a run writes is what it writes for the frames that it handles, and at most the report of a framing
error. -/
theorem Course.output (course : Course services connection events handled step) :
    ∃ report, step.output = Handling.outputs handled ++ report ∧
      (report ≠ [] → ∃ error, step.result = .error error) := by
  induction course with
  | @refused _ after _ error _ => exact ⟨(after.reportFraming error).output, rfl, fun _ => ⟨error, rfl⟩⟩
  | concluded _ _ => exact ⟨[], by simp [Handling.outputs, handling], fun none => absurd rfl none⟩
  | handled _ _ _ ih =>
    obtain ⟨report, output, failed⟩ := ih
    exact ⟨report, by simp [output, Handling.outputs, handling], failed⟩
  | fed _ _ ih => exact ih
  | cancelled _ | ended _ | stopped _ | broken _ => exact ⟨[], rfl, fun none => absurd rfl none⟩

end Connection

end TestDaemon
