import TestDaemon.Proofs.ConnectionSteps

/-! # Whole frames behind the steps

A connection that takes its steps one by one, with others between them, corresponds at any time to one that
handles whole frames. A deploy has its effect where its archive is stored, an undeploy where it removes, a
test where it looks its archive up, and every other frame where it is begun. What the connection does after
that depends only on what it saw there.
-/

namespace TestDaemon

/-- Whether a frame has been begun and has its effect still ahead. -/
def PendingWork.isPreparing : PendingWork → Bool
  | importing _ | storing _ | removing _ | lookingUp .. => true
  | _ => false

theorem Reply.encode_line_ne_nil (text : String) : (Reply.line text).encode ≠ [] := by
  simp [encode, lineEnd]

theorem TestResult.encode_ne_nil (result : TestResult) : result.encode ≠ [] := by
  intro empty
  cases empty

namespace InterleavedConnection

variable {convert : Bytes → Except Error Archive} {executor : Executor}

/-! ## Whole frames behind the steps -/

/-- What is left to do for a request that has its effect still ahead. -/
inductive Prepares (convert : Bytes → Except Error Archive) : Except Error Dispatch → PendingWork → Prop
  | importing {payload : Bytes} : Prepares convert (.ok (.deploy payload)) (.importing payload)
  | storing {payload : Bytes} {archive : Archive} (converted : convert payload = .ok archive) :
    Prepares convert (.ok (.deploy payload)) (.storing archive)
  | removing {line id : String} (parsed : Command.parse line = .ok (.undeploy id)) :
    Prepares convert (.ok (.command line)) (.removing id)
  | lookingUp {line id className method : String}
      (parsed : Command.parse line = .ok (.test id className method)) :
    Prepares convert (.ok (.command line)) (.lookingUp id className method)

/-- The reply that is still to be written for a request that has had its effect. -/
inductive Concludes (executor : Executor) : PendingWork → Reply → FrameOutcome → Prop
  | testing {archive : Archive} {className method : String} :
    Concludes executor (.testing archive className method)
      (.ofTest executor archive className method) .proceed
  | replying {reply : Reply} {outcome : FrameOutcome} :
    Concludes executor (.replying reply outcome) reply outcome

/-- What a connection between two steps comes to where whole frames are handled: that connection, and the
frames that it has still ahead. -/
inductive Follows (convert : Bytes → Except Error Archive) (executor : Executor)
    (connection : InterleavedConnection) : SerialConnection → List Bytes → Prop
  | settled (free : connection.work = .none) :
    Follows convert executor connection
      ⟨connection.dispatcher, connection.replies.map Reply.encode, connection.finish⟩ connection.frames
  | preparing {dispatcher : Dispatcher} {frame : Bytes} {asked : Except Error Dispatch}
      (unfinished : connection.finish = none)
      (dispatched : dispatcher.dispatch frame = (asked, connection.dispatcher))
      (prepares : Prepares convert asked connection.work) :
    Follows convert executor connection ⟨dispatcher, connection.replies.map Reply.encode, none⟩
      (frame :: connection.frames)
  | concluding {reply : Reply} {outcome : FrameOutcome} (unfinished : connection.finish = none)
      (concludes : Concludes executor connection.work reply outcome) :
    Follows convert executor connection
      ⟨connection.dispatcher, (connection.replies ++ [reply]).map Reply.encode,
        FrameOutcome.finishOf (.ok outcome)⟩ connection.frames

/-- What becomes of a frame at once when it is begun. -/
theorem workOf_cases (convert : Bytes → Except Error Archive) (executor : Executor)
    (request : Except Error Dispatch) (context : Context) :
    Prepares convert request (workOf request) ∨
      (workOf request = .none ∧
        context.answer (.ofFunctions convert executor) request = ⟨.ok .proceed, [], context⟩) ∨
      ∃ reply outcome after, workOf request = .replying reply outcome ∧ reply.encode ≠ [] ∧
        context.answer (.ofFunctions convert executor) request = ⟨.ok outcome, reply.encode, after⟩ ∧
        after.store = context.store := by
  rcases request with error | (line | payload | _ | _)
  · exact .inr (.inr ⟨_, _, _, rfl, Reply.encode_line_ne_nil _, rfl, rfl⟩)
  · cases parsed : Command.parse line with
    | error error =>
      refine .inr (.inr ⟨.ofError error, .proceed, context, ?_, Reply.encode_line_ne_nil _, ?_, rfl⟩)
      · simp only [workOf, workOfLine, parsed, replyError]
      · simp only [Context.answer, Context.respond, Context.execute, parsed]
    | ok command =>
      cases command with
      | stop =>
        refine .inr (.inr ⟨.ok line, .proceed, context.requestStop, ?_, Reply.encode_line_ne_nil _, ?_, rfl⟩)
        · simp only [workOf, workOfLine, parsed]
        · simp only [Context.answer, Context.respond, Context.execute, parsed]
      | undeploy id =>
        simp only [workOf, workOfLine, parsed]
        exact .inl (.removing parsed)
      | test id className method =>
        simp only [workOf, workOfLine, parsed]
        exact .inl (.lookingUp parsed)
  · exact .inl .importing
  · exact .inr (.inr ⟨_, _, _, rfl, Reply.encode_line_ne_nil _, rfl, rfl⟩)
  · exact .inr (.inl ⟨rfl, rfl⟩)

variable {connection next : InterleavedConnection} {shared after : SharedContext} {serial : SerialConnection}
  {ahead : List Bytes} {context later : Context} {dispatcher follower : Dispatcher} {frame : Bytes}
  {asked : Except Error Dispatch}

theorem Follows.of_free (follows : Follows convert executor connection serial ahead)
    (free : connection.work = .none) :
    serial = ⟨connection.dispatcher, connection.replies.map Reply.encode, connection.finish⟩ ∧
      ahead = connection.frames := by
  cases follows with
  | settled => exact ⟨rfl, rfl⟩
  | preparing _ _ prepares =>
    rw [free] at prepares
    cases prepares
  | concluding _ concludes =>
    rw [free] at concludes
    cases concludes

theorem Follows.of_isPreparing (follows : Follows convert executor connection serial ahead)
    (preparing : connection.work.isPreparing = true) :
    ∃ dispatcher frame asked,
      serial = ⟨dispatcher, connection.replies.map Reply.encode, none⟩ ∧ ahead = frame :: connection.frames ∧
      dispatcher.dispatch frame = (asked, connection.dispatcher) ∧ Prepares convert asked connection.work := by
  cases follows with
  | settled free =>
    rw [free] at preparing
    cases preparing
  | preparing _ dispatched prepares => exact ⟨_, _, _, rfl, rfl, dispatched, prepares⟩
  | concluding _ concludes =>
    generalize connection.work = work at preparing concludes
    cases concludes <;> cases preparing

theorem Follows.of_concludes (follows : Follows convert executor connection serial ahead) {reply : Reply}
    {outcome : FrameOutcome} (concludes : Concludes executor connection.work reply outcome) :
    serial = ⟨connection.dispatcher, (connection.replies ++ [reply]).map Reply.encode,
      FrameOutcome.finishOf (.ok outcome)⟩ ∧ ahead = connection.frames := by
  cases follows with
  | settled free =>
    rw [free] at concludes
    cases concludes
  | preparing _ _ prepares =>
    generalize connection.work = work at prepares concludes
    cases prepares <;> cases concludes
  | concluding _ concludes' =>
    generalize connection.work = work at concludes concludes'
    cases concludes <;> cases concludes' <;> exact ⟨rfl, rfl⟩

/-! ## A step and the frames behind it -/

theorem note_encode {replies : List Reply} {reply : Reply} (written : reply.encode ≠ []) :
    SerialConnection.note (replies.map Reply.encode) reply.encode = (replies ++ [reply]).map Reply.encode := by
  rw [SerialConnection.note, if_neg (by simpa using written), List.map_append, List.map_singleton]

/-- A whole frame that is answered. -/
theorem handle_answered {replies : List Reply} {reply : Reply} {outcome : FrameOutcome}
    (dispatched : dispatcher.dispatch frame = (asked, follower))
    (answered : context.answer (.ofFunctions convert executor) asked = ⟨.ok outcome, reply.encode, later⟩)
    (written : reply.encode ≠ []) :
    SerialConnection.handle (.ofFunctions convert executor) ⟨dispatcher, replies.map Reply.encode, none⟩
        context frame =
      (⟨follower, (replies ++ [reply]).map Reply.encode, FrameOutcome.finishOf (.ok outcome)⟩, later) := by
  rw [SerialConnection.handle_eq rfl]
  simp only [dispatched, answered, note_encode written]

/-- A whole frame that is not answered. -/
theorem handle_unanswered {replies : List Bytes} {result : Except Error FrameOutcome}
    (dispatched : dispatcher.dispatch frame = (asked, follower))
    (answered : context.answer (.ofFunctions convert executor) asked = ⟨result, [], later⟩) :
    SerialConnection.handle (.ofFunctions convert executor) ⟨dispatcher, replies, none⟩ context frame =
      (⟨follower, replies, FrameOutcome.finishOf result⟩, later) := by
  rw [SerialConnection.handle_eq rfl]
  simp only [dispatched, answered, SerialConnection.note, List.isEmpty_nil, if_true]

/-- What a step is where whole frames are handled: nothing, or the handling of the next frame. -/
inductive Keeps (convert : Bytes → Except Error Archive) (executor : Executor) (serial : SerialConnection)
    (ahead : List Bytes) (context : Context) (next : InterleavedConnection) (after : SharedContext) : Prop
  | nothing (store : context.store = after.store) (follows : Follows convert executor next serial ahead)
  | frame {frame : Bytes} {rest : List Bytes} (due : ahead = frame :: rest) {handled : SerialConnection}
      {later : Context}
      (handles : serial.handle (.ofFunctions convert executor) context frame = (handled, later))
      (store : later.store = after.store) (follows : Follows convert executor next handled rest)

theorem Follows.begun (follows : Follows convert executor connection serial ahead)
    (unfinished : connection.finish = none) (free : connection.work = .none) {frames : List Bytes}
    (waiting : connection.frames = frame :: frames) (same : context.store = shared.store) :
    Keeps convert executor serial ahead context
      { connection with
        frames
        dispatcher := (connection.dispatcher.dispatch frame).2
        work := workOf (connection.dispatcher.dispatch frame).1 } shared := by
  obtain ⟨rfl, rfl⟩ := follows.of_free free
  rw [unfinished, waiting]
  cases dispatched : connection.dispatcher.dispatch frame with
  | mk asked follower =>
    rcases workOf_cases convert executor asked context with
      prepares | ⟨none, answered⟩ | ⟨reply, outcome, later, replying, written, answered, store⟩
    · exact .nothing same (.preparing rfl dispatched prepares)
    · refine .frame rfl (handle_unanswered dispatched answered) same ?_
      exact .settled none
    · refine .frame rfl (handle_answered dispatched answered written) (store.trans same)
        (.concluding rfl ?_)
      rw [replying]
      exact .replying

/-- A step with the effect of its request is where the frame is handled as a whole. -/
theorem Follows.effective (follows : Follows convert executor connection serial ahead)
    (unfinished : connection.finish = none) (preparing : connection.work.isPreparing = true)
    {work : PendingWork} {reply : Reply} {outcome : FrameOutcome}
    (concludes : Concludes executor work reply outcome) (written : reply.encode ≠ [])
    (answered : ∀ asked, Prepares convert asked connection.work →
      ∃ later, context.answer (.ofFunctions convert executor) asked = ⟨.ok outcome, reply.encode, later⟩ ∧
        later.store = after.store) :
    Keeps convert executor serial ahead context { connection with work } after := by
  obtain ⟨dispatcher, frame, asked, rfl, rfl, dispatched, prepares⟩ := follows.of_isPreparing preparing
  obtain ⟨later, answered, store⟩ := answered asked prepares
  exact .frame rfl (handle_answered dispatched answered written) store (.concluding unfinished concludes)

/-- A step keeps to whole frames. -/
theorem Follows.advance (follows : Follows convert executor connection serial ahead)
    (unfinished : connection.finish = none)
    (advances : connection.Advances (.ofFunctions convert executor) shared next after)
    (same : context.store = shared.store) : Keeps convert executor serial ahead context next after := by
  cases advances with
  | begun free waiting => exact follows.begun unfinished free waiting same
  | @refused payload error work failed =>
    obtain ⟨dispatcher, frame, asked, rfl, rfl, dispatched, prepares⟩ :=
      follows.of_isPreparing (by rw [work]; rfl)
    rw [work] at prepares
    cases prepares
    have failed : convert payload = .error error := failed
    have answered : context.answer (.ofFunctions convert executor) (.ok (.deploy payload)) =
        ⟨.error error, [], context⟩ := by
      simp only [Context.answer, Context.ingest, failed]
    exact .frame rfl (handle_unanswered dispatched answered) same (.settled rfl)
  | imported work converted =>
    obtain ⟨dispatcher, frame, asked, rfl, rfl, dispatched, prepares⟩ :=
      follows.of_isPreparing (by rw [work]; rfl)
    rw [work] at prepares
    cases prepares
    exact .nothing same (.preparing unfinished dispatched (.storing converted))
  | @stored archive work =>
    refine follows.effective unfinished (by rw [work]; rfl) .replying (Reply.encode_line_ne_nil _)
      fun asked prepares => ?_
    rw [work] at prepares
    cases prepares with
    | @storing payload _ converted =>
      refine ⟨(context.ingest (.ofFunctions convert executor) payload).2, ?_, ?_⟩
      · simp only [Context.answer, Context.ingest, converted]
      · simp only [Context.ingest, converted, same]
  | @removed id work =>
    have written : (if shared.store.contains id then Reply.ok id else .unknownDeployment id).encode ≠ [] := by
      split <;> exact Reply.encode_line_ne_nil _
    refine follows.effective unfinished (by rw [work]; rfl) .replying written fun asked prepares => ?_
    rw [work] at prepares
    cases prepares with
    | removing parsed =>
      refine ⟨{ context with store := (shared.store.remove id).2 }, ?_, rfl⟩
      simp only [Context.answer, Context.respond, Context.execute, parsed, Context.undeploy_eq, same]
  | missing work absent =>
    refine follows.effective unfinished (by rw [work]; rfl) .replying (Reply.encode_line_ne_nil _)
      fun asked prepares => ?_
    rw [work] at prepares
    cases prepares with
    | lookingUp parsed =>
      refine ⟨context, ?_, same⟩
      simp only [Context.answer, Context.respond, Context.execute, parsed, Context.invoke, same, absent,
        Except.map]
  | @found id className method archive work present =>
    have written : (Reply.ofTest executor archive className method).encode ≠ [] := by
      unfold Reply.ofTest
      split
      · exact TestResult.encode_ne_nil _
      · exact Reply.encode_line_ne_nil _
    refine follows.effective unfinished (by rw [work]; rfl) .testing written fun asked prepares => ?_
    rw [work] at prepares
    cases prepares with
    | lookingUp parsed =>
      refine ⟨context, ?_, same⟩
      simp only [Context.answer, Context.respond, Context.execute, parsed, Context.invoke, same, present,
        Reply.ofTest]
      cases executor archive className method <;> rfl
  | @failed archive className method error work failed =>
    have failed : executor archive className method = .error error := failed
    have reply : Reply.ofTest executor archive className method = .ofError error := by
      rw [Reply.ofTest, failed]
    obtain ⟨rfl, rfl⟩ := follows.of_concludes (by rw [work]; exact .testing)
    rw [reply]
    exact .nothing same (.concluding unfinished .replying)
  | @tested archive className method result work ran =>
    have ran : executor archive className method = .ok result := ran
    have reply : Reply.ofTest executor archive className method = .raw result.encode := by
      rw [Reply.ofTest, ran]
    obtain ⟨rfl, rfl⟩ := follows.of_concludes (by rw [work]; exact .testing)
    rw [reply]
    exact .nothing same (.concluding unfinished .replying)
  | replied work =>
    obtain ⟨rfl, rfl⟩ := follows.of_concludes (by rw [work]; exact .replying)
    exact .nothing same (.settled rfl)

end InterleavedConnection

end TestDaemon
