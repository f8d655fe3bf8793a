import TestDaemon.Proofs.Dispatching
import TestDaemon.Proofs.Session

/-! # The requests of a session

An undisturbed session is the answers to its requests, one after the other. A deploy comes through as
the one request that it is exactly if its archive is free of delimiters: what stands behind a delimiter
in an archive is read as further requests.
-/

namespace TestDaemon

open Request

namespace Session

/-- The requests that a session handles, up to the one that ends it. -/
def requests (services : Services) (limit : Nat) (connection : Connection) :
    List Bytes → List (Except Error Dispatch)
  | [] => []
  | frame :: frames =>
    if limit < frame.length then []
    else
      let handled := connection.handleFrame services frame
      (connection.dispatcher.dispatch frame).1 :: match handled.result with
        | .ok .proceed => requests services limit handled.connection frames
        | _ => []

/-- The session that answers requests in order. -/
def ofRequests (services : Services) (context : Context) : List (Except Error Dispatch) → Session
  | [] => ⟨[], .ok (), context⟩
  | request :: requests =>
    let answer := context.answer services request
    match answer.result with
    | .error error => ⟨answer.output, .error error, answer.context⟩
    | .ok .close => ⟨answer.output, .ok (), answer.context⟩
    | .ok .proceed => (ofRequests services answer.context requests).behind answer.output

theorem ofFrames_eq_ofRequests {services : Services} {limit : Nat} {connection : Connection}
    (undisturbed : connection.Undisturbed services) (frames : List Bytes) (tail : Bytes)
    (fit : Frame.Fit limit (frames, tail)) :
    ofFrames services limit connection frames tail =
      ofRequests services connection.context (requests services limit connection frames) := by
  induction frames generalizing connection with
  | nil => exact if_neg (Nat.not_lt.mpr fit.2)
  | cons frame frames ih =>
    have short : ¬ limit < frame.length := Nat.not_lt.mpr (fit.1 frame (List.mem_cons_self ..))
    have next := (undisturbed.after_handleFrame frame).1
    have rest := ih next ⟨fun other member => fit.1 other (List.mem_cons_of_mem _ member), fit.2⟩
    simp only [undisturbed.handleFrame] at rest
    simp only [ofFrames, requests, ofRequests, if_neg short, undisturbed.handleFrame]
    -- The requests behind this one count only if the connection goes on.
    generalize connection.context.answer services (connection.dispatcher.dispatch frame).1 = answer
      at rest ⊢
    obtain ⟨error | (proceed | close), output, context⟩ := answer
    · rfl
    · exact congrArg (behind output) rest
    · rfl

end Session

/-! ## A deploy and nothing else -/

namespace Request

/-- The blank behind the marker keeps an occurrence inside the archive. -/
theorem infix_deploy_iff {archive : Bytes} :
    delimiter <:+: Utf8.encode deployHead ++ archive ↔ delimiter <:+: archive := by
  have split : Utf8.encode deployHead ++ archive = deployMarker ++ 0x20 :: archive := by
    have head : Utf8.encode deployHead = deployMarker ++ [0x20] := by decide +kernel
    rw [head, List.append_assoc]
    rfl
  constructor
  · intro occurs
    rw [split] at occurs
    rcases Bytes.infix_append_cons (by decide) occurs with inMarker | inArchive
    · exact absurd inMarker (by decide)
    · exact inArchive
  · exact fun occurs => occurs.trans (List.suffix_append _ _).isInfix

end Request

namespace Dispatcher

theorem dispatch_deploy (archive : Bytes) :
    Dispatcher.new.dispatch (Utf8.encode deployHead ++ archive) = (.ok (.deploy archive), .new) := by
  have head : Utf8.encode deployHead = [0x44, 0x50, 0x4C, 0x20] := by decide +kernel
  rw [head]
  rfl

end Dispatcher

/-- A connection takes a deploy as that one request: it imports the archive and does nothing else. -/
structure OnlyDeploys (importer : Importer) (executor : Executor) (context : Context) (limit : Nat)
    (archive : Bytes) (reads : List Bytes) : Prop where
  requests :
    Session.requests { importer, executor } limit (Connection.new context limit .unlimited)
      (Frame.cut reads.flatten).1 = [.ok (.deploy archive)]
  session :
    ((Connection.new context limit .unlimited).run { importer, executor }
        (reads.map .received)).session =
      match importer context.imports archive with
      | .error error => ⟨[], .error error, context⟩
      | .ok imported =>
        ⟨(Reply.ok (deployHead ++ imported.id)).encode, .ok (),
          { context with
            store := (context.store.insert imported.id imported).2
            imports := context.imports + 1 }⟩

/-- A deploy is only a deploy exactly if its archive is free of delimiters. -/
theorem onlyDeploys_iff (importer : Importer) (executor : Executor) (context : Context) (limit : Nat)
    (archive : Bytes) (reads : List Bytes) (fits : (Outgoing.deploy archive).body.length ≤ limit)
    (division : reads.flatten = ofDeploy archive) :
    OnlyDeploys importer executor context limit archive reads ↔ ¬ delimiter <:+: archive := by
  have undisturbed := Connection.undisturbed_new importer executor context limit
  constructor
  · rintro ⟨requests, _⟩ occurs
    obtain ⟨clear, _⟩ := Frame.cut_clear reads.flatten
    cases frames : (Frame.cut reads.flatten).1 with
    | nil => simp [frames, Session.requests] at requests
    | cons frame rest =>
      -- The archive of the first request is an end of the first frame.
      rw [frames, Session.requests] at requests
      split at requests
      · simp at requests
      · obtain ⟨first, _⟩ := List.cons_eq_cons.mp requests
        have same := Dispatcher.of_dispatch_deploy first
        rw [same] at occurs
        refine clear frame (by simp [frames]) (occurs.trans ?_)
        exact (List.drop_suffix 4 frame).isInfix
  · intro clear
    have body : ¬ delimiter <:+: Utf8.encode deployHead ++ archive := by rwa [infix_deploy_iff]
    have parts : Frame.cut reads.flatten = ([Utf8.encode deployHead ++ archive], []) := by
      refine Frame.cut_eq_iff.mpr ⟨?_, by simpa using body, by decide⟩
      simp [division, ofDeploy]
    have fit : Frame.Fit limit ([Utf8.encode deployHead ++ archive], []) :=
      ⟨fun frame member => List.mem_singleton.mp member ▸ fits, Nat.zero_le _⟩
    have request : Session.requests { importer, executor } limit
        (Connection.new context limit .unlimited) [Utf8.encode deployHead ++ archive] =
          [.ok (.deploy archive)] := by
      have short : ¬ limit < (Utf8.encode deployHead ++ archive).length := Nat.not_lt.mpr fits
      have dispatched : (Connection.new context limit .unlimited).dispatcher.dispatch
          (Utf8.encode deployHead ++ archive) = (.ok (.deploy archive), .new) :=
        Dispatcher.dispatch_deploy archive
      rw [Session.requests, if_neg short, dispatched]
      dsimp only
      split <;> rfl
    refine ⟨by rw [parts]; exact request, ?_⟩
    have run : ((Connection.new context limit .unlimited).run { importer, executor }
        (reads.map .received)).session =
          Session.ofStream { importer, executor } limit (Connection.new context limit .unlimited)
            reads.flatten := undisturbed.run (FrameDecoder.searched_new limit) rfl reads
    have start : (Connection.new context limit .unlimited).context = context := rfl
    rw [run, Session.ofStream, parts, Session.ofFrames_eq_ofRequests undisturbed _ _ fit, request, start]
    simp only [Session.ofRequests, Context.answer, Context.ingest]
    cases importer context.imports archive with
    | error error => rfl
    | ok imported => simp only [Session.behind, List.append_nil]

theorem onlyDeploys_iff_lookalike :
    let importer : Importer := fun _ _ => .ok (.new "a")
    let executor : Executor := fun _ _ _ => .error ⟨.execution, "idle"⟩
    let reads : List Bytes := [[0x44, 0x50, 0x4C], [0x20, 0x61, 0x3C, 0x3C, 0x45, 0x3C, 0x3C],
      [0x45, 0x4F, 0x46]]
    (Outgoing.deploy [0x61, 0x3C, 0x3C, 0x45]).body.length ≤ 8 ∧
      reads.flatten = ofDeploy [0x61, 0x3C, 0x3C, 0x45] ∧
      OnlyDeploys importer executor (.new .empty) 8 [0x61, 0x3C, 0x3C, 0x45] reads := by
  intro importer executor reads
  have fits : (Outgoing.deploy [0x61, 0x3C, 0x3C, 0x45]).body.length ≤ 8 := by decide +kernel
  have division : reads.flatten = ofDeploy [0x61, 0x3C, 0x3C, 0x45] := by decide +kernel
  exact ⟨fits, division, (onlyDeploys_iff importer executor _ 8 _ reads fits division).mpr (by decide)⟩

/-- An archive that holds a delimiter and a command stops the server. -/
theorem not_onlyDeploys_smuggled :
    let importer : Importer := fun _ _ => .ok (.new "a")
    let executor : Executor := fun _ _ _ => .error ⟨.execution, "idle"⟩
    let archive := Utf8.encode "a\nb<<EOFCMD stop"
    let run := (Connection.new (.new .empty) 100 .unlimited).run { importer, executor }
      [.received (ofDeploy archive)]
    (Outgoing.deploy archive).body.length ≤ 100 ∧
      run.output = Utf8.encode "OK DPL a\r\nOK CMD stop\r\n" ∧
      run.connection.context.stopRequested = true ∧
      ¬ OnlyDeploys importer executor (.new .empty) 100 archive [ofDeploy archive] := by
  intro importer executor archive run
  have parts : Frame.cut (ofDeploy archive) =
      ([Utf8.encode "DPL a\nb", Utf8.encode "CMD stop"], []) :=
    Frame.cut_eq_iff.mpr ⟨by decide +kernel, by decide +kernel, by decide +kernel⟩
  have undisturbed := Connection.undisturbed_new importer executor (.new .empty) 100
  have session : run.session = Session.ofStream { importer, executor } 100
      (Connection.new (.new .empty) 100 .unlimited) (ofDeploy archive) := by
    have made := undisturbed.run (FrameDecoder.searched_new 100) rfl [ofDeploy archive]
    rwa [List.flatten_singleton] at made
  rw [Session.ofStream, parts] at session
  have output : run.output = Utf8.encode "OK DPL a\r\nOK CMD stop\r\n" :=
    (congrArg Session.output session).trans (by decide +kernel)
  have stop : run.connection.context.stopRequested = true :=
    (congrArg (fun session => session.context.stopRequested) session).trans (by decide +kernel)
  refine ⟨by decide +kernel, output, stop, fun only => ?_⟩
  have quiet := congrArg (fun session => session.context.stopRequested) only.session
  exact absurd (stop.symm.trans quiet) (by decide +kernel)

end TestDaemon
