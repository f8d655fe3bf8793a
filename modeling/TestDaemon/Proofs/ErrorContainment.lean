import TestDaemon.Proofs.Dispatching
import TestDaemon.Proofs.Interruption
import TestDaemon.Proofs.TestReply

/-! # What a frame comes to

A frame is classified behind the bytes that are carried over. Too few bytes are not answered, a foreign
marker ends the connection, and so does a deploy whose import fails, without an answer. Everything else is
answered by one reply and the connection goes on, whatever has failed.
-/

namespace TestDaemon

open Request

/-! ## Replies -/

/-- The reply to a frame whose bytes, behind what is carried over, are `body`. A failure is reported in it,
whichever step towards the reply has failed; only a failed import has no reply. -/
inductive Context.Replies (services : Services) (context : Context) (body : Bytes) : Reply → Prop
  | deployed {archive : Archive} (marked : deployMarker <+: body)
    (imported : services.importer context.imports (body.drop 4) = .ok archive) :
    Replies services context body (.ok ("DPL " ++ archive.id))
  | overlong (marked : commandMarker <+: body) (long : commandLineLimit < (firstLine body).length) :
    Replies services context body (.ofError .commandLineTooLong)
  | unreadable {line : String} {error : Error} (holds : HoldsLine body line)
    (parsed : Command.parse line = .error error) :
    Replies services context body (.ofError error)
  | stopping (holds : HoldsLine body "CMD stop") : Replies services context body (.ok "CMD stop")
  | undeployed {line id : String} (holds : HoldsLine body line)
    (parsed : Command.parse line = .ok (.undeploy id)) (present : context.store.contains id = true) :
    Replies services context body (.ok id)
  | unknown {line id : String} (holds : HoldsLine body line)
    (parsed : Command.parse line = .ok (.undeploy id)) (absent : context.store.contains id = false) :
    Replies services context body (.unknownDeployment id)
  | untested {line id className method : String} (holds : HoldsLine body line)
    (parsed : Command.parse line = .ok (.test id className method))
    (absent : context.store.get? id = none) :
    Replies services context body (.ofError (.notDeployed id))
  | failed {line id className method : String} {archive : Archive} {error : Error}
    (holds : HoldsLine body line) (parsed : Command.parse line = .ok (.test id className method))
    (found : context.store.get? id = some archive)
    (executed : services.executor archive className method = .error error) :
    Replies services context body (.ofError error)
  | tested {line id className method : String} {archive : Archive} {result : TestResult}
    (holds : HoldsLine body line) (parsed : Command.parse line = .ok (.test id className method))
    (found : context.store.get? id = some archive)
    (executed : services.executor archive className method = .ok result) :
    Replies services context body (.raw result.encode)

namespace Context

variable {services : Services} {context : Context} {body : Bytes}

theorem Replies.encode_ne_nil {reply : Reply} (replies : context.Replies services body reply) :
    reply.encode ≠ [] := by
  have line (text : String) : (Reply.line text).encode ≠ [] := by simp [Reply.encode, Reply.lineEnd]
  cases replies with
  | @tested _ _ _ _ _ result _ _ _ _ =>
    intro empty
    have first := result.encode_head?
    rw [show result.encode = [] from empty] at first
    contradiction
  | deployed | overlong | unreadable | stopping | undeployed | unknown | untested | failed => exact line _

theorem replies_respond {line : String} (holds : HoldsLine body line) :
    context.Replies services body (context.respond services line).1 := by
  rw [respond, execute]
  cases parsed : Command.parse line with
  | error error => exact .unreadable holds parsed
  | ok command =>
    cases command with
    | stop =>
      obtain rfl := Command.parse_eq_stop_iff.mp parsed
      exact .stopping holds
    | undeploy id =>
      simp only [undeploy_eq]
      split
      · next present => exact .undeployed holds parsed present
      · next absent => exact .unknown holds parsed (Bool.eq_false_iff.mpr absent)
    | test id className method =>
      simp only [invoke]
      cases found : context.store.get? id with
      | none => exact .untested holds parsed found
      | some archive =>
        dsimp only
        cases executed : services.executor archive className method with
        | error error => exact .failed holds parsed found executed
        | ok result => exact .tested holds parsed found executed

end Context

/-! ## Frames -/

/-- A deploy whose import fails. -/
def Context.FailsToImport (services : Services) (context : Context) (body : Bytes) (error : Error) : Prop :=
  deployMarker <+: body ∧ services.importer context.imports (body.drop 4) = .error error

namespace Context

variable {services : Services} {context : Context} {body : Bytes}

theorem FailsToImport.unique {first second : Error} (fails : context.FailsToImport services body first)
    (other : context.FailsToImport services body second) : first = second :=
  Except.error.inj (fails.2.symm.trans other.2)

theorem FailsToImport.spec {error : Error} (fails : context.FailsToImport services body error) :
    3 ≤ body.length ∧ ¬ IsForeign body :=
  ⟨fails.1.length_le, fun foreign => foreign.2.2 fails.1⟩

/-- What has a reply is neither too short, nor foreign, nor a deploy that fails. -/
theorem Replies.spec {reply : Reply} (replies : context.Replies services body reply) :
    3 ≤ body.length ∧ ¬ IsForeign body ∧ ∀ error, ¬ context.FailsToImport services body error := by
  have command (marked : commandMarker <+: body) :
      3 ≤ body.length ∧ ¬ IsForeign body ∧ ∀ error, ¬ context.FailsToImport services body error :=
    ⟨marked.length_le, fun foreign => foreign.2.1 marked, fun _ fails => Marker.not_both marked fails.1⟩
  cases replies with
  | deployed marked imported =>
    refine ⟨marked.length_le, fun foreign => foreign.2.2 marked, fun error fails => ?_⟩
    cases imported.symm.trans fails.2
  | overlong marked _ => exact command marked
  | unreadable holds | stopping holds | undeployed holds | unknown holds | untested holds | failed holds
  | tested holds => exact command holds.marked

/-- The four things that bytes can come to, with the answer to each. -/
inductive Outcome (services : Services) (context : Context) (body : Bytes) : Answer → Prop
  | pending (short : body.length < 3) : Outcome services context body ⟨.ok .proceed, [], context⟩
  | foreign (foreign : IsForeign body) :
    Outcome services context body ⟨.ok .close, Reply.unsupported.encode, context⟩
  | failed {error : Error} (fails : context.FailsToImport services body error) :
    Outcome services context body ⟨.error error, [], context⟩
  | answered {reply : Reply} (replies : context.Replies services body reply) (after : Context) :
    Outcome services context body ⟨.ok .proceed, reply.encode, after⟩

theorem outcome_dispatch (services : Services) (context : Context) (dispatcher : Dispatcher) (frame : Bytes) :
    context.Outcome services (dispatcher.carried ++ frame)
      (context.answer services (dispatcher.dispatch frame).1) := by
  rcases Marker.cases_of (dispatcher.carried ++ frame) with short | command | deploy | foreign
  · rw [Dispatcher.dispatch_of_short short]
    exact .pending short
  · rw [Dispatcher.dispatch_of_command command]
    cases read : commandLine (dispatcher.carried ++ frame) with
    | error error =>
      -- The only failure is that of a line past the limit.
      obtain ⟨long, rfl⟩ := commandLine_eq_error_iff.mp read
      exact .answered (.overlong command long) context
    | ok line => exact .answered (replies_respond ⟨command, read⟩) _
  · rw [Dispatcher.dispatch_of_deploy deploy]
    simp only [answer, ingest]
    cases imported : services.importer context.imports ((dispatcher.carried ++ frame).drop 4) with
    | error error => exact .failed ⟨deploy, imported⟩
    | ok archive => exact .answered (.deployed deploy imported) _
  · rw [Dispatcher.dispatch_of_foreign foreign]
    exact .foreign foreign

end Context

/-- What handling a frame comes to, for a peer that takes everything. -/
structure Connection.Contained (services : Services) (connection : Connection) (body : Bytes)
    (step : Step FrameOutcome) : Prop where
  /-- Handling fails exactly with the error of a failed import, and then it has no effect. -/
  failed_iff : ∀ error, step.result = .error error ↔ connection.context.FailsToImport services body error
  failed_silent : ∀ error, step.result = .error error →
    step.output = [] ∧ step.connection.context = connection.context
  /-- The connection is closed exactly by a foreign marker. -/
  closed_iff : step.result = .ok .close ↔ IsForeign body
  closed_output : step.result = .ok .close → step.output = Utf8.encode "ERR Unsupported Command\r\n"
  /-- Nothing is answered exactly where there is too little to classify. -/
  pending_iff : step.result = .ok .proceed ∧ step.output = [] ↔ body.length < 3
  /-- Everything else is answered once, and the connection goes on. -/
  answered : (∀ error, ¬ connection.context.FailsToImport services body error) → ¬ IsForeign body →
    3 ≤ body.length → step.result = .ok .proceed ∧
      ∃ reply, connection.context.Replies services body reply ∧ step.output = reply.encode
  phase_eq : step.connection.phase = .awaitingFrame

namespace Connection

/-- Every failure but that of an import is contained in its reply. -/
theorem handleFrame_contained (services : Services) (connection : Connection) (frame : Bytes)
    (unlimited : connection.peer = .unlimited) :
    connection.Contained services (connection.dispatcher.carried ++ frame)
      (connection.handleFrame services frame) := by
  have outcome := connection.context.outcome_dispatch services connection.dispatcher frame
  rw [handleFrame_unlimited unlimited]
  dsimp only
  generalize connection.dispatcher.carried ++ frame = body at outcome ⊢
  generalize connection.context.answer services (connection.dispatcher.dispatch frame).1 = answer at outcome ⊢
  have unsupported : Reply.unsupported.encode = Utf8.encode "ERR Unsupported Command\r\n" := by decide
  cases outcome with
  | pending short =>
    have notForeign : ¬ IsForeign body := fun foreign => absurd foreign.1 (Nat.not_le.mpr short)
    have imports (error : Error) : ¬ connection.context.FailsToImport services body error := fun fails =>
      absurd fails.spec.1 (Nat.not_le.mpr short)
    exact {
      failed_iff := fun error => ⟨fun failed => (nomatch failed), fun fails => absurd fails (imports error)⟩
      failed_silent := fun _ failed => nomatch failed
      closed_iff := ⟨fun closed => (nomatch closed), fun foreign => absurd foreign notForeign⟩
      closed_output := fun closed => nomatch closed
      pending_iff := iff_of_true ⟨rfl, rfl⟩ short
      answered := fun _ _ long => absurd long (Nat.not_le.mpr short)
      phase_eq := rfl }
  | foreign foreign =>
    exact {
      failed_iff := fun error => ⟨fun failed => (nomatch failed), fun fails => absurd foreign fails.spec.2⟩
      failed_silent := fun _ failed => nomatch failed
      closed_iff := iff_of_true rfl foreign
      closed_output := fun _ => unsupported
      pending_iff := ⟨fun waits => (nomatch waits.1), fun short => absurd foreign.1 (Nat.not_le.mpr short)⟩
      answered := fun _ notForeign => absurd foreign notForeign
      phase_eq := rfl }
  | @failed told fails =>
    exact {
      failed_iff := fun error =>
        ⟨fun failed => Except.error.inj failed ▸ fails, fun other => congrArg Except.error (fails.unique other)⟩
      failed_silent := fun _ _ => ⟨rfl, rfl⟩
      closed_iff := ⟨fun closed => (nomatch closed), fun foreign => absurd foreign fails.spec.2⟩
      closed_output := fun closed => nomatch closed
      pending_iff :=
        ⟨fun waits => (nomatch waits.1), fun short => absurd fails.spec.1 (Nat.not_le.mpr short)⟩
      answered := fun imports => absurd fails (imports told)
      phase_eq := rfl }
  | @answered reply replies after =>
    obtain ⟨long, notForeign, imports⟩ := replies.spec
    exact {
      failed_iff := fun error => ⟨fun failed => (nomatch failed), fun fails => absurd fails (imports error)⟩
      failed_silent := fun _ failed => nomatch failed
      closed_iff := ⟨fun closed => (nomatch closed), fun foreign => absurd foreign notForeign⟩
      closed_output := fun closed => nomatch closed
      pending_iff :=
        ⟨fun waits => absurd waits.2 replies.encode_ne_nil, fun short => absurd long (Nat.not_le.mpr short)⟩
      answered := fun _ _ _ => ⟨rfl, reply, replies, rfl⟩
      phase_eq := rfl }

/-- A test that fails on a connection that is being closed, and whose command is carried over in part. -/
theorem handleFrame_contained_carried :
    let archive := Archive.new "a"
    let services : Services := {
      importer := fun _ _ => .error ⟨.deploy, "no archive"⟩
      executor := fun _ _ _ => .error ⟨.execution, "no\nmethod"⟩ }
    let connection : Connection :=
      { Connection.new (.new (Store.empty.insert "a" archive).2) 100 .unlimited with
        dispatcher := ⟨[0x43, 0x4D]⟩
        cancelled := true }
    let step := connection.handleFrame services (Utf8.encode "D test a C m\r\nx")
    connection.peer = .unlimited ∧ step.result = .ok .proceed ∧
      step.output = Utf8.encode "ERR Caught unexpected error servicing request: execution: no\nmethod\r\n" ∧
      ∃ reply, connection.context.Replies services (Utf8.encode "CMD test a C m\r\nx") reply ∧
        step.output = reply.encode := by
  intro archive services connection step
  have contained := handleFrame_contained services connection (Utf8.encode "D test a C m\r\nx") rfl
  have body : connection.dispatcher.carried ++ Utf8.encode "D test a C m\r\nx" =
      Utf8.encode "CMD test a C m\r\nx" := by decide +kernel
  rw [body] at contained
  have command : commandMarker <+: Utf8.encode "CMD test a C m\r\nx" := by decide +kernel
  obtain ⟨proceeds, replied⟩ := contained.answered (fun error fails => Marker.not_both command fails.1)
    (fun foreign => foreign.2.1 command) command.length_le
  exact ⟨rfl, proceeds, by decide +kernel, replied⟩

end Connection

end TestDaemon
