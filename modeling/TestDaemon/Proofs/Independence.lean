import Mathlib.Data.Set.Defs
import Mathlib.Logic.Pairwise
import TestDaemon.Proofs.SerialHandling
import TestDaemon.Proofs.StoreHistory

/-! # Connections on disjoint deployments

What a frame is answered depends only on what is stored under the ID that it is about, and its handling
changes nothing else. Connections with disjoint sets of IDs therefore do not notice each other: in every
interleaving of their frames each of them is served as if it were alone.
-/

namespace TestDaemon

/-! ## What a request is about -/

namespace Request

/-- The ID that a request deploys, undeploys or tests. -/
def subject? (convert : Bytes → Except Error Archive) : Except Error Dispatch → Option String
  | .ok (.deploy payload) => (convert payload).toOption.map Archive.id
  | .ok (.command line) =>
    match Command.parse line with
    | .ok (.undeploy id) => some id
    | .ok (.test id _ _) => some id
    | _ => none
  | _ => none

/-- A request about nothing but these IDs, and not for a stop of the server. -/
structure Within (convert : Bytes → Except Error Archive) (ids : Set String)
    (request : Except Error Dispatch) : Prop where
  noStop : request ≠ .ok (.command stopCommand)
  subject : ∀ id ∈ subject? convert request, id ∈ ids

/-- Whether a connection goes on after a request. -/
def goesOn (convert : Bytes → Except Error Archive) : Except Error Dispatch → Bool
  | .ok (.deploy payload) => (convert payload).isOk
  | .ok .unsupported => false
  | _ => true

/-- What a request asks of the context. -/
def operation? : Except Error Dispatch → Option ContextOperation
  | .ok (.deploy payload) => some (.ingest payload)
  | .ok (.command line) => some (.execute line)
  | _ => none

end Request

/-- The requests that a connection gets to with some frames. -/
def Dispatcher.requests (convert : Bytes → Except Error Archive) (dispatcher : Dispatcher) :
    List Bytes → List (Except Error Dispatch)
  | [] => []
  | frame :: frames =>
    let dispatched := dispatcher.dispatch frame
    dispatched.1 ::
      if Request.goesOn convert dispatched.1 then requests convert dispatched.2 frames else []

theorem Dispatcher.requests_cons (convert : Bytes → Except Error Archive) (dispatcher : Dispatcher)
    (frame : Bytes) (frames : List Bytes) :
    dispatcher.requests convert (frame :: frames) =
      (dispatcher.dispatch frame).1 ::
        if Request.goesOn convert (dispatcher.dispatch frame).1 then
          (dispatcher.dispatch frame).2.requests convert frames
        else [] := rfl

/-! ## The answer to a request -/

variable {convert : Bytes → Except Error Archive} {executor : Executor} {services : Services}
  {request : Except Error Dispatch} {first second : Context} {id : String} {ids : Set String}

theorem Request.subject?_of_affects {operation : ContextOperation} {context : Context}
    (asked : operation? request = some operation)
    (affects : operation.Affects (.ofFunctions convert executor) context id) :
    subject? convert request = some id := by
  rcases request with error | (line | payload | _ | _)
  · cases asked
  · cases asked
    rcases affects with ⟨archive, deploys, -⟩ | undeploys
    · cases deploys
    · have parsed := ContextOperation.undeploys_execute_iff.mp undeploys
      simp only [subject?, parsed]
  · cases asked
    rcases affects with ⟨archive, ⟨imported⟩, rfl⟩ | undeploys
    · have imported : convert payload = .ok archive := imported
      simp only [subject?, imported]
      rfl
    · cases undeploys
  · cases asked
  · cases asked

namespace Context

theorem answer_store (services : Services) (context : Context) (request : Except Error Dispatch) :
    (context.answer services request).context.store =
      match Request.operation? request with
      | none => context.store
      | some operation => (context.perform services operation).2.store := by
  rcases request with error | (line | payload | _ | _)
  · rfl
  · simp only [answer, respond, Request.operation?, perform]
    rcases context.execute services line with ⟨error | (reply | reply), after⟩ <;> rfl
  · simp only [answer, Request.operation?, perform, ingest]
    cases services.importer context.imports payload <;> rfl
  · rfl
  · rfl

/-- Nothing changes but what a request is about. -/
theorem answer_elsewhere {context : Context} (other : Request.subject? convert request ≠ some id) :
    (context.answer (.ofFunctions convert executor) request).context.store.get? id =
      context.store.get? id := by
  rw [answer_store]
  cases asked : Request.operation? request with
  | none => rfl
  | some operation =>
    refine ContextOperation.get?_of_not_affects fun affects => ?_
    exact other (Request.subject?_of_affects asked affects)

/-- What is stored under an ID after a request goes by what is stored there before it. -/
theorem answer_get? (same : first.store.get? id = second.store.get? id) :
    (first.answer (.ofFunctions convert executor) request).context.store.get? id =
      (second.answer (.ofFunctions convert executor) request).context.store.get? id := by
  have deploys_iff (operation : ContextOperation) (archive : Archive) :
      operation.Deploys (.ofFunctions convert executor) first archive ↔
        operation.Deploys (.ofFunctions convert executor) second archive := by
    constructor <;> rintro ⟨imported⟩ <;> exact .ingest imported
  rw [answer_store, answer_store]
  cases Request.operation? request with
  | none => exact same
  | some operation =>
    refine Option.ext fun archive => ?_
    simp only [ContextOperation.get?_perform_iff, ContextOperation.Affects, deploys_iff, same]

/-- A request is answered by what is stored under the ID that it is about. -/
theorem answer_congr (executor : Executor)
    (same : ∀ id ∈ Request.subject? convert request, first.store.get? id = second.store.get? id) :
    (first.answer (.ofFunctions convert executor) request).result =
        (second.answer (.ofFunctions convert executor) request).result ∧
      (first.answer (.ofFunctions convert executor) request).output =
        (second.answer (.ofFunctions convert executor) request).output := by
  rcases request with error | (line | payload | _ | _)
  · exact ⟨rfl, rfl⟩
  · cases parsed : Command.parse line with
    | error error => simp only [answer, respond, execute, parsed, and_self]
    | ok command =>
      cases command with
      | stop => simp only [answer, respond, execute, parsed, and_self]
      | undeploy id =>
        have subject : Request.subject? convert (.ok (.command line)) = some id := by
          simp only [Request.subject?, parsed]
        have same := same id subject
        have contained : first.store.contains id = second.store.contains id := congrArg Option.isSome same
        simp only [answer, respond, execute, parsed, undeploy_eq, contained, true_and]
      | test id className method =>
        have subject : Request.subject? convert (.ok (.command line)) = some id := by
          simp only [Request.subject?, parsed]
        have same := same id subject
        have invoked : first.invoke (.ofFunctions convert executor) id className method =
            second.invoke (.ofFunctions convert executor) id className method := by
          simp only [invoke, same]
        simp only [answer, respond, execute, parsed, invoked]
        cases second.invoke (.ofFunctions convert executor) id className method <;> exact ⟨trivial, rfl⟩
  · cases imported : convert payload <;> simp only [answer, ingest, imported, and_self]
  · exact ⟨rfl, rfl⟩
  · exact ⟨rfl, rfl⟩

theorem goesOn_of_answer {context : Context}
    (goesOn : FrameOutcome.finishOf (context.answer (.ofFunctions convert executor) request).result = none) :
    Request.goesOn convert request = true := by
  rcases request with error | (line | payload | _ | _)
  · rfl
  · rfl
  · cases imported : convert payload with
    | ok archive => simp only [Request.goesOn, imported, Except.isOk, Except.toBool]
    | error error =>
      simp only [answer, ingest, imported] at goesOn
      cases goesOn
  · cases goesOn
  · rfl

theorem answer_stopRequested {context : Context} (noStop : request ≠ .ok (.command Request.stopCommand)) :
    (context.answer services request).context.stopRequested = context.stopRequested := by
  rcases request with error | (line | payload | _ | _)
  · rfl
  · cases parsed : Command.parse line with
    | error error => simp only [answer, respond, execute, parsed]
    | ok command =>
      cases command with
      | stop => exact absurd (by rw [Command.parse_eq_stop_iff.mp parsed]) noStop
      | undeploy id => simp only [answer, respond, execute, parsed, undeploy_eq]
      | test id className method =>
        simp only [answer, respond, execute, parsed]
        cases context.invoke services id className method <;> rfl
  · simp only [answer, ingest]
    cases services.importer context.imports payload <;> rfl
  · rfl
  · rfl

end Context

/-! ## A connection and its frames -/

namespace SerialConnection

/-- A connection whose frames are about nothing but these IDs. -/
def Confined (convert : Bytes → Except Error Archive) (ids : Set String) (connection : SerialConnection)
    (frames : List Bytes) : Prop :=
  connection.finish = none →
    ∀ request ∈ connection.dispatcher.requests convert frames, Request.Within convert ids request

variable {connection : SerialConnection} {frame : Bytes} {frames : List Bytes}

theorem Confined.within (confined : connection.Confined convert ids (frame :: frames))
    (unfinished : connection.finish = none) :
    Request.Within convert ids (connection.dispatcher.dispatch frame).1 :=
  confined unfinished _ (List.mem_cons_self ..)

theorem Confined.handle (confined : connection.Confined convert ids (frame :: frames))
    (executor : Executor) (context : Context) :
    (connection.handle (.ofFunctions convert executor) context frame).1.Confined convert ids frames := by
  cases finished : connection.finish with
  | some finish =>
    rw [handle_of_finish (by rw [finished]; rfl)]
    intro unfinished
    cases finished.symm.trans unfinished
  | none =>
    rw [handle_eq finished]
    intro unfinished request member
    have goesOn : Request.goesOn convert (connection.dispatcher.dispatch frame).1 = true :=
      Context.goesOn_of_answer unfinished
    have later : request ∈ connection.dispatcher.requests convert (frame :: frames) := by
      rw [Dispatcher.requests_cons, if_pos goesOn]
      exact List.mem_cons_of_mem _ member
    exact confined finished request later

/-- A confined connection leaves alone what is stored under other IDs, and does not ask for a stop. -/
theorem Confined.untouched (confined : connection.Confined convert ids (frame :: frames))
    (executor : Executor) (context : Context) :
    (connection.handle (.ofFunctions convert executor) context frame).2.stopRequested =
        context.stopRequested ∧
      ∀ id, id ∉ ids →
        (connection.handle (.ofFunctions convert executor) context frame).2.store.get? id =
          context.store.get? id := by
  cases finished : connection.finish with
  | some finish =>
    rw [handle_of_finish (by rw [finished]; rfl)]
    exact ⟨rfl, fun id outside => rfl⟩
  | none =>
    have within := confined.within finished
    rw [handle_eq finished]
    exact ⟨Context.answer_stopRequested within.noStop, fun id outside =>
      Context.answer_elsewhere fun subject => outside (within.subject id subject)⟩

/-- What a confined connection makes of a frame goes by what is stored under its IDs. -/
theorem Confined.handle_congr (confined : connection.Confined convert ids (frame :: frames))
    (executor : Executor) (same : ∀ id ∈ ids, first.store.get? id = second.store.get? id) :
    (connection.handle (.ofFunctions convert executor) first frame).1 =
        (connection.handle (.ofFunctions convert executor) second frame).1 ∧
      ∀ id ∈ ids, (connection.handle (.ofFunctions convert executor) first frame).2.store.get? id =
        (connection.handle (.ofFunctions convert executor) second frame).2.store.get? id := by
  cases finished : connection.finish with
  | some finish =>
    rw [handle_of_finish (by rw [finished]; rfl), handle_of_finish (by rw [finished]; rfl)]
    exact ⟨rfl, same⟩
  | none =>
    have within := confined.within finished
    have subject : ∀ id ∈ Request.subject? convert (connection.dispatcher.dispatch frame).1,
        first.store.get? id = second.store.get? id := fun id about => same id (within.subject id about)
    obtain ⟨result, output⟩ := Context.answer_congr executor subject
    rw [handle_eq finished, handle_eq finished]
    refine ⟨?_, fun id member => Context.answer_get? (same id member)⟩
    simp only [result, output]

end SerialConnection

/-! ## All connections -/

namespace SerialSystem

variable {owned : Nat → Set String} {system : SerialSystem} {sequence : List (Nat × Bytes)} {index : Nat}
  {context : Context}

/-- Every connection keeps to its own IDs. -/
def Confined (convert : Bytes → Except Error Archive) (owned : Nat → Set String) (system : SerialSystem)
    (sequence : List (Nat × Bytes)) : Prop :=
  ∀ index, (system.connections index).Confined convert (owned index) (framesOf index sequence)

theorem Confined.head {frame : Bytes}
    (confined : system.Confined convert owned ((index, frame) :: sequence)) :
    (system.connections index).Confined convert (owned index) (frame :: framesOf index sequence) := by
  have own := confined index
  rwa [framesOf_cons_self] at own

theorem Confined.handle {frame : Bytes}
    (confined : system.Confined convert owned ((index, frame) :: sequence)) (executor : Executor) :
    (system.handle (.ofFunctions convert executor) index frame).Confined convert owned sequence := by
  intro other
  by_cases own : other = index
  · subst own
    rw [connections_handle_self]
    exact confined.head.handle executor system.context
  · have elsewhere := confined other
    rw [framesOf_cons_of_ne (Ne.symm own)] at elsewhere
    rw [connections_handle_of_ne own]
    exact elsewhere

/-- What belongs to nobody stays as it is, and nobody asks for a stop. -/
theorem Confined.untouched (confined : system.Confined convert owned sequence) (executor : Executor) :
    (system.handleAll (.ofFunctions convert executor) sequence).context.stopRequested =
        system.context.stopRequested ∧
      ∀ id, (∀ index, id ∉ owned index) →
        (system.handleAll (.ofFunctions convert executor) sequence).context.store.get? id =
          system.context.store.get? id := by
  induction sequence generalizing system with
  | nil => exact ⟨rfl, fun id unowned => rfl⟩
  | cons step sequence ih =>
    obtain ⟨index, frame⟩ := step
    obtain ⟨stop, elsewhere⟩ := ih (confined.handle executor)
    obtain ⟨stop', elsewhere'⟩ := confined.head.untouched executor system.context
    rw [handleAll_cons]
    rw [context_handle] at stop elsewhere
    refine ⟨stop.trans stop', fun id unowned => ?_⟩
    exact (elsewhere id unowned).trans (elsewhere' id (unowned index))

/-- A connection among others is served as if it were alone, and so are its deployments. -/
theorem Confined.alone (confined : system.Confined convert owned sequence) (executor : Executor)
    (index : Nat)
    (disjoint : Pairwise fun index other => ∀ id ∈ owned index, id ∉ owned other)
    (same : ∀ id ∈ owned index, system.context.store.get? id = context.store.get? id) :
    let alone := (system.connections index).handleAll (.ofFunctions convert executor) context
      (framesOf index sequence)
    let together := system.handleAll (.ofFunctions convert executor) sequence
    together.connections index = alone.1 ∧
      ∀ id ∈ owned index, together.context.store.get? id = alone.2.store.get? id := by
  induction sequence generalizing system context with
  | nil => exact ⟨rfl, same⟩
  | cons step sequence ih =>
    obtain ⟨other, frame⟩ := step
    rw [handleAll_cons]
    by_cases own : other = index
    · subst own
      obtain ⟨connection, store⟩ := confined.head.handle_congr executor same
      have rest := ih (confined.handle executor) store
      rw [connections_handle_self, connection] at rest
      rw [framesOf_cons_self]
      exact rest
    · have kept : ∀ id ∈ owned index,
          (system.handle (.ofFunctions convert executor) other frame).context.store.get? id =
            context.store.get? id := by
        intro id member
        have unowned : id ∉ owned other := disjoint (Ne.symm own) id member
        exact ((confined.head.untouched executor _).2 id unowned).trans (same id member)
      have rest := ih (confined.handle executor) kept
      rw [connections_handle_of_ne (Ne.symm own)] at rest
      rw [framesOf_cons_of_ne own]
      exact rest

/-- Connections that keep to disjoint sets of IDs do not influence each other. In any two interleavings of
their frames each one writes and ends as it does alone, and the store is the same in the end. -/
theorem independent (convert : Bytes → Except Error Archive) (executor : Executor) (context : Context)
    {owned : Nat → Set String} {first second : List (Nat × Bytes)}
    (disjoint : Pairwise fun index other => ∀ id ∈ owned index, id ∉ owned other)
    (confined : (start context).Confined convert owned first)
    (same : ∀ index, framesOf index first = framesOf index second) :
    let one := (start context).handleAll (.ofFunctions convert executor) first
    let other := (start context).handleAll (.ofFunctions convert executor) second
    (∀ index,
      let alone := SerialConnection.start.handleAll (.ofFunctions convert executor) context
        (framesOf index first)
      one.connections index = alone.1 ∧ other.connections index = alone.1) ∧
    one.context.store = other.context.store ∧ one.context.stopRequested = context.stopRequested ∧
      other.context.stopRequested = context.stopRequested := by
  intro one other
  have confined' : (start context).Confined convert owned second := by
    intro index
    rw [← same]
    exact confined index
  have alone (index : Nat) := confined.alone executor index disjoint fun id member => rfl
  have alone' (index : Nat) := confined'.alone executor index disjoint fun id member => rfl
  simp only [← same] at alone'
  refine ⟨fun index => ⟨(alone index).1, (alone' index).1⟩, Store.ext_get? fun id => ?_,
    (confined.untouched executor).1, (confined'.untouched executor).1⟩
  by_cases ownership : ∃ index, id ∈ owned index
  · obtain ⟨index, member⟩ := ownership
    exact ((alone index).2 id member).trans ((alone' index).2 id member).symm
  · have unowned : ∀ index, id ∉ owned index := not_exists.mp ownership
    have stays := (confined.untouched executor).2 id unowned
    exact stays.trans ((confined'.untouched executor).2 id unowned).symm

/-- One connection undeploys and tests `a` while the other one undeploys `b`, by a line that comes in two
frames, and is closed by a payload that is refused. -/
theorem independent_undeploys :
    let convert : Bytes → Except Error Archive := fun _ => .error ⟨.deploy, "refused"⟩
    let executor : Executor := fun archive _ _ => .error ⟨.execution, archive.id⟩
    let store := ((Store.empty.insert "a" (.new "a")).2.insert "b" (.new "b")).2
    let first := [(0, Utf8.encode "CMD undeploy a"), (1, Utf8.encode "CM"),
      (1, Utf8.encode "D undeploy b"), (0, Utf8.encode "CMD test a C m"), (1, Utf8.encode "DPL ")]
    let second := [(1, Utf8.encode "CM"), (1, Utf8.encode "D undeploy b"), (1, Utf8.encode "DPL "),
      (0, Utf8.encode "CMD undeploy a"), (0, Utf8.encode "CMD test a C m")]
    let one := (start (.new store)).handleAll (.ofFunctions convert executor) first
    let other := (start (.new store)).handleAll (.ofFunctions convert executor) second
    (∀ index, one.connections index = other.connections index) ∧
      one.context.store = other.context.store := by
  intro convert executor store first second one other
  let owned (index : Nat) : Set String := {id | (index, id) ∈ [(0, "a"), (1, "b")]}
  have disjoint : Pairwise fun index other => ∀ id ∈ owned index, id ∉ owned other := by
    intro index other different id member member'
    refine different ?_
    have member : (index, id) ∈ [(0, "a"), (1, "b")] := member
    have member' : (other, id) ∈ [(0, "a"), (1, "b")] := member'
    simp only [List.mem_cons, Prod.mk.injEq, List.not_mem_nil, or_false] at member member'
    rcases member with ⟨rfl, rfl⟩ | ⟨rfl, rfl⟩ <;>
      rcases member' with ⟨rfl, named⟩ | ⟨rfl, named⟩
    · rfl
    · cases (by decide : "a" ≠ "b") named
    · cases (by decide : "b" ≠ "a") named
    · rfl
  have confined : (start (.new store)).Confined convert owned first := by
    intro index unfinished request member
    have scene : ∀ index ∈ [0, 1], ∀ request ∈ Dispatcher.new.requests convert (framesOf index first),
        request ≠ .ok (.command Request.stopCommand) ∧
          ∀ id ∈ Request.subject? convert request, (index, id) ∈ [(0, "a"), (1, "b")] := by
      decide +kernel
    rcases index with _ | _ | index
    · exact ⟨(scene 0 (by decide) request member).1, (scene 0 (by decide) request member).2⟩
    · exact ⟨(scene 1 (by decide) request member).1, (scene 1 (by decide) request member).2⟩
    · have none : framesOf (index + 2) first = [] := by simp [framesOf, first]
      rw [none] at member
      cases member
  have same (index : Nat) : framesOf index first = framesOf index second := by
    rcases index with _ | _ | index <;> simp [framesOf, first, second]
  obtain ⟨connections, stores, -⟩ := independent convert executor (.new store) disjoint confined same
  exact ⟨fun index => (connections index).1.trans (connections index).2.symm, stores⟩

end SerialSystem

end TestDaemon
