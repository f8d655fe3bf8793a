import TestDaemon.Proofs.WholeFrames

/-! # Linearizability of the shared store

Connections that take their steps in any order write what they would write if whole frames were handled one
after the other, and leave the same store. The order of the frames extends as the steps go on, so that a
frame that has been answered stands before every frame that is begun later. A test goes by the archive that
its look-up has found, and of the undeploys of one deployment the first one gets it.
-/

namespace TestDaemon

open InterleavedConnection (Follows)
open SerialSystem (framesOf)

variable {convert : Bytes → Except Error Archive} {executor : Executor}

/-- A connection between two steps beside one that has handled the frames in `handled` as a whole. All
frames that have been begun are among those, but for the one that the connection may be at. -/
structure InterleavedConnection.Reflects (connection : InterleavedConnection) (serial : SerialConnection)
    (handled frames : List Bytes) : Prop where
  order : ∃ current, current.length ≤ 1 ∧ frames = handled ++ (current ++ connection.frames)
  written : connection.replies.map Reply.encode <+: serial.replies
  unwritten : serial.replies.length ≤ connection.replies.length + 1
  between : connection.work = .none → frames = handled ++ connection.frames ∧
    serial.replies = connection.replies.map Reply.encode ∧ serial.finish = connection.finish

theorem InterleavedConnection.Follows.reflects {connection : InterleavedConnection}
    {serial : SerialConnection} {ahead : List Bytes} (follows : Follows convert executor connection serial ahead)
    (handled : List Bytes) : connection.Reflects serial handled (handled ++ ahead) := by
  cases follows with
  | settled free =>
    exact ⟨⟨[], Nat.zero_le _, rfl⟩, List.prefix_rfl, by simp, fun _ => ⟨rfl, rfl, rfl⟩⟩
  | @preparing dispatcher frame asked unfinished dispatched prepares =>
    refine ⟨⟨[frame], Nat.le_refl _, rfl⟩, List.prefix_rfl, by simp, fun free => ?_⟩
    rw [free] at prepares
    cases prepares
  | concluding unfinished concludes =>
    refine ⟨⟨[], Nat.zero_le _, rfl⟩, ?_, by simp, fun free => ?_⟩
    · rw [List.map_append]
      exact List.prefix_append ..
    · rw [free] at concludes
      cases concludes

namespace InterleavedSystem

/-- Connections that handle whole frames, after the frames of `sequence`. -/
def serially (convert : Bytes → Except Error Archive) (executor : Executor) (store : Store)
    (sequence : List (Nat × Bytes)) : SerialSystem :=
  (SerialSystem.start (.new store)).handleAll (.ofFunctions convert executor) sequence

/-- An order of whole frames that explains how a system got where it is. -/
structure Linearizes (convert : Bytes → Except Error Archive) (executor : Executor) (store : Store)
    (peers : List (List Bytes)) (sequence : List (Nat × Bytes)) (system : InterleavedSystem) : Prop where
  deployed : (serially convert executor store sequence).context.store = system.shared.store
  connections : ∀ {index : Nat} {connection : InterleavedConnection},
    system.connections[index]? = some connection → ∃ frames, peers[index]? = some frames ∧
      connection.Reflects ((serially convert executor store sequence).connections index)
        (framesOf index sequence) frames
  others : ∀ {index : Nat}, peers.length ≤ index → framesOf index sequence = []

/-! ## Steps and whole frames -/

/-- Connections between two steps, and those that have handled whole frames. -/
structure Corresponds (convert : Bytes → Except Error Archive) (executor : Executor)
    (peers : List (List Bytes)) (sequence : List (Nat × Bytes)) (serial : SerialSystem)
    (system : InterleavedSystem) : Prop where
  store : serial.context.store = system.shared.store
  size : system.connections.length = peers.length
  follows : ∀ {index : Nat} {connection : InterleavedConnection},
    system.connections[index]? = some connection → ∃ ahead,
      peers[index]? = some (framesOf index sequence ++ ahead) ∧
      connection.Follows convert executor (serial.connections index) ahead
  others : ∀ {index : Nat}, peers.length ≤ index → framesOf index sequence = []

variable {peers : List (List Bytes)} {store : Store} {sequence : List (Nat × Bytes)} {serial : SerialSystem}
  {system next later : InterleavedSystem} {index : Nat} {order : List Nat}

theorem corresponds_start (convert : Bytes → Except Error Archive) (executor : Executor)
    (peers : List (List Bytes)) (store : Store) :
    Corresponds convert executor peers [] (.start (.new store)) (start peers store) where
  store := rfl
  size := List.length_map ..
  follows {index connection} found := by
    rw [start, List.getElem?_map] at found
    obtain ⟨frames, given, rfl⟩ := Option.map_eq_some_iff.mp found
    exact ⟨frames, given, .settled rfl⟩
  others _ := rfl

theorem Corresponds.advance (corresponds : Corresponds convert executor peers sequence serial system)
    (advanced : system.advance? (.ofFunctions convert executor) index = some next) :
    ∃ more, Corresponds convert executor peers (sequence ++ more)
      (serial.handleAll (.ofFunctions convert executor) more) next := by
  obtain ⟨connection, changed, shared, found, unfinished, advances, rfl⟩ := advance?_cases advanced
  obtain ⟨ahead, frames, follows⟩ := corresponds.follows found
  have size : (system.connections.set index changed).length = peers.length :=
    (List.length_set ..).trans corresponds.size
  have bound : index < peers.length := (List.getElem?_eq_some_iff.mp frames).1
  cases follows.advance unfinished advances corresponds.store with
  | nothing same reached =>
    refine ⟨[], ?_, size, fun {other entry} present => ?_, ?_⟩
    · exact same
    · rw [List.append_nil]
      by_cases own : other = index
      · subst own
        rw [getElem?_set_self found] at present
        cases present
        exact ⟨ahead, frames, reached⟩
      · rw [List.getElem?_set_ne (Ne.symm own)] at present
        exact corresponds.follows present
    · rw [List.append_nil]
      exact corresponds.others
  | @frame frame rest due handled later handles same reached =>
    have turn : serial.handleAll (.ofFunctions convert executor) [(index, frame)] =
        serial.handle (.ofFunctions convert executor) index frame := rfl
    have context : (serial.handle (.ofFunctions convert executor) index frame).context = later := by
      rw [SerialSystem.context_handle, handles]
    rw [due] at frames
    refine ⟨[(index, frame)], ?_, size, fun {other entry} present => ?_, fun {other} beyond => ?_⟩
    · rw [turn, context]
      exact same
    · rw [turn, SerialSystem.framesOf_append]
      by_cases own : other = index
      · subst own
        rw [getElem?_set_self found] at present
        cases present
        refine ⟨rest, ?_, ?_⟩
        · rw [SerialSystem.framesOf_cons_self, SerialSystem.framesOf_nil, List.append_assoc]
          exact frames
        · rw [SerialSystem.connections_handle_self, handles]
          exact reached
      · rw [List.getElem?_set_ne (Ne.symm own)] at present
        rw [SerialSystem.framesOf_cons_of_ne (Ne.symm own), SerialSystem.framesOf_nil, List.append_nil,
          SerialSystem.connections_handle_of_ne own]
        exact corresponds.follows present
    · rw [SerialSystem.framesOf_append, corresponds.others beyond,
        SerialSystem.framesOf_cons_of_ne (Nat.ne_of_lt (Nat.lt_of_lt_of_le bound beyond))]
      rfl

theorem Corresponds.schedule (corresponds : Corresponds convert executor peers sequence serial system)
    (ran : system.schedule? (.ofFunctions convert executor) order = some later) :
    ∃ more, Corresponds convert executor peers (sequence ++ more)
      (serial.handleAll (.ofFunctions convert executor) more) later := by
  induction order generalizing sequence serial system with
  | nil =>
    obtain rfl := schedule?_nil_iff.mp ran
    exact ⟨[], by rwa [List.append_nil]⟩
  | cons index order ih =>
    obtain ⟨next, advanced, ran⟩ := schedule?_cons_iff.mp ran
    obtain ⟨now, corresponds⟩ := corresponds.advance advanced
    obtain ⟨more, corresponds⟩ := ih corresponds ran
    refine ⟨now ++ more, ?_⟩
    rwa [← List.append_assoc, SerialSystem.handleAll_append]

theorem Corresponds.linearizes
    (corresponds : Corresponds convert executor peers sequence
      (serially convert executor store sequence) system) :
    Linearizes convert executor store peers sequence system where
  deployed := corresponds.store
  connections found := by
    obtain ⟨ahead, frames, follows⟩ := corresponds.follows found
    exact ⟨_, frames, follows.reflects _⟩
  others := corresponds.others

/-! ## What later steps leave -/

/-- The reply with a number that a connection has written or is about to write. -/
def settledReply? (system : InterleavedSystem) (place : Nat × Nat) : Option Reply :=
  (system.connections[place.1]?).bind fun connection => connection.settled[place.2]?

variable {services : Services}

theorem settledReply?_of_advance? {place : Nat × Nat} {reply : Reply}
    (advanced : system.advance? services index = some next)
    (settled : system.settledReply? place = some reply) : next.settledReply? place = some reply := by
  obtain ⟨connection, changed, shared, found, unfinished, advances, rfl⟩ := advance?_cases advanced
  obtain ⟨entry, present, written⟩ := Option.bind_eq_some_iff.mp settled
  by_cases own : place.1 = index
  · rw [own, found] at present
    cases present
    obtain ⟨more, same⟩ := advances.settled
    rw [settledReply?, own, getElem?_set_self found, Option.bind_some, ← same]
    rw [List.getElem?_append_left (List.getElem?_eq_some_iff.mp written).1]
    exact written
  · rw [settledReply?, List.getElem?_set_ne (Ne.symm own), present]
    exact written

theorem settledReply?_of_schedule? {place : Nat × Nat} {reply : Reply}
    (ran : system.schedule? services order = some later)
    (settled : system.settledReply? place = some reply) : later.settledReply? place = some reply := by
  induction order generalizing system with
  | nil =>
    obtain rfl := schedule?_nil_iff.mp ran
    exact settled
  | cons index order ih =>
    obtain ⟨next, advanced, ran⟩ := schedule?_cons_iff.mp ran
    exact ih ran (settledReply?_of_advance? advanced settled)

/-! ## Tests -/

/-- While a test runs, others take their steps. Its reply is that of the archive that it runs on. -/
theorem tested_of_schedule? {connection : InterleavedConnection} {archive : Archive}
    {className method : String}
    (ran : system.schedule? services order = some later)
    (found : system.connections[index]? = some connection)
    (testing : connection.work = .testing archive className method) :
    (∃ entry, later.connections[index]? = some entry ∧ entry.work = .testing archive className method ∧
      entry.replies = connection.replies) ∨
    later.settledReply? (index, connection.replies.length) =
      some (.ofTest services.executor archive className method) := by
  induction order generalizing system with
  | nil =>
    obtain rfl := schedule?_nil_iff.mp ran
    exact .inl ⟨connection, found, testing, rfl⟩
  | cons other order ih =>
    obtain ⟨next, advanced, ran⟩ := schedule?_cons_iff.mp ran
    obtain ⟨entry, changed, shared, present, unfinished, advances, rfl⟩ := advance?_cases advanced
    by_cases own : index = other
    · subst own
      cases found.symm.trans present
      -- The test comes to its end, and its reply is settled from here on.
      refine .inr (settledReply?_of_schedule? ran ?_)
      rw [settledReply?, getElem?_set_self found, Option.bind_some, advances.of_testing testing]
      exact List.getElem?_concat_length
    · refine ih ran ?_
      rw [List.getElem?_set_ne (Ne.symm own)]
      exact found

/-! ## Undeploys -/

/-- The steps that are taken along an order: whose each of them is, and that connection before it. -/
def steps (services : Services) (system : InterleavedSystem) : List Nat → List (Nat × InterleavedConnection)
  | [] => []
  | index :: order =>
    match system.connections[index]?, system.advance? services index with
    | some connection, some next => (index, connection) :: next.steps services order
    | _, _ => []

/-- The removals of a deployment among some steps, each by the place of its reply: whose it is, and its
number. -/
def removals (id : String) (steps : List (Nat × InterleavedConnection)) : List (Nat × Nat) :=
  steps.filterMap fun (index, connection) =>
    match connection.work with
    | .removing other => if other = id then some (index, connection.replies.length) else none
    | _ => none

/-- Whether some steps store nothing under an ID. -/
def Spares (id : String) (steps : List (Nat × InterleavedConnection)) : Prop :=
  ∀ step ∈ steps, ∀ archive, step.2.work = .storing archive → archive.id ≠ id

theorem steps_cons {connection : InterleavedConnection} (found : system.connections[index]? = some connection)
    (advanced : system.advance? services index = some next) (order : List Nat) :
    system.steps services (index :: order) = (index, connection) :: next.steps services order := by
  rw [steps, found, advanced]

theorem removals_cons_removing {connection : InterleavedConnection} {id : String}
    (work : connection.work = .removing id) (steps : List (Nat × InterleavedConnection)) :
    removals id ((index, connection) :: steps) = (index, connection.replies.length) :: removals id steps := by
  simp [removals, work]

theorem removals_cons_of_ne {connection : InterleavedConnection} {id : String}
    (spared : connection.work ≠ .removing id) (steps : List (Nat × InterleavedConnection)) :
    removals id ((index, connection) :: steps) = removals id steps := by
  rw [removals, List.filterMap_cons_none]
  · rfl
  · dsimp only
    split
    · next other work =>
      refine if_neg ?_
      rintro rfl
      exact spared work
    · rfl

/-- A removal settles its reply and leaves nothing under its ID. -/
theorem removed {connection : InterleavedConnection} {id : String}
    (advanced : system.advance? services index = some next)
    (found : system.connections[index]? = some connection) (work : connection.work = .removing id) :
    next.settledReply? (index, connection.replies.length) =
        some (if system.shared.store.contains id then .ok id else .unknownDeployment id) ∧
      next.shared.store.get? id = none := by
  obtain ⟨entry, changed, shared, present, unfinished, advances, rfl⟩ := advance?_cases advanced
  cases found.symm.trans present
  obtain ⟨settled, store⟩ := advances.of_removing work
  constructor
  · rw [settledReply?, getElem?_set_self found, Option.bind_some, settled]
    exact List.getElem?_concat_length
  · rw [store, Store.get?_remove, if_pos rfl]

/-- A step that neither stores nor removes a deployment leaves it. -/
theorem get?_of_advance? {connection : InterleavedConnection} {id : String}
    (advanced : system.advance? services index = some next)
    (found : system.connections[index]? = some connection)
    (spares : ∀ archive, connection.work = .storing archive → archive.id ≠ id)
    (spared : connection.work ≠ .removing id) :
    next.shared.store.get? id = system.shared.store.get? id := by
  obtain ⟨entry, changed, shared, present, unfinished, advances, rfl⟩ := advance?_cases advanced
  cases found.symm.trans present
  exact advances.get? spares spared

/-- Undeploys of what is not deployed find nothing. -/
theorem removals_of_absent {id : String} (ran : system.schedule? services order = some later)
    (absent : system.shared.store.get? id = none) (spares : Spares id (system.steps services order)) :
    later.shared.store.get? id = none ∧ ∀ place ∈ removals id (system.steps services order),
      later.settledReply? place = some (.unknownDeployment id) := by
  induction order generalizing system with
  | nil =>
    obtain rfl := schedule?_nil_iff.mp ran
    exact ⟨absent, fun place member => by cases member⟩
  | cons index order ih =>
    obtain ⟨next, advanced, ran⟩ := schedule?_cons_iff.mp ran
    obtain ⟨connection, changed, shared, found, -⟩ := advance?_cases advanced
    rw [steps_cons found advanced] at spares ⊢
    have spared : Spares id (next.steps services order) := fun step member =>
      spares step (List.mem_cons_of_mem _ member)
    by_cases work : connection.work = .removing id
    · obtain ⟨settled, emptied⟩ := removed advanced found work
      have missing : system.shared.store.contains id = false := congrArg Option.isSome absent
      rw [missing, if_neg Bool.false_ne_true] at settled
      obtain ⟨still, others⟩ := ih ran emptied spared
      rw [removals_cons_removing work]
      refine ⟨still, fun place member => ?_⟩
      rcases List.mem_cons.mp member with rfl | later
      · exact settledReply?_of_schedule? ran settled
      · exact others place later
    · have kept := get?_of_advance? advanced found (spares _ (List.mem_cons_self ..)) work
      rw [removals_cons_of_ne work]
      exact ih ran (kept.trans absent) spared

/-- Of the undeploys of a deployment the first one removes it. -/
theorem removals_of_deployed {id : String} (ran : system.schedule? services order = some later)
    (deployed : system.shared.store.contains id = true) (spares : Spares id (system.steps services order)) :
    match removals id (system.steps services order) with
    | [] => later.shared.store.get? id = system.shared.store.get? id
    | first :: others => later.shared.store.get? id = none ∧ later.settledReply? first = some (.ok id) ∧
        ∀ place ∈ others, later.settledReply? place = some (.unknownDeployment id) := by
  induction order generalizing system with
  | nil =>
    obtain rfl := schedule?_nil_iff.mp ran
    rfl
  | cons index order ih =>
    obtain ⟨next, advanced, ran⟩ := schedule?_cons_iff.mp ran
    obtain ⟨connection, changed, shared, found, -⟩ := advance?_cases advanced
    rw [steps_cons found advanced] at spares ⊢
    have spared : Spares id (next.steps services order) := fun step member =>
      spares step (List.mem_cons_of_mem _ member)
    by_cases work : connection.work = .removing id
    · obtain ⟨settled, emptied⟩ := removed advanced found work
      rw [deployed, if_pos rfl] at settled
      obtain ⟨still, others⟩ := removals_of_absent ran emptied spared
      rw [removals_cons_removing work]
      exact ⟨still, settledReply?_of_schedule? ran settled, others⟩
    · have kept := get?_of_advance? advanced found (spares _ (List.mem_cons_self ..)) work
      have deployed : next.shared.store.contains id = true := (congrArg Option.isSome kept).trans deployed
      have rest := ih ran deployed spared
      rw [removals_cons_of_ne work]
      rw [kept] at rest
      exact rest

/-! ## The theorem -/

/-- Every interleaving of steps is explained by an order of whole frames, which extends as the steps go on.
An archive that has been looked up is the one that the test runs on, whatever others do meanwhile. As long
as nobody deploys it anew, a deployment goes to the first of its undeploys, and the others find nothing. -/
theorem linearizable (convert : Bytes → Except Error Archive) (executor : Executor) (store : Store)
    (peers : List (List Bytes)) {before after : List Nat} {middle system : InterleavedSystem}
    (began : (start peers store).schedule? (.ofFunctions convert executor) before = some middle)
    (went : middle.schedule? (.ofFunctions convert executor) after = some system) :
    (∃ sequence more, Linearizes convert executor store peers sequence middle ∧
      Linearizes convert executor store peers (sequence ++ more) system) ∧
    (∀ index rest connection id className method archive, after = index :: rest →
      middle.connections[index]? = some connection → connection.work = .lookingUp id className method →
      middle.shared.store.get? id = some archive →
        (∃ entry, system.connections[index]? = some entry ∧
          entry.work = .testing archive className method ∧ entry.replies = connection.replies) ∨
        system.settledReply? (index, connection.replies.length) =
          some (.ofTest executor archive className method)) ∧
    (∀ id, middle.shared.store.contains id = true →
      Spares id (middle.steps (.ofFunctions convert executor) after) →
        match removals id (middle.steps (.ofFunctions convert executor) after) with
        | [] => system.shared.store.get? id = middle.shared.store.get? id
        | first :: others => system.shared.store.get? id = none ∧
            system.settledReply? first = some (.ok id) ∧
            ∀ place ∈ others, system.settledReply? place = some (.unknownDeployment id)) := by
  obtain ⟨sequence, now⟩ := (corresponds_start convert executor peers store).schedule began
  rw [List.nil_append] at now
  obtain ⟨more, after⟩ := now.schedule went
  rw [← SerialSystem.handleAll_append] at after
  refine ⟨⟨sequence, more, now.linearizes, after.linearizes⟩, ?_, fun id => removals_of_deployed went⟩
  rintro index rest connection id className method archive rfl found looking present
  obtain ⟨next, advanced, ran⟩ := schedule?_cons_iff.mp went
  obtain ⟨entry, changed, shared, same, unfinished, advances, rfl⟩ := advance?_cases advanced
  cases found.symm.trans same
  obtain rfl := advances.of_lookingUp looking present
  have outcome := tested_of_schedule? ran (getElem?_set_self found) rfl
  exact outcome

/-- Two undeploys take effect while a test of the same deployment runs. -/
theorem linearizable_overlapping :
    let convert : Bytes → Except Error Archive := fun _ => .error ⟨.deploy, "refused"⟩
    let executor : Executor := fun archive _ _ => .error ⟨.execution, archive.id⟩
    let store := (Store.empty.insert "a" (.new "a")).2
    let undeploy := Utf8.encode "CMD undeploy a"
    let peers := [[Utf8.encode "CMD test a C m"], [undeploy], [undeploy]]
    let before := [0]
    let after := [0, 1, 1, 2, 2, 0, 0, 2, 1]
    ∃ middle system,
      (start peers store).schedule? (.ofFunctions convert executor) before = some middle ∧
      middle.schedule? (.ofFunctions convert executor) after = some system ∧
      (∃ sequence more, Linearizes convert executor store peers sequence middle ∧
        Linearizes convert executor store peers (sequence ++ more) system) ∧
      system.connections.map (·.replies) =
        [[.ofTest executor (.new "a") "C" "m"], [.ok "a"], [.unknownDeployment "a"]] := by
  intro convert executor store undeploy peers before after
  have scene : ((start peers store).schedule? (.ofFunctions convert executor) before).bind (fun middle =>
      (middle.schedule? (.ofFunctions convert executor) after).map fun system =>
        (system.connections.map (·.replies))) =
      some [[.ofTest executor (.new "a") "C" "m"], [.ok "a"], [.unknownDeployment "a"]] := by
    decide +kernel
  obtain ⟨middle, began, scene⟩ := Option.bind_eq_some_iff.mp scene
  obtain ⟨system, went, replies⟩ := Option.map_eq_some_iff.mp scene
  exact ⟨middle, system, began, went, (linearizable convert executor store peers began went).1, replies⟩

end InterleavedSystem

end TestDaemon
