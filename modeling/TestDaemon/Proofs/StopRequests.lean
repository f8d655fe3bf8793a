import TestDaemon.Proofs.LockedTask
import TestDaemon.Proofs.Uncontended

/-! # Requests to stop a run

A connection asks the worker of its own run to stop the server, and the worker may get the lock long after
that, when the server has been stopped and started again any number of times. It stops its own run or
nothing: a run is cancelled before the lock becomes free again, so the worker tells by the token of its run
whether that run is still the one under way.
-/

namespace TestDaemon

/-- Whether a task has been called upon and has not left the lock. -/
def TaskPhase.isCalled : TaskPhase → Bool
  | queued | holding => true
  | _ => false

namespace Lifecycle

variable {lifecycle : Lifecycle}

theorem pending_of_updateRun {index run : Nat} {change : Run → Run}
    (pending : (lifecycle.updateRun index change).isStopPending run = true)
    (kept : ∀ entry, (change entry).stopPending = true → entry.stopPending = true) :
    lifecycle.isStopPending run = true := by
  obtain ⟨entry, found, stops⟩ := (isStopPending_iff ..).mp pending
  rw [getElem?_updateRun] at found
  split at found
  · obtain ⟨former, here, rfl⟩ := Option.map_eq_some_iff.mp found
    exact (isStopPending_iff ..).mpr ⟨former, here, kept former stops⟩
  · exact (isStopPending_iff ..).mpr ⟨entry, found, stops⟩

theorem pending_of_requestStop {index run : Nat}
    (pending : (lifecycle.requestStop index).isStopPending run = true) :
    lifecycle.isStopPending run = true ∨ index = run := by
  by_cases same : index = run
  · exact .inr same
  · rw [isStopPending, requestStop, getElem?_updateRun, if_neg same] at pending
    exact .inl pending

/-- A task under the lock asks nobody to stop a run. -/
theorem Moves.pending {kind : TaskKind} {stage : Stage} {move : Move}
    (moves : lifecycle.Moves kind stage move) {run : Nat}
    (pending : move.lifecycle.isStopPending run = true) : lifecycle.isStopPending run = true := by
  cases moves with
  | bound =>
    obtain ⟨entry, found, stops⟩ := (isStopPending_iff ..).mp pending
    rw [Move.silent_lifecycle, getElem?_beginRun] at found
    split at found
    · cases found
      cases stops
    · exact (isStopPending_iff ..).mpr ⟨entry, found, stops⟩
  | cancelling => exact pending_of_updateRun pending fun _ => id
  | completing => exact pending_of_updateRun pending fun _ => id
  | _ => exact pending

end Lifecycle

namespace SharedServer

variable {services : Services} {server next : SharedServer} {events : List ServerEvent}
  {action : ServerAction}

/-- Whether an action is a request by a connection of a run. -/
def Asks (server : SharedServer) (action : ServerAction) (run : Nat) : Prop :=
  ∃ index connection, action = .requestStop index ∧
    server.connections[index]? = some connection ∧ connection.run = run

/-- What becomes of the requests to stop with an action. A request is pending where a connection of the
same run has asked, and calls upon the worker of that run only. -/
structure Heeds (server : SharedServer) (action : ServerAction) (next : SharedServer) : Prop where
  connections : ∀ {index : Nat} {connection : ServedConnection},
    server.connections[index]? = some connection →
      ∃ later, next.connections[index]? = some later ∧ later.run = connection.run
  pending : ∀ {run : Nat}, next.lifecycle.isStopPending run = true →
    server.lifecycle.isStopPending run = true ∨ server.Asks action run
  workers : ∀ {task run : Nat} {phase : TaskPhase}, next.tasks[task]? = some ⟨.worker run, phase⟩ →
    phase.isCalled = true →
      (∃ former, server.tasks[task]? = some ⟨.worker run, former⟩ ∧ former.isCalled = true) ∨
        server.lifecycle.isStopPending run = true

/-! ## Requests and tasks -/

theorem Heeds.of_lifecycle {lifecycle : Lifecycle}
    (pending : ∀ {run}, lifecycle.isStopPending run = true →
      server.lifecycle.isStopPending run = true ∨ server.Asks action run) :
    Heeds server action { server with lifecycle } :=
  ⟨fun found => ⟨_, found, rfl⟩, pending, fun found called => .inl ⟨_, found, called⟩⟩

/-- Tasks are added that nobody has called upon as workers. -/
theorem Heeds.with_tasks {added : List Task} (heeds : Heeds server action next)
    (idle : ∀ {run : Nat} {phase : TaskPhase}, ⟨.worker run, phase⟩ ∈ added → phase.isCalled = false) :
    Heeds server action { next with tasks := next.tasks ++ added } where
  connections := heeds.connections
  pending := heeds.pending
  workers {task run phase} found called := by
    rcases found_or_added found with kept | new
    · exact heeds.workers kept called
    · exact absurd (called.symm.trans (idle new)) (by decide)

/-- A worker comes to be called upon only if its run has a request. -/
theorem heeds_setPhase {task : Nat} {phase : TaskPhase}
    (calls : phase.isCalled = true → ∀ {run : Nat} {former : TaskPhase},
      server.tasks[task]? = some ⟨.worker run, former⟩ →
        former.isCalled = true ∨ server.lifecycle.isStopPending run = true) :
    Heeds server action (server.setPhase task phase) where
  connections found := ⟨_, found, rfl⟩
  pending := .inl
  workers {other run later} found called := by
    rw [getElem?_setPhase] at found
    split at found
    · next same =>
      subst same
      obtain ⟨⟨kind, former⟩, before, changed⟩ := Option.map_eq_some_iff.mp found
      cases changed
      exact (calls called before).imp_left fun earlier => ⟨former, before, earlier⟩
    · exact .inl ⟨later, found, called⟩

theorem Heeds.with_lock (heeds : Heeds server action next) (lock : Option Hold) :
    Heeds server action { next with lock } :=
  ⟨heeds.connections, heeds.pending, heeds.workers⟩

theorem Heeds.with_lifecycle (heeds : Heeds server action next) {lifecycle : Lifecycle}
    (pending : ∀ {run}, lifecycle.isStopPending run = true →
      server.lifecycle.isStopPending run = true) : Heeds server action { next with lifecycle } :=
  ⟨heeds.connections, fun asked => .inl (pending asked), heeds.workers⟩

theorem heeds_hear {task : Nat} {phase : TaskPhase} (heard : server.hear? task phase = some next) :
    Heeds server action next := by
  obtain ⟨run, found, pending, rfl⟩ := hear?_cases heard
  refine (heeds_setPhase fun _ {own former} present => ?_).with_lifecycle fun asked => ?_
  · cases found.symm.trans present
    exact .inr pending
  · exact Lifecycle.pending_of_updateRun asked nofun

theorem heeds_abandon {task : Nat}
    (stepped : server.step? services (.abandon task) = some (next, events)) :
    Heeds server action next := by
  obtain ⟨-, ⟨kind, _, rfl⟩ | ⟨hold, _, _, _, rfl⟩⟩ := step?_abandon_cases stepped
  · exact heeds_setPhase (by simp [TaskPhase.isCalled])
  · exact (heeds_setPhase (by simp [TaskPhase.isCalled])).with_lock none

theorem heeds_advance (stepped : server.step? services .advance = some (next, events)) :
    Heeds server action next := by
  obtain ⟨hold, _, ⟨result, _, released⟩ | ⟨move, _, moves, applied⟩⟩ := step?_advance_cases stepped
  · obtain ⟨rfl, _⟩ := Prod.ext_iff.mp released
    exact (heeds_setPhase (by simp [TaskPhase.isCalled])).with_lock none
  · obtain ⟨rfl, _⟩ := Prod.ext_iff.mp applied
    have moved : Heeds server action { server with lifecycle := move.lifecycle } :=
      .of_lifecycle fun pending => .inl (moves.pending pending)
    refine (moved.with_tasks fun {run phase} member => ?_).with_lock _
    -- A worker that comes to life has not been called upon.
    unfold Stage.recruits at member
    split at member
    · cases List.mem_singleton.mp member
      rfl
    · cases member

/-! ## Requests and connections -/

theorem heeds_setConnection {index : Nat} {former connection : ServedConnection}
    (found : server.connection? index = some former) (same : connection.run = former.run) :
    Heeds server action (server.setConnection index connection) where
  connections {other present} here := by
    obtain ⟨place, _⟩ := Option.filter_eq_some_iff.mp found
    rw [setConnection, List.getElem?_set]
    split
    · next equal =>
      subst equal
      obtain ⟨within, _⟩ := List.getElem?_eq_some_iff.mp here
      obtain rfl := Option.some.inj (place.symm.trans here)
      exact ⟨connection, if_pos within, same⟩
    · exact ⟨present, here, rfl⟩
  pending := .inl
  workers found called := .inl ⟨_, found, called⟩

theorem heeds_serve {index : Nat} (served : server.serve? services index = some next) :
    Heeds server action next := by
  obtain ⟨connection, session, shared, found, _, rfl⟩ := serve?_cases served
  have same : { connection with session }.run = connection.run := rfl
  have heeds : Heeds server action _ := heeds_setConnection found same
  exact ⟨heeds.connections, heeds.pending, heeds.workers⟩

theorem heeds_changeConnection {index : Nat} {may : InterleavedConnection → Bool}
    {change : ServedConnection → ServedConnection}
    (changed : server.changeConnection? index may change = some next)
    (same : ∀ entry, (change entry).run = entry.run) : Heeds server action next := by
  obtain ⟨connection, found, _, rfl⟩ := changeConnection?_cases changed
  exact heeds_setConnection found (same connection)

theorem heeds_accept {run : Nat} {frames : List Bytes}
    (accepted : server.accept? run frames = some next) : Heeds server action next := by
  obtain ⟨_, rfl⟩ := accept?_cases accepted
  exact ⟨fun {index connection} found => ⟨connection, getElem?_append_of_found found, rfl⟩, .inl,
    fun found called => .inl ⟨_, found, called⟩⟩

theorem heeds_requestStop {index : Nat} (requested : server.requestStop? index = some next) :
    Heeds server (.requestStop index) next := by
  obtain ⟨connection, found, _, rfl⟩ := requestStop?_cases requested
  obtain ⟨here, _⟩ := Option.filter_eq_some_iff.mp found
  exact .of_lifecycle fun pending =>
    (Lifecycle.pending_of_requestStop pending).imp_right fun same =>
      ⟨index, connection, rfl, here, same⟩

/-! ## Requests in a run -/

/-- Every action heeds the requests to stop. -/
theorem heeds_of_step? (stepped : server.step? services action = some (next, events)) :
    Heeds server action next := by
  have unchanged : Heeds server action server := .of_lifecycle .inl
  cases action with
  | callStart | callStop => cases stepped; exact unchanged.with_tasks (by simp)
  | lock task =>
    obtain ⟨_, kind, queued, rfl, -⟩ := step?_lock_iff.mp stepped
    refine (heeds_setPhase fun _ {own former} present => .inl ?_).with_lock _
    cases queued.symm.trans present
    rfl
  | advance => exact heeds_advance stepped
  | bind outcome =>
    obtain ⟨hold, _, _, _, rfl⟩ := step?_bind_cases stepped
    exact unchanged.with_lock _
  | abandon task => exact heeds_abandon stepped
  | hear task | forsake task => exact heeds_hear (made_of_step stepped).1
  | ignore task =>
    obtain ⟨_, _, rfl⟩ := ignore?_cases (made_of_step stepped).1
    exact heeds_setPhase (by simp [TaskPhase.isCalled])
  | accept run frames => exact heeds_accept (made_of_step stepped).1
  | closeListener run =>
    obtain ⟨rfl, -⟩ := step?_closeListener_cases stepped
    exact .of_lifecycle fun pending => .inl (Lifecycle.pending_of_updateRun pending fun _ => id)
  | serve connection => exact heeds_serve (made_of_step stepped).1
  | misread connection error => exact heeds_changeConnection (made_of_step stepped).1 fun _ => rfl
  | leave connection => exact heeds_changeConnection (made_of_step stepped).1 fun _ => rfl
  | requestStop connection => exact heeds_requestStop (made_of_step stepped).1

/-- Whether a connection of a run has asked to stop. -/
def Asked (server : SharedServer) (actions : List ServerAction) (run : Nat) : Prop :=
  ∃ action ∈ actions, server.Asks action run

/-- Every request, pending or called for, comes from a connection of its run. -/
structure Requested (actions : List ServerAction) (server : SharedServer) : Prop where
  pending : ∀ {run : Nat}, server.lifecycle.isStopPending run = true → server.Asked actions run
  workers : ∀ {task run : Nat} {phase : TaskPhase}, server.tasks[task]? = some ⟨.worker run, phase⟩ →
    phase.isCalled = true → server.Asked actions run

theorem Requested.step {actions : List ServerAction} (requested : Requested actions server)
    (heeds : Heeds server action next) : Requested (actions ++ [action]) next := by
  have asks {action : ServerAction} {run : Nat} (asks : server.Asks action run) :
      next.Asks action run := by
    obtain ⟨index, connection, rfl, found, rfl⟩ := asks
    obtain ⟨later, present, same⟩ := heeds.connections found
    exact ⟨index, later, rfl, present, same⟩
  have pending {run : Nat} (pending : server.lifecycle.isStopPending run = true) :
      next.Asked (actions ++ [action]) run := by
    obtain ⟨former, member, asked⟩ := requested.pending pending
    exact ⟨former, List.mem_append_left _ member, asks asked⟩
  refine ⟨fun {run} present => ?_, fun {task run phase} found called => ?_⟩
  · rcases heeds.pending present with before | now
    · exact pending before
    · exact ⟨action, List.mem_append_right _ (List.mem_singleton_self _), asks now⟩
  · rcases heeds.workers found called with ⟨former, before, called⟩ | before
    · obtain ⟨earlier, member, asked⟩ := requested.workers before called
      exact ⟨earlier, List.mem_append_left _ member, asks asked⟩
    · exact pending before

theorem requested_of_run {store : Store} {actions : List ServerAction}
    (ran : (initial store).run? services actions = some (server, events)) :
    Requested actions server :=
  run_induction (motive := fun actions server _ => Requested actions server)
    ⟨by simp [initial, Lifecycle.initial, Lifecycle.isStopPending], by simp [initial]⟩
    (fun requested stepped => requested.step (heeds_of_step? stepped)) ran

end SharedServer

/-! ## The worker of a run -/

/-- A worker under the lock stands back, or ends its own run. -/
theorem Stage.Since.of_worker {found now : Lifecycle} {stage : Stage} {run : Nat}
    (since : stage.Since found now (.worker run)) :
    (stage = .entered ∨ stage = .leaving .overtaken ∧ found.current ≠ some run) ∧ now.Same found ∨
      ((∃ step, stage = .stopping run step) ∨ stage = .leaving (.stopped (.ok ()))) ∧
        found.current = some run := by
  cases stage with
  | entered => exact .inl ⟨.inl rfl, since⟩
  | starting stage => cases since.1
  | stopping other step =>
    obtain ⟨stops, current⟩ := since
    obtain rfl := TaskKind.stops_worker_iff.mp stops
    exact .inr ⟨.inl ⟨step, rfl⟩, current⟩
  | leaving result =>
    rcases result with (error | address) | (error | _) | _ | _ | _
    · cases since.1
    · cases since.1
    · cases since.1
    · obtain ⟨other, stops, current⟩ := since
      obtain rfl := TaskKind.stops_worker_iff.mp stops
      exact .inr ⟨.inr rfl, current⟩
    · obtain ⟨same, other, ⟨⟩, current⟩ := since
      exact .inl ⟨.inr ⟨rfl, current⟩, same⟩
    · cases since
    · cases since

/-- A worker under the lock cancels no run but its own. -/
theorem Stage.Since.spares {found now : Lifecycle} {stage : Stage} {run other : Nat}
    (since : stage.Since found now (.worker run)) (fits : stage.Fits now) (different : other ≠ run) :
    now.current = some other ∨ stage.uncancelled? = some other ↔ found.current = some other := by
  rcases since.of_worker with ⟨rfl | ⟨rfl, _⟩, same⟩ | ⟨⟨step, rfl⟩ | rfl, current⟩
  · simp [same.current, Stage.uncancelled?]
  · simp [same.current, Stage.uncancelled?]
  · cases step <;> simp [fits.1, current, Stage.uncancelled?, different.symm]
  · simp [fits.1, current, Stage.uncancelled?, different.symm]

namespace Lifecycle

variable {lifecycle : Lifecycle} {run : Nat} {stage : Stage} {move : Move}

/-- The worker of a run that has ended changes nothing with its moves. -/
theorem Moves.of_overtaken (moves : lifecycle.Moves (.worker run) stage move)
    (agrees : lifecycle.Agrees (some stage)) (ended : lifecycle.current ≠ some run)
    (stands : stage = .entered ∨ stage = .leaving .overtaken) : move.lifecycle = lifecycle := by
  rcases stands with rfl | rfl
  · cases moves with
    | stopRefused idle stops => rfl
    | stopBegun running stops =>
      obtain rfl := TaskKind.stops_worker_iff.mp (agrees.stops running stops)
      exact absurd running ended
    | overtaken cancelled => rfl
  · cases moves

end Lifecycle

namespace SharedServer

variable {services : Services} {store : Store} {before during : List ServerAction}
  {locked held : SharedServer} {earlier later : List ServerEvent} {task run : Nat} {hold : Hold}

/-- The worker of a run was called upon by a connection of that run. It cancels no other run, stops the
server only if it found its own run under way, and leaves everything as it found it if not. -/
theorem worker_stops_own_run
    (ran : (initial store).run? services before = some (locked, earlier))
    (called : locked.tasks[task]? = some ⟨.worker run, .queued⟩)
    (went : locked.run? services (.lock task :: during) = some (held, later))
    (holds : held.lock = some hold) (own : hold.task = task) :
    locked.Asked before run ∧
    (∀ other ≠ run, held.lifecycle.isCancelled other = locked.lifecycle.isCancelled other) ∧
    (∀ other stage, hold.stage = .stopping other stage → other = run ∧
      locked.lifecycle.current = some run ∧ locked.lifecycle.isCancelled run = false) ∧
    (locked.lifecycle.current ≠ some run → held.lifecycle.Same locked.lifecycle ∧
      ∀ next events, held.step? services .advance = some (next, events) →
        next.lifecycle = held.lifecycle) ∧
    ∀ result, hold.stage = .leaving result →
      result = .stopped (.ok ()) ∧ locked.lifecycle.current = some run ∨
      result = .overtaken ∧ locked.lifecycle.current ≠ some run := by
  obtain ⟨free, followed⟩ := followed_of_run ran called went
  have since := followed.since holds own
  have found := (coherent_of_run ran).agrees
  rw [stage?_of_free free] at found
  have agrees := followed.coherent.agrees
  rw [stage?_of_held holds] at agrees
  refine ⟨(requested_of_run ran).workers called rfl, fun other different => ?_,
    fun other stage stopping => ?_, fun ended => ?_, fun result leaving => ?_⟩
  · have spared : held.lifecycle.isCancelled other = false ↔
        locked.lifecycle.isCancelled other = false := by
      rw [agrees.isCancelled_eq_false_iff, found.isCancelled_eq_false_iff]
      simpa using since.spares (agrees.fits rfl) different
    exact Bool.eq_iff_iff.mpr (by simpa using not_congr spared)
  · rw [stopping] at since
    obtain ⟨stops, current⟩ := since
    obtain rfl := TaskKind.stops_worker_iff.mp stops
    exact ⟨rfl, current, found.isCancelled_eq_false_iff.mpr (.inl current)⟩
  · rcases since.of_worker with ⟨stands, same⟩ | ⟨_, current⟩
    · refine ⟨same, fun next events stepped => ?_⟩
      obtain ⟨_, present, advanced⟩ := step?_advance_cases stepped
      obtain rfl := Option.some.inj (holds.symm.trans present)
      rcases advanced with ⟨_, _, released⟩ | ⟨move, _, moves, applied⟩
      · obtain ⟨rfl, _⟩ := Prod.ext_iff.mp released
        rfl
      · rw [followed.kind_eq holds own] at moves
        obtain ⟨rfl, _⟩ := Prod.ext_iff.mp applied
        exact moves.of_overtaken agrees (same.current ▸ ended) (stands.imp_right And.left)
    · exact absurd current ended
  · rw [leaving] at since
    rcases since.of_worker with ⟨entered | ⟨same, ended⟩, _⟩ | ⟨⟨_, stopping⟩ | same, current⟩
    · cases entered
    · cases same
      exact .inr ⟨rfl, ended⟩
    · cases stopping
    · cases same
      exact .inl ⟨rfl, current⟩

/-- The worker of the first run is called upon, and gets the lock when the server has been stopped and
started again. -/
theorem worker_stops_own_run_restarted :
    let address : SocketAddress := ⟨.unspecified, 80, 0⟩
    let services : Services := ⟨fun _ _ => .ok (.new "a"), fun _ _ _ => .error ⟨.execution, "idle"⟩,
      fun _ _ _ => false⟩
    let frame : Bytes := [0x43, 0x4D, 0x44, 0x20, 0x73, 0x74, 0x6F, 0x70]
    let before := ServerAction.startAlone 0 (.ok address) ++
      [.accept 0 [frame], .serve 0, .serve 0, .requestStop 0, .leave 0, .hear 1] ++
      ServerAction.stopAlone 2 0 ++ ServerAction.startAlone 3 (.ok address)
    ∃ locked earlier held later,
      (initial .empty).run? services before = some (locked, earlier) ∧
      locked.tasks[1]? = some ⟨.worker 0, .queued⟩ ∧
      locked.run? services [.lock 1, .advance] = some (held, later) ∧
      held.lock = some ⟨1, .worker 0, .leaving .overtaken⟩ ∧
      locked.lifecycle.current = some 1 ∧
      locked.Asked before 0 ∧ held.lifecycle.Same locked.lifecycle ∧
      held.lifecycle.isCancelled 1 = locked.lifecycle.isCancelled 1 := by
  intro address services frame before
  have scene : ((initial .empty).run? services before).bind (fun ran =>
      (ran.1.run? services [.lock 1, .advance]).map fun went =>
        (ran.1.tasks[1]?, went.1.lock, ran.1.lifecycle.current)) =
      some (some ⟨.worker 0, .queued⟩, some ⟨1, .worker 0, .leaving .overtaken⟩, some 1) := by
    decide +kernel
  obtain ⟨⟨locked, earlier⟩, ran, scene⟩ := Option.bind_eq_some_iff.mp scene
  obtain ⟨⟨held, later⟩, went, scene⟩ := Option.map_eq_some_iff.mp scene
  simp only [Prod.mk.injEq] at scene
  obtain ⟨called, holds, current⟩ := scene
  obtain ⟨asked, spared, _, overtaken, _⟩ := worker_stops_own_run ran called went holds rfl
  exact ⟨locked, earlier, held, later, ran, called, went, holds, current, asked,
    (overtaken (by simp [current])).1, spared 1 (by decide)⟩

end SharedServer

end TestDaemon
