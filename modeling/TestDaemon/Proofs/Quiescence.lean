import TestDaemon.Proofs.ServerCoherence
import TestDaemon.Proofs.Uncontended

/-! # Quiescence

A stop waits for the listener of its run and then for the connections, so that nothing of a run is alive
once the server has been stopped, unless a stop was given up. Until the next run begins nothing can touch
the store. Starts and stops never do.
-/

namespace TestDaemon

/-- Whether an action is one of a connection. -/
def ServerAction.isOfConnection : ServerAction → Bool
  | accept .. | serve _ | misread .. | leave _ => true
  | _ => false

/-- Whether a run neither begins nor ends at a stage. -/
def Stage.isIdle : Stage → Bool
  | entered | starting .binding | starting (.refused _) | leaving _ => true
  | _ => false

/-- Between two runs a move leaves the runs as they are. -/
theorem Lifecycle.Moves.of_isIdle {lifecycle : Lifecycle} {kind : TaskKind} {stage : Stage} {move : Move}
    (moves : lifecycle.Moves kind stage move) (idle : lifecycle.current = none)
    (between : stage.isIdle = true) : move.lifecycle.current = none ∧
      (∀ run, move.lifecycle.isListening run = lifecycle.isListening run) ∧
      move.stage.isIdle = true := by
  cases moves with
  | startRefused running => cases idle.symm.trans running
  | stopBegun running _ => cases idle.symm.trans running
  | startBegun | stopRefused | overtaken | refused => exact ⟨idle, fun _ => rfl, rfl⟩
  | bound | begun | staffed | cancelling | closing | completing | draining | ending => cases between

namespace SharedServer

variable {services : Services} {server next later : SharedServer} {events more : List ServerEvent}
  {action : ServerAction} {actions during : List ServerAction}

/-! ## The store -/

/-- Tasks and requests leave the connections, and what they share, as they are. -/
theorem frame_of_step? (stepped : server.step? services action = some (next, events))
    (apart : action.isOfConnection = false) :
    next.shared = server.shared ∧ next.connections = server.connections := by
  cases action with
  | accept | serve | misread | leave => cases apart
  | callStart | callStop => cases stepped; exact ⟨rfl, rfl⟩
  | lock task =>
    obtain ⟨_, kind, _, rfl, -⟩ := step?_lock_iff.mp stepped
    exact ⟨rfl, rfl⟩
  | advance =>
    obtain ⟨hold, _, ⟨result, _, ⟨⟩⟩ | ⟨move, _, _, ⟨⟩⟩⟩ := step?_advance_cases stepped
    · exact ⟨rfl, rfl⟩
    · exact ⟨rfl, rfl⟩
  | bind outcome =>
    obtain ⟨hold, _, _, _, rfl⟩ := step?_bind_cases stepped
    exact ⟨rfl, rfl⟩
  | abandon task =>
    obtain ⟨-, ⟨kind, _, rfl⟩ | ⟨hold, _, _, _, rfl⟩⟩ := step?_abandon_cases stepped
    · exact ⟨rfl, rfl⟩
    · exact ⟨rfl, rfl⟩
  | hear task | forsake task =>
    obtain ⟨run, _, _, rfl⟩ := hear?_cases (made_of_step stepped).1
    exact ⟨rfl, rfl⟩
  | ignore task =>
    obtain ⟨run, _, rfl⟩ := ignore?_cases (made_of_step stepped).1
    exact ⟨rfl, rfl⟩
  | closeListener run =>
    obtain ⟨rfl, -⟩ := step?_closeListener_cases stepped
    exact ⟨rfl, rfl⟩
  | requestStop connection =>
    obtain ⟨_, _, _, rfl⟩ := requestStop?_cases (made_of_step stepped).1
    exact ⟨rfl, rfl⟩

/-- Only connections that are served change what the connections share. -/
theorem shared_of_step? (stepped : server.step? services action = some (next, events))
    (idle : ∀ connection, action ≠ .serve connection) : next.shared = server.shared := by
  cases action with
  | serve connection => exact absurd rfl (idle connection)
  | accept run frames =>
    obtain ⟨_, rfl⟩ := accept?_cases (made_of_step stepped).1
    rfl
  | misread connection error | leave connection =>
    obtain ⟨_, _, _, rfl⟩ := changeConnection?_cases (made_of_step stepped).1
    rfl
  | _ => exact (frame_of_step? stepped rfl).1

theorem shared_of_run (ran : server.run? services during = some (later, more))
    (idle : ∀ connection, .serve connection ∉ during) : later.shared = server.shared := by
  refine run_induction (motive := fun actions after _ =>
    (∀ connection, .serve connection ∉ actions) → after.shared = server.shared)
    (fun _ => rfl) ?_ ran idle
  intro actions middle events action next noticed kept stepped idle
  have before := kept fun connection member => idle connection (List.mem_append_left _ member)
  refine (shared_of_step? stepped ?_).trans before
  rintro connection rfl
  exact idle connection (List.mem_append_right _ (List.mem_singleton_self _))

/-! ## Between two runs -/

/-- Nothing of a run is alive, and none is about to begin. -/
structure Quiet (server : SharedServer) : Prop where
  idle : server.lifecycle.current = none
  listener : ∀ run, server.lifecycle.isListening run = false
  connections : ∀ run, server.isConnected run = false
  stage : ∀ stage, server.stage? = some stage → stage.isIdle = true

/-- A free lock and no run under way leave nothing alive while callers are patient. -/
theorem Coherent.quiet (coherent : server.Coherent) (attended : server.Attended)
    (free : server.lock = none) (idle : server.lifecycle.current = none) : server.Quiet where
  idle := idle
  listener run := by
    refine Bool.eq_false_iff.mpr fun listening => ?_
    rcases coherent.listener listening with attends | deserted
    · cases idle.symm.trans ((attends_of_free free).mp attends)
    · exact attended.not_deserted deserted
  connections run := by
    refine Bool.eq_false_iff.mpr fun connected => ?_
    rcases coherent.connections connected with attends | deserted
    · cases idle.symm.trans ((attends_of_free free).mp attends)
    · exact attended.not_deserted deserted
  stage stage staged := by
    rw [stage?_of_free free] at staged
    cases staged

theorem Quiet.outside (quiet : server.Quiet) (outside : Outside server next) : next.Quiet where
  idle := outside.lifecycle.current.trans quiet.idle
  listener run := by
    refine Bool.eq_false_iff.mpr fun listening => ?_
    obtain ⟨entry, found, listens⟩ := (Lifecycle.isListening_iff ..).mp listening
    obtain ⟨former, here, _, _, listened⟩ := outside.lifecycle.runs found
    exact Bool.false_ne_true ((quiet.listener run).symm.trans
      ((Lifecycle.isListening_iff ..).mpr ⟨former, here, listened listens⟩))
  connections run := by
    refine Bool.eq_false_iff.mpr fun connected => ?_
    obtain ⟨connection, member, alive, _⟩ := isConnected_iff.mp connected
    rcases outside.connections connection member alive with connected | listening
    · exact Bool.false_ne_true ((quiet.connections _).symm.trans connected)
    · exact Bool.false_ne_true ((quiet.listener _).symm.trans listening)
  stage stage staged := quiet.stage stage (outside.stage? ▸ staged)

theorem Quiet.step (quiet : server.Quiet)
    (stepped : server.step? services action = some (next, events))
    (unbound : ∀ address, action ≠ .bind (.ok address)) : next.Quiet := by
  cases action with
  | lock task =>
    obtain ⟨_, kind, _, rfl, -⟩ := step?_lock_iff.mp stepped
    exact ⟨quiet.idle, quiet.listener, quiet.connections, by rintro _ ⟨⟩; rfl⟩
  | advance =>
    obtain ⟨hold, held, ⟨result, _, ⟨⟩⟩ | ⟨move, _, moves, ⟨⟩⟩⟩ := step?_advance_cases stepped
    · exact ⟨quiet.idle, quiet.listener, quiet.connections, by rintro _ ⟨⟩⟩
    · obtain ⟨idle, same, stage⟩ := moves.of_isIdle quiet.idle (quiet.stage _ (stage?_of_held held))
      exact ⟨idle, fun run => (same run).trans (quiet.listener run), quiet.connections,
        by rintro _ ⟨⟩; exact stage⟩
  | bind outcome =>
    obtain ⟨hold, _, _, _, rfl⟩ := step?_bind_cases stepped
    cases outcome with
    | error error => exact ⟨quiet.idle, quiet.listener, quiet.connections, by rintro _ ⟨⟩; rfl⟩
    | ok address => exact absurd rfl (unbound address)
  | abandon task =>
    obtain ⟨-, ⟨kind, queued, rfl⟩ | ⟨hold, _, _, _, rfl⟩⟩ := step?_abandon_cases stepped
    · exact quiet.outside (outside_setPhase queued rfl rfl)
    · exact ⟨quiet.idle, quiet.listener, quiet.connections, by rintro _ ⟨⟩⟩
  | _ => exact quiet.outside (outside_of_step? rfl stepped).1

/-- While nothing of a run is alive no connection takes a step. -/
theorem Quiet.apart (quiet : server.Quiet)
    (stepped : server.step? services action = some (next, events)) :
    action.isOfConnection = false := by
  have dead {index : Nat} {connection : ServedConnection} :
      server.connection? index ≠ some connection := by
    intro found
    obtain ⟨place, alive⟩ := Option.filter_eq_some_iff.mp found
    exact Bool.false_ne_true ((quiet.connections _).symm.trans
      (isConnected_of_mem (List.mem_of_getElem? place) alive))
  cases action with
  | accept run frames =>
    obtain ⟨listening, _⟩ := accept?_cases (made_of_step stepped).1
    exact absurd ((quiet.listener run).symm.trans listening) Bool.false_ne_true
  | serve index =>
    obtain ⟨connection, _, _, found, _⟩ := serve?_cases (made_of_step stepped).1
    exact absurd found dead
  | misread index error | leave index =>
    obtain ⟨connection, found, _⟩ := changeConnection?_cases (made_of_step stepped).1
    exact absurd found dead
  | _ => rfl

theorem Quiet.run (quiet : server.Quiet) (ran : server.run? services during = some (later, more))
    (unbound : ∀ address, .bind (.ok address) ∉ during) :
    later.shared = server.shared ∧ later.connections = server.connections := by
  refine (run_induction (motive := fun actions after _ =>
    (∀ address, .bind (.ok address) ∉ actions) → after.Quiet ∧
      after.shared = server.shared ∧ after.connections = server.connections)
    (fun _ => ⟨quiet, rfl, rfl⟩) ?_ ran unbound).2
  intro actions middle events action next noticed kept stepped unbound
  obtain ⟨quiet, shared, connections⟩ := kept fun address member =>
    unbound address (List.mem_append_left _ member)
  obtain ⟨same, others⟩ := frame_of_step? stepped (quiet.apart stepped)
  refine ⟨quiet.step stepped ?_, same.trans shared, others.trans connections⟩
  rintro address rfl
  exact unbound address (List.mem_append_right _ (List.mem_singleton_self _))

/-- While nobody gives up, a server that has been stopped has no listener and no connection alive. Until a
listener is bound for the next run, whoever else starts or stops the server, no connection does anything to
the store or writes a reply. No start and no stop changes the store at any time. -/
theorem quiescent_of_run {store : Store}
    (ran : (initial store).run? services actions = some (server, events))
    (patient : ∀ task, .abandon task ∉ actions) :
    (server.lock = none → server.lifecycle.current = none →
      (∀ run, server.lifecycle.isListening run = false ∧ server.isConnected run = false) ∧
      ∀ during later more, server.run? services during = some (later, more) →
        (∀ address, .bind (.ok address) ∉ during) →
          later.shared = server.shared ∧ later.connections = server.connections) ∧
    ∀ during later more, server.run? services during = some (later, more) →
      (∀ connection, .serve connection ∉ during) → later.shared = server.shared := by
  refine ⟨fun free idle => ?_, fun during later more went idle => shared_of_run went idle⟩
  have quiet := (coherent_of_run ran).quiet (attended_of_run ran patient) free idle
  exact ⟨fun run => ⟨quiet.listener run, quiet.connections run⟩,
    fun during later more went unbound => quiet.run went unbound⟩

/-- A connection deploys and is waited for by a stop. The deployment survives a start that cannot listen. -/
theorem quiescent_of_run_deployed :
    let address : SocketAddress := ⟨.unspecified, 80, 0⟩
    let services : Services := ⟨fun _ _ => .ok (.new "a"), fun _ _ _ => .error ⟨.execution, "idle"⟩,
      fun _ _ _ => false⟩
    let frame : Bytes := [0x44, 0x50, 0x4C, 0x20, 0x61]
    let actions := ServerAction.startAlone 0 (.ok address) ++
      [.accept 0 [frame], .callStop, .lock 2, .advance, .serve 0, .advance, .serve 0, .closeListener 0,
        .advance, .serve 0, .advance, .serve 0, .leave 0, .advance, .advance, .advance]
    let during := ServerAction.startAlone 3 (.error .notRunning)
    ∃ server events later more,
      (initial .empty).run? services actions = some (server, events) ∧
      server.lock = none ∧ server.lifecycle.current = none ∧
      server.run? services during = some (later, more) ∧
      (∀ run, server.lifecycle.isListening run = false ∧ server.isConnected run = false) ∧
      later.shared.store.contains "a" = true := by
  intro address services frame actions during
  have scene : ((initial .empty).run? services actions).bind (fun ran =>
      (ran.1.run? services during).map fun went =>
        (ran.1.lock, ran.1.lifecycle.current, ran.1.shared.store.contains "a")) =
      some (none, none, true) := by
    decide +kernel
  obtain ⟨⟨server, events⟩, ran, scene⟩ := Option.bind_eq_some_iff.mp scene
  obtain ⟨⟨later, more⟩, went, scene⟩ := Option.map_eq_some_iff.mp scene
  simp only [Prod.mk.injEq] at scene
  obtain ⟨free, idle, stored⟩ := scene
  have patient : ∀ task, .abandon task ∉ actions := by simp [actions, ServerAction.startAlone]
  have unbound : ∀ address, .bind (.ok address) ∉ during := by simp [during, ServerAction.startAlone]
  obtain ⟨dead, kept⟩ := (quiescent_of_run ran patient).1 free idle
  exact ⟨server, events, later, more, ran, free, idle, went, dead,
    (kept during later more went unbound).1 ▸ stored⟩

end SharedServer

end TestDaemon
