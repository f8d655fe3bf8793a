import TestDaemon.Proofs.LockedTask
import TestDaemon.Proofs.Uncontended

/-! # Calls that were given up

A caller that gives up under the lock leaves everything as it stands there. The published state then tells
that the server starts or stops, although nobody works on that any more, until another call publishes; and
what a stop was waiting for may outlive the start of the next run. Nothing else goes wrong.
-/

namespace TestDaemon

/-- The task that publishes with an event. -/
def ServerEvent.publisher? : ServerEvent → Option Nat
  | published task _ => some task
  | _ => none

/-- The task that published last. -/
def ServerEvent.lastPublisher? (events : List ServerEvent) : Option Nat :=
  (events.filterMap publisher?).getLast?

/-- Whether a start or a stop is under way at a stage. -/
def Stage.isBusy : Stage → Bool
  | starting _ | stopping .. => true
  | _ => false

/-- Events that publish nothing leave the last publisher. -/
theorem ServerEvent.lastPublisher?_append {events more : List ServerEvent}
    (silent : ∀ event ∈ more, event.publisher? = none) :
    lastPublisher? (events ++ more) = lastPublisher? events := by
  rw [lastPublisher?, List.filterMap_append, List.filterMap_eq_nil_iff.mpr silent, List.append_nil,
    lastPublisher?]

theorem ServerEvent.publisher?_of_isQuiet {event : ServerEvent} (quiet : event.isQuiet = true) :
    event.publisher? = none := by
  cases event with
  | published => cases quiet
  | returned => rfl

namespace Lifecycle

variable {lifecycle : Lifecycle}

/-- A published state that tells whether a run is under way. -/
def Settled (lifecycle : Lifecycle) : Prop :=
  match lifecycle.current with
  | none => lifecycle.published = .stopped
  | some run => ∃ entry, lifecycle.runs[run]? = some entry ∧ lifecycle.published = .running entry.address

/-- What is published where no run is under way is the only thing that can be unsettled. -/
theorem Agrees.settled_iff {stage : Option Stage} (agrees : lifecycle.Agrees stage) :
    lifecycle.Settled ↔ (lifecycle.current = none → lifecycle.published = .stopped) := by
  unfold Settled
  split
  · next absent => simp [absent]
  · next present => simpa [present] using agrees.current present

/-- A move that publishes nothing leaves what is published, and a last move publishes the truth. -/
theorem Moves.accounts {kind : TaskKind} {stage : Stage} {move : Move}
    (moves : lifecycle.Moves kind stage move) :
    (move.publication = none ∧ move.stage.isBusy = stage.isBusy ∧
        move.lifecycle.current = lifecycle.current ∧ move.lifecycle.published = lifecycle.published) ∨
      ∃ state, move.publication = some state ∧
        (move.stage.isBusy = false → move.lifecycle.current = none →
          move.lifecycle.published = .stopped) := by
  cases moves with
  | startBegun | stopBegun => exact .inr ⟨_, rfl, nofun⟩
  | refused | ending => exact .inr ⟨_, rfl, fun _ _ => rfl⟩
  | staffed => exact .inr ⟨_, rfl, fun _ => nofun⟩
  | _ => exact .inl ⟨rfl, rfl, rfl, rfl⟩

end Lifecycle

namespace SharedServer

variable {services : Services} {server next : SharedServer} {events more : List ServerEvent}
  {patient : Bool}

theorem apply_silent {hold : Hold} {move : Move} (silent : move.publication = none) :
    (server.apply hold move).2 = [] := by
  rw [apply, silent]
  rfl

theorem apply_telling {hold : Hold} {move : Move} {state : ServerState}
    (told : move.publication = some state) :
    (server.apply hold move).2 = [.published hold.task state] := by
  rw [apply, told]
  rfl

/-- Whether the task that published last was given up behind that. -/
def Stranded (server : SharedServer) (events : List ServerEvent) : Prop :=
  ∃ task stage, ServerEvent.lastPublisher? events = some task ∧ server.GivenUp task stage

/-- Who published what is published. -/
structure Accounts (server : SharedServer) (events : List ServerEvent) : Prop where
  coherent : server.Coherent
  past : ∀ {task : Nat}, ServerEvent.lastPublisher? events = some task →
    ∃ entry, server.tasks[task]? = some entry ∧ entry.phase.isWaiting = false
  busy : ∀ {hold : Hold}, server.lock = some hold → hold.stage.isBusy = true →
    ServerEvent.lastPublisher? events = some hold.task
  rests : server.stage?.any Stage.isBusy = false →
    ((server.lifecycle.current = none → server.lifecycle.published = .stopped) ↔
      ¬ server.Stranded events)

/-- Where nothing is published and nobody leaves the lock, the publisher stays what it was. -/
theorem Accounts.keep (accounts : server.Accounts events) (coherent : next.Coherent)
    (last : ServerEvent.lastPublisher? (events ++ more) = ServerEvent.lastPublisher? events)
    (tasks : ∀ {task : Nat} {entry : Task}, server.tasks[task]? = some entry →
      entry.phase.isWaiting = false → next.tasks[task]? = some entry)
    (busy : ∀ {hold : Hold}, next.lock = some hold → hold.stage.isBusy = true →
      ∃ former, server.lock = some former ∧ former.stage.isBusy = true ∧ former.task = hold.task)
    (rests : next.stage?.any Stage.isBusy = false → server.stage?.any Stage.isBusy = false ∧
      next.lifecycle.current = server.lifecycle.current ∧
      next.lifecycle.published = server.lifecycle.published) :
    next.Accounts (events ++ more) where
  coherent := coherent
  past {task} publisher := by
    obtain ⟨entry, found, settled⟩ := accounts.past (last ▸ publisher)
    exact ⟨entry, tasks found settled, settled⟩
  busy {hold} held working := by
    obtain ⟨former, before, worked, own⟩ := busy held working
    rw [last, accounts.busy before worked, own]
  rests idle := by
    obtain ⟨idle, current, published⟩ := rests idle
    rw [current, published, accounts.rests idle, not_iff_not]
    constructor
    all_goals
      rintro ⟨task, stage, publisher, kind, given⟩
    · exact ⟨task, stage, last ▸ publisher, kind, tasks given rfl⟩
    · obtain ⟨entry, found, settled⟩ := accounts.past (last ▸ publisher)
      obtain rfl := Option.some.inj ((tasks found settled).symm.trans given)
      exact ⟨task, stage, last ▸ publisher, kind, found⟩

theorem Accounts.moved (accounts : server.Accounts events) {hold : Hold} {move : Move}
    (held : server.lock = some hold) (ready : server.isReady hold.stage = true)
    (moves : server.lifecycle.Moves hold.kind hold.stage move) :
    (server.apply hold move).1.Accounts (events ++ (server.apply hold move).2) := by
  have coherent := accounts.coherent.moved held ready moves
  have own := accounts.coherent.held held
  rcases moves.accounts with ⟨silent, stage, current, published⟩ | ⟨state, told, truth⟩
  · refine accounts.keep coherent (by rw [apply_silent silent, List.append_nil])
      (fun found _ => getElem?_apply found) ?_ ?_
    · rintro _ ⟨⟩ working
      exact ⟨hold, held, stage ▸ working, rfl⟩
    · intro idle
      rw [stage?_of_held held]
      exact ⟨stage.symm.trans idle, current, published⟩
  · have last : ServerEvent.lastPublisher? (events ++ (server.apply hold move).2) = some hold.task := by
      rw [apply_telling told, ServerEvent.lastPublisher?, List.filterMap_append]
      exact List.getLast?_concat
    refine ⟨coherent, fun publisher => ?_, fun {other} held _ => ?_, fun idle => ?_⟩
    · obtain rfl := Option.some.inj (last.symm.trans publisher)
      exact ⟨_, getElem?_apply own, rfl⟩
    · cases held
      exact last
    · -- The publisher still has the lock.
      refine iff_of_true (truth idle) ?_
      rintro ⟨task, stage, publisher, kind, given⟩
      obtain rfl := Option.some.inj (last.symm.trans publisher)
      cases (getElem?_apply own).symm.trans given

theorem Accounts.released (accounts : server.Accounts events) {hold : Hold} {result : TaskResult}
    (held : server.lock = some hold) (leaving : hold.stage = .leaving result) :
    (server.release hold result).1.Accounts (events ++ (server.release hold result).2) := by
  have coherent := accounts.coherent.released held leaving
  have own := accounts.coherent.held held
  have last : ServerEvent.lastPublisher? (events ++ (server.release hold result).2) =
      ServerEvent.lastPublisher? events :=
    ServerEvent.lastPublisher?_append (by simp [release, ServerEvent.publisher?])
  have idle : server.stage?.any Stage.isBusy = false := by
    rw [stage?_of_held held, leaving]
    rfl
  refine ⟨coherent, fun publisher => ?_, fun held _ => ?_, fun _ => ?_⟩
  · obtain ⟨⟨kind, phase⟩, found, settled⟩ := accounts.past (last ▸ publisher)
    obtain ⟨later, present, settled⟩ := past_setPhase ⟨phase, found, settled⟩ own (.returned result) rfl
    exact ⟨_, present, settled⟩
  · cases held
  · refine (accounts.rests idle).trans (not_iff_not.mpr ?_)
    constructor
    all_goals
      rintro ⟨task, stage, publisher, given⟩
    · exact ⟨task, stage, last ▸ publisher, givenUp_setPhase own (by simp) _ given⟩
    · exact ⟨task, stage, last ▸ publisher, givenUp_of_setPhase (.returned result) (by simp) given⟩

theorem Accounts.deserted (accounts : server.Accounts events) {hold : Hold}
    (held : server.lock = some hold) (awaits : hold.stage.awaits = true) :
    { server.setPhase hold.task (.abandoned (some hold.stage)) with lock := none }.Accounts
      (events ++ []) := by
  have own := accounts.coherent.held held
  have fits := accounts.coherent.agrees.fits (stage?_of_held held)
  rw [List.append_nil]
  have busy : hold.stage.isBusy = true ∧ server.lifecycle.current = none ∧
      server.lifecycle.published ≠ .stopped := by
    rcases Stage.awaits_iff.mp awaits with binding | ⟨run, closing | draining⟩
    · rw [binding] at fits ⊢
      exact ⟨rfl, fits.1, by simp [fits.2]⟩
    · rw [closing] at fits ⊢
      exact ⟨rfl, fits.1, by simp [fits.2.1]⟩
    · rw [draining] at fits ⊢
      exact ⟨rfl, fits.1, by simp [fits.2.1]⟩
  have last := accounts.busy held busy.1
  refine ⟨accounts.coherent.deserted held awaits, fun publisher => ?_, nofun, fun _ => ?_⟩
  · obtain rfl := Option.some.inj (last.symm.trans publisher)
    exact ⟨_, getElem?_setPhase_self own _, rfl⟩
  · refine iff_of_false (fun tells => busy.2.2 (tells busy.2.1)) (not_not_intro ?_)
    exact ⟨_, _, last, _, getElem?_setPhase_self own _⟩

theorem Accounts.step (accounts : server.Accounts events) (step : Step server patient next more) :
    next.Accounts (events ++ more) := by
  have coherent := accounts.coherent.step step
  cases step with
  | outside frame quiet =>
    refine accounts.keep coherent ?_ frame.past (fun {hold} held working => ?_) fun idle => ?_
    · exact ServerEvent.lastPublisher?_append fun event member =>
        ServerEvent.publisher?_of_isQuiet (quiet event member)
    · exact ⟨hold, frame.lock ▸ held, working, rfl⟩
    · exact ⟨frame.stage? ▸ idle, frame.lifecycle.current, frame.lifecycle.published⟩
  | @granted _ task kind free queued =>
    refine accounts.keep coherent (by rw [List.append_nil]) (fun {other entry} found settled => ?_)
      (by rintro _ ⟨⟩ ⟨⟩) fun _ => ⟨by rw [stage?_of_free free]; rfl, rfl, rfl⟩
    have different : task ≠ other := by
      rintro rfl
      obtain rfl := Option.some.inj (queued.symm.trans found)
      cases settled
    exact (getElem?_setPhase_of_ne different _).trans found
  | moved held ready moves => exact accounts.moved held ready moves
  | @bound _ hold outcome held binding =>
    refine accounts.keep coherent (by rw [List.append_nil]) (fun found _ => found) ?_ nofun
    rintro _ ⟨⟩ _
    exact ⟨hold, held, by rw [binding]; rfl, rfl⟩
  | released held leaving => exact accounts.released held leaving
  | deserted held awaits => exact accounts.deserted held awaits

theorem accounts_of_run {store : Store} {actions : List ServerAction}
    (ran : (initial store).run? services actions = some (server, events)) : server.Accounts events :=
  run_induction (motive := fun _ server events => server.Accounts events)
    ⟨coherent_initial store, nofun, nofun, fun _ => iff_of_true (fun _ => rfl) nofun⟩
    (fun accounts stepped => accounts.step (step_of_step? stepped)) ran

/-- What holds whoever gives up. The server publishes that it is running exactly while a run is under way,
with the address of that run. While the lock is free the published state tells whether a run is under way
unless the task that published last was given up. When a start succeeds, nothing of an earlier run is alive
unless a stop of that run was given up. -/
theorem consistent_of_run {store : Store} {actions : List ServerAction}
    (ran : (initial store).run? services actions = some (server, events)) :
    (∀ address, server.lifecycle.published = .running address ↔
      ∃ run entry, server.lifecycle.current = some run ∧
        server.lifecycle.runs[run]? = some entry ∧ entry.address = address) ∧
    (server.lock = none → (server.lifecycle.Settled ↔ ¬ server.Stranded events)) ∧
    ∀ task address next,
      server.step? services .advance = some (next, [.returned task (.started (.ok address))]) →
        ∀ run, next.lifecycle.isListening run = true ∨ next.isConnected run = true →
          next.lifecycle.current = some run ∨ next.Deserted run := by
  have accounts := accounts_of_run ran
  have agrees := accounts.coherent.agrees
  refine ⟨fun address => ⟨fun published => ?_, ?_⟩, fun free => ?_, ?_⟩
  · obtain ⟨run, current⟩ := agrees.running published
    obtain ⟨entry, found, running⟩ := agrees.current current
    exact ⟨run, entry, current, found, ServerState.running.inj (running.symm.trans published)⟩
  · rintro ⟨run, entry, current, found, rfl⟩
    obtain ⟨other, present, published⟩ := agrees.current current
    obtain rfl := Option.some.inj (found.symm.trans present)
    exact published
  · rw [agrees.settled_iff]
    exact accounts.rests (by rw [stage?_of_free free]; rfl)
  · intro task address next returned run alive
    have coherent := accounts.coherent.step (step_of_step? returned)
    have free : next.lock = none := by
      obtain ⟨hold, _, ⟨_, _, ⟨⟩⟩ | ⟨move, _, _, applied⟩⟩ := step?_advance_cases returned
      · rfl
      · cases told : move.publication <;> simp [apply, told] at applied
    rcases alive with listening | connected
    · exact (coherent.listener listening).imp_left (attends_of_free free).mp
    · exact (coherent.connections connected).imp_left (attends_of_free free).mp

/-- A start that is given up while it waits for its listener leaves the server starting. -/
theorem consistent_of_run_starting :
    let services : Services := ⟨fun _ _ => .ok (.new "a"), fun _ _ _ => .error ⟨.execution, "idle"⟩,
      fun _ _ _ => false⟩
    ∃ server events,
      (initial .empty).run? services [.callStart, .lock 0, .advance, .abandon 0] =
        some (server, events) ∧
      server.lock = none ∧ server.lifecycle.published = .starting ∧ server.Stranded events ∧
      ¬ server.lifecycle.Settled := by
  intro services
  have scene : ((initial .empty).run? services [.callStart, .lock 0, .advance, .abandon 0]).map
      (fun ran => (ran.1.lock, ran.1.lifecycle, ServerEvent.lastPublisher? ran.2, ran.1.tasks[0]?)) =
      some (none, ⟨[], none, .starting⟩, some 0,
        some ⟨.start, .abandoned (some (.starting .binding))⟩) := by
    decide +kernel
  obtain ⟨⟨server, events⟩, ran, scene⟩ := Option.map_eq_some_iff.mp scene
  simp only [Prod.mk.injEq] at scene
  obtain ⟨free, lifecycle, publisher, given⟩ := scene
  have stranded : server.Stranded events := ⟨0, _, publisher, .start, given⟩
  refine ⟨server, events, ran, free, by rw [lifecycle], stranded, fun settled => ?_⟩
  exact ((consistent_of_run ran).2.1 free).mp settled stranded

/-- A stop is given up while it waits for a connection that runs a test. The server goes on to publish that
it is stopping, and starts again although that connection is alive. -/
theorem not_consistent_stopping :
    let address : SocketAddress := ⟨.unspecified, 80, 0⟩
    let services : Services := ⟨fun _ _ => .ok (.new "a"), fun _ _ _ => .error ⟨.execution, "idle"⟩,
      fun _ _ _ => false⟩
    let deploy : Bytes := [0x44, 0x50, 0x4C, 0x20, 0x61]
    let test : Bytes := [0x43, 0x4D, 0x44, 0x20, 0x74, 0x65, 0x73, 0x74, 0x20, 0x61, 0x20, 0x43, 0x20, 0x6D]
    let actions := ServerAction.startAlone 0 (.ok address) ++
      [.accept 0 [deploy, test], .serve 0, .serve 0, .serve 0, .serve 0, .serve 0, .serve 0,
        .callStop, .lock 2, .advance, .advance, .closeListener 0, .advance, .advance, .abandon 2]
    ∃ server events later more,
      (initial .empty).run? services actions = some (server, events) ∧
      server.lock = none ∧ server.lifecycle.current = none ∧
      server.lifecycle.published = .stopping ∧ ¬ server.lifecycle.Settled ∧
      server.run? services (ServerAction.startAlone 3 (.ok address)) = some (later, more) ∧
      more.getLast? = some (.returned 3 (.started (.ok address))) ∧
      later.lifecycle.current = some 1 ∧ later.isConnected 0 = true := by
  intro address services deploy test actions
  have stopped : ((initial .empty).run? services actions).map
      (fun ran => (ran.1.lock, ran.1.lifecycle.current, ran.1.lifecycle.published)) =
      some (none, none, .stopping) := by
    decide +kernel
  have restarted : ((initial .empty).run? services actions).bind (fun ran =>
      (ran.1.run? services (ServerAction.startAlone 3 (.ok address))).map fun went =>
        (went.2.getLast?, went.1.lifecycle.current, went.1.isConnected 0)) =
      some (some (.returned 3 (.started (.ok address))), some 1, true) := by
    decide +kernel
  obtain ⟨⟨server, events⟩, ran, stopped⟩ := Option.map_eq_some_iff.mp stopped
  rw [ran, Option.bind_some] at restarted
  obtain ⟨⟨later, more⟩, went, restarted⟩ := Option.map_eq_some_iff.mp restarted
  simp only [Prod.mk.injEq] at stopped restarted
  obtain ⟨free, idle, published⟩ := stopped
  obtain ⟨returned, current, alive⟩ := restarted
  have unsettled : ¬ server.lifecycle.Settled := by
    simp [Lifecycle.Settled, idle, published]
  exact ⟨server, events, later, more, ran, free, idle, published, unsettled, went, returned, current,
    alive⟩

end SharedServer

end TestDaemon
