import Mathlib.Data.List.Chain
import TestDaemon.Proofs.Desertion

/-! # What can be noticed of a server

While nobody gives up, the states that a server publishes follow each other in one circle, starts and
stops succeed in turn, and whenever the lock is free the published state tells whether a run is under way.
A call that fails leaves all of that as it found it.
-/

namespace TestDaemon

/-- The states that may be published after one another. -/
inductive ServerState.Follows : ServerState → ServerState → Prop
  | starting : Follows .stopped .starting
  | failed : Follows .starting .stopped
  | running (address : SocketAddress) : Follows .starting (.running address)
  | stopping (address : SocketAddress) : Follows (.running address) .stopping
  | stopped : Follows .stopping .stopped

/-- A start or a stop that succeeded. -/
inductive Success where
  | start (address : SocketAddress)
  | stop
  deriving DecidableEq, Repr

namespace Success

def isStart : Success → Bool
  | start _ => true
  | stop => false

/-- Starts and stops that succeed in turn. -/
def Alternates (former latter : Success) : Prop := former.isStart ≠ latter.isStart

end Success

namespace ServerEvent

def publication? : ServerEvent → Option ServerState
  | published _ state => some state
  | _ => none

def success? : ServerEvent → Option Success
  | returned _ (.started (.ok address)) => some (.start address)
  | returned _ (.stopped (.ok _)) => some .stop
  | _ => none

/-- The address that a task publishes. -/
def announced? : ServerEvent → Option (Nat × SocketAddress)
  | published task (.running address) => some (task, address)
  | _ => none

/-- The address that a task returns. -/
def started? : ServerEvent → Option (Nat × SocketAddress)
  | returned task (.started (.ok address)) => some (task, address)
  | _ => none

variable {event : ServerEvent}

/-- A worker that has not had the lock tells nothing with its return. -/
theorem untold_of_isQuiet (quiet : event.isQuiet = true) :
    event.publication? = none ∧ event.success? = none ∧ event.announced? = none ∧
      event.started? = none := by
  unfold isQuiet at quiet
  split at quiet
  · exact ⟨rfl, rfl, rfl, rfl⟩
  · exact ⟨rfl, rfl, rfl, rfl⟩
  · cases quiet

/-- Events that tell nothing of a kind leave what was told of it. -/
theorem filterMap_quiet {α : Type} {tell : ServerEvent → Option α} {events more : List ServerEvent}
    (quiet : ∀ event ∈ more, event.isQuiet = true)
    (silent : ∀ event, event.isQuiet = true → tell event = none) :
    (events ++ more).filterMap tell = events.filterMap tell := by
  rw [List.filterMap_append, List.filterMap_eq_nil_iff.mpr fun event member =>
    silent event (quiet event member), List.append_nil]

end ServerEvent

/-- What was told goes on if the last thing told goes on. -/
theorem isChain_snoc {α : Type} {follows : α → α → Prop} {first next : α} {told : List α}
    (chain : (first :: told).IsChain follows) (next_follows : follows (told.getLast?.getD first) next) :
    (first :: (told ++ [next])).IsChain follows := by
  rw [← List.cons_append, List.isChain_append]
  refine ⟨chain, List.isChain_singleton _, ?_⟩
  simpa [List.getLast?_cons] using next_follows

namespace Lifecycle

variable {lifecycle : Lifecycle} {kind : TaskKind} {stage : Stage} {move : Move}

/-- The states that moves publish follow each other. -/
theorem Moves.follows (moves : lifecycle.Moves kind stage move) (agrees : lifecycle.Agrees (some stage))
    (tells : stage.isBusy = false → lifecycle.current = none → lifecycle.published = .stopped) :
    move.publication = none ∧ move.lifecycle.published = lifecycle.published ∨
      move.publication = some move.lifecycle.published ∧
        lifecycle.published.Follows move.lifecycle.published := by
  have fits := agrees.fits rfl
  cases moves with
  | startBegun idle => exact .inr ⟨rfl, tells rfl idle ▸ .starting⟩
  | stopBegun running _ =>
    obtain ⟨entry, _, published⟩ := agrees.current running
    exact .inr ⟨rfl, published ▸ .stopping _⟩
  | refused => exact .inr ⟨rfl, fits.2 ▸ .failed⟩
  | staffed => exact .inr ⟨rfl, fits.2.1 ▸ .running _⟩
  | ending => exact .inr ⟨rfl, fits.2.1 ▸ .stopped⟩
  | _ => exact .inl ⟨rfl, rfl⟩

/-- Whether the last success was a start. A start has not succeeded before it returns, nor has a stop. -/
def hasStarted (lifecycle : Lifecycle) : Option Stage → Bool
  | some (.leaving (.started (.ok _))) => false
  | some (.stopping _ _) | some (.leaving (.stopped (.ok _))) => true
  | _ => lifecycle.current.isSome

theorem Winds.hasStarted {after : Lifecycle} (winds : lifecycle.Winds after) (stage : Option Stage) :
    after.hasStarted stage = lifecycle.hasStarted stage := by
  unfold Lifecycle.hasStarted
  rw [winds.current]

theorem Moves.hasStarted (moves : lifecycle.Moves kind stage move) (fits : stage.Fits lifecycle) :
    move.lifecycle.hasStarted (some move.stage) = lifecycle.hasStarted (some stage) := by
  cases moves with
  | stopBegun running _ => simp [Lifecycle.hasStarted, running]
  | staffed => simp [Lifecycle.hasStarted, fits.1]
  | _ => rfl

end Lifecycle

namespace SharedServer

variable {services : Services} {server next : SharedServer} {events more : List ServerEvent}

/-! ## Published states -/

/-- The published states so far, and how they end. -/
structure Publishes (server : SharedServer) (events : List ServerEvent) : Prop where
  accounts : server.Accounts events
  attended : server.Attended
  chain : (.stopped :: events.filterMap ServerEvent.publication?).IsChain ServerState.Follows
  latest : (events.filterMap ServerEvent.publication?).getLast?.getD .stopped =
    server.lifecycle.published

/-- Before the first move of a task under the lock and after its last one, what is published is true. -/
theorem Publishes.tells (publishes : server.Publishes events)
    (idle : server.stage?.any Stage.isBusy = false) (absent : server.lifecycle.current = none) :
    server.lifecycle.published = .stopped := by
  refine (publishes.accounts.rests idle).mpr ?_ absent
  rintro ⟨task, stage, _, given⟩
  exact publishes.attended task stage given

/-- Nothing is published with what is silent. -/
theorem Publishes.silent (publishes : server.Publishes events)
    (silent : more.filterMap ServerEvent.publication? = []) (accounts : next.Accounts (events ++ more))
    (attended : next.Attended) (same : next.lifecycle.published = server.lifecycle.published) :
    next.Publishes (events ++ more) := by
  refine ⟨accounts, attended, ?_, ?_⟩
  · rw [List.filterMap_append, silent, List.append_nil]
    exact publishes.chain
  · rw [List.filterMap_append, silent, List.append_nil, publishes.latest, same]

theorem Publishes.step (publishes : server.Publishes events) (step : Step server true next more) :
    next.Publishes (events ++ more) := by
  have accounts := publishes.accounts.step step
  have attended := publishes.attended.step step
  cases step with
  | outside frame quiet =>
    refine publishes.silent (List.filterMap_eq_nil_iff.mpr fun event member => ?_) accounts attended
      frame.lifecycle.published
    exact (ServerEvent.untold_of_isQuiet (quiet event member)).1
  | granted | bound => exact publishes.silent rfl accounts attended rfl
  | @moved _ hold move held ready moves =>
    have agrees := publishes.accounts.coherent.agrees
    have tells := publishes.tells
    rw [stage?_of_held held] at agrees tells
    rcases moves.follows agrees tells with ⟨silent, same⟩ | ⟨told, follows⟩
    · exact publishes.silent (by rw [apply_silent silent]; rfl) accounts attended same
    · refine ⟨accounts, attended, ?_, ?_⟩
      · rw [apply_telling told, List.filterMap_append]
        exact isChain_snoc publishes.chain (publishes.latest ▸ follows)
      · rw [apply_telling told, List.filterMap_append]
        exact congrArg (fun last => last.getD ServerState.stopped) List.getLast?_concat
  | released held leaving => exact publishes.silent rfl accounts attended rfl

theorem publishes_of_run {store : Store} {actions : List ServerAction}
    (ran : (initial store).run? services actions = some (server, events))
    (patient : ∀ task, .abandon task ∉ actions) : server.Publishes events := by
  refine patient_induction (motive := fun server events => server.Publishes events) ?_
    Publishes.step ran patient
  have begins : (initial store).run? services [] = some (initial store, []) := rfl
  exact ⟨accounts_of_run begins, attended_of_run begins (by simp), List.isChain_singleton _, rfl⟩

/-! ## Successes -/

/-- The starts and stops that succeeded so far, and how they end. -/
structure Succeeds (server : SharedServer) (events : List ServerEvent) : Prop where
  coherent : server.Coherent
  chain : (.stop :: events.filterMap ServerEvent.success?).IsChain Success.Alternates
  latest : ((events.filterMap ServerEvent.success?).getLast?.getD .stop).isStart =
    server.lifecycle.hasStarted server.stage?

theorem Succeeds.silent (succeeds : server.Succeeds events)
    (silent : more.filterMap ServerEvent.success? = []) (coherent : next.Coherent)
    (same : next.lifecycle.hasStarted next.stage? = server.lifecycle.hasStarted server.stage?) :
    next.Succeeds (events ++ more) := by
  refine ⟨coherent, ?_, ?_⟩
  · rw [List.filterMap_append, silent, List.append_nil]
    exact succeeds.chain
  · rw [List.filterMap_append, silent, List.append_nil, succeeds.latest, same]

/-- A success is one that is due. -/
theorem Succeeds.told (succeeds : server.Succeeds events) (success : Success)
    (told : more.filterMap ServerEvent.success? = [success]) (coherent : next.Coherent)
    (due : server.lifecycle.hasStarted server.stage? ≠ success.isStart)
    (done : next.lifecycle.hasStarted next.stage? = success.isStart) :
    next.Succeeds (events ++ more) := by
  refine ⟨coherent, ?_, ?_⟩
  · rw [List.filterMap_append, told]
    exact isChain_snoc succeeds.chain (succeeds.latest.trans_ne due)
  · rw [List.filterMap_append, told, List.getLast?_concat, Option.getD_some, done]

theorem Succeeds.released (succeeds : server.Succeeds events) {hold : Hold} {result : TaskResult}
    (held : server.lock = some hold) (leaving : hold.stage = .leaving result) :
    (server.release hold result).1.Succeeds (events ++ (server.release hold result).2) := by
  have coherent := succeeds.coherent.released held leaving
  have staged := (stage?_of_held held).trans (congrArg some leaving)
  have fits := succeeds.coherent.agrees.fits staged
  rcases result with (error | address) | (error | _) | _ | _ | _
  · exact succeeds.silent rfl coherent (by rw [staged]; rfl)
  · refine succeeds.told (.start address) rfl coherent (by rw [staged]; nofun) ?_
    exact fits.1
  · exact succeeds.silent rfl coherent (by rw [staged]; rfl)
  · refine succeeds.told .stop rfl coherent (by rw [staged]; nofun) ?_
    exact Option.isSome_eq_false_iff.mpr (Option.isNone_iff_eq_none.mpr fits.1)
  · exact succeeds.silent rfl coherent (by rw [staged]; rfl)
  · exact fits.elim
  · exact fits.elim

theorem Succeeds.step (succeeds : server.Succeeds events) (step : Step server true next more) :
    next.Succeeds (events ++ more) := by
  have coherent := succeeds.coherent.step step
  cases step with
  | outside frame quiet =>
    refine succeeds.silent (List.filterMap_eq_nil_iff.mpr fun event member =>
      (ServerEvent.untold_of_isQuiet (quiet event member)).2.1) coherent ?_
    rw [frame.stage?, frame.lifecycle.hasStarted]
  | granted free queued =>
    refine succeeds.silent rfl coherent ?_
    rw [stage?_of_free free]
    rfl
  | @moved _ hold move held ready moves =>
    refine succeeds.silent ?_ coherent ?_
    · cases told : move.publication with
      | none => rw [apply_silent told]; rfl
      | some state => rw [apply_telling told]; rfl
    · have fits := succeeds.coherent.agrees.fits (stage?_of_held held)
      rw [stage?_of_held held]
      exact moves.hasStarted fits
  | bound outcome held binding =>
    refine succeeds.silent rfl coherent ?_
    rw [stage?_of_held held, binding]
    cases outcome <;> rfl
  | released held leaving => exact succeeds.released held leaving

theorem succeeds_of_run {store : Store} {actions : List ServerAction}
    (ran : (initial store).run? services actions = some (server, events))
    (patient : ∀ task, .abandon task ∉ actions) : server.Succeeds events :=
  patient_induction (motive := fun server events => server.Succeeds events)
    ⟨coherent_initial store, List.isChain_singleton _, rfl⟩ Succeeds.step ran patient

/-! ## Addresses -/

/-- The address that a task under the lock has published and has still to return. -/
def announcing (server : SharedServer) : List (Nat × SocketAddress) :=
  match server.lock with
  | some ⟨task, _, .leaving (.started (.ok address))⟩ => [(task, address)]
  | _ => []

/-- Every address is published by the task that returns it. -/
def Announces (server : SharedServer) (events : List ServerEvent) : Prop :=
  events.filterMap ServerEvent.announced? =
    events.filterMap ServerEvent.started? ++ server.announcing

theorem Announces.step (announces : server.Announces events) (step : Step server true next more) :
    next.Announces (events ++ more) := by
  unfold Announces at announces ⊢
  cases step with
  | outside frame quiet =>
    rw [ServerEvent.filterMap_quiet quiet fun _ quiet => (ServerEvent.untold_of_isQuiet quiet).2.2.1,
      ServerEvent.filterMap_quiet quiet fun _ quiet => (ServerEvent.untold_of_isQuiet quiet).2.2.2,
      announces, announcing, announcing, frame.lock]
  | granted free queued =>
    rw [announcing, free] at announces
    rw [List.append_nil]
    exact announces
  | @moved _ hold move held ready moves =>
    obtain ⟨task, kind, stage⟩ := hold
    rw [announcing, held] at announces
    cases moves <;>
      simpa [apply, announcing, List.filterMap_cons, ServerEvent.announced?, ServerEvent.started?]
        using announces
  | @bound _ hold outcome held binding =>
    obtain ⟨task, kind, stage⟩ := hold
    obtain rfl : stage = _ := binding
    rw [announcing, held] at announces
    rw [List.append_nil]
    cases outcome <;> exact announces
  | @released _ hold result held leaving =>
    obtain ⟨task, kind, stage⟩ := hold
    obtain rfl : stage = _ := leaving
    rw [announcing, held] at announces
    rcases result with (error | address) | (error | _) | _ | _ | _ <;>
      simpa [release, announcing, List.filterMap_cons, ServerEvent.announced?, ServerEvent.started?]
        using announces

theorem announces_of_run {store : Store} {actions : List ServerAction}
    (ran : (initial store).run? services actions = some (server, events))
    (patient : ∀ task, .abandon task ∉ actions) : server.Announces events :=
  patient_induction (motive := fun server events => server.Announces events)
    (by simp [Announces, announcing, initial]) Announces.step ran patient

/-! ## Failures -/

/-- A task that has had the lock and returns an error leaves what it found there. -/
theorem Followed.failed {found : Lifecycle} {task : Nat} {kind : TaskKind} {result : TaskResult}
    (followed : server.Followed found task kind)
    (tells : found.current = none → found.published = .stopped)
    (returned : server.step? services .advance = some (next, [.returned task result]))
    (failed : result.isError = true) : next.lock = none ∧ next.lifecycle.Same found := by
  obtain ⟨hold, held, ⟨_, leaving, released⟩ | ⟨move, _, _, applied⟩⟩ := step?_advance_cases returned
  · cases released
    have since := followed.since held rfl
    rw [leaving] at since
    refine ⟨rfl, ?_⟩
    rcases result with (error | address) | (error | _) | _ | _ | _
    · obtain ⟨_, current, published | ⟨idle, published⟩⟩ := since
      · exact ⟨current, published⟩
      · exact ⟨current, published.trans (tells idle).symm⟩
    · cases failed
    · exact since.2
    all_goals cases failed
  · cases told : move.publication <;> simp [apply, told] at applied

/-! ## Histories -/

/-- The history of a server while nobody gives up. Starts and stops succeed in turn, beginning with a
start; the published states follow each other, beginning behind the stopped one; an address that a start
returns has been published by that start; whenever the lock is free, the published state tells whether a run
is under way, and all published addresses have been returned; and a call that returns an error leaves the
run under way and the published state as it found them when it got the lock. -/
theorem history_of_run {store : Store} {actions : List ServerAction}
    (ran : (initial store).run? services actions = some (server, events))
    (patient : ∀ task, .abandon task ∉ actions) :
    (.stop :: events.filterMap ServerEvent.success?).IsChain Success.Alternates ∧
    (.stopped :: events.filterMap ServerEvent.publication?).IsChain ServerState.Follows ∧
    events.filterMap ServerEvent.started? <+: events.filterMap ServerEvent.announced? ∧
    (server.lock = none → server.lifecycle.Settled ∧
      events.filterMap ServerEvent.started? = events.filterMap ServerEvent.announced?) ∧
    ∀ before task during locked earlier, actions = before ++ .lock task :: during →
      (initial store).run? services before = some (locked, earlier) →
      ∀ next result, server.step? services .advance = some (next, [.returned task result]) →
        result.isError = true → next.lock = none ∧ next.lifecycle.Same locked.lifecycle := by
  have publishes := publishes_of_run ran patient
  have announces := announces_of_run ran patient
  refine ⟨(succeeds_of_run ran patient).chain, publishes.chain, ?_, fun free => ⟨?_, ?_⟩, ?_⟩
  · exact ⟨_, announces.symm⟩
  · exact publishes.accounts.coherent.agrees.settled_iff.mpr
      (publishes.tells (by rw [stage?_of_free free]; rfl))
  · rw [Announces, announcing, free, List.append_nil] at announces
    exact announces.symm
  · rintro before task during locked earlier rfl begun next result returned failed
    obtain ⟨middle, first, later, former, latter, -⟩ := run?_append_iff.mp ran
    obtain ⟨rfl, rfl⟩ := Prod.mk.inj (Option.some.inj (begun.symm.trans former))
    obtain ⟨_, _, _, locks, _, _⟩ := run?_cons_iff.mp latter
    obtain ⟨free, kind, queued, _⟩ := step?_lock_iff.mp locks
    have found := (publishes_of_run begun fun task member =>
      patient task (List.mem_append_left _ member)).tells (by rw [stage?_of_free free]; rfl)
    exact (followed_of_run begun queued latter).2.failed found returned failed

/-- A start that cannot listen, one that can, and one that is refused while the server runs. -/
theorem history_of_run_refused :
    let address : SocketAddress := ⟨.unspecified, 80, 0⟩
    let services : Services := ⟨fun _ _ => .ok (.new "a"), fun _ _ _ => .error ⟨.execution, "idle"⟩,
      fun _ _ _ => false⟩
    let before := ServerAction.startAlone 0 (.error .alreadyRunning) ++
      ServerAction.startAlone 1 (.ok address) ++ [.callStart]
    ∃ locked earlier server events next,
      (initial .empty).run? services before = some (locked, earlier) ∧
      (initial .empty).run? services (before ++ [.lock 3, .advance]) = some (server, events) ∧
      server.step? services .advance =
        some (next, [.returned 3 (.started (.error .alreadyRunning))]) ∧
      events.filterMap ServerEvent.publication? = [.starting, .stopped, .starting, .running address] ∧
      (.stop :: events.filterMap ServerEvent.success?).IsChain Success.Alternates ∧
      next.lifecycle.Same locked.lifecycle := by
  intro address services before
  have scene : ((initial .empty).run? services before).bind (fun begun =>
      ((initial .empty).run? services (before ++ [.lock 3, .advance])).bind fun ran =>
        (ran.1.step? services .advance).map fun last =>
          (last.2, ran.2.filterMap ServerEvent.publication?)) =
      some ([.returned 3 (.started (.error .alreadyRunning))],
        [.starting, .stopped, .starting, .running address]) := by
    decide +kernel
  obtain ⟨⟨locked, earlier⟩, begun, scene⟩ := Option.bind_eq_some_iff.mp scene
  obtain ⟨⟨server, events⟩, ran, scene⟩ := Option.bind_eq_some_iff.mp scene
  obtain ⟨⟨next, last⟩, returned, scene⟩ := Option.map_eq_some_iff.mp scene
  simp only [Prod.mk.injEq] at scene
  obtain ⟨rfl, published⟩ := scene
  have patient : ∀ task, .abandon task ∉ before ++ [.lock 3, .advance] := by
    simp [before, ServerAction.startAlone]
  obtain ⟨successes, _, _, _, failed⟩ := history_of_run ran patient
  exact ⟨locked, earlier, server, events, next, begun, ran, returned, published, successes,
    (failed before 3 [.advance] locked earlier rfl begun next _ returned rfl).2⟩

end SharedServer

end TestDaemon
