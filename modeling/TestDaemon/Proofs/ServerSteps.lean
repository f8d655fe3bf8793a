import Mathlib.Control.Monad.Basic
import Mathlib.Data.List.Induction
import TestDaemon.Server.Concurrency

/-! # The steps of a shared server

What can happen to a server in one step: the task under the lock makes a move, waits for its listener no
longer, returns or is given up, another task gets the lock, or something happens outside the lock. What
happens outside the lock changes neither the run under way nor the published state.
-/

namespace TestDaemon

deriving instance DecidableEq for TaskResult, Stage, TaskPhase, Task, Hold, ServerEvent

namespace Lifecycle

/-- What may become of a lifecycle outside the lock. A listener never comes back. -/
structure Winds (before after : Lifecycle) : Prop where
  current : after.current = before.current
  published : after.published = before.published
  length : after.runs.length = before.runs.length
  runs : ∀ {index : Nat} {run : Run}, after.runs[index]? = some run →
    ∃ former, before.runs[index]? = some former ∧ run.address = former.address ∧
      run.cancelled = former.cancelled ∧ (run.listening = true → former.listening = true)

theorem Winds.refl (lifecycle : Lifecycle) : lifecycle.Winds lifecycle :=
  ⟨rfl, rfl, rfl, fun found => ⟨_, found, rfl, rfl, id⟩⟩

theorem Winds.updateRun (lifecycle : Lifecycle) (index : Nat) {change : Run → Run}
    (address : ∀ run, (change run).address = run.address)
    (cancelled : ∀ run, (change run).cancelled = run.cancelled)
    (listening : ∀ run, (change run).listening = true → run.listening = true) :
    lifecycle.Winds (lifecycle.updateRun index change) := by
  refine ⟨rfl, rfl, List.length_modify .., fun {other run} found => ?_⟩
  rw [getElem?_updateRun] at found
  split at found
  · obtain ⟨former, present, rfl⟩ := Option.map_eq_some_iff.mp found
    exact ⟨former, present, address former, cancelled former, listening former⟩
  · exact ⟨run, found, rfl, rfl, id⟩

/-- The moves of a task under the lock. -/
inductive Moves (lifecycle : Lifecycle) : TaskKind → Stage → Move → Prop
  | startRefused {run : Nat} (running : lifecycle.current = some run) :
    Moves lifecycle .start .entered
      (.silent (.leaving (.started (.error .alreadyRunning))) lifecycle)
  | startBegun (idle : lifecycle.current = none) :
    Moves lifecycle .start .entered (.telling (.starting .binding) (lifecycle.publish .starting))
  | stopRefused {kind : TaskKind} (idle : lifecycle.current = none)
      (stops : kind = .stop ∨ ∃ run, kind = .worker run ∧ lifecycle.isCancelled run = false) :
    Moves lifecycle kind .entered (.silent (.leaving (.stopped (.error .notRunning))) lifecycle)
  | stopBegun {kind : TaskKind} {run : Nat} (running : lifecycle.current = some run)
      (stops : kind = .stop ∨ ∃ own, kind = .worker own ∧ lifecycle.isCancelled own = false) :
    Moves lifecycle kind .entered (.telling (.stopping run .cancelling) lifecycle.withdraw)
  | overtaken {run : Nat} (ended : lifecycle.isCancelled run = true) :
    Moves lifecycle (.worker run) .entered (.silent (.leaving .overtaken) lifecycle)
  | refused {kind : TaskKind} {error : Error} :
    Moves lifecycle kind (.starting (.refused error))
      (.telling (.leaving (.started (.error error))) (lifecycle.publish .stopped))
  | bound {kind : TaskKind} {address : SocketAddress} :
    Moves lifecycle kind (.starting (.bound address))
      (.silent (.starting (.begun lifecycle.runs.length address)) (lifecycle.beginRun address))
  | begun {kind : TaskKind} {run : Nat} {address : SocketAddress} :
    Moves lifecycle kind (.starting (.begun run address))
      (.silent (.starting (.staffed run address)) lifecycle)
  | staffed {kind : TaskKind} {run : Nat} {address : SocketAddress} :
    Moves lifecycle kind (.starting (.staffed run address))
      (.telling (.leaving (.started (.ok address))) (lifecycle.announce run address))
  | cancelling {kind : TaskKind} {run : Nat} :
    Moves lifecycle kind (.stopping run .cancelling)
      (.silent (.stopping run .closing) (lifecycle.cancel run))
  | closing {kind : TaskKind} {run : Nat} :
    Moves lifecycle kind (.stopping run .closing) (.silent (.stopping run .completing) lifecycle)
  | completing {kind : TaskKind} {run : Nat} :
    Moves lifecycle kind (.stopping run .completing)
      (.silent (.stopping run .draining) (lifecycle.complete run))
  | draining {kind : TaskKind} {run : Nat} :
    Moves lifecycle kind (.stopping run .draining) (.silent (.stopping run .ending) lifecycle)
  | ending {kind : TaskKind} {run : Nat} :
    Moves lifecycle kind (.stopping run .ending)
      (.telling (.leaving (.stopped (.ok ()))) (lifecycle.publish .stopped))

theorem moves_enterStop {lifecycle : Lifecycle} {kind : TaskKind}
    (stops : kind = .stop ∨ ∃ run, kind = .worker run ∧ lifecycle.isCancelled run = false) :
    lifecycle.Moves kind .entered lifecycle.enterStop := by
  unfold enterStop
  split
  · exact .stopRefused ‹_› stops
  · exact .stopBegun ‹_› stops

theorem moves_of_move? {lifecycle : Lifecycle} {kind : TaskKind} {stage : Stage} {move : Move}
    (made : lifecycle.move? kind stage = some move) : lifecycle.Moves kind stage move := by
  cases stage with
  | entered =>
    obtain rfl := Option.some.inj made
    cases kind with
    | start =>
      simp only [enter, enterStart]
      split
      · exact .startRefused ‹_›
      · exact .startBegun ‹_›
    | stop => exact moves_enterStop (.inl rfl)
    | worker run =>
      simp only [enter]
      split
      · exact .overtaken ‹_›
      · next ended => exact moves_enterStop (.inr ⟨run, rfl, Bool.eq_false_iff.mpr ended⟩)
  | starting stage =>
    cases stage with
    | binding => cases made
    | refused error => cases made; exact .refused
    | bound address => cases made; exact .bound
    | begun run address => cases made; exact .begun
    | staffed run address => cases made; exact .staffed
  | stopping run stage =>
    cases stage with
    | cancelling => cases made; exact .cancelling
    | closing => cases made; exact .closing
    | completing => cases made; exact .completing
    | draining => cases made; exact .draining
    | ending => cases made; exact .ending
  | leaving result => cases made

end Lifecycle

/-- Whether a task has neither had the lock nor returned. -/
def TaskPhase.isWaiting : TaskPhase → Bool
  | listening | queued => true
  | _ => false

/-- Whether a task has the lock, or was given up with it. -/
def TaskPhase.isLocked : TaskPhase → Bool
  | holding | abandoned (some _) => true
  | _ => false

/-- Whether an event is the return of a worker that has not had the lock. -/
def ServerEvent.isQuiet : ServerEvent → Bool
  | returned _ .unasked | returned _ .forsaken => true
  | _ => false

/-- Whether an action has nothing to do with the lock. -/
def ServerAction.isOutside : ServerAction → Bool
  | lock _ | advance | bind _ | abandon _ => false
  | _ => true

/-- Whether an action is not the giving up of a task. -/
def ServerAction.isPatient : ServerAction → Bool
  | abandon _ => false
  | _ => true

/-! ## Lists that grow -/

theorem getElem?_append_of_found {α : Type} {entries added : List α} {index : Nat} {entry : α}
    (found : entries[index]? = some entry) : (entries ++ added)[index]? = some entry := by
  obtain ⟨within, _⟩ := List.getElem?_eq_some_iff.mp found
  exact (List.getElem?_append_left within).trans found

theorem found_or_added {α : Type} {entries added : List α} {index : Nat} {entry : α}
    (found : (entries ++ added)[index]? = some entry) : entries[index]? = some entry ∨ entry ∈ added := by
  rcases Nat.lt_or_ge index entries.length with within | beyond
  · exact .inl ((List.getElem?_append_left within).symm.trans found)
  · exact .inr (List.mem_of_getElem? ((List.getElem?_append_right beyond).symm.trans found))

namespace SharedServer

variable {services : Services} {server next : SharedServer} {events : List ServerEvent} {patient : Bool}

/-- What may become of a server outside the lock. A connection is new only on a run that listens. -/
structure Outside (server next : SharedServer) : Prop where
  lock : next.lock = server.lock
  lifecycle : server.lifecycle.Winds next.lifecycle
  past : ∀ {task : Nat} {entry : Task}, server.tasks[task]? = some entry →
    entry.phase.isWaiting = false → next.tasks[task]? = some entry
  locked : ∀ {task : Nat} {entry : Task}, next.tasks[task]? = some entry →
    entry.phase.isLocked = true → server.tasks[task]? = some entry
  connections : ∀ connection ∈ next.connections, connection.alive = true →
    server.isConnected connection.run = true ∨ server.lifecycle.isListening connection.run = true

theorem isConnected_of_mem {connection : ServedConnection} (member : connection ∈ server.connections)
    (alive : connection.alive = true) : server.isConnected connection.run = true :=
  List.any_eq_true.mpr ⟨connection, member, by simp [alive]⟩

theorem isConnected_iff {run : Nat} : server.isConnected run = true ↔
    ∃ connection ∈ server.connections, connection.alive = true ∧ connection.run = run := by
  simp [isConnected]

theorem Outside.of_lifecycle {lifecycle : Lifecycle} (winds : server.lifecycle.Winds lifecycle) :
    Outside server { server with lifecycle } :=
  ⟨rfl, winds, fun found _ => found, fun found _ => found,
    fun _ member alive => .inl (isConnected_of_mem member alive)⟩

/-! ## What an action does -/

/-- A step that is known by its result, with what can be noticed of it. -/
theorem made_of_step {result : Option SharedServer} {noticed : List ServerEvent}
    (stepped : result.map (·, noticed) = some (next, events)) :
    result = some next ∧ events = noticed := by
  obtain ⟨after, made, same⟩ := Option.map_eq_some_iff.mp stepped
  cases same
  exact ⟨made, rfl⟩

theorem step?_lock_iff {task : Nat} : server.step? services (.lock task) = some (next, events) ↔
    server.lock = none ∧ ∃ kind, server.tasks[task]? = some ⟨kind, .queued⟩ ∧
      next = server.grant task kind ∧ events = [] := by
  constructor
  · intro locks
    simp only [step?] at locks
    split at locks
    · next kind free queued =>
      cases locks
      exact ⟨free, kind, queued, rfl, rfl⟩
    · cases locks
  · rintro ⟨free, kind, queued, rfl, rfl⟩
    simp only [step?, free, queued]

theorem step?_advance_cases (stepped : server.step? services .advance = some (next, events)) :
    ∃ hold, server.lock = some hold ∧
      ((∃ result, hold.stage = .leaving result ∧ server.release hold result = (next, events)) ∨
        ∃ move, server.isReady hold.stage = true ∧
          server.lifecycle.Moves hold.kind hold.stage move ∧
          server.apply hold move = (next, events)) := by
  obtain ⟨hold, held, advanced⟩ := Option.bind_eq_some_iff.mp stepped
  refine ⟨hold, held, ?_⟩
  unfold advance? at advanced
  split at advanced
  · exact .inl ⟨_, ‹_›, Option.some.inj advanced⟩
  · split at advanced
    · obtain ⟨move, made, applied⟩ := Option.map_eq_some_iff.mp advanced
      exact .inr ⟨move, ‹_›, Lifecycle.moves_of_move? made, applied⟩
    · cases advanced

theorem step?_bind_cases {outcome : Except Error SocketAddress}
    (stepped : server.step? services (.bind outcome) = some (next, events)) :
    ∃ hold, server.lock = some hold ∧ hold.stage = .starting .binding ∧ events = [] ∧
      next = { server with lock := some { hold with stage := .starting (.ofBinding outcome) } } := by
  obtain ⟨made, rfl⟩ := made_of_step stepped
  obtain ⟨hold, held, made⟩ := Option.bind_eq_some_iff.mp made
  unfold bind? at made
  split at made
  · exact ⟨hold, held, ‹_›, rfl, (Option.some.inj made).symm⟩
  · cases made

theorem desert?_cases {task : Nat} (deserted : server.desert? task = some next) :
    ∃ hold, server.lock = some hold ∧ hold.task = task ∧ hold.stage.awaits = true ∧
      next = { server.setPhase task (.abandoned (some hold.stage)) with lock := none } := by
  unfold desert? at deserted
  split at deserted
  · next hold held =>
    split at deserted
    · next own => exact ⟨hold, held, own.1, own.2, (Option.some.inj deserted).symm⟩
    · cases deserted
  · cases deserted

theorem step?_abandon_cases {task : Nat}
    (stepped : server.step? services (.abandon task) = some (next, events)) :
    events = [] ∧
      ((∃ kind, server.tasks[task]? = some ⟨kind, .queued⟩ ∧
          next = server.setPhase task (.abandoned none)) ∨
        ∃ hold, server.lock = some hold ∧ hold.task = task ∧ hold.stage.awaits = true ∧
          next = { server.setPhase task (.abandoned (some hold.stage)) with lock := none }) := by
  obtain ⟨abandoned, rfl⟩ := made_of_step stepped
  refine ⟨rfl, ?_⟩
  unfold abandon? at abandoned
  split at abandoned
  · exact .inl ⟨_, ‹_›, (Option.some.inj abandoned).symm⟩
  · exact .inl ⟨_, ‹_›, (Option.some.inj abandoned).symm⟩
  · exact .inr (desert?_cases abandoned)
  · exact .inr (desert?_cases abandoned)
  · cases abandoned

theorem hear?_cases {task : Nat} {phase : TaskPhase} (heard : server.hear? task phase = some next) :
    ∃ run, server.tasks[task]? = some ⟨.worker run, .listening⟩ ∧
      server.lifecycle.isStopPending run = true ∧
      next = { server.setPhase task phase with lifecycle := server.lifecycle.takeStop run } := by
  unfold hear? at heard
  split at heard
  · split at heard
    · exact ⟨_, ‹_›, ‹_›, (Option.some.inj heard).symm⟩
    · cases heard
  · cases heard

theorem ignore?_cases {task : Nat} (ignored : server.ignore? task = some next) :
    ∃ run, server.tasks[task]? = some ⟨.worker run, .listening⟩ ∧
      next = server.setPhase task (.returned .unasked) := by
  unfold ignore? at ignored
  split at ignored
  · split at ignored
    · exact ⟨_, ‹_›, (Option.some.inj ignored).symm⟩
    · cases ignored
  · cases ignored

theorem accept?_cases {run : Nat} {frames : List Bytes}
    (accepted : server.accept? run frames = some next) : server.lifecycle.isListening run = true ∧
      next = { server with connections := server.connections ++ [⟨run, .start frames, true⟩] } := by
  unfold accept? at accepted
  split at accepted
  · exact ⟨‹_›, (Option.some.inj accepted).symm⟩
  · cases accepted

theorem serve?_cases {index : Nat} (served : server.serve? services index = some next) :
    ∃ connection session shared, server.connection? index = some connection ∧
      connection.session.advance? services server.shared = some (session, shared) ∧
      next = { server.setConnection index { connection with session } with shared } := by
  simp only [serve?, bind, Option.bind_eq_some_iff] at served
  obtain ⟨connection, found, ⟨session, shared⟩, advanced, made⟩ := served
  exact ⟨connection, session, shared, found, advanced, (Option.some.inj made).symm⟩

theorem changeConnection?_cases {index : Nat} {may : InterleavedConnection → Bool}
    {change : ServedConnection → ServedConnection}
    (changed : server.changeConnection? index may change = some next) :
    ∃ connection, server.connection? index = some connection ∧ may connection.session = true ∧
      next = server.setConnection index (change connection) := by
  simp only [changeConnection?, bind, Option.bind_eq_some_iff] at changed
  obtain ⟨connection, found, changed⟩ := changed
  split at changed
  · exact ⟨connection, found, ‹_›, (Option.some.inj changed).symm⟩
  · cases changed

theorem requestStop?_cases {index : Nat} (requested : server.requestStop? index = some next) :
    ∃ connection, server.connection? index = some connection ∧
      connection.session.hasGrantedStop = true ∧
      next = { server with lifecycle := server.lifecycle.requestStop connection.run } := by
  simp only [requestStop?, bind, Option.bind_eq_some_iff] at requested
  obtain ⟨connection, found, requested⟩ := requested
  split at requested
  · exact ⟨connection, found, ‹_›, (Option.some.inj requested).symm⟩
  · cases requested

theorem step?_closeListener_cases {run : Nat}
    (closed : server.step? services (.closeListener run) = some (next, events)) :
    next = { server with lifecycle := server.lifecycle.closeListener run } ∧ events = [] := by
  simp only [step?] at closed
  split at closed
  · cases closed
    exact ⟨rfl, rfl⟩
  · cases closed

/-! ## Tasks outside the lock -/

theorem getElem?_setPhase (server : SharedServer) (task other : Nat) (phase : TaskPhase) :
    (server.setPhase task phase).tasks[other]? =
      if task = other then (server.tasks[other]?).map fun entry => { entry with phase }
      else server.tasks[other]? := by
  rw [setPhase, List.getElem?_modify]
  split
  · rfl
  · exact Option.map_id'

theorem getElem?_setPhase_self {task : Nat} {kind : TaskKind} {former : TaskPhase}
    (found : server.tasks[task]? = some ⟨kind, former⟩) (phase : TaskPhase) :
    (server.setPhase task phase).tasks[task]? = some ⟨kind, phase⟩ := by
  rw [getElem?_setPhase, if_pos rfl, found]
  rfl

theorem getElem?_setPhase_of_ne {task other : Nat} (different : task ≠ other) (phase : TaskPhase) :
    (server.setPhase task phase).tasks[other]? = server.tasks[other]? := by
  rw [getElem?_setPhase, if_neg different]

theorem outside_call (kind : TaskKind) : Outside server (server.call kind) where
  lock := rfl
  lifecycle := .refl _
  past found _ := getElem?_append_of_found found
  locked {task entry} found locked := by
    rcases found_or_added found with kept | added
    · exact kept
    · -- The task that was added waits for the lock.
      obtain rfl := List.mem_singleton.mp added
      cases locked
  connections _ member alive := .inl (isConnected_of_mem member alive)

/-- A task that waits may go into any phase but those of the lock. -/
theorem outside_setPhase {task : Nat} {kind : TaskKind} {former phase : TaskPhase}
    (found : server.tasks[task]? = some ⟨kind, former⟩) (waiting : former.isWaiting = true)
    (free : phase.isLocked = false) : Outside server (server.setPhase task phase) where
  lock := rfl
  lifecycle := .refl _
  past {other entry} present settled := by
    have different : task ≠ other := by
      rintro rfl
      obtain rfl := Option.some.inj (found.symm.trans present)
      exact absurd (waiting.symm.trans settled) (by decide)
    rw [getElem?_setPhase_of_ne different]
    exact present
  locked {other entry} present locked := by
    by_cases same : task = other
    · subst same
      obtain rfl := Option.some.inj ((getElem?_setPhase_self found phase).symm.trans present)
      exact absurd (free.symm.trans locked) (by decide)
    · rwa [getElem?_setPhase_of_ne same] at present
  connections _ member alive := .inl (isConnected_of_mem member alive)

theorem Outside.winds (outside : Outside server next) {lifecycle : Lifecycle}
    (winds : server.lifecycle.Winds lifecycle) : Outside server { next with lifecycle } :=
  ⟨outside.lock, winds, outside.past, outside.locked, outside.connections⟩

/-! ## Connections outside the lock -/

theorem outside_setConnection {index : Nat} {former connection : ServedConnection}
    (found : server.connection? index = some former) (same : connection.run = former.run) :
    Outside server (server.setConnection index connection) where
  lock := rfl
  lifecycle := .refl _
  past present _ := present
  locked present _ := present
  connections other member alive := by
    obtain ⟨present, living⟩ := Option.filter_eq_some_iff.mp found
    rcases List.mem_or_eq_of_mem_set member with kept | rfl
    · exact .inl (isConnected_of_mem kept alive)
    · exact .inl (same ▸ isConnected_of_mem (List.mem_of_getElem? present) living)

theorem Outside.with_shared (outside : Outside server next) (shared : SharedContext) :
    Outside server { next with shared } :=
  ⟨outside.lock, outside.lifecycle, outside.past, outside.locked, outside.connections⟩

theorem outside_serve {index : Nat} (served : server.serve? services index = some next) :
    Outside server next := by
  obtain ⟨connection, session, shared, found, _, rfl⟩ := serve?_cases served
  have same : { connection with session }.run = connection.run := rfl
  exact (outside_setConnection found same).with_shared shared

theorem outside_changeConnection {index : Nat} {may : InterleavedConnection → Bool}
    {change : ServedConnection → ServedConnection}
    (changed : server.changeConnection? index may change = some next)
    (same : ∀ entry, (change entry).run = entry.run) : Outside server next := by
  obtain ⟨connection, found, _, rfl⟩ := changeConnection?_cases changed
  exact outside_setConnection found (same connection)

theorem outside_requestStop {index : Nat} (requested : server.requestStop? index = some next) :
    Outside server next := by
  obtain ⟨connection, _, _, rfl⟩ := requestStop?_cases requested
  exact .of_lifecycle (Lifecycle.Winds.updateRun _ _ (fun _ => rfl) (fun _ => rfl) fun _ => id)

theorem outside_accept {run : Nat} {frames : List Bytes}
    (accepted : server.accept? run frames = some next) : Outside server next := by
  obtain ⟨listening, rfl⟩ := accept?_cases accepted
  refine ⟨rfl, .refl _, fun present _ => present, fun present _ => present,
    fun connection member alive => ?_⟩
  rcases List.mem_append.mp member with kept | added
  · exact .inl (isConnected_of_mem kept alive)
  · obtain rfl := List.mem_singleton.mp added
    exact .inr listening

/-! ## Workers outside the lock -/

theorem outside_hear {task : Nat} {phase : TaskPhase} (free : phase.isLocked = false)
    (heard : server.hear? task phase = some next) : Outside server next := by
  obtain ⟨run, found, _, rfl⟩ := hear?_cases heard
  refine (outside_setPhase found rfl free).winds ?_
  exact Lifecycle.Winds.updateRun _ _ (fun _ => rfl) (fun _ => rfl) fun _ => id

theorem outside_ignore {task : Nat} (ignored : server.ignore? task = some next) :
    Outside server next := by
  obtain ⟨run, found, rfl⟩ := ignore?_cases ignored
  exact outside_setPhase found rfl rfl

/-! ## Tasks under the lock -/

theorem getElem?_apply {hold : Hold} {move : Move} {task : Nat} {entry : Task}
    (found : server.tasks[task]? = some entry) : (server.apply hold move).1.tasks[task]? = some entry :=
  getElem?_append_of_found found

/-- A worker that comes to life listens. -/
theorem getElem?_of_apply {hold : Hold} {move : Move} {task : Nat} {entry : Task}
    (found : (server.apply hold move).1.tasks[task]? = some entry) (active : entry.phase ≠ .listening) :
    server.tasks[task]? = some entry := by
  rcases found_or_added found with kept | added
  · exact kept
  · unfold Stage.recruits at added
    split at added
    · obtain rfl := List.mem_singleton.mp added
      exact absurd rfl active
    · cases added

/-! ## All steps -/

/-- What a step can do to a server, and what can be noticed of it. While callers are patient, nobody is
given up under the lock. -/
inductive Step (server : SharedServer) : Bool → SharedServer → List ServerEvent → Prop
  | outside {patient : Bool} {next : SharedServer} {events : List ServerEvent}
      (frame : Outside server next) (quiet : ∀ event ∈ events, event.isQuiet = true) :
    Step server patient next events
  | granted {patient : Bool} {task : Nat} {kind : TaskKind} (free : server.lock = none)
      (queued : server.tasks[task]? = some ⟨kind, .queued⟩) :
    Step server patient (server.grant task kind) []
  | moved {patient : Bool} {hold : Hold} {move : Move} (held : server.lock = some hold)
      (ready : server.isReady hold.stage = true)
      (moves : server.lifecycle.Moves hold.kind hold.stage move) :
    Step server patient (server.apply hold move).1 (server.apply hold move).2
  | bound {patient : Bool} {hold : Hold} (outcome : Except Error SocketAddress)
      (held : server.lock = some hold) (binding : hold.stage = .starting .binding) :
    Step server patient
      { server with lock := some { hold with stage := .starting (.ofBinding outcome) } } []
  | released {patient : Bool} {hold : Hold} {result : TaskResult} (held : server.lock = some hold)
      (leaving : hold.stage = .leaving result) :
    Step server patient (server.release hold result).1 (server.release hold result).2
  | deserted {hold : Hold} (held : server.lock = some hold) (awaits : hold.stage.awaits = true) :
    Step server false
      { server.setPhase hold.task (.abandoned (some hold.stage)) with lock := none } []

/-- What happens outside the lock is of this kind. -/
theorem outside_of_step? {action : ServerAction} (outside : action.isOutside = true)
    (stepped : server.step? services action = some (next, events)) :
    Outside server next ∧ ∀ event ∈ events, event.isQuiet = true := by
  cases action with
  | lock | advance | bind | abandon => cases outside
  | callStart | callStop =>
    cases stepped
    exact ⟨outside_call _, nofun⟩
  | closeListener run =>
    obtain ⟨rfl, rfl⟩ := step?_closeListener_cases stepped
    refine ⟨.of_lifecycle ?_, nofun⟩
    exact Lifecycle.Winds.updateRun _ _ (fun _ => rfl) (fun _ => rfl) (by simp)
  | hear task =>
    obtain ⟨made, rfl⟩ := made_of_step stepped
    exact ⟨outside_hear rfl made, nofun⟩
  | forsake task =>
    obtain ⟨made, rfl⟩ := made_of_step stepped
    exact ⟨outside_hear rfl made, by simp [ServerEvent.isQuiet]⟩
  | ignore task =>
    obtain ⟨made, rfl⟩ := made_of_step stepped
    exact ⟨outside_ignore made, by simp [ServerEvent.isQuiet]⟩
  | accept run frames =>
    obtain ⟨made, rfl⟩ := made_of_step stepped
    exact ⟨outside_accept made, nofun⟩
  | serve connection =>
    obtain ⟨made, rfl⟩ := made_of_step stepped
    exact ⟨outside_serve made, nofun⟩
  | misread connection error =>
    obtain ⟨made, rfl⟩ := made_of_step stepped
    exact ⟨outside_changeConnection made fun _ => rfl, nofun⟩
  | leave connection =>
    obtain ⟨made, rfl⟩ := made_of_step stepped
    exact ⟨outside_changeConnection made fun _ => rfl, nofun⟩
  | requestStop connection =>
    obtain ⟨made, rfl⟩ := made_of_step stepped
    exact ⟨outside_requestStop made, nofun⟩

/-- Every action is one of these steps. -/
theorem step_of_step? {action : ServerAction}
    (stepped : server.step? services action = some (next, events)) :
    Step server action.isPatient next events := by
  cases action with
  | lock task =>
    obtain ⟨free, kind, queued, rfl, rfl⟩ := step?_lock_iff.mp stepped
    exact .granted free queued
  | advance =>
    obtain ⟨hold, held, ⟨result, leaving, released⟩ | ⟨move, ready, moves, applied⟩⟩ :=
      step?_advance_cases stepped
    · obtain ⟨rfl, rfl⟩ := Prod.ext_iff.mp released
      exact .released held leaving
    · obtain ⟨rfl, rfl⟩ := Prod.ext_iff.mp applied
      exact .moved held ready moves
  | bind outcome =>
    obtain ⟨hold, held, binding, rfl, rfl⟩ := step?_bind_cases stepped
    exact .bound outcome held binding
  | abandon task =>
    obtain ⟨rfl, ⟨kind, queued, rfl⟩ | ⟨hold, held, rfl, awaits, rfl⟩⟩ := step?_abandon_cases stepped
    · exact .outside (outside_setPhase queued rfl rfl) nofun
    · exact .deserted held awaits
  | _ =>
    obtain ⟨frame, quiet⟩ := outside_of_step? rfl stepped
    exact .outside frame quiet

/-! ## Runs of steps -/

theorem run?_append_iff {first second : List ServerAction} :
    server.run? services (first ++ second) = some (next, events) ↔
      ∃ middle earlier later, server.run? services first = some (middle, earlier) ∧
        middle.run? services second = some (next, later) ∧ events = earlier ++ later := by
  induction first generalizing server events with
  | nil =>
    constructor
    · exact fun ran => ⟨server, [], events, rfl, ran, rfl⟩
    · rintro ⟨_, _, later, ⟨⟩, ran, rfl⟩
      exact ran
  | cons action first ih =>
    simp only [List.cons_append, run?, Option.bind_eq_bind, Option.bind_eq_some_iff]
    constructor
    · rintro ⟨⟨after, begun⟩, stepped, ⟨last, rest⟩, ran, same⟩
      cases same
      obtain ⟨middle, earlier, later, former, latter, rfl⟩ := ih.mp ran
      exact ⟨middle, begun ++ earlier, later, ⟨_, stepped, _, former, rfl⟩, latter, by simp⟩
    · rintro ⟨middle, _, later, ⟨⟨after, begun⟩, stepped, ⟨_, earlier⟩, former, ⟨⟩⟩, latter, rfl⟩
      exact ⟨_, stepped, _, ih.mpr ⟨_, _, _, former, latter, rfl⟩, by simp⟩

theorem run?_singleton (action : ServerAction) :
    server.run? services [action] = server.step? services action := by
  cases stepped : server.step? services action <;> simp [run?, stepped]

theorem run?_cons_iff {action : ServerAction} {actions : List ServerAction} :
    server.run? services (action :: actions) = some (next, events) ↔
      ∃ middle earlier later, server.step? services action = some (middle, earlier) ∧
        middle.run? services actions = some (next, later) ∧ events = earlier ++ later := by
  rw [← List.singleton_append, run?_append_iff, run?_singleton]

theorem run?_snoc_iff {actions : List ServerAction} {action : ServerAction} :
    server.run? services (actions ++ [action]) = some (next, events) ↔
      ∃ middle earlier later, server.run? services actions = some (middle, earlier) ∧
        middle.step? services action = some (next, later) ∧ events = earlier ++ later := by
  simp only [run?_append_iff, run?_singleton]

/-- What holds at the beginning and is kept by every step holds after every run. -/
theorem run_induction {start : SharedServer}
    {motive : List ServerAction → SharedServer → List ServerEvent → Prop} (begins : motive [] start [])
    (steps : ∀ {actions server events action next more}, motive actions server events →
      server.step? services action = some (next, more) →
        motive (actions ++ [action]) next (events ++ more))
    {actions : List ServerAction} {last : SharedServer} {events : List ServerEvent}
    (ran : start.run? services actions = some (last, events)) : motive actions last events := by
  induction actions using List.reverseRecOn generalizing last events with
  | nil =>
    cases ran
    exact begins
  | append_singleton actions action ih =>
    obtain ⟨middle, earlier, later, first, stepped, rfl⟩ := run?_snoc_iff.mp ran
    exact steps (ih first) stepped

/-- What holds at the beginning and is kept while callers are patient holds while nobody gives up. -/
theorem patient_induction {start : SharedServer} {motive : SharedServer → List ServerEvent → Prop}
    (begins : motive start [])
    (steps : ∀ {server events next more}, motive server events → Step server true next more →
      motive next (events ++ more))
    {actions : List ServerAction} {last : SharedServer} {events : List ServerEvent}
    (ran : start.run? services actions = some (last, events))
    (patient : ∀ task, .abandon task ∉ actions) : motive last events := by
  refine run_induction (motive := fun actions server events =>
    (∀ task, .abandon task ∉ actions) → motive server events) (fun _ => begins) ?_ ran patient
  intro actions server events action next more kept stepped patient
  have now : action.isPatient = true := by
    cases action with
    | abandon task => exact absurd (List.mem_append_right _ (List.mem_singleton_self _)) (patient task)
    | _ => rfl
  have earlier := kept fun task member => patient task (List.mem_append_left _ member)
  exact steps earlier (now ▸ step_of_step? stepped)

end SharedServer

end TestDaemon
