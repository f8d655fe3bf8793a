import TestDaemon.Proofs.ServerSteps

/-! # What holds of a shared server

After every run of steps, whoever may have been given up in it, the stage of the task under the lock
tells which run is under way, what is published, and which runs may still be alive. A run is cancelled
exactly if it is not under way. What is alive of a run that is neither under way nor at a stage under the
lock was left behind by a stop that was given up.
-/

namespace TestDaemon

namespace Stage

/-- The run that is not cancelled although it is not the one under way. -/
def uncancelled? : Stage → Option Nat
  | starting (.begun run _) | starting (.staffed run _) | stopping run .cancelling => some run
  | _ => none

/-- The run that may listen although it is not the one under way. -/
def listening? : Stage → Option Nat
  | starting (.begun run _) | starting (.staffed run _) => some run
  | stopping run .cancelling | stopping run .closing => some run
  | _ => none

/-- The run that may have connections although it is not the one under way. -/
def connected? : Stage → Option Nat
  | starting (.begun run _) | starting (.staffed run _) => some run
  | stopping _ .ending => none
  | stopping run _ => some run
  | _ => none

/-- A task waits for its listener, or for the end of a run. -/
theorem awaits_iff {stage : Stage} : stage.awaits = true ↔
    stage = starting .binding ∨ ∃ run, stage = stopping run .closing ∨ stage = stopping run .draining := by
  unfold awaits
  split <;> simp_all

/-- What a stage says of the lifecycle. -/
def Fits (lifecycle : Lifecycle) : Stage → Prop
  | entered | leaving (.started (.error _)) | leaving .overtaken => True
  | starting (.begun run address) | starting (.staffed run address) =>
    lifecycle.current = none ∧ lifecycle.published = .starting ∧
      ∃ entry, lifecycle.runs[run]? = some entry ∧ entry.address = address
  | starting _ => lifecycle.current = none ∧ lifecycle.published = .starting
  | stopping run _ =>
    lifecycle.current = none ∧ lifecycle.published = .stopping ∧ run < lifecycle.runs.length
  | leaving (.started (.ok address)) =>
    lifecycle.current.isSome = true ∧ lifecycle.published = .running address
  | leaving (.stopped (.ok _)) => lifecycle.current = none ∧ lifecycle.published = .stopped
  | leaving (.stopped (.error _)) => lifecycle.current = none
  | leaving .unasked | leaving .forsaken => False

end Stage

namespace Lifecycle

/-- The agreement of a lifecycle with the stage of the task under the lock. -/
structure Agrees (lifecycle : Lifecycle) (stage : Option Stage) : Prop where
  fits : ∀ {present : Stage}, stage = some present → present.Fits lifecycle
  current : ∀ {run : Nat}, lifecycle.current = some run →
    ∃ entry, lifecycle.runs[run]? = some entry ∧ lifecycle.published = .running entry.address
  running : ∀ {address : SocketAddress}, lifecycle.published = .running address →
    ∃ run, lifecycle.current = some run
  token : ∀ {run : Nat} {entry : Run}, lifecycle.runs[run]? = some entry →
    (entry.cancelled = false ↔
      lifecycle.current = some run ∨ stage.bind Stage.uncancelled? = some run)

theorem agrees_initial : initial.Agrees none where
  fits present := by cases present
  current running := by cases running
  running published := by cases published
  token found := by cases found

variable {lifecycle after : Lifecycle} {kind : TaskKind} {stage : Stage} {move : Move}

/-- A stage under which the same runs are cancelled may follow. -/
theorem Agrees.restage {former next : Option Stage} (agrees : lifecycle.Agrees former)
    (fits : ∀ {present : Stage}, next = some present → present.Fits lifecycle)
    (same : next.bind Stage.uncancelled? = former.bind Stage.uncancelled?) :
    lifecycle.Agrees next :=
  ⟨fits, agrees.current, agrees.running, fun found => same ▸ agrees.token found⟩

theorem Winds.found (winds : lifecycle.Winds after) {run : Nat} {former : Run}
    (found : lifecycle.runs[run]? = some former) :
    ∃ entry, after.runs[run]? = some entry ∧ entry.address = former.address := by
  have within : run < after.runs.length := winds.length ▸ (List.getElem?_eq_some_iff.mp found).1
  have stays := List.getElem?_eq_getElem within
  obtain ⟨other, here, address, _⟩ := winds.runs stays
  obtain rfl := Option.some.inj (found.symm.trans here)
  exact ⟨_, stays, address⟩

theorem Winds.fits (winds : lifecycle.Winds after) (fits : stage.Fits lifecycle) :
    stage.Fits after := by
  cases stage with
  | entered => trivial
  | starting stage =>
    cases stage
    case begun | staffed =>
      obtain ⟨idle, published, former, found, rfl⟩ := fits
      exact ⟨winds.current.trans idle, winds.published.trans published, winds.found found⟩
    all_goals exact ⟨winds.current.trans fits.1, winds.published.trans fits.2⟩
  | stopping run stage =>
    exact ⟨winds.current.trans fits.1, winds.published.trans fits.2.1, winds.length ▸ fits.2.2⟩
  | leaving result =>
    rcases result with (error | address) | (error | _) | _ | _ | _
    · trivial
    · exact ⟨winds.current ▸ fits.1, winds.published.trans fits.2⟩
    · exact winds.current.trans fits
    · exact ⟨winds.current.trans fits.1, winds.published.trans fits.2⟩
    · trivial
    · exact fits
    · exact fits

theorem Agrees.winds {stage : Option Stage} (agrees : lifecycle.Agrees stage)
    (winds : lifecycle.Winds after) : after.Agrees stage where
  fits present := winds.fits (agrees.fits present)
  current {run} running := by
    obtain ⟨former, found, published⟩ := agrees.current (winds.current ▸ running)
    obtain ⟨entry, stays, address⟩ := winds.found found
    exact ⟨entry, stays, by rw [winds.published, published, address]⟩
  running published := by
    rw [winds.current]
    exact agrees.running (winds.published ▸ published)
  token {run entry} found := by
    obtain ⟨former, here, _, cancelled, _⟩ := winds.runs found
    rw [cancelled, winds.current]
    exact agrees.token here

/-- While no run is under way, none is running. -/
theorem Agrees.of_idle {stage : Option Stage}
    (fits : ∀ {present : Stage}, stage = some present → present.Fits lifecycle)
    (idle : lifecycle.current = none) (published : ∀ address, lifecycle.published ≠ .running address)
    (token : ∀ {run : Nat} {entry : Run}, lifecycle.runs[run]? = some entry →
      (entry.cancelled = false ↔ stage.bind Stage.uncancelled? = some run)) :
    lifecycle.Agrees stage where
  fits := fits
  current running := by simp [idle] at running
  running running := absurd running (published _)
  token found := by simpa [idle] using token found

/-- The lifecycle and the stage agree after every move. -/
theorem Agrees.moves (agrees : lifecycle.Agrees (some stage))
    (moves : lifecycle.Moves kind stage move) : move.lifecycle.Agrees (some move.stage) := by
  have fits := agrees.fits rfl
  -- Who is cancelled while no run is under way is told by the stage alone.
  have idleToken (idle : lifecycle.current = none) {run : Nat} {entry : Run}
      (found : lifecycle.runs[run]? = some entry) :
      entry.cancelled = false ↔ stage.uncancelled? = some run := by
    simpa [idle] using agrees.token found
  cases moves with
  | startRefused running => exact agrees.restage (by rintro _ ⟨⟩; trivial) rfl
  | startBegun idle =>
    exact .of_idle (by rintro _ ⟨⟩; exact ⟨idle, rfl⟩) idle (fun _ => nofun) fun found =>
      idleToken idle found
  | stopRefused idle _ => exact agrees.restage (by rintro _ ⟨⟩; exact idle) rfl
  | stopBegun running _ =>
    obtain ⟨entry, found, _⟩ := agrees.current running
    have within := (List.getElem?_eq_some_iff.mp found).1
    refine .of_idle (by rintro _ ⟨⟩; exact ⟨rfl, rfl, within⟩) rfl (fun _ => nofun) fun found => ?_
    simpa [running, Stage.uncancelled?] using agrees.token found
  | overtaken ended => exact agrees.restage (by rintro _ ⟨⟩; trivial) rfl
  | refused =>
    exact .of_idle (by rintro _ ⟨⟩; trivial) fits.1 (fun _ => nofun) fun found =>
      idleToken fits.1 found
  | bound =>
    obtain ⟨idle, published⟩ := fits
    refine .of_idle ?_ idle (by simp [published]) fun {run entry} found => ?_
    · rintro _ ⟨⟩
      exact ⟨idle, published, _, List.getElem?_concat_length .., rfl⟩
    · rw [Move.silent_lifecycle, getElem?_beginRun] at found
      split at found
      · next last =>
        cases found
        simp [Stage.uncancelled?, Run.begin, last]
      · next other =>
        -- No run was under way before this one.
        simpa [Stage.uncancelled?, Ne.symm other] using idleToken idle found
  | begun => exact agrees.restage (by rintro _ ⟨⟩; exact fits) rfl
  | staffed =>
    obtain ⟨idle, published, entry, found, rfl⟩ := fits
    refine ⟨by rintro _ ⟨⟩; exact ⟨rfl, rfl⟩, ?_, fun _ => ⟨_, rfl⟩, fun {other _} present => ?_⟩
    · rintro _ ⟨⟩
      exact ⟨entry, found, rfl⟩
    · simpa [Stage.uncancelled?] using idleToken idle present
  | cancelling =>
    obtain ⟨idle, published, within⟩ := fits
    refine .of_idle ?_ idle (by simp [published]) fun {other entry} found => ?_
    · rintro _ ⟨⟩
      exact ⟨idle, published, by simpa using within⟩
    · rw [Move.silent_lifecycle, cancel, getElem?_updateRun] at found
      split at found
      · obtain ⟨former, _, rfl⟩ := Option.map_eq_some_iff.mp found
        simp [Stage.uncancelled?]
      · next different => simpa [Stage.uncancelled?, different] using idleToken idle found
  | closing => exact agrees.restage (by rintro _ ⟨⟩; exact fits) rfl
  | @completing _ run =>
    have staged : lifecycle.Agrees (some (.stopping run .draining)) :=
      agrees.restage (by rintro _ ⟨⟩; exact fits) rfl
    exact staged.winds (.updateRun _ _ (fun _ => rfl) (fun _ => rfl) fun _ => id)
  | draining => exact agrees.restage (by rintro _ ⟨⟩; exact fits) rfl
  | ending =>
    exact .of_idle (by rintro _ ⟨⟩; exact ⟨fits.1, rfl⟩) fits.1 (fun _ => nofun) fun found =>
      idleToken fits.1 found

theorem listens_of_updateRun {index run : Nat} {change : Run → Run}
    (listening : (lifecycle.updateRun index change).isListening run = true)
    (same : ∀ entry, (change entry).listening = entry.listening) : lifecycle.isListening run = true := by
  obtain ⟨entry, found, listens⟩ := (isListening_iff ..).mp listening
  rw [getElem?_updateRun] at found
  split at found
  · obtain ⟨former, here, rfl⟩ := Option.map_eq_some_iff.mp found
    exact (isListening_iff ..).mpr ⟨former, here, same former ▸ listens⟩
  · exact (isListening_iff ..).mpr ⟨entry, found, listens⟩

/-- A listener is new only where a run begins. -/
theorem Moves.listened (moves : lifecycle.Moves kind stage move) {run : Nat}
    (listening : move.lifecycle.isListening run = true) :
    lifecycle.isListening run = true ∨ move.stage.listening? = some run := by
  cases moves with
  | bound =>
    obtain ⟨entry, found, listens⟩ := (isListening_iff ..).mp listening
    rw [Move.silent_lifecycle, getElem?_beginRun] at found
    split at found
    · next last => exact .inr (congrArg some last.symm)
    · exact .inl ((isListening_iff ..).mpr ⟨entry, found, listens⟩)
  | cancelling => exact .inl (listens_of_updateRun listening fun _ => rfl)
  | completing => exact .inl (listens_of_updateRun listening fun _ => rfl)
  | _ => exact .inl listening

/-- A run that may listen before a move may do so after it, unless its listener has been waited for. -/
theorem Moves.listening (moves : lifecycle.Moves kind stage move) (fits : stage.Fits lifecycle)
    {run : Nat} (attended : lifecycle.current = some run ∨ stage.listening? = some run) :
    (move.lifecycle.current = some run ∨ move.stage.listening? = some run) ∨
      stage = .stopping run .closing := by
  cases moves <;> simp_all [Stage.listening?, Stage.Fits]

/-- A run that may have connections before a move may have them after it, unless they have been waited
for. -/
theorem Moves.connected (moves : lifecycle.Moves kind stage move) (fits : stage.Fits lifecycle)
    {run : Nat} (attended : lifecycle.current = some run ∨ stage.connected? = some run) :
    (move.lifecycle.current = some run ∨ move.stage.connected? = some run) ∨
      stage = .stopping run .draining := by
  cases moves <;> simp_all [Stage.connected?, Stage.Fits]

end Lifecycle

namespace SharedServer

variable {services : Services} {server next : SharedServer} {events : List ServerEvent} {patient : Bool}

/-- The stage of the task under the lock. -/
def stage? (server : SharedServer) : Option Stage := server.lock.map (·.stage)

/-- Whether a run is the one under way, or the one that a stage under the lock singles out. -/
def Attends (server : SharedServer) (part : Stage → Option Nat) (run : Nat) : Prop :=
  server.lifecycle.current = some run ∨ server.stage?.bind part = some run

/-- Whether a task was given up at a stage under the lock. -/
def GivenUp (server : SharedServer) (task : Nat) (stage : Stage) : Prop :=
  ∃ kind, server.tasks[task]? = some ⟨kind, .abandoned (some stage)⟩

/-- Whether a stop of a run was given up under the lock. -/
def Deserted (server : SharedServer) (run : Nat) : Prop :=
  ∃ task stage, server.GivenUp task (.stopping run stage)

/-- What holds of a server after every run of steps. -/
structure Coherent (server : SharedServer) : Prop where
  agrees : server.lifecycle.Agrees server.stage?
  held : ∀ {hold : Hold}, server.lock = some hold →
    server.tasks[hold.task]? = some ⟨hold.kind, .holding⟩
  exclusive : ∀ {task : Nat} {kind : TaskKind}, server.tasks[task]? = some ⟨kind, .holding⟩ →
    ∃ hold, server.lock = some hold ∧ hold.task = task
  listener : ∀ {run : Nat}, server.lifecycle.isListening run = true →
    server.Attends Stage.listening? run ∨ server.Deserted run
  connections : ∀ {run : Nat}, server.isConnected run = true →
    server.Attends Stage.connected? run ∨ server.Deserted run

theorem coherent_initial (store : Store) : (initial store).Coherent where
  agrees := Lifecycle.agrees_initial
  held held := by cases held
  exclusive found := by cases found
  listener listening := by cases listening
  connections connected := by cases connected

theorem stage?_of_held {hold : Hold} (held : server.lock = some hold) :
    server.stage? = some hold.stage := by
  rw [stage?, held]
  rfl

theorem stage?_of_free (free : server.lock = none) : server.stage? = none := by
  rw [stage?, free]
  rfl

/-- Where a run may listen it may have connections. -/
theorem Attends.connected {run : Nat} (attends : server.Attends Stage.listening? run) :
    server.Attends Stage.connected? run := by
  rcases attends with current | staged
  · exact .inl current
  · refine .inr ?_
    cases stage : server.stage? with
    | none => simp [stage] at staged
    | some present =>
      rw [stage] at staged
      rw [Option.bind_some] at staged ⊢
      revert staged
      unfold Stage.listening? Stage.connected?
      split <;> simp

theorem Outside.stage? (outside : Outside server next) : next.stage? = server.stage? := by
  rw [SharedServer.stage?, SharedServer.stage?, outside.lock]

theorem Outside.attends (outside : Outside server next) {part : Stage → Option Nat} {run : Nat} :
    next.Attends part run ↔ server.Attends part run := by
  rw [Attends, Attends, outside.stage?, outside.lifecycle.current]

theorem Outside.deserted (outside : Outside server next) {run : Nat} (deserted : server.Deserted run) :
    next.Deserted run := by
  obtain ⟨task, stage, kind, found⟩ := deserted
  exact ⟨task, stage, kind, outside.past found rfl⟩

theorem Coherent.outside (coherent : server.Coherent) (outside : Outside server next) :
    next.Coherent where
  agrees := outside.stage? ▸ coherent.agrees.winds outside.lifecycle
  held held := outside.past (coherent.held (outside.lock ▸ held)) rfl
  exclusive found := by
    rw [outside.lock]
    exact coherent.exclusive (outside.locked found rfl)
  listener {run} listening := by
    obtain ⟨entry, found, listens⟩ := (Lifecycle.isListening_iff ..).mp listening
    obtain ⟨former, here, _, _, listened⟩ := outside.lifecycle.runs found
    have before : server.lifecycle.isListening run = true :=
      (Lifecycle.isListening_iff ..).mpr ⟨former, here, listened listens⟩
    exact (coherent.listener before).imp outside.attends.mpr outside.deserted
  connections {run} connected := by
    obtain ⟨connection, member, alive, rfl⟩ := isConnected_iff.mp connected
    have before : server.Attends Stage.connected? connection.run ∨ server.Deserted connection.run := by
      rcases outside.connections connection member alive with connected | listening
      · exact coherent.connections connected
      · exact (coherent.listener listening).imp_left Attends.connected
    exact before.imp outside.attends.mpr outside.deserted

theorem attends_of_held {hold : Hold} (held : server.lock = some hold) {part : Stage → Option Nat}
    {run : Nat} : server.Attends part run ↔
      server.lifecycle.current = some run ∨ part hold.stage = some run := by
  rw [Attends, stage?_of_held held, Option.bind_some]

theorem attends_of_free (free : server.lock = none) {part : Stage → Option Nat} {run : Nat} :
    server.Attends part run ↔ server.lifecycle.current = some run := by
  simp [Attends, stage?_of_free free]

/-- A task that has not been given up leaves the others given up. -/
theorem givenUp_setPhase {task other : Nat} {kind : TaskKind} {former : TaskPhase} {stage : Stage}
    (found : server.tasks[task]? = some ⟨kind, former⟩) (active : ∀ stage, former ≠ .abandoned stage)
    (phase : TaskPhase) (given : server.GivenUp other stage) :
    (server.setPhase task phase).GivenUp other stage := by
  obtain ⟨kind', present⟩ := given
  have different : task ≠ other := by
    rintro rfl
    exact active _ (congrArg Task.phase (Option.some.inj (found.symm.trans present)))
  exact ⟨kind', (getElem?_setPhase_of_ne different phase).trans present⟩

theorem givenUp_of_setPhase {task other : Nat} {stage : Stage} (phase : TaskPhase)
    (kept : ∀ stage, phase ≠ .abandoned (some stage))
    (given : (server.setPhase task phase).GivenUp other stage) : server.GivenUp other stage := by
  obtain ⟨kind, found⟩ := given
  rw [getElem?_setPhase] at found
  split at found
  · obtain ⟨former, _, changed⟩ := Option.map_eq_some_iff.mp found
    exact absurd (congrArg Task.phase changed) (kept stage)
  · exact ⟨kind, found⟩

theorem deserted_setPhase {task run : Nat} {kind : TaskKind} {former : TaskPhase}
    (found : server.tasks[task]? = some ⟨kind, former⟩) (active : ∀ stage, former ≠ .abandoned stage)
    (phase : TaskPhase) (deserted : server.Deserted run) : (server.setPhase task phase).Deserted run := by
  obtain ⟨other, stage, given⟩ := deserted
  exact ⟨other, stage, givenUp_setPhase found active phase given⟩

theorem Coherent.granted (coherent : server.Coherent) {task : Nat} {kind : TaskKind}
    (free : server.lock = none) (queued : server.tasks[task]? = some ⟨kind, .queued⟩) :
    (server.grant task kind).Coherent := by
  have agrees := coherent.agrees
  rw [stage?_of_free free] at agrees
  have kept {part : Stage → Option Nat} {run : Nat}
      (alive : server.Attends part run ∨ server.Deserted run) :
      (server.grant task kind).Attends part run ∨ (server.grant task kind).Deserted run :=
    alive.imp (fun attends => .inl ((attends_of_free free).mp attends))
      (deserted_setPhase queued (fun _ => nofun) _)
  refine ⟨agrees.restage (by rintro _ ⟨⟩; trivial) rfl, ?held, ?exclusive, ?listener, ?connections⟩
  case held =>
    rintro _ ⟨⟩
    exact getElem?_setPhase_self queued _
  case exclusive =>
    intro other kind' found
    by_cases same : task = other
    · exact ⟨_, rfl, same⟩
    · -- Nobody else has the lock while it is free.
      have found := (getElem?_setPhase_of_ne same _).symm.trans found
      obtain ⟨hold, held, _⟩ := coherent.exclusive found
      rw [free] at held
      cases held
  case listener => exact fun listening => kept (coherent.listener listening)
  case connections => exact fun connected => kept (coherent.connections connected)

theorem Coherent.moved (coherent : server.Coherent) {hold : Hold} {move : Move}
    (held : server.lock = some hold) (ready : server.isReady hold.stage = true)
    (moves : server.lifecycle.Moves hold.kind hold.stage move) :
    (server.apply hold move).1.Coherent := by
  have agrees := coherent.agrees
  rw [stage?_of_held held] at agrees
  have fits := agrees.fits rfl
  have deserted {run : Nat} (deserted : server.Deserted run) :
      (server.apply hold move).1.Deserted run := by
    obtain ⟨task, stage, kind, found⟩ := deserted
    exact ⟨task, stage, kind, getElem?_apply found⟩
  refine ⟨agrees.moves moves, ?held, ?exclusive, ?listener, ?connections⟩
  case held =>
    rintro _ ⟨⟩
    exact getElem?_apply (coherent.held held :)
  case exclusive =>
    intro task kind found
    obtain ⟨other, present, same⟩ := coherent.exclusive (getElem?_of_apply found nofun)
    obtain rfl := Option.some.inj (held.symm.trans present)
    exact ⟨_, rfl, same⟩
  case listener =>
    intro run listening
    rcases moves.listened listening with listened | begun
    · rcases coherent.listener listened with attends | left
      · rcases moves.listening fits ((attends_of_held held).mp attends) with attends | closing
        · exact .inl attends
        · simp [isReady, closing, listened] at ready
      · exact .inr (deserted left)
    · exact .inl (.inr begun)
  case connections =>
    intro run connected
    rcases coherent.connections connected with attends | left
    · rcases moves.connected fits ((attends_of_held held).mp attends) with attends | draining
      · exact .inl attends
      · have alive : server.isConnected run = true := connected
        simp [isReady, draining, alive] at ready
    · exact .inr (deserted left)

theorem Coherent.bound (coherent : server.Coherent) {hold : Hold}
    (outcome : Except Error SocketAddress) (held : server.lock = some hold)
    (binding : hold.stage = .starting .binding) :
    { server with lock := some { hold with stage := .starting (.ofBinding outcome) } }.Coherent := by
  have agrees := coherent.agrees
  rw [stage?_of_held held, binding] at agrees
  have fits := agrees.fits rfl
  have staged : server.lifecycle.Agrees (some (.starting (.ofBinding outcome))) := by
    cases outcome <;> exact agrees.restage (by rintro _ ⟨⟩; exact fits) rfl
  have kept {part : Stage → Option Nat} (nobody : part (.starting .binding) = none) {run : Nat}
      (alive : server.Attends part run ∨ server.Deserted run) :
      { server with lock := some { hold with stage := .starting (.ofBinding outcome) } }.Attends part run ∨
        server.Deserted run := by
    refine alive.imp_left fun attends => .inl ?_
    simpa [binding, nobody] using (attends_of_held held).mp attends
  refine ⟨staged, ?held, ?exclusive, ?listener, ?connections⟩
  case held =>
    rintro _ ⟨⟩
    exact (coherent.held held :)
  case exclusive =>
    intro task kind found
    obtain ⟨other, present, same⟩ := coherent.exclusive found
    obtain rfl := Option.some.inj (held.symm.trans present)
    exact ⟨_, rfl, same⟩
  case listener => exact fun listening => kept rfl (coherent.listener listening)
  case connections => exact fun connected => kept rfl (coherent.connections connected)

/-- The task under the lock leaves it, in whatever phase. -/
theorem Coherent.left (coherent : server.Coherent) {hold : Hold} (held : server.lock = some hold)
    {phase : TaskPhase} (free : phase ≠ .holding)
    (agrees : server.lifecycle.Agrees none)
    (listener : ∀ {run}, hold.stage.listening? = some run →
      { server.setPhase hold.task phase with lock := none }.Deserted run)
    (connections : ∀ {run}, hold.stage.connected? = some run →
      { server.setPhase hold.task phase with lock := none }.Deserted run) :
    { server.setPhase hold.task phase with lock := none }.Coherent := by
  have present := coherent.held held
  have kept {part : Stage → Option Nat} (lost : ∀ {run}, part hold.stage = some run →
      { server.setPhase hold.task phase with lock := none }.Deserted run) {run : Nat}
      (alive : server.Attends part run ∨ server.Deserted run) :
      { server.setPhase hold.task phase with lock := none }.Attends part run ∨
        { server.setPhase hold.task phase with lock := none }.Deserted run := by
    rcases alive with attends | deserted
    · exact ((attends_of_held held).mp attends).imp .inl lost
    · exact .inr (deserted_setPhase present (fun _ => nofun) phase deserted)
  refine ⟨agrees, nofun, ?exclusive, ?listener, ?connections⟩
  case exclusive =>
    intro task kind found
    by_cases same : hold.task = task
    · subst same
      have changed := (getElem?_setPhase_self present phase).symm.trans found
      exact absurd (congrArg Task.phase (Option.some.inj changed)) free
    · have before := (getElem?_setPhase_of_ne same phase).symm.trans found
      obtain ⟨other, here, own⟩ := coherent.exclusive before
      obtain rfl := Option.some.inj (held.symm.trans here)
      exact absurd own same
  case listener => exact fun listening => kept listener (coherent.listener listening)
  case connections => exact fun connected => kept connections (coherent.connections connected)

theorem Coherent.released (coherent : server.Coherent) {hold : Hold} {result : TaskResult}
    (held : server.lock = some hold) (leaving : hold.stage = .leaving result) :
    (server.release hold result).1.Coherent := by
  have agrees := coherent.agrees
  rw [stage?_of_held held, leaving] at agrees
  refine coherent.left held nofun (agrees.restage nofun rfl) ?_ ?_ <;>
    simp [leaving, Stage.listening?, Stage.connected?]

theorem Coherent.deserted (coherent : server.Coherent) {hold : Hold}
    (held : server.lock = some hold) (awaits : hold.stage.awaits = true) :
    { server.setPhase hold.task (.abandoned (some hold.stage)) with lock := none }.Coherent := by
  have agrees := coherent.agrees
  rw [stage?_of_held held] at agrees
  have given := getElem?_setPhase_self (coherent.held held) (.abandoned (some hold.stage))
  rcases Stage.awaits_iff.mp awaits with binding | ⟨run, closing | draining⟩
  · refine coherent.left held nofun (agrees.restage nofun (by rw [binding]; rfl)) ?_ ?_ <;>
      simp [binding, Stage.listening?, Stage.connected?]
  · rw [closing] at given
    refine coherent.left held nofun (agrees.restage nofun (by rw [closing]; rfl)) ?_ ?_
    all_goals
      rw [closing]
      rintro _ ⟨⟩
      exact ⟨_, _, _, given⟩
  · rw [draining] at given
    refine coherent.left held nofun (agrees.restage nofun (by rw [draining]; rfl)) ?_ ?_
    · simp [draining, Stage.listening?]
    · rw [draining]
      rintro _ ⟨⟩
      exact ⟨_, _, _, given⟩

/-- Every step keeps a server coherent. -/
theorem Coherent.step (coherent : server.Coherent) (step : Step server patient next events) :
    next.Coherent := by
  cases step with
  | outside frame _ => exact coherent.outside frame
  | granted free queued => exact coherent.granted free queued
  | moved held ready moves => exact coherent.moved held ready moves
  | bound outcome held binding => exact coherent.bound outcome held binding
  | released held leaving => exact coherent.released held leaving
  | deserted held awaits => exact coherent.deserted held awaits

/-- A server is coherent after every run. -/
theorem coherent_of_run {store : Store} {actions : List ServerAction}
    (ran : (initial store).run? services actions = some (server, events)) : server.Coherent :=
  run_induction (motive := fun _ server _ => server.Coherent) (coherent_initial store)
    (fun coherent stepped => coherent.step (step_of_step? stepped)) ran

/-! ## Patient callers -/

/-- Nobody was given up under the lock. -/
def Attended (server : SharedServer) : Prop := ∀ task stage, ¬ server.GivenUp task stage

theorem Attended.step (attended : server.Attended) (step : Step server true next events) :
    next.Attended := by
  cases step with
  | outside frame _ =>
    rintro task stage ⟨kind, found⟩
    exact attended task stage ⟨kind, frame.locked found rfl⟩
  | granted free queued =>
    exact fun task stage given => attended task stage (givenUp_of_setPhase .holding nofun given)
  | moved held ready moves =>
    rintro task stage ⟨kind, found⟩
    exact attended task stage ⟨kind, getElem?_of_apply found nofun⟩
  | bound outcome held binding => exact attended
  | @released _ hold result held leaving =>
    exact fun task stage given =>
      attended task stage (givenUp_of_setPhase (.returned result) nofun given)

theorem attended_of_run {store : Store} {actions : List ServerAction}
    (ran : (initial store).run? services actions = some (server, events))
    (patient : ∀ task, .abandon task ∉ actions) : server.Attended :=
  patient_induction (motive := fun server _ => server.Attended)
    (by simp [Attended, GivenUp, initial]) Attended.step ran patient

theorem Attended.not_deserted (attended : server.Attended) {run : Nat} : ¬ server.Deserted run := by
  rintro ⟨task, stage, given⟩
  exact attended task _ given

end SharedServer

end TestDaemon
