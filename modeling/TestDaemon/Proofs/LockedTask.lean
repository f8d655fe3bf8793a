import TestDaemon.Proofs.ServerCoherence

/-! # What a task does under the lock

The stage of a task tells what it has done with the lifecycle since it got the lock. Nobody else changes
the run under way or the published state meanwhile, so that this is told by comparing the lifecycle with
the one that the task found.
-/

namespace TestDaemon

namespace Lifecycle

/-- Another lifecycle with the same run under way and the same published state. -/
structure Same (now found : Lifecycle) : Prop where
  current : now.current = found.current
  published : now.published = found.published

theorem Same.refl (lifecycle : Lifecycle) : lifecycle.Same lifecycle := ⟨rfl, rfl⟩

theorem Winds.same {before after found : Lifecycle} (winds : before.Winds after)
    (same : before.Same found) : after.Same found :=
  ⟨winds.current.trans same.current, winds.published.trans same.published⟩

end Lifecycle

/-- What a task is entitled to stop. -/
def TaskKind.Stops (kind : TaskKind) (run : Nat) : Prop := kind = .stop ∨ kind = .worker run

theorem TaskKind.stops_worker_iff {own run : Nat} : (TaskKind.worker own).Stops run ↔ run = own := by
  simp [Stops, eq_comm]

/-- What a task at a stage has done since it found a lifecycle. A start that failed had published that
the server starts, and then that it is stopped. -/
def Stage.Since (found now : Lifecycle) (kind : TaskKind) : Stage → Prop
  | entered => now.Same found
  | starting _ | leaving (.started (.ok _)) => kind = .start ∧ found.current = none
  | stopping run _ => kind.Stops run ∧ found.current = some run
  | leaving (.started (.error _)) =>
    kind = .start ∧ now.current = found.current ∧
      (now.published = found.published ∨ found.current = none ∧ now.published = .stopped)
  | leaving (.stopped (.ok _)) => ∃ run, kind.Stops run ∧ found.current = some run
  | leaving (.stopped (.error _)) => kind = .stop ∧ now.Same found
  | leaving .overtaken =>
    now.Same found ∧ ∃ run, kind = .worker run ∧ found.current ≠ some run
  | leaving .unasked | leaving .forsaken => False

namespace Lifecycle

variable {lifecycle found : Lifecycle} {kind : TaskKind} {stage : Stage} {move : Move}

/-- A run is cancelled unless it is under way, or singled out by the stage under the lock. -/
theorem Agrees.isCancelled_eq_false_iff {stage : Option Stage} (agrees : lifecycle.Agrees stage)
    {run : Nat} : lifecycle.isCancelled run = false ↔
      lifecycle.current = some run ∨ stage.bind Stage.uncancelled? = some run := by
  rw [Lifecycle.isCancelled_eq_false_iff]
  constructor
  · rintro ⟨entry, present, uncancelled⟩
    exact (agrees.token present).mp uncancelled
  · intro attends
    -- What is under way or singled out has begun.
    have begun : ∃ entry, lifecycle.runs[run]? = some entry := by
      rcases attends with current | staged
      · obtain ⟨entry, present, _⟩ := agrees.current current
        exact ⟨entry, present⟩
      · obtain ⟨present, same, staged⟩ := Option.bind_eq_some_iff.mp staged
        have fits := agrees.fits same
        unfold Stage.uncancelled? at staged
        split at staged <;> cases staged
        · exact fits.2.2.imp fun _ => And.left
        · exact fits.2.2.imp fun _ => And.left
        · exact ⟨_, List.getElem?_eq_getElem fits.2.2⟩
    obtain ⟨entry, present⟩ := begun
    exact ⟨entry, present, (agrees.token present).mpr attends⟩

/-- What may be stopped by a task is what it is entitled to stop. -/
theorem Agrees.stops (agrees : lifecycle.Agrees (some .entered)) {run : Nat}
    (running : lifecycle.current = some run)
    (stops : kind = .stop ∨ ∃ own, kind = .worker own ∧ lifecycle.isCancelled own = false) :
    kind.Stops run := by
  rcases stops with stop | ⟨own, worker, uncancelled⟩
  · exact .inl stop
  · rcases agrees.isCancelled_eq_false_iff.mp uncancelled with current | staged
    · obtain rfl := Option.some.inj (running.symm.trans current)
      exact .inr worker
    · cases staged

/-- The worker of a run that is not cancelled finds it under way. -/
theorem Agrees.refused_stop (agrees : lifecycle.Agrees (some .entered))
    (idle : lifecycle.current = none)
    (stops : kind = .stop ∨ ∃ own, kind = .worker own ∧ lifecycle.isCancelled own = false) :
    kind = .stop := by
  rcases stops with stop | ⟨own, _, uncancelled⟩
  · exact stop
  · rcases agrees.isCancelled_eq_false_iff.mp uncancelled with current | staged
    · rw [idle] at current
      cases current
    · cases staged

/-- Every move keeps track of what has been done. -/
theorem Moves.since (moves : lifecycle.Moves kind stage move) (agrees : lifecycle.Agrees (some stage))
    (since : stage.Since found lifecycle kind) :
    move.stage.Since found move.lifecycle kind := by
  cases moves with
  | startRefused running => exact ⟨rfl, since.current, .inl since.published⟩
  | startBegun idle => exact ⟨rfl, since.current.symm.trans idle⟩
  | stopRefused idle stops => exact ⟨agrees.refused_stop idle stops, since⟩
  | stopBegun running stops =>
    exact ⟨agrees.stops running stops, since.current.symm.trans running⟩
  | @overtaken run ended =>
    refine ⟨since, run, rfl, fun current => ?_⟩
    have uncancelled := agrees.isCancelled_eq_false_iff.mpr (.inl (since.current.trans current))
    exact Bool.false_ne_true (uncancelled.symm.trans ended)
  | refused =>
    obtain ⟨start, idle⟩ := since
    exact ⟨start, (agrees.fits rfl).1.trans idle.symm, .inr ⟨idle, rfl⟩⟩
  | bound | begun | staffed | cancelling | closing | completing | draining => exact since
  | ending => exact ⟨_, since⟩

theorem Winds.since {after : Lifecycle} (winds : lifecycle.Winds after)
    (since : stage.Since found lifecycle kind) : stage.Since found after kind := by
  cases stage with
  | entered => exact winds.same since
  | starting stage => exact since
  | stopping run stage => exact since
  | leaving result =>
    rcases result with (error | address) | (error | _) | _ | _ | _
    · obtain ⟨start, current, published⟩ := since
      exact ⟨start, winds.current.trans current, winds.published ▸ published⟩
    · exact since
    · exact ⟨since.1, winds.same since.2⟩
    · exact since
    · exact ⟨winds.same since.1, since.2⟩
    · exact since
    · exact since

end Lifecycle

namespace SharedServer

variable {services : Services} {server next : SharedServer} {events : List ServerEvent} {patient : Bool}
  {found : Lifecycle} {task : Nat} {kind : TaskKind}

/-- What holds once a task has got the lock and found a lifecycle there. -/
structure Followed (found : Lifecycle) (task : Nat) (kind : TaskKind) (server : SharedServer) : Prop where
  coherent : server.Coherent
  past : ∃ phase, server.tasks[task]? = some ⟨kind, phase⟩ ∧ phase.isWaiting = false
  since : ∀ {hold : Hold}, server.lock = some hold → hold.task = task →
    hold.stage.Since found server.lifecycle kind

theorem Followed.kind_eq (followed : server.Followed found task kind) {hold : Hold}
    (held : server.lock = some hold) (own : hold.task = task) : hold.kind = kind := by
  obtain ⟨phase, present, _⟩ := followed.past
  rw [← own, followed.coherent.held held] at present
  exact congrArg Task.kind (Option.some.inj present)

theorem followed_grant (coherent : server.Coherent) (free : server.lock = none)
    (queued : server.tasks[task]? = some ⟨kind, .queued⟩) :
    (server.grant task kind).Followed server.lifecycle task kind where
  coherent := coherent.granted free queued
  past := ⟨.holding, getElem?_setPhase_self queued _, rfl⟩
  since := by
    rintro _ ⟨⟩ _
    exact .refl _

/-- A task that has had the lock never waits for it again. -/
theorem past_setPhase {other : Nat} {kind' : TaskKind} {former : TaskPhase}
    (past : ∃ phase, server.tasks[task]? = some ⟨kind, phase⟩ ∧ phase.isWaiting = false)
    (found : server.tasks[other]? = some ⟨kind', former⟩) (phase : TaskPhase)
    (settled : phase.isWaiting = false) :
    ∃ phase', (server.setPhase other phase).tasks[task]? = some ⟨kind, phase'⟩ ∧
      phase'.isWaiting = false := by
  obtain ⟨before, present, waiting⟩ := past
  by_cases same : other = task
  · subst same
    obtain ⟨rfl, _⟩ := Task.mk.inj (Option.some.inj (found.symm.trans present))
    exact ⟨phase, getElem?_setPhase_self found phase, settled⟩
  · exact ⟨before, (getElem?_setPhase_of_ne same phase).trans present, waiting⟩

theorem Followed.step (followed : server.Followed found task kind)
    (step : Step server patient next events) : next.Followed found task kind := by
  have coherent := followed.coherent
  refine ⟨coherent.step step, ?past, ?since⟩
  case past =>
    cases step with
    | outside frame _ =>
      obtain ⟨phase, present, settled⟩ := followed.past
      exact ⟨phase, frame.past present settled, settled⟩
    | granted free queued => exact past_setPhase followed.past queued _ rfl
    | moved held ready moves =>
      obtain ⟨phase, present, settled⟩ := followed.past
      exact ⟨phase, getElem?_apply present, settled⟩
    | bound outcome held binding => exact followed.past
    | released held leaving => exact past_setPhase followed.past (coherent.held held) _ rfl
    | deserted held awaits => exact past_setPhase followed.past (coherent.held held) _ rfl
  case since =>
    intro hold holds own
    cases step with
    | outside frame _ =>
      exact frame.lifecycle.since (followed.since (frame.lock ▸ holds) own)
    | granted free queued =>
      -- The task that gets the lock was waiting for it until now.
      cases holds
      obtain ⟨phase, present, settled⟩ := followed.past
      rw [← own] at present
      cases queued.symm.trans present
      cases settled
    | moved held ready moves =>
      cases holds
      have agrees := coherent.agrees
      rw [stage?_of_held held] at agrees
      rw [followed.kind_eq held own] at moves
      exact moves.since agrees (followed.since held own)
    | bound outcome held binding =>
      cases holds
      have since := followed.since held own
      rw [binding] at since
      cases outcome <;> exact since
    | released held leaving => cases holds
    | deserted held awaits => cases holds

/-- What a run after a task got the lock has to do with what the task found there. -/
theorem followed_of_run {store : Store} {before during : List ServerAction} {locked : SharedServer}
    {earlier later : List ServerEvent}
    (ran : (initial store).run? services before = some (locked, earlier))
    (queued : locked.tasks[task]? = some ⟨kind, .queued⟩)
    (went : locked.run? services (.lock task :: during) = some (server, later)) :
    locked.lock = none ∧ server.Followed locked.lifecycle task kind := by
  obtain ⟨granted, first, rest, locks, went, -⟩ := run?_cons_iff.mp went
  obtain ⟨free, kind', present, rfl, -⟩ := step?_lock_iff.mp locks
  obtain ⟨rfl, -⟩ := Task.mk.inj (Option.some.inj (queued.symm.trans present))
  refine ⟨free, ?_⟩
  exact run_induction (motive := fun _ server _ => server.Followed locked.lifecycle task kind)
    (followed_grant (coherent_of_run ran) free queued)
    (fun followed stepped => followed.step (step_of_step? stepped)) went

end SharedServer

end TestDaemon
