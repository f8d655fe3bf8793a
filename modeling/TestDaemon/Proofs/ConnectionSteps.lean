import TestDaemon.Connection.Interleaving
import TestDaemon.Proofs.SerialHandling

/-! # The steps of interleaved connections

What one step of a connection can be, what it leaves of the replies that are settled, and what it does to
the shared store. Only the storing of an archive and a removal touch the store, and only under one ID.
-/

namespace TestDaemon

/-- The reply that is to be written next. -/
def PendingWork.reply? : PendingWork → Option Reply
  | replying reply _ => some reply
  | _ => Option.none

/-- The reply to a test that runs on an archive. -/
def Reply.ofTest (executor : Executor) (archive : Archive) (className method : String) : Reply :=
  match executor archive className method with
  | .ok result => .raw result.encode
  | .error error => .ofError error

namespace InterleavedConnection

/-- The replies that are settled: all that have been written, and the one that is to be written next. -/
def settled (connection : InterleavedConnection) : List Reply :=
  connection.replies ++ connection.work.reply?.toList

/-! ## The steps of a connection -/

/-- What one step of a connection can be. -/
inductive Advances (services : Services) (connection : InterleavedConnection) (shared : SharedContext) :
    InterleavedConnection → SharedContext → Prop
  | begun {frame : Bytes} {frames : List Bytes} (free : connection.work = .none)
      (waiting : connection.frames = frame :: frames) :
    Advances services connection shared
      { connection with
        frames
        dispatcher := (connection.dispatcher.dispatch frame).2
        work := workOf (connection.dispatcher.dispatch frame).1 } shared
  | refused {payload : Bytes} {error : Error} (work : connection.work = .importing payload)
      (failed : services.importer shared.imports payload = .error error) :
    Advances services connection shared
      { connection with work := .none, finish := some (.error error) } shared
  | imported {payload : Bytes} {archive : Archive} (work : connection.work = .importing payload)
      (converted : services.importer shared.imports payload = .ok archive) :
    Advances services connection shared { connection with work := .storing archive }
      { shared with imports := shared.imports + 1 }
  | stored {archive : Archive} (work : connection.work = .storing archive) :
    Advances services connection shared
      { connection with work := .replying (.ok (Request.deployHead ++ archive.id)) .proceed }
      { shared with store := (shared.store.insert archive.id archive).2 }
  | removed {id : String} (work : connection.work = .removing id) :
    Advances services connection shared
      { connection with
        work := .replying (if shared.store.contains id then .ok id else .unknownDeployment id) .proceed }
      { shared with store := (shared.store.remove id).2 }
  | missing {id className method : String} (work : connection.work = .lookingUp id className method)
      (absent : shared.store.get? id = none) :
    Advances services connection shared { connection with work := replyError (.notDeployed id) } shared
  | found {id className method : String} {archive : Archive}
      (work : connection.work = .lookingUp id className method)
      (present : shared.store.get? id = some archive) :
    Advances services connection shared { connection with work := .testing archive className method } shared
  | failed {archive : Archive} {className method : String} {error : Error}
      (work : connection.work = .testing archive className method)
      (failed : services.executor archive className method = .error error) :
    Advances services connection shared { connection with work := replyError error } shared
  | tested {archive : Archive} {className method : String} {result : TestResult}
      (work : connection.work = .testing archive className method)
      (ran : services.executor archive className method = .ok result) :
    Advances services connection shared
      { connection with work := .replying (.raw result.encode) .proceed } shared
  | replied {reply : Reply} {outcome : FrameOutcome} (work : connection.work = .replying reply outcome) :
    Advances services connection shared
      { connection with
        work := .none
        replies := connection.replies ++ [reply]
        finish := FrameOutcome.finishOf (.ok outcome) } shared

theorem advances_of_advance? {services : Services} {connection next : InterleavedConnection}
    {shared after : SharedContext} (advanced : connection.advance? services shared = some (next, after)) :
    connection.finish = none ∧ Advances services connection shared next after := by
  unfold advance? at advanced
  split at advanced
  · cases advanced
  · next open' =>
    refine ⟨by simpa using open', ?_⟩
    split at advanced
    · next work =>
      obtain ⟨begun, next', same⟩ := Option.map_eq_some_iff.mp advanced
      cases same
      unfold nextFrame at next'
      split at next'
      · cases next'
      · next frame frames waiting =>
        cases next'
        exact .begun work waiting
    · next payload work =>
      split at advanced
      · next error failed =>
        cases advanced
        exact .refused work failed
      · next archive converted =>
        cases advanced
        exact .imported work converted
    · next archive work =>
      cases advanced
      exact .stored work
    · next id work =>
      rw [Context.undeploy_eq] at advanced
      cases advanced
      exact .removed work
    · next id className method work =>
      split at advanced
      · next absent =>
        cases advanced
        exact .missing work absent
      · next archive present =>
        cases advanced
        exact .found work present
    · next archive className method work =>
      split at advanced
      · next error failed =>
        cases advanced
        exact .failed work failed
      · next result ran =>
        cases advanced
        exact .tested work ran
    · next reply outcome work =>
      cases advanced
      cases outcome
      · exact .replied work
      · exact .replied work

variable {services : Services} {connection next : InterleavedConnection} {shared after : SharedContext}

/-- A settled reply stays the reply with its number. -/
theorem Advances.settled (advances : Advances services connection shared next after) :
    connection.settled <+: next.settled := by
  cases advances with
  | begun work _ | refused work _ | imported work _ | stored work | removed work | missing work _
  | found work _ | failed work _ | tested work _ =>
    have unsettled : connection.settled = connection.replies := by
      simp [InterleavedConnection.settled, PendingWork.reply?, work]
    rw [unsettled]
    exact List.prefix_append ..
  | replied work => simp [InterleavedConnection.settled, PendingWork.reply?, work]

/-- A look-up that finds an archive is followed by a test of it. -/
theorem Advances.of_lookingUp (advances : Advances services connection shared next after)
    {id className method : String} {archive : Archive}
    (work : connection.work = .lookingUp id className method) (present : shared.store.get? id = some archive) :
    next = { connection with work := .testing archive className method } := by
  cases advances with
  | missing looking absent =>
    cases work.symm.trans looking
    cases present.symm.trans absent
  | found looking found =>
    cases work.symm.trans looking
    cases present.symm.trans found
    rfl
  | begun other | refused other | imported other | stored other | removed other | failed other
  | tested other | replied other => cases work.symm.trans other

/-- The end of a test settles its reply. -/
theorem Advances.of_testing (advances : Advances services connection shared next after) {archive : Archive}
    {className method : String} (work : connection.work = .testing archive className method) :
    next.settled = connection.replies ++ [.ofTest services.executor archive className method] := by
  cases advances with
  | failed testing failed =>
    cases work.symm.trans testing
    simp [InterleavedConnection.settled, PendingWork.reply?, replyError, Reply.ofTest, failed]
  | tested testing ran =>
    cases work.symm.trans testing
    simp [InterleavedConnection.settled, PendingWork.reply?, Reply.ofTest, ran]
  | begun other | refused other | imported other | stored other | removed other | missing other
  | found other | replied other => cases work.symm.trans other

/-- A removal settles its reply. -/
theorem Advances.of_removing (advances : Advances services connection shared next after) {id : String}
    (work : connection.work = .removing id) :
    next.settled = connection.replies ++
        [if shared.store.contains id then .ok id else .unknownDeployment id] ∧
      after.store = (shared.store.remove id).2 := by
  cases advances with
  | removed removing =>
    cases work.symm.trans removing
    exact ⟨rfl, rfl⟩
  | begun other | refused other | imported other | stored other | missing other | found other
  | failed other | tested other | replied other => cases work.symm.trans other

/-- A step leaves the deployments that it neither stores nor removes. -/
theorem Advances.get? (advances : Advances services connection shared next after) {id : String}
    (kept : ∀ archive, connection.work = .storing archive → archive.id ≠ id)
    (spared : connection.work ≠ .removing id) : after.store.get? id = shared.store.get? id := by
  cases advances with
  | @stored archive work =>
    rw [Store.get?_insert, if_neg fun same => kept archive work same.symm]
  | @removed other work =>
    have different : id ≠ other := by
      rintro rfl
      exact spared work
    rw [Store.get?_remove, if_neg different]
  | begun | refused | imported | missing | found | failed | tested | replied => rfl

end InterleavedConnection

namespace InterleavedSystem

/-- Connections that have not begun, with the frames that their peers will send. -/
def start (peers : List (List Bytes)) (store : Store) : InterleavedSystem :=
  ⟨peers.map .start, ⟨store, 0⟩⟩

variable {services : Services} {system next later : InterleavedSystem} {index : Nat} {order : List Nat}

theorem advance?_cases (advanced : system.advance? services index = some next) :
    ∃ connection changed shared, system.connections[index]? = some connection ∧
      connection.finish = none ∧ connection.Advances services system.shared changed shared ∧
      next = ⟨system.connections.set index changed, shared⟩ := by
  simp only [advance?, bind, pure, Option.bind_eq_some_iff] at advanced
  obtain ⟨connection, found, ⟨changed, shared⟩, advanced, made⟩ := advanced
  obtain ⟨unfinished, advances⟩ := InterleavedConnection.advances_of_advance? advanced
  exact ⟨connection, changed, shared, found, unfinished, advances, (Option.some.inj made).symm⟩

theorem schedule?_nil_iff : system.schedule? services [] = some later ↔ system = later :=
  Option.some_inj

theorem schedule?_cons_iff : system.schedule? services (index :: order) = some later ↔
    ∃ next, system.advance? services index = some next ∧ next.schedule? services order = some later := by
  simp only [schedule?, List.foldlM_cons, bind, Option.bind_eq_some_iff]

/-- The connections after a step. -/
theorem getElem?_set_self {connection changed : InterleavedConnection} {shared : SharedContext}
    (found : system.connections[index]? = some connection) :
    (InterleavedSystem.mk (system.connections.set index changed) shared).connections[index]? =
      some changed := by
  obtain ⟨bound, _⟩ := List.getElem?_eq_some_iff.mp found
  exact List.getElem?_set_self bound

end InterleavedSystem

end TestDaemon
