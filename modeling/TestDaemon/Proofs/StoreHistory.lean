import TestDaemon.Context

/-! # The store as its history tells it

A context is asked for one thing after the other: to ingest payloads, to execute command lines, to undeploy.
What the store holds under an ID in the end goes by the last of these operations that affects this ID.
-/

namespace TestDaemon

/-- What a context can be asked for. -/
inductive ContextOperation where
  | ingest (payload : Bytes)
  | execute (line : String)
  | undeploy (id : String)
  deriving DecidableEq, Repr

/-- Carry out an operation. -/
def Context.perform (services : Services) (context : Context) :
    ContextOperation → Except Error CommandReply × Context
  | .ingest payload =>
    let (result, context) := context.ingest services payload
    (result.map .respond, context)
  | .execute line => context.execute services line
  | .undeploy id =>
    let (reply, context) := context.undeploy id
    (.ok (.respond reply), context)

theorem Reply.ok_ne_failed (text other : String) : Reply.ok text ≠ .failed other := by
  intro same
  have heads := congrArg String.toList (Reply.line.inj same)
  simp [Reply.okHead, Reply.errorHead] at heads

namespace ContextOperation

/-- Puts an archive into the store. -/
inductive Deploys (services : Services) (context : Context) : ContextOperation → Archive → Prop
  | ingest {payload : Bytes} {archive : Archive}
    (imported : services.importer context.imports payload = .ok archive) :
    Deploys services context (.ingest payload) archive

/-- Takes what is under an ID out of the store. In a line the ID may have blanks around it. -/
inductive Undeploys : ContextOperation → String → Prop
  | undeploy (id : String) : Undeploys (.undeploy id) id
  | execute (rest : String) : Undeploys (.execute (Request.undeployHead ++ rest)) (Text.trim rest)

/-- Has to do with what is stored under an ID. -/
def Affects (services : Services) (context : Context) (operation : ContextOperation) (id : String) : Prop :=
  (∃ archive, Deploys services context operation archive ∧ archive.id = id) ∨ operation.Undeploys id

theorem undeploys_execute_iff {line id : String} :
    Undeploys (.execute line) id ↔ Command.parse line = .ok (.undeploy id) := by
  rw [Command.parse_eq_undeploy_iff]
  constructor
  · intro undeploys
    cases undeploys with
    | execute rest => exact ⟨rest, rfl, rfl⟩
  · rintro ⟨rest, rfl, rfl⟩
    exact .execute rest

variable {services : Services} {context : Context} {operation : ContextOperation} {archive : Archive}
  {id : String}

theorem Deploys.store (deploys : Deploys services context operation archive) :
    (context.perform services operation).2.store = (context.store.insert archive.id archive).2 := by
  cases deploys with
  | ingest imported => simp only [Context.perform, Context.ingest, imported]

theorem Deploys.unique (deploys : Deploys services context operation archive) {other : Archive}
    (again : Deploys services context operation other) : archive = other := by
  cases deploys with
  | ingest imported =>
    cases again with
    | ingest imported' => exact Except.ok.inj (imported.symm.trans imported')

theorem Undeploys.perform (undeploys : operation.Undeploys id) :
    context.perform services operation =
      (.ok (.respond (if context.store.contains id then .ok id else .unknownDeployment id)),
        { context with store := (context.store.remove id).2 }) := by
  cases operation with
  | ingest payload => cases undeploys
  | execute line =>
    have parsed := undeploys_execute_iff.mp undeploys
    simp only [Context.perform, Context.execute, parsed, Context.undeploy_eq]
  | undeploy id =>
    cases undeploys
    simp only [Context.perform, Context.undeploy_eq]

theorem get?_of_not_affects (spared : ¬ operation.Affects services context id) :
    (context.perform services operation).2.store.get? id = context.store.get? id := by
  obtain ⟨notDeployed, notUndeployed⟩ := not_or.mp spared
  cases operation with
  | ingest payload =>
    cases imported : services.importer context.imports payload with
    | error error => simp only [Context.perform, Context.ingest, imported]
    | ok archive =>
      have deploys : Deploys services context (.ingest payload) archive := .ingest imported
      have other : id ≠ archive.id := fun same => notDeployed ⟨archive, deploys, same.symm⟩
      rw [deploys.store, Store.get?_insert, if_neg other]
  | execute line =>
    cases parsed : Command.parse line with
    | error error => simp only [Context.perform, Context.execute, parsed]
    | ok command =>
      cases command with
      | stop => simp only [Context.perform, Context.execute, parsed]
      | test id className method => simp only [Context.perform, Context.execute, parsed]
      | undeploy removed =>
        have undeploys := undeploys_execute_iff.mpr parsed
        have other : id ≠ removed := by
          rintro rfl
          exact notUndeployed undeploys
        rw [undeploys.perform, Store.get?_remove, if_neg other]
  | undeploy removed =>
    have other : id ≠ removed := by
      rintro rfl
      exact notUndeployed (.undeploy id)
    rw [(Undeploys.undeploy removed).perform, Store.get?_remove, if_neg other]

/-- What the store holds under an ID after an operation. -/
theorem get?_perform_iff :
    (context.perform services operation).2.store.get? id = some archive ↔
      archive.id = id ∧ Deploys services context operation archive ∨
        ¬ operation.Affects services context id ∧ context.store.get? id = some archive := by
  by_cases affects : operation.Affects services context id
  · rcases affects with ⟨deployed, deploys, rfl⟩ | undeploys
    · rw [deploys.store, Store.get?_insert, if_pos rfl]
      constructor
      · intro same
        cases same
        exact .inl ⟨rfl, deploys⟩
      · rintro (⟨-, again⟩ | ⟨spared, -⟩)
        · rw [deploys.unique again]
        · exact absurd (.inl ⟨deployed, deploys, rfl⟩) spared
    · rw [undeploys.perform, Store.get?_remove, if_pos rfl]
      refine ⟨nofun, ?_⟩
      rintro (⟨-, deploys⟩ | ⟨spared, -⟩)
      · cases deploys
        cases undeploys
      · exact absurd (.inr undeploys) spared
  · rw [get?_of_not_affects affects]
    constructor
    · exact fun found => .inr ⟨affects, found⟩
    · rintro (⟨same, deploys⟩ | ⟨-, found⟩)
      · exact absurd (.inl ⟨archive, deploys, same⟩) affects
      · exact found

theorem store_of_not_affects (spared : ∀ id, ¬ operation.Affects services context id) :
    (context.perform services operation).2.store = context.store :=
  Store.ext_get? fun id => get?_of_not_affects (spared id)

end ContextOperation

/-! ## Histories -/

namespace Context

/-- Carry out operations in order. What importer and executor come to may differ each time. -/
def performAll (context : Context) (history : List (Services × ContextOperation)) : Context :=
  history.foldl (fun context (services, operation) => (context.perform services operation).2) context

/-- No operation of a history affects an ID. -/
def Spares (id : String) (context : Context) : List (Services × ContextOperation) → Prop
  | [] => True
  | (services, operation) :: history =>
    ¬ operation.Affects services context id ∧ Spares id (context.perform services operation).2 history

/-- The last operation of a history that affects the ID of an archive is the one that deploys it. -/
def LastDeploys (archive : Archive) (context : Context) (history : List (Services × ContextOperation)) :
    Prop :=
  ∃ before services operation after, history = before ++ (services, operation) :: after ∧
    operation.Deploys services (context.performAll before) archive ∧
    Spares archive.id (context.performAll (before ++ [(services, operation)])) after

variable {context : Context} {services : Services} {operation : ContextOperation} {archive : Archive}
  {history : List (Services × ContextOperation)}

theorem lastDeploys_cons_iff :
    LastDeploys archive context ((services, operation) :: history) ↔
      operation.Deploys services context archive ∧
          Spares archive.id (context.perform services operation).2 history ∨
        LastDeploys archive (context.perform services operation).2 history := by
  constructor
  · rintro ⟨before, services', operation', after, split, deploys, spares⟩
    cases before with
    | nil =>
      cases split
      exact .inl ⟨deploys, spares⟩
    | cons first before =>
      cases split
      exact .inr ⟨before, services', operation', after, rfl, deploys, spares⟩
  · rintro (⟨deploys, spares⟩ | ⟨before, services', operation', after, rfl, deploys, spares⟩)
    · exact ⟨[], services, operation, history, rfl, deploys, spares⟩
    · exact ⟨(services, operation) :: before, services', operation', after, rfl, deploys, spares⟩

theorem get?_performAll_iff {id : String} :
    (context.performAll history).store.get? id = some archive ↔
      archive.id = id ∧ LastDeploys archive context history ∨
        Spares id context history ∧ context.store.get? id = some archive := by
  induction history generalizing context with
  | nil =>
    have none : ¬ LastDeploys archive context [] := by
      rintro ⟨before, services, operation, after, split, -⟩
      cases before <;> cases split
    simp [none, Spares, performAll]
  | cons step history ih =>
    obtain ⟨services, operation⟩ := step
    have rest := @ih (context.perform services operation).2
    rw [ContextOperation.get?_perform_iff] at rest
    rw [lastDeploys_cons_iff, Spares]
    refine rest.trans ⟨?_, ?_⟩
    · rintro (⟨named, last⟩ | ⟨spares, ⟨rfl, deploys⟩ | ⟨spared, found⟩⟩)
      · exact .inl ⟨named, .inr last⟩
      · exact .inl ⟨rfl, .inl ⟨deploys, spares⟩⟩
      · exact .inr ⟨⟨spared, spares⟩, found⟩
    · rintro (⟨rfl, ⟨deploys, spares⟩ | last⟩ | ⟨⟨spared, spares⟩, found⟩)
      · exact .inr ⟨spares, .inl ⟨rfl, deploys⟩⟩
      · exact .inl ⟨rfl, last⟩
      · exact .inr ⟨spares, .inr ⟨spared, found⟩⟩

/-- The history of a context determines its store. The store holds an archive under an ID exactly if the
last operation that affects this ID deploys it, or if none does and it has been there from the start. An
undeploy is answered by `OK` exactly if there is something to remove, and an operation that affects no ID
leaves the store as it is. -/
theorem performAll_determined (context : Context) (history : List (Services × ContextOperation)) :
    (∀ id archive, (context.performAll history).store.get? id = some archive ↔
      archive.id = id ∧ LastDeploys archive context history ∨
        Spares id context history ∧ context.store.get? id = some archive) ∧
    ∀ before services operation after, history = before ++ (services, operation) :: after →
      let now := context.performAll before
      let performed := now.perform services operation
      (∀ id, operation.Undeploys id →
        (performed.1 = .ok (.respond (.ok id)) ↔ now.store.contains id = true)) ∧
      ((∀ id, ¬ operation.Affects services now id) → performed.2.store = now.store) := by
  refine ⟨fun id archive => get?_performAll_iff, ?_⟩
  intro before services operation after split
  refine ⟨fun id undeploys => ?_, ContextOperation.store_of_not_affects⟩
  rw [undeploys.perform]
  cases (context.performAll before).store.contains id with
  | true => simp
  | false => simp [(Reply.ok_ne_failed id _).symm, Reply.unknownDeployment]

/-- A deployment is undeployed by a line with blanks around its ID, and deployed again. -/
theorem performAll_determined_replaced :
    let services : Services :=
      { importer := fun _ _ => .ok (.new "a"), executor := fun _ _ _ => .error ⟨.execution, ""⟩ }
    let history : List (Services × ContextOperation) :=
      [(services, .ingest []), (services, .execute "CMD undeploy  a "), (services, .ingest []),
        (services, .execute "CMD undeploy b")]
    let deployed := (Context.new .empty).performAll (history.take 1)
    LastDeploys (.new "a") (.new .empty) history ∧
      (deployed.perform services (.execute "CMD undeploy  a ")).1 = .ok (.respond (.ok "a")) := by
  intro services history deployed
  have determined := performAll_determined (.new .empty) history
  have held : ((Context.new .empty).performAll history).store.get? "a" = some (.new "a") := by rfl
  have undeploys : ContextOperation.Undeploys (.execute "CMD undeploy  a ") "a" :=
    ContextOperation.undeploys_execute_iff.mpr
      (Command.parse_eq_undeploy_iff.mpr ⟨" a ", by decide +kernel, by decide +kernel⟩)
  have present : deployed.store.contains "a" = true := by decide +kernel
  refine ⟨?_, ((determined.2 _ _ _ _ rfl).1 "a" undeploys).mpr present⟩
  rcases (determined.1 "a" (.new "a")).mp held with ⟨-, last⟩ | ⟨-, found⟩
  · exact last
  · cases found

end Context

end TestDaemon
