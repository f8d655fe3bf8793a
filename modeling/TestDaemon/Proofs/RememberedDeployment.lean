import TestDaemon.Proofs.TestRun

/-! # The deployment that a client remembers

The history of a client is taken apart into operations of one exchange each: a run of a test counts as the
deploy, the test and the undeploy that it consists of. What the client remembers is what its peer has
acknowledged on the wire: the last ID that came in a reply to a deploy, unless a line that starts with `OK `
has answered an undeploy of that ID since. Nothing else changes it.
-/

namespace TestDaemon

open Request

namespace Client

variable {σ : Type}

/-- The operations of one exchange that an operation consists of. -/
def parts (remote : Remote σ) (client : Client σ) : ClientOperation → List ClientOperation
  | .deploy archive =>
    match Zip.encode archive with
    | .ok bytes => [.deployBytes bytes]
    | .error _ => []
  | .undeploy => client.deployment.toList.map .undeployId
  | .invoke className method => client.deployment.toList.map (.invokeOn · className method)
  | .runTest archive className method =>
    .deployBytes archive ::
      match client.deployBytes remote archive with
      | (.error _, _) => []
      | (.ok id, deployed) =>
        .invokeOn id className method ::
          if (deployed.invokeOn remote id className method).2.connected then [.undeployId id] else []
  | operation => [operation]

/-- The exchanges of operations that a client carries out in a row. -/
def exchanges (remote : Remote σ) (client : Client σ) : List ClientOperation → List (Turn σ)
  | [] => []
  | operation :: operations =>
    let turn := client.turn remote operation
    client.turns remote (client.parts remote operation) ++
      if waits turn.result then [] else turn.after.exchanges remote operations

/-- What operations in a row make of a client. -/
def performed (remote : Remote σ) (client : Client σ) (operations : List ClientOperation) : Client σ :=
  ((client.performAll remote operations).getLast?.map Prod.snd).getD client

theorem performed_cons (remote : Remote σ) (client : Client σ) (operation : ClientOperation)
    (operations : List ClientOperation) :
    client.performed remote (operation :: operations) =
      let turn := client.turn remote operation
      if waits turn.result then turn.after else turn.after.performed remote operations := by
  simp only [performed, performAll_cons, List.getLast?_cons]
  split
  · rfl
  · cases ((client.turn remote operation).after.performAll remote operations).getLast? <;> rfl

/-- Turns that lead from one client to another. -/
inductive Leads (remote : Remote σ) : Client σ → List (Turn σ) → Client σ → Prop
  | done (client : Client σ) : Leads remote client [] client
  | turn {client last : Client σ} {turns : List (Turn σ)} (operation : ClientOperation)
      (rest : Leads remote (client.turn remote operation).after turns last) :
      Leads remote client (client.turn remote operation :: turns) last

namespace Leads

variable {remote : Remote σ} {client middle last : Client σ} {first second : List (Turn σ)}

theorem append (one : Leads remote client first middle) (two : Leads remote middle second last) :
    Leads remote client (first ++ second) last := by
  induction one with
  | done => exact two
  | turn operation _ ih => exact .turn operation (ih two)

/-- A row of turns ends with one that never returns. -/
theorem ended {operation : ClientOperation} {operations : List ClientOperation}
    (ends : operations = [] ∨ waits (client.turn remote operation).result = true) :
    Leads remote client (client.turns remote (operation :: operations)) (client.turn remote operation).after := by
  have same : client.turns remote (operation :: operations) = [client.turn remote operation] := by
    rcases ends with rfl | waiting
    · simp [turns]
    · simp [turns, waiting]
  rw [same]
  exact .turn operation (.done _)

theorem returned {operation : ClientOperation} {operations : List ClientOperation}
    (returns : waits (client.turn remote operation).result = false)
    (rest : Leads remote (client.turn remote operation).after
      ((client.turn remote operation).after.turns remote operations) last) :
    Leads remote client (client.turns remote (operation :: operations)) last := by
  rw [turns, if_neg (by simp [returns])]
  exact .turn operation rest

end Leads

/-- A test, and the undeploy behind it if the connection is still open. -/
theorem invokeOn_leads {remote : Remote σ} {deployed tested : Client σ} {id className method : String}
    {outcome : Except Halt TestResult}
    (invoked : deployed.invokeOn remote id className method = (outcome, tested)) :
    Leads remote deployed
      (deployed.turns remote
        (.invokeOn id className method :: if tested.connected then [.undeployId id] else []))
      (if outcome ≠ .error .waiting ∧ tested.connected = true then (tested.undeployId remote id).2
        else tested) := by
  have turned : deployed.turn remote (.invokeOn id className method) =
      ⟨deployed, .invokeOn id className method, outcome.map .tested, tested⟩ := by
    simp only [turn, perform, invoked]
  have waiting : waits (deployed.turn remote (.invokeOn id className method)).result = true ↔
      outcome = .error .waiting := by
    rw [turned]
    rcases outcome with (_ | _) | _ <;> simp [waits, Except.map]
  by_cases goes : outcome ≠ .error .waiting ∧ tested.connected = true
  · rw [if_pos goes, if_pos goes.2]
    refine .returned (by simpa using mt waiting.mp goes.1) ?_
    rw [turned]
    exact .ended (.inl rfl)
  · have same : (deployed.turn remote (.invokeOn id className method)).after = tested := by rw [turned]
    rw [if_neg goes]
    conv_rhs => rw [← same]
    refine .ended ?_
    by_cases silent : outcome = .error .waiting
    · exact .inr (waiting.mpr silent)
    · exact .inl (if_neg fun opened => goes ⟨silent, opened⟩)

/-- The parts of an operation make of a client what the operation does. -/
theorem perform_leads (remote : Remote σ) (client : Client σ) (operation : ClientOperation) :
    Leads remote client (client.turns remote (client.parts remote operation))
      (client.perform remote operation).2 := by
  cases operation with
  | deployBytes | undeployId | invokeOn | stop | close => exact .ended (.inl rfl)
  | deploy archive =>
    simp only [parts, perform, deploy]
    cases Zip.encode archive with
    | ok bytes => exact .ended (.inl rfl)
    | error error => exact .done client
  | undeploy =>
    simp only [parts, perform, undeploy, withDeployment]
    cases client.deployment with
    | none => exact .done client
    | some id => exact .ended (.inl rfl)
  | invoke className method =>
    simp only [parts, perform, invoke, withDeployment]
    cases client.deployment with
    | none => exact .done client
    | some id => exact .ended (.inl rfl)
  | runTest archive className method =>
    simp only [parts, perform]
    rcases deploys : client.deployBytes remote archive with ⟨halt | id, deployed⟩
    · have failed : (client.turn remote (.deployBytes archive)).after = deployed :=
        congrArg Prod.snd deploys
      simp only [runTest, deploys]
      rw [← failed]
      exact .ended (.inl rfl)
    · rcases invoked : deployed.invokeOn remote id className method with ⟨outcome, tested⟩
      have turned : client.turn remote (.deployBytes archive) =
          ⟨client, .deployBytes archive, .ok (.deployed id), deployed⟩ := by
        simp only [turn, perform, deploys, Except.map]
      refine .returned (by rw [turned]; rfl) ?_
      rw [turned, runTest_of_deployed deploys invoked, apply_ite Prod.snd]
      simpa only [invoked] using invokeOn_leads invoked

/-- Exchanges make of a client what the operations do. -/
theorem exchanges_leads (remote : Remote σ) (client : Client σ) (operations : List ClientOperation) :
    Leads remote client (client.exchanges remote operations) (client.performed remote operations) := by
  induction operations generalizing client with
  | nil => exact .done client
  | cons operation operations ih =>
    have first := perform_leads remote client operation
    rw [exchanges, performed_cons]
    dsimp only
    split
    · rw [List.append_nil]
      exact first
    · exact first.append (ih _)

end Client

/-! ## Acknowledgements -/

/-- A turn is a deploy, and the peer's reply is `OK DPL ` and an ID. -/
def Turn.Deploys {σ : Type} (remote : Remote σ) (turn : Turn σ) (id : String) : Prop :=
  turn.before.connected = true ∧ ∃ archive link, turn.operation = .deployBytes archive ∧
    turn.before.link.Replies remote (ofDeploy archive) Link.readLine ("OK DPL " ++ id) link

/-- A turn is an undeploy of an ID, and the peer's reply is a line that starts with `OK `. -/
def Turn.Undeploys {σ : Type} (remote : Remote σ) (turn : Turn σ) (id : String) : Prop :=
  turn.before.connected = true ∧ ∃ text link, turn.operation = .undeployId id ∧
    turn.before.link.Replies remote (ofCommand (undeployCommand id)) Link.readLine ("OK " ++ text) link

namespace Turn

variable {σ : Type} {remote : Remote σ} {turn : Turn σ} {id other : String}

theorem Deploys.unique (one : turn.Deploys remote id) (two : turn.Deploys remote other) : id = other := by
  obtain ⟨_, archive, _, operation, taken, sent, read⟩ := one
  obtain ⟨_, archive', _, operation', taken', sent', read'⟩ := two
  obtain rfl := ClientOperation.deployBytes.inj (operation.symm.trans operation')
  obtain rfl := (Prod.mk.inj (sent.symm.trans sent')).2
  exact (String.append_right_inj _).mp (Except.ok.inj (Prod.mk.inj (read.symm.trans read')).1)

theorem Undeploys.unique (one : turn.Undeploys remote id) (two : turn.Undeploys remote other) : id = other := by
  obtain ⟨_, _, _, operation, _⟩ := one
  obtain ⟨_, _, _, operation', _⟩ := two
  exact ClientOperation.undeployId.inj (operation.symm.trans operation')

theorem Undeploys.not_deploys (undeploys : turn.Undeploys remote id) : ¬ turn.Deploys remote other := by
  obtain ⟨_, _, _, operation, _⟩ := undeploys
  rintro ⟨_, _, _, operation', _⟩
  cases operation.symm.trans operation'

/-- What a turn makes of the remembered deployment, as its peer acknowledges something or nothing. -/
inductive Remembers (remote : Remote σ) (turn : Turn σ) : Prop
  | deploys (id : String) (deploys : turn.Deploys remote id) (result : turn.result = .ok (.deployed id))
      (after : turn.after.deployment = some id)
  | undeploys (id : String) (undeploys : turn.Undeploys remote id) (result : turn.result = .ok .done)
      (after : turn.after.deployment =
        if turn.before.deployment = some id then none else turn.before.deployment)
  | neither (noDeploy : ∀ id, ¬ turn.Deploys remote id) (noUndeploy : ∀ id, ¬ turn.Undeploys remote id)
      (after : turn.after.deployment = turn.before.deployment)

theorem Remembers.deployment_iff (remembers : turn.Remembers remote) :
    turn.after.deployment = some id ↔ turn.Deploys remote id ∨
      (turn.before.deployment = some id ∧ ¬ turn.Undeploys remote id ∧
        ∀ other, ¬ turn.Deploys remote other) := by
  cases remembers with
  | deploys new deploys _ after =>
    rw [after, Option.some.injEq]
    constructor
    · rintro rfl
      exact .inl deploys
    · rintro (same | ⟨_, _, none⟩)
      · exact deploys.unique same
      · exact absurd deploys (none new)
  | undeploys old undeploys _ after =>
    rw [after]
    constructor
    · intro kept
      split at kept
      · cases kept
      · next different =>
        refine .inr ⟨kept, fun same => different ?_, fun other => undeploys.not_deploys⟩
        rw [kept, undeploys.unique same]
    · rintro (deploys | ⟨kept, still, _⟩)
      · exact absurd deploys undeploys.not_deploys
      · rw [if_neg, kept]
        rintro same
        obtain rfl := Option.some.inj (kept.symm.trans same)
        exact still undeploys
  | neither noDeploy noUndeploy after =>
    rw [after]
    exact ⟨fun kept => .inr ⟨kept, noUndeploy id, noDeploy⟩, fun cause =>
      cause.elim (fun deploys => absurd deploys (noDeploy id)) And.left⟩

theorem Remembers.of_error {halt : Halt} (remembers : turn.Remembers remote)
    (failed : turn.result = .error halt) : turn.after.deployment = turn.before.deployment := by
  cases remembers with
  | deploys _ _ result => cases failed.symm.trans result
  | undeploys _ _ result => cases failed.symm.trans result
  | neither _ _ after => exact after

theorem Remembers.of_undeployId (remembers : turn.Remembers remote) (operation : turn.operation = .undeployId id)
    (other : turn.before.deployment ≠ some id) : turn.after.deployment = turn.before.deployment := by
  cases remembers with
  | deploys _ deploys =>
    obtain ⟨_, _, _, deploy, _⟩ := deploys
    cases operation.symm.trans deploy
  | undeploys old undeploys _ after =>
    obtain ⟨_, _, _, undeploy, _⟩ := undeploys
    obtain rfl := ClientOperation.undeployId.inj (operation.symm.trans undeploy)
    rw [after, if_neg other]
  | neither _ _ after => exact after

theorem Remembers.of_farewell (remembers : turn.Remembers remote) (farewell : turn.operation.isFarewell = true) :
    turn.after.deployment = turn.before.deployment := by
  cases remembers with
  | deploys _ deploys =>
    obtain ⟨_, _, _, deploy, _⟩ := deploys
    rw [deploy] at farewell
    contradiction
  | undeploys _ undeploys =>
    obtain ⟨_, _, _, undeploy, _⟩ := undeploys
    rw [undeploy] at farewell
    contradiction
  | neither _ _ after => exact after

end Turn

/-- The operations that other ones consist of. -/
def ClientOperation.isPart : ClientOperation → Bool
  | deployBytes _ | undeployId _ | invokeOn .. | stop | close => true
  | deploy _ | undeploy | invoke .. | runTest .. => false

namespace Client

variable {σ : Type} {remote : Remote σ} {client last : Client σ} {turns : List (Turn σ)}

theorem turn_deploys_iff {archive : Bytes} {id : String} :
    (client.turn remote (.deployBytes archive)).Deploys remote id ↔
      (client.deployBytes remote archive).1 = .ok id := by
  constructor
  · rintro ⟨connected, _, link, same, replied⟩
    obtain rfl := ClientOperation.deployBytes.inj same
    exact congrArg Prod.fst (deployBytes_eq_ok_iff.mpr ⟨connected, link, replied, rfl⟩)
  · intro deploys
    obtain ⟨connected, link, replied, _⟩ := deployBytes_eq_ok_iff.mp (Prod.ext deploys rfl)
    exact ⟨connected, archive, link, rfl, replied⟩

theorem turn_undeploys_iff {other id : String} :
    (client.turn remote (.undeployId other)).Undeploys remote id ↔
      other = id ∧ (client.undeployId remote other).1 = .ok () := by
  constructor
  · rintro ⟨connected, text, link, same, replied⟩
    obtain rfl := ClientOperation.undeployId.inj same
    exact ⟨rfl, congrArg Prod.fst (undeployId_eq_ok_iff.mpr ⟨connected, text, link, replied, rfl⟩)⟩
  · rintro ⟨rfl, undeploys⟩
    obtain ⟨connected, text, link, replied, _⟩ := undeployId_eq_ok_iff.mp (Prod.ext undeploys rfl)
    exact ⟨connected, text, link, rfl, replied⟩

theorem turn_remembers (remote : Remote σ) (client : Client σ) {operation : ClientOperation}
    (part : operation.isPart = true) : (client.turn remote operation).Remembers remote := by
  have foreign {operation : ClientOperation} (noDeploy : ∀ archive, operation ≠ .deployBytes archive)
      (noUndeploy : ∀ id, operation ≠ .undeployId id)
      (same : (client.perform remote operation).2.deployment = client.deployment) :
      (client.turn remote operation).Remembers remote :=
    .neither (fun _ ⟨_, archive, _, deploy, _⟩ => noDeploy archive deploy)
      (fun id ⟨_, _, _, undeploy, _⟩ => noUndeploy id undeploy) same
  cases operation with
  | deployBytes archive =>
    have remembered := deployBytes_deployment remote client archive
    cases deploys : (client.deployBytes remote archive).1 with
    | ok id =>
      rw [deploys] at remembered
      exact .deploys id (turn_deploys_iff.mpr deploys) (congrArg (Except.map ClientAnswer.deployed) deploys) remembered
    | error halt =>
      rw [deploys] at remembered
      refine .neither (fun id deploy => ?_) (fun _ ⟨_, _, _, undeploy, _⟩ => nomatch undeploy) remembered
      cases deploys.symm.trans (turn_deploys_iff.mp deploy)
  | undeployId id =>
    have remembered := undeployId_deployment remote client id
    cases undeploys : (client.undeployId remote id).1 with
    | ok done =>
      rw [undeploys] at remembered
      exact .undeploys id (turn_undeploys_iff.mpr ⟨rfl, undeploys⟩)
        (congrArg (Except.map fun _ => ClientAnswer.done) undeploys) remembered
    | error halt =>
      rw [undeploys] at remembered
      refine .neither (fun _ ⟨_, _, _, deploy, _⟩ => nomatch deploy) (fun other undeploy => ?_) remembered
      cases undeploys.symm.trans (turn_undeploys_iff.mp undeploy).2
  | invokeOn id className method =>
    exact foreign (fun _ => nofun) (fun _ => nofun) (invokeOn_deployment remote client id className method)
  | stop => exact foreign (fun _ => nofun) (fun _ => nofun) (stop_deployment remote client)
  | close => exact foreign (fun _ => nofun) (fun _ => nofun) rfl
  | deploy | undeploy | invoke | runTest => contradiction

/-! ## The history -/

theorem parts_isPart (operation : ClientOperation) :
    ∀ part ∈ client.parts remote operation, part.isPart = true := by
  intro part member
  cases operation with
  | deployBytes | undeployId | invokeOn | stop | close =>
    obtain rfl := List.mem_singleton.mp member
    rfl
  | deploy archive =>
    simp only [parts] at member
    split at member
    · obtain rfl := List.mem_singleton.mp member
      rfl
    · contradiction
  | undeploy =>
    obtain ⟨id, _, rfl⟩ := List.mem_map.mp member
    rfl
  | invoke className method =>
    obtain ⟨id, _, rfl⟩ := List.mem_map.mp member
    rfl
  | runTest archive className method =>
    rcases List.mem_cons.mp member with rfl | member
    · rfl
    · split at member
      · contradiction
      · rcases List.mem_cons.mp member with rfl | member
        · rfl
        · split at member
          · obtain rfl := List.mem_singleton.mp member
            rfl
          · contradiction

theorem operation_mem_of_mem_turns {operations : List ClientOperation} {turn : Turn σ}
    (member : turn ∈ client.turns remote operations) : turn.operation ∈ operations := by
  induction operations generalizing client with
  | nil => contradiction
  | cons operation operations ih =>
    rcases List.mem_cons.mp member with rfl | member
    · exact List.mem_cons_self ..
    · split at member
      · contradiction
      · exact List.mem_cons_of_mem _ (ih member)

theorem exchanges_isPart (remote : Remote σ) (client : Client σ) (operations : List ClientOperation) :
    ∀ turn ∈ client.exchanges remote operations, turn.operation.isPart = true := by
  induction operations generalizing client with
  | nil => simp [exchanges]
  | cons operation operations ih =>
    intro turn member
    rcases List.mem_append.mp member with first | later
    · exact parts_isPart operation _ (operation_mem_of_mem_turns first)
    · split at later
      · contradiction
      · exact ih _ turn later

theorem Leads.eq_turn (leads : Leads remote client turns last) :
    ∀ turn ∈ turns, turn = turn.before.turn remote turn.operation := by
  induction leads with
  | done => simp
  | turn operation _ ih => exact List.forall_mem_cons.mpr ⟨rfl, ih⟩

/-- The last acknowledged deploy among turns is one of an ID, and no undeploy of that ID has been acknowledged
since. -/
def Standing (remote : Remote σ) (turns : List (Turn σ)) (id : String) : Prop :=
  ∃ earlier turn later, turns = earlier ++ turn :: later ∧ turn.Deploys remote id ∧
    ∀ next ∈ later, ¬ next.Undeploys remote id ∧ ∀ other, ¬ next.Deploys remote other

theorem standing_cons_iff {turn : Turn σ} {id : String} :
    Standing remote (turn :: turns) id ↔ Standing remote turns id ∨
      (turn.Deploys remote id ∧
        ∀ next ∈ turns, ¬ next.Undeploys remote id ∧ ∀ other, ¬ next.Deploys remote other) := by
  constructor
  · rintro ⟨_ | ⟨first, earlier⟩, found, later, split, deploys, quiet⟩
    · obtain ⟨rfl, rfl⟩ := List.cons_eq_cons.mp split
      exact .inr ⟨deploys, quiet⟩
    · obtain ⟨-, rfl⟩ := List.cons_eq_cons.mp split
      exact .inl ⟨earlier, found, later, rfl, deploys, quiet⟩
  · rintro (⟨earlier, found, later, rfl, deploys, quiet⟩ | ⟨deploys, quiet⟩)
    · exact ⟨turn :: earlier, found, later, rfl, deploys, quiet⟩
    · exact ⟨[], turn, turns, rfl, deploys, quiet⟩

theorem Leads.deployment_iff (leads : Leads remote client turns last)
    (parts : ∀ turn ∈ turns, turn.operation.isPart = true) {id : String} :
    last.deployment = some id ↔ Standing remote turns id ∨ (client.deployment = some id ∧
      ∀ turn ∈ turns, ¬ turn.Undeploys remote id ∧ ∀ other, ¬ turn.Deploys remote other) := by
  induction leads with
  | done client => simp [Standing]
  | @turn before _ _ operation _ ih =>
    obtain ⟨part, parts⟩ := List.forall_mem_cons.mp parts
    have remembers : (before.turn remote operation).Remembers remote := turn_remembers remote before part
    rw [ih parts, remembers.deployment_iff, standing_cons_iff, List.forall_mem_cons]
    constructor
    · rintro (standing | ⟨deploys | ⟨kept, quiet⟩, rest⟩)
      · exact .inl (.inl standing)
      · exact .inl (.inr ⟨deploys, rest⟩)
      · exact .inr ⟨kept, quiet, rest⟩
    · rintro ((standing | ⟨deploys, rest⟩) | ⟨kept, quiet, rest⟩)
      · exact .inl standing
      · exact .inr ⟨.inl deploys, rest⟩
      · exact .inr ⟨.inr ⟨kept, quiet⟩, rest⟩

/-- A failed operation leaves the remembered deployment, unless a deploy within it has been acknowledged. -/
theorem perform_failed {operation : ClientOperation} {halt : Halt}
    (failed : (client.perform remote operation).1 = .error halt) :
    (client.perform remote operation).2.deployment = client.deployment ∨
      ∃ exchange ∈ client.turns remote (client.parts remote operation), ∃ id, exchange.Deploys remote id := by
  have single (operation : ClientOperation) (part : operation.isPart = true)
      (failed : (client.perform remote operation).1 = .error halt) :
      (client.perform remote operation).2.deployment = client.deployment :=
    (turn_remembers remote client part).of_error failed
  cases operation with
  | deployBytes | undeployId | invokeOn | stop | close => exact .inl (single _ rfl failed)
  | deploy archive =>
    simp only [perform, deploy] at failed ⊢
    cases encoded : Zip.encode archive with
    | ok bytes =>
      rw [encoded] at failed
      exact .inl (single (.deployBytes bytes) rfl failed)
    | error error => exact .inl rfl
  | undeploy =>
    simp only [perform, undeploy, withDeployment] at failed ⊢
    cases remembered : client.deployment with
    | none => exact .inl remembered
    | some id =>
      rw [remembered] at failed
      exact .inl ((single (.undeployId id) rfl failed).trans remembered)
  | invoke className method =>
    simp only [perform, invoke, withDeployment] at failed ⊢
    cases remembered : client.deployment with
    | none => exact .inl remembered
    | some id =>
      rw [remembered] at failed
      exact .inl ((single (.invokeOn id className method) rfl failed).trans remembered)
  | runTest archive className method =>
    cases deploys : (client.deployBytes remote archive).1 with
    | ok id =>
      exact .inr ⟨_, List.mem_cons_self .., id, turn_deploys_iff.mpr deploys⟩
    | error halt =>
      have same := deployBytes_deployment remote client archive
      rw [deploys] at same
      have stays : (client.runTest remote archive className method).2 =
          (client.deployBytes remote archive).2 := by
        rcases deployed : client.deployBytes remote archive with ⟨_ | id, after⟩
        · simp only [runTest, deployed]
        · rw [deployed] at deploys
          contradiction
      exact .inl ((congrArg Client.deployment stays).trans same)

end Client

/-- What becomes of the deployment that a client remembers when it carries out operations. -/
structure Client.KeepsTrack {σ : Type} (remote : Remote σ) (client : Client σ)
    (operations : List ClientOperation) : Prop where
  leads : Leads remote client (client.exchanges remote operations) (client.performed remote operations)
  remembered : ∀ id, (client.performed remote operations).deployment = some id ↔
    Standing remote (client.exchanges remote operations) id
  /-- A failed operation changes it at most by a deploy within it that has been acknowledged. -/
  failed : ∀ turn ∈ client.turns remote operations, ∀ halt, turn.result = .error halt →
    turn.after.deployment = turn.before.deployment ∨
      ∃ exchange ∈ turn.before.turns remote (turn.before.parts remote turn.operation),
        ∃ id, exchange.Deploys remote id
  /-- A failed exchange never changes it. -/
  broken : ∀ turn ∈ client.exchanges remote operations, ∀ halt, turn.result = .error halt →
    turn.after.deployment = turn.before.deployment
  foreign : ∀ turn ∈ client.exchanges remote operations, ∀ id, turn.operation = .undeployId id →
    turn.before.deployment ≠ some id → turn.after.deployment = turn.before.deployment
  closing : ∀ turn ∈ client.exchanges remote operations, turn.operation.isFarewell = true →
    turn.after.deployment = turn.before.deployment

namespace Client

variable {σ : Type}

/-- Whatever operations a client carries out with whatever peer, it keeps track of its deployment. -/
theorem deployment_tracked (remote : Remote σ) (link : Link σ) (operations : List ClientOperation) :
    (new link).KeepsTrack remote operations := by
  have leads := exchanges_leads remote (new link) operations
  have parts := exchanges_isPart remote (new link) operations
  have remembers {turn : Turn σ} (member : turn ∈ (new link).exchanges remote operations) :
      turn.Remembers remote := by
    rw [leads.eq_turn turn member]
    exact turn_remembers remote turn.before (parts turn member)
  refine ⟨leads, fun id => ?_, fun turn member halt failed => ?_, fun turn member halt failed => ?_,
    fun turn member id operation other => ?_, fun turn member farewell => ?_⟩
  · rw [leads.deployment_iff parts]
    exact or_iff_left fun none => nomatch none.1
  · obtain ⟨prior, later, split⟩ := List.append_of_mem member
    have same := (turns_split split).1
    rw [same] at failed ⊢
    exact perform_failed failed
  · exact (remembers member).of_error failed
  · exact (remembers member).of_undeployId operation other
  · exact (remembers member).of_farewell farewell

/-- A run of a test whose undeploy is refused, after a test without a result. -/
example : ((new (.canned (Utf8.encode "OK DPL a\r\nERR no\r\nERR no\r\n"))).performed .canned
    [.runTest [0x61] "C" "m", .undeployId "b", .close]).deployment = some "a" := by
  decide +kernel

end Client

end TestDaemon
