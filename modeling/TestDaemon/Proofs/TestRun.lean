import TestDaemon.CommandLine.Control
import TestDaemon.Proofs.ClientReplies

/-! # Running one test of an archive

A run of a test is a deploy, a test of what has been deployed, and an undeploy of it if the connection is
still open. It passes its result on exactly if the peer answers all three as asked. Else the first failure
counts, and the requests that the peer is sent tell how far the run has come. The control program succeeds
with a run whose test has not failed, and with no other.
-/

namespace TestDaemon

open Request

namespace Client

section

variable {σ : Type} {remote : Remote σ} {client deployed tested after : Client σ} {archive : Bytes}
  {id className method : String} {result : TestResult}

/-- Which outcome counts, that of a test or that of the undeploy behind it. -/
def prevailing : Except Halt TestResult → Except Halt Unit → Except Halt TestResult
  | _, .error .waiting => .error .waiting
  | .error halt, _ => .error halt
  | .ok _, .error halt => .error halt
  | .ok result, .ok () => .ok result

theorem prevailing_eq_ok_iff {outcome : Except Halt TestResult} {undeployed : Except Halt Unit} :
    prevailing outcome undeployed = .ok result ↔ outcome = .ok result ∧ undeployed = .ok () := by
  rcases outcome with halt | other <;> rcases undeployed with (_ | _) | _ <;> simp [prevailing]

theorem deployBytes_remembers (deploys : client.deployBytes remote archive = (.ok id, deployed)) :
    deployed.connected = true ∧ deployed.deployment = some id := by
  obtain ⟨connected, link, _, rfl⟩ := deployBytes_eq_ok_iff.mp deploys
  exact ⟨connected, rfl⟩

/-- A run of a test goes by the ID that the peer gives, and ends with the test if that never returns or
breaks the connection. -/
theorem runTest_of_deployed {outcome : Except Halt TestResult}
    (deploys : client.deployBytes remote archive = (.ok id, deployed))
    (invoked : deployed.invokeOn remote id className method = (outcome, tested)) :
    client.runTest remote archive className method =
      if outcome ≠ .error .waiting ∧ tested.connected = true then
        (prevailing outcome (tested.undeployId remote id).1, (tested.undeployId remote id).2)
      else (outcome, tested) := by
  obtain ⟨_, remembered⟩ := deployBytes_remembers deploys
  have kept := invokeOn_deployment remote deployed id className method
  rw [invoked, remembered] at kept
  have cleans : tested.undeploy remote = tested.undeployId remote id := by
    simp only [undeploy, withDeployment, show tested.deployment = some id from kept]
  simp only [runTest, deploys, invoke, withDeployment, remembered, invoked]
  cases opened : tested.connected with
  | false => rcases outcome with (_ | _) | _ <;> simp [opened]
  | true =>
    rcases outcome with (error | _) | result
    · simp only [opened, if_true, cleans]
      rcases tested.undeployId remote id with ⟨(_ | _) | _, after⟩ <;> rfl
    · rfl
    · simp only [opened, if_true, cleans]
      rcases tested.undeployId remote id with ⟨(_ | _) | _, after⟩ <;> rfl

/-- A run has a result exactly if each of its three parts succeeds. -/
theorem runTest_eq_ok_iff :
    client.runTest remote archive className method = (.ok result, after) ↔
      ∃ id deployed tested, client.deployBytes remote archive = (.ok id, deployed) ∧
        deployed.invokeOn remote id className method = (.ok result, tested) ∧
        tested.undeployId remote id = (.ok (), after) := by
  constructor
  · intro ran
    rcases deploys : client.deployBytes remote archive with ⟨halt | id, deployed⟩
    · simp [runTest, deploys] at ran
    · rcases invoked : deployed.invokeOn remote id className method with ⟨outcome, tested⟩
      rw [runTest_of_deployed deploys invoked] at ran
      split at ran
      · obtain ⟨counts, left⟩ := Prod.mk.inj ran
        obtain ⟨rfl, undeployed⟩ := prevailing_eq_ok_iff.mp counts
        exact ⟨id, deployed, tested, rfl, invoked, Prod.ext undeployed left⟩
      · next ends =>
        -- A test that has a result leaves the connection open.
        obtain ⟨rfl, rfl⟩ := Prod.mk.inj ran
        obtain ⟨opened, _, _, rfl⟩ := invokeOn_eq_ok_iff.mp invoked
        exact absurd ⟨by simp, opened⟩ ends
  · rintro ⟨id, deployed, tested, deploys, invoked, undeployed⟩
    obtain ⟨opened, _⟩ := undeployId_eq_ok_iff.mp undeployed
    rw [runTest_of_deployed deploys invoked, if_pos ⟨by simp, opened⟩, undeployed]
    rfl

end

/-- What a run of one test comes to. The peer keeps a record of what it is sent. -/
structure TestRun {σ : Type} (remote : Remote σ) (client : Client (σ × List Bytes)) (archive : Bytes)
    (className method : String) : Prop where
  /-- There is a result exactly with the three replies that are asked for. -/
  passes : ∀ result, (client.runTest remote.recording archive className method).1 = .ok result ↔
    ∃ id deployed tested text undeployed,
      client.link.Replies remote.recording (ofDeploy archive) Link.readLine ("OK DPL " ++ id) deployed ∧
      deployed.Replies remote.recording (ofCommand (testCommand id className method)) Link.readResult
        result tested ∧
      tested.Replies remote.recording (ofCommand (undeployCommand id)) Link.readLine ("OK " ++ text) undeployed
  cleared : ∀ result after, client.runTest remote.recording archive className method = (.ok result, after) →
    after.deployment = none
  /-- A failed deploy is the end of the run. -/
  undeployable : ∀ halt failed, client.deployBytes remote.recording archive = (.error halt, failed) →
    client.runTest remote.recording archive className method = (.error halt, failed) ∧
      failed.sent = client.sent ++ [ofDeploy archive]
  /-- The error of the test counts, whatever the undeploy returns. -/
  untested : ∀ id deployed error tested, client.deployBytes remote.recording archive = (.ok id, deployed) →
    deployed.invokeOn remote.recording id className method = (.error (.failed error), tested) →
    (tested.connected = true → (tested.undeployId remote.recording id).1 ≠ .error .waiting) →
    (client.runTest remote.recording archive className method).1 = .error (.failed error)
  /-- Behind a result it is the undeploy that counts. -/
  unremoved : ∀ id deployed result tested halt, client.deployBytes remote.recording archive = (.ok id, deployed) →
    deployed.invokeOn remote.recording id className method = (.ok result, tested) →
    (tested.undeployId remote.recording id).1 = .error halt →
    (client.runTest remote.recording archive className method).1 = .error halt
  /-- The undeploy is sent exactly if the test has returned and the connection is still open. -/
  cleansUp : ∀ id deployed outcome tested, client.deployBytes remote.recording archive = (.ok id, deployed) →
    deployed.invokeOn remote.recording id className method = (outcome, tested) →
    (client.runTest remote.recording archive className method).2.sent =
      client.sent ++ [ofDeploy archive, ofCommand (testCommand id className method)] ++
        if outcome ≠ .error .waiting ∧ tested.connected = true then [ofCommand (undeployCommand id)] else []

theorem testRun {σ : Type} (remote : Remote σ) {client : Client (σ × List Bytes)}
    (connected : client.connected = true) (archive : Bytes) (className method : String) :
    client.TestRun remote archive className method where
  passes result := by
    constructor
    · intro ran
      obtain ⟨id, deployed, tested, deploys, invoked, undeployed⟩ :=
        runTest_eq_ok_iff.mp (Prod.ext ran rfl)
      obtain ⟨_, first, replied, rfl⟩ := deployBytes_eq_ok_iff.mp deploys
      obtain ⟨_, second, answered, rfl⟩ := invokeOn_eq_ok_iff.mp invoked
      obtain ⟨_, text, third, acknowledged, _⟩ := undeployId_eq_ok_iff.mp undeployed
      exact ⟨id, first, second, text, third, replied, answered, acknowledged⟩
    · rintro ⟨id, first, second, text, third, replied, answered, acknowledged⟩
      have deploys := deployBytes_eq_ok_iff.mpr ⟨connected, first, replied, rfl⟩
      let deployed : Client (σ × List Bytes) := { client with link := first, deployment := some id }
      let tested : Client (σ × List Bytes) := { deployed with link := second }
      have invoked : deployed.invokeOn remote.recording id className method = (.ok result, tested) :=
        invokeOn_eq_ok_iff.mpr ⟨connected, second, answered, rfl⟩
      have undeployed : tested.undeployId remote.recording id = (.ok (), _) :=
        undeployId_eq_ok_iff.mpr ⟨connected, text, third, acknowledged, rfl⟩
      exact congrArg Prod.fst (runTest_eq_ok_iff.mpr ⟨id, deployed, tested, deploys, invoked, undeployed⟩)
  cleared result after ran := by
    obtain ⟨id, deployed, tested, deploys, invoked, undeployed⟩ := runTest_eq_ok_iff.mp ran
    have remembered := (deployBytes_remembers deploys).2
    obtain ⟨_, _, _, rfl⟩ := invokeOn_eq_ok_iff.mp invoked
    obtain ⟨_, _, _, _, rfl⟩ := undeployId_eq_ok_iff.mp undeployed
    exact if_pos remembered
  undeployable halt failed deploys := by
    have noted := deployBytes_sent remote connected archive
    rw [deploys] at noted
    exact ⟨by simp only [runTest, deploys], noted⟩
  untested id deployed error tested deploys invoked returns := by
    rw [runTest_of_deployed deploys invoked]
    split
    · next opened =>
      have returns := returns opened.2
      rcases undeployed : tested.undeployId remote.recording id with ⟨(_ | _) | _, after⟩
      · rfl
      · exact absurd (congrArg Prod.fst undeployed) returns
      · rfl
    · rfl
  unremoved id deployed result tested halt deploys invoked failed := by
    obtain ⟨opened, _, _, rfl⟩ := invokeOn_eq_ok_iff.mp invoked
    rw [runTest_of_deployed deploys invoked, if_pos ⟨by simp, opened⟩, failed]
    cases halt <;> rfl
  cleansUp id deployed outcome tested deploys invoked := by
    have first := deployBytes_sent remote connected archive
    have second := invokeOn_sent remote (deployBytes_remembers deploys).1 id className method
    rw [deploys] at first
    rw [invoked, show deployed.sent = _ from first] at second
    have second : tested.sent = _ := second
    rw [runTest_of_deployed deploys invoked]
    split
    · next opened =>
      rw [undeployId_sent remote opened.2, second]
      simp
    · rw [second]
      simp

end Client

/-- The control program succeeds with a run exactly if it gets as far as running the test, and the run has
a result that is no failure. -/
theorem Control.execute_run_iff {σ : Type} (remote : Remote σ) (files : CommandLine.FileReader)
    (connect : ClientSettings → Connecting σ) {control : Control} {path className method : String}
    (task : control.task = .run path className method) :
    (∃ report used, control.execute remote files connect = some (report, used) ∧ report.code = 0) ↔
      ∃ settings client archive result after, control.settings files = .ok settings ∧
        connect settings = .client client ∧ files path = .ok archive ∧
        client.runTest remote archive className method = (.ok result, after) ∧ result.status ≠ .failed := by
  have failing (error : Error) : (failure error).code ≠ 0 := by simp [failure]
  simp only [execute, task, perform]
  cases configured : control.settings files with
  | error error => simp [failing]
  | ok settings =>
    cases connecting : connect settings with
    | trying | overflow => simp [connecting]
    | failed error => simp [connecting, failing]
    | client client =>
      cases read : files path with
      | error cause => simp [connecting, read, readArchive, Except.mapError, failing]
      | ok archive =>
        rcases ran : client.runTest remote archive className method with ⟨(error | _) | result, after⟩
        · simp [connecting, read, readArchive, Except.mapError, Except.map, ran, failing]
        · simp [connecting, read, readArchive, Except.mapError, Except.map, ran]
        · simp [connecting, read, readArchive, Except.mapError, Except.map, ran, reportOf]

namespace Client

/-- A run of a test with any peer, and the control program that carries it out. -/
theorem runTest_outcome {σ : Type} (remote : Remote σ) (client : Client (σ × List Bytes))
    (connected : client.connected = true) (archive : Bytes) (className method : String) :
    client.TestRun remote archive className method ∧
      ∀ (files : CommandLine.FileReader) (connect : ClientSettings → Connecting (σ × List Bytes))
        (control : Control) (path : String), control.task = .run path className method →
        ((∃ report used, control.execute remote.recording files connect = some (report, used) ∧ report.code = 0) ↔
          ∃ settings client archive result after, control.settings files = .ok settings ∧
            connect settings = .client client ∧ files path = .ok archive ∧
            client.runTest remote.recording archive className method = (.ok result, after) ∧
            result.status ≠ .failed) :=
  ⟨testRun remote connected archive className method,
    fun files connect _ _ task => Control.execute_run_iff remote.recording files connect task⟩

/-- A test and its undeploy both fail, and the test's error is returned. -/
theorem runTest_outcome_unremoved :
    let client : Client (Bytes × List Bytes) :=
      .new ⟨([], []), Utf8.encode "OK DPL a\r\nERR command: no\r\nERR gone\r\n", .closed⟩
    let deployed := client.deployBytes Remote.canned.recording [0x61]
    let tested := deployed.2.invokeOn Remote.canned.recording "a" "C" "m"
    client.connected = true ∧ deployed.1 = .ok "a" ∧ tested.1 = .error (.failed ⟨.command, "command: no"⟩) ∧
      (tested.2.undeployId Remote.canned.recording "a").1 = .error (.failed ⟨.command, "gone"⟩) ∧
      (client.runTest Remote.canned.recording [0x61] "C" "m").1 = .error (.failed ⟨.command, "command: no"⟩) ∧
      (client.runTest Remote.canned.recording [0x61] "C" "m").2.sent =
        [ofDeploy [0x61], ofCommand "CMD test a C m", ofCommand "CMD undeploy a"] := by
  intro client deployed tested
  have first : deployed.1 = .ok "a" := by decide +kernel
  have second : tested.1 = .error (.failed ⟨.command, "command: no"⟩) := by decide +kernel
  have third : (tested.2.undeployId Remote.canned.recording "a").1 = .error (.failed ⟨.command, "gone"⟩) := by
    decide +kernel
  have opened : tested.2.connected = true := by decide +kernel
  obtain ⟨run, _⟩ := runTest_outcome Remote.canned client rfl [0x61] "C" "m"
  refine ⟨rfl, first, second, third, ?_, ?_⟩
  · refine run.untested "a" deployed.2 _ tested.2 (Prod.ext first rfl) (Prod.ext second rfl) fun _ => ?_
    rw [third]
    simp
  · rw [run.cleansUp "a" deployed.2 _ tested.2 (Prod.ext first rfl) (Prod.ext second rfl),
      if_pos ⟨by simp, opened⟩]
    decide +kernel

end Client

end TestDaemon
