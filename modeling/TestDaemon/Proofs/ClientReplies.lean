import TestDaemon.Proofs.ClientConnection

/-! # Replies to a client

An exchange succeeds exactly if the peer takes the request and the reply that is read then is the one that
is asked for. What an exchange leaves of the client is the link behind that reply. The requests that a peer
is sent can be recorded beside it (`Remote.recording`), which changes nothing that the client sees.
-/

namespace TestDaemon

open Request

namespace Link

variable {σ α : Type}

/-- The peer takes a request, and `value` is what is read from the link then. -/
def Replies (remote : Remote σ) (link : Link σ) (request : Bytes) (read : Link σ → Except Halt α × Link σ)
    (value : α) (after : Link σ) : Prop :=
  ∃ taken, link.send remote request = (.ok (), taken) ∧ read taken = (.ok value, after)

end Link

theorem Reply.deployedId?_eq_some_iff {line id : String} :
    deployedId? line = some id ↔ line = "OK DPL " ++ id := by
  have head : okHead ++ (deployHead ++ id) = "OK DPL " ++ id := by
    rw [← String.append_assoc]
    rfl
  simp only [deployedId?, Option.bind_eq_some_iff, Text.after?_eq_some_iff]
  constructor
  · rintro ⟨_, rfl, rfl⟩
    exact head
  · rintro rfl
    exact ⟨_, head.symm, rfl⟩

theorem Text.startsWith_iff {head text : String} :
    Text.startsWith head text = true ↔ ∃ rest, text = head ++ rest := by
  simp only [Text.startsWith, Option.isSome_iff_exists, Text.after?_eq_some_iff]

namespace Client

variable {σ α : Type} {remote : Remote σ} {client after : Client σ}

/-- An exchange leaves its link to a connected client. -/
theorem exchange_link (connected : client.connected = true) (act : Link σ → Except Halt α × Link σ) :
    (client.exchange act).2.link = (act client.link).2 := by
  simp only [exchange, connected, if_true]
  rcases act client.link with ⟨halt | value, link⟩
  · dsimp only
    split <;> rfl
  · rfl

theorem request_eq_ok_iff {bytes : Bytes} {receive : Link σ → Except Halt α × Link σ} {value : α} :
    client.request remote bytes receive = (.ok value, after) ↔
      client.connected = true ∧
        ∃ link, client.link.Replies remote bytes receive value link ∧ after = { client with link } := by
  cases connected : client.connected with
  | false => simp [request_closed connected]
  | true =>
    simp only [request, exchange, connected, if_true, Link.Replies]
    rcases client.link.send remote bytes with ⟨halt | _, taken⟩
    · simp
    · dsimp only
      rcases received : receive taken with ⟨halt | answer, link⟩
      · simp [received]
      · simp only [Prod.mk.injEq, Except.ok.injEq, true_and, exists_eq_left', received]
        constructor
        · rintro ⟨rfl, rfl⟩
          exact ⟨link, ⟨rfl, rfl⟩, rfl⟩
        · rintro ⟨_, ⟨rfl, rfl⟩, rfl⟩
          exact ⟨rfl, rfl⟩

/-- A deploy succeeds exactly with the line `OK DPL <id>`. -/
theorem deployBytes_eq_ok_iff {archive : Bytes} {id : String} :
    client.deployBytes remote archive = (.ok id, after) ↔
      client.connected = true ∧
        ∃ link, client.link.Replies remote (ofDeploy archive) Link.readLine ("OK DPL " ++ id) link ∧
          after = { client with link, deployment := some id } := by
  constructor
  · intro deployed
    unfold deployBytes at deployed
    split at deployed
    · cases deployed
    · next line next requested =>
      split at deployed
      · cases deployed
      · next told =>
        obtain ⟨same, rfl⟩ := Prod.mk.inj deployed
        obtain rfl := Except.ok.inj same
        obtain ⟨connected, link, replied, rfl⟩ := request_eq_ok_iff.mp requested
        rw [Reply.deployedId?_eq_some_iff.mp told] at replied
        exact ⟨connected, link, replied, rfl⟩
  · rintro ⟨connected, link, replied, rfl⟩
    have requested := request_eq_ok_iff.mpr ⟨connected, link, replied, rfl⟩
    simp only [deployBytes, requested, Reply.deployedId?_eq_some_iff.mpr rfl]

/-- An undeploy succeeds exactly with a line that starts with `OK `. -/
theorem undeployId_eq_ok_iff {id : String} :
    client.undeployId remote id = (.ok (), after) ↔
      client.connected = true ∧
        ∃ text link, client.link.Replies remote (ofCommand (undeployCommand id)) Link.readLine ("OK " ++ text) link ∧
          after = { client with link, deployment := if client.deployment = some id then none else client.deployment } := by
  constructor
  · intro undeployed
    unfold undeployId at undeployed
    split at undeployed
    · cases undeployed
    · next line next requested =>
      split at undeployed
      · next told =>
        obtain ⟨-, rfl⟩ := Prod.mk.inj undeployed
        obtain ⟨text, rfl⟩ := Text.startsWith_iff.mp told
        obtain ⟨connected, link, replied, rfl⟩ := request_eq_ok_iff.mp requested
        refine ⟨connected, text, link, replied, ?_⟩
        dsimp only
        split <;> rfl
      · cases undeployed
  · rintro ⟨connected, text, link, replied, rfl⟩
    have requested := request_eq_ok_iff.mpr ⟨connected, link, replied, rfl⟩
    have acknowledged : Text.startsWith Reply.okHead ("OK " ++ text) = true :=
      Text.startsWith_iff.mpr ⟨text, rfl⟩
    simp only [undeployId, requested, if_pos acknowledged]
    split <;> rfl

/-- Nothing that begins as a line does that reports an error is read as a result. -/
theorem receiveResult_eq_ok_iff {link rest : Link σ} {result : TestResult} :
    receiveResult link = (.ok (.ok result), rest) ↔ link.readResult = (.ok result, rest) := by
  rcases link with ⟨peer, _ | ⟨byte, unread⟩, ending⟩
  · have missing : TestResult.read (.start []) =
        .error ((Json.Cursor.start []).peekFault .endInValue) := rfl
    simp [receiveResult, Link.peek, Link.readResult, missing]
  · simp only [receiveResult, Link.peek]
    by_cases letter : byte = 0x45
    · obtain rfl := letter
      have unfit : TestResult.read (.start (0x45 :: unread)) =
          .error (TestResult.unexpectedValue "struct TestResult" (.start (0x45 :: unread))) := rfl
      rcases Link.readLine ⟨peer, 0x45 :: unread, ending⟩ with ⟨halt | line, left⟩ <;>
        simp [Link.readResult, unfit, Except.map]
    · rw [if_neg letter]
      rcases Link.readResult ⟨peer, byte :: unread, ending⟩ with ⟨halt | other, left⟩ <;>
        simp [Except.map]

/-- A test has a result exactly if one can be read of the reply. -/
theorem invokeOn_eq_ok_iff {id className method : String} {result : TestResult} :
    client.invokeOn remote id className method = (.ok result, after) ↔
      client.connected = true ∧
        ∃ link, client.link.Replies remote (ofCommand (testCommand id className method)) Link.readResult result link ∧
          after = { client with link } := by
  have read {link : Link σ} :
      client.link.Replies remote (ofCommand (testCommand id className method)) receiveResult (.ok result) link ↔
        client.link.Replies remote (ofCommand (testCommand id className method)) Link.readResult result link := by
    simp only [Link.Replies, receiveResult_eq_ok_iff]
  simp only [← read, ← request_eq_ok_iff, invokeOn]
  rcases client.request remote (ofCommand (testCommand id className method)) receiveResult with
    ⟨halt | line | other, next⟩ <;> simp

/-! ## What is remembered -/

section

variable (remote) (client)

@[simp] theorem exchange_deployment (act : Link σ → Except Halt α × Link σ) :
    (client.exchange act).2.deployment = client.deployment := by
  unfold exchange
  split
  · dsimp only
    split
    · rfl
    · dsimp only
      split <;> rfl
  · rfl

theorem request_deployment (bytes : Bytes) (receive : Link σ → Except Halt α × Link σ) :
    (client.request remote bytes receive).2.deployment = client.deployment :=
  exchange_deployment client _

theorem deployBytes_deployment (archive : Bytes) :
    (client.deployBytes remote archive).2.deployment =
      match (client.deployBytes remote archive).1 with
      | .ok id => some id
      | .error _ => client.deployment := by
  have same := request_deployment remote client (ofDeploy archive) Link.readLine
  unfold deployBytes
  split
  · next requested => rwa [requested] at same
  · next requested =>
    rw [requested] at same
    split
    · exact same
    · rfl

theorem undeployId_deployment (id : String) :
    (client.undeployId remote id).2.deployment =
      match (client.undeployId remote id).1 with
      | .ok () => if client.deployment = some id then none else client.deployment
      | .error _ => client.deployment := by
  have same := request_deployment remote client
    (ofCommand (undeployCommand id)) Link.readLine
  unfold undeployId
  split
  · next requested => rwa [requested] at same
  · next line next requested =>
    rw [requested] at same
    split
    · rw [← show next.deployment = client.deployment from same]
      dsimp only
      split <;> rfl
    · exact same

/-- A test leaves the remembered deployment as it is. -/
@[simp] theorem invokeOn_deployment (id className method : String) :
    (client.invokeOn remote id className method).2.deployment = client.deployment := by
  have same := request_deployment remote client
    (ofCommand (testCommand id className method)) receiveResult
  unfold invokeOn
  split <;> next requested => rwa [requested] at same

theorem stop_deployment : (client.stop remote).2.deployment = client.deployment := by
  have same := request_deployment remote client (ofCommand stopCommand)
    fun link => (.ok (), link)
  unfold stop
  split
  · next requested => rwa [requested] at same
  · next next requested =>
    rw [requested] at same
    have kept : (next.exchange Link.readLine).2.deployment = next.deployment := exchange_deployment next _
    split
    · next acknowledged =>
      rw [acknowledged] at kept
      exact kept.trans same
    · next acknowledged =>
      rw [acknowledged] at kept
      exact kept.trans same

end

end Client

/-! ## What is sent -/

/-- Whether what is done with a link leaves its peer alone. -/
def Link.Listening {σ α : Type} (read : Link σ → Except Halt α × Link σ) : Prop :=
  ∀ link, (read link).2.peer = link.peer

theorem Link.listening_readLine {σ : Type} : Listening (readLine (σ := σ)) := by
  intro link
  unfold readLine
  split
  · rfl
  · split <;> rfl

theorem Link.listening_readResult {σ : Type} : Listening (readResult (σ := σ)) := by
  intro link
  unfold readResult
  split <;> rfl

theorem Client.listening_receiveResult {σ : Type} : Link.Listening (receiveResult (σ := σ)) := by
  intro link
  unfold receiveResult
  split
  · rfl
  · split
    · exact Link.listening_readLine link
    · exact Link.listening_readResult link

/-- A peer that keeps, beside its own state, the requests that it has been sent. -/
def Remote.recording {σ : Type} (remote : Remote σ) : Remote (σ × List Bytes) where
  react state request :=
    let reaction := remote.react state.1 request
    ⟨reaction.refusal, reaction.delivered, reaction.ending, (reaction.peer, state.2 ++ [request])⟩

namespace Client

variable {σ α : Type} (remote : Remote σ) {client : Client (σ × List Bytes)}

/-- The requests that a recording peer has been sent. -/
def sent (client : Client (σ × List Bytes)) : List Bytes := client.link.peer.2

/-- A connected client sends its request, whatever comes of it. -/
theorem request_sent {receive : Link (σ × List Bytes) → Except Halt α × Link (σ × List Bytes)}
    (listening : Link.Listening receive) (connected : client.connected = true) (bytes : Bytes) :
    (client.request remote.recording bytes receive).2.sent = client.sent ++ [bytes] := by
  have noted : (client.link.send remote.recording bytes).2.peer.2 = client.sent ++ [bytes] := by
    unfold Link.send
    dsimp only
    split <;> rfl
  rw [sent, request, exchange_link connected]
  rcases taken : client.link.send remote.recording bytes with ⟨halt | _, link⟩
  · rwa [taken] at noted
  · rw [taken] at noted
    exact (congrArg Prod.snd (listening link)).trans noted

theorem deployBytes_sent (connected : client.connected = true) (archive : Bytes) :
    (client.deployBytes remote.recording archive).2.sent = client.sent ++ [ofDeploy archive] := by
  have noted := request_sent remote Link.listening_readLine connected (ofDeploy archive)
  unfold deployBytes
  split
  · next requested => rwa [requested] at noted
  · next requested =>
    rw [requested] at noted
    split <;> exact noted

theorem undeployId_sent (connected : client.connected = true) (id : String) :
    (client.undeployId remote.recording id).2.sent =
      client.sent ++ [ofCommand (undeployCommand id)] := by
  have noted := request_sent remote Link.listening_readLine connected
    (ofCommand (undeployCommand id))
  unfold undeployId
  split
  · next requested => rwa [requested] at noted
  · next requested =>
    rw [requested] at noted
    split
    · dsimp only
      split <;> exact noted
    · exact noted

theorem invokeOn_sent (connected : client.connected = true) (id className method : String) :
    (client.invokeOn remote.recording id className method).2.sent =
      client.sent ++ [ofCommand (testCommand id className method)] := by
  have noted := request_sent remote listening_receiveResult connected
    (ofCommand (testCommand id className method))
  unfold invokeOn
  split <;> next requested => rwa [requested] at noted

end Client

end TestDaemon
