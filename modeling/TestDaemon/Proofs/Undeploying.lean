import TestDaemon.Proofs.DeclaredName
import TestDaemon.Proofs.Remote
import TestDaemon.Proofs.ZipRoundTrip

/-! # Undeploying what has been deployed

A client undeploys what it has deployed by the ID that it was told. The ID comes from the archive's
comment, goes to the client in a line and back in a command. It comes through if it is one line and
its command is within the bounds of commands and requests; past these bounds the deployment stays.
-/

namespace TestDaemon

open Request

/-- The services of a server that imports archives; `entropy` gives the names of those that declare none. -/
def Services.ofZip (entropy : Nat → Nat) (executor : Executor) : Services :=
  { importer := fun serial => Zip.decode (entropy serial), executor }

theorem Context.ingest_ofZip {entropy : Nat → Nat} {executor : Executor} {context : Context} {payload : Bytes}
    {archive : Archive} (accepted : Zip.decode (entropy context.imports) payload = .ok archive) :
    context.ingest (.ofZip entropy executor) payload =
      (.ok (.ok (deployHead ++ archive.id)),
        { context with
          store := (context.store.insert archive.id archive).2
          imports := context.imports + 1 }) := by
  simp only [ingest, Services.ofZip, accepted]

theorem Client.ready_new (entropy : Nat → Nat) (executor : Executor) (context : Context) (limit : Nat) :
    (Client.new (Served.start context limit).link).Ready (.ofZip entropy executor) limit context :=
  ⟨rfl, rfl, Served.idle_start _ executor context limit⟩

/-- A deploy of an archive with a declared name by a client that is in step with its server. -/
structure Client.Deploys (entropy : Nat → Nat) (executor : Executor) (limit : Nat) (context : Context)
    (client : Client Served) (payload : Bytes) (archive : Archive) : Prop where
  ready : client.Ready (.ofZip entropy executor) limit context
  clear : ¬ delimiter <:+: payload
  accepted : Zip.decode (entropy context.imports) payload = .ok archive
  named : ∃ name, Zip.declaredName? payload = some name ∧ name ≠ ""
  returned : ∃ id, (client.deployBytes (.serving (.ofZip entropy executor)) payload).1 = .ok id

/-- A deploy whose archive stays on the server, since the undeploy that follows has an error. -/
structure Client.LeavesDeployed (entropy : Nat → Nat) (executor : Executor) (limit : Nat)
    (context : Context) (client : Client Served) (payload : Bytes) (archive : Archive) (error : Error) : Prop
    extends client.Deploys entropy executor limit context payload archive where
  deployed : (client.deployBytes (.serving (.ofZip entropy executor)) payload).1 = .ok archive.id
  refused : ((client.deployBytes (.serving (.ofZip entropy executor)) payload).2.undeploy
    (.serving (.ofZip entropy executor))).1 = .error (.failed error)
  kept : ((client.deployBytes (.serving (.ofZip entropy executor)) payload).2.undeploy
    (.serving (.ofZip entropy executor))).2.link.peer.connection.context.store.get? archive.id = some archive

/-! ## Commands past a bound -/

theorem Dispatcher.dispatch_long {text : String} (marked : Request.commandMarker <+: Utf8.encode text)
    (line : OneLine text) (long : commandLineLimit < (Utf8.encode text).length) :
    Dispatcher.new.dispatch (Utf8.encode text) = (.error .commandLineTooLong, .new) := by
  have read : commandLine (Utf8.encode text) = .error .commandLineTooLong := by
    rw [commandLine, line.firstLine_encode, if_pos long]
  rw [dispatch_new_of_command marked, read]
  rfl

namespace Client.Ready

variable {services : Services} {limit : Nat} {context : Context} {client : Client Served} {id : String}

/-- A command that is too long is reported. -/
theorem undeployId_long (ready : client.Ready services limit context)
    (clear : ¬ delimiter <:+: Utf8.encode id) (line : OneLine id)
    (long : commandLineLimit < (Utf8.encode (undeployCommand id)).length)
    (short : (Utf8.encode (undeployCommand id)).length ≤ limit) :
    ∃ after, client.undeployId (.serving services) id =
        (.error (.failed Error.commandLineTooLong.reported), after) ∧
      after.link.peer.connection.context = context := by
  have dispatched := Dispatcher.dispatch_long (Request.marked_undeployCommand id)
    (Request.oneLine_undeployCommand line) long
  have answered : context.answer services (.error .commandLineTooLong) =
      ⟨.ok .proceed, (Reply.line (Reply.errorHead ++ Error.commandLineTooLong.reported.detail)).encode,
        context⟩ := rfl
  have reply : OneLine (Reply.errorHead ++ Error.commandLineTooLong.reported.detail) := by decide
  obtain ⟨link, exchanged, next⟩ := ready.request (Request.clear_undeployCommand clear) short
    dispatched answered (reply.readLine_alone · .silent)
  refine ⟨{ client with link }, ?_, next.idle.context_eq⟩
  simp only [undeployId, ofCommand, exchanged, Reply.not_startsWith_ok, Bool.false_eq_true, if_false,
    Error.remote_failed]
  rfl

/-- A command past the limit of requests ends the connection. -/
theorem undeployId_overlong (ready : client.Ready services limit context)
    (clear : ¬ delimiter <:+: Utf8.encode id)
    (long : limit < (Utf8.encode (undeployCommand id)).length) :
    ∃ after, client.undeployId (.serving services) id =
        (.error (.failed ⟨.command, (Error.frameTooLong limit).message⟩), after) ∧
      after.link.peer.connection.context = context := by
  obtain ⟨link, exchanged, context_eq⟩ := ready.request_overlong (Request.clear_undeployCommand clear) long
  refine ⟨{ client with link }, ?_, context_eq⟩
  simp only [undeployId, ofCommand, exchanged, Reply.not_startsWith_ok, Bool.false_eq_true, if_false,
    Error.remote_failed]

/-- A deploy that returns an ID was within the limit. -/
theorem fits_of_deployBytes {payload : Bytes} (ready : client.Ready services limit context)
    (clear : ¬ delimiter <:+: payload)
    (returned : (client.deployBytes (.serving services) payload).1 = .ok id) :
    (Outgoing.deploy payload).body.length ≤ limit := by
  by_contra long
  have clearBody : ¬ delimiter <:+: Utf8.encode deployHead ++ payload := by rwa [infix_deploy_iff]
  obtain ⟨link, exchanged, -⟩ := ready.request_overlong clearBody (Nat.lt_of_not_le long)
  have refused : Reply.deployedId? (Reply.errorHead ++ (Error.frameTooLong limit).message) = none := by
    rw [Reply.deployedId?, Text.after?, String.toList_append]
    rfl
  simp only [deployBytes, ofDeploy, exchanged, refused] at returned
  contradiction

end Client.Ready

/-! ## Deployments with declared names -/

namespace Client.Deploys

variable {entropy : Nat → Nat} {executor : Executor} {limit : Nat} {context : Context}
  {client : Client Served} {payload : Bytes} {archive : Archive}

theorem sendable (deploys : client.Deploys entropy executor limit context payload archive) :
    (RemoteOperation.deploy payload).Sendable limit := by
  obtain ⟨id, returned⟩ := deploys.returned
  exact ⟨deploys.clear, deploys.ready.fits_of_deployBytes deploys.clear returned⟩

/-- The ID is trimmed and holds no delimiter. -/
theorem id_spec (deploys : client.Deploys entropy executor limit context payload archive) :
    Text.trim archive.id = archive.id ∧ ¬ delimiter <:+: Utf8.encode archive.id := by
  obtain ⟨name, declared, nonempty⟩ := deploys.named
  rw [Zip.name_of_decode deploys.accepted declared nonempty]
  obtain ⟨⟨record, directory⟩, found, rfl⟩ := Option.map_eq_some_iff.mp declared
  refine ⟨Zip.trim_declaredName record.comment, Zip.clear_declaredName fun occurs => ?_⟩
  exact deploys.clear (occurs.trans (Zip.comment_infix found))

theorem ingest_store (deploys : client.Deploys entropy executor limit context payload archive) :
    (context.ingest (.ofZip entropy executor) payload).2.store =
      (context.store.insert archive.id archive).2 := by
  rw [Context.ingest_ofZip deploys.accepted]

theorem ingest_get? (deploys : client.Deploys entropy executor limit context payload archive) :
    (context.ingest (.ofZip entropy executor) payload).2.store.get? archive.id = some archive := by
  rw [deploys.ingest_store, Store.get?_insert, if_pos rfl]

/-- The deploy leaves the client with the archive's ID, in step with a server that has the archive. -/
theorem deployed (deploys : client.Deploys entropy executor limit context payload archive)
    (noFeed : '\n' ∉ archive.id.toList) :
    ∃ after, client.deployBytes (.serving (.ofZip entropy executor)) payload = (.ok archive.id, after) ∧
      after.Ready (.ofZip entropy executor) limit
        (context.ingest (.ofZip entropy executor) payload).2 ∧
      after.deployment = some archive.id :=
  deploys.ready.deployBytes_imported deploys.sendable deploys.accepted
    (OneLine.of_trimmed noFeed deploys.id_spec.1)

/-- A deployment stays if the undeploy of its ID is refused. -/
theorem leavesDeployed (deploys : client.Deploys entropy executor limit context payload archive)
    (noFeed : '\n' ∉ archive.id.toList) {error : Error}
    (refuses : ∀ {next : Context} {client : Client Served},
      client.Ready (.ofZip entropy executor) limit next →
        ∃ after, client.undeployId (.serving (.ofZip entropy executor)) archive.id =
            (.error (.failed error), after) ∧ after.link.peer.connection.context = next) :
    client.LeavesDeployed entropy executor limit context payload archive error := by
  obtain ⟨afterDeploy, deployed, ready, remembered⟩ := deploys.deployed noFeed
  obtain ⟨afterUndeploy, undeployed, kept⟩ := refuses ready
  refine ⟨deploys, congrArg Prod.fst deployed, ?_, ?_⟩
  · simp only [deployed, undeploy, withDeployment, remembered, undeployed]
  · simp only [deployed, undeploy, withDeployment, remembered, undeployed, kept, deploys.ingest_get?]

/-- The command for a long ID is refused. -/
theorem leavesDeployed_long (deploys : client.Deploys entropy executor limit context payload archive)
    (noFeed : '\n' ∉ archive.id.toList)
    (long : commandLineLimit < (Utf8.encode (undeployCommand archive.id)).length)
    (short : (Utf8.encode (undeployCommand archive.id)).length ≤ limit) :
    client.LeavesDeployed entropy executor limit context payload archive Error.commandLineTooLong.reported :=
  deploys.leavesDeployed noFeed fun ready => ready.undeployId_long deploys.id_spec.2
    (OneLine.of_trimmed noFeed deploys.id_spec.1) long short

/-- A request past the limit is not read to its end. -/
theorem leavesDeployed_overlong (deploys : client.Deploys entropy executor limit context payload archive)
    (noFeed : '\n' ∉ archive.id.toList)
    (long : limit < (Utf8.encode (undeployCommand archive.id)).length) :
    client.LeavesDeployed entropy executor limit context payload archive
      ⟨.command, (Error.frameTooLong limit).message⟩ :=
  deploys.leavesDeployed noFeed fun ready => ready.undeployId_overlong deploys.id_spec.2 long

end Client.Deploys

/-- A client that is in step deploys an archive of a declared name in one line. -/
theorem Client.Ready.deploys {entropy : Nat → Nat} {executor : Executor} {limit : Nat} {context : Context}
    {client : Client Served} {payload : Bytes} {archive : Archive} {name : String}
    (ready : client.Ready (.ofZip entropy executor) limit context)
    (sendable : (RemoteOperation.deploy payload).Sendable limit)
    (accepted : Zip.decode (entropy context.imports) payload = .ok archive)
    (declared : Zip.declaredName? payload = some name) (nonempty : name ≠ "")
    (noFeed : '\n' ∉ name.toList) : client.Deploys entropy executor limit context payload archive := by
  have same := Zip.name_of_decode accepted declared nonempty
  obtain ⟨⟨record, directory⟩, found, rfl⟩ := Option.map_eq_some_iff.mp declared
  have line : OneLine archive.id := by
    rw [same]
    exact OneLine.of_trimmed noFeed (Zip.trim_declaredName record.comment)
  obtain ⟨after, returned, -⟩ := ready.deployBytes_imported sendable accepted line
  exact ⟨ready, sendable.1, accepted, ⟨_, declared, nonempty⟩, archive.id, congrArg Prod.fst returned⟩

/-! ## Archives without files -/

theorem Zip.Export.readable_empty {comment : Bytes} (short : comment.length ≤ 65535)
    (single : ¬ EndRecord.signature <:+: (Export.mk [] [] comment).endRecord.encode.drop 4) :
    (Export.mk [] [] comment).Readable where
  fits := ⟨Nat.zero_lt_succ _, short, nofun, Nat.zero_lt_succ _⟩
  bounds := nofun
  single := single

/-- What is written for an empty archive: the signature, numbers of 0, and the comment behind its length. -/
theorem Zip.Export.encode_empty (comment : Bytes) :
    (Export.mk [] [] comment).encode = EndRecord.signature ++
      (List.replicate 16 0 ++ (Bytes.ofNatLE 2 comment.length ++ comment)) := by
  simp only [encode, directory, endRecord, EndRecord.encode, List.flatMap_nil, List.length_nil,
    List.nil_append]
  rfl

/-- An end record alone is an empty archive. -/
theorem Zip.decode_empty {comment : Bytes} (readable : (Export.mk [] [] comment).Readable)
    (named : declaredName comment ≠ "") (entropy : Nat) :
    decode entropy (Export.mk [] [] comment).encode = .ok (.new (declaredName comment)) := by
  have record : (Export.mk [] [] comment).endRecord.comment = comment := rfl
  simp only [decode, readable.contents?, record, if_neg named]
  rfl

theorem Zip.declaredName?_empty {comment : Bytes} (readable : (Export.mk [] [] comment).Readable) :
    declaredName? (Export.mk [] [] comment).encode = some (declaredName comment) := by
  rw [declaredName?, readable.contents?]
  rfl

theorem Client.Ready.deploys_empty {entropy : Nat → Nat} {executor : Executor} {limit : Nat}
    {context : Context} {client : Client Served} {comment : Bytes}
    (ready : client.Ready (.ofZip entropy executor) limit context)
    (readable : (Zip.Export.mk [] [] comment).Readable)
    (sendable : (RemoteOperation.deploy (Zip.Export.mk [] [] comment).encode).Sendable limit)
    (named : Zip.declaredName comment ≠ "") (noFeed : '\n' ∉ (Zip.declaredName comment).toList) :
    client.Deploys entropy executor limit context (Zip.Export.mk [] [] comment).encode
      (.new (Zip.declaredName comment)) :=
  ready.deploys sendable (Zip.decode_empty readable named _) (Zip.declaredName?_empty readable) named noFeed

/-! ## Names of one letter -/

theorem Utf8.encodeChars_replicate {c : Char} {octet : UInt8} (single : String.utf8EncodeChar c = [octet])
    (count : Nat) : encodeChars (List.replicate count c) = List.replicate count octet := by
  induction count with
  | zero => rfl
  | succ count ih =>
    rw [List.replicate_succ, encodeChars_cons, ih, single, List.singleton_append, List.replicate_succ]

theorem Text.trimChars_replicate {c : Char} (visible : isBlank c = false) (count : Nat) :
    trimChars (List.replicate count c) = List.replicate count c := by
  simp [trimChars, trimEndChars, visible]

theorem Text.not_mem_replicate {c d : Char} (other : d ≠ c) (count : Nat) :
    d ∉ (String.ofList (List.replicate count c)).toList := by
  rw [String.toList_ofList]
  exact fun member => other (List.eq_of_mem_replicate member)

theorem Utf8.encode_letters (count : Nat) :
    encode (String.ofList (List.replicate count 'a')) = List.replicate count 0x61 := by
  rw [encode, String.toList_ofList]
  exact encodeChars_replicate (by decide) count

theorem Zip.declaredName_letters (count : Nat) :
    declaredName (List.replicate count 0x61) = String.ofList (List.replicate count 'a') := by
  rw [declaredName, ← Utf8.encode_letters, Utf8.decodeLossy_encode, Text.trim, String.toList_ofList,
    Text.trimChars_replicate (by decide)]

theorem Request.length_undeployCommand_letters (count : Nat) :
    (Utf8.encode (undeployCommand (String.ofList (List.replicate count 'a')))).length = 13 + count := by
  have head : (Utf8.encode undeployHead).length = 13 := by decide
  rw [undeployCommand, Utf8.encode_append, Utf8.encode_letters, List.length_append, head,
    List.length_replicate]

section

variable {count : Nat}

theorem Zip.Export.encode_letters : (Export.mk [] [] (List.replicate count 0x61)).encode =
    EndRecord.signature ++
      (List.replicate 16 0 ++ (Bytes.ofNatLE 2 count ++ List.replicate count 0x61)) := by
  rw [encode_empty, List.length_replicate]

/-- No second signature is in the file if the length of the name is not the start of one. -/
theorem Zip.Export.readable_letters (short : count ≤ 65535) (noSignature : 0x50 ∉ Bytes.ofNatLE 2 count) :
    (Export.mk [] [] (List.replicate count 0x61)).Readable := by
  refine readable_empty ((List.length_replicate ..).trans_le short) fun occurs => ?_
  have behind : (Export.mk [] [] (List.replicate count 0x61)).endRecord.encode.drop 4 =
      List.replicate 16 0 ++ (Bytes.ofNatLE 2 count ++ List.replicate count 0x61) :=
    congrArg (List.drop 4) encode_letters
  have member := occurs.subset (show (0x50 : UInt8) ∈ EndRecord.signature by decide)
  rw [behind] at member
  simp [noSignature] at member

theorem Zip.Export.clear_letters (noDelimiter : 0x3C ∉ Bytes.ofNatLE 2 count) :
    ¬ delimiter <:+: (Export.mk [] [] (List.replicate count 0x61)).encode := by
  intro occurs
  have member := occurs.subset (show (0x3C : UInt8) ∈ delimiter by decide)
  rw [encode_letters] at member
  simp [noDelimiter, EndRecord.signature] at member

theorem Request.length_body_letters :
    (Outgoing.deploy (Zip.Export.mk [] [] (List.replicate count 0x61)).encode).body.length = 26 + count := by
  have head : (Utf8.encode deployHead).length = 4 := by decide
  simp only [Outgoing.body, Zip.Export.encode_letters, List.length_append, head, Bytes.ofNatLE_length,
    List.length_replicate, Zip.EndRecord.signature, List.length_cons, List.length_nil]
  omega

theorem Client.Ready.deploys_letters {entropy : Nat → Nat} {executor : Executor} {limit : Nat}
    {context : Context} {client : Client Served}
    (ready : client.Ready (.ofZip entropy executor) limit context) (positive : 0 < count)
    (short : count ≤ 65535) (fits : 26 + count ≤ limit)
    (noDelimiter : 0x3C ∉ Bytes.ofNatLE 2 count) (noSignature : 0x50 ∉ Bytes.ofNatLE 2 count) :
    client.Deploys entropy executor limit context
      (Zip.Export.mk [] [] (List.replicate count 0x61)).encode
      (.new (String.ofList (List.replicate count 'a'))) := by
  have sendable : (RemoteOperation.deploy
      (Zip.Export.mk [] [] (List.replicate count 0x61)).encode).Sendable limit :=
    ⟨Zip.Export.clear_letters noDelimiter, Request.length_body_letters.trans_le fits⟩
  have deploys := ready.deploys_empty (Zip.Export.readable_letters short noSignature) sendable
  rw [Zip.declaredName_letters count] at deploys
  refine deploys (fun empty => ?_) (Text.not_mem_replicate (by decide) count)
  have length := congrArg (·.toList.length) empty
  simp only [String.toList_ofList, List.length_replicate] at length
  exact absurd length (Nat.ne_of_gt positive)

end

/-! ## Undeploying -/

/-- A client that has deployed an archive undeploys it again, if its ID is one line and the command for it
is within the bounds. The other deployments stay, and a further undeploy finds nothing. -/
theorem Client.undeploy_deployed (entropy : Nat → Nat) (executor : Executor) (limit : Nat)
    (context : Context) (client : Client Served) (payload : Bytes) (archive : Archive)
    (deploys : client.Deploys entropy executor limit context payload archive)
    (noFeed : '\n' ∉ archive.id.toList)
    (short : (Utf8.encode (undeployCommand archive.id)).length ≤ min commandLineLimit limit) :
    let remote := Remote.serving (.ofZip entropy executor)
    let deployed := client.deployBytes remote payload
    let undeployed := deployed.2.undeploy remote
    let store := undeployed.2.link.peer.connection.context.store
    deployed.1 = .ok archive.id ∧ undeployed.1 = .ok () ∧ store.get? archive.id = none ∧
      (∀ id, id ≠ archive.id → store.get? id = context.store.get? id) ∧
      (undeployed.2.undeployId remote archive.id).1 =
        .error (.failed (.nothingToUndeploy archive.id)) := by
  obtain ⟨trimmed, clear⟩ := deploys.id_spec
  have sendable : (RemoteOperation.undeploy archive.id).Sendable limit := ⟨clear, trimmed, noFeed, short⟩
  obtain ⟨afterDeploy, deployed, ready, remembered⟩ := deploys.deployed noFeed
  have stored := deploys.ingest_store
  have found := deploys.ingest_get?
  set imported := (context.ingest (.ofZip entropy executor) payload).2
  obtain ⟨afterUndeploy, undeployed, next⟩ := ready.undeployId_found sendable found
  -- The undeploy takes away what the deploy has stored, and nothing else.
  have removed : (imported.undeploy archive.id).2.store = (imported.store.remove archive.id).2 := by
    simp only [Context.undeploy, Store.remove, found]
  have missing : (imported.undeploy archive.id).2.store.get? archive.id = none := by
    rw [removed, Store.get?_remove, if_pos rfl]
  have others (id : String) (other : id ≠ archive.id) :
      (imported.undeploy archive.id).2.store.get? id = context.store.get? id := by
    rw [removed, Store.get?_remove, if_neg other, stored, Store.get?_insert, if_neg other]
  obtain ⟨_, refused, -⟩ := next.undeployId_missing sendable missing
  simp only [deployed, undeploy, withDeployment, remembered, undeployed, next.idle.context_eq, refused,
    true_and, and_true]
  exact ⟨missing, others⟩

theorem Client.undeploy_deployed_suite :
    let archive := (Archive.new "süite").insertFile "data" [0x50, 0x4B]
    let payload := (Zip.Export.ofArchive Deflate.encode archive).encode
    let executor : Executor := fun _ _ _ => .error ⟨.execution, "no runner"⟩
    let context := Context.new (Store.empty.insert "other" (.new "other")).2
    let client := Client.new (Served.start context 2000).link
    let remote := Remote.serving (.ofZip id executor)
    let undeployed := (client.deployBytes remote payload).2.undeploy remote
    client.Deploys id executor 2000 context payload (Zip.imported archive) ∧
      undeployed.1 = .ok () ∧
      undeployed.2.link.peer.connection.context.store.get? "süite" = none ∧
      undeployed.2.link.peer.connection.context.store.get? "other" = some (.new "other") := by
  intro archive payload executor context client remote undeployed
  have exportable : Zip.Exportable Deflate.encode archive := by decide +kernel
  have small : Zip.SmallFiles archive := by decide +kernel
  have accepted := exportable.decode_encode small (Zip.restores_encode archive) 0
  have declared : Zip.declaredName? payload = some "süite" := by decide +kernel
  have deploys : client.Deploys id executor 2000 context payload (Zip.imported archive) :=
    (ready_new id executor context 2000).deploys (by decide +kernel) accepted declared (by decide) (by decide)
  obtain ⟨-, done, removed, others, -⟩ :=
    undeploy_deployed id executor 2000 context client payload (Zip.imported archive) deploys
      (by decide) (by decide +kernel)
  exact ⟨deploys, done, removed, others "other" (by decide)⟩

/-- An ID of 1988 letters makes a command of 2001 octets. A name of 16 octets that are not UTF-8 makes
an ID of 48, so that the command for it does not fit a limit that the deploy has fitted. -/
theorem Client.not_undeploy_deployed_long :
    let executor : Executor := fun _ _ _ => .error ⟨.execution, "no runner"⟩
    let fresh (limit : Nat) := Client.new (Served.start (.new .empty) limit).link
    (fresh 67108864).LeavesDeployed id executor 67108864 (.new .empty)
        (Zip.Export.mk [] [] (List.replicate 1988 0x61)).encode
        (.new (String.ofList (List.replicate 1988 'a'))) Error.commandLineTooLong.reported ∧
      (fresh 60).LeavesDeployed id executor 60 (.new .empty)
        (Zip.Export.mk [] [] (List.replicate 16 0xFF)).encode
        (.new (String.ofList (List.replicate 16 '\uFFFD'))) ⟨.command, (Error.frameTooLong 60).message⟩ := by
  intro executor fresh
  have ready := ready_new id executor (.new .empty)
  have noFeed {count : Nat} {c : Char} (other : '\n' ≠ c) :
      '\n' ∉ (Archive.new (String.ofList (List.replicate count c))).id.toList :=
    Text.not_mem_replicate other count
  constructor
  · have length : (Utf8.encode (undeployCommand
        (Archive.new (String.ofList (List.replicate 1988 'a'))).id)).length = 2001 :=
      Request.length_undeployCommand_letters 1988
    have deploys := (ready 67108864).deploys_letters (show 0 < 1988 by decide) (by decide) (by decide)
      (by decide) (by decide)
    exact deploys.leavesDeployed_long (noFeed (by decide)) (by rw [length]; decide) (by rw [length]; decide)
  · have name : Zip.declaredName (List.replicate 16 0xFF) = String.ofList (List.replicate 16 '\uFFFD') := by
      decide +kernel
    have readable : (Zip.Export.mk [] [] (List.replicate 16 0xFF)).Readable :=
      Zip.Export.readable_empty (by decide) (by decide +kernel)
    have deploys := (ready 60).deploys_empty readable (by decide +kernel)
    rw [name] at deploys
    exact (deploys (by decide +kernel) (noFeed (by decide))).leavesDeployed_overlong (noFeed (by decide))
      (by decide +kernel)

end TestDaemon
