import TestDaemon.Proofs.Interruption
import TestDaemon.Proofs.NamedTests
import TestDaemon.Proofs.Undeploying

/-! # Undeploying by the comment

The name that a comment declares and the one that an undeploy asks for are read from different octets:
those of the command begin with its head, and lose a carriage return at their end before they are read. The
names are the same, since an octet of ASCII is always read as itself and breaks off what is owed before it.
So the comment of a deployed file, sent back as it is, takes the deployment away.
-/

namespace TestDaemon

open Request

/-! ## Reading up to an octet of ASCII -/

namespace Utf8

theorem step_isSound {state : State} (sound : state.IsSound) (octet : UInt8) :
    (step state octet).2.IsSound := by
  by_cases ascii : octet < 0x80
  · rw [step_ascii_eq sound ascii]
    exact State.isSound_start
  · exact (step_high sound ascii).1

/-- An octet of ASCII at the end is one more character, also where a tail is owed. -/
theorem readLossy_concat {state : State} (sound : state.IsSound) (bytes : Bytes) {octet : UInt8}
    (ascii : octet < 0x80) :
    readLossy state (bytes ++ [octet]) = readLossy state bytes ++ [charOf octet] := by
  -- The octets before it can leave any sound state behind, so the state is kept general.
  induction bytes generalizing state with
  | nil =>
    rw [List.nil_append, readLossy_cons, step_ascii_eq sound ascii, List.map_append]
    exact List.append_nil _
  | cons first bytes ih =>
    rw [List.cons_append, readLossy_cons, readLossy_cons, ih (step_isSound sound first), List.append_assoc]

/-- A text of plain characters in front is read as itself. -/
theorem decodeLossy_append {head : String} (plain : ∀ octet ∈ encode head, IsPlain octet) (bytes : Bytes) :
    decodeLossy (encode head ++ bytes) = head ++ decodeLossy bytes := by
  have alone := readLossy_plain plain []
  rw [List.append_nil, readLossy_encode] at alone
  apply String.toList_injective
  rw [String.toList_append, decodeLossy_toList, decodeLossy_toList, readLossy_plain plain, alone]
  exact congrArg (· ++ _) (List.append_nil _).symm

end Utf8

/-! ## Names -/

namespace Text

theorem trimChars_concat {c : Char} (blank : isBlank c = true) (chars : List Char) :
    trimChars (chars ++ [c]) = trimChars chars := by
  rw [trimChars, trimChars, trimEndChars_eq, trimEndChars_eq, List.dropWhile_append]
  split
  · next allBlank =>
    rw [List.isEmpty_iff.mp allBlank, List.dropWhile_cons_of_pos blank]
    rfl
  · exact List.rdropWhile_concat_pos isBlank _ c blank

theorem trim_eq_empty_iff {text : String} : trim text = "" ↔ ∀ c ∈ text.toList, isBlank c = true := by
  have chars : trim text = "" ↔ trimChars text.toList = [] := by
    rw [← String.toList_inj, trim, String.toList_ofList]
    rfl
  rw [chars, trimChars, trimEndChars_eq, List.rdropWhile_eq_nil_iff]
  constructor
  · intro blank
    have visible := List.head?_dropWhile_not isBlank text.toList
    cases shape : text.toList.dropWhile isBlank with
    | nil => exact List.dropWhile_eq_nil_iff.mp shape
    | cons c rest =>
      rw [shape] at visible blank
      simp [blank c (List.mem_cons_self ..)] at visible
  · exact fun blank c member => blank c ((List.dropWhile_suffix isBlank).subset member)

end Text

/-- A comment of a single line can be ended as one. -/
theorem Zip.declaredName_firstLine {comment : Bytes} (noFeed : 0x0A ∉ comment) :
    declaredName (firstLine comment) = declaredName comment := by
  have whole : comment.takeWhile (· != 0x0A) = comment :=
    List.takeWhile_eq_self_iff.mpr fun octet member => bne_iff_ne.mpr fun feed => noFeed (feed ▸ member)
  rw [firstLine, whole]
  split
  · next ends =>
    obtain ⟨front, rfl⟩ := List.getLast?_eq_some_iff.mp ends
    rw [List.dropLast_concat, declaredName, declaredName, Text.trim, Text.trim, Utf8.decodeLossy_toList,
      Utf8.decodeLossy_toList, Utf8.readLossy_concat Utf8.State.isSound_start front (by decide),
      Text.trimChars_concat (by decide)]
  · rfl

/-! ## The command of a comment -/

/-- The request that asks for the name of a comment by the comment's own octets. -/
def Request.undeployBody (comment : Bytes) : Bytes := Utf8.encode undeployHead ++ comment

/-- A comment that is the rest of a command: a single line that is not too long, and a name. -/
structure Request.SpellsId (comment : Bytes) : Prop where
  noFeed : 0x0A ∉ comment
  clear : ¬ delimiter <:+: comment
  short : comment.length ≤ 1987
  shown : ∃ c ∈ (Utf8.decodeLossy comment).toList, isBlank c = false

namespace Request.SpellsId

variable {comment : Bytes}

theorem clear_body (spells : SpellsId comment) : ¬ delimiter <:+: undeployBody comment :=
  clear_undeployHead spells.clear

theorem declaredName_ne_empty (spells : SpellsId comment) : Zip.declaredName comment ≠ "" := by
  intro empty
  obtain ⟨c, member, visible⟩ := spells.shown
  exact absurd ((Text.trim_eq_empty_iff.mp empty) c member) (by simp [visible])

/-- The command asks for what the comment declares. -/
theorem dispatch (spells : SpellsId comment) :
    ∃ line, Dispatcher.new.dispatch (undeployBody comment) = (.ok (.command line), .new) ∧
      Command.parse line = .ok (.undeploy (Zip.declaredName comment)) := by
  have head : OneLine undeployHead := by decide
  have headLength : (Utf8.encode undeployHead).length = 13 := by decide
  have plain : ∀ octet ∈ Utf8.encode undeployHead, Utf8.IsPlain octet := Utf8.isPlain_of_all (by decide)
  have marked : commandMarker <+: undeployBody comment :=
    (show commandMarker <+: Utf8.encode undeployHead by decide +kernel).trans (List.prefix_append ..)
  have first : firstLine (undeployBody comment) = Utf8.encode undeployHead ++ firstLine comment :=
    head.firstLine_append comment
  have read : commandLine (undeployBody comment) =
      .ok (undeployHead ++ Utf8.decodeLossy (firstLine comment)) := by
    refine commandLine_eq_ok_iff.mpr ⟨?_, by rw [first, Utf8.decodeLossy_append plain]⟩
    rw [first, List.length_append, headLength]
    exact Nat.add_le_add_left ((isPrefix_firstLine comment).length_le.trans spells.short) 13
  refine ⟨_, by rw [Dispatcher.dispatch_new_of_command marked, read]; rfl, ?_⟩
  exact Command.parse_eq_undeploy_iff.mpr ⟨_, rfl, Zip.declaredName_firstLine spells.noFeed⟩

end Request.SpellsId

/-! ## Undeploying -/

/-- An archive is taken away, and this is confirmed by its ID. -/
structure Context.Drops (before after : Context) (id : String) (output : Bytes) : Prop where
  confirmed : output = (Reply.ok id).encode
  removed : after.store.get? id = none
  kept : ∀ other, other ≠ id → after.store.get? other = before.store.get? other

theorem Context.answer_undeploy {services : Services} {context : Context} {line id : String} {archive : Archive}
    (parsed : Command.parse line = .ok (.undeploy id)) (stored : context.store.get? id = some archive) :
    let answer := context.answer services (.ok (.command line))
    answer.result = .ok .proceed ∧ context.Drops answer.context id answer.output := by
  have present : context.store.contains id = true := congrArg Option.isSome stored
  have replied : context.respond services line =
      (.ok id, { context with store := (context.store.remove id).2 }) := by
    simp only [respond, execute, parsed, undeploy_eq, present, if_true]
  simp only [answer, replied, true_and]
  exact {
    confirmed := rfl
    removed := by simp only [Store.get?_remove, if_true]
    kept := fun other different => by simp only [Store.get?_remove, if_neg different] }

theorem Request.SpellsId.answer {comment : Bytes} (spells : SpellsId comment) (services : Services)
    {context : Context} {archive : Archive}
    (stored : context.store.get? (Zip.declaredName comment) = some archive) :
    let answer := context.answer services (Dispatcher.new.dispatch (undeployBody comment)).1
    answer.result = .ok .proceed ∧ context.Drops answer.context (Zip.declaredName comment) answer.output := by
  obtain ⟨line, dispatched, parsed⟩ := spells.dispatch
  rw [dispatched]
  exact Context.answer_undeploy parsed stored

/-- A deployed file whose comment spells a name is taken away by the request that holds the comment as it is:
of any connection that has no bytes carried over, as long as the archive is there, and of a new one that
receives the request in any division. -/
theorem Connection.undeploys_by_comment (entropy : Nat → Nat) (executor : Executor) (context : Context)
    (payload : Bytes) (archive : Archive) (record : Zip.EndRecord) (directory : Zip.Directory)
    (found : Zip.contents? payload = some (record, directory))
    (accepted : Zip.decode (entropy context.imports) payload = .ok archive)
    (spells : SpellsId record.comment) :
    let services := Services.ofZip entropy executor
    let deployed := context.ingest services payload
    let body := undeployBody record.comment
    deployed.1 = .ok (.ok (deployHead ++ archive.id)) ∧
    deployed.2.store.get? archive.id = some archive ∧
    (∀ connection : Connection, connection.peer = .unlimited → connection.dispatcher = .new →
      connection.context.store.get? archive.id = some archive →
      let handled := connection.handleFrame services body
      handled.result = .ok .proceed ∧
        connection.context.Drops handled.connection.context archive.id handled.output) ∧
    ∀ limit reads, body.length ≤ limit → reads.flatten = body ++ delimiter →
      let session := Connection.served deployed.2 limit reads services.importer executor
      session.finish = .ok () ∧ deployed.2.Drops session.context archive.id session.output := by
  have declared : Zip.declaredName? payload = some (Zip.declaredName record.comment) := by
    rw [Zip.declaredName?, found]
    rfl
  have name := Zip.name_of_decode accepted declared spells.declaredName_ne_empty
  intro services deployed body
  have ingested : context.ingest (.ofZip entropy executor) payload = _ := Context.ingest_ofZip accepted
  have stored : deployed.2.store.get? archive.id = some archive := by
    simp only [deployed, services, ingested, Store.get?_insert, if_true]
  refine ⟨congrArg Prod.fst ingested, stored, fun connection unlimited fresh present => ?_,
    fun limit reads short division => ?_⟩
  · rw [name] at present ⊢
    rw [handleFrame_unlimited unlimited, fresh]
    exact spells.answer services present
  · have run : Connection.served deployed.2 limit reads services.importer executor =
        Session.ofRequests services deployed.2 [(Dispatcher.new.dispatch body).1] := by
      rw [served, run_eq_session, division, Session.ofStream_request _ _ _ _ spells.clear_body,
        if_neg (Nat.not_lt.mpr short)]
      rfl
    rw [name] at stored ⊢
    obtain ⟨proceeds, drops⟩ := spells.answer services stored
    simp only [run, Session.ofRequests, body, proceeds, Session.behind, List.append_nil, true_and]
    exact drops

/-- A comment with an ideographic space in front, a lead octet that the letter behind it breaks off, and a
character that the carriage return at the end breaks off. -/
theorem Connection.undeploys_by_comment_broken :
    let comment : Bytes := [0xE3, 0x80, 0x80, 0xC3, 0x61, 0x20, 0xE2, 0x82, 0x0D]
    let executor : Executor := fun _ _ _ => .error ⟨.execution, "no runner"⟩
    let context := Context.new (Store.empty.insert "other" (.new "other")).2
    let deployed := context.ingest (.ofZip id executor) (Zip.Export.mk [] [] comment).encode
    let reads := [undeployBody comment ++ [0x3C, 0x3C], [0x45, 0x4F, 0x46]]
    let session := served deployed.2 22 reads (Services.ofZip id executor).importer executor
    let handled := (Connection.new deployed.2 0 .unlimited).handleFrame (.ofZip id executor) (undeployBody comment)
    SpellsId comment ∧ deployed.1 = .ok (.ok "DPL \uFFFDa \uFFFD") ∧
      deployed.2.store.get? "\uFFFDa \uFFFD" = some (.new "\uFFFDa \uFFFD") ∧
      handled.result = .ok .proceed ∧ handled.output = session.output ∧
      session.output = Utf8.encode "OK \uFFFDa \uFFFD\r\n" ∧
      session.context.store.get? "\uFFFDa \uFFFD" = none ∧
      session.context.store.get? "other" = some (.new "other") := by
  intro comment executor context deployed reads session handled
  have spells : SpellsId comment := ⟨by decide, by decide, by decide, 'a', by decide +kernel, by decide⟩
  have name : Zip.declaredName comment = "\uFFFDa \uFFFD" := by decide +kernel
  have readable : (Zip.Export.mk [] [] comment).Readable :=
    Zip.Export.readable_empty (by decide) (by decide +kernel)
  have accepted := Zip.decode_empty readable spells.declaredName_ne_empty context.imports
  rw [name] at accepted
  obtain ⟨replied, stored, handles, serves⟩ := undeploys_by_comment id executor context _ _ _ _
    readable.contents? accepted spells
  obtain ⟨proceeds, dropped⟩ := handles (Connection.new deployed.2 0 .unlimited) rfl rfl stored
  obtain ⟨-, drops⟩ := serves 22 reads (by decide +kernel) (by decide +kernel)
  have other : deployed.2.store.get? "other" = some (.new "other") := by
    have ingested : deployed = _ := Context.ingest_ofZip accepted
    rw [ingested]
    rfl
  refine ⟨spells, replied, stored, proceeds, dropped.confirmed.trans drops.confirmed.symm, ?_, drops.removed,
    (drops.kept "other" (by decide)).trans other⟩
  exact drops.confirmed.trans (by decide +kernel)

end TestDaemon
