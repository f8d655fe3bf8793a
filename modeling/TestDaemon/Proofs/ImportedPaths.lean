import TestDaemon.Proofs.SafePaths
import TestDaemon.Proofs.Undeploying

/-! # What an import lets in

Whatever the bytes are, an imported archive has a visible name, and no path in it leads out of the directory
that it starts from. A file that lists a path which does is refused as a whole, also where a later header
takes the place of that one.
-/

namespace TestDaemon

/-! ## Paths that stay inside -/

namespace Path

/-- Whether a component goes down. -/
def Component.isNormal : Component → Bool
  | normal _ => true
  | root | parent => false

/-- Whether a path is one without NUL, from where it stands, that goes up at no point more often than it has
gone down. -/
structure StaysInside (path : String) : Prop where
  noNul : '\x00' ∉ path.toList
  relative : path.toList.head? ≠ some '/'
  bounded : ∀ front, front <+: components path → front.count .parent ≤ front.countP Component.isNormal

theorem forall_prefix_cons {part : Component} {rest : List Component} {p : List Component → Prop} :
    (∀ front, front <+: part :: rest → p front) ↔ p [] ∧ ∀ front, front <+: rest → p (part :: front) := by
  constructor
  · exact fun all => ⟨all [] List.nil_prefix, fun front leads => all _ (List.cons_prefix_cons.mpr ⟨rfl, leads⟩)⟩
  · rintro ⟨empty, later⟩ front leads
    rcases List.prefix_cons_iff.mp leads with rfl | ⟨others, rfl, inRest⟩
    · exact empty
    · exact later others inRest

/-- A walk stays below its start if no front of it has more steps up than there are levels to go up. -/
theorem staysBelow_iff {depth : Nat} {parts : List Component} :
    staysBelow depth parts = true ↔ .root ∉ parts ∧
      ∀ front, front <+: parts → front.count .parent ≤ depth + front.countP Component.isNormal := by
  -- Behind a step down there is one more level to go up, behind a step up one less.
  fun_induction staysBelow depth parts with
  | case1 depth => simp
  | case2 depth rest => simp
  | case3 rest =>
    refine iff_of_false Bool.false_ne_true fun stays => ?_
    have up := stays.2 [.parent] (by simp)
    simp [Component.isNormal] at up
  | case4 depth rest ih =>
    rw [ih, forall_prefix_cons]
    simp only [List.mem_cons, reduceCtorEq, false_or, List.count_nil, Nat.zero_le, true_and,
      List.count_cons_self, List.countP_cons, Component.isNormal, Bool.false_eq_true, if_false, Nat.add_zero,
      Nat.add_right_comm depth 1, Nat.add_le_add_iff_right]
  | case5 depth name rest ih =>
    rw [ih, forall_prefix_cons]
    simp only [List.mem_cons, reduceCtorEq, false_or, List.count_nil, Nat.zero_le, true_and,
      List.count_cons, List.countP_cons, Component.isNormal, if_true, beq_iff_eq, if_false, Nat.add_zero,
      Nat.add_right_comm depth 1, Nat.add_assoc]

theorem isAbsolute_iff {path : String} : isAbsolute path = true ↔ .root ∈ components path := by
  rw [components]
  split
  · next absolute => simp [absolute]
  · next relative =>
    refine iff_of_false relative fun root => ?_
    obtain ⟨segment, -, means⟩ := List.mem_filterMap.mp root
    rw [ofSegment?] at means
    split at means
    · cases means
    · split at means <;> cases means

/-- An import lets in exactly the paths that stay inside. -/
theorem isEnclosed_iff {path : String} : isEnclosed path = true ↔ StaysInside path := by
  have relative : path.toList.head? ≠ some '/' ↔ .root ∉ components path := by
    rw [← isAbsolute_iff, isAbsolute, beq_iff_eq]
  rw [isEnclosed, Bool.and_eq_true, staysBelow_iff, ← relative, Bool.not_eq_true', List.contains_eq_mem,
    decide_eq_false_iff_not]
  simp only [Nat.zero_add]
  constructor
  · rintro ⟨noNul, relative, bounded⟩
    exact ⟨noNul, relative, bounded⟩
  · rintro ⟨noNul, relative, bounded⟩
    exact ⟨noNul, relative, bounded⟩

theorem isDirectory_eq_false_iff {path : String} :
    isDirectory path = false ↔ path.toList.getLast? ≠ some '/' ∧ path.toList.getLast? ≠ some '\\' := by
  simp [isDirectory]

end Path

/-! ## Names -/

/-- Whether a text is not empty and has no white space at its ends. -/
structure Text.IsTrimmed (text : String) : Prop where
  shown : text ≠ ""
  front : ∀ c ∈ text.toList.head?, isBlank c = false
  back : ∀ c ∈ text.toList.getLast?, isBlank c = false

theorem Text.isTrimmed_trim {text : String} (shown : trim text ≠ "") : IsTrimmed (trim text) where
  shown
  front c first := by
    rw [trim, String.toList_ofList] at first
    exact isBlank_head?_trimChars first
  back c last := OneLine.isBlank_getLast?_trim last

theorem Text.isTrimmed_of_visible {text : String} (shown : text ≠ "")
    (visible : ∀ c ∈ text.toList, isBlank c = false) : IsTrimmed text where
  shown
  front c first := visible c (List.mem_of_mem_head? first)
  back c last := visible c (List.mem_of_mem_getLast? last)

theorem Uuid.visible_digitChar {digit : Nat} (small : digit < 16) : isBlank (Nat.digitChar digit) = false := by
  decide +revert

theorem Uuid.visible_hex {width n : Nat} : ∀ c ∈ hex width n, isBlank c = false := by
  induction width generalizing n with
  | zero => simp [hex]
  | succ width ih =>
    rw [hex, List.forall_mem_append, List.forall_mem_singleton]
    exact ⟨ih, visible_digitChar (Nat.mod_lt _ (by decide))⟩

theorem Uuid.visible_ofNat (n : Nat) : ∀ c ∈ (ofNat n).toList, isBlank c = false := by
  have variant : 8 + (n >>> 60) % 4 < 16 := by omega
  simp only [ofNat, String.toList_ofList, List.forall_mem_append, List.forall_mem_cons, and_assoc]
  exact ⟨visible_hex, by decide, visible_hex, by decide, by decide, visible_hex, by decide,
    visible_digitChar variant, visible_hex, by decide, visible_hex⟩

theorem Zip.isTrimmed_freshName (entropy : Nat) : Text.IsTrimmed (freshName entropy) := by
  have tail : (freshName entropy).toList = (Uuid.ofNat entropy).toList ++ ['.', 'z', 'i', 'p'] :=
    String.toList_append
  refine Text.isTrimmed_of_visible (fun empty => ?_) ?_
  · rw [empty] at tail
    simp at tail
  · rw [tail, List.forall_mem_append]
    exact ⟨Uuid.visible_ofNat entropy, by simp [isBlank]⟩

/-! ## Files that are refused -/

namespace Zip

variable {entropy : Nat} {file : Bytes} {archive : Archive} {record : EndRecord} {directory : Directory}

theorem isTrimmed_of_decode (decoded : decode entropy file = .ok archive) : Text.IsTrimmed archive.id := by
  rw [decode] at decoded
  split at decoded
  · cases decoded
  · next record directory _ =>
    rw [Archive.id, name_of_foldlM decoded, Archive.new]
    dsimp only
    split
    · exact isTrimmed_freshName entropy
    · next declared => exact Text.isTrimmed_trim declared

theorem mem_replaceOrAppend (header : Header) (kept : List Header) : header ∈ replaceOrAppend header kept := by
  induction kept with
  | nil => exact List.mem_singleton_self header
  | cons first rest ih =>
    rw [replaceOrAppend]
    split
    · exact List.mem_cons_self ..
    · exact List.mem_cons_of_mem _ ih

/-- A header that gives way does so to one of the same path. -/
theorem path_mem_replaceOrAppend {header : Header} {kept : List Header} {path : String}
    (member : path ∈ kept.map Header.path) : path ∈ (replaceOrAppend header kept).map Header.path := by
  induction kept with
  | nil => simp at member
  | cons first rest ih =>
    rw [List.map_cons, List.mem_cons] at member
    rw [replaceOrAppend]
    split
    · next same =>
      rw [List.map_cons, List.mem_cons, ← same]
      exact member
    · rw [List.map_cons, List.mem_cons]
      exact member.imp_right ih

theorem path_mem_distinct {headers : List Header} {header : Header} (member : header ∈ headers) :
    header.path ∈ (distinct headers).map Header.path := by
  have keeps (later kept : List Header) {path : String} (present : path ∈ kept.map Header.path) :
      path ∈ (later.foldl (fun kept header => replaceOrAppend header kept) kept).map Header.path := by
    induction later generalizing kept with
    | nil => exact present
    | cons next later ih => exact ih _ (path_mem_replaceOrAppend present)
  obtain ⟨earlier, later, rfl⟩ := List.append_of_mem member
  rw [distinct, List.foldl_append, List.foldl_cons]
  exact keeps later _ (List.mem_map_of_mem (mem_replaceOrAppend ..))

theorem Header.addTo_of_outside {header : Header} {shift : Nat}
    (regular : Path.isDirectory header.path = false) (outside : ¬ Path.StaysInside header.path)
    (archive : Archive) : ∃ error, header.addTo file shift archive = .error error := by
  have open' : Path.isEnclosed header.path = false := by
    rw [← Bool.not_eq_true, Path.isEnclosed_iff]
    exact outside
  cases stored : header.stored? file shift with
  | none => exact ⟨.invalidArchive, by rw [addTo, stored]⟩
  | some data => exact ⟨.escapingEntry header.path, by simp [addTo, stored, regular, open']⟩

/-- An import ends with an error if one of its headers does, whatever has been added before it. -/
theorem foldlM_error_of_mem {headers : List Header} {header : Header} {shift : Nat} (member : header ∈ headers)
    (fails : ∀ archive, ∃ error, header.addTo file shift archive = .error error) (archive : Archive) :
    ∃ error, headers.foldlM (Header.addTo file shift) archive = .error error := by
  induction headers generalizing archive with
  | nil => simp at member
  | cons first headers ih =>
    rw [List.foldlM_cons]
    cases added : first.addTo file shift archive with
    | error error => exact ⟨error, rfl⟩
    | ok next =>
      rcases List.mem_cons.mp member with rfl | later
      · obtain ⟨error, failed⟩ := fails archive
        cases added.symm.trans failed
      · exact ih later next

theorem decode_of_outside (found : contents? file = some (record, directory)) {header : Header}
    (listed : header ∈ directory.headers) (regular : Path.isDirectory header.path = false)
    (outside : ¬ Path.StaysInside header.path) : ∃ error, decode entropy file = .error error := by
  -- The header itself may have given way, but then to one of the same path.
  obtain ⟨kept, inDistinct, same⟩ := List.mem_map.mp (path_mem_distinct listed)
  rw [← same] at regular outside
  rw [decode, found]
  exact foldlM_error_of_mem inDistinct (Header.addTo_of_outside regular outside) _

/-- An imported archive has a visible name without white space around it, and paths of files that stay inside.
A file that lists one that does not is refused, and so is its deployment, which leaves everything as it was. -/
theorem decode_admits (entropy : Nat → Nat) (executor : Executor) (file : Bytes) :
    (∀ serial archive, decode (entropy serial) file = .ok archive →
      Text.IsTrimmed archive.id ∧ ∀ path ∈ archive.paths, Path.StaysInside path ∧
        path.toList.getLast? ≠ some '/' ∧ path.toList.getLast? ≠ some '\\') ∧
    ∀ record directory, contents? file = some (record, directory) → ∀ header ∈ directory.headers,
      Path.isDirectory header.path = false → ¬ Path.StaysInside header.path →
      ∀ context : Context, ∃ error, decode (entropy context.imports) file = .error error ∧
        context.ingest (.ofZip entropy executor) file = (.error error, context) := by
  constructor
  · intro serial archive decoded
    refine ⟨isTrimmed_of_decode decoded, fun path member => ?_⟩
    obtain ⟨enclosed, regular⟩ := paths_of_decode decoded path member
    exact ⟨Path.isEnclosed_iff.mp enclosed, Path.isDirectory_eq_false_iff.mp regular⟩
  · intro record directory found header listed regular outside context
    obtain ⟨error, refused⟩ : ∃ error, decode (entropy context.imports) file = .error error :=
      decode_of_outside found listed regular outside
    refine ⟨error, refused, ?_⟩
    simp only [Context.ingest, Services.ofZip, refused]

/-- A path that goes up within its bounds is let in under a name with white space around it; one that leads
out for a moment only is not, although its header stands between others. -/
theorem decode_admits_detour :
    let executor : Executor := fun _ _ _ => .error ⟨.execution, "no runner"⟩
    let inside := (Export.ofArchive Deflate.encode ((Archive.new " süite\t").insertFile "a/../b" [])).encode
    let outside := (Export.ofArchive Deflate.encode (((Archive.new "suite").insertFile "a" [1]).insertFile
      "b/../../b/c" [2] |>.insertFile "d/" [])).encode
    (∃ archive, decode 0 inside = .ok archive ∧ archive.id = "süite" ∧ Text.IsTrimmed archive.id ∧
      archive.paths = ["a/../b"] ∧ Path.StaysInside "a/../b") ∧
    ∃ error, decode 0 outside = .error error ∧
      (Context.new .empty).ingest (.ofZip id executor) outside = (.error error, .new .empty) := by
  intro executor inside outside
  constructor
  · have shape : (decode 0 inside).toOption.map (fun archive => (archive.id, archive.paths)) =
        some ("süite", ["a/../b"]) := by decide +kernel
    cases decoded : decode 0 inside with
    | error error => simp [decoded, Except.toOption] at shape
    | ok archive =>
      obtain ⟨name, paths⟩ : archive.id = "süite" ∧ archive.paths = ["a/../b"] := by
        simpa [decoded, Except.toOption] using shape
      obtain ⟨trimmed, checked⟩ := (decode_admits id executor inside).1 0 archive decoded
      exact ⟨archive, rfl, name, trimmed, paths, (checked "a/../b" (by simp [paths])).1⟩
  · have shape : (contents? outside).map (fun found => found.2.headers.map Header.path) =
        some ["a", "b/../../b/c", "d/"] := by decide +kernel
    obtain ⟨⟨record, directory⟩, found, paths⟩ := Option.map_eq_some_iff.mp shape
    obtain ⟨header, listed, path⟩ : ∃ header ∈ directory.headers, header.path = "b/../../b/c" := by
      rw [← List.mem_map, paths]
      decide
    have regular : Path.isDirectory header.path = false := by
      rw [path]
      decide +kernel
    have leaves : ¬ Path.StaysInside header.path := by
      rw [path, ← Path.isEnclosed_iff]
      decide +kernel
    exact (decode_admits id executor outside).2 record directory found header listed regular leaves (.new .empty)

end Zip

end TestDaemon
