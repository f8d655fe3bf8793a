import TestDaemon.Proofs.Fallible
import TestDaemon.Proofs.Utf8Lossy
import TestDaemon.Request
import TestDaemon.Zip.Reader
import Mathlib.Data.List.DropRight

/-! # Declared names

An imported archive is called what its file's comment declares, whatever its entries are. The comment is
a part of the file, and its name is trimmed. So a file without delimiters gives a name without one, however
badly its comment is encoded.
-/

namespace TestDaemon

open Request

namespace Bytes

theorem take?_eq_some_iff {count : Nat} {bytes field rest : Bytes} :
    take? count bytes = some (field, rest) ↔ bytes = field ++ rest ∧ field.length = count := by
  constructor
  · intro taken
    rw [take?] at taken
    split at taken
    · next whole =>
      obtain ⟨rfl, rfl⟩ := Prod.mk.inj (Option.some.inj taken)
      exact ⟨(List.take_append_drop count bytes).symm, whole⟩
    · contradiction
  · rintro ⟨rfl, rfl⟩
    exact take?_append field rest

theorem suffix_of_after? {head bytes rest : Bytes} (after : after? head bytes = some rest) :
    rest <:+ bytes := ⟨head, (after?_eq_some_iff.mp after).symm⟩

theorem suffix_of_takeNat? {width n : Nat} {bytes rest : Bytes}
    (taken : takeNat? width bytes = some (n, rest)) : rest <:+ bytes := by
  obtain ⟨⟨field, other⟩, read, same⟩ := Option.map_eq_some_iff.mp taken
  obtain ⟨-, rfl⟩ := Prod.mk.inj same
  exact ⟨field, (take?_eq_some_iff.mp read).1.symm⟩

end Bytes

namespace Zip

theorem EndRecord.comment_infix {bytes : Bytes} {record : EndRecord} (read : read? bytes = some record) :
    record.comment <:+: bytes := by
  simp only [read?, Option.bind_eq_bind, Option.bind_eq_some_iff, Option.pure_def, Option.some.injEq] at read
  obtain ⟨_, signed, ⟨_, _⟩, first, ⟨_, _⟩, second, ⟨_, _⟩, third, ⟨_, _⟩, fourth, ⟨_, _⟩, fifth, ⟨_, _⟩,
    sixth, ⟨_, _⟩, seventh, ⟨comment, _⟩, taken, rfl⟩ := read
  have inside : comment <:+: _ := ⟨[], _, (Bytes.take?_eq_some_iff.mp taken).1.symm⟩
  exact inside.trans (((((((Bytes.suffix_of_takeNat? seventh).trans (Bytes.suffix_of_takeNat? sixth)).trans
    (Bytes.suffix_of_takeNat? fifth)).trans (Bytes.suffix_of_takeNat? fourth)).trans
    (Bytes.suffix_of_takeNat? third)).trans (Bytes.suffix_of_takeNat? second)).trans
    ((Bytes.suffix_of_takeNat? first).trans (Bytes.suffix_of_after? signed))).isInfix

theorem comment_infix {file : Bytes} {record : EndRecord} {directory : Directory}
    (found : contents? file = some (record, directory)) : record.comment <:+: file := by
  obtain ⟨position, -, candidate⟩ := List.exists_of_findSome?_eq_some found
  simp only [candidate?, Option.bind_eq_bind, Option.bind_eq_some_iff] at candidate
  obtain ⟨other, read, shift, _, usable⟩ := candidate
  have same : other = record := by
    split at usable
    · simp only [Option.bind_eq_some_iff, Option.pure_def, Option.some.injEq, Prod.mk.injEq] at usable
      obtain ⟨_, _, same, _⟩ := usable
      exact same
    · contradiction
  exact (EndRecord.comment_infix (same ▸ read)).trans (List.drop_suffix position file).isInfix

/-! ## Names -/

theorem Header.name_of_addTo {header : Header} {file : Bytes} {shift : Nat} {archive after : Archive}
    (added : header.addTo file shift archive = .ok after) : after.name = archive.name := by
  rw [addTo] at added
  split at added
  · contradiction
  · split at added
    · rw [← Except.ok.inj added]
    · split at added
      · contradiction
      · split at added
        · contradiction
        · rw [← Except.ok.inj added]
          rfl

theorem name_of_foldlM {headers : List Header} {file : Bytes} {shift : Nat} {archive after : Archive}
    (added : headers.foldlM (Header.addTo file shift) archive = .ok after) : after.name = archive.name := by
  refine keeps_of_foldlM (fun imported => imported.name = archive.name) ?_ rfl added
  intro before header next same stepped
  exact (Header.name_of_addTo stepped).trans same

/-- The name that a file declares for its archive. -/
def declaredName? (file : Bytes) : Option String :=
  (contents? file).map fun (record, _) => declaredName record.comment

theorem name_of_decode {entropy : Nat} {file : Bytes} {archive : Archive} {name : String}
    (decoded : decode entropy file = .ok archive) (declared : declaredName? file = some name)
    (nonempty : name ≠ "") : archive.id = name := by
  rw [declaredName?] at declared
  rw [decode] at decoded
  cases found : contents? file with
  | none => simp [found] at declared
  | some contents =>
    obtain ⟨record, directory⟩ := contents
    obtain rfl : declaredName record.comment = name := by simpa [found] using declared
    simp only [found, if_neg nonempty] at decoded
    rw [Archive.id, name_of_foldlM decoded, Archive.new]

end Zip

namespace Text

theorem trimEndChars_eq (p : Char → Bool) (chars : List Char) : trimEndChars p chars = chars.rdropWhile p :=
  rfl

theorem trim_infix (text : String) : (trim text).toList <:+: text.toList := by
  rw [trim, String.toList_ofList, trimChars, trimEndChars_eq]
  exact (List.rdropWhile_prefix _ _).isInfix.trans (List.dropWhile_suffix isBlank).isInfix

theorem isBlank_head?_trimChars {chars : List Char} {c : Char} (first : (trimChars chars).head? = some c) :
    isBlank c = false := by
  have front : trimChars chars <+: chars.dropWhile isBlank := List.rdropWhile_prefix _ _
  have visible := List.head?_dropWhile_not isBlank chars
  obtain ⟨rest, shape⟩ := List.head?_eq_some_iff.mp first
  rw [shape] at front
  obtain ⟨after, whole⟩ := front
  rw [← whole] at visible
  simpa using visible

theorem trim_trim (text : String) : trim (trim text) = trim text := by
  have kept : (trimChars text.toList).dropWhile isBlank = trimChars text.toList := by
    cases shape : trimChars text.toList with
    | nil => rfl
    | cons c rest =>
      have visible : isBlank c = false := isBlank_head?_trimChars (by rw [shape]; rfl)
      exact List.dropWhile_cons_of_neg (by simp [visible])
  have again : trimChars (trimChars text.toList) = trimChars text.toList := by
    rw [trimChars, kept]
    exact List.rdropWhile_idempotent isBlank _
  rw [trim, trim, String.toList_ofList, again]

end Text

namespace Zip

theorem trim_declaredName (comment : Bytes) : Text.trim (declaredName comment) = declaredName comment :=
  Text.trim_trim _

theorem clear_declaredName {comment : Bytes} (clear : ¬ delimiter <:+: comment) :
    ¬ delimiter <:+: Utf8.encode (declaredName comment) := by
  rw [Utf8.infix_encode_iff (by decide) (Utf8.isPlain_of_all (by decide))]
  intro occurs
  have inText := occurs.trans (Text.trim_infix _)
  rw [Utf8.infix_decodeLossy_iff (by decide) (Utf8.isPlain_of_all (by decide))] at inText
  exact clear inText

end Zip

end TestDaemon
