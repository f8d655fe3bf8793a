import TestDaemon.Client
import TestDaemon.Command

/-! # Texts of commands and replies

The texts that a client writes for its operations are the commands that a server reads in them, and the
texts of a server's replies say to the client what happened. An ID keeps the rest of its line, so that it
must be trimmed to come through an undeploy; a test is three words.
-/

namespace TestDaemon

open Request

/-- A text that stands for itself among others that are separated by blanks. -/
structure IsWord (text : String) : Prop where
  nonempty : text ≠ ""
  clear : ∀ c ∈ text.toList, isBlank c = false

instance (text : String) : Decidable (IsWord text) :=
  decidable_of_iff (text ≠ "" ∧ text.toList.all fun c => !isBlank c)
    ⟨fun ⟨nonempty, clear⟩ => ⟨nonempty, by simpa using clear⟩,
      fun ⟨nonempty, clear⟩ => ⟨nonempty, by simpa using clear⟩⟩

namespace Text

theorem after?_append (head text : String) : after? head (head ++ text) = some text :=
  after?_eq_some_iff.mpr rfl

theorem wordsFrom_append {word : List Char} (clear : ∀ c ∈ word, isBlank c = false) (run rest : List Char) :
    wordsFrom run (word ++ rest) = wordsFrom (word.reverse ++ run) rest := by
  induction word generalizing run with
  | nil => rfl
  | cons c word ih =>
    have visible : isBlank c = false := clear c (List.mem_cons_self ..)
    rw [List.cons_append, wordsFrom, if_neg (by simp [visible]),
      ih fun other member => clear other (List.mem_cons_of_mem _ member)]
    simp

/-- A word ends at a blank. -/
theorem wordsFrom_word {word : String} (isWord : IsWord word) (rest : List Char) :
    wordsFrom [] (word.toList ++ ' ' :: rest) = word.toList :: wordsFrom [] rest := by
  have nonempty : word.toList ≠ [] := fun empty =>
    isWord.nonempty (String.toList_injective (by rw [empty]; rfl))
  rw [wordsFrom_append isWord.clear, wordsFrom, if_pos (by decide), if_neg (by simpa using nonempty)]
  simp

theorem wordsFrom_last {word : String} (isWord : IsWord word) :
    wordsFrom [] word.toList = [word.toList] := by
  have nonempty : word.toList ≠ [] := fun empty =>
    isWord.nonempty (String.toList_injective (by rw [empty]; rfl))
  have whole := wordsFrom_append isWord.clear [] []
  rw [List.append_nil] at whole
  rw [whole, wordsFrom, if_neg (by simpa using nonempty)]
  simp

end Text

namespace Command

theorem parse_undeploy {id : String} (trimmed : Text.trim id = id) :
    parse (undeployCommand id) = .ok (.undeploy id) :=
  parse_eq_undeploy_iff.mpr ⟨id, rfl, trimmed⟩

theorem words_testCommand {id className method : String} (isId : IsWord id) (isClass : IsWord className)
    (isMethod : IsWord method) :
    Text.words (testCommand id className method) = ["CMD", "test", id, className, method] := by
  have shape : (testCommand id className method).toList =
      ("CMD" : String).toList ++ ' ' :: (("test" : String).toList ++ ' ' :: (id.toList ++
        ' ' :: (className.toList ++ ' ' :: method.toList))) := by
    simp [testCommand, testHead]
  rw [Text.words, shape, Text.wordsFrom_word (by decide), Text.wordsFrom_word (by decide),
    Text.wordsFrom_word isId, Text.wordsFrom_word isClass, Text.wordsFrom_last isMethod]
  simp

theorem parse_test {id className method : String} (isId : IsWord id) (isClass : IsWord className)
    (isMethod : IsWord method) :
    parse (testCommand id className method) = .ok (.test id className method) := by
  refine parse_eq_test_iff.mpr ⟨id ++ " " ++ className ++ " " ++ method, [], ?_, ?_⟩
  · simp only [testCommand, String.append_assoc]
  · rw [words_testCommand isId isClass isMethod]
    rfl

end Command

namespace Reply

theorem deployedId?_deployed (id : String) : deployedId? (okHead ++ (deployHead ++ id)) = some id := by
  rw [deployedId?, Text.after?_append, Option.bind_some, Text.after?_append]

theorem startsWith_ok (text : String) : Text.startsWith okHead (okHead ++ text) = true := by
  rw [Text.startsWith, Text.after?_append]
  rfl

theorem not_startsWith_ok (text : String) : Text.startsWith okHead (errorHead ++ text) = false := by
  rw [Text.startsWith, Text.after?, String.toList_append]
  rfl

end Reply

theorem Error.remote_failed (text : String) : Error.remote (Reply.errorHead ++ text) = ⟨.command, text⟩ := by
  rw [Error.remote, Text.after?_append]

end TestDaemon
