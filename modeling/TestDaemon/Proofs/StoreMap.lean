import Mathlib.Data.List.Induction
import Mathlib.Data.List.Sort
import TestDaemon.Proofs.Utf8Order
import TestDaemon.Store.Sharing

/-! # The store is a finite map

Whatever is done with a store, its answers are those of a map from IDs to archives that is told by the calls
alone: under an ID stands the archive that has been inserted last and not been removed since. The rules for the
answers leave no choice (`StoreCall.Answers`). A store that shares its archives gives the same answers through
handles, and a handle leads to its archive whatever is done with the store afterwards.
-/

namespace TestDaemon

/-- What a store can be asked for. -/
inductive StoreCall where
  | insert (id : String) (archive : Archive)
  | remove (id : String)
  | get (id : String)
  | contains (id : String)
  | size
  | isEmpty
  | ids

/-- What a store answers, where a lookup finds a value of some type. -/
inductive StoreAnswer (Found : Type) where
  | found (result : Option Found)
  | flag (value : Bool)
  | count (number : Nat)
  | listed (ids : List String)

def StoreAnswer.map {Found Other : Type} (f : Found → Other) : StoreAnswer Found → StoreAnswer Other
  | found result => found (result.map f)
  | flag value => flag value
  | count number => count number
  | listed ids => listed ids

/-- The operations of a store. -/
structure StoreOperations (σ Found : Type) where
  insert : σ → String → Archive → Option Found × σ
  remove : σ → String → Option Found × σ
  get? : σ → String → Option Found
  contains : σ → String → Bool
  size : σ → Nat
  isEmpty : σ → Bool
  ids : σ → List String

def Store.operations : StoreOperations Store Archive where
  insert := Store.insert
  remove := Store.remove
  get? := Store.get?
  contains := Store.contains
  size := Store.size
  isEmpty := Store.isEmpty
  ids := Store.ids

def SharedStore.operations : StoreOperations SharedStore ArchiveHandle where
  insert := SharedStore.insert
  remove := SharedStore.remove
  get? := SharedStore.get?
  contains := SharedStore.contains
  size := SharedStore.size
  isEmpty := SharedStore.isEmpty
  ids := SharedStore.ids

namespace StoreOperations

variable {σ Found : Type} (operations : StoreOperations σ Found)

/-- Answer a call. -/
def perform (store : σ) : StoreCall → StoreAnswer Found × σ
  | .insert id archive => let (found, after) := operations.insert store id archive; (.found found, after)
  | .remove id => let (found, after) := operations.remove store id; (.found found, after)
  | .get id => (.found (operations.get? store id), store)
  | .contains id => (.flag (operations.contains store id), store)
  | .size => (.count (operations.size store), store)
  | .isEmpty => (.flag (operations.isEmpty store), store)
  | .ids => (.listed (operations.ids store), store)

/-- The store behind calls. -/
def after (store : σ) (calls : List StoreCall) : σ :=
  calls.foldl (fun store call => (operations.perform store call).2) store

theorem after_snoc (store : σ) (calls : List StoreCall) (call : StoreCall) :
    operations.after store (calls ++ [call]) = (operations.perform (operations.after store calls) call).2 := by
  rw [after, List.foldl_append]
  rfl

end StoreOperations

/-! ## The map that calls tell -/

namespace StoreCall

/-- Has to do with what stands under an ID. -/
def Changes (id : String) : StoreCall → Prop
  | insert other _ | remove other => other = id
  | get _ | contains _ | size | isEmpty | ids => False

/-- An archive has been inserted under an ID, and it has been neither replaced nor removed since. -/
def Standing (calls : List StoreCall) (id : String) (archive : Archive) : Prop :=
  ∃ prior later, calls = prior ++ insert id archive :: later ∧ ∀ call ∈ later, ¬ call.Changes id

/-- The IDs under which something stands, in the order of their octets. -/
structure Lists (calls : List StoreCall) (ids : List String) : Prop where
  sorted : ids.Pairwise fun first second => Utf8.encode first < Utf8.encode second
  complete : ∀ id, id ∈ ids ↔ ∃ archive, Standing calls id archive

/-- The answers of a map behind calls. -/
inductive Answers (prior : List StoreCall) : StoreCall → StoreAnswer Archive → Prop
  | insert {id : String} {archive : Archive} {replaced : Option Archive}
      (stood : ∀ other, replaced = some other ↔ Standing prior id other) :
      Answers prior (.insert id archive) (.found replaced)
  | remove {id : String} {removed : Option Archive}
      (stood : ∀ other, removed = some other ↔ Standing prior id other) :
      Answers prior (.remove id) (.found removed)
  | get {id : String} {result : Option Archive}
      (stands : ∀ other, result = some other ↔ Standing prior id other) :
      Answers prior (.get id) (.found result)
  | contains {id : String} {value : Bool} (stands : value = true ↔ ∃ archive, Standing prior id archive) :
      Answers prior (.contains id) (.flag value)
  | size {ids : List String} (lists : Lists prior ids) : Answers prior .size (.count ids.length)
  | isEmpty {ids : List String} (lists : Lists prior ids) :
      Answers prior .isEmpty (.flag (ids.length == 0))
  | ids {ids : List String} (lists : Lists prior ids) : Answers prior .ids (.listed ids)

variable {calls : List StoreCall} {call : StoreCall} {id : String} {archive : Archive}

theorem standing_nil : ¬ Standing [] id archive := by
  rintro ⟨prior, later, split, -⟩
  cases prior <;> cases split

/-- What stands under an ID is what the last call has inserted there, or what it has left. -/
theorem standing_snoc_iff :
    Standing (calls ++ [call]) id archive ↔
      call = .insert id archive ∨ ¬ call.Changes id ∧ Standing calls id archive := by
  constructor
  · rintro ⟨prior, later, split, spared⟩
    rcases List.eq_nil_or_concat later with rfl | ⟨later, last, rfl⟩
    · obtain ⟨-, same⟩ := List.append_inj' split rfl
      exact .inl (List.head_eq_of_cons_eq same)
    · rw [List.concat_eq_append] at split spared
      have split : calls ++ [call] = (prior ++ insert id archive :: later) ++ [last] := by simpa using split
      obtain ⟨rfl, same⟩ := List.append_inj' split rfl
      obtain rfl := List.head_eq_of_cons_eq same
      obtain ⟨earlier, spares⟩ := List.forall_mem_append.mp spared
      exact .inr ⟨spares call (List.mem_singleton_self _), prior, later, rfl, earlier⟩
  · rintro (rfl | ⟨spares, prior, later, rfl, spared⟩)
    · exact ⟨calls, [], rfl, by simp⟩
    · refine ⟨prior, later ++ [call], by simp, List.forall_mem_append.mpr ⟨spared, ?_⟩⟩
      simpa using spares

theorem Lists.unique {first second : List String} (lists : Lists calls first) (other : Lists calls second) :
    first = second := by
  have order {ids : List String} (sorted : ids.Pairwise fun first second => Utf8.encode first < Utf8.encode second) :
      ids.Pairwise (· < ·) := sorted.imp Utf8.encode_lt_encode_iff.mp
  exact (order lists.sorted).eq_of_mem_iff (order other.sorted) fun id =>
    (lists.complete id).trans (other.complete id).symm

/-- The rules leave no choice. -/
theorem Answers.unique {first second : StoreAnswer Archive} (answers : Answers calls call first)
    (other : Answers calls call second) : first = second := by
  have found {first second : Option Archive} {id : String}
      (stands : ∀ archive, first = some archive ↔ Standing calls id archive)
      (again : ∀ archive, second = some archive ↔ Standing calls id archive) : first = second :=
    Option.ext fun archive => (stands archive).trans (again archive).symm
  cases answers with
  | insert stood =>
    cases other with
    | insert again => rw [found stood again]
  | remove stood =>
    cases other with
    | remove again => rw [found stood again]
  | get stands =>
    cases other with
    | get again => rw [found stands again]
  | contains stands =>
    cases other with
    | contains again => rw [Bool.eq_iff_iff.mpr (stands.trans again.symm)]
  | size lists =>
    cases other with
    | size again => rw [lists.unique again]
  | isEmpty lists =>
    cases other with
    | isEmpty again => rw [lists.unique again]
  | ids lists =>
    cases other with
    | ids again => rw [lists.unique again]

end StoreCall

/-! ## The store of archives -/

namespace Store

open StoreCall

variable {store : Store} {calls : List StoreCall} {call : StoreCall} {id : String} {archive : Archive}

theorem contains_iff : store.contains id = true ↔ ∃ archive, store.get? id = some archive :=
  Option.isSome_iff_exists

theorem perform_insert (store : Store) (id : String) (archive : Archive) :
    operations.perform store (.insert id archive) = (.found (store.get? id), (store.insert id archive).2) := rfl

theorem perform_remove (store : Store) (id : String) :
    operations.perform store (.remove id) = (.found (store.get? id), (store.remove id).2) := rfl

/-- What stands under an ID behind a call. -/
theorem get?_perform_iff :
    (operations.perform store call).2.get? id = some archive ↔
      call = .insert id archive ∨ ¬ call.Changes id ∧ store.get? id = some archive := by
  cases call with
  | insert other stored =>
    rw [perform_insert, get?_insert]
    by_cases same : id = other
    · subst same
      simp [Changes]
    · simp [Changes, same, Ne.symm same]
  | remove other =>
    rw [perform_remove, get?_remove]
    by_cases same : id = other
    · subst same
      simp [Changes]
    · simp [Changes, same, Ne.symm same]
  | get | contains | size | isEmpty | ids => simp [StoreOperations.perform, Changes]

theorem get?_after_iff : (operations.after empty calls).get? id = some archive ↔ Standing calls id archive := by
  induction calls using List.reverseRecOn with
  | nil => exact ⟨nofun, fun standing => absurd standing standing_nil⟩
  | append_singleton calls call ih =>
    rw [StoreOperations.after_snoc, get?_perform_iff, standing_snoc_iff, ih]

theorem contains_after_iff :
    (operations.after empty calls).contains id = true ↔ ∃ archive, Standing calls id archive :=
  contains_iff.trans (exists_congr fun _ => get?_after_iff)

theorem lists_ids (calls : List StoreCall) : Lists calls (operations.after empty calls).ids where
  sorted := (Dictionary.keys_sorted _).imp Utf8.encode_lt_encode_iff.mpr
  complete _ := Dictionary.mem_keys_iff.trans contains_after_iff

theorem size_eq (store : Store) : store.size = store.ids.length := (Dictionary.keys_length _).symm

theorem answers_perform (calls : List StoreCall) (call : StoreCall) :
    Answers calls call (operations.perform (operations.after empty calls) call).1 := by
  cases call with
  | insert id archive => exact .insert fun _ => get?_after_iff
  | remove id => exact .remove fun _ => get?_after_iff
  | get id => exact .get fun _ => get?_after_iff
  | contains id => exact .contains contains_after_iff
  | size =>
    show Answers calls .size (.count (operations.after empty calls).size)
    rw [size_eq]
    exact .size (lists_ids calls)
  | isEmpty =>
    show Answers calls .isEmpty (.flag ((operations.after empty calls).size == 0))
    rw [size_eq]
    exact .isEmpty (lists_ids calls)
  | ids => exact .ids (lists_ids calls)

end Store

/-! ## The store of handles -/

namespace SharedStore

variable {shared after : SharedStore} {store : Store} {call : StoreCall} {handle : ArchiveHandle}
  {archive : Archive}

theorem perform_insert (shared : SharedStore) (id : String) (archive : Archive) :
    operations.perform shared (.insert id archive) =
      (.found (shared.get? id), (shared.insert id archive).2) := rfl

theorem perform_remove (shared : SharedStore) (id : String) :
    operations.perform shared (.remove id) = (.found (shared.get? id), (shared.remove id).2) := rfl

/-- No call changes what a handle leads to. -/
theorem read?_perform (read : shared.read? handle = some archive) (call : StoreCall) :
    (operations.perform shared call).2.read? handle = some archive := by
  cases call with
  | insert id stored => exact read?_insert read id stored
  | remove | get | contains | size | isEmpty | ids => exact read

theorem read?_after (read : shared.read? handle = some archive) (calls : List StoreCall) :
    (operations.after shared calls).read? handle = some archive := by
  induction calls generalizing shared with
  | nil => exact read
  | cons call calls ih => exact ih (read?_perform read call)

/-- The handles of a store lead to the archives of another one. -/
def Represents (shared : SharedStore) (store : Store) : Prop :=
  ∀ id, (shared.get? id).map shared.read? = (store.get? id).map some

/-- Handles that lead to archives still do so if none of them leads elsewhere. -/
theorem map_read?_of_keeps {result : Option ArchiveHandle} {archives : Option Archive}
    (keeps : ∀ handle archive, shared.read? handle = some archive → after.read? handle = some archive)
    (read : result.map shared.read? = archives.map some) : result.map after.read? = archives.map some := by
  cases result with
  | none => exact read
  | some handle =>
    cases archives with
    | none => cases read
    | some archive => exact congrArg some (keeps handle archive (Option.some.inj read))

theorem Represents.perform (represents : shared.Represents store) (call : StoreCall) :
    (operations.perform shared call).2.Represents (Store.operations.perform store call).2 := by
  intro other
  have kept := map_read?_of_keeps (fun _ _ read => read?_perform read call) (represents other)
  cases call with
  | insert id archive =>
    rw [perform_insert, Store.perform_insert, get?_insert, Store.get?_insert]
    by_cases same : other = id
    · rw [if_pos same, if_pos same]
      exact congrArg some (read?_insert_new shared id archive)
    · rw [if_neg same, if_neg same]
      exact kept
  | remove id =>
    rw [perform_remove, Store.perform_remove, get?_remove, Store.get?_remove]
    by_cases same : other = id
    · rw [if_pos same, if_pos same]
      rfl
    · rw [if_neg same, if_neg same]
      exact kept
  | get | contains | size | isEmpty | ids => exact represents other

theorem represents_after (calls : List StoreCall) :
    (operations.after empty calls).Represents (Store.operations.after .empty calls) := by
  induction calls using List.reverseRecOn with
  | nil => exact fun _ => rfl
  | append_singleton calls call ih =>
    rw [StoreOperations.after_snoc, StoreOperations.after_snoc]
    exact ih.perform call

theorem Represents.contains_eq (represents : shared.Represents store) (id : String) :
    shared.contains id = store.contains id := by
  have same := congrArg Option.isSome (represents id)
  rwa [Option.isSome_map, Option.isSome_map] at same

theorem Represents.ids_eq (represents : shared.Represents store) : shared.ids = store.ids :=
  (Dictionary.keys_sorted _).eq_of_mem_iff (Dictionary.keys_sorted _) fun id =>
    Dictionary.mem_keys_iff.trans
      ((Bool.eq_iff_iff.mp (represents.contains_eq id)).trans Dictionary.mem_keys_iff.symm)

theorem Represents.size_eq (represents : shared.Represents store) : shared.size = store.size := by
  rw [store.size_eq, ← represents.ids_eq]
  exact (Dictionary.keys_length _).symm

/-- The answers of both stores are the same, and the handles of one lead to the archives of the other, now and
whenever none of them has come to lead elsewhere. -/
theorem Represents.answer (represents : shared.Represents store) (call : StoreCall)
    (keeps : ∀ handle archive, shared.read? handle = some archive → after.read? handle = some archive) :
    (operations.perform shared call).1.map after.read? = (Store.operations.perform store call).1.map some := by
  have found (id : String) : StoreAnswer.found ((shared.get? id).map after.read?) =
      StoreAnswer.found ((store.get? id).map some) :=
    congrArg StoreAnswer.found (map_read?_of_keeps keeps (represents id))
  cases call with
  | insert id archive => exact found id
  | remove id => exact found id
  | get id => exact found id
  | contains id => exact congrArg StoreAnswer.flag (represents.contains_eq id)
  | size => exact congrArg StoreAnswer.count represents.size_eq
  | isEmpty => exact congrArg (fun size => StoreAnswer.flag (size == 0)) represents.size_eq
  | ids => exact congrArg StoreAnswer.listed represents.ids_eq

end SharedStore

/-! ## Rows of calls -/

/-- How a new store behaves under a row of calls. -/
structure StoreCall.BehavesAsMap (calls : List StoreCall) : Prop where
  /-- Each answer is the one that the map gives behind the calls before it. -/
  answers : ∀ prior call later, calls = prior ++ call :: later → ∀ answer,
    Answers prior call answer ↔
      (Store.operations.perform (Store.operations.after .empty prior) call).1 = answer
  /-- With handles the answers are the same, and the handles in them lead to the archives that they were
  given for when all of the calls are made. -/
  handles : ∀ prior call later, calls = prior ++ call :: later →
    (SharedStore.operations.perform (SharedStore.operations.after .empty prior) call).1.map
        (SharedStore.operations.after .empty calls).read? =
      (Store.operations.perform (Store.operations.after .empty prior) call).1.map some

/-- A store behaves as a finite map, and the handles that it gives away are not touched by what comes later. -/
theorem StoreCall.behavesAsMap_calls (calls : List StoreCall) : BehavesAsMap calls where
  answers prior call later _ answer := by
    have right := Store.answers_perform prior call
    constructor
    · exact fun answers => right.unique answers
    · rintro rfl
      exact right
  handles prior call later split := by
    refine (SharedStore.represents_after prior).answer call fun handle archive read => ?_
    rw [split, StoreOperations.after, List.foldl_append]
    exact SharedStore.read?_after read (call :: later)

end TestDaemon
