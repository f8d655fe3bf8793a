/-! # Dictionaries

Finite maps from text to values, held as a list with strictly increasing keys. The order of text is
that of its code points, which is also that of its UTF-8 bytes. Each operation is known by its effect
on `get?`, and `get?` determines the dictionary (`ext_get?`).
-/

namespace TestDaemon

structure Dictionary (β : Type) where
  toList : List (String × β)
  sorted : toList.Pairwise (·.1 < ·.1)

namespace Dictionary

variable {β : Type}

/-- The value under `key`, or the one that replaces it, in an increasing list. -/
def insertInto (key : String) (value : β) : List (String × β) → List (String × β)
  | [] => [(key, value)]
  | (k, v) :: rest =>
    if key < k then (key, value) :: (k, v) :: rest
    else if key = k then (key, value) :: rest
    else (k, v) :: insertInto key value rest

theorem fst_of_mem_insertInto {key : String} {value : β} {list : List (String × β)}
    {pair : String × β} (member : pair ∈ insertInto key value list) :
    pair.1 = key ∨ ∃ v, (pair.1, v) ∈ list := by
  fun_induction insertInto key value list with
  | case1 =>
    obtain rfl := List.mem_singleton.mp member
    exact .inl rfl
  | case2 k v rest _ =>
    rcases List.mem_cons.mp member with rfl | member
    · exact .inl rfl
    · exact .inr ⟨pair.2, member⟩
  | case3 v rest _ =>
    rcases List.mem_cons.mp member with rfl | member
    · exact .inl rfl
    · exact .inr ⟨pair.2, List.mem_cons_of_mem _ member⟩
  | case4 k v rest _ _ ih =>
    rcases List.mem_cons.mp member with rfl | member
    · exact .inr ⟨v, List.mem_cons_self ..⟩
    · rcases ih member with same | ⟨w, present⟩
      · exact .inl same
      · exact .inr ⟨w, List.mem_cons_of_mem _ present⟩

theorem insertInto_sorted (key : String) (value : β) {list : List (String × β)}
    (sorted : list.Pairwise (·.1 < ·.1)) : (insertInto key value list).Pairwise (·.1 < ·.1) := by
  fun_induction insertInto key value list with
  | case1 => simp
  | case2 k v rest less =>
    refine List.pairwise_cons.mpr ⟨fun pair member => ?_, sorted⟩
    rcases List.mem_cons.mp member with rfl | member
    · exact less
    · exact String.lt_trans less ((List.pairwise_cons.mp sorted).1 pair member)
  | case3 v rest _ => exact List.pairwise_cons.mpr (List.pairwise_cons.mp sorted)
  | case4 k v rest notLess different ih =>
    have ⟨below, tail⟩ := List.pairwise_cons.mp sorted
    refine List.pairwise_cons.mpr ⟨fun pair member => ?_, ih tail⟩
    rcases fst_of_mem_insertInto member with same | ⟨w, present⟩
    · rw [same]
      exact Std.lt_of_le_of_ne (String.not_lt.mp notLess) (Ne.symm different)
    · exact below (pair.1, w) present

/-- The first value under `key`. -/
def lookup (key : String) : List (String × β) → Option β
  | [] => none
  | (k, v) :: rest => if key = k then some v else lookup key rest

def empty : Dictionary β := ⟨[], .nil⟩

instance : Inhabited (Dictionary β) := ⟨empty⟩

def insert (dictionary : Dictionary β) (key : String) (value : β) : Dictionary β :=
  ⟨insertInto key value dictionary.toList, insertInto_sorted key value dictionary.sorted⟩

def erase (dictionary : Dictionary β) (key : String) : Dictionary β :=
  ⟨dictionary.toList.filter (·.1 != key), dictionary.sorted.filter _⟩

def get? (dictionary : Dictionary β) (key : String) : Option β := lookup key dictionary.toList

def contains (dictionary : Dictionary β) (key : String) : Bool := (dictionary.get? key).isSome

def keys (dictionary : Dictionary β) : List String := dictionary.toList.map (·.1)

def size (dictionary : Dictionary β) : Nat := dictionary.toList.length

def isEmpty (dictionary : Dictionary β) : Bool := dictionary.toList.isEmpty

/-- Insert pairs in order, so that a later pair replaces an earlier one of the same key. -/
def ofPairs (pairs : List (String × β)) : Dictionary β :=
  pairs.foldl (fun dictionary pair => dictionary.insert pair.1 pair.2) empty

theorem keys_sorted (dictionary : Dictionary β) : dictionary.keys.Pairwise (· < ·) :=
  List.pairwise_map.mpr dictionary.sorted

@[simp] theorem get?_empty (key : String) : (empty : Dictionary β).get? key = none := rfl

theorem lookup_insertInto (key other : String) (value : β) (list : List (String × β))
    (sorted : list.Pairwise (·.1 < ·.1)) :
    lookup other (insertInto key value list) =
      if other = key then some value else lookup other list := by
  fun_induction insertInto key value list with
  | case1 => rfl
  | case2 k v rest _ => rfl
  | case3 v rest _ => by_cases same : other = key <;> simp [lookup, same]
  | case4 k v rest _ different ih =>
    rw [lookup, lookup, ih (List.pairwise_cons.mp sorted).2]
    by_cases same : other = k
    · subst same
      simp [Ne.symm different]
    · simp [same]

@[simp] theorem get?_insert (dictionary : Dictionary β) (key other : String) (value : β) :
    (dictionary.insert key value).get? other =
      if other = key then some value else dictionary.get? other :=
  lookup_insertInto key other value _ dictionary.sorted

theorem lookup_filter (key other : String) (list : List (String × β)) :
    lookup other (list.filter (·.1 != key)) =
      if other = key then none else lookup other list := by
  induction list with
  | nil => simp [lookup]
  | cons pair rest ih =>
    obtain ⟨k, v⟩ := pair
    by_cases same : k = key
    · subst same
      by_cases wanted : other = k
      · subst wanted
        simpa [List.filter_cons] using ih
      · simpa [List.filter_cons, lookup, wanted] using ih
    · by_cases wanted : other = k
      · subst wanted
        simp [lookup, same]
      · simp [lookup, ih, same, wanted]

@[simp] theorem get?_erase (dictionary : Dictionary β) (key other : String) :
    (dictionary.erase key).get? other =
      if other = key then none else dictionary.get? other :=
  lookup_filter key other _

theorem lookup_eq_some_iff {list : List (String × β)} (sorted : list.Pairwise (·.1 < ·.1))
    {key : String} {value : β} : lookup key list = some value ↔ (key, value) ∈ list := by
  induction list with
  | nil => simp [lookup]
  | cons pair rest ih =>
    obtain ⟨k, v⟩ := pair
    have ⟨below, tail⟩ := List.pairwise_cons.mp sorted
    rw [lookup, List.mem_cons]
    by_cases same : key = k
    · subst same
      rw [if_pos rfl]
      constructor
      · intro found
        exact .inl (by rw [Option.some.inj found])
      · rintro (first | present)
        · rw [(Prod.mk.inj first).2]
        · exact absurd (below _ present) (String.lt_irrefl _)
    · rw [if_neg same, ih tail]
      constructor
      · exact .inr
      · rintro (first | present)
        · exact absurd (Prod.mk.inj first).1 same
        · exact present

theorem get?_eq_some_iff {dictionary : Dictionary β} {key : String} {value : β} :
    dictionary.get? key = some value ↔ (key, value) ∈ dictionary.toList :=
  lookup_eq_some_iff dictionary.sorted

theorem mem_keys_iff {dictionary : Dictionary β} {key : String} :
    key ∈ dictionary.keys ↔ dictionary.contains key := by
  simp only [keys, List.mem_map, contains, Option.isSome_iff_exists, get?_eq_some_iff]
  constructor
  · rintro ⟨pair, member, rfl⟩
    exact ⟨pair.2, member⟩
  · rintro ⟨value, member⟩
    exact ⟨(key, value), member, rfl⟩

@[simp] theorem keys_length (dictionary : Dictionary β) :
    dictionary.keys.length = dictionary.size := by simp [keys, size]

theorem isEmpty_iff_size (dictionary : Dictionary β) :
    dictionary.isEmpty ↔ dictionary.size = 0 := by
  simp [isEmpty, size]

/-- Two increasing lists with the same pairs are equal. -/
theorem sorted_ext {a b : List (String × β)} (sortedA : a.Pairwise (·.1 < ·.1))
    (sortedB : b.Pairwise (·.1 < ·.1)) (same : ∀ pair, pair ∈ a ↔ pair ∈ b) : a = b := by
  induction a generalizing b with
  | nil =>
    cases b with
    | nil => rfl
    | cons pair rest => simpa using (same pair).mpr (List.mem_cons_self ..)
  | cons first restA ih =>
    cases b with
    | nil => simpa using (same first).mp (List.mem_cons_self ..)
    | cons second restB =>
      have ⟨belowA, tailA⟩ := List.pairwise_cons.mp sortedA
      have ⟨belowB, tailB⟩ := List.pairwise_cons.mp sortedB
      have heads : first = second := by
        rcases List.mem_cons.mp ((same first).mp (List.mem_cons_self ..)) with eq | inB
        · exact eq
        · rcases List.mem_cons.mp ((same second).mpr (List.mem_cons_self ..)) with eq | inA
          · exact eq.symm
          · exact absurd (belowA _ inA) (String.lt_asymm (belowB _ inB))
      subst heads
      congr 1
      refine ih tailA tailB fun pair => ⟨fun member => ?_, fun member => ?_⟩
      · rcases List.mem_cons.mp ((same pair).mp (List.mem_cons_of_mem _ member)) with rfl | present
        · exact absurd (belowA _ member) (String.lt_irrefl _)
        · exact present
      · rcases List.mem_cons.mp ((same pair).mpr (List.mem_cons_of_mem _ member)) with rfl | present
        · exact absurd (belowB _ member) (String.lt_irrefl _)
        · exact present

theorem ext_get? {a b : Dictionary β} (same : ∀ key, a.get? key = b.get? key) : a = b := by
  obtain ⟨listA, sortedA⟩ := a
  obtain ⟨listB, sortedB⟩ := b
  have : listA = listB := by
    refine sorted_ext sortedA sortedB fun pair => ?_
    have := same pair.1
    rw [← lookup_eq_some_iff sortedA, ← lookup_eq_some_iff sortedB]
    exact iff_of_eq (congrArg (· = some pair.2) this)
  subst this
  rfl

/-! ## Changed values -/

variable {γ : Type}

/-- The same keys with other values. -/
def map (f : β → γ) (dictionary : Dictionary β) : Dictionary γ :=
  ⟨dictionary.toList.map fun (key, value) => (key, f value), List.pairwise_map.mpr dictionary.sorted⟩

@[simp] theorem keys_map (f : β → γ) (dictionary : Dictionary β) :
    (dictionary.map f).keys = dictionary.keys := by
  simp [keys, map]

theorem lookup_map (f : β → γ) (key : String) (list : List (String × β)) :
    lookup key (list.map fun (k, v) => (k, f v)) = (lookup key list).map f := by
  induction list with
  | nil => rfl
  | cons pair rest ih =>
    obtain ⟨k, v⟩ := pair
    by_cases same : key = k
    · simp [lookup, same]
    · simpa [lookup, same] using ih

@[simp] theorem get?_map (f : β → γ) (dictionary : Dictionary β) (key : String) :
    (dictionary.map f).get? key = (dictionary.get? key).map f :=
  lookup_map f key dictionary.toList

/-! ## Insertion in order -/

theorem insertInto_end {key : String} {list : List (String × β)} (value : β)
    (above : ∀ pair ∈ list, pair.1 < key) : insertInto key value list = list ++ [(key, value)] := by
  induction list with
  | nil => rfl
  | cons pair rest ih =>
    obtain ⟨k, v⟩ := pair
    have less : k < key := above _ (List.mem_cons_self ..)
    rw [insertInto, if_neg (String.lt_asymm less), if_neg (String.ne_of_lt less).symm,
      ih fun other member => above other (List.mem_cons_of_mem _ member)]
    rfl

theorem foldl_insert_toList (dictionary : Dictionary β) {pairs : List (String × β)}
    (sorted : (dictionary.toList ++ pairs).Pairwise (·.1 < ·.1)) :
    (pairs.foldl (fun dictionary pair => dictionary.insert pair.1 pair.2) dictionary).toList =
      dictionary.toList ++ pairs := by
  induction pairs generalizing dictionary with
  | nil => simp
  | cons pair pairs ih =>
    obtain ⟨_, _, across⟩ := List.pairwise_append.mp sorted
    have inserted : (dictionary.insert pair.1 pair.2).toList = dictionary.toList ++ [pair] :=
      insertInto_end pair.2 fun earlier member => across earlier member pair (List.mem_cons_self ..)
    have whole : dictionary.toList ++ pair :: pairs = dictionary.toList ++ [pair] ++ pairs := by simp
    rw [whole, ← inserted] at sorted ⊢
    exact ih _ sorted

/-- The pairs of a dictionary make it up again. -/
theorem ofPairs_toList (dictionary : Dictionary β) : ofPairs dictionary.toList = dictionary :=
  ext_get? fun key => congrArg (lookup key) (foldl_insert_toList empty dictionary.sorted)

end Dictionary

end TestDaemon
