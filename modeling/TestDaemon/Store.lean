import TestDaemon.Archive

/-! # The deployment store

A finite map from IDs to archives, the only state that the connections of a server share. Archives
are values, so one taken from the store is not touched by later changes.
-/

namespace TestDaemon

structure Store where
  deployments : Dictionary Archive

namespace Store

def empty : Store := ⟨.empty⟩

def get? (store : Store) (id : String) : Option Archive := store.deployments.get? id

def contains (store : Store) (id : String) : Bool := store.deployments.contains id

def size (store : Store) : Nat := store.deployments.size

def isEmpty (store : Store) : Bool := store.size == 0

/-- The IDs in increasing order. -/
def ids (store : Store) : List String := store.deployments.keys

/-- Store an archive under an ID, and return the one that it replaces. -/
def insert (store : Store) (id : String) (archive : Archive) : Option Archive × Store :=
  (store.get? id, ⟨store.deployments.insert id archive⟩)

/-- Remove and return the archive under an ID. -/
def remove (store : Store) (id : String) : Option Archive × Store :=
  (store.get? id, ⟨store.deployments.erase id⟩)

@[simp] theorem get?_empty (id : String) : empty.get? id = none := rfl

@[simp] theorem get?_insert (store : Store) (id other : String) (archive : Archive) :
    (store.insert id archive).2.get? other = if other = id then some archive else store.get? other :=
  Dictionary.get?_insert ..

@[simp] theorem get?_remove (store : Store) (id other : String) :
    (store.remove id).2.get? other = if other = id then none else store.get? other :=
  Dictionary.get?_erase ..

theorem ext_get? {a b : Store} (same : ∀ id, a.get? id = b.get? id) : a = b := by
  obtain ⟨a⟩ := a
  obtain ⟨b⟩ := b
  exact congrArg Store.mk (Dictionary.ext_get? same)

end Store

end TestDaemon
