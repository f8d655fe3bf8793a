import TestDaemon.Store

/-! # Shared archives

A store does not copy archives. Each lies in a cell of its own, and whoever looks one up gets a handle of it.
A cell is written once, when its archive is stored, so that a handle may be kept while the store changes. With
archives in the place of their handles this is the store of archives.
-/

namespace TestDaemon

/-- Where an archive lies. -/
structure ArchiveHandle where
  cell : Nat
  deriving DecidableEq, Repr

/-- The archives that have ever been stored, and handles of those that are deployed. -/
structure SharedStore where
  cells : List Archive
  deployments : Dictionary ArchiveHandle

namespace SharedStore

def empty : SharedStore := ⟨[], .empty⟩

/-- The archive that a handle leads to. -/
def read? (store : SharedStore) (handle : ArchiveHandle) : Option Archive := store.cells[handle.cell]?

def get? (store : SharedStore) (id : String) : Option ArchiveHandle := store.deployments.get? id

def contains (store : SharedStore) (id : String) : Bool := store.deployments.contains id

def size (store : SharedStore) : Nat := store.deployments.size

def isEmpty (store : SharedStore) : Bool := store.size == 0

def ids (store : SharedStore) : List String := store.deployments.keys

/-- Store an archive in a new cell under an ID, and return the handle that it replaces. -/
def insert (store : SharedStore) (id : String) (archive : Archive) : Option ArchiveHandle × SharedStore :=
  (store.get? id, ⟨store.cells ++ [archive], store.deployments.insert id ⟨store.cells.length⟩⟩)

/-- Remove and return the handle under an ID. -/
def remove (store : SharedStore) (id : String) : Option ArchiveHandle × SharedStore :=
  (store.get? id, { store with deployments := store.deployments.erase id })

@[simp] theorem get?_insert (store : SharedStore) (id other : String) (archive : Archive) :
    (store.insert id archive).2.get? other =
      if other = id then some ⟨store.cells.length⟩ else store.get? other :=
  Dictionary.get?_insert ..

@[simp] theorem get?_remove (store : SharedStore) (id other : String) :
    (store.remove id).2.get? other = if other = id then none else store.get? other :=
  Dictionary.get?_erase ..

theorem read?_insert_new (store : SharedStore) (id : String) (archive : Archive) :
    (store.insert id archive).2.read? ⟨store.cells.length⟩ = some archive := by
  simp [read?, insert]

/-- Storing an archive changes no cell. -/
theorem read?_insert {store : SharedStore} {handle : ArchiveHandle} {held : Archive}
    (read : store.read? handle = some held) (id : String) (archive : Archive) :
    (store.insert id archive).2.read? handle = some held :=
  (List.getElem?_append_left (List.getElem?_eq_some_iff.mp read).1).trans read

end SharedStore

end TestDaemon
