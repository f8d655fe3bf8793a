import TestDaemon.Bytes

/-! # The records of a ZIP file

Numbers are written with their least significant octet first. A file holds the entries' data, each
behind a local header; then a directory with one header for each entry; then the end record, which
tells where the directory is. Fields without a meaning here are written as constants and skipped.
-/

namespace TestDaemon.Zip

/-- The end record. `entries` counts the headers of the whole directory, `diskEntries` those on the
disk that `disk` numbers. -/
structure EndRecord where
  disk : Nat
  directoryDisk : Nat
  diskEntries : Nat
  entries : Nat
  directorySize : Nat
  directoryOffset : Nat
  comment : Bytes
  deriving DecidableEq, Repr

namespace EndRecord

def signature : Bytes := [0x50, 0x4B, 0x05, 0x06]

def encode (record : EndRecord) : Bytes :=
  signature ++ (Bytes.ofNatLE 2 record.disk ++ (Bytes.ofNatLE 2 record.directoryDisk ++
    (Bytes.ofNatLE 2 record.diskEntries ++ (Bytes.ofNatLE 2 record.entries ++
    (Bytes.ofNatLE 4 record.directorySize ++ (Bytes.ofNatLE 4 record.directoryOffset ++
    (Bytes.ofNatLE 2 record.comment.length ++ record.comment)))))))

/-- The end record at the front of the bytes. Further bytes may follow its comment. -/
def read? (bytes : Bytes) : Option EndRecord := do
  let bytes ← Bytes.after? signature bytes
  let (disk, bytes) ← Bytes.takeNat? 2 bytes
  let (directoryDisk, bytes) ← Bytes.takeNat? 2 bytes
  let (diskEntries, bytes) ← Bytes.takeNat? 2 bytes
  let (entries, bytes) ← Bytes.takeNat? 2 bytes
  let (directorySize, bytes) ← Bytes.takeNat? 4 bytes
  let (directoryOffset, bytes) ← Bytes.takeNat? 4 bytes
  let (commentLength, bytes) ← Bytes.takeNat? 2 bytes
  let (comment, _) ← Bytes.take? commentLength bytes
  return ⟨disk, directoryDisk, diskEntries, entries, directorySize, directoryOffset, comment⟩

end EndRecord

/-- A header of the directory. `system` tells how the attributes are to be read, `offset` where the local
header is, and `isSealed` whether the entry is marked as encrypted by AES. -/
structure Header where
  system : Nat
  flags : Nat
  method : Nat
  crc : Nat
  compressedSize : Nat
  size : Nat
  attributes : Nat
  offset : Nat
  name : Bytes
  isSealed : Bool := false
  deriving DecidableEq, Repr

namespace Header

def signature : Bytes := [0x50, 0x4B, 0x01, 0x02]

def localSignature : Bytes := [0x50, 0x4B, 0x03, 0x04]

/-- The version of the format that is needed to read what is written here. -/
def version : Nat := 20

/-- The date 1 January 1980 in the format. -/
def date : Nat := 33

def encode (header : Header) : Bytes :=
  signature ++ (Bytes.ofNatLE 1 version ++ (Bytes.ofNatLE 1 header.system ++
    (Bytes.ofNatLE 2 version ++ (Bytes.ofNatLE 2 header.flags ++ (Bytes.ofNatLE 2 header.method ++
    (Bytes.ofNatLE 2 0 ++ (Bytes.ofNatLE 2 date ++ (Bytes.ofNatLE 4 header.crc ++
    (Bytes.ofNatLE 4 header.compressedSize ++ (Bytes.ofNatLE 4 header.size ++
    (Bytes.ofNatLE 2 header.name.length ++ (Bytes.ofNatLE 2 0 ++ (Bytes.ofNatLE 2 0 ++
    (Bytes.ofNatLE 2 0 ++ (Bytes.ofNatLE 2 0 ++ (Bytes.ofNatLE 4 header.attributes ++
    (Bytes.ofNatLE 4 header.offset ++ header.name)))))))))))))))))

/-- The header at the front of the bytes, its area of extra fields, its comment and what follows. -/
def read? (bytes : Bytes) : Option (Header × Bytes × Bytes × Bytes) := do
  let bytes ← Bytes.after? signature bytes
  let (_, bytes) ← Bytes.takeNat? 1 bytes
  let (system, bytes) ← Bytes.takeNat? 1 bytes
  let (_, bytes) ← Bytes.takeNat? 2 bytes
  let (flags, bytes) ← Bytes.takeNat? 2 bytes
  let (method, bytes) ← Bytes.takeNat? 2 bytes
  let (_, bytes) ← Bytes.takeNat? 2 bytes
  let (_, bytes) ← Bytes.takeNat? 2 bytes
  let (crc, bytes) ← Bytes.takeNat? 4 bytes
  let (compressedSize, bytes) ← Bytes.takeNat? 4 bytes
  let (size, bytes) ← Bytes.takeNat? 4 bytes
  let (nameLength, bytes) ← Bytes.takeNat? 2 bytes
  let (extraLength, bytes) ← Bytes.takeNat? 2 bytes
  let (commentLength, bytes) ← Bytes.takeNat? 2 bytes
  let (_, bytes) ← Bytes.takeNat? 2 bytes
  let (_, bytes) ← Bytes.takeNat? 2 bytes
  let (attributes, bytes) ← Bytes.takeNat? 4 bytes
  let (offset, bytes) ← Bytes.takeNat? 4 bytes
  let (name, bytes) ← Bytes.take? nameLength bytes
  let (extra, bytes) ← Bytes.take? extraLength bytes
  let (comment, bytes) ← Bytes.take? commentLength bytes
  return ({ system, flags, method, crc, compressedSize, size, attributes, offset, name }, extra, comment,
    bytes)

/-- The local header of the same entry. -/
def encodeLocal (header : Header) : Bytes :=
  localSignature ++ (Bytes.ofNatLE 2 version ++ (Bytes.ofNatLE 2 header.flags ++
    (Bytes.ofNatLE 2 header.method ++ (Bytes.ofNatLE 2 0 ++ (Bytes.ofNatLE 2 date ++
    (Bytes.ofNatLE 4 header.crc ++ (Bytes.ofNatLE 4 header.compressedSize ++
    (Bytes.ofNatLE 4 header.size ++ (Bytes.ofNatLE 2 header.name.length ++
    (Bytes.ofNatLE 2 0 ++ header.name))))))))))

/-- The length of the local header at the front of the bytes, its name and extra field included. -/
def localLength? (bytes : Bytes) : Option Nat := do
  let bytes ← Bytes.after? localSignature bytes
  let (_, bytes) ← Bytes.take? 22 bytes
  let (nameLength, bytes) ← Bytes.takeNat? 2 bytes
  let (extraLength, _) ← Bytes.takeNat? 2 bytes
  return 30 + nameLength + extraLength

end Header

end TestDaemon.Zip
