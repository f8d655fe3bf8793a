import TestDaemon.Archive
import TestDaemon.Archive.Path
import TestDaemon.Crc32
import TestDaemon.Deflate
import TestDaemon.Text.Blank
import TestDaemon.Uuid
import TestDaemon.Zip.Extra

/-! # Reading ZIP files

The last end record whose directory can be read decides. Bytes may stand before the archive and after
its comment. The entries are read in the order of the directory, and the first failure ends the
import; a name used twice has the place of its first header and the contents of its last one. A local
header is looked at only when its entry's turn has come.

The data of an entry are restored if they are stored or deflated. Of the other methods that are known
(deflate64, bzip2, LZMA, Zstandard and XZ) the data are not restored here, and such an entry counts as one
that cannot be read. Neither are the 64-bit end records read: an end record stands for the fields that it
has itself.
-/

namespace TestDaemon

namespace Error

def invalidArchive : Error := ⟨.deploy, "invalid archive"⟩

def unreadableEntry (path : String) : Error := ⟨.deploy, "failed to read entry " ++ path⟩

end Error

namespace Zip

namespace Header

/-- The entry's name. -/
def path (header : Header) : String := header.decodeText header.name

def isEncrypted (header : Header) : Bool := header.flags.testBit 0

/-- The permission bits: a Unix system records them itself, for DOS they follow from the attributes
of a directory and of a file that is only to be read. -/
def mode (header : Header) : Option UInt32 :=
  if header.attributes = 0 then none
  else if header.system = 3 then some (UInt32.ofNat (header.attributes / 0x10000))
  else if header.system = 0 then
    let mode : UInt32 := if header.attributes.testBit 4 then 0o40775 else 0o100664
    some (if header.attributes.testBit 0 then mode &&& 0o555 else mode)
  else none

end Header

/-- Read headers. -/
def readHeaders? : (count : Nat) → Bytes → Option (List Header)
  | 0, _ => some []
  | count + 1, bytes => do
    let (header, bytes) ← Header.next? bytes
    let rest ← readHeaders? count bytes
    return header :: rest

/-- How far the directory, and with it every local header, is behind its stated offset, where the end
record is at `position`. A directory that is said to hold nothing is not searched for. -/
def shift? (file : Bytes) (position : Nat) (record : EndRecord) : Option Nat :=
  if record.entries = 0 then some 0
  else Bytes.find? Header.signature ((file.take position).drop record.directoryOffset)

/-- The headers of a file in their order, and how far their local headers are behind the offsets. -/
structure Directory where
  shift : Nat
  headers : List Header
  deriving DecidableEq, Repr

/-- The end record at a position and its directory, if both can be read. -/
def candidate? (file : Bytes) (position : Nat) : Option (EndRecord × Directory) := do
  let record ← EndRecord.read? (file.drop position)
  let shift ← shift? file position record
  if record.disk = record.directoryDisk then
    let headers ← readHeaders? record.diskEntries (file.drop (record.directoryOffset + shift))
    return (record, ⟨shift, headers⟩)
  else none

/-- The last end record with a directory that can be read. -/
def contents? (file : Bytes) : Option (EndRecord × Directory) :=
  (Bytes.occurrences EndRecord.signature 0 file).reverse.findSome? (candidate? file)

/-- Put a header into the place of an earlier one of the same path, or else at the end. -/
def replaceOrAppend (header : Header) : List Header → List Header
  | [] => [header]
  | first :: rest =>
    if first.path = header.path then header :: rest else first :: replaceOrAppend header rest

/-- The headers with different paths. -/
def distinct (headers : List Header) : List Header :=
  headers.foldl (fun kept header => replaceOrAppend header kept) []

namespace Header

/-- The methods of compression that are known, also those whose data are not restored. -/
def knownMethods : List Nat := [0, 8, 9, 12, 14, 93, 95]

/-- The stored octets of an entry, behind its local header; fewer than stated at the end of the file.
There are none for an encrypted entry or an unknown method. -/
def stored? (header : Header) (file : Bytes) (shift : Nat) : Option Bytes := do
  let start := header.offset + shift
  let length ← localLength? (file.drop start)
  if header.isEncrypted || header.isSealed || !knownMethods.contains header.method then none
  else some ((file.drop (start + length)).take header.compressedSize)

/-- What the stored octets of an entry stand for, if they can be restored and have the stated
checksum. -/
def restore? (header : Header) (stored : Bytes) : Option Bytes := do
  let data ← match header.method with
    | 0 => some stored
    | 8 => Deflate.decode? stored
    | _ => none
  if (Crc32.checksum data).toNat = header.crc then some data else none

/-- Add the entry of a header to an archive. Directories are skipped. -/
def addTo (file : Bytes) (shift : Nat) (archive : Archive) (header : Header) : Except Error Archive :=
  match header.stored? file shift with
  | none => .error .invalidArchive
  | some stored =>
    if Path.isDirectory header.path then .ok archive
    else if !Path.isEnclosed header.path then .error (.escapingEntry header.path)
    else match header.restore? stored with
      | none => .error (.unreadableEntry header.path)
      | some data => .ok (archive.insert header.path data header.mode)

end Header

/-- The name that a comment declares. -/
def declaredName (comment : Bytes) : String := Text.trim (Utf8.decodeLossy comment)

/-- The name of an archive whose file declares none. -/
def freshName (entropy : Nat) : String := Uuid.ofNat entropy ++ ".zip"

/-- Read an archive. Its name is that of the comment, or else a fresh one. -/
def decode (entropy : Nat) (file : Bytes) : Except Error Archive :=
  match contents? file with
  | none => .error .invalidArchive
  | some (record, directory) =>
    let declared := declaredName record.comment
    let name := if declared = "" then freshName entropy else declared
    (distinct directory.headers).foldlM (Header.addTo file directory.shift) (.new name)

end Zip

end TestDaemon
