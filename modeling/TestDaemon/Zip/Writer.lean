import TestDaemon.Zip.Reader

/-! # Writing ZIP files

Each file becomes an entry with its deflated data; the name of the archive becomes the comment. A file
without recorded permissions gets 0o644, and every entry is marked as a regular file of a Unix system.
How the data are deflated is open: `compress` gives the stream of a file. Numbers of 32 bits bound the
data of a file and the whole.
-/

namespace TestDaemon

def Error.oversizedEntry (path : String) : Error :=
  ⟨.deploy, "failed to write entry " ++ path ++ ": Large file option has not been set"⟩

namespace Zip

/-- The attributes of a regular file with the given permissions. -/
def attributesOf (mode : Option UInt32) : Nat :=
  ((mode.getD 0o644 &&& 0o777) ||| 0o100000).toNat * 0x10000

/-- A name outside ASCII is marked as UTF-8. -/
def flagsOf (path : String) : Nat := if path.toList.all (·.toNat < 128) then 0 else 0x800

/-- The header of a file whose local header is at `offset`. -/
def headerOf (path : String) (file : ArchiveFile) (compressed : Bytes) (offset : Nat) : Header where
  system := 3
  flags := flagsOf path
  method := 8
  crc := (Crc32.checksum file.data).toNat
  compressedSize := compressed.length
  size := file.data.length
  attributes := attributesOf file.mode
  offset
  name := Utf8.encode path

/-- The entries of files, from `offset` on, and their headers. -/
def layOut (compress : Bytes → Bytes) :
    (offset : Nat) → List (String × ArchiveFile) → Bytes × List Header
  | _, [] => ([], [])
  | offset, (path, file) :: files =>
    let compressed := compress file.data
    let header := headerOf path file compressed offset
    let entry := header.encodeLocal ++ compressed
    let (entries, headers) := layOut compress (offset + entry.length) files
    (entry ++ entries, header :: headers)

/-- The parts of a written file: the entries, their headers and the comment. -/
structure Export where
  entries : Bytes
  headers : List Header
  comment : Bytes

namespace Export

def ofArchive (compress : Bytes → Bytes) (archive : Archive) : Export :=
  let (entries, headers) := layOut compress 0 archive.files.toList
  ⟨entries, headers, Utf8.encode archive.name⟩

def directory (parts : Export) : Bytes := parts.headers.flatMap Header.encode

def endRecord (parts : Export) : EndRecord :=
  ⟨0, 0, parts.headers.length, parts.headers.length, parts.directory.length, parts.entries.length,
    parts.comment⟩

def encode (parts : Export) : Bytes := parts.entries ++ (parts.directory ++ parts.endRecord.encode)

/-- Whether counts, lengths and offsets fit their fields. -/
def Fits (parts : Export) : Prop :=
  parts.headers.length < 65535 ∧ parts.comment.length ≤ 65535 ∧
    (∀ header ∈ parts.headers, header.name.length ≤ 65535) ∧
    parts.entries.length + parts.directory.length < UInt32.size

instance (parts : Export) : Decidable parts.Fits := inferInstanceAs (Decidable (_ ∧ _))

end Export

/-- A file whose length does not fit its field. -/
def isOversized (file : ArchiveFile) : Bool := UInt32.size ≤ file.data.length

/-- Write an archive. -/
def encodeWith (compress : Bytes → Bytes) (archive : Archive) : Except Error Bytes :=
  match archive.files.toList.find? fun pair => isOversized pair.2 with
  | some (path, _) => .error (.oversizedEntry path)
  | none =>
    let parts := Export.ofArchive compress archive
    if parts.Fits then .ok parts.encode else .error .invalidArchive

/-- Write an archive with stored blocks. -/
def encode (archive : Archive) : Except Error Bytes := encodeWith Deflate.encode archive

end Zip

end TestDaemon
