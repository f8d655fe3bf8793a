import TestDaemon.Text.Utf8

/-! # Octet texts

The names, arguments and values that processes work with are made of octets and need not be text in any
encoding. An octet is taken for the character with its number, so that a string may hold any bytes.
-/

namespace TestDaemon

/-- A text of octets. -/
abbrev Octets := String

namespace Octets

def charOf (byte : UInt8) : Char := Char.ofNat byte.toNat

def byteOf (c : Char) : UInt8 := UInt8.ofNat c.toNat

def ofBytes (bytes : Bytes) : Octets := String.ofList (bytes.map charOf)

def toBytes (text : Octets) : Bytes := text.toList.map byteOf

def ofData (data : ByteArray) : Octets := ofBytes data.toList

def toData (text : Octets) : ByteArray := text.foldl (fun data c => data.push (byteOf c)) .empty

/-- The octets of a Unicode text. -/
def ofText (text : String) : Octets := ofBytes (Utf8.encode text)

/-- The texts between separators. -/
def splitList (separator : Char) : List Char → List (List Char)
  | [] => [[]]
  | c :: rest =>
    if c = separator then [] :: splitList separator rest
    else match splitList separator rest with
      | [] => [[c]]
      | first :: others => (c :: first) :: others

def split (separator : Char) (text : Octets) : List Octets :=
  (splitList separator text.toList).map String.ofList

/-- The lines of a text; what stands behind the last line end is a line only if it is not empty. -/
def lines (text : Octets) : List Octets :=
  let parts := split '\n' text
  if parts.getLast? = some "" then parts.dropLast else parts

def startsWith (text head : Octets) : Bool := head.toList.isPrefixOf text.toList

def endsWith (text tail : Octets) : Bool := tail.toList.isSuffixOf text.toList

/-- The order of texts by their octets. -/
def le (a b : Octets) : Bool := !b.toList.lex a.toList

def sort (texts : List Octets) : List Octets := texts.mergeSort le

/-- The text behind the first occurrence of a character, and what stands before it. -/
def cut? (c : Char) (text : Octets) : Option (Octets × Octets) :=
  let head := text.toList.takeWhile (· ≠ c)
  match text.toList.drop head.length with
  | [] => none
  | _ :: rest => some (String.ofList head, String.ofList rest)

end Octets

end TestDaemon
