import TestDaemon.Text.Visible

/-! # Quoted text

A text between double quotes, on one line and with every character visible: quotes and backslashes
are escaped, and what has no shape of its own is written as its code point in hexadecimal.
-/

namespace TestDaemon.Text

def hexDigits (n : Nat) : List Char := Nat.toDigits 16 n

/-- How one character is written inside quotes. -/
def quoteChar (c : Char) : List Char :=
  if c = '\x00' then ['\\', '0']
  else if c = '\t' then ['\\', 't']
  else if c = '\r' then ['\\', 'r']
  else if c = '\n' then ['\\', 'n']
  else if c = '\\' then ['\\', '\\']
  else if c = '"' then ['\\', '"']
  else if c.toNat < 0x7F && 0x20 ≤ c.toNat then [c]
  else if isVisible c && !isExtending c then [c]
  else ['\\', 'u', '\x7b'] ++ hexDigits c.toNat ++ ['\x7d']

/-- A text as a quotation. -/
def quote (text : String) : String :=
  String.ofList ('"' :: text.toList.flatMap quoteChar ++ ['"'])

end TestDaemon.Text
