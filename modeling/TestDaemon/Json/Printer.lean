/-! # Written JSON strings

Quotes, backslashes and control characters are escaped, the latter by their short form where there is
one; every other character stands for itself.
-/

namespace TestDaemon.Json

def escapeChar (c : Char) : List Char :=
  if c = '"' then ['\\', '"']
  else if c = '\\' then ['\\', '\\']
  else if c = '\x08' then ['\\', 'b']
  else if c = '\x09' then ['\\', 't']
  else if c = '\x0a' then ['\\', 'n']
  else if c = '\x0c' then ['\\', 'f']
  else if c = '\x0d' then ['\\', 'r']
  else if c.toNat < 0x20 then
    ['\\', 'u', '0', '0', Nat.digitChar (c.toNat / 16), Nat.digitChar (c.toNat % 16)]
  else [c]

def quoteChars (text : List Char) : List Char := '"' :: text.flatMap escapeChar ++ ['"']

end TestDaemon.Json
