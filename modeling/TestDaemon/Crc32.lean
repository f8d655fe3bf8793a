import TestDaemon.Bytes

/-! # CRC-32

The cyclic redundancy check of ZIP archives: bits enter lowest first, and the polynomial is
0xEDB88320 in that order.
-/

namespace TestDaemon.Crc32

/-- Divide one bit out of the register. -/
def shift (register : UInt32) : UInt32 :=
  if register &&& 1 = 1 then (register >>> 1) ^^^ 0xEDB88320 else register >>> 1

def step (register : UInt32) (byte : UInt8) : UInt32 :=
  Nat.repeat shift 8 (register ^^^ byte.toUInt32)

def checksum (bytes : Bytes) : UInt32 := bytes.foldl step 0xFFFFFFFF ^^^ 0xFFFFFFFF

end TestDaemon.Crc32
