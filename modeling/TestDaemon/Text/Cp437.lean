import TestDaemon.Bytes

/-! # Code page 437

The character set of ZIP entry names that are not marked as UTF-8. Its lower half is ASCII.
-/

namespace TestDaemon.Cp437

/-- The characters of the octets from 128 on. -/
def upper : Array Char :=
  ("ÇüéâäàåçêëèïîìÄÅÉæÆôöòûùÿÖÜ¢£¥₧ƒáíóúñÑªº¿⌐¬½¼¡«»░▒▓│┤╡╢╖╕╣║╗╝╜╛┐" ++
    "└┴┬├─┼╞╟╚╔╩╦╠═╬╧╨╤╥╙╘╒╓╫╪┘┌█▄▌▐▀αßΓπΣσµτΦΘΩδ∞φε∩≡±≥≤⌠⌡÷≈°∙·√ⁿ²■\u00A0").toList.toArray

def decodeByte (byte : UInt8) : Char :=
  if byte < 128 then Char.ofNat byte.toNat else (upper[byte.toNat - 128]?).getD '\uFFFD'

def decode (bytes : Bytes) : String := String.ofList (bytes.map decodeByte)

end TestDaemon.Cp437
