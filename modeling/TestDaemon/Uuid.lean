/-! # Random identifiers

UUIDs of version 4: of their 128 bits six are fixed, and the others are taken from a random number.
-/

namespace TestDaemon.Uuid

/-- The last `width` hexadecimal digits of a number. -/
def hex : (width : Nat) → Nat → List Char
  | 0, _ => []
  | width + 1, n => hex width (n / 16) ++ [Nat.digitChar (n % 16)]

/-- The UUID with the lowest 122 bits of a number. -/
def ofNat (n : Nat) : String :=
  let group (width shift : Nat) : List Char := hex width (n >>> shift)
  let variant := 8 + (n >>> 60) % 4
  String.ofList (group 8 90 ++ '-' :: group 4 74 ++ '-' :: '4' :: group 3 62 ++
    '-' :: Nat.digitChar variant :: group 3 48 ++ '-' :: group 12 0)

end TestDaemon.Uuid
