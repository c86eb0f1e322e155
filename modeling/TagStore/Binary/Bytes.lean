/-!
# Binary.Bytes

Byte strings: reading bytes and little-endian numbers at a position (past the end a byte
reads as 0, and callers check lengths first), writing little-endian numbers, and
hexadecimal text in both directions.
-/

namespace TagStore.Binary

/-- The byte at a position, 0 past the end. -/
def byteAt (b : ByteArray) (i : Nat) : Nat := (b[i]?.map UInt8.toNat).getD 0

/-- The little-endian number of `n` bytes at a position. -/
def readLE (b : ByteArray) (pos n : Nat) : Nat :=
  (List.range n).foldr (fun k acc => acc * 256 + byteAt b (pos + k)) 0

/-- The `n` low bytes of a number, least significant first. -/
def bytesLE (v n : Nat) : List UInt8 :=
  (List.range n).map fun k => (v / Nat.pow 256 k % 256).toUInt8

/-- Appends `n` bytes, each a copy of the byte `dist` places before it, one at a time, so
that a copy may overlap what it writes; a distance of 0 or past the start gives zeros. -/
def copyBack (dist : Nat) : Nat → ByteArray → ByteArray
  | 0, out => out
  | n + 1, out => copyBack dist n (out.push (out[out.size - dist]?.getD 0))

/-- Bytes from a list. -/
def ofList (xs : List UInt8) : ByteArray := ⟨xs.toArray⟩

/-- A hexadecimal digit of a value below 16, in lower case. -/
def hexDigit (n : Nat) : Char := if n < 10 then Char.ofNat (48 + n) else Char.ofNat (87 + n)

/-- Bytes as lower-case hexadecimal text, two digits a byte. -/
def hexOf (b : ByteArray) : String :=
  String.ofList (b.toList.flatMap fun x => [hexDigit (x.toNat / 16), hexDigit (x.toNat % 16)])

/-- The value of a hexadecimal digit of either case. -/
def hexValue? (c : Char) : Option Nat :=
  if '0' ≤ c ∧ c ≤ '9' then some (c.toNat - 48)
  else if 'a' ≤ c ∧ c ≤ 'f' then some (c.toNat - 87)
  else if 'A' ≤ c ∧ c ≤ 'F' then some (c.toNat - 55)
  else none

/-- Bytes of hexadecimal text: pairs of digits, nothing else. -/
def ofHex? (s : String) : Option ByteArray :=
  let rec pairs : List Char → Option (List UInt8)
    | [] => some []
    | [_] => none
    | a :: b :: rest => do
      let hi ← hexValue? a
      let lo ← hexValue? b
      let tail ← pairs rest
      pure ((hi * 16 + lo).toUInt8 :: tail)
  (pairs s.toList).map ofList

end TagStore.Binary
