import TagStore.Binary.Bytes
/-!
# Binary.Serial

A binary serial form of records: unsigned integers as 4 or 8 little-endian bytes, and
byte strings, texts and sequences behind their length as an 8-byte little-endian number.
A record is its fields one after the other, with nothing between them.

Reading goes from a position and gives the value and the position after it; it fails when
the bytes end early or a text is not UTF-8. Bytes after a record are left alone.
-/

namespace TagStore.Binary.Serial

/-! ## Writing -/

/-- A 32-bit unsigned number. -/
def u32 (n : Nat) : ByteArray := ofList (bytesLE n 4)

/-- A 64-bit unsigned number. -/
def u64 (n : Nat) : ByteArray := ofList (bytesLE n 8)

/-- A byte string behind its length. -/
def bytes (b : ByteArray) : ByteArray := u64 b.size ++ b

/-- A text as its UTF-8 bytes behind their length. -/
def text (s : String) : ByteArray := bytes s.toUTF8

/-- A sequence of written items behind their count. -/
def seq (items : List ByteArray) : ByteArray :=
  items.foldl (· ++ ·) (u64 items.length)

/-! ## Reading -/

/-- Reads a value at a position: the value and the position after it. -/
abbrev Reader (α : Type) := ByteArray → Nat → Option (α × Nat)

/-- A 32-bit unsigned number. -/
def readU32 : Reader Nat := fun b pos =>
  if pos + 4 ≤ b.size then some (readLE b pos 4, pos + 4) else none

/-- A 64-bit unsigned number. -/
def readU64 : Reader Nat := fun b pos =>
  if pos + 8 ≤ b.size then some (readLE b pos 8, pos + 8) else none

/-- A byte string behind its length. -/
def readBytes : Reader ByteArray := fun b pos => do
  let (n, pos) ← readU64 b pos
  if pos + n ≤ b.size then some (b.extract pos (pos + n), pos + n) else none

/-- A text behind its length; its bytes must be UTF-8. -/
def readText : Reader String := fun b pos => do
  let (raw, pos) ← readBytes b pos
  let s ← String.fromUTF8? raw
  pure (s, pos)

/-- `n` items one after the other. -/
def readItems {α : Type} (item : Reader α) : Nat → Reader (List α)
  | 0 => fun _ pos => some ([], pos)
  | n + 1 => fun b pos => do
    let (x, pos) ← item b pos
    let (xs, pos) ← readItems item n b pos
    pure (x :: xs, pos)

/-- A sequence behind its count. -/
def readSeq {α : Type} (item : Reader α) : Reader (List α) := fun b pos => do
  let (n, pos) ← readU64 b pos
  readItems item n b pos

/-- A pair of a text and a 64-bit number. -/
def readTextCount : Reader (String × Nat) := fun b pos => do
  let (k, pos) ← readText b pos
  let (v, pos) ← readU64 b pos
  pure ((k, v), pos)

end TagStore.Binary.Serial
