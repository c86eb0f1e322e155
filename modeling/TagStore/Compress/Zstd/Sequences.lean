import TagStore.Compress.Entropy.Fse
/-!
# Compress.Zstd.Sequences

The sequences section of a compressed block. A sequence copies some literals, then a
match: bytes from an offset back in what the frame has produced so far.

**Counts and modes.** The section opens with the number of sequences: one byte below
128; two bytes `(b₀ - 128) · 256 + b₁` when the first is below 255; else
`b₁ + 256 · b₂ + 0x7F00`. With no sequences the section ends there. Otherwise a byte
gives, from the top, the mode of the literal-length, offset and match-length codes
(two bits each; the last two bits must be clear): predefined table, a single symbol
given in one byte, a table description, or the table of an earlier block of the frame.

**Codes.** The sequences are read from a reverse stream. A state per kind starts with
its table's log in bits (literal length, offset, match length); then each sequence
takes the extra bits of its offset code, of its match-length code and of its
literal-length code, in that order, and, unless it is the last, moves the states on
(literal length, match length, offset). An offset code `c` stands for the value
`2 ^ c` plus `c` extra bits; the other codes stand for a baseline plus extra bits. The
stream must then be exactly consumed.

**Offsets.** A value above 3 is an offset of `value - 3`. Values 1 to 3 name the three
most recent offsets, shifted by one when the sequence copies no literals, the fourth
such name being the most recent offset less one. A new or reused offset becomes the
most recent one. The recent offsets start as 1, 4 and 8 in each frame.

**Carrying out.** Each sequence copies its literals, then its match; no literals may be
missing, an offset may not reach before the frame's start or be 0, and the block may
not outgrow its limit. The literals left over close the block.
-/

namespace TagStore.Zstd

open Bits Binary

/-- The three kinds of code in a sequence. -/
inductive CodeKind where
  | literalLength
  | offset
  | matchLength

namespace CodeKind

/-- The largest symbol of a kind. -/
def maxSymbol : CodeKind → Nat
  | .literalLength => 35
  | .offset => 31
  | .matchLength => 52

/-- The largest log of a described table. -/
def maxLog : CodeKind → Nat
  | .literalLength => 9
  | .offset => 8
  | .matchLength => 9

/-- The log of the predefined table. -/
def predefinedLog : CodeKind → Nat
  | .literalLength => 6
  | .offset => 5
  | .matchLength => 6

/-- The normalised counts of the predefined table. -/
def predefinedCounts : CodeKind → Array Int
  | .literalLength =>
    #[4, 3, 2, 2, 2, 2, 2, 2, 2, 2, 2, 2, 2, 1, 1, 1,
      2, 2, 2, 2, 2, 2, 2, 2, 2, 3, 2, 1, 1, 1, 1, 1,
      -1, -1, -1, -1]
  | .offset =>
    #[1, 1, 1, 1, 1, 1, 2, 2, 2, 1, 1, 1, 1, 1, 1, 1,
      1, 1, 1, 1, 1, 1, 1, 1, -1, -1, -1, -1, -1]
  | .matchLength =>
    #[1, 4, 3, 2, 2, 2, 2, 2, 2, 1, 1, 1, 1, 1, 1, 1,
      1, 1, 1, 1, 1, 1, 1, 1, 1, 1, 1, 1, 1, 1, 1, 1,
      1, 1, 1, 1, 1, 1, 1, 1, 1, 1, 1, 1, 1, 1, -1, -1,
      -1, -1, -1, -1, -1]

/-- The predefined table of a kind. -/
def predefined (k : CodeKind) : Except String Fse.Table :=
  Fse.build k.predefinedLog k.predefinedCounts

/-- Baselines of the literal-length codes from 16. -/
def literalBases : Array Nat :=
  #[16, 18, 20, 22, 24, 28, 32, 40, 48, 64, 128, 256, 512, 1024, 2048, 4096,
    8192, 16384, 32768, 65536]

/-- Extra bits of the literal-length codes from 16. -/
def literalExtra : Array Nat :=
  #[1, 1, 1, 1, 2, 2, 3, 3, 4, 6, 7, 8, 9, 10, 11, 12, 13, 14, 15, 16]

/-- Baselines of the match-length codes from 32. -/
def matchBases : Array Nat :=
  #[35, 37, 39, 41, 43, 47, 51, 59, 67, 83, 99, 131, 259, 515, 1027, 2051,
    4099, 8195, 16387, 32771, 65539]

/-- Extra bits of the match-length codes from 32. -/
def matchExtra : Array Nat :=
  #[1, 1, 1, 1, 2, 2, 3, 3, 4, 4, 5, 7, 8, 9, 10, 11, 12, 13, 14, 15, 16]

/-- The baseline and the number of extra bits of a code. -/
def value : CodeKind → Nat → Nat × Nat
  | .literalLength, c =>
    if c < 16 then (c, 0) else (literalBases.getD (c - 16) 0, literalExtra.getD (c - 16) 0)
  | .offset, c => (Nat.pow 2 c, c)
  | .matchLength, c =>
    if c < 32 then (c + 3, 0) else (matchBases.getD (c - 32) 0, matchExtra.getD (c - 32) 0)

end CodeKind

/-- A sequence: literals to copy, the offset value of the match, and its length. -/
structure Sequence where
  literals : Nat
  offsetValue : Nat
  matchLength : Nat

/-- The tables of the three kinds of code. -/
structure Tables where
  literalLength : Fse.Table
  offset : Fse.Table
  matchLength : Fse.Table

/-- The three most recent offsets, the most recent first. -/
structure Repeats where
  first : Nat := 1
  second : Nat := 4
  third : Nat := 8

/-- The offset an offset value stands for, given the literals its sequence copies, and the
recent offsets after it. -/
def Repeats.resolve (r : Repeats) (value literals : Nat) : Nat × Repeats :=
  if value > 3 then (value - 3, ⟨value - 3, r.first, r.second⟩)
  else
    match value - 1 + (if literals == 0 then 1 else 0) with
    | 0 => (r.first, r)
    | 1 => (r.second, ⟨r.second, r.first, r.third⟩)
    | 2 => (r.third, ⟨r.third, r.first, r.second⟩)
    | _ => (r.first - 1, ⟨r.first - 1, r.first, r.second⟩)

/-- The number of sequences and the bytes its field fills. -/
def readCount (b : ByteArray) : Except String (Nat × Nat) :=
  match b[0]? with
  | none => .error "missing sequences section"
  | some x =>
    let x := x.toNat
    if x < 128 then .ok (x, 1)
    else if x < 255 then
      if b.size < 2 then .error "sequence count runs past the block"
      else .ok ((x - 128) * 256 + byteAt b 1, 2)
    else if b.size < 3 then .error "sequence count runs past the block"
    else .ok (readLE b 1 2 + 0x7F00, 3)

/-- The table of a kind in a mode, read at `pos` when described; gives the table and the
position after it. -/
def chooseTable (kind : CodeKind) (mode : Nat) (previous : Option Fse.Table) (b : ByteArray)
    (pos : Nat) : Except String (Fse.Table × Nat) :=
  match mode with
  | 0 => do pure (← kind.predefined, pos)
  | 1 =>
    match b[pos]? with
    | some s =>
      if s.toNat > kind.maxSymbol then .error "symbol too large"
      else .ok (Fse.Table.single s.toNat, pos + 1)
    | none => .error "missing symbol"
  | 2 => do
    let (t, used) ← Fse.readTable (b.extract pos b.size) kind.maxSymbol kind.maxLog
    pure (t, pos + used)
  | _ =>
    match previous with
    | some t => .ok (t, pos)
    | none => .error "no earlier table"

/-- Decodes `n` sequences from the states `(ll, of, ml)`. -/
def decodeAll (t : Tables) (s : Reverse) (ll of ml : Nat) (acc : Array Sequence) :
    Nat → Array Sequence × Reverse
  | 0 => (acc, s)
  | n + 1 =>
    let (ofBase, ofBits) := CodeKind.offset.value (t.offset.symbol of)
    let (ofExtra, s) := s.read ofBits
    let (mlBase, mlBits) := CodeKind.matchLength.value (t.matchLength.symbol ml)
    let (mlExtra, s) := s.read mlBits
    let (llBase, llBits) := CodeKind.literalLength.value (t.literalLength.symbol ll)
    let (llExtra, s) := s.read llBits
    let acc := acc.push ⟨llBase + llExtra, ofBase + ofExtra, mlBase + mlExtra⟩
    if n == 0 then (acc, s)
    else
      let (ll, s) := t.literalLength.next ll s
      let (ml, s) := t.matchLength.next ml s
      let (of, s) := t.offset.next of s
      decodeAll t s ll of ml acc n

/-- Reads the sequences section, given the tables of earlier blocks; gives the sequences
and the tables to keep. -/
def readSequences (previous : Option Tables) (b : ByteArray) :
    Except String (Array Sequence × Option Tables) := do
  let (count, pos) ← readCount b
  if count == 0 then
    if pos != b.size then throw "bytes after an empty sequences section"
    return (#[], previous)
  let some modes := b[pos]? | throw "missing table modes"
  let modes := modes.toNat
  if modes % 4 != 0 then throw "reserved bits set"
  let (ll, pos) ← chooseTable .literalLength (modes / 64) (previous.map (·.literalLength)) b (pos + 1)
  let (of, pos) ← chooseTable .offset (modes / 16 % 4) (previous.map (·.offset)) b pos
  let (ml, pos) ← chooseTable .matchLength (modes / 4 % 4) (previous.map (·.matchLength)) b pos
  let tables : Tables := ⟨ll, of, ml⟩
  let some s := Reverse.ofBytes? (b.extract pos b.size) | throw "bad stream end"
  let (llState, s) := ll.start s
  let (ofState, s) := of.start s
  let (mlState, s) := ml.start s
  let (seqs, s) := decodeAll tables s llState ofState mlState #[] count
  if !s.consumed then throw "sequence stream not consumed"
  pure (seqs, some tables)

/-- Carries out sequences after `out`, the frame's output so far, taking literals from
`litPos`; the block began at `start` and may reach `start + limit`. Gives the output and
the recent offsets. -/
def execute (lits : ByteArray) (start limit : Nat) :
    List Sequence → Repeats → Nat → ByteArray → Except String (ByteArray × Repeats)
  | [], r, litPos, out =>
    if out.size + (lits.size - litPos) > start + limit then .error "block too large"
    else .ok (out ++ lits.extract litPos lits.size, r)
  | q :: rest, r, litPos, out =>
    let (offset, r) := r.resolve q.offsetValue q.literals
    if litPos + q.literals > lits.size then .error "literals missing"
    else
      let out := out ++ lits.extract litPos (litPos + q.literals)
      if offset == 0 || offset > out.size then .error "offset out of range"
      else if out.size + q.matchLength > start + limit then .error "block too large"
      else execute lits start limit rest r (litPos + q.literals) (copyBack offset q.matchLength out)

end TagStore.Zstd
