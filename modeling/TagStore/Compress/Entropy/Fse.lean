import TagStore.Compress.Entropy.Bits
/-!
# Compress.Entropy.Fse

Finite-state entropy tables. A table of `2 ^ log` cells is described by a normalised
count per symbol, the counts summing to `2 ^ log` when a count of `-1` ("less than one")
is taken as one.

**Reading a description** (forward bits). Four bits give `log - 5`, at most the caller's
limit. Then come the counts of symbols 0, 1, … until they sum to `2 ^ log`. With `r` the
sum still missing, a count is written as `value = count + 1`, in `b = ⌊log₂ (r + 1)⌋ + 1`
bits, the small values in one bit less: with `m = 2 ^ b - 1 - (r + 1)`, the low `b - 1`
bits give the value when they are below `m`, else all `b` bits do, less `m` when the top
bit is set. A zero count is followed by two-bit flags saying how many more zero counts
follow, a flag of 3 being followed by another flag. A count past what is missing, or a
symbol past the caller's largest, is refused. The description fills whole bytes.

**Building the table.** Symbols of count `-1` take one cell each from the top down, in
symbol order. The others, in order, take as many cells as their count: a cursor starts at
cell 0 and steps by `size / 2 + size / 8 + 3` around the table, skipping the cells taken
from the top. Then every cell, in table order, gets the next *state number* `k` of its
symbol, counting from the symbol's count (from 1 for a `-1` symbol); the cell reads
`log - ⌊log₂ k⌋` bits, and its next state is `k · 2 ^ bits - size` plus the bits read.

**Decoding** reads states from a reverse stream: a state starts as `log` bits, its
symbol is its cell's, and it moves on by reading the cell's bits. Two states taking turns
decode a run of symbols whose end is where the stream runs out.
-/

namespace TagStore.Fse

open Bits

/-- A cell of a decoding table: its symbol, the bits a state in it reads to move on, and
the base of the next state. -/
structure Cell where
  symbol : Nat
  bits : Nat
  base : Nat

/-- A decoding table of `2 ^ log` cells. -/
structure Table where
  log : Nat
  cells : Array Cell

namespace Table

/-- The table of a single symbol, whose state reads no bits. -/
def single (symbol : Nat) : Table := ⟨0, #[⟨symbol, 0, 0⟩]⟩

/-- The cell of a state. -/
def cell (t : Table) (state : Nat) : Cell := t.cells.getD state ⟨0, 0, 0⟩

/-- The symbol of a state. -/
def symbol (t : Table) (state : Nat) : Nat := (t.cell state).symbol

/-- A first state, read from the stream. -/
def start (t : Table) (s : Reverse) : Nat × Reverse := s.read t.log

/-- The state after a state, reading the cell's bits. -/
def next (t : Table) (state : Nat) (s : Reverse) : Nat × Reverse :=
  let c := t.cell state
  let (v, s) := s.read c.bits
  (c.base + v, s)

end Table

/-! ## Descriptions -/

/-- Reads the zero-repeat flags after a zero count, appending the zero counts they give. -/
def readZeros (r : Forward) (counts : Array Int) : Nat → Array Int × Forward
  | 0 => (counts, r)
  | fuel + 1 =>
    let (flag, r) := r.read 2
    let counts := counts ++ Array.replicate flag 0
    if flag == 3 then readZeros r counts fuel else (counts, r)

/-- Reads counts while `missing` of the total is not yet given. -/
def readCounts (maxSymbol : Nat) (r : Forward) (missing : Nat) (counts : Array Int) :
    Nat → Except String (Array Int × Forward)
  | 0 => .error "distribution too long"
  | fuel + 1 =>
    if missing == 0 then .ok (counts, r)
    else if counts.size > maxSymbol then .error "too many symbols"
    else
      let b := Nat.log2 (missing + 1) + 1
      let raw := (r.read b).1
      let lowMask := Nat.pow 2 (b - 1)
      let m := Nat.pow 2 b - 1 - (missing + 1)
      let (value, width) :=
        if raw % lowMask < m then (raw % lowMask, b - 1)
        else if raw ≥ lowMask then (raw - m, b)
        else (raw, b)
      let r := (r.read width).2
      if value == 1 then
        let (counts, r) := readZeros r (counts.push 0) (maxSymbol + 2)
        if counts.size > maxSymbol then .error "too many symbols"
        else readCounts maxSymbol r missing counts fuel
      else
        let (count, weight) : Int × Nat := if value == 0 then (-1, 1) else (value - 1, value - 1)
        if weight > missing then .error "distribution too large"
        else readCounts maxSymbol r (missing - weight) (counts.push count) fuel

/-- Reads a description at the start of the bytes: the table's `log`, the counts, and the
number of bytes it fills. -/
def readDescription (b : ByteArray) (maxSymbol maxLog : Nat) :
    Except String (Nat × Array Int × Nat) := do
  let (code, r) := ({ bytes := b } : Forward).read 4
  let log := code + 5
  if log > maxLog then throw "table log too large"
  let (counts, r) ← readCounts maxSymbol r (Nat.pow 2 log) #[] (maxSymbol + 2)
  if r.bytesUsed > b.size then throw "description runs past its bytes"
  pure (log, counts, r.bytesUsed)

/-! ## Building -/

/-- The cell after `pos` for the spreading cursor, skipping cells from `high` up. -/
def advance (size step high pos : Nat) : Nat → Nat
  | 0 => pos
  | fuel + 1 =>
    let q := (pos + step) % size
    if q ≥ high then advance size step high q fuel else q

/-- Spreads a symbol over `n` cells from the cursor; gives the symbols and the cursor. -/
def spread (size step high symbol : Nat) : Nat → Array Nat × Nat → Array Nat × Nat
  | 0, acc => acc
  | n + 1, (cells, pos) =>
    spread size step high symbol n
      (cells.setIfInBounds pos symbol, advance size step high pos size)

/-- The decoding table of a log and normalised counts. -/
def build (log : Nat) (counts : Array Int) : Except String Table := do
  let size := Nat.pow 2 log
  let lows := (List.range counts.size).filter fun s => counts.getD s 0 == -1
  let high := size - lows.length
  let symbols := lows.zipIdx.foldl (fun a (s, i) => a.setIfInBounds (size - 1 - i) s)
    (Array.replicate size 0)
  let step := size / 2 + size / 8 + 3
  let (symbols, pos) := (List.range counts.size).foldl (fun acc s =>
      spread size step high s (counts.getD s 0).toNat acc) (symbols, 0)
  if pos != 0 then throw "counts do not fill the table"
  let firstStates := counts.map fun c => if c < 0 then 1 else c.toNat
  let (cells, _) := symbols.foldl (fun (cells, states) s =>
      let k := states.getD s 1
      let bits := log - Nat.log2 k
      (cells.push ⟨s, bits, k * Nat.pow 2 bits - size⟩, states.modify s (· + 1)))
    ((#[] : Array Cell), firstStates)
  pure ⟨log, cells⟩

/-- The table a description at the start of the bytes gives, and the bytes it fills. -/
def readTable (b : ByteArray) (maxSymbol maxLog : Nat) : Except String (Table × Nat) := do
  let (log, counts, used) ← readDescription b maxSymbol maxLog
  pure (← build log counts, used)

/-! ## Decoding -/

/-- Two states taking turns, the first state's symbol first, until the stream runs out;
then the other state gives one last symbol. At most 255 symbols. -/
def decodePairs (t : Table) (a b : Nat) (s : Reverse) (out : Array Nat) :
    Nat → Except String (Array Nat)
  | 0 => .error "too many symbols"
  | fuel + 1 =>
    if out.size > 253 then .error "too many symbols"
    else
      let out := out.push (t.symbol a)
      let (a, s) := t.next a s
      if s.overflowed then .ok (out.push (t.symbol b))
      else if out.size > 253 then .error "too many symbols"
      else
        let out := out.push (t.symbol b)
        let (b, s) := t.next b s
        if s.overflowed then .ok (out.push (t.symbol a))
        else decodePairs t a b s out fuel

/-- The symbols of a stream coded with two interleaved states. -/
def decodeInterleaved (t : Table) (bytes : ByteArray) : Except String (Array Nat) := do
  let some s := Reverse.ofBytes? bytes | throw "bad stream end"
  let (a, s) := t.start s
  let (b, s) := t.start s
  decodePairs t a b s #[] 128

end TagStore.Fse
