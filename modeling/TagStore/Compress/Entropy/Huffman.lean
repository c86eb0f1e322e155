import TagStore.Compress.Entropy.Fse
/-!
# Compress.Entropy.Huffman

Huffman-coded bytes, the code given by a *weight* per symbol. A symbol of weight
`w > 0` gets a code of `log + 1 - w` bits, where `2 ^ log` is the sum of `2 ^ (w - 1)`
over all symbols; weight 0 means the symbol does not occur.

**The weights.** A description gives the weights of symbols `0 … n - 1`; the weight of
symbol `n` is implied, as what completes the sum to the next power of two, which must
itself be a power of two. A header byte `h ≥ 128` means `h - 127` weights follow in
four-bit fields, two a byte, the high half first; a smaller `h` means the weights are
`h` bytes of finite-state coding (a table of log at most 6 and two interleaved states).
Weights above 12, a `log` above 12, no weight at all, or an odd number (or fewer than
two) of symbols of weight 1 are refused.

**The code.** Codes are dealt out in order of weight, lightest first, and by symbol
within a weight. Decoding looks at the next `log` bits of a reverse stream, which fix
the symbol, and takes only that symbol's code length of them. A stream decodes a known
number of symbols and must then be exactly consumed. Four streams share the work when
a jump table of three 16-bit lengths comes first: each of the first three decodes
`⌈n / 4⌉` symbols, the fourth the rest.
-/

namespace TagStore.Huffman

open Bits Binary

/-- A decoding table: for each value of the next `log` bits, the symbol and its code
length. -/
structure Table where
  log : Nat
  symbols : Array UInt8
  lengths : Array Nat

/-- The share of the code space that a weight takes: `2 ^ (w - 1)`, none for weight 0. -/
def share (w : Nat) : Nat := if w == 0 then 0 else Nat.pow 2 (w - 1)

/-- The total share of some weights. -/
def totalShare (ws : List Nat) : Nat := ws.foldl (fun acc w => acc + share w) 0

/-- The code table of the weights of symbols `0 … n - 1`, with the last symbol's weight
implied. -/
def Table.ofWeights (given : List Nat) : Except String Table := do
  if given.any (· > 12) then throw "weight too large"
  let total := totalShare given
  if total == 0 then throw "no weights"
  let log := Nat.log2 total + 1
  if log > 12 then throw "code too long"
  let rest := Nat.pow 2 log - total
  if rest != Nat.pow 2 (Nat.log2 rest) then throw "weights do not complete"
  let weights := given ++ [Nat.log2 rest + 1]
  let ones := (weights.filter (· == 1)).length
  if ones < 2 || ones % 2 == 1 then throw "weights do not complete"
  -- where the codes of each weight start: the lighter weights come first
  let starts := (List.range 13).map fun w => totalShare (weights.filter (· < w))
  let size := Nat.pow 2 log
  let (symbols, lengths, _) := weights.zipIdx.foldl (fun (symbols, lengths, starts) (w, n) =>
      if w == 0 then (symbols, lengths, starts)
      else
        let first := starts.getD w 0
        let span := Nat.pow 2 (w - 1)
        let cells := (List.range span).map (first + ·)
        (cells.foldl (fun a i => a.setIfInBounds i n.toUInt8) symbols,
          cells.foldl (fun a i => a.setIfInBounds i (log + 1 - w)) lengths,
          starts.set w (first + span)))
    (Array.replicate size (0 : UInt8), Array.replicate size 0, starts)
  pure ⟨log, symbols, lengths⟩

/-- Weights in four-bit fields, the high half of each byte first. -/
def nibbles (b : ByteArray) (n : Nat) : List Nat :=
  (List.range n).map fun i =>
    let byte := byteAt b (i / 2)
    if i % 2 == 0 then byte / 16 else byte % 16

/-- Reads a description at the start of the bytes: the table and the bytes it fills. -/
def readTable (b : ByteArray) : Except String (Table × Nat) := do
  let some h := b[0]? | throw "missing code description"
  let h := h.toNat
  if h ≥ 128 then
    let n := h - 127
    let used := 1 + (n + 1) / 2
    if used > b.size then throw "code description runs past its bytes"
    pure (← Table.ofWeights (nibbles (b.extract 1 used) n), used)
  else
    if 1 + h > b.size then throw "code description runs past its bytes"
    let coded := b.extract 1 (1 + h)
    let (table, tableBytes) ← Fse.readTable coded 255 6
    let weights ← Fse.decodeInterleaved table (coded.extract tableBytes coded.size)
    pure (← Table.ofWeights weights.toList, 1 + h)

/-- Decodes `n` symbols from a reverse stream into `out`. -/
def decodeSymbols (t : Table) (s : Reverse) (out : ByteArray) : Nat → ByteArray × Reverse
  | 0 => (out, s)
  | n + 1 =>
    let i := s.peek t.log
    let s := (s.read (t.lengths.getD i 0)).2
    decodeSymbols t s (out.push (t.symbols.getD i 0)) n

/-- Decodes one stream of exactly `n` symbols. -/
def decodeStream (t : Table) (bytes : ByteArray) (n : Nat) : Except String ByteArray := do
  let some s := Reverse.ofBytes? bytes | throw "bad stream end"
  let (out, s) := decodeSymbols t s ByteArray.empty n
  if s.consumed then pure out else throw "stream not consumed"

/-- Decodes four streams behind a jump table, `n` symbols in all. -/
def decodeFour (t : Table) (bytes : ByteArray) (n : Nat) : Except String ByteArray := do
  if bytes.size < 10 then throw "streams too short"
  let l1 := readLE bytes 0 2
  let l2 := readLE bytes 2 2
  let l3 := readLE bytes 4 2
  if 6 + l1 + l2 + l3 > bytes.size then throw "streams too long"
  let quarter := (n + 3) / 4
  if 3 * quarter > n then throw "too few symbols for four streams"
  let s1 := 6
  let s2 := s1 + l1
  let s3 := s2 + l2
  let s4 := s3 + l3
  let a ← decodeStream t (bytes.extract s1 s2) quarter
  let b ← decodeStream t (bytes.extract s2 s3) quarter
  let c ← decodeStream t (bytes.extract s3 s4) quarter
  let d ← decodeStream t (bytes.extract s4 bytes.size) (n - 3 * quarter)
  pure (a ++ b ++ c ++ d)

end TagStore.Huffman
