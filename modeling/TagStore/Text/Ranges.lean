/-!
# Text.Ranges

Sets of code points kept as sorted bounds: the first bound starts a range, the second
ends it (exclusive), the third starts the next, and so on. A code point is in the set
when an odd number of bounds lie at or below it, found by binary search. Tables are
written as hexadecimal numbers separated by blanks and read once.
-/

namespace TagStore.Text

/-- The value of a hexadecimal digit, if the character is one. -/
def hexDigitValue? (c : Char) : Option Nat :=
  if '0' ≤ c ∧ c ≤ '9' then some (c.toNat - 48)
  else if 'a' ≤ c ∧ c ≤ 'f' then some (c.toNat - 87)
  else if 'A' ≤ c ∧ c ≤ 'F' then some (c.toNat - 55)
  else none

/-- The hexadecimal numbers of a text, in order; any other character separates them. -/
def hexNumbers (s : String) : Array Nat :=
  let (acc, cur) := s.foldl (fun (acc, cur) c =>
    match hexDigitValue? c, cur with
    | some d, some n => (acc, some (n * 16 + d))
    | some d, none => (acc, some d)
    | none, some n => (acc.push n, none)
    | none, none => (acc, none)) ((#[] : Array Nat), (none : Option Nat))
  match cur with
  | some n => acc.push n
  | none => acc

/-- How many of the sorted bounds in `[lo, hi)` lie at or below `n`, plus `lo`. -/
def rankFrom (b : Array Nat) (n : Nat) (lo hi : Nat) : Nat :=
  if h : lo < hi then
    let mid := (lo + hi) / 2
    if b[mid]?.getD 0 ≤ n then rankFrom b n (mid + 1) hi else rankFrom b n lo mid
  else lo
termination_by hi - lo

/-- How many of the sorted bounds lie at or below `n`. -/
def rank (b : Array Nat) (n : Nat) : Nat := rankFrom b n 0 b.size

/-- Whether a code point lies in the set given by sorted bounds. -/
def inBounds (b : Array Nat) (c : Char) : Bool := rank b c.toNat % 2 == 1

/-- A table from code-point ranges to small values: range starts (sorted) and the value
of each range up to the next start. -/
structure RangeMap where
  starts : Array Nat
  values : Array Nat

/-- A range map read from pairs `start value` of hexadecimal numbers. -/
def RangeMap.ofHex (s : String) : RangeMap :=
  let ns := hexNumbers s
  let pairs := (List.range (ns.size / 2)).map fun i => (ns[2 * i]?.getD 0, ns[2 * i + 1]?.getD 0)
  ⟨(pairs.map (·.1)).toArray, (pairs.map (·.2)).toArray⟩

/-- The value of the range holding a code point, `0` before the first range. -/
def RangeMap.get (m : RangeMap) (c : Char) : Nat :=
  match rank m.starts c.toNat with
  | 0 => 0
  | k + 1 => m.values[k]?.getD 0

end TagStore.Text
