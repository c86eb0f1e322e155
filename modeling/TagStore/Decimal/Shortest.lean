import TagStore.Binary64
/-!
# Decimal.Shortest

The shortest decimal text of a binary64 float. A finite nonzero float is
`mantissa · 2 ^ exponent`; the reals that read back as it form an interval around it,
whose ends belong to it when the mantissa is even. For 1, 2, … 17 significant digits
the value's two neighbours on the decimal grid of that many digits are tested in exact
natural-number arithmetic: the first grid with a neighbour inside the interval gives
the digits, the nearer neighbour wins, and an exact tie goes to the even digit.

`Style` then places the digits: positional notation for values from `1e-5` up to
`1e16` (exclusive), always with a fractional part, and `d.ddde±x` otherwise, the exponent
signed either way and never padded.
-/

namespace TagStore.Decimal

/-- A finite nonzero binary64 value as `mantissa · 2 ^ exponent`. -/
structure Binary where
  negative : Bool
  mantissa : Nat
  exponent : Int
  /-- The next smaller float is nearer than the next larger one: the mantissa is a
  power of two and the exponent is not the smallest. -/
  lowerCloser : Bool

/-- Split the bits of a float into sign, mantissa and exponent. -/
def Binary.ofBits (bits : UInt64) : Binary :=
  let b := bits.toNat
  let fraction := b % Nat.pow 2 52
  let biased : Nat := (b / Nat.pow 2 52) % Nat.pow 2 11
  let negative := b / Nat.pow 2 63 == 1
  if biased == 0 then ⟨negative, fraction, -1074, false⟩
  else ⟨negative, fraction + Nat.pow 2 52, (biased : Int) - 1075, fraction == 0 && biased > 1⟩

/-- Compare `a · 10 ^ k` with `b · 2 ^ p` exactly. -/
def compareScaled (a : Nat) (k : Int) (b : Nat) (p : Int) : Ordering :=
  compare (a * Nat.pow 10 k.toNat * Nat.pow 2 (-p).toNat) (b * Nat.pow 2 p.toNat * Nat.pow 10 (-k).toNat)

namespace Binary

/-- Whether `d · 10 ^ k` reads back as this float: it lies between the midpoints to the
two neighbouring floats, ends included when the mantissa is even. -/
def reads (v : Binary) (d : Nat) (k : Int) : Bool :=
  let low := 4 * v.mantissa - (if v.lowerCloser then 1 else 2)
  let high := 4 * v.mantissa + 2
  let above := compareScaled d k low (v.exponent - 2)
  let below := compareScaled d k high (v.exponent - 2)
  if v.mantissa % 2 == 0 then above != .lt && below != .gt
  else above == .gt && below == .lt

/-- `⌊v / 10 ^ k⌋`. -/
def floorDiv (v : Binary) (k : Int) : Nat :=
  (v.mantissa * Nat.pow 2 v.exponent.toNat * Nat.pow 10 (-k).toNat) /
    (Nat.pow 10 k.toNat * Nat.pow 2 (-v.exponent).toNat)

/-- Step a guess `e` of `⌊log₁₀ v⌋` towards the true value, at most `fuel` times. -/
def fixDecade (v : Binary) : Nat → Int → Int
  | 0, e => e
  | fuel + 1, e =>
    if compareScaled 1 e v.mantissa v.exponent == .gt then fixDecade v fuel (e - 1)
    else if compareScaled 1 (e + 1) v.mantissa v.exponent != .gt then fixDecade v fuel (e + 1)
    else e

/-- `⌊log₁₀ v⌋`: a guess from the binary length, then corrected exactly. -/
def decade (v : Binary) : Int :=
  let bits : Int := (Nat.log2 v.mantissa : Int) + v.exponent
  v.fixDecade 8 ((bits * 30103).fdiv 100000)

/-- Of the two grid neighbours `f · 10^k` and `(f+1) · 10^k`, the one that reads back and is
nearer, ties to the even digit. -/
def pick (v : Binary) (f : Nat) (k : Int) : Option Nat :=
  let lowOk := v.reads f k
  let highOk := v.reads (f + 1) k
  if lowOk && highOk then
    -- compare 2v with (2f+1) · 10^k
    match compareScaled (2 * f + 1) k (2 * v.mantissa) v.exponent with
    | .gt => some f
    | .lt => some (f + 1)
    | .eq => if f % 2 == 0 then some f else some (f + 1)
  else if lowOk then some f
  else if highOk then some (f + 1)
  else none

/-- Search the grids of `n`, `n+1`, … significant digits for the first hit. -/
def search (v : Binary) (e : Int) : Nat → Nat → Nat × Int
  | 0, _ => (v.floorDiv (e - 16), e - 16)
  | fuel + 1, n =>
    let k := e - (n : Int) + 1
    let f := v.floorDiv k
    match v.pick f k with
    | some d => (d, k)
    | none => search v e fuel (n + 1)

end Binary

/-- Drop trailing zero digits, raising the exponent. -/
def trimZeros : Nat → Nat × Int → Nat × Int
  | 0, p => p
  | fuel + 1, (d, k) => if d != 0 && d % 10 == 0 then trimZeros fuel (d / 10, k + 1) else (d, k)

/-- The shortest digits of a finite nonzero value and the power of ten of the last one. -/
def Binary.shortest (v : Binary) : Nat × Int :=
  trimZeros 20 (v.search v.decade 17 1)

/-! ## Placing the digits -/

/-- Where digits are written positionally: `integerDigits` is the most digits before the
point, `fractionZeros` the most zeros right after it; `plusSign` says whether a positive
exponent is written with `+`. -/
structure Style where
  integerDigits : Nat
  fractionZeros : Nat
  plusSign : Bool

/-- Positional text up to sixteen integer digits and four zeros after the point, and a
signed exponent otherwise. -/
def Style.standard : Style := ⟨16, 4, true⟩

/-- The text of an exponent, `+` before a positive one when the style asks for it. -/
def Style.exponent (s : Style) (e : Int) : String :=
  (if s.plusSign && 0 ≤ e then "+" else "") ++ toString e

/-- `n` zero characters. -/
def zeros (n : Nat) : String := String.ofList (List.replicate n '0')

/-- Digits `ds` with decimal exponent `k` (value `ds · 10^k`), placed by the style. -/
def Style.place (s : Style) (ds : String) (k : Int) : String :=
  let len : Int := ds.length
  let kk := len + k
  if 0 ≤ k ∧ kk ≤ s.integerDigits then ds ++ zeros k.toNat ++ ".0"
  else if 0 < kk ∧ kk ≤ s.integerDigits then
    String.ofList (ds.toList.take kk.toNat) ++ "." ++ String.ofList (ds.toList.drop kk.toNat)
  else if -(s.fractionZeros : Int) ≤ kk ∧ kk ≤ 0 then "0." ++ zeros (-kk).toNat ++ ds
  else if len = 1 then ds ++ "e" ++ s.exponent (kk - 1)
  else String.ofList (ds.toList.take 1) ++ "." ++ String.ofList (ds.toList.drop 1) ++ "e" ++
    s.exponent (kk - 1)

/-- The text of a finite float: `0.0` and `-0.0` for zeros, otherwise the sign and the
shortest digits placed by `Style.standard`. -/
def render (x : Binary64) : String :=
  let sign := if x.isNegative then "-" else ""
  if x.isZero then sign ++ "0.0"
  else
    let (d, k) := (Binary.ofBits x.bits).shortest
    sign ++ Style.standard.place (toString d) k

end TagStore.Decimal
