/-!
# Binary64

Binary64 floats held as their 64-bit words, with the little arithmetic that numbers of the
document format and cache statistics need. A finite word is `± m · 2 ^ q`; an operation
computes its exact result on natural numbers and rounds it to the nearest word, ties to
the even mantissa, as floating-point hardware does. No runtime float operation is
involved, so every result is fixed by the definitions.

A magnitude past the largest finite value rounds to infinity; one below half the smallest
subnormal rounds to zero. Equality is the floating-point one: the two zeros are equal.
-/

namespace TagStore

/-- A binary64 float, by its bits. -/
structure Binary64 where
  bits : UInt64
  deriving Inhabited, Repr

namespace Binary64

/-- The bits of the magnitude of infinity. -/
def infinityBits : Nat := 0x7FF * Nat.pow 2 52

/-- The bits without the sign. -/
def magnitudeBits (x : Binary64) : Nat := x.bits.toNat % Nat.pow 2 63

/-- Whether the sign bit is set. -/
def isNegative (x : Binary64) : Bool := x.bits.toNat / Nat.pow 2 63 == 1

/-- Whether the word is a zero of either sign. -/
def isZero (x : Binary64) : Bool := x.magnitudeBits == 0

/-- Whether the word is an infinity of either sign. -/
def isInfinite (x : Binary64) : Bool := x.magnitudeBits == infinityBits

/-- The word of a sign and magnitude bits. -/
def ofMagnitude (negative : Bool) (magnitude : Nat) : Binary64 :=
  ⟨(magnitude + (if negative then Nat.pow 2 63 else 0)).toUInt64⟩

/-- The word with the other sign. -/
def neg (x : Binary64) : Binary64 := ofMagnitude (!x.isNegative) x.magnitudeBits

/-- The magnitude of a finite word as `(m, q)`, its value being `m · 2 ^ q`. -/
def scaled (x : Binary64) : Nat × Int :=
  let b := x.magnitudeBits
  let fraction := b % Nat.pow 2 52
  let biased := b / Nat.pow 2 52
  if biased == 0 then (fraction, -1074) else (fraction + Nat.pow 2 52, (biased : Int) - 1075)

/-- `⌊log₂ (n / d)⌋` for positive `n` and `d`. -/
def floorLog2 (n d : Nat) : Int :=
  let b : Int := (Nat.log2 n : Int) - (Nat.log2 d : Int)
  let reaches := if 0 ≤ b then n ≥ d * Nat.pow 2 b.toNat else n * Nat.pow 2 (-b).toNat ≥ d
  if reaches then b else b - 1

/-- `n / d` rounded to the nearest integer, ties to even. -/
def roundHalfEven (n d : Nat) : Nat :=
  let q := n / d
  let r := n % d
  if 2 * r > d then q + 1 else if 2 * r < d then q else q + q % 2

/-- The magnitude bits of the word nearest to `n / d` for positive `n` and `d`: the binary
magnitude fixes the exponent (not below the subnormal one), the quotient by that power of
two is rounded half to even, and a carry into the next power of two moves the exponent
up. -/
def nearestBits (n d : Nat) : Nat :=
  let k := floorLog2 n d
  let q : Int := max (k - 52) (-1074)
  let r := if 0 ≤ q then roundHalfEven n (d * Nat.pow 2 q.toNat) else roundHalfEven (n * Nat.pow 2 (-q).toNat) d
  let (r, q) := if r == Nat.pow 2 53 then (Nat.pow 2 52, q + 1) else (r, q)
  if q > 971 then infinityBits
  else if r < Nat.pow 2 52 then r
  else (q + 1075).toNat * Nat.pow 2 52 + (r - Nat.pow 2 52)

/-- The non-negative word nearest to `n / d`; zero when `n` or `d` is zero. -/
def ofRatio (n d : Nat) : Binary64 :=
  if n == 0 || d == 0 then ⟨0⟩ else ofMagnitude false (nearestBits n d)

/-- The word nearest to a natural number. -/
def ofNat (n : Nat) : Binary64 := ofRatio n 1

/-- The word nearest to `m · 2 ^ q`, with a sign. -/
def ofScaled (negative : Bool) (m : Nat) (q : Int) : Binary64 :=
  let magnitude := if 0 ≤ q then ofRatio (m * Nat.pow 2 q.toNat) 1 else ofRatio m (Nat.pow 2 (-q).toNat)
  ofMagnitude negative magnitude.magnitudeBits

/-- The rounded product of two finite words. -/
def mul (x y : Binary64) : Binary64 :=
  let (m, p) := x.scaled
  let (n, q) := y.scaled
  ofScaled (x.isNegative != y.isNegative) (m * n) (p + q)

/-- The rounded quotient of a finite word by a finite nonzero word. -/
def div (x y : Binary64) : Binary64 :=
  let (m, p) := x.scaled
  let (n, q) := y.scaled
  let e := p - q
  let magnitude := if 0 ≤ e then ofRatio (m * Nat.pow 2 e.toNat) n else ofRatio m (n * Nat.pow 2 (-e).toNat)
  ofMagnitude (x.isNegative != y.isNegative) magnitude.magnitudeBits

/-- The word nearest to `10 ^ k`. -/
def pow10 (k : Nat) : Binary64 := ofNat (Nat.pow 10 k)

/-- Floating-point equality of words that are not NaN: equal bits, or two zeros. -/
def eq (x y : Binary64) : Bool := (x.isZero && y.isZero) || x.bits == y.bits

instance : BEq Binary64 := ⟨eq⟩

end Binary64

end TagStore
