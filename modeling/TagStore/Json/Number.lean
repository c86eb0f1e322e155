import TagStore.Binary64
import TagStore.Decimal.Shortest
/-!
# Json.Number

Numbers of the document format are of three kinds: an unsigned integer of 64 bits, a
negative integer of 64 bits, and a binary64 float. Numbers of different kinds are never
equal, so `12` and `12.0` differ; two floats are equal as floats.

A number text is an integer when it has neither a point nor an exponent and its value
fits a kind: an unsigned one up to `2 ^ 64 - 1`, a negative one down to `-2 ^ 63`. `-0`,
a negative integer below `-2 ^ 63` and every other number are floats.

A float is read with a significand of 64 bits, which does not always give the nearest
float:
- the significand takes digits while it stays below `2 ^ 64`; the first integer digit it
  cannot take and every integer digit after it raise the decimal exponent instead, and
  the first fraction digit it cannot take and every fraction digit after it are dropped;
- the written exponent is a 32-bit value: when it overflows the number is a zero, unless
  the significand is nonzero and the exponent positive, which is out of range; the sum of
  the exponents saturates;
- the significand is rounded to a float, then multiplied by the float nearest to `10 ^ e`
  or divided by the float nearest to `10 ^ -e`, rounding once more; below `10 ^ -308` it
  is first divided by the float nearest to `10 ^ 308` as often as needed. A product past
  the largest float is out of range, and so is a nonzero significand with an exponent
  past 308.

A float is written in its shortest text (`Decimal.render`), an integer in decimal.
-/

namespace TagStore.Json

/-- A number: an unsigned integer, a negative integer, or a float. -/
inductive Number where
  /-- An unsigned 64-bit integer. -/
  | nat (n : UInt64)
  /-- A negative 64-bit integer. -/
  | negative (i : Int64)
  /-- A binary64 float. -/
  | float (x : Binary64)
  deriving Inhabited, Repr

namespace Number

/-- Equality within a kind, floats as floats; numbers of different kinds differ. -/
def beq : Number → Number → Bool
  | .nat a, .nat b => a == b
  | .negative a, .negative b => a == b
  | .float a, .float b => a == b
  | _, _ => false

instance : BEq Number := ⟨beq⟩

/-- The number of a natural number below `2 ^ 64`. -/
def ofNat (n : Nat) : Number := .nat n.toUInt64

/-- The number of an integer of 64 bits: unsigned when not negative. -/
def ofInt (i : Int) : Number :=
  if 0 ≤ i then .nat i.toNat.toUInt64 else .negative (Int64.ofInt i)

/-- The value as an unsigned 64-bit integer, for an unsigned integer only. -/
def toUInt64? : Number → Option UInt64
  | .nat n => some n
  | _ => none

/-- The value as a signed 64-bit integer, for an integer that fits. -/
def toInt64? : Number → Option Int64
  | .nat n => if n.toNat < Nat.pow 2 63 then some (Int64.ofNat n.toNat) else none
  | .negative i => some i
  | .float _ => none

/-- The value as a float: an integer is rounded to the nearest one. -/
def toBinary64 : Number → Binary64
  | .nat n => Binary64.ofNat n.toNat
  | .negative i => (Binary64.ofNat i.toInt.natAbs).neg
  | .float x => x

/-- Whether two numbers are equal as floats, whatever their kinds. -/
def sameValue (a b : Number) : Bool := a.toBinary64 == b.toBinary64

/-- The text of a number. -/
def render : Number → String
  | .nat n => toString n.toNat
  | .negative i => toString i.toInt
  | .float x => Decimal.render x

/-! ## Reading -/

/-- A number text taken apart: its sign, the digits before the point, the digits after
it when there is a point, and the direction and digits of the exponent when there is
one. -/
structure Numeral where
  negative : Bool
  whole : List Nat
  fraction : Option (List Nat)
  exponent : Option (Bool × List Nat)

/-- The largest unsigned 64-bit integer. -/
def u64Max : Nat := Nat.pow 2 64 - 1

/-- The largest signed 32-bit integer. -/
def i32Max : Nat := Nat.pow 2 31 - 1

/-- Whether `10 · s + d` passes `limit`, for a digit `d`. -/
def passes (limit s d : Nat) : Bool := s ≥ limit / 10 && (s > limit / 10 || d > limit % 10)

/-- The significand of the integer digits, and how many digits it could not take: from
the first one that would pass `u64Max` on. -/
def wholeSignificand (ds : List Nat) : Nat × Nat :=
  ds.foldl (fun (s, extra) d =>
    if extra > 0 || passes u64Max s d then (s, extra + 1) else (s * 10 + d, 0)) (0, 0)

/-- The significand `s` extended by fraction digits, and how many it took: it stops at
the first one that would pass `u64Max`. -/
def fractionSignificand : List Nat → Nat → Nat → Nat × Nat
  | [], s, k => (s, k)
  | d :: ds, s, k => if passes u64Max s d then (s, k) else fractionSignificand ds (s * 10 + d) (k + 1)

/-- The value of exponent digits, none when it passes `i32Max`. -/
def exponentValue? (ds : List Nat) : Option Nat :=
  ds.foldlM (fun v d => if passes i32Max v d then none else some (v * 10 + d)) 0

/-- An exponent held to the signed 32-bit range. -/
def clampExponent (e : Int) : Int := max (-(Nat.pow 2 31 : Int)) (min e i32Max)

/-- `f · 10 ^ e` the way the reader scales: one rounded product or quotient by the float
nearest to a power of ten, after as many divisions by the float nearest to `10 ^ 308` as
bring the exponent into reach; none past the largest float. -/
def scaleByPow10 (f : Binary64) (e : Int) : Option Binary64 :=
  if e.natAbs ≤ 308 then
    if 0 ≤ e then
      let g := f.mul (Binary64.pow10 e.toNat)
      if g.isInfinite then none else some g
    else some (f.div (Binary64.pow10 e.natAbs))
  else if f.isZero then some f
  else if 0 ≤ e then none
  else scaleByPow10 (f.div (Binary64.pow10 308)) (e + 308)
termination_by e.natAbs
decreasing_by omega

/-- The number a numeral reads as, none when it is out of range. -/
def ofNumeral (n : Numeral) : Option Number :=
  let (whole, extra) := wholeSignificand n.whole
  let sign (x : Binary64) : Number := .float (if n.negative then x.neg else x)
  match n.fraction, n.exponent, extra with
  | none, none, 0 =>
    if !n.negative then some (.nat whole.toUInt64)
    else if whole == 0 || whole > Nat.pow 2 63 then some (sign (Binary64.ofNat whole))
    else some (.negative (Int64.ofInt (-(whole : Int))))
  | _, _, _ =>
    let (s, taken) := match n.fraction with
      | some ds => fractionSignificand ds whole 0
      | none => (whole, 0)
    let start : Int := (extra : Int) - taken
    match n.exponent with
    | none => (scaleByPow10 (Binary64.ofNat s) start).map sign
    | some (up, ds) =>
      match exponentValue? ds with
      | none => if s != 0 && up then none else some (sign ⟨0⟩)
      | some v =>
        let e := clampExponent (if up then start + v else start - v)
        (scaleByPow10 (Binary64.ofNat s) e).map sign

end Number

end TagStore.Json
