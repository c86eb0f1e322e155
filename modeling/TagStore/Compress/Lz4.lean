import TagStore.Binary.Bytes
/-!
# Compress.Lz4

LZ4 blocks. A block is a run of sequences, each a token byte, literal bytes and (except
in the last) a back-reference: two bytes of offset and a length. A length nibble of 15
continues in following bytes, each adding its value, until a byte below 255.

Expanding is bounded by a capacity and follows the reference decoder's two loops, which
accept more than the format's own limits:
- a fast loop, used while at least 64 bytes of room are left: short literals need 17
  input bytes left, long ones must end 32 bytes before both ends, and a match must end
  64 bytes before the capacity, or the step goes over to the careful loop;
- a careful loop, whose shortcut takes a sequence with short literals whole while 16
  input bytes and 32 bytes of room are left, and the match too when it is short, at
  least 8 back and inside the output; otherwise literals that come within 12 bytes of
  the capacity or within 8 bytes of the end of the input must be the last sequence,
  which ends the input exactly, and a match must end at least 5 bytes before the
  capacity.
A back-reference must not reach before the start of the output; an offset of 0 gives
zeros. A continued length must leave 15 input bytes after a literal length, and 4 after a
match length. An empty input, or a capacity of 0 with anything but a single zero byte,
is refused.

Packing writes one literal sequence, which every reader expands to the input.
-/

namespace TagStore.Lz4

open Binary

/-- A length continued in bytes from `pos`: each adds its value, until one below 255;
the position after each byte may not pass `limit`. Gives the added length and the
position after it. -/
def continued (src : ByteArray) (limit : Int) : Nat → Nat → Nat → Option (Nat × Nat)
  | 0, _, _ => none
  | fuel + 1, pos, acc =>
    match src[pos]? with
    | none => none
    | some b =>
      if ((pos + 1 : Nat) : Int) > limit then none
      else if b == 255 then continued src limit fuel (pos + 1) (acc + 255)
      else some (acc + b.toNat, pos + 1)

/-- A continued length from `pos`, within `limit`; with `first`, `pos` itself must stand
before the limit. -/
def extraLength (src : ByteArray) (limit : Int) (first : Bool) (pos : Nat) :
    Except String (Nat × Nat) :=
  if first && (pos : Int) ≥ limit then .error "length past the end"
  else
    match continued src limit (src.size + 1) pos 0 with
    | some r => .ok r
    | none => .error "length past the end"

/-- Where the expander stands between its steps. -/
inductive Step where
  /-- At a token, in the fast loop or the careful one. -/
  | token (fast : Bool) (pos : Nat)
  /-- Literals of the careful loop: `length` bytes from `pos`, then the match of
  `token`. -/
  | literals (token pos length : Nat)
  /-- The length of a match `dist` back, from its nibble and the bytes from `pos`. -/
  | matchLength (pos dist nibble : Nat)
  /-- A match of `length` bytes `dist` back, copied by the careful loop. -/
  | matchCopy (pos dist length : Nat)

/-- What a step leads to: another step, or the whole output. -/
inductive Next where
  | go (step : Step) (out : ByteArray)
  | done (out : ByteArray)

/-- The match of a token in the fast loop, after literals that end at `ip`. -/
def fastMatch (src : ByteArray) (cap token ip : Nat) (out : ByteArray) : Except String Next := do
  let dist := readLE src ip 2
  let nibble := token % 16
  let (length, ip) ← if nibble == 15 then do
      let (extra, ip) ← extraLength src ((src.size : Int) - 4) false (ip + 2)
      pure (19 + extra, ip)
    else pure (nibble + 4, ip + 2)
  if ((out.size + length : Nat) : Int) ≥ (cap : Int) - 64 then
    return .go (.matchCopy ip dist length) out
  else if dist > out.size then throw "offset out of range"
  else return .go (.token true ip) (copyBack dist length out)

/-- One step of the expander. -/
def advance (src : ByteArray) (cap : Nat) : Step → ByteArray → Except String Next
  | .token fast pos, out => do
    let iend : Int := src.size
    if pos ≥ src.size then throw "unexpected end of block"
    let token := byteAt src pos
    let ip := pos + 1
    let lit := token / 16
    if fast then
      if lit == 15 then
        let (extra, ip) ← extraLength src (iend - 15) true ip
        let length := 15 + extra
        if ((out.size + length : Nat) : Int) > (cap : Int) - 32 || ((ip + length : Nat) : Int) > iend - 32 then
          return .go (.literals token ip length) out
        else fastMatch src cap token (ip + length) (out ++ src.extract ip (ip + length))
      else if (ip : Int) > iend - 17 then return .go (.literals token ip lit) out
      else fastMatch src cap token (ip + lit) (out ++ src.extract ip (ip + lit))
    else if lit != 15 && (ip : Int) < iend - 16 && (out.size : Int) ≤ (cap : Int) - 32 then
      let out := out ++ src.extract ip (ip + lit)
      let ip := ip + lit
      let nibble := token % 16
      let dist := readLE src ip 2
      if nibble != 15 && dist ≥ 8 && dist ≤ out.size then
        return .go (.token false (ip + 2)) (copyBack dist (nibble + 4) out)
      else return .go (.matchLength (ip + 2) dist nibble) out
    else if lit == 15 then
      let (extra, ip) ← extraLength src (iend - 15) true ip
      return .go (.literals token ip (15 + extra)) out
    else return .go (.literals token ip lit) out
  | .literals token ip length, out =>
    let iend : Int := src.size
    let stop := out.size + length
    if (stop : Int) > (cap : Int) - 12 || ((ip + length : Nat) : Int) > iend - 8 then
      if ip + length != src.size || stop > cap then .error "malformed last sequence"
      else .ok (.done (out ++ src.extract ip (ip + length)))
    else
      let out := out ++ src.extract ip (ip + length)
      let ip := ip + length
      .ok (.go (.matchLength (ip + 2) (readLE src ip 2) (token % 16)) out)
  | .matchLength ip dist nibble, out =>
    if nibble == 15 then do
      let (extra, ip) ← extraLength src ((src.size : Int) - 4) false ip
      return .go (.matchCopy ip dist (19 + extra)) out
    else .ok (.go (.matchCopy ip dist (nibble + 4)) out)
  | .matchCopy ip dist length, out =>
    if dist > out.size then .error "offset out of range"
    else if out.size + length + 5 > cap then .error "match too close to the end"
    else .ok (.go (.token false ip) (copyBack dist length out))

/-- Runs steps until the last sequence, at most `fuel` of them. -/
def run (src : ByteArray) (cap : Nat) : Nat → Step → ByteArray → Except String ByteArray
  | 0, _, _ => .error "block too long"
  | fuel + 1, step, out =>
    match advance src cap step out with
    | .error e => .error e
    | .ok (.done out) => .ok out
    | .ok (.go step out) => run src cap fuel step out

/-- Expands a block into at most `cap` bytes. Every token takes an input byte and is
followed by at most three other steps, which bounds the steps. -/
def expand (src : ByteArray) (cap : Nat) : Except String ByteArray :=
  if cap == 0 then
    if src.size == 1 && byteAt src 0 == 0 then .ok ByteArray.empty else .error "no room"
  else if src.size == 0 then .error "empty block"
  else run src cap (4 * src.size + 8) (.token (cap ≥ 64) 0) ByteArray.empty

/-- The bytes of a length continued past a nibble of 15. -/
def lengthBytes (n : Nat) : List UInt8 :=
  List.replicate (n / 255) 255 ++ [(n % 255).toUInt8]

/-- A block of one literal sequence. -/
def pack (data : ByteArray) : ByteArray :=
  let n := data.size
  let head : List UInt8 :=
    if n < 15 then [(n * 16).toUInt8] else 0xF0 :: lengthBytes (n - 15)
  ofList head ++ data

end TagStore.Lz4
