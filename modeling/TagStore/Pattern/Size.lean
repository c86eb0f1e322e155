import TagStore.Pattern.Parse
/-!
# Pattern.Size

A pattern is refused when its compiled form is too big. The compiled form is a Thompson
automaton over the bytes of UTF-8 text, built twice: forwards, with a pair of states around
every capturing group and around the whole pattern, and backwards for reverse searches,
without them. Every state takes 32 bytes, every byte-range transition of a state 8 more
and every alternative of a split 4 more; an automaton that takes more than 10 MiB in
either direction is refused.

The pattern is first simplified as it is compiled (`Shape`): adjacent literals run
together, empty parts of a sequence vanish, alternatives that are all single characters
or all classes become one class, alternatives that share leading parts have them taken
out in front, a class of one character is a literal, and repetitions of something empty
are cut down to at most one round.

Each part is then built as follows.

- A literal is a chain of one state per byte, and a look is one state.
- A class of ASCII characters is one state with a transition per range, and a state to
  leave it by.
- A wider class is compiled from the UTF-8 byte sequences of its ranges. Forwards, a
  sequence is a path of ranges, paths share their common starts, and identical states are
  shared through a cache of 10000 slots indexed by a hash of their transitions. Backwards,
  every sequence is a chain of one state per byte range from a common end, and chains share
  their common starts through a cache of 1000 slots.
- Sequences are chained; alternatives hang off a split that leads to each of them, and
  alternatives that are all literals are built as a trie of their bytes.
- A repetition is built from copies of its part, with splits for the optional rounds.
- Searching anywhere in a text adds a lazy loop over any byte in front, unless every
  match is anchored at the start (the end, backwards).
-/

namespace TagStore.Pattern

/-! ## Shapes -/

/-- A pattern simplified the way it is compiled. -/
inductive Shape where
  /-- The empty pattern. -/
  | empty
  /-- A literal text, never empty. -/
  | text (cs : List Char)
  /-- A class of code points, as sorted disjoint ranges, no two of them adjacent; with no
  range at all, a class that never matches. -/
  | ranges (rs : List (Nat × Nat))
  /-- A look. -/
  | look (l : Look)
  /-- At least `min` and at most `max` (none: any number of) rounds. -/
  | rep (x : Shape) (min : Nat) (max : Option Nat)
  /-- A capturing group. -/
  | capture (x : Shape)
  /-- Parts one after the other. -/
  | concat (xs : List Shape)
  /-- Alternatives. -/
  | alt (xs : List Shape)
  deriving BEq, Repr, Inhabited

/-- The number of bytes of the UTF-8 form of a code point. -/
def utf8Width (n : Nat) : Nat :=
  if n < 0x80 then 1 else if n < 0x800 then 2 else if n < 0x10000 then 3 else 4

/-- The bytes of the UTF-8 form of a code point. -/
def utf8Bytes (n : Nat) : List Nat :=
  if n < 0x80 then [n]
  else if n < 0x800 then [0xC0 + n / 64, 0x80 + n % 64]
  else if n < 0x10000 then [0xE0 + n / 4096, 0x80 + n / 64 % 64, 0x80 + n % 64]
  else [0xF0 + n / 262144, 0x80 + n / 4096 % 64, 0x80 + n / 64 % 64, 0x80 + n % 64]

mutual
/-- The fewest bytes a match of the shape takes; none when it cannot match. -/
def Shape.minLen : Shape → Option Nat
  | .empty => some 0
  | .text cs => some (cs.map Char.utf8Size).sum
  | .ranges [] => none
  | .ranges ((lo, _) :: _) => some (utf8Width lo)
  | .look _ => some 0
  | .rep x min _ => x.minLen.map (· * min)
  | .capture x => x.minLen
  | .concat xs => Shape.minLenSum xs
  | .alt xs => Shape.minLenLeast xs

/-- The fewest bytes of parts one after the other. -/
def Shape.minLenSum : List Shape → Option Nat
  | [] => some 0
  | x :: xs => do
    let a ← x.minLen
    let b ← Shape.minLenSum xs
    pure (a + b)

/-- The fewest bytes of any of several alternatives. -/
def Shape.minLenLeast : List Shape → Option Nat
  | [] => none
  | [x] => x.minLen
  | x :: xs => do
    let a ← x.minLen
    let b ← Shape.minLenLeast xs
    pure (min a b)
end

mutual
/-- The most bytes a match of the shape takes; none when there is no bound. -/
def Shape.maxLen : Shape → Option Nat
  | .empty => some 0
  | .text cs => some (cs.map Char.utf8Size).sum
  | .ranges [] => none
  | .ranges rs => rs.getLast?.map fun (_, hi) => utf8Width hi
  | .look _ => some 0
  | .rep x _ max => do
    let m ← max
    let k ← x.maxLen
    pure (k * m)
  | .capture x => x.maxLen
  | .concat xs => Shape.maxLenSum xs
  | .alt xs => Shape.maxLenMost xs

/-- The most bytes of parts one after the other. -/
def Shape.maxLenSum : List Shape → Option Nat
  | [] => some 0
  | x :: xs => do
    let a ← x.maxLen
    let b ← Shape.maxLenSum xs
    pure (a + b)

/-- The most bytes of any of several alternatives. -/
def Shape.maxLenMost : List Shape → Option Nat
  | [] => none
  | [x] => x.maxLen
  | x :: xs => do
    let a ← x.maxLen
    let b ← Shape.maxLenMost xs
    pure (max a b)
end

mutual
/-- Whether every match of the shape starts with a look for the start of the text. -/
def Shape.startsAnchored : Shape → Bool
  | .look l => l == .startText
  | .rep x min _ => min > 0 && x.startsAnchored
  | .capture x => x.startsAnchored
  | .concat xs => Shape.leadAnchored xs
  | .alt xs => Shape.allStartAnchored xs
  | _ => false

/-- Whether parts one after the other start anchored: one of them is, and those before it
take no bytes. -/
def Shape.leadAnchored : List Shape → Bool
  | [] => false
  | x :: xs => x.startsAnchored || (x.maxLen == some 0 && Shape.leadAnchored xs)

/-- Whether all of several alternatives start anchored. -/
def Shape.allStartAnchored : List Shape → Bool
  | [] => false
  | [x] => x.startsAnchored
  | x :: xs => x.startsAnchored && Shape.allStartAnchored xs
end

mutual
/-- Whether every match of the shape ends with a look for the end of the text. -/
def Shape.endsAnchored : Shape → Bool
  | .look l => l == .endText
  | .rep x min _ => min > 0 && x.endsAnchored
  | .capture x => x.endsAnchored
  | .concat xs => Shape.trailAnchored xs
  | .alt xs => Shape.allEndAnchored xs
  | _ => false

/-- Whether parts one after the other end anchored: one of them is, and those after it
take no bytes. -/
def Shape.trailAnchored : List Shape → Bool
  | [] => false
  | x :: xs => Shape.trailAnchored xs || (x.endsAnchored && xs.all fun y => y.maxLen == some 0)

/-- Whether all of several alternatives end anchored. -/
def Shape.allEndAnchored : List Shape → Bool
  | [] => false
  | [x] => x.endsAnchored
  | x :: xs => x.endsAnchored && Shape.allEndAnchored xs
end

/-! ## Simplifying -/

/-- Merges sorted disjoint ranges with ranges that touch or overlap them. -/
def mergeRanges (rs : List (Nat × Nat)) : List (Nat × Nat) :=
  let sorted := rs.mergeSort fun a b => a.1 ≤ b.1
  (sorted.foldl (fun (acc : List (Nat × Nat)) (lo, hi) =>
    match acc with
    | (plo, phi) :: rest => if lo ≤ phi + 1 then (plo, max phi hi) :: rest else (lo, hi) :: acc
    | [] => [(lo, hi)]) []).reverse

/-- The shape of a class: a single character is a literal. -/
def Shape.ofRanges (rs : List (Nat × Nat)) : Shape :=
  match rs with
  | [(lo, hi)] => if lo == hi then .text [Char.ofNat lo] else .ranges rs
  | _ => .ranges rs

/-- Parts one after the other, with nested sequences opened, adjacent literals run
together and empty parts dropped. -/
def Shape.concatOf (xs : List Shape) : Shape :=
  let flat := xs.flatMap fun x =>
    match x with
    | .concat ys => ys
    | .empty => []
    | x => [x]
  let merged := flat.foldr (fun x acc =>
    match x, acc with
    | .text a, .text b :: rest => .text (a ++ b) :: rest
    | x, acc => x :: acc) []
  match merged with
  | [] => .empty
  | [x] => x
  | ys => .concat ys

/-- The characters of alternatives that are all single characters. -/
def singleChars : List Shape → Option (List Nat)
  | [] => some []
  | .text [c] :: xs => (singleChars xs).map (c.toNat :: ·)
  | _ => none

/-- The ranges of alternatives that are all classes. -/
def classRanges : List Shape → Option (List (Nat × Nat))
  | [] => some []
  | .ranges rs :: xs => (classRanges xs).map (rs ++ ·)
  | _ => none

/-- The parts of alternatives that are all sequences. -/
def sequenceParts : List Shape → Option (List (List Shape))
  | [] => some []
  | .concat ys :: xs => (sequenceParts xs).map (ys :: ·)
  | _ => none

/-- How many leading parts two sequences share. -/
def sharedLength : List Shape → List Shape → Nat
  | x :: xs, y :: ys => if x == y then sharedLength xs ys + 1 else 0
  | _, _ => 0

/-- Alternatives, with nested alternatives opened; alternatives that are all single
characters or all classes become one class, and sequences that share leading parts have
them taken out in front, as often as `fuel` allows. -/
def Shape.altOf : Nat → List Shape → Shape
  | fuel, xs =>
    let flat := xs.flatMap fun x =>
      match x with
      | .alt ys => ys
      | x => [x]
    match flat with
    | [] => .ranges []
    | [x] => x
    | first :: _ =>
      match singleChars flat with
      | some cs => Shape.ofRanges (mergeRanges (cs.map fun c => (c, c)))
      | none =>
        match classRanges flat with
        | some rs => Shape.ofRanges (mergeRanges rs)
        | none =>
          match fuel, sequenceParts flat, first with
          | fuel + 1, some parts, .concat ys =>
            let shared := parts.foldl (fun n p => min n (sharedLength ys p)) ys.length
            if shared == 0 then .alt flat
            else
              Shape.concatOf (ys.take shared ++
                [Shape.altOf fuel (parts.map fun p => Shape.concatOf (p.drop shared))])
          | _, _, _ => .alt flat

/-- A repetition: of something that takes no bytes, at most one round; none at all is the
empty pattern and exactly one is the part itself. -/
def Shape.repOf (x : Shape) (min : Nat) (max : Option Nat) : Shape :=
  let (min, max) :=
    if x.maxLen == some 0 then (Nat.min min 1, some ((max.map (Nat.min · 1)).getD 1))
    else (min, max)
  if min == 0 && max == some 0 then .empty
  else if min == 1 && max == some 1 then x
  else .rep x min max

/-! ## The ranges of a class -/

/-- The code points where the blank characters start and stop. -/
def blankCuts : List Nat :=
  [9, 14, 32, 33, 0x85, 0x86, 0xA0, 0xA1, 0x1680, 0x1681, 0x2000, 0x200B, 0x2028, 0x202A,
   0x202F, 0x2030, 0x205F, 0x2060, 0x3000, 0x3001]

/-- Every ASCII code point and the first one past them. -/
def asciiCuts : List Nat := List.range 129

/-- The code points where the view of Unicode 16.0 differs from the shared tables: the
bounds of the characters that 17.0 added, and of the letter it recased. -/
def laterCuts : List Nat := Text.laterBounds.toList ++ [recasedLetter, recasedLetter + 1]

/-- The code points where the general category may change. -/
def categoryCuts : List Nat := Text.categoryTable.starts.toList ++ laterCuts

/-- The code points where the tables of a named property change. -/
def propertyCuts (name : String) : List Nat :=
  match name with
  | "Alphabetic" => Text.alphabeticBounds.toList ++ laterCuts
  | "White_Space" => blankCuts
  | "Assigned" => categoryCuts
  | "ASCII" => [128]
  | "Cased" => Text.casedBounds.toList ++ laterCuts
  | "Case_Ignorable" => Text.caseIgnorableBounds.toList ++ laterCuts
  | _ => ((Text.propertyBounds? name).getD #[]).toList

/-- The characters that have other cases, and the code points just after them. -/
def caseCuts : List Nat := Text.caseMemberChars.toList.flatMap fun m => [m, m + 1]

mutual
/-- Code points at which membership in a set may change: every range of the set starts at
one of them and ends just before one of them. -/
def CharSet.cuts : CharSet → List Nat
  | .range lo hi => [lo.toNat, hi.toNat + 1]
  | .digit ascii => if ascii then [48, 58] else categoryCuts
  | .word ascii =>
    if ascii then asciiCuts
    else Text.alphabeticBounds.toList ++ categoryCuts ++ [0x200C, 0x200E]
  | .space ascii => if ascii then [9, 14, 32, 33] else blankCuts
  | .categories _ => categoryCuts
  | .property name => propertyCuts name
  | .script _ => Text.scriptTable.starts.toList
  | .scriptExtension _ => Text.extensionTable.starts.toList ++ Text.scriptTable.starts.toList
  | .assignedBy _ => Text.ageTable.starts.toList
  | .breakClass .word _ => Text.wordClassTable.starts.toList ++ laterCuts
  | .breakClass .sentence _ => Text.sentenceClassTable.starts.toList
  | .breakClass .grapheme _ => Text.graphemeClassTable.starts.toList
  | .any => []
  | .union xs => CharSet.cutsAll xs
  | .inter a b => a.cuts ++ b.cuts
  | .diff a b => a.cuts ++ b.cuts
  | .symmDiff a b => a.cuts ++ b.cuts
  | .complement x => x.cuts
  | .caseClosure x => x.cuts ++ caseCuts
  | .asciiCaseClosure x => x.cuts ++ asciiCuts

/-- The cuts of several sets. -/
def CharSet.cutsAll : List CharSet → List Nat
  | [] => []
  | x :: xs => x.cuts ++ CharSet.cutsAll xs
end

/-- The ranges of a set: the runs of code points, surrogates left out, that it holds.
Membership is constant between consecutive cuts, so the set is read at each cut. -/
def CharSet.ranges (s : CharSet) : List (Nat × Nat) :=
  let points := ((0 :: 0xD800 :: 0xE000 :: 0x110000 :: s.cuts).filter (· ≤ 0x110000)).toArray.qsort
    (· < ·)
  let points := points.toList.foldr (fun p acc =>
    match acc with
    | q :: _ => if p == q then acc else p :: acc
    | [] => [p]) []
  let pieces := points.zip points.tail
  let runs := pieces.filter fun (a, _) => a != 0xD800 && s.contains (Char.ofNat a)
  (runs.foldl (fun (acc : List (Nat × Nat)) (a, b) =>
    match acc with
    | (lo, hi) :: rest => if hi + 1 == a then (lo, b - 1) :: rest else (a, b - 1) :: acc
    | [] => [(a, b - 1)]) []).reverse

mutual
/-- The shape of a pattern. -/
def Node.shape : Node → Shape
  | .empty => .empty
  | .literal c caseless =>
    if caseless then Shape.ofRanges (mergeRanges ((Text.caseVariants c).map fun d => (d.toNat, d.toNat)))
    else .text [c]
  | .set s => Shape.ofRanges s.ranges
  | .look l => .look l
  | .concat xs => Shape.concatOf (Node.shapes xs)
  | .alt xs =>
    let ys := Node.shapes xs
    Shape.altOf ((ys.map fun y => match y with | .concat zs => zs.length | _ => 1).foldl max 0) ys
  | .rep x min max => Shape.repOf x.shape min max
  | .capture x => .capture x.shape

/-- The shapes of several patterns. -/
def Node.shapes : List Node → List Shape
  | [] => []
  | x :: xs => x.shape :: Node.shapes xs
end

/-! ## UTF-8 sequences -/

/-- Splits a range of code points at the largest one of a UTF-8 width inside it, when
there is one. -/
def splitAtWidth (s e : Nat) : Option ((Nat × Nat) × (Nat × Nat)) :=
  match [0x7F, 0x7FF, 0xFFFF].find? fun m => s ≤ m && m < e with
  | some m => some ((s, m), (m + 1, e))
  | none => none

/-- Splits a range whose ends differ before their last `k` continuation bytes, so that
each piece covers whole blocks of those bytes. -/
def splitAtBlock (s e : Nat) : Option ((Nat × Nat) × (Nat × Nat)) :=
  let step (k : Nat) : Option ((Nat × Nat) × (Nat × Nat)) :=
    let size := Nat.pow 64 k
    if s / size == e / size then none
    else if s % size != 0 then some ((s, s - s % size + size - 1), (s - s % size + size, e))
    else if e % size != size - 1 then some ((s, e - e % size - 1), (e - e % size, e))
    else none
  (step 1).orElse fun _ => (step 2).orElse fun _ => step 3

/-- The UTF-8 sequences of a range of code points, in order: each a list of byte ranges,
one per byte, whose product is a piece of the range. -/
def utf8Sequences (lo hi : Nat) : List (List (Nat × Nat)) :=
  go 256 [(lo, hi)] []
where
  /-- Works off a stack of ranges; `fuel` bounds the steps. -/
  go : Nat → List (Nat × Nat) → List (List (Nat × Nat)) → List (List (Nat × Nat))
    | 0, _, acc => acc.reverse
    | _, [], acc => acc.reverse
    | fuel + 1, (s, e) :: stack, acc =>
      if s < 0xE000 && e > 0xD7FF then go fuel ((s, 0xD7FF) :: (0xE000, e) :: stack) acc
      else if e < s then go fuel stack acc
      else
        match splitAtWidth s e with
        | some (a, b) => go fuel (a :: b :: stack) acc
        | none =>
          if e ≤ 0x7F then go fuel stack ([(s, e)] :: acc)
          else
            match splitAtBlock s e with
            | some (a, b) => go fuel (a :: b :: stack) acc
            | none => go fuel stack ((utf8Bytes s).zip (utf8Bytes e) :: acc)

/-! ## Building -/

/-- The largest size of an automaton, in bytes. -/
def sizeLimit : Nat := 10 * 1024 * 1024

/-- The running totals of a build: how many states it has and how many bytes their
transitions and alternatives take. -/
structure Build where
  states : Nat
  heap : Nat

/-- The bytes a build takes. -/
def Build.usage (b : Build) : Nat := 32 * b.states + b.heap

/-- A step of a build, which fails once the build passes the limit. -/
abbrev Building := StateT Build Option

/-- Adds a state with `heap` bytes of transitions or alternatives; gives its number. -/
def addState (heap : Nat) : Building Nat := fun b =>
  let next : Build := ⟨b.states + 1, b.heap + heap⟩
  if next.usage > sizeLimit then none else some (b.states, next)

/-- Adds an alternative to a split. -/
def addAlternative : Building Unit := fun b =>
  let next : Build := ⟨b.states, b.heap + 4⟩
  if next.usage > sizeLimit then none else some ((), next)

/-- A built part: its first state, its last state, and whether the last state is a split,
which takes an alternative when the part is joined to what follows. -/
structure Fragment where
  start : Nat
  last : Nat
  split : Bool

/-- Joins a part to a state that follows it. -/
def Fragment.join (f : Fragment) : Building Unit :=
  if f.split then addAlternative else pure ()

/-- A part of one state that matches the empty text. -/
def emptyPart : Building Fragment := do
  let id ← addState 0
  pure ⟨id, id, false⟩

/-- A chain of `n` one-byte states, for `n > 0`. -/
def chainPart (n : Nat) : Building Fragment := do
  let first ← addState 0
  let last ← (List.range (n - 1)).foldlM (fun _ _ => addState 0) first
  pure ⟨first, last, false⟩

/-- A state with one transition per range, and the state to leave it by. -/
def sparsePart (ranges : Nat) : Building Fragment := do
  let last ← addState 0
  let start ← addState (8 * ranges)
  pure ⟨start, last, false⟩

/-! ### Classes forwards -/

/-- A transition of a class state: a byte range and the state it leads to. -/
structure Arrow where
  lo : Nat
  hi : Nat
  next : Nat
  deriving BEq

/-- One step of the FNV-1a hash. -/
def fnvStep (h v : UInt64) : UInt64 := (h ^^^ v) * 1099511628211

/-- The FNV-1a start value. -/
def fnvStart : UInt64 := 14695981039346656037

/-- The hash of the transitions of a state. -/
def hashArrows (arrows : Array Arrow) : UInt64 :=
  arrows.foldl (fun h a => fnvStep (fnvStep (fnvStep h a.lo.toUInt64) a.hi.toUInt64) a.next.toUInt64)
    fnvStart

/-- A state of a class not yet added: its finished transitions and the range of the one
still open. -/
structure OpenState where
  arrows : Array Arrow
  pending : Option (Nat × Nat)

/-- Closes the open transition of a state towards `next`. -/
def OpenState.close (o : OpenState) (next : Nat) : OpenState :=
  match o.pending with
  | some (lo, hi) => ⟨o.arrows.push ⟨lo, hi, next⟩, none⟩
  | none => o

/-- The compiler of a class forwards: the state every sequence ends in, the open states
along the last sequence, root first, and the cache of added states. -/
structure ClassCompiler where
  target : Nat
  opened : Array OpenState
  cache : Array (Option (Array Arrow × Nat))

/-- The number of slots of the forward cache. -/
def forwardSlots : Nat := 10000

/-- Adds a state with the given transitions, unless the cache holds one. -/
def ClassCompiler.intern (cc : ClassCompiler) (arrows : Array Arrow) :
    Building (Nat × ClassCompiler) := do
  let slot := (hashArrows arrows % forwardSlots.toUInt64).toNat
  match cc.cache[slot]? with
  | some (some (key, id)) =>
    if key == arrows then return (id, cc)
    else
      let id ← addState (8 * arrows.size)
      pure (id, { cc with cache := cc.cache.set! slot (some (arrows, id)) })
  | _ =>
    let id ← addState (8 * arrows.size)
    pure (id, { cc with cache := cc.cache.set! slot (some (arrows, id)) })

/-- Closes the open transition of the deepest open state towards `next`. -/
def ClassCompiler.closeTop (cc : ClassCompiler) (next : Nat) : ClassCompiler :=
  match cc.opened.back? with
  | some o => { cc with opened := cc.opened.pop.push (o.close next) }
  | none => cc

/-- Adds the open states above position `keep`, deepest first, each towards the one
added before it, and closes the transition of the state at `keep`. -/
def ClassCompiler.settle (cc : ClassCompiler) (keep : Nat) : Building ClassCompiler :=
  go cc.opened.size cc cc.target
where
  /-- Pops states while more than `keep + 1` are open. -/
  go : Nat → ClassCompiler → Nat → Building ClassCompiler
    | 0, cc, next => pure (cc.closeTop next)
    | fuel + 1, cc, next =>
      if keep + 1 < cc.opened.size then do
        let top := (cc.opened.back?.getD ⟨#[], none⟩).close next
        let (id, cc) ← { cc with opened := cc.opened.pop }.intern top.arrows
        go fuel cc id
      else pure (cc.closeTop next)

/-- Adds a sequence: it shares the open transitions it agrees with, the rest of the open
states are added, and its remaining ranges open new states. -/
def ClassCompiler.addSequence (cc : ClassCompiler) (seq : List (Nat × Nat)) :
    Building ClassCompiler := do
  let shared := ((seq.zip cc.opened.toList).takeWhile fun (r, o) => o.pending == some r).length
  let cc ← cc.settle shared
  match seq.drop shared with
  | [] => pure cc
  | r :: rest =>
    let opened := match cc.opened.back? with
      | some o => cc.opened.pop.push { o with pending := some r }
      | none => cc.opened
    pure { cc with opened := rest.foldl (fun acc r => acc.push ⟨#[], some r⟩) opened }

/-- A class of ranges built forwards. -/
def forwardClass (rs : List (Nat × Nat)) : Building Fragment := do
  let target ← addState 0
  let cc : ClassCompiler := ⟨target, #[⟨#[], none⟩], Array.replicate forwardSlots none⟩
  let seqs := rs.flatMap fun (lo, hi) => utf8Sequences lo hi
  let cc ← seqs.foldlM (fun cc seq => cc.addSequence seq) cc
  let cc ← cc.settle 0
  let root := ((cc.opened[0]?).map OpenState.arrows).getD #[]
  let (start, _) ← { cc with opened := #[] }.intern root
  pure ⟨start, target, false⟩

/-! ### Classes backwards -/

/-- The number of slots of the backward cache. -/
def backwardSlots : Nat := 1000

/-- A class of ranges built backwards: each sequence is a chain of one state per byte
range ending in a common state, chains share their starts through the cache, and a split
leads to each chain. -/
def backwardClass (rs : List (Nat × Nat)) : Building Fragment := do
  let split ← addState 0
  let last ← addState 0
  let seqs := rs.flatMap fun (lo, hi) => utf8Sequences lo hi
  let empty : Array (Option ((Nat × Nat × Nat) × Nat)) := Array.replicate backwardSlots none
  let _ ← seqs.foldlM (fun cache seq => do
    let (_, cache) ← seq.foldlM (fun (st : Nat × Array (Option ((Nat × Nat × Nat) × Nat))) r => do
      let (from_, cache) := st
      let key := (from_, r.1, r.2)
      let h := fnvStep (fnvStep (fnvStep fnvStart from_.toUInt64) r.1.toUInt64) r.2.toUInt64
      let slot := (h % backwardSlots.toUInt64).toNat
      match cache[slot]? with
      | some (some (k, id)) =>
        if k == key then pure (id, cache)
        else do
          let id ← addState 0
          pure (id, cache.set! slot (some (key, id)))
      | _ => do
        let id ← addState 0
        pure (id, cache.set! slot (some (key, id)))) (last, cache)
    addAlternative
    pure cache) empty
  pure ⟨split, last, false⟩

/-- A class of ranges: one state with a transition per range when they are all ASCII. -/
def classPart (backward : Bool) (rs : List (Nat × Nat)) : Building Fragment :=
  if rs.all fun (_, hi) => hi ≤ 0x7F then sparsePart rs.length
  else if backward then backwardClass rs
  else forwardClass rs

/-! ### Tries of literals -/

/-- A state of a trie of literals: its transitions by byte, and the stretches of them that
come before each match the state has; the transitions after the last match form the open
stretch. -/
structure TrieState where
  arrows : Array (Nat × Nat)
  stretches : Array (Nat × Nat)

/-- Where the open stretch of a trie state starts. -/
def TrieState.openStart (t : TrieState) : Nat := (t.stretches.back?.map (·.2)).getD 0

/-- The stretches of a trie state, the open one last. -/
def TrieState.allStretches (t : TrieState) : List (List (Nat × Nat)) :=
  t.stretches.toList.map (fun (a, b) => (t.arrows.extract a b).toList) ++
    [(t.arrows.extract t.openStart t.arrows.size).toList]

/-- Adds a byte after state `s`, sharing a transition of the open stretch. -/
def trieStep (states : Array TrieState) (s b : Nat) : Array TrieState × Nat :=
  let st := states[s]?.getD ⟨#[], #[]⟩
  let start := st.openStart
  let openArrows := (st.arrows.extract start st.arrows.size).toList
  match openArrows.find? (·.1 == b) with
  | some (_, next) => (states, next)
  | none =>
    let pos := start + (openArrows.filter (·.1 < b)).length
    let next := states.size
    let st := { st with arrows := st.arrows.insertIdxIfInBounds pos (b, next) }
    ((states.set! s st).push ⟨#[], #[]⟩, next)

/-- Marks a trie state as a match. -/
def trieMatch (states : Array TrieState) (s : Nat) : Array TrieState :=
  let st := states[s]?.getD ⟨#[], #[]⟩
  if st.arrows.isEmpty && !st.stretches.isEmpty then states
  else states.set! s { st with stretches := st.stretches.push (st.openStart, st.arrows.size) }

/-- The trie of literals, in order of preference. -/
def trieOf (literals : List (List Nat)) : Array TrieState :=
  literals.foldl (fun states bytes =>
    let (states, last) := bytes.foldl (fun (states, s) b => trieStep states s b) (states, 0)
    trieMatch states last) #[⟨#[], #[]⟩]

/-- Builds the trie state `s` and what hangs below it: each stretch becomes one state
(a range for a single transition), a match between stretches leads to `last`, and a split
leads to them in order. -/
def trieState (states : Array TrieState) (last : Nat) : Nat → Nat → Building Nat
  | 0, _ => addState 0
  | fuel + 1, s => do
    let st := states[s]?.getD ⟨#[], #[]⟩
    let (alternatives, _) ← st.allStretches.foldlM (fun (acc : Nat × Bool) stretch => do
      let (count, later) := acc
      let count := if later then count + 1 else count
      let arrows ← stretch.foldlM (fun (n : Nat) (_, next) => do
        let child := states[next]?.getD ⟨#[], #[]⟩
        if child.arrows.isEmpty then pure (n + 1)
        else do
          let _ ← trieState states last fuel next
          pure (n + 1)) 0
      if arrows == 0 then pure (count, true)
      else do
        let _ ← addState (if arrows == 1 then 0 else 8 * arrows)
        pure (count + 1, true)) (0, false)
    addState (4 * alternatives)

/-- Alternatives that are all literals, built as a trie of their bytes (reversed
backwards). -/
def triePart (backward : Bool) (literals : List (List Char)) : Building Fragment := do
  let last ← addState 0
  let bytes := literals.map fun cs =>
    let bs := cs.flatMap fun c => utf8Bytes c.toNat
    if backward then bs.reverse else bs
  let states := trieOf bytes
  let start ← trieState states last states.size 0
  pure ⟨start, last, false⟩

/-! ### Putting parts together -/

/-- Parts one after the other, last first backwards. -/
def chainParts (backward : Bool) (parts : List (Building Fragment)) : Building Fragment :=
  match (if backward then parts.reverse else parts) with
  | [] => emptyPart
  | p :: rest => do
    let first ← p
    rest.foldlM (fun (acc : Fragment) q => do
      let f ← q
      acc.join
      pure ⟨acc.start, f.last, f.split⟩) first

/-- Alternatives: a split leads to each, and each leads to a common end. -/
def choiceParts (parts : List (Building Fragment)) : Building Fragment :=
  match parts with
  | [] => do
    let id ← addState 0
    pure ⟨id, id, false⟩
  | [p] => p
  | p :: q :: rest => do
    let first ← p
    let second ← q
    let split ← addState 0
    let last ← addState 0
    addAlternative
    first.join
    addAlternative
    second.join
    rest.foldlM (fun _ r => do
      let f ← r
      addAlternative
      f.join) ()
    pure ⟨split, last, false⟩

/-- `n` copies of a part one after the other; stops as soon as the build is too big. -/
def copiesOf (part : Building Fragment) : Nat → Building Fragment
  | 0 => emptyPart
  | n + 1 => do
    let first ← part
    go n first
where
  /-- Adds `k` more copies after `acc`. -/
  go : Nat → Fragment → Building Fragment
    | 0, acc => pure acc
    | k + 1, acc => do
      let f ← part
      acc.join
      go k ⟨acc.start, f.last, f.split⟩

/-- A part repeated between `min` and `max` times (none: any number of times); `minLen`
is the fewest bytes the part takes. -/
def repeatPart (part : Building Fragment) (minLen : Option Nat) (min : Nat) (max : Option Nat) :
    Building Fragment :=
  match min, max with
  | 0, some 1 => do
    let split ← addState 0
    let f ← part
    let last ← addState 0
    addAlternative
    addAlternative
    f.join
    pure ⟨split, last, false⟩
  | 0, none =>
    if minLen.getD 0 > 0 then do
      let split ← addState 0
      let f ← part
      addAlternative
      f.join
      pure ⟨split, split, true⟩
    else do
      let f ← part
      let _ ← addState 0
      f.join
      addAlternative
      let start ← addState 0
      let last ← addState 0
      addAlternative
      addAlternative
      addAlternative
      pure ⟨start, last, false⟩
  | 1, none => do
    let f ← part
    let split ← addState 0
    f.join
    addAlternative
    pure ⟨f.start, split, true⟩
  | n + 2, none => do
    let prefix_ ← copiesOf part (n + 1)
    let f ← part
    let split ← addState 0
    prefix_.join
    f.join
    addAlternative
    pure ⟨prefix_.start, split, true⟩
  | min, some max =>
    if min == max then copiesOf part min
    else do
      let prefix_ ← copiesOf part min
      let last ← addState 0
      let prev ← optional (max - min) prefix_
      prev.join
      pure ⟨prefix_.start, last, false⟩
where
  /-- Adds `k` optional rounds after `prev`, each behind a split that may skip to the
  end. -/
  optional : Nat → Fragment → Building Fragment
    | 0, prev => pure prev
    | k + 1, prev => do
      let _ ← addState 0
      let f ← part
      prev.join
      addAlternative
      addAlternative
      optional k f

/-- The literals of alternatives that are all literals, when there are two or more. -/
def allTexts : List Shape → Option (List (List Char))
  | [] => some []
  | .text cs :: xs => (allTexts xs).map (cs :: ·)
  | _ => none

mutual
/-- Builds a shape, forwards or backwards. -/
def Shape.build (backward : Bool) : Shape → Building Fragment
  | .empty => emptyPart
  | .text cs => chainPart (cs.map Char.utf8Size).sum
  | .ranges rs => classPart backward rs
  | .look _ => emptyPart
  | .rep x min max => repeatPart (x.build backward) x.minLen min max
  | .capture x =>
    if backward then x.build backward
    else do
      let open_ ← addState 0
      let f ← x.build backward
      let close ← addState 0
      f.join
      pure ⟨open_, close, false⟩
  | .concat xs => chainParts backward (Shape.builders backward xs)
  | .alt xs =>
    match allTexts xs with
    | some texts@(_ :: _ :: _) => triePart backward texts
    | _ => choiceParts (Shape.builders backward xs)

/-- The builds of several shapes, not yet run. -/
def Shape.builders (backward : Bool) : List Shape → List (Building Fragment)
  | [] => []
  | x :: xs => x.build backward :: Shape.builders backward xs
end

/-- Builds a whole pattern: a lazy loop over any byte in front unless it is anchored, then
the pattern, between the states of its implicit group forwards, and a match state. -/
def Shape.buildWhole (backward : Bool) (x : Shape) : Building Unit := do
  let anchored := if backward then x.endsAnchored else x.startsAnchored
  let front ← if anchored then emptyPart else do
    let split ← addState 0
    let _ ← sparsePart 1
    addAlternative
    pure ⟨split, split, true⟩
  let body ← (if backward then x else .capture x).build backward
  let _ ← addState 0
  body.join
  front.join

/-- Whether the automaton of a shape stays within the limit in the given direction. -/
def Shape.fits (backward : Bool) (x : Shape) : Bool :=
  ((x.buildWhole backward).run ⟨0, 0⟩).isSome

/-- Whether a pattern's automata stay within the limit, forwards and then backwards. -/
def Node.fitsSize (n : Node) : Bool :=
  let x := n.shape
  x.fits false && x.fits true

/-- Reads a pattern and checks that it compiles within the size limit. -/
def Node.compile (text : String) : Except PatternError Node := do
  let n ← Node.parse text
  if n.fitsSize then pure n else .error .tooBig

end TagStore.Pattern
