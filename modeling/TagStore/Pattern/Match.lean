import TagStore.Pattern.Classes
/-!
# Pattern.Match

Whether a pattern occurs in a text. A pattern is read as a map from sets of positions to
sets of positions: `Node.advance t n s` holds every position `j` such that the text from
some `i ∈ s` to `j` is matched by `n`, with looks tested against the characters around a
position. A pattern occurs in the text when it reaches some position from the set of all
positions.

Repetition takes its compulsory rounds first and then optional rounds until a round
reaches nothing new. Since advancing distributes over unions of starts, a round that
adds no position leaves every later round inside what is already reached, so stopping
there keeps the answer exact.
-/

namespace TagStore.Pattern

/-- The characters of a text, by position. -/
structure Subject where
  chars : Array Char

/-- A set of positions `0 … n` of a text of `n` characters, as one flag per position. -/
abbrev Reach := Array Bool

namespace Subject

/-- The text of a string. -/
def ofString (s : String) : Subject := ⟨s.toList.toArray⟩

/-- The number of positions, one more than the number of characters. -/
def width (t : Subject) : Nat := t.chars.size + 1

/-- The character before a position, if any. -/
def before (t : Subject) (i : Nat) : Option Char :=
  match i with
  | 0 => none
  | k + 1 => t.chars[k]?

/-- The character after a position, if any. -/
def after (t : Subject) (i : Nat) : Option Char := t.chars[i]?

/-- Every position. -/
def everywhere (t : Subject) : Reach := Array.replicate t.width true

/-- The positions one character past a reached position whose character passes a test. -/
def step (t : Subject) (ok : Char → Bool) (s : Reach) : Reach :=
  Array.ofFn (n := t.width) fun j =>
    match j.val with
    | 0 => false
    | k + 1 => s[k]?.getD false && ((t.chars[k]?.map ok).getD false)

/-- The reached positions at which a look holds. -/
def keep (t : Subject) (l : Look) (s : Reach) : Reach :=
  Array.ofFn (n := t.width) fun j =>
    s[j.val]?.getD false && l.holds (t.before j.val) (t.after j.val)

/-- Nothing. -/
def nowhere (t : Subject) : Reach := Array.replicate t.width false

end Subject

namespace Reach

/-- Positions reached by either set. -/
def union (a b : Reach) : Reach := Array.zipWith (· || ·) a b

/-- Whether every position of `a` is in `b`. -/
def subset (a b : Reach) : Bool := (Array.zipWith (fun x y => !x || y) a b).all id

/-- Whether some position is reached. -/
def nonempty (a : Reach) : Bool := a.any id

/-- `k` compulsory rounds of `round`, stopping early at nothing reached or at a fixed
point, after which further rounds change nothing. -/
def rounds (round : Reach → Reach) : Nat → Reach → Reach
  | 0, s => s
  | k + 1, s =>
    if !s.nonempty then s
    else
      let next := round s
      if next == s then s else rounds round k next

/-- Up to `k` optional rounds from `front`, adding every reach to `acc`, and stopping once
a round adds nothing. -/
def extend (round : Reach → Reach) : Nat → Reach → Reach → Reach
  | 0, acc, _ => acc
  | k + 1, acc, front =>
    let next := round front
    if next.subset acc then acc else extend round k (acc.union next) next

end Reach

mutual
/-- The positions reached by a pattern from a set of starting positions. -/
def Node.advance (t : Subject) : Node → Reach → Reach
  | .empty, s => s
  | .literal c caseless, s =>
    t.step (fun d => if caseless then Text.sameUpToCase c d else c == d) s
  | .set cs, s => t.step cs.contains s
  | .look l, s => t.keep l s
  | .concat xs, s => Node.advanceSeq t xs s
  | .alt xs, s => Node.advanceAny t xs s
  | .rep x low high, s =>
    let round := Node.advance t x
    let base := Reach.rounds round low s
    let limit := match high with
      | some h => h - low
      | none => t.width + 1
    Reach.extend round limit base base
  | .capture x, s => Node.advance t x s

/-- The positions reached by patterns one after the other. -/
def Node.advanceSeq (t : Subject) : List Node → Reach → Reach
  | [], s => s
  | x :: xs, s => Node.advanceSeq t xs (Node.advance t x s)

/-- The positions reached by any of several patterns. -/
def Node.advanceAny (t : Subject) : List Node → Reach → Reach
  | [], _ => t.nowhere
  | x :: xs, s => (Node.advance t x s).union (Node.advanceAny t xs s)
end

/-- Whether a pattern matches somewhere in a text. -/
def Node.occursIn (n : Node) (text : String) : Bool :=
  let t := Subject.ofString text
  (n.advance t t.everywhere).nonempty

end TagStore.Pattern
