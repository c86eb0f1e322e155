import Std.Data.ExtTreeMap
import TagStore.Error
/-!
# Storage.KvStore

A key-value store of byte strings with ordered prefix scans, and two ways for it to fail
that a caller can switch on: a budget of document writes (writes to keys holding
`/doc/`), past which such writes fail with `store went away`, and a number of scans that
fail with `scan interrupted` before scans work again.

A fresh store has no write budget and no failing scans, so it never fails. A failed write
leaves the store as it was; a failed scan uses up one of the failing scans.
-/

namespace TagStore

/-- Whether `part` occurs in a list of characters as a contiguous piece. -/
def containsChars (part : List Char) : List Char → Bool
  | [] => part.isEmpty
  | c :: cs => part.isPrefixOf (c :: cs) || containsChars part cs

/-- Whether `part` occurs in `s` as a contiguous piece. -/
def containsText (s part : String) : Bool := containsChars part.toList s.toList

/-- A key-value store. -/
structure KvStore where
  entries : Std.ExtTreeMap String ByteArray compare := ∅
  /-- Document writes left before they fail; none for no limit. -/
  documentPuts : Option Nat := none
  /-- Scans that fail before scans work again. -/
  failingScans : Nat := 0

namespace KvStore

/-- The marker of document keys, whose writes the budget counts. -/
def documentMarker : String := "/doc/"

/-- The value of a key. -/
def get? (s : KvStore) (key : String) : Option ByteArray := s.entries.get? key

/-- Write a key; a document key needs one unit of the budget, if there is a budget. -/
def put (s : KvStore) (key : String) (value : ByteArray) : Outcome KvStore :=
  let stored : KvStore := { s with entries := s.entries.insert key value }
  if containsText key documentMarker then
    match s.documentPuts with
    | none => .ok stored
    | some 0 => .error (.backend "store went away")
    | some (n + 1) => .ok { stored with documentPuts := some n }
  else .ok stored

/-- Remove a key; whether it was there. -/
def delete (s : KvStore) (key : String) : Bool × KvStore :=
  (s.entries.contains key, { s with entries := s.entries.erase key })

/-- The pairs from `pre` on, in key order: the keys not below `pre`. -/
def entriesFrom (s : KvStore) (pre : String) : List (String × ByteArray) :=
  s.entries.toList.dropWhile fun kv => kv.1 < pre

/-- The pairs whose key starts with `pre`, in key order, unless the scan is one of the
failing ones: the pairs from `pre` on, up to the first key that does not start with it. -/
def scan (s : KvStore) (pre : String) : Outcome (List (String × ByteArray)) × KvStore :=
  match s.failingScans with
  | n + 1 => (.error (.backend "scan interrupted"), { s with failingScans := n })
  | 0 => (.ok ((s.entriesFrom pre).takeWhile fun kv => kv.1.startsWith pre), s)

end KvStore

end TagStore
