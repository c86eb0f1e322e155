import TagStore.Json.Number
/-!
# Json.Value

Values of the document format. An object holds its fields sorted by key, each key once;
keys compare by code point, which is the order of their UTF-8 bytes. Building an
object field by field keeps that shape: `Fields.insert` puts a key in its place and
replaces an earlier value of the same key, so the last write of a key wins.
-/

namespace TagStore

/-- A value of the document format. -/
inductive Json where
  | null
  | bool (b : Bool)
  | number (n : Json.Number)
  | string (s : String)
  | array (items : List Json)
  /-- An object: fields sorted by key, each key once. -/
  | object (fields : List (String × Json))
  deriving Inhabited

namespace Json

/-- The fields of an object, sorted by key with each key once. -/
abbrev Fields := List (String × Json)

namespace Fields

/-- The value of a key. -/
def get? (fs : Fields) (k : String) : Option Json :=
  (fs.find? (·.1 == k)).map (·.2)

/-- Whether a key is present. -/
def contains (fs : Fields) (k : String) : Bool :=
  fs.any (·.1 == k)

/-- Put a key in its sorted place, replacing the value it had. -/
def insert : Fields → String → Json → Fields
  | [], k, v => [(k, v)]
  | (k', v') :: rest, k, v =>
    if k < k' then (k, v) :: (k', v') :: rest
    else if k == k' then (k, v) :: rest
    else (k', v') :: insert rest k v

/-- Remove a key. -/
def erase (fs : Fields) (k : String) : Fields :=
  fs.filter (·.1 != k)

/-- Insert every field of `other`, its values winning. -/
def extend (fs other : Fields) : Fields :=
  other.foldl (fun acc (k, v) => insert acc k v) fs

/-- Sorted fields of a list of pairs, a later pair winning over an earlier one of its key. -/
def ofList (ps : List (String × Json)) : Fields :=
  extend [] ps

/-- The keys in order. -/
def keys (fs : Fields) : List String :=
  fs.map (·.1)

end Fields

/-! ## Normal form -/

mutual
/-- A value with every object's fields sorted by key, the last of a repeated key winning. -/
def normalize : Json → Json
  | .array xs => .array (normalizeList xs)
  | .object fs => .object (Fields.ofList (normalizeFields fs))
  | j => j

/-- Normal forms of a list of values. -/
def normalizeList : List Json → List Json
  | [] => []
  | x :: xs => normalize x :: normalizeList xs

/-- Normal forms of the values of a field list. -/
def normalizeFields : List (String × Json) → List (String × Json)
  | [] => []
  | (k, v) :: rest => (k, normalize v) :: normalizeFields rest
end

/-! ## Equality -/

mutual
/-- Equality of values: numbers by `Number.beq`, arrays elementwise, objects by equal key
sets with equal values. -/
def beq : Json → Json → Bool
  | .null, .null => true
  | .bool a, .bool b => a == b
  | .number a, .number b => a == b
  | .string a, .string b => a == b
  | .array a, .array b => beqList a b
  | .object a, .object b => beqFields a b
  | _, _ => false

/-- Elementwise equality of two lists of values. -/
def beqList : List Json → List Json → Bool
  | [], [] => true
  | a :: as, b :: bs => beq a b && beqList as bs
  | _, _ => false

/-- Equality of two sorted field lists. -/
def beqFields : Fields → Fields → Bool
  | [], [] => true
  | (k, a) :: as, (k', b) :: bs => k == k' && beq a b && beqFields as bs
  | _, _ => false
end

instance : BEq Json := ⟨beq⟩

/-! ## Access -/

/-- The fields of an object value. -/
def fields? : Json → Option Fields
  | .object fs => some fs
  | _ => none

/-- The normal-form fields of an object value. -/
def objectFields? (j : Json) : Option Fields := j.normalize.fields?

/-- The value of a key of an object value. -/
def get? (j : Json) (k : String) : Option Json :=
  match j with
  | .object fs => Fields.get? fs k
  | _ => none

/-- The text of a string value. -/
def str? : Json → Option String
  | .string s => some s
  | _ => none

/-- The items of an array value. -/
def array? : Json → Option (List Json)
  | .array xs => some xs
  | _ => none

/-- An unsigned integer value. -/
def toUInt64? : Json → Option UInt64
  | .number n => n.toUInt64?
  | _ => none

/-- A signed integer value that fits 64 bits. -/
def toInt64? : Json → Option Int64
  | .number n => n.toInt64?
  | _ => none

/-- Whether the value is `null`. -/
def isNull : Json → Bool
  | .null => true
  | _ => false

/-- A natural number. -/
def ofNat (n : Nat) : Json := .number (Number.ofNat n)

/-- An unsigned 64-bit integer. -/
def ofUInt64 (n : UInt64) : Json := .number (.nat n)

/-- A signed 64-bit integer. -/
def ofInt64 (i : Int64) : Json := .number (Number.ofInt i.toInt)

/-- An object from pairs, a later pair winning over an earlier one of its key. -/
def obj (ps : List (String × Json)) : Json := .object (Fields.ofList ps)

/-- An array of strings. -/
def strings (xs : List String) : Json := .array (xs.map .string)

end Json

end TagStore
