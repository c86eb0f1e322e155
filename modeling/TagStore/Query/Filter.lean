import TagStore.Document
import TagStore.Error
import TagStore.Json.Write
import TagStore.Pattern.Size
import TagStore.Pattern.Match
/-!
# Query.Filter

Filters on document fields. A filter is an object from field paths to conditions, and a
document passes when every condition holds. A condition is a value to equal, or an
object with one operator key: `$ne`, `$in` (an array), `$exists` (a boolean) or `$regex`
(a pattern). An object of any other shape is a value to equal.

A path is split at dots: the first part names a data field, each later part a field of
an object or a position in an array; `_id` is the document's id. Equality is loose in two
ways: an array equals a value that is not an array when it holds that value, and two
numbers are equal when they are as binary floating-point numbers (`12` equals `12.0`).
A pattern condition holds of a text that it occurs in, or of an array holding such a
text.
-/

namespace TagStore

/-- What a field must satisfy. -/
inductive Condition where
  /-- Present and equal to the value. -/
  | equal (v : Json)
  /-- Absent, or present and not equal to the value. -/
  | notEqual (v : Json)
  /-- Present and equal to one of the values. -/
  | oneOf (vs : List Json)
  /-- Present exactly when `present` is set. -/
  | presence (present : Bool)
  /-- A text, or an array holding a text, in which the pattern occurs; `source` is the
  pattern as written. -/
  | pattern (source : String) (node : Pattern.Node)

/-- A conjunction of conditions on fields, in the order of the field paths. -/
structure Filter where
  clauses : List (String × Condition)

namespace Filter

/-- Reads one condition of a field. -/
def conditionOf (field : String) (raw : Json) : Outcome Condition :=
  match raw with
  | .object [(op, arg)] =>
    if !op.startsWith "$" then .ok (.equal raw)
    else
      match op with
      | "$ne" => .ok (.notEqual arg)
      | "$in" =>
        match arg with
        | .array vs => .ok (.oneOf vs)
        | _ => .error (.invalidArgument ("$in on " ++ field ++ " needs an array"))
      | "$exists" =>
        match arg with
        | .bool b => .ok (.presence b)
        | _ => .error (.invalidArgument ("$exists on " ++ field ++ " needs a bool"))
      | "$regex" =>
        match arg with
        | .string src =>
          match Pattern.Node.compile src with
          | .ok n => .ok (.pattern src n)
          | .error e => .error (.pattern e.describe)
        | _ => .error (.invalidArgument ("$regex on " ++ field ++ " needs a string"))
      | _ => .error (.invalidArgument ("unknown operator " ++ op ++ " on " ++ field))
  | _ => .ok (.equal raw)

/-- Reads a filter from an object; the first malformed condition, in field order, fails. -/
def ofJson (payload : Json) : Outcome Filter :=
  match payload.normalize with
  | .object fs => do
    let clauses ← fs.mapM fun (field, raw) => do
      let c ← conditionOf field raw
      pure (field, c)
    pure ⟨clauses⟩
  | other => .error (.invalidArgument ("custom query must be an object, got " ++ other.render))

end Filter

/-- A position in an array: digits with an optional `+`, below 2^64. -/
def arrayIndex? (s : String) : Option Nat :=
  let ds := match s.toList with
    | '+' :: rest => rest
    | cs => cs
  if ds.isEmpty || !ds.all Char.isDigit then none
  else
    let n := ds.foldl (fun n c => n * 10 + (c.toNat - 48)) 0
    if n < Nat.pow 2 64 then some n else none

/-- The value one step below a value. -/
def Json.child? (v : Json) (part : String) : Option Json :=
  match v with
  | .object fs => Json.Fields.get? fs part
  | .array items => (arrayIndex? part).bind fun i => items[i]?
  | _ => none

/-- The value at a dotted path of a document; `_id` is its id. -/
def Document.lookup (d : Document) (path : String) : Option Json :=
  if path == "_id" then some (.string d.id)
  else
    match (path.toList.splitOn '.').map String.ofList with
    | [] => none
    | first :: rest => rest.foldl (fun v part => v.bind (Json.child? · part)) (d.fetch first)

/-- Loose equality of a field's value and a wanted value: equal values, an array holding
a wanted value that is not an array, or numbers equal as floats. -/
def Json.matchesValue (actual wanted : Json) : Bool :=
  actual.beq wanted ||
    match actual, wanted with
    | .array items, w => (match w with
        | .array _ => false
        | _ => items.any (·.beq w))
    | .number a, .number b => a.sameValue b
    | _, _ => false

/-- Whether a pattern occurs in a value: a text, or a text of an array. -/
def Pattern.Node.occursInValue (n : Pattern.Node) : Json → Bool
  | .string s => n.occursIn s
  | .array items => items.any fun
    | .string s => n.occursIn s
    | _ => false
  | _ => false

/-- Whether a condition holds of a field's value, none for an absent field. -/
def Condition.holds : Condition → Option Json → Bool
  | .presence p, v => v.isSome == p
  | .equal w, v => (v.map (Json.matchesValue · w)).getD false
  | .notEqual w, v => !(v.map (Json.matchesValue · w)).getD false
  | .oneOf ws, v => (v.map fun a => ws.any (Json.matchesValue a)).getD false
  | .pattern _ n, v => (v.map n.occursInValue).getD false

/-- Whether a document passes a filter. -/
def Filter.accepts (f : Filter) (d : Document) : Bool :=
  f.clauses.all fun (field, c) => c.holds (d.lookup field)

/-- A condition as a record: `{"eq": v}`, `{"ne": v}`, `{"in": [..]}`, `{"exists": b}` or
`{"regex": pattern}`. -/
def Condition.toJson : Condition → Json
  | .equal v => .object [("eq", v)]
  | .notEqual v => .object [("ne", v)]
  | .oneOf vs => .object [("in", .array vs)]
  | .presence b => .object [("exists", .bool b)]
  | .pattern src _ => .object [("regex", .string src)]

/-- A filter as a list of `[field, condition]` pairs. -/
def Filter.toJson (f : Filter) : Json :=
  .array (f.clauses.map fun (field, c) => .array [.string field, c.toJson])

end TagStore
