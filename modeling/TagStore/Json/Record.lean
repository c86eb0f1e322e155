import TagStore.Json.Read
/-!
# Json.Record

Reading a record with named fields out of a value. A record is written either as an
object, its fields by name, or as an array, its fields by position. In an object a
field may be missing only when it has a default, unknown keys are ignored, and a field
named twice in a text is refused; in an array the items fill the fields in order, items
left over are refused, and the fields after the last item take their defaults.

A record read from text keeps every object's keys as written, so that a repeated field
of a record, at any depth, is refused; a field that holds a free value takes that
value's normal form, where the last of a repeated key wins.
-/

namespace TagStore.Json

/-- A value that a record is read from. -/
inductive RecordSource where
  /-- Fields by name, in written order; a key may repeat. -/
  | named (fields : List (String × Json))
  /-- Fields by position. -/
  | positional (items : List Json)
  /-- Neither an object nor an array. -/
  | other (v : Json)

/-- One field of a record: its name and whether it has a default. -/
structure FieldSpec where
  name : String
  hasDefault : Bool

namespace RecordSource

/-- The source of a value. -/
def ofJson : Json → RecordSource
  | .object fs => .named fs
  | .array xs => .positional xs
  | v => .other v

/-- The given value of each field in `spec` order, `none` for a field that takes its default;
`none` overall when a field is missing, repeated, or an array has too many items. -/
def fields (src : RecordSource) (spec : List FieldSpec) : Option (List (Option Json)) :=
  match src with
  | .named fs =>
    spec.mapM fun f =>
      match fs.filter (·.1 == f.name) with
      | [] => if f.hasDefault then some none else none
      | [(_, v)] => some (some v)
      | _ => none
  | .positional xs =>
    if xs.length > spec.length then none
    else
      (spec.zipIdx).mapM fun (f, i) =>
        match xs[i]? with
        | some v => some (some v)
        | none => if f.hasDefault then some none else none
  | .other _ => none

end RecordSource

/-- Read a whole text as a record source, objects keeping their keys as written. -/
def RecordSource.read (s : String) : Except ReadError RecordSource :=
  return .ofJson (← parseWritten s)

/-- Read bytes as a record source; they must be UTF-8. -/
def RecordSource.readBytes (b : ByteArray) : Except ReadError RecordSource :=
  return .ofJson (← parseWrittenBytes b)

end TagStore.Json
