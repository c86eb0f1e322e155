import TagStore.Error
import TagStore.Document
/-!
# Api.Reply

Answers of the JSON request interface. A request either succeeds with a value,
answered as `{"ok": value}`, fails in the store, answered as an error object, or is
itself malformed, answered as `{"error": "DriverError", "message": …}`.

An error object names the kind, says whether it is retryable and structural, gives the
counts of a partial batch, and shows the message only where the text is the store's own:
not for I/O failures, not for texts of the document reader or the pattern compiler, not
for a lock held by another engine, and for parse failures only for the store's own texts
about documents, files, compression tags and short encodings.

Rendered documents hide times: the `_create_date` of a `_metadata` document becomes
`"<time>"`, and so, when asked, does the `_update_date` in a document's metadata.
-/

namespace TagStore.Api

/-- Why a request has no value. -/
inductive Failure where
  /-- The request itself is malformed. -/
  | request (message : String)
  /-- The store failed. -/
  | store (e : Error)

/-- The answer to a request, before encoding. -/
abbrev Reply := Except Failure Json

/-- Lift a store outcome into a reply. -/
def Failure.lift {α : Type} (o : Outcome α) : Except Failure α :=
  o.mapError .store

/-- A value decoded by a record reader; a malformed one is a failure of the document
reader. -/
def decoded {α : Type} (what : String) : Option α → Except Failure α
  | some a => .ok a
  | none => .error (.store (.json ("invalid " ++ what)))

/-- Whether an error object shows the message. -/
def showsMessage (e : Error) : Bool :=
  match e.kind with
  | .io => false
  | k =>
    !(e.message.startsWith "JSON error" || e.message.startsWith "Invalid pattern" ||
        (e.message.splitOn "owned by another engine").length > 1) &&
      (k != .parse || e.message.startsWith "document " || e.message.startsWith "<root>" ||
        e.message.startsWith "Unknown compression" || e.message.startsWith "Encoded poly")

/-- The error object of a store failure. -/
def errorJson (e : Error) : Json :=
  let counts := match e.kind with
    | .partialBatch a t => [("applied", Json.ofNat a), ("total", Json.ofNat t)]
    | _ => []
  let message := if showsMessage e then [("message", Json.string e.message)] else []
  Json.obj ([("error", .string e.kind.name), ("retryable", .bool e.retryable),
    ("structural", .bool e.structural)] ++ message ++ counts)

/-- The error object of a failure. -/
def Failure.toJson : Failure → Json
  | .request m => Json.obj [("error", .string "DriverError"), ("message", .string m)]
  | .store e => errorJson e

/-- The encoded answer. -/
def replyJson (r : Reply) : Json :=
  match r with
  | .ok v => Json.obj [("ok", v)]
  | .error f => f.toJson

/-- Replace the value of a key of an object by `"<time>"`, if the key is present. -/
def hideTime (fs : Json.Fields) (k : String) : Json.Fields :=
  if Json.Fields.contains fs k then Json.Fields.insert fs k (.string "<time>") else fs

/-- A document as a value, times hidden: the creation date of a `_metadata` document
always, the update date in the metadata when `hideUpdate` holds. -/
def renderDocument (hideUpdate : Bool) (d : Document) : Json :=
  let data := if d.id == metadataId then hideTime d.data createDateKey else d.data
  let metadata := if hideUpdate then hideTime d.metadata updateDateKey else d.metadata
  Document.toJson { d with data := data, metadata := metadata }

/-! ## Reading request fields -/

/-- A request: the fields of its object. A field given as `null` counts as absent. -/
structure Request where
  fields : Json.Fields

namespace Request

/-- A present, non-null field. -/
def get? (r : Request) (k : String) : Option Json :=
  match Json.Fields.get? r.fields k with
  | some .null => none
  | v => v

/-- A field as given, `null` included. -/
def given? (r : Request) (k : String) : Option Json := Json.Fields.get? r.fields k

/-- A required string field. -/
def text (r : Request) (k : String) : Except Failure String :=
  match r.get? k with
  | some (.string s) => .ok s
  | _ => .error (.request ("missing string field " ++ k))

/-- A string field with a default, which also stands for a value that is not a string. -/
def textOr (r : Request) (k : String) (dflt : String) : String :=
  match r.get? k with
  | some (.string s) => s
  | _ => dflt

/-- The strings of an array value, or the failure naming field `k`. -/
def stringsOf (k : String) : Json → Except Failure (List String)
  | .array xs =>
    match xs.mapM Json.str? with
    | some ss => .ok ss
    | none => .error (.request (k ++ " must hold strings"))
  | _ => .error (.request (k ++ " must be an array"))

/-- A field holding an array of strings, empty when absent. -/
def texts (r : Request) (k : String) : Except Failure (List String) :=
  match r.get? k with
  | none => .ok []
  | some v => stringsOf k v

/-- A field holding an array. -/
def array (r : Request) (k : String) : Except Failure (List Json) :=
  match r.get? k with
  | some (.array xs) => .ok xs
  | _ => .error (.request (k ++ " must be an array"))

/-- A field holding an array, empty when absent or not an array. -/
def arrayOrEmpty (r : Request) (k : String) : List Json :=
  match r.get? k with
  | some (.array xs) => xs
  | _ => []

/-- A non-negative integer field with a default; any other value is a failure. -/
def natOr (r : Request) (k : String) (dflt : Nat) : Except Failure Nat :=
  match r.get? k with
  | none => .ok dflt
  | some v =>
    match v.toUInt64? with
    | some n => .ok n.toNat
    | none => .error (.request (k ++ " must be a non-negative integer"))

/-- A non-negative integer field, none when absent or not such an integer. -/
def nat? (r : Request) (k : String) : Option Nat :=
  ((r.get? k).bind Json.toUInt64?).map UInt64.toNat

/-- A non-negative integer field with a default, which also stands for any other value. -/
def natOrElse (r : Request) (k : String) (dflt : Nat) : Nat := (r.nat? k).getD dflt

/-- A boolean field with a default. -/
def boolOr (r : Request) (k : String) (dflt : Bool) : Bool :=
  match r.get? k with
  | some (.bool b) => b
  | _ => dflt

/-- A field holding a document; a malformed one is a failure of the document reader. -/
def document (r : Request) (k : String) : Except Failure Document :=
  match Document.ofJson? ((r.get? k).getD .null) with
  | some d => .ok d
  | none => .error (.store (.json ("invalid document in " ++ k)))

end Request

end TagStore.Api
