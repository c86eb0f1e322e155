/-!
# Error

Failures of the store. Each failure has a kind and a message. Failures of the medium
(backend, I/O, a batch applied in part) may succeed when tried again; failures that
name something missing or unsupported are structural and will not.

A failure that wraps another, as a partial batch wraps the failure that stopped it,
shows the inner one as `Kind: message`.
-/

namespace TagStore

/-- What kind of failure happened. -/
inductive ErrorKind where
  /-- A query or count against a dataset without configuration. -/
  | notConfigured
  | notFound
  | unsupportedOperation
  /-- The storage medium failed. -/
  | backend
  | cacheProvider
  | indexInconsistency
  /-- A batch stopped after `applied` of its `total` requests. -/
  | partialBatch (applied total : Nat)
  | io
  | parse
  | invalidArgument
  deriving BEq, Repr

namespace ErrorKind

/-- The name of the kind. -/
def name : ErrorKind → String
  | .notConfigured => "NotConfigured"
  | .notFound => "NotFound"
  | .unsupportedOperation => "UnsupportedOperation"
  | .backend => "Backend"
  | .cacheProvider => "CacheProvider"
  | .indexInconsistency => "IndexInconsistency"
  | .partialBatch .. => "PartialBatch"
  | .io => "Io"
  | .parse => "Parse"
  | .invalidArgument => "InvalidArgument"

/-- The kind as it appears inside another failure's message, with the counts of a
partial batch. -/
def describe : ErrorKind → String
  | .partialBatch a t =>
    "PartialBatch \x7b applied: " ++ toString a ++ ", total: " ++ toString t ++ " \x7d"
  | k => k.name

/-- Failures of the medium, which may pass when tried again. -/
def retryable : ErrorKind → Bool
  | .backend | .io | .partialBatch .. => true
  | _ => false

/-- Failures that name something missing or unsupported. -/
def structural : ErrorKind → Bool
  | .notConfigured | .notFound | .unsupportedOperation => true
  | _ => false

end ErrorKind

/-- A failure: its kind and its message. -/
structure Error where
  kind : ErrorKind
  message : String
  deriving Repr

namespace Error

/-- A query or count against a dataset that has no configuration. -/
def notConfigured (dataset : String) : Error :=
  ⟨.notConfigured, "dataset " ++ dataset ++ " is not configured"⟩

/-- Something looked up that does not exist. -/
def notFound (what : String) : Error := ⟨.notFound, what⟩

/-- An operation this store does not offer. -/
def unsupported (operation : String) : Error :=
  ⟨.unsupportedOperation, "operation not supported: " ++ operation⟩

/-- The storage medium failed. -/
def backend (context : String) : Error := ⟨.backend, context⟩

/-- A caller gave a value the operation refuses. -/
def invalidArgument (context : String) : Error := ⟨.invalidArgument, context⟩

/-- The cache failed. -/
def cacheProvider (context : String) : Error := ⟨.cacheProvider, context⟩

/-- Stored bytes that do not decode. -/
def parse (context : String) : Error := ⟨.parse, context⟩

/-- The file system failed. -/
def io (context : String) : Error := ⟨.io, context⟩

/-- A text that is not a document value. -/
def json (detail : String) : Error := ⟨.parse, "JSON error: " ++ detail⟩

/-- A pattern that does not compile. -/
def pattern (detail : String) : Error := ⟨.invalidArgument, "Invalid pattern: " ++ detail⟩

/-- The failure as text: `Kind: message`. -/
def display (e : Error) : String := e.kind.describe ++ ": " ++ e.message

/-- A batch that stopped after `applied` of `total` requests because of `cause`. -/
def partialBatch (applied total : Nat) (cause : Error) : Error :=
  ⟨.partialBatch applied total,
    "batch applied " ++ toString applied ++ "/" ++ toString total ++ " before failure: " ++
      cause.display⟩

/-- Whether trying again may help. -/
def retryable (e : Error) : Bool := e.kind.retryable

/-- Whether the failure names something missing or unsupported. -/
def structural (e : Error) : Bool := e.kind.structural

end Error

/-- A result of the store. -/
abbrev Outcome (α : Type) := Except Error α

end TagStore
