import TagStore.Json.Record
import TagStore.Json.Write
/-!
# Config

How an engine is wired: which backend, where its files live, the key prefix of a
key-value backend, how stored documents are compressed, the default page size and an
optional cache. Every field has a default, so any record of these fields, even an
empty one, describes an engine.
-/

namespace TagStore

/-- How stored documents are compressed. -/
inductive Compression where
  | none
  | lz4
  | zstd
  | snappy
  deriving BEq, Repr, Inhabited

namespace Compression

/-- The name of a compression. -/
def name : Compression → String
  | .none => "None"
  | .lz4 => "LZ4"
  | .zstd => "Zstd"
  | .snappy => "Snappy"

/-- The compression of an exact name. -/
def ofName? : String → Option Compression
  | "None" => some .none
  | "LZ4" => some .lz4
  | "Zstd" => some .zstd
  | "Snappy" => some .snappy
  | _ => Option.none

/-- A compression read from a value: its exact name, or an object holding only that
name with a null value. -/
def ofJson? : Json → Option Compression
  | .string s => ofName? s
  | .object [(s, .null)] => ofName? s
  | _ => Option.none

end Compression

/-- The cache in front of a backend. -/
structure CacheConfig where
  provider : String := "lru"
  name : String := "polydex"
  capacity : Nat := 10000
  /-- Seconds an entry lives; none means for ever. -/
  ttlSecs : Option Nat := none

/-- How an engine is wired. -/
structure EngineConfig where
  backend : String := "memory"
  root : Option String := none
  keyPrefix : String := ""
  compression : Compression := .none
  defaultItemPerPage : Nat := 10
  cache : Option CacheConfig := none

/-- A text field of a record, the default when absent. -/
def textField (dflt : String) : Option Json → Option String
  | none => some dflt
  | some (.string s) => some s
  | some _ => none

/-- An unsigned field of a record, the default when absent. -/
def unsignedField (dflt : Nat) : Option Json → Option Nat
  | none => some dflt
  | some v => v.toUInt64?.map (·.toNat)

namespace CacheConfig

/-- A cache configuration read from a record whose fields all have defaults. -/
def ofJson? (j : Json) : Option CacheConfig := do
  let spec : List Json.FieldSpec :=
    [⟨"provider", true⟩, ⟨"name", true⟩, ⟨"capacity", true⟩, ⟨"ttl_secs", true⟩]
  match ← (Json.RecordSource.ofJson j).fields spec with
  | [provider, name, capacity, ttl] =>
    let ttl ← match ttl with
      | none | some .null => some none
      | some v => v.toUInt64?.map (some ·.toNat)
    return ⟨← textField "lru" provider, ← textField "polydex" name,
      ← unsignedField 10000 capacity, ttl⟩
  | _ => none

/-- The cache configuration as a record value. -/
def toJson (c : CacheConfig) : Json :=
  Json.obj [("provider", .string c.provider), ("name", .string c.name),
    ("capacity", Json.ofNat c.capacity),
    ("ttl_secs", match c.ttlSecs with | some t => Json.ofNat t | none => .null)]

end CacheConfig

namespace EngineConfig

/-- The compression of a codec record whose one field has a default. -/
def codecOfJson? (j : Json) : Option Compression := do
  match ← (Json.RecordSource.ofJson j).fields [⟨"compression", true⟩] with
  | [none] => some .none
  | [some v] => Compression.ofJson? v
  | _ => none

/-- An engine configuration read from a record whose fields all have defaults. -/
def ofJson? (j : Json) : Option EngineConfig := do
  let spec : List Json.FieldSpec :=
    [⟨"backend", true⟩, ⟨"root", true⟩, ⟨"key_prefix", true⟩, ⟨"codec", true⟩,
      ⟨"default_item_per_page", true⟩, ⟨"cache", true⟩]
  match ← (Json.RecordSource.ofJson j).fields spec with
  | [backend, root, keyPrefix, codec, perPage, cache] =>
    let root ← match root with
      | none | some .null => some none
      | some (.string s) => some (some s)
      | some _ => none
    let compression ← match codec with
      | none => some .none
      | some v => codecOfJson? v
    let cache ← match cache with
      | none | some .null => some none
      | some v => (CacheConfig.ofJson? v).map some
    return ⟨← textField "memory" backend, root, ← textField "" keyPrefix, compression,
      ← unsignedField 10 perPage, cache⟩
  | _ => none

/-- An engine configuration read from text; a field given twice is refused. -/
def ofText? (s : String) : Option EngineConfig :=
  match Json.parseWritten s with
  | .ok j => ofJson? j
  | .error _ => none

/-- The engine configuration as a record value. -/
def toJson (c : EngineConfig) : Json :=
  Json.obj [("backend", .string c.backend),
    ("root", match c.root with | some r => .string r | none => .null),
    ("key_prefix", .string c.keyPrefix),
    ("codec", Json.obj [("compression", .string c.compression.name)]),
    ("default_item_per_page", Json.ofNat c.defaultItemPerPage),
    ("cache", match c.cache with | some cc => cc.toJson | none => .null)]

end EngineConfig

end TagStore
