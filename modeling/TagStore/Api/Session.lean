import TagStore.Api.Index
import TagStore.Api.Lru
import TagStore.Storage.Engine
/-!
# Api.Session

An engine driven by a list of steps over a directory of its own. Backend 0 is built from
the session's configuration, or over the host's shared key-value store when one is asked
for, and may be wrapped in a cache layer of its own: a least-recently-used cache the host
keeps across reopening, or a layer that keeps nothing. More backends come from viewing the
shared store again; a step picks its backend with `on`.

Steps are the backend's operations and the session's own: reopening backend 0, opening a
second engine on the same configuration, switching the shared store's failures, reading
the shared cache's counts, and writing, damaging, deleting and listing files.

Rendered documents hide times: write times unless the backend reads snapshot files, whose
times are their own, and creation times in listings.
-/

namespace TagStore.Api

open Request

/-- The time a session's clock starts at: 2100-01-01T00:00:00Z, after the time of any
file a session is given. -/
def sessionEpoch : Int := 4102444800000

/-- What backend 0 is built from, kept for reopening it. -/
structure SessionSetup where
  config : EngineConfig
  root : Option Path
  /-- Whether backend 0 runs over the host's shared key-value store. -/
  sharedStore : Bool
  /-- The cache layer around backend 0, if any. -/
  overlay : Option CacheLayer

/-- A session: its setup, the host and the open backends. -/
structure Session where
  setup : SessionSetup
  host : Host
  engines : Array Engine

/-- A key-value backend over the host's shared store. -/
def sharedView (config : EngineConfig) : Engine :=
  let codec := Codec.ofCompression config.compression
  let planner := Planner.new config.defaultItemPerPage
  { backend := .kv { store := .shared, keyPrefix := config.keyPrefix, codec, planner } }

/-- Build backend 0 and open it. -/
def SessionSetup.start (s : SessionSetup) : Run Unit Engine := do
  let base ← if s.sharedStore then pure (sharedView s.config) else Engine.ofConfig s.config s.root
  let e := { base with layers := s.overlay.toList ++ base.layers }
  let ((), e) ← Run.detached e Engine.openStore
  pure e

namespace Session

variable {α : Type}

/-- Run an operation on the host alone. -/
def onHost (s : Session) (m : Run Unit α) : Outcome α × Session :=
  let (r, h, _) := StateT.run (ExceptT.run m) (s.host, ())
  (r, { s with host := h })

/-- Free the lock an engine holds, as when it is dropped. -/
def drop (s : Session) (e : Engine) : Session :=
  match e.backend.heldLock with
  | some owner => (s.onHost (releaseLock owner)).2
  | none => s

/-- Close every backend, ignoring failures, and drop them all. -/
def closeAll (s : Session) : Session :=
  let s := s.engines.foldl (fun (s : Session) e =>
    let (_, h, e) := StateT.run (ExceptT.run Engine.closeStore) (s.host, e)
    { s with host := h }.drop e) s
  { s with engines := #[] }

/-- Build and open backend 0; after a failure no backend remains. -/
def startFirst (s : Session) : Outcome Unit × Session :=
  let (r, s) := s.onHost s.setup.start
  match r with
  | .ok e => (.ok (), { s with engines := #[e] })
  | .error err => (.error err, { s with engines := #[] })

end Session

/-! ## Rendering -/

/-- A document as an answer, its write time hidden unless `keepTimes`. -/
def renderStored (keepTimes : Bool) (d : Document) : Json := renderDocument (!keepTimes) d

/-- A dataset listing as an answer: the creation time in its metadata hidden. -/
def renderListing (keepTimes : Bool) (d : Document) : Json :=
  let data := match Json.Fields.get? d.data "metadata" with
    | some (.object m) => Json.Fields.insert d.data "metadata" (.object (hideTime m createDateKey))
    | _ => d.data
  renderStored keepTimes { d with data := data }

/-- What a random query drew: how many, whether they are distinct, whether all are among
`within` (null without it), and the sorted ids when `full`. -/
def randomSummary (ids : List String) (within : Option (List String)) (full : Bool) : Json :=
  let sorted := ids.mergeSort fun a b => compare a b != .gt
  Json.obj [("random", Json.ofNat ids.length),
    ("distinct", .bool ((Std.ExtTreeSet.ofList ids compare).size == ids.length)),
    ("within", match within with
      | some w => .bool (ids.all w.contains)
      | none => .null),
    ("ids", if full then Json.strings sorted else .null)]

/-! ## Backend steps -/

/-- The write requests of a step. -/
def requestsField (r : Request) : Except Failure (List InsertRequest) :=
  match r.get? "requests" with
  | some (.array items) => decoded "insert request" (items.mapM InsertRequest.ofJson?)
  | _ => .error (.store (.json "requests must be an array of insert requests"))

/-- The write options of a step, if given. -/
def optionsField (r : Request) : Except Failure (Option InsertOptions) :=
  match r.get? "options" with
  | none => .ok none
  | some v => some <$> decoded "insert options" (InsertOptions.ofJson? v)

/-- The requests `insert_gen` makes: document `i` from `start` on has id `prefix ++ i`,
data `title` "Post number i" and `n` i, and the tag `t(i % mod)`. -/
def generatedRequests (pre : String) (start count modulus : Nat) : List InsertRequest :=
  (List.range count).map fun k =>
    let i := start + k
    ⟨⟨pre ++ toString i, Json.Fields.ofList [("title", .string ("Post number " ++ toString i)),
        ("n", Json.ofNat i)], []⟩,
      Std.ExtTreeSet.ofList ["t" ++ toString (i % modulus)] compare⟩

/-- The operation of a backend step, read from its fields; `keepTimes` says whether
write times are shown. -/
def backendAction (op : String) (step : Request) (keepTimes : Bool) :
    Except Failure (Run Engine Json) := do
  let render := renderStored keepTimes
  let renderAll (ds : List Document) : Json := .array (ds.map render)
  let renderOption (d : Option Document) : Json := (d.map render).getD .null
  match op with
  | "name" => pure (do return .string (← Engine.name))
  | "open" => pure (do Engine.openStore; return .null)
  | "close" => pure (do Engine.closeStore; return .null)
  | "create" =>
    let ds ← step.text "dataset"
    pure (do return render (← Engine.create ds))
  | "exists" =>
    let ds ← step.text "dataset"
    pure (do return .bool (← Engine.hasDataset ds))
  | "config" =>
    let ds ← step.text "dataset"
    pure (do return renderOption (← Engine.config ds))
  | "metadata" =>
    let ds ← step.text "dataset"
    pure (do return renderOption (← Engine.metadata ds))
  | "index" =>
    let ds ← step.text "dataset"
    pure (do return render (← Engine.index ds))
  | "recalculate" =>
    let ds ← step.text "dataset"
    pure (do return reportJson (← Engine.recalculate ds))
  | "list" => pure (do return .array ((← Engine.list).map (renderListing keepTimes)))
  | "set_config" =>
    let d ← step.document "poly"
    let ds ← step.text "dataset"
    pure (do return render (← Engine.setConfig ds d))
  | "set_metadata" =>
    let d ← step.document "poly"
    let ds ← step.text "dataset"
    pure (do return render (← Engine.setMetadata ds d))
  | "tag_data" =>
    let ds ← step.text "dataset"
    let tag ← step.text "tag"
    pure (do return renderOption (← Engine.tagData ds tag))
  | "insert" | "update" =>
    let requests ← requestsField step
    let options ← optionsField step
    let ds ← step.text "dataset"
    pure (do
      let written ← match options with
        | some o => Engine.insertWith ds o requests
        | none => if op == "update" then Engine.update ds requests else Engine.insertWith ds {} requests
      return renderAll written)
  | "insert_gen" =>
    let ds ← step.text "dataset"
    let count ← step.natOr "count" 0
    let modulus ← step.natOr "mod" 3
    let start ← step.natOr "start" 1
    let pre := step.textOr "prefix" "post"
    let options ← optionsField step
    let requests := generatedRequests pre start count (max modulus 1)
    pure (do
      let written ← Engine.insertWith ds (options.getD {}) requests
      let idOf (d : Option Document) : Json := (d.map (Json.string ·.id)).getD .null
      return Json.obj [("inserted", Json.ofNat written.length), ("first", idOf written.head?),
        ("last", idOf written.getLast?)])
  | "read" =>
    let ds ← step.text "dataset"
    let ids ← step.texts "ids"
    pure (do return renderAll (← Engine.read ds ids))
  | "remove" =>
    let ds ← step.text "dataset"
    let ids ← step.texts "ids"
    pure (do return renderAll (← Engine.remove ds ids))
  | "query" =>
    let spec ← specField step
    let ds ← step.text "dataset"
    let idsOnly := step.boolOr "ids_only" false
    let within ← match spec.kind, step.get? "within" with
      | .random, some v => some <$> stringsOf "within" v
      | _, _ => pure none
    let full := step.boolOr "full" false
    pure (do
      let docs ← Engine.query ds spec
      if spec.kind == .random then return randomSummary (docs.map (·.id)) within full
      else if idsOnly then return Json.strings (docs.map (·.id))
      else return renderAll docs)
  | "count" =>
    let spec ← specField step
    let ds ← step.text "dataset"
    pure (do return Json.ofNat (← Engine.count ds spec))
  | _ => .error (.request ("unknown session op " ++ op))

/-- Run a backend step on backend `i`. -/
def backendStep (s : Session) (i : Nat) (op : String) (step : Request) : Reply × Session :=
  match s.engines[i]? with
  | none => (.error (.request "no such backend"), s)
  | some e =>
    match backendAction op step (s.setup.config.backend == "snapshot") with
    | .error f => (.error f, s)
    | .ok act =>
      let (r, h, e) := StateT.run (ExceptT.run act) (s.host, e)
      (Failure.lift r, { s with host := h, engines := s.engines.set! i e })

/-! ## The session's own steps -/

/-- The bytes a file field gives: `json` written pretty (present even as `null`), else a
`text` string as UTF-8, else a `hex` string. -/
def fileContents (r : Request) : Except Failure ByteArray :=
  match r.given? "json", r.get? "text", r.get? "hex" with
  | some j, _, _ => .ok (Json.renderPretty j).toUTF8
  | none, some (.string t), _ => .ok t.toUTF8
  | none, _, some (.string h) =>
    match Binary.ofHex? h with
    | some b => .ok b
    | none => .error (.request "bad hex")
  | _, _, _ => .error (.request "file needs json, text or hex")

/-- The session's root, which file steps need. -/
def Session.rootPath (s : Session) : Except Failure Path :=
  match s.setup.root with
  | some r => .ok r
  | none => .error (.request "session has no root")

/-- Write a file under the root. -/
def writeFileStep (s : Session) (step : Request) : Except Failure (Json × Session) := do
  let root ← s.rootPath
  let path ← step.text "path"
  let bytes ← fileContents step
  let (r, s) := s.onHost (Run.changeFiles (·.write (root ++ Path.ofText path) bytes))
  let _ ← Failure.lift r
  pure (.null, s)

/-- Flip every bit of one byte of a file, at `offset` or its last byte, then cut the
file to `truncate` bytes if that is shorter. -/
def corruptBytes (b : ByteArray) (offset : Nat) (truncate : Option Nat) : ByteArray :=
  let flipped := if b.size == 0 then b
    else
      let i := min offset (b.size - 1)
      b.set! i (b.get! i ^^^ 0xFF)
  match truncate with
  | some n => if n < flipped.size then flipped.extract 0 n else flipped
  | none => flipped

/-- Damage a file under the root, which must be there and hold a byte; an `offset` or
`truncate` that is not a non-negative integer is left out. -/
def corruptFileStep (s : Session) (step : Request) : Except Failure (Json × Session) := do
  let root ← s.rootPath
  let path := root ++ Path.ofText (← step.text "path")
  let some bytes := s.host.files.read? path | .error (.request "no such file")
  if bytes.size == 0 then throw (.request "empty file")
  let offset := step.natOrElse "offset" 0
  let truncate := step.nat? "truncate"
  let (r, s) := s.onHost (Run.changeFiles (·.write path (corruptBytes bytes offset truncate)))
  let _ ← Failure.lift r
  pure (.null, s)

/-- Delete a file under the root: whether it existed. Deleting the lock file frees the
lock, since a later engine makes a new one. -/
def deleteFileStep (s : Session) (step : Request) : Except Failure (Json × Session) := do
  let root ← s.rootPath
  let path := root ++ Path.ofText (← step.text "path")
  match s.host.files.remove? path with
  | none => pure (.bool false, s)
  | some t =>
    let host := { s.host with files := t }
    let host := if path == root ++ [lockFileName] then { host with lockHolder := none } else host
    pure (.bool true, { s with host })

/-- Every file under the root, as sorted relative paths. -/
def listFilesStep (s : Session) : Except Failure (Json × Session) := do
  let root ← s.rootPath
  let names := (s.host.files.filesBelow root).map Path.text
  pure (Json.strings (names.mergeSort fun a b => compare a b != .gt), s)

/-- Close and drop every backend, then build backend 0 again. -/
def reopenStep (s : Session) : Reply × Session :=
  let (r, s) := s.closeAll.startFirst
  match r with
  | .ok () => (.ok (.string "reopened"), s)
  | .error e => (.error (.store e), s)

/-- Open a second engine on the session's configuration while the first stays open, then
close and drop it. -/
def openSecondStep (s : Session) : Reply × Session :=
  let (r, s) := s.onHost (do
    let e ← Engine.ofConfig s.setup.config s.setup.root
    let ((), e) ← Run.detached e Engine.openStore
    pure e)
  match r with
  | .error e => (.error (.store e), s)
  | .ok e =>
    let (_, h, e) := StateT.run (ExceptT.run Engine.closeStore) (s.host, e)
    (.ok (.string "opened"), { s with host := h }.drop e)

/-- Change the shared store, which the session must have. -/
def storeStep (s : Session) (f : KvStore → KvStore) : Except Failure (Json × Session) :=
  if s.setup.sharedStore then .ok (.null, { s with host := { s.host with sharedStore := f s.host.sharedStore } })
  else .error (.request "needs kv_store")

/-- One step of a session. -/
def sessionStep (s : Session) (step : Request) : Reply × Session :=
  let orFail (r : Except Failure (Json × Session)) : Reply × Session :=
    match r with
    | .ok (j, s) => (.ok j, s)
    | .error f => (.error f, s)
  match step.text "op" with
  | .error f => (.error f, s)
  | .ok op =>
    match op with
    | "reopen" => reopenStep s
    | "open_second" => openSecondStep s
    | "kv_view" =>
      if s.setup.sharedStore then
        (.ok (Json.ofNat s.engines.size), { s with engines := s.engines.push (sharedView s.setup.config) })
      else (.error (.request "kv_view needs kv_store"), s)
    | "heal" => orFail (storeStep s fun st => { st with documentPuts := none })
    | "fail_puts" => orFail (do
        let _ ← storeStep s id
        let n ← step.natOr "count" 0
        storeStep s fun st => { st with documentPuts := some n })
    | "fail_scans" => orFail (do
        let _ ← storeStep s id
        let n ← step.natOr "count" 1
        storeStep s fun st => { st with failingScans := n })
    | "cache_stats" =>
      match s.setup.overlay, s.host.sharedCache with
      | some .shared, some c => (.ok (statsJson c.stats), s)
      | _, _ => (.error (.request "needs an lru overlay"), s)
    | "write_file" => orFail (writeFileStep s step)
    | "corrupt_file" => orFail (corruptFileStep s step)
    | "delete_file" => orFail (deleteFileStep s step)
    | "list_files" => orFail (listFilesStep s)
    | _ =>
      match step.natOr "on" 0 with
      | .error f => (.error f, s)
      | .ok i => backendStep s i op step

/-- Runs steps in order, each seeing the session the last one left. -/
def sessionSteps (s : Session) : List Json → List Json
  | [] => []
  | step :: rest =>
    let (reply, s) := sessionStep s ⟨(step.fields?).getD []⟩
    replyJson reply :: sessionSteps s rest

/-! ## Setting up -/

/-- The cache layer an overlay field asks for: none without the field, a layer that keeps
nothing for the providers `broken` and `off`, and otherwise a least-recently-used cache the
host keeps, whose `capacity` must be a non-negative integer. -/
def overlayField (r : Request) : Except Failure (Option CacheLayer × Option LruCache) := do
  match r.get? "overlay" with
  | none => pure (none, none)
  | some v =>
    let o : Request := ⟨(v.fields?).getD []⟩
    match o.get? "provider" with
    | some (.string "broken") | some (.string "off") => pure (some .passThrough, none)
    | _ =>
      let capacity ← o.natOr "capacity" 1024
      pure (some .shared, some (LruCache.new "overlay" capacity (o.nat? "ttl_secs")))

/-- The files a session starts with, written under the root; a `files` value that is not
an array is left out. -/
def initialFiles (root : Option Path) (r : Request) : Except Failure FileTree := do
  match r.get? "files" with
  | some (.array items) =>
    let some root := root | .error (.request "files need root")
    items.foldlM (fun (t : FileTree) item => do
      let f : Request := ⟨(item.fields?).getD []⟩
      let path ← f.text "path"
      let bytes ← fileContents f
      Failure.lift (t.write (root ++ Path.ofText path) bytes)) {}
  | _ => pure {}

/-- `session`: a backend driven by steps. -/
def sessionOp (r : Request) : Reply := do
  let config ← match r.get? "config" with
    | none => pure {}
    | some (.object fs) => decoded "engine config" (EngineConfig.ofJson? (.object (Json.Fields.erase fs "root")))
    | some v => decoded "engine config" (EngineConfig.ofJson? v)
  let root : Option Path := match r.get? "root" with
    | some (.bool true) => some []
    | some (.string "missing") => some ["missing"]
    | _ => none
  let files ← initialFiles root r
  let sharedStore : Option KvStore := (r.get? "kv_store").map fun v =>
    { documentPuts := (Request.mk ((v.fields?).getD [])).nat? "document_puts" }
  let steps := r.arrayOrEmpty "ops"
  match overlayField r with
  | .error f => return Json.obj [("open", f.toJson), ("steps", .array [])]
  | .ok (overlay, cache) =>
    let setup : SessionSetup := ⟨{ config with root := none }, root, sharedStore.isSome, overlay⟩
    let host : Host := { files, clock := sessionEpoch, sharedStore := sharedStore.getD {}, sharedCache := cache }
    let (opened, s) := Session.startFirst ⟨setup, host, #[]⟩
    match opened with
    | .error e => return Json.obj [("open", errorJson e), ("steps", .array [])]
    | .ok () => return Json.obj [("open", .string "ok"), ("steps", .array (sessionSteps s steps))]

end TagStore.Api
