import TagStore.Storage.Files
import TagStore.Storage.KvStore
import TagStore.Cache.Lru
/-!
# Storage.Host

What the backends of one engine share: the directory tree they persist to, which engine
holds the lock on its persistence directory, the clock, a key-value store that several
backends can be opened over, and a cache that outlives the backend it serves.

An operation of a backend runs against the host and the backend's own state, and both
survive a failure: a batch that stops half way has still written what it wrote. `Run σ`
is that shape of operation for a component whose state is `σ`; `Run.focus` runs an
operation of a part of the state, such as the backend inside a cache layer.

The clock gives each reading a time one millisecond after the last, so that whatever is
written later is also later in time.
-/

namespace TagStore

/-- What the backends of an engine share. -/
structure Host where
  files : FileTree := {}
  /-- The engine instance that holds the lock on the persistence directory. -/
  lockHolder : Option Nat := none
  /-- The time of the next reading, in milliseconds since 1970. -/
  clock : Int
  /-- Engine instances made so far, which numbers the next one. -/
  instances : Nat := 0
  /-- The key-value store that backends can share. -/
  sharedStore : KvStore := {}
  /-- The cache that outlives the backends it serves. -/
  sharedCache : Option LruCache := none

/-- An operation of a component with state `σ`, run against the host. -/
abbrev Run (σ α : Type) := ExceptT Error (StateM (Host × σ)) α

namespace Run

variable {σ τ α : Type}

/-- The host. -/
def host : Run σ Host := do return (← get).1

/-- Change the host. -/
def modifyHost (f : Host → Host) : Run σ Unit := modify fun (h, s) => (f h, s)

/-- The component's own state. -/
def self : Run σ σ := do return (← get).2

/-- Change the component's own state. -/
def modifySelf (f : σ → σ) : Run σ Unit := modify fun (h, s) => (h, f s)

/-- Fail unless the outcome is a value. -/
def ofOutcome (o : Outcome α) : Run σ α :=
  match o with
  | .ok a => pure a
  | .error e => throw e

/-- Run an operation of a component whose state is `t`; the whole state becomes `wrap`
of the component's new state. -/
def within (wrap : τ → σ) (t : τ) (m : Run τ α) : Run σ α :=
  ExceptT.mk fun (st : Host × σ) =>
    let (r, h, t') := StateT.run (ExceptT.run m) (st.1, t)
    (r, h, wrap t')

/-- Run an operation of a part of the state: `view` picks the part, `update` puts the
changed part back. -/
def focus (view : σ → τ) (update : σ → τ → σ) (m : Run τ α) : Run σ α := do
  let s ← self
  within (update s) (view s) m

/-- Run an operation of a component that is not part of the state, from the component
state `t`: its value and the component's final state. -/
def detached (t : τ) (m : Run τ α) : Run σ (α × τ) :=
  ExceptT.mk fun (st : Host × σ) =>
    let (r, h, t') := StateT.run (ExceptT.run m) (st.1, t)
    (r.map (·, t'), h, st.2)

/-- Run an operation on the host alone. -/
def onHost (m : Run Unit α) : Run σ α :=
  ExceptT.mk fun (st : Host × σ) =>
    let (r, h, _) := StateT.run (ExceptT.run m) (st.1, ())
    (r, h, st.2)

/-- The time now; the next reading is one millisecond later. -/
def now : Run σ Int := do
  let h ← host
  modifyHost fun h => { h with clock := h.clock + 1 }
  pure h.clock

/-- A fresh number for an engine instance. -/
def freshInstance : Run σ Nat := do
  let h ← host
  modifyHost fun h => { h with instances := h.instances + 1 }
  pure h.instances

/-- The directory tree. -/
def files : Run σ FileTree := do return (← host).files

/-- Replace the directory tree by the outcome of a change to it. -/
def changeFiles (f : FileTree → Outcome FileTree) : Run σ Unit := do
  let t ← ofOutcome (f (← files))
  modifyHost fun h => { h with files := t }

end Run

end TagStore
