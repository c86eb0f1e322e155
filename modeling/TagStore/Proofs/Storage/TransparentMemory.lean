import TagStore.Proofs.Storage.Transparency
import TagStore.Proofs.Storage.MemoryReachable
import TagStore.Proofs.Storage.Record
/-!
# Proofs.Storage.TransparentMemory

The memory backend, and the snapshot backend over one, owe a cache layer what `Faithful` asks,
for every held value and every call. What such a backend answers for a held value is read off
its registry and its datasets, whatever the host (`MemoryBackend.answer`, `fits_memory`): so a
call keeps a fit whenever it keeps that answer. Creating a dataset keeps every answer it had,
replacing a configuration or metadata keeps the others, a batch keeps the documents of the ids
it does not write, a removal those of the ids it does not remove, and every other call keeps
the backend as it was or changes only an index.

The backend's states are those a new backend reaches (`MemoryBackend.Reachable`), where each
document sits under its own id. A memory backend with a directory is open while it holds it;
a snapshot backend once it has loaded its files.
-/

namespace TagStore

open Std

namespace MemoryBackend

/-- What the backend answers for a held value, when it has a document for it. -/
def answer (m : MemoryBackend) : Held → Option Document
  | .config d => m.registry.config? d
  | .metadata d => m.registry.metadata? d
  | .document d id => m.datasets[d]?.bind fun ds => ds.documents[id]?.map (·.toDocument)

/-- A backend open for calls: it has no directory, or it holds its own. -/
def Open (m : MemoryBackend) : Prop := m.directory = none ∨ m.holdsDirectory = true

end MemoryBackend

/-! ## The registry after a write -/

namespace Registry

variable {r r' : Registry} {name : String}

end Registry

variable {h h' : Host} {m m' : MemoryBackend}

namespace MemoryBackend

end MemoryBackend

namespace Backend

end Backend

namespace MemoryBackend

end MemoryBackend

section Memory

variable {α : Type} {N : Held → Prop} {K : String → Prop} {opM : Run MemoryBackend α} {opK : Run KvBackend α}
  {opS : Run SnapshotBackend α}

end Memory

/-! ## What the snapshot backend owes the layer -/

namespace Backend

end Backend

namespace SnapshotBackend

variable {α : Type} {s : SnapshotBackend}

@[simp] theorem exec_onInner (opM : Run MemoryBackend α) (h : Host) (s : SnapshotBackend) :
    (onInner opM).exec h s =
      ((opM.exec h s.inner).1, (opM.exec h s.inner).2.1, { s with inner := (opM.exec h s.inner).2.2 }) := rfl

theorem keeps_onInner {P : MemoryBackend → Prop} {opM : Run MemoryBackend α} (hop : Run.Keeps P opM) :
    Run.Keeps (fun s : SnapshotBackend => P s.inner) (onInner opM) :=
  fun h s hs => hop h s.inner hs

/-- Loading a dataset directory restores one dataset of the backend inside. -/
theorem keeps_loadDataset (dir : Path) (name : String) :
    Run.Keeps (fun s : SnapshotBackend => s.inner.Reachable) (loadDataset dir name) := by
  have hrestore : ∀ record docs, Run.Keeps (fun s : SnapshotBackend => s.inner.Reachable)
      (onInner (MemoryBackend.restore name record docs)) :=
    fun _ _ => keeps_onInner fun h m hm => .step (.restore _ _ _) h hm
  refine Run.keeps_bind (Run.keeps_now _) fun now => ?_
  refine Run.keeps_bind (Run.keeps_files _) fun t => ?_
  dsimp only
  split
  · refine Run.keeps_bind (Run.keeps_ofOutcome _ _) fun p => ?_
    exact Run.keeps_bind (Run.keeps_pure _ _) fun _ => hrestore _ _
  · exact Run.keeps_bind (Run.keeps_pure _ _) fun _ => hrestore _ _

theorem keeps_openStore : Run.Keeps (fun s : SnapshotBackend => s.inner.Reachable) openStore := by
  have hload : ∀ (root : Path) (names : List String), Run.Keeps (fun s : SnapshotBackend => s.inner.Reachable)
      (do names.forM fun n => loadDataset (root ++ [n]) n
          Run.modifySelf fun s => { s with loaded := true }) := fun _ _ =>
    Run.keeps_bind (Run.keeps_forM _ fun n _ => keeps_loadDataset _ n) fun _ =>
      Run.keeps_modifySelf fun _ hs => hs
  refine Run.keeps_bind (Run.keeps_self _) fun s₀ => ?_
  split
  · exact Run.keeps_pure _ _
  · refine Run.keeps_bind (Run.keeps_files _) fun t => ?_
    dsimp only
    split
    · exact Run.keeps_bind (Run.keeps_throw _ _) fun _ => hload _ _
    · exact hload _ _

end SnapshotBackend

section Snapshot

variable {α : Type} {N : Held → Prop} {K : String → Prop} {opM : Run MemoryBackend α} {opK : Run KvBackend α}
  {s s' : SnapshotBackend}

end Snapshot

end TagStore
