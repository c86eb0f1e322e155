import TagStore.Storage.Host
/-!
# Proofs.Run

Operations of a backend, evaluated. An operation `Run σ α` is a function of the host and
the component's state to an outcome, a host and a state; `Run.exec` is that function, and
the lemmas below evaluate each building block of the backends (`pure`, `bind`, `throw`,
`try … catch`, reading and changing the host or the component's state, the clock) so that
an operation can be evaluated one step at a time with `simp only`.

`Run.Keeps P op` says that `op` keeps a property of the component's state from any host
and whether it succeeds or fails; it is how invariants of the backends are stated.
-/

namespace TagStore

namespace Run

variable {σ τ α β : Type}

/-- The outcome of an operation from a host and a component state, with the host and the
state after it. -/
def exec (op : Run σ α) (h : Host) (s : σ) : Except Error α × Host × σ :=
  (ExceptT.run op).run (h, s)

@[simp] theorem exec_pure (a : α) (h : Host) (s : σ) : (pure a : Run σ α).exec h s = (.ok a, h, s) :=
  rfl

@[simp] theorem exec_bind (op : Run σ α) (f : α → Run σ β) (h : Host) (s : σ) :
    (op >>= f).exec h s =
      match op.exec h s with
      | (.ok a, h', s') => (f a).exec h' s'
      | (.error e, h', s') => (.error e, h', s') := by
  simp only [exec, ExceptT.run_bind, StateT.run_bind]
  rcases (ExceptT.run op).run (h, s) with ⟨_ | _, h', s'⟩ <;> rfl

@[simp] theorem exec_map (f : α → β) (op : Run σ α) (h : Host) (s : σ) :
    (f <$> op).exec h s =
      match op.exec h s with
      | (.ok a, h', s') => (.ok (f a), h', s')
      | (.error e, h', s') => (.error e, h', s') := by
  simp only [exec, ExceptT.run_map, StateT.run_map]
  rcases (ExceptT.run op).run (h, s) with ⟨_ | _, h', s'⟩ <;> rfl

@[simp] theorem exec_throw (e : Error) (h : Host) (s : σ) :
    (throw e : Run σ α).exec h s = (.error e, h, s) :=
  rfl

@[simp] theorem exec_tryCatch (op : Run σ α) (handle : Error → Run σ α) (h : Host) (s : σ) :
    (tryCatch op handle).exec h s =
      match op.exec h s with
      | (.ok a, h', s') => (.ok a, h', s')
      | (.error e, h', s') => (handle e).exec h' s' := by
  simp only [exec, ExceptT.run_tryCatch, StateT.run_bind]
  rcases (ExceptT.run op).run (h, s) with ⟨_ | _, h', s'⟩ <;> rfl

@[simp] theorem exec_self (h : Host) (s : σ) : (Run.self : Run σ σ).exec h s = (.ok s, h, s) :=
  rfl

@[simp] theorem exec_host (h : Host) (s : σ) : (Run.host : Run σ Host).exec h s = (.ok h, h, s) :=
  rfl

@[simp] theorem exec_modifySelf (f : σ → σ) (h : Host) (s : σ) :
    (Run.modifySelf f).exec h s = (.ok (), h, f s) :=
  rfl

@[simp] theorem exec_modifyHost (f : Host → Host) (h : Host) (s : σ) :
    (Run.modifyHost f : Run σ Unit).exec h s = (.ok (), f h, s) :=
  rfl

@[simp] theorem exec_ofOutcome (o : Outcome α) (h : Host) (s : σ) :
    (Run.ofOutcome o : Run σ α).exec h s = (o, h, s) := by
  cases o <;> rfl

@[simp] theorem exec_now (h : Host) (s : σ) :
    (Run.now : Run σ Int).exec h s = (.ok h.clock, { h with clock := h.clock + 1 }, s) :=
  rfl

@[simp] theorem exec_files (h : Host) (s : σ) : (Run.files : Run σ FileTree).exec h s = (.ok h.files, h, s) :=
  rfl

@[simp] theorem exec_changeFiles (f : FileTree → Outcome FileTree) (h : Host) (s : σ) :
    (Run.changeFiles f : Run σ Unit).exec h s =
      match f h.files with
      | .ok t => (.ok (), { h with files := t }, s)
      | .error e => (.error e, h, s) := by
  simp only [Run.changeFiles, exec_bind, exec_files, exec_ofOutcome]
  cases f h.files <;> rfl

@[simp] theorem exec_within (wrap : τ → σ) (t : τ) (op : Run τ α) (h : Host) (s : σ) :
    (Run.within wrap t op).exec h s =
      ((op.exec h t).1, (op.exec h t).2.1, wrap (op.exec h t).2.2) :=
  rfl

/-- An operation keeps a property of the component's state, from any host and however it
ends. -/
def Keeps (P : σ → Prop) (op : Run σ α) : Prop := ∀ h s, P s → P (op.exec h s).2.2

theorem keeps_pure (P : σ → Prop) (a : α) : Keeps P (pure a : Run σ α) := fun _ _ hs => hs

theorem keeps_throw (P : σ → Prop) (e : Error) : Keeps P (throw e : Run σ α) := fun _ _ hs => hs

theorem keeps_bind {P : σ → Prop} {op : Run σ α} {f : α → Run σ β} (hop : Keeps P op)
    (hf : ∀ a, Keeps P (f a)) : Keeps P (op >>= f) := by
  intro h s hs
  rw [exec_bind]
  have hs' := hop h s hs
  rcases hexec : op.exec h s with ⟨_ | a, h', s'⟩
  · rw [hexec] at hs'
    exact hs'
  · rw [hexec] at hs'
    exact hf a h' s' hs'

theorem keeps_map {P : σ → Prop} {op : Run σ α} (f : α → β) (hop : Keeps P op) :
    Keeps P (f <$> op) := by
  intro h s hs
  rw [exec_map]
  have hs' := hop h s hs
  rcases hexec : op.exec h s with ⟨_ | a, h', s'⟩ <;> rw [hexec] at hs' <;> exact hs'

theorem keeps_tryCatch {P : σ → Prop} {op : Run σ α} {handle : Error → Run σ α} (hop : Keeps P op)
    (hhandle : ∀ e, Keeps P (handle e)) : Keeps P (tryCatch op handle) := by
  intro h s hs
  rw [exec_tryCatch]
  have hs' := hop h s hs
  rcases hexec : op.exec h s with ⟨e | a, h', s'⟩
  · rw [hexec] at hs'
    exact hhandle e h' s' hs'
  · rw [hexec] at hs'
    exact hs'

theorem keeps_forM {P : σ → Prop} {f : α → Run σ PUnit} :
    ∀ (l : List α), (∀ a ∈ l, Keeps P (f a)) → Keeps P (l.forM f)
  | [], _ => keeps_pure P _
  | a :: l, hf => by
    show Keeps P (f a >>= fun _ => l.forM f)
    exact keeps_bind (hf a List.mem_cons_self) fun _ =>
      keeps_forM l fun b hb => hf b (List.mem_cons_of_mem _ hb)

theorem keeps_mapM {P : σ → Prop} {f : α → Run σ β} :
    ∀ (l : List α), (∀ a ∈ l, Keeps P (f a)) → Keeps P (l.mapM f)
  | [], _ => keeps_pure P _
  | a :: l, hf => by
    rw [List.mapM_cons]
    exact keeps_bind (hf a List.mem_cons_self) fun _ =>
      keeps_bind (keeps_mapM l fun b hb => hf b (List.mem_cons_of_mem _ hb)) fun _ => keeps_pure P _

theorem keeps_modifySelf {P : σ → Prop} {f : σ → σ} (hf : ∀ s, P s → P (f s)) :
    Keeps P (Run.modifySelf f) :=
  fun _ s hs => hf s hs

/-- An operation that never changes the component's state keeps every property of it. -/
theorem keeps_of_exec {op : Run σ α} (hop : ∀ h s, (op.exec h s).2.2 = s) (P : σ → Prop) :
    Keeps P op := by
  intro h s hs
  rw [hop h s]
  exact hs

theorem keeps_self (P : σ → Prop) : Keeps P (Run.self : Run σ σ) := fun _ _ hs => hs

theorem keeps_now (P : σ → Prop) : Keeps P (Run.now : Run σ Int) := fun _ _ hs => hs

theorem keeps_files (P : σ → Prop) : Keeps P (Run.files : Run σ FileTree) := fun _ _ hs => hs

theorem keeps_onHost (P : σ → Prop) (op : Run Unit α) : Keeps P (Run.onHost op : Run σ α) :=
  fun _ _ hs => hs

theorem keeps_ofOutcome (P : σ → Prop) (o : Outcome α) : Keeps P (Run.ofOutcome o : Run σ α) :=
  keeps_of_exec (fun h s => by rw [exec_ofOutcome]) P

theorem keeps_changeFiles (P : σ → Prop) (f : FileTree → Outcome FileTree) :
    Keeps P (Run.changeFiles f : Run σ Unit) :=
  keeps_of_exec (fun h s => by rw [exec_changeFiles]; cases f h.files <;> rfl) P

end Run

end TagStore
