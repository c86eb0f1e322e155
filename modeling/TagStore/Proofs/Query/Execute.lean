import TagStore.Proofs.Run
import TagStore.Query.Plan
/-!
# Proofs.Query.Execute

Running a plan in a backend. A plan walks the members of a tag and loads documents by id;
when a load only reads (it leaves the host and the backend's state as they were and its
outcome depends on the id alone), the whole run only reads too, and its outcome is the
same plan run in the plain `Except` monad over the loads' outcomes (`exec_execute`,
`exec_count`). When the loads moreover never fail, a page of members loads to the members
that are still held, in order (`loadAll_ok`).
-/

namespace TagStore

section Reads

variable {σ : Type} {load : String → Run σ (Option Document)}
  {r : String → Except Error (Option Document)} {h : Host} {s : σ}

theorem exec_loadAll (hload : ∀ id, (load id).exec h s = (r id, h, s)) (ids : List String) :
    (loadAll load ids).exec h s = (loadAll r ids, h, s) := by
  induction ids with
  | nil => rfl
  | cons id ids ih =>
    simp only [loadAll, Run.exec_bind, hload]
    cases r id with
    | error e => rfl
    | ok d =>
      simp only [ih]
      cases loadAll r ids <;> rfl

theorem exec_countMatches (hload : ∀ id, (load id).exec h s = (r id, h, s)) (matcher : Matcher)
    (ids : List String) :
    (countMatches matcher load ids).exec h s = (countMatches matcher r ids, h, s) := by
  induction ids with
  | nil => rfl
  | cons id ids ih =>
    simp only [countMatches, Run.exec_bind, hload]
    cases r id with
    | error e => rfl
    | ok d =>
      simp only [ih]
      cases countMatches matcher r ids <;> rfl

theorem exec_collectMatches (hload : ∀ id, (load id).exec h s = (r id, h, s)) (matcher : Matcher)
    (limit : Nat) (ids : List String) (skip : Nat) (kept : List Document) :
    (collectMatches matcher limit load ids skip kept).exec h s =
      (collectMatches matcher limit r ids skip kept, h, s) := by
  induction ids generalizing skip kept with
  | nil => rfl
  | cons id ids ih =>
    simp only [collectMatches]
    split
    · rfl
    · simp only [Run.exec_bind, hload]
      cases r id with
      | error e => rfl
      | ok d =>
        cases d with
        | none => exact ih skip kept
        | some d =>
          -- the three ways on from a loaded document: not matched, skipped, or kept
          simp only [bind, Except.bind]
          by_cases hacc : matcher.accepts d = true
          · by_cases hskip : skip > 0
            · simp only [hacc, hskip, Bool.not_true, Bool.false_eq_true, if_false, if_true]
              exact ih (skip - 1) kept
            · simp only [hacc, hskip, Bool.not_true, Bool.false_eq_true, if_false]
              exact ih skip (d :: kept)
          · simp only [hacc, Bool.not_false, if_true]
            exact ih skip kept

/-- **A plan run over reading loads only reads.** -/
theorem exec_execute (hload : ∀ id, (load id).exec h s = (r id, h, s)) (index : TagIndex)
    (seed : Nat) (p : QueryPlan) :
    (p.execute index seed load).exec h s = (p.execute index seed r, h, s) := by
  cases p with
  | page tag offset limit => exact exec_loadAll hload _
  | random tag count => exact exec_loadAll hload _
  | filtered tag matcher offset limit => exact exec_collectMatches hload matcher limit _ offset []

theorem exec_count (hload : ∀ id, (load id).exec h s = (r id, h, s)) (index : TagIndex)
    (p : QueryPlan) : (p.count index load).exec h s = (p.count index r, h, s) := by
  cases p with
  | page tag _ _ => rfl
  | random tag _ => rfl
  | filtered tag matcher _ _ => exact exec_countMatches hload matcher _

end Reads

section PureReads

variable {σ : Type} (f : String → Option Document) (index : TagIndex) (p : QueryPlan) (h : Host)
  (s : σ)

/-- A plan over loads that read a fixed map runs as over loads that never fail. -/
theorem exec_execute_pure (seed : Nat) :
    (p.execute index seed fun id => (pure (f id) : Run σ (Option Document))).exec h s =
      (p.execute index seed fun id => (.ok (f id) : Except Error (Option Document)), h, s) :=
  exec_execute (fun _ => rfl) index seed p

theorem exec_count_pure :
    (p.count index fun id => (pure (f id) : Run σ (Option Document))).exec h s =
      (p.count index fun id => (.ok (f id) : Except Error (Option Document)), h, s) :=
  exec_count (fun _ => rfl) index p

end PureReads

/-- Loads that never fail load the documents still held, in order. -/
theorem loadAll_ok (f : String → Option Document) (ids : List String) :
    loadAll (fun id => (.ok (f id) : Except Error (Option Document))) ids = .ok (ids.filterMap f) := by
  induction ids with
  | nil => rfl
  | cons id ids ih =>
    simp only [loadAll, ih, List.filterMap_cons]
    cases f id <;> rfl

end TagStore
