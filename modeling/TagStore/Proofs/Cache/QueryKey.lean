import Std.Data.String.ToNat
import TagStore.Proofs.Cache.Key
import TagStore.Query.Plan
/-!
# Proofs.Cache.QueryKey

A cache key names its dataset, operation and parameters and nothing else
(`Cache.key_eq_key_iff`), so the key of a query names the query's resolved page, resolved
tag, kind and the text of its options (`Cache.queryKey_eq_iff`), and the key of a count
the same without the page (`Cache.countKey_eq_iff`).

That is what the planner reads of a query. It sees the tag only once resolved and the page
only once resolved (`Planner.plan_congr`), and the page only to place the offset, which a
count never looks at (`Planner.plan_map_unpaged`, `QueryPlan.count_unpaged`). So two
queries under one query key plan alike on every configuration, and two under one count key
count alike, once the text of an options map determines the map.
-/

namespace TagStore

/-- Each kind has its own name. -/
theorem QueryKind.name_inj {a b : QueryKind} : a.name = b.name ↔ a = b := by
  cases a <;> cases b <;> simp [QueryKind.name]

namespace Cache

/-- **Two keys are equal exactly when their datasets, operations and parameters are.** -/
theorem key_eq_key_iff {d d' o o' : String} {ps ps' : List String} :
    key d o ps = key d' o' ps' ↔ d = d' ∧ o = o' ∧ ps = ps' := by
  constructor
  · exact key_inj
  · rintro ⟨rfl, rfl, rfl⟩
    rfl

theorem queryKey_eq_iff {d d' : String} {q q' : QuerySpec} :
    queryKey d q = queryKey d' q' ↔
      d = d' ∧ q.resolvedPage = q'.resolvedPage ∧ q.resolvedTag = q'.resolvedTag ∧
        q.kind = q'.kind ∧ Json.render (.object q.options) = Json.render (.object q'.options) := by
  simp only [queryKey, key_eq_key_iff, List.cons.injEq, and_true, true_and, QueryKind.name_inj]
  rw [show toString q.resolvedPage = toString q'.resolvedPage ↔ q.resolvedPage = q'.resolvedPage
    from Nat.repr_inj]

theorem countKey_eq_iff {d d' : String} {q q' : QuerySpec} :
    countKey d q = countKey d' q' ↔
      d = d' ∧ q.resolvedTag = q'.resolvedTag ∧ q.kind = q'.kind ∧
        Json.render (.object q.options) = Json.render (.object q'.options) := by
  simp only [countKey, key_eq_key_iff, List.cons.injEq, and_true, true_and, QueryKind.name_inj]

end Cache

/-! ## What the planner reads of a query -/

/-- A plan with its offset at zero: all of a plan that a count reads. -/
def QueryPlan.unpaged : QueryPlan → QueryPlan
  | .page tag _ limit => .page tag 0 limit
  | .random tag count => .random tag count
  | .filtered tag matcher _ limit => .filtered tag matcher 0 limit

/-- A count does not read the offset. -/
theorem QueryPlan.count_unpaged {m : Type → Type} [Monad m] (plan : QueryPlan) (index : TagIndex)
    (load : String → m (Option Document)) : plan.unpaged.count index load = plan.count index load := by
  cases plan <;> rfl

namespace Planner

variable (p : Planner) (d : String) (config : Option Document)

/-- The planner reads a query only through its kind, its resolved tag, its resolved page and
its options. -/
theorem plan_congr {q q' : QuerySpec} (hkind : q.kind = q'.kind) (htag : q.resolvedTag = q'.resolvedTag)
    (hpage : q.resolvedPage = q'.resolvedPage) (hopts : q.options = q'.options) :
    p.plan d config q = p.plan d config q' := by
  have hsize : ∀ c, p.pageSize c q = p.pageSize c q' := fun c => by
    simp only [pageSize, hopts]
  have htext : q.searchText = q'.searchText := by simp only [QuerySpec.searchText, hopts]
  have hcustom : q.customQuery = q'.customQuery := by simp only [QuerySpec.customQuery, hopts]
  simp only [plan, hsize, htag, hpage, hkind, hopts, htext, hcustom]

/-- The page of a query moves only the offset of its plan. -/
theorem plan_withPage_unpaged (q : QuerySpec) (pg : Int64) :
    (p.plan d config { q with page := pg }).map QueryPlan.unpaged =
      (p.plan d config q).map QueryPlan.unpaged := by
  cases config with
  | none => rfl
  | some c =>
    -- everything but the offset is read from fields the page leaves alone
    have hsize : p.pageSize c { q with page := pg } = p.pageSize c q := rfl
    have htag : ({ q with page := pg } : QuerySpec).resolvedTag = q.resolvedTag := rfl
    have htext : ({ q with page := pg } : QuerySpec).searchText = q.searchText := rfl
    have hcustom : ({ q with page := pg } : QuerySpec).customQuery = q.customQuery := rfl
    have hpage : ({ q with page := pg } : QuerySpec).resolvedPage = pg.toInt.toNat := rfl
    simp only [plan, hsize, htag, htext, hcustom, hpage]
    -- every case is closed by reducing both sides: `rfl` would have the kernel compare the
    -- two offsets, saturated at a 64-bit bound, and that unfolds the bound in unary
    cases p.pageSize c q with
    | error e => simp only [bind, Except.bind]
    | ok limit =>
      simp only [bind, Except.bind]
      -- the two offsets are all that differs, and `unpaged` forgets them
      generalize min (pg.toInt.toNat * limit) wordMax = o₁
      generalize min (q.resolvedPage * limit) wordMax = o₂
      cases q.kind with
      | pages => simp [pure, Except.pure, Except.map, QueryPlan.unpaged]
      | random => rfl
      | search =>
        cases q.searchText with
        | none => simp [Except.map]
        | some text =>
          by_cases hblank : Text.isBlankText text
          · simp [hblank, Except.map]
          · simp [hblank, pure, Except.pure, Except.map, QueryPlan.unpaged]
      | custom =>
        cases q.customQuery with
        | none => simp [Except.map]
        | some payload =>
          dsimp only
          cases Filter.ofJson payload with
          | error e => simp [Except.map]
          | ok f => simp [pure, Except.pure, Except.map, QueryPlan.unpaged]

/-- Two queries of one kind, resolved tag and options plan alike up to the offset. -/
theorem plan_map_unpaged {q q' : QuerySpec} (hkind : q.kind = q'.kind)
    (htag : q.resolvedTag = q'.resolvedTag) (hopts : q.options = q'.options) :
    (p.plan d config q).map QueryPlan.unpaged = (p.plan d config q').map QueryPlan.unpaged := by
  rw [← plan_withPage_unpaged p d config q q'.page]
  congr 1
  exact plan_congr p d config hkind htag rfl hopts

end Planner

/-! ## Cache keys never collide -/

/-- **Cache keys never collide.** A key is made of its dataset, operation and parameters
and determines them. Two queries under one query key of a dataset have the same kind,
resolved tag, resolved page and options, and plan alike under every configuration; two
under one count key have the same kind, resolved tag and options, and count alike under
every configuration, index and loader. Options are compared through their text, so the
text of an options map is assumed to determine the map. -/
theorem cache_keys_never_collide (d : String) (q q' : QuerySpec)
    (hopts : Json.render (.object q.options) = Json.render (.object q'.options) → q.options = q'.options) :
    (∀ (d₁ d₂ o₁ o₂ : String) (ps₁ ps₂ : List String),
      Cache.key d₁ o₁ ps₁ = Cache.key d₂ o₂ ps₂ ↔ d₁ = d₂ ∧ o₁ = o₂ ∧ ps₁ = ps₂) ∧
    (Cache.queryKey d q = Cache.queryKey d q' →
      q.kind = q'.kind ∧ q.resolvedTag = q'.resolvedTag ∧ q.resolvedPage = q'.resolvedPage ∧
        q.options = q'.options ∧
        ∀ (p : Planner) (config : Option Document), p.plan d config q = p.plan d config q') ∧
    (Cache.countKey d q = Cache.countKey d q' →
      q.kind = q'.kind ∧ q.resolvedTag = q'.resolvedTag ∧ q.options = q'.options ∧
        ∀ (p : Planner) (config : Option Document) (index : TagIndex) {m : Type → Type} [Monad m]
          (load : String → m (Option Document)),
          QueryPlan.count index load <$> p.plan d config q =
            QueryPlan.count index load <$> p.plan d config q') := by
  refine ⟨fun _ _ _ _ _ _ => Cache.key_eq_key_iff, ?_, ?_⟩
  · intro hkey
    obtain ⟨-, hpage, htag, hkind, htext⟩ := Cache.queryKey_eq_iff.1 hkey
    have ho := hopts htext
    exact ⟨hkind, htag, hpage, ho, fun p config => Planner.plan_congr p d config hkind htag hpage ho⟩
  · intro hkey
    obtain ⟨-, htag, hkind, htext⟩ := Cache.countKey_eq_iff.1 hkey
    have ho := hopts htext
    refine ⟨hkind, htag, ho, fun p config index m _ load => ?_⟩
    -- a count reads the plan only up to its offset
    have hcount : QueryPlan.count index load = QueryPlan.count index load ∘ QueryPlan.unpaged := by
      funext plan
      exact (QueryPlan.count_unpaged plan index load).symm
    rw [hcount, comp_map, comp_map]
    exact congrArg _ (Planner.plan_map_unpaged p d config hkind htag ho)

/-- A query with no tag on a negative page and one of the chronological tag on the first page
share their query and count keys, and plan and count alike. -/
theorem cache_keys_never_collide_resolved :
    (Json.render (.object ({ page := -3 } : QuerySpec).options) =
        Json.render (.object ({ tag := some dateTag } : QuerySpec).options) →
      ({ page := -3 } : QuerySpec).options = ({ tag := some dateTag } : QuerySpec).options) ∧
    Cache.queryKey "blog" { page := -3 } = Cache.queryKey "blog" { tag := some dateTag } ∧
    ∀ (p : Planner) (config : Option Document),
      p.plan "blog" config { page := -3 } = p.plan "blog" config { tag := some dateTag } := by
  have hopts : Json.render (.object ({ page := -3 } : QuerySpec).options) =
      Json.render (.object ({ tag := some dateTag } : QuerySpec).options) →
      ({ page := -3 } : QuerySpec).options = ({ tag := some dateTag } : QuerySpec).options :=
    fun _ => rfl
  have hkey : Cache.queryKey "blog" { page := -3 } = Cache.queryKey "blog" { tag := some dateTag } :=
    Cache.queryKey_eq_iff.2 ⟨rfl, by decide, by simp [QuerySpec.resolvedTag], rfl, rfl⟩
  exact ⟨hopts, hkey, ((cache_keys_never_collide "blog" _ _ hopts).2.1 hkey).2.2.2.2⟩

end TagStore
