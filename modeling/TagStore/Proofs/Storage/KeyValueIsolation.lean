import TagStore.Proofs.Storage.KeyValueStore
/-!
# Proofs.Storage.KeyValueIsolation

Datasets of a key-value backend are kept apart by their keys. The keys of a dataset under
the key prefix (`DatasetKey`) are its configuration, metadata and counts and every key
under its document prefix; each starts with the prefix, the name and a `/`. For names
without `/` that `/` is the first one after the prefix, so a key belongs to at most one
dataset (`DatasetKey.eq`), and the key of the dataset names belongs to none.

Every call writes only keys of the dataset it names and the dataset names (`Call.keys`,
`Call.next_writes`), from any state, over any store, whether it succeeds or fails. Hence:

* a call naming one dataset leaves every key of another as it was (`Call.keeps_other_dataset`);
* the configuration key of a dataset without `/` is written by no call on another dataset,
  whatever that dataset's name, since it holds one `/` after the prefix where a document key
  holds two; a replacement of the configuration needs it to be there already. So the
  dataset comes to exist only through its creation (`Call.eq_create_of_config_appears`),
  and along any run of calls it exists at the end only if the run created it
  (`Call.mem_of_hasDataset_run`).

**Main statement.** `KvBackend.datasets_isolated`.

Names with `/` are left out on purpose: a document id may hold `/`, so the keys of a
document of one dataset can be the configuration key of such a name.
-/

namespace TagStore

open Std

namespace KvBackend

/-- The keys of a dataset under a key prefix: its configuration, its metadata, its counts
and every key under its document prefix. -/
def DatasetKey (p name key : String) : Prop :=
  key = p ++ name ++ "/config" ∨ key = p ++ name ++ "/metadata" ∨ key = p ++ name ++ "/index" ∨
    key.startsWith (p ++ name ++ "/doc/") = true

/-! ## Keys of names without `/` -/

instance : DecidablePred Slashless := fun name => inferInstanceAs (Decidable ('/' ∉ name.toList))

theorem starts_name_slash_append {p n : String} (rest : String) :
    (p ++ n ++ "/").toList <+: (p ++ n ++ ("/" ++ rest)).toList := by
  rw [← String.append_assoc]
  simp only [String.toList_append]
  exact List.prefix_append _ _

/-- Every key of a dataset starts with its name and a `/` after the prefix. -/
theorem DatasetKey.starts_name_slash {p n key : String} (hkey : DatasetKey p n key) :
    (p ++ n ++ "/").toList <+: key.toList := by
  rcases hkey with rfl | rfl | rfl | hdoc
  · exact starts_name_slash_append "config"
  · exact starts_name_slash_append "metadata"
  · exact starts_name_slash_append "index"
  · exact (starts_name_slash_append "doc/").trans (String.startsWith_string_iff.1 hdoc)

/-- A key of two datasets without `/` belongs to one dataset. -/
theorem DatasetKey.eq {p d e key : String} (hd : DatasetKey p d key) (he : DatasetKey p e key)
    (sd : Slashless d) (se : Slashless e) : d = e := by
  have hslash : "/".toList = ['/'] := rfl
  have key_d := hd.starts_name_slash
  have key_e := he.starts_name_slash
  simp only [String.toList_append, hslash, List.append_assoc] at key_d key_e
  -- both start the key, so one starts the other, and the first `/` after the prefix decides
  rcases List.prefix_or_prefix_of_prefix key_d key_e with hp | hp
  · exact String.toList_inj.1 (@prefix_slash _ _ [] [] se sd
      ((List.prefix_append_right_inj _).1 hp)).1.symm
  · exact String.toList_inj.1 (@prefix_slash _ _ [] [] sd se
      ((List.prefix_append_right_inj _).1 hp)).1

/-- The key of the dataset names is no key of a dataset: it has no `/` after the prefix. -/
theorem not_datasetKey_datasets (p n : String) : ¬ DatasetKey p n (p ++ "datasets") := by
  intro hkey
  have hpre := hkey.starts_name_slash
  simp only [String.toList_append, List.append_assoc] at hpre
  have hslash : '/' ∈ "datasets".toList :=
    ((List.prefix_append_right_inj _).1 hpre).subset (by simp)
  revert hslash
  decide

/-! ## The configuration key against every other key -/

section ConfigKey

variable {p e n : String}

theorem configKey_ne_datasets : p ++ e ++ "/config" ≠ p ++ "datasets" := fun heq =>
  not_datasetKey_datasets p e (heq ▸ .inl rfl)

/-- Two keys of one shape are the same only for one dataset. -/
theorem name_eq_of_key_eq {pre last : String} (heq : pre ++ n ++ last = pre ++ e ++ last) : n = e :=
  (String.append_right_inj pre).1 ((String.append_left_inj last).1 heq)

/-- Two keys whose last characters differ are different. -/
theorem append_ne_of_getLast? {a b s t : String} (hs : s.toList ≠ [])
    (hlast : s.toList.getLast? ≠ t.toList.getLast?) (ht : t.toList ≠ []) : a ++ s ≠ b ++ t := by
  intro heq
  have hlist := congrArg (fun x : String => x.toList.getLast?) heq
  simp only [String.toList_append, List.getLast?_append] at hlist
  obtain ⟨x, hx⟩ := Option.isSome_iff_exists.1 (List.getLast?_isSome.2 hs)
  obtain ⟨y, hy⟩ := Option.isSome_iff_exists.1 (List.getLast?_isSome.2 ht)
  rw [hx, hy, Option.some_or, Option.some_or] at hlist
  exact hlast (by rw [hx, hy, hlist])

theorem config_ne_metadata : p ++ e ++ "/config" ≠ p ++ n ++ "/metadata" :=
  append_ne_of_getLast? (by decide) (by decide) (by decide)

theorem config_ne_index : p ++ e ++ "/config" ≠ p ++ n ++ "/index" :=
  append_ne_of_getLast? (by decide) (by decide) (by decide)

/-- A key of a dataset without `/` that ends in a part with one `/` is under no document
prefix, whatever the other name: what follows the prefix holds one `/`, a document prefix
two. -/
theorem not_startsWith_doc_of_count (se : Slashless e) {last : String} (hlast : last.toList.count '/' = 1) :
    (p ++ e ++ last).startsWith (p ++ n ++ "/doc/") = false := by
  rw [Bool.eq_false_iff]
  intro hsw
  rw [String.append_assoc, String.append_assoc, startsWith_append_iff] at hsw
  have hcount := hsw.sublist.count_le '/'
  simp only [String.toList_append, List.count_append] at hcount
  have he : List.count '/' e.toList = 0 := List.count_eq_zero.2 se
  have hdoc : List.count '/' "/doc/".toList = 2 := by decide
  omega

theorem config_not_startsWith_doc (se : Slashless e) :
    (p ++ e ++ "/config").startsWith (p ++ n ++ "/doc/") = false :=
  not_startsWith_doc_of_count se (by decide)

end ConfigKey

/-! ## What a call writes -/

namespace Call

/-- The keys a call may write, under the key prefix `p`: a creation writes the dataset's
metadata and configuration and the dataset names, a batch its counts and documents, and a
call that uses a dataset's index its counts. -/
def keys (p : String) : Call → String → Prop
  | .create n => fun key => key = p ++ "datasets" ∨ key = p ++ n ++ "/config" ∨ key = p ++ n ++ "/metadata"
  | .setConfig n _ => fun key => key = p ++ n ++ "/config"
  | .setMetadata n _ => fun key => key = p ++ n ++ "/metadata"
  | .index n | .tagData n _ | .query n _ | .count n _ | .recalculate n => fun key => key = p ++ n ++ "/index"
  | .insertWith n _ _ | .remove n _ => BatchKey p n
  | .hasDataset _ | .config _ | .metadata _ | .read _ _ | .list => fun _ => False

/-- **A call writes only its keys**, from any state and however it ends, and keeps the key
prefix and the codec. -/
theorem next_writes (c : Call) {p : String} (h : Host) (k : KvBackend) (hp : k.keyPrefix = p) :
    (c.next h k).2.keyPrefix = p ∧ (c.next h k).2.codec = k.codec ∧
      ∀ key, ¬ c.keys p key → (entriesIn (c.next h k).1 (c.next h k).2)[key]? = (entriesIn h k)[key]? := by
  cases c with
  | create n => exact writesWithin_create (.inr (.inr rfl)) (.inr (.inl rfl)) (.inl rfl) h k hp
  | hasDataset n => exact writesWithin_hasDataset h k hp
  | config n => exact writesWithin_config h k hp
  | setConfig n d => exact writesWithin_setConfig (W := (· = p ++ n ++ "/config")) d rfl h k hp
  | metadata n => exact writesWithin_metadata h k hp
  | setMetadata n d => exact writesWithin_setMetadata (W := (· = p ++ n ++ "/metadata")) d rfl h k hp
  | index n => exact writesWithin_index (W := (· = p ++ n ++ "/index")) rfl h k hp
  | tagData n tag => exact writesWithin_tagData (W := (· = p ++ n ++ "/index")) tag rfl h k hp
  | insertWith n options requests => exact writesWithin_insertWith options requests (fun _ hkey => hkey) h k hp
  | read n ids => exact writesWithin_read ids h k hp
  | remove n ids => exact writesWithin_remove ids (fun _ hkey => hkey) h k hp
  | query n spec => exact writesWithin_query (W := (· = p ++ n ++ "/index")) spec rfl h k hp
  | count n spec => exact writesWithin_count (W := (· = p ++ n ++ "/index")) spec rfl h k hp
  | list => exact writesWithin_list h k hp
  | recalculate n => exact writesWithin_recalculate (W := (· = p ++ n ++ "/index")) rfl h k hp

theorem keyPrefix_next (c : Call) (h : Host) (k : KvBackend) : (c.next h k).2.keyPrefix = k.keyPrefix :=
  (c.next_writes h k rfl).1

/-- A call writes only keys of the dataset it names, and the dataset names. -/
theorem keys_of_dataset {p n key : String} {c : Call} (hc : c.dataset? = some n) (hkey : c.keys p key) :
    key = p ++ "datasets" ∨ DatasetKey p n key := by
  -- one case per group of calls in `keys`; each names `n`
  cases c with
  | create m =>
    obtain rfl : m = n := Option.some.inj hc
    rcases hkey with h | h | h
    · exact .inl h
    · exact .inr (.inl h)
    · exact .inr (.inr (.inl h))
  | setConfig m _ =>
    obtain rfl : m = n := Option.some.inj hc
    exact .inr (.inl hkey)
  | setMetadata m _ =>
    obtain rfl : m = n := Option.some.inj hc
    exact .inr (.inr (.inl hkey))
  | index m | tagData m _ | query m _ | count m _ | recalculate m =>
    obtain rfl : m = n := Option.some.inj hc
    exact .inr (.inr (.inr (.inl hkey)))
  | insertWith m _ _ | remove m _ =>
    obtain rfl : m = n := Option.some.inj hc
    rcases hkey with h | h
    · exact .inr (.inr (.inr (.inl h)))
    · exact .inr (.inr (.inr (.inr h)))
  | hasDataset _ | config _ | metadata _ | read _ _ | list => exact hkey.elim

/-- **A call leaves the keys of every other dataset**: for two names without `/`, a call
naming one changes no key of the other. -/
theorem keeps_other_dataset {c : Call} {d e : String} (hc : c.dataset? = some e) (hd : Slashless d)
    (he : Slashless e) (hne : e ≠ d) (h : Host) (k : KvBackend) {key : String}
    (hkey : DatasetKey k.keyPrefix d key) :
    (entriesIn (c.next h k).1 (c.next h k).2)[key]? = (entriesIn h k)[key]? := by
  refine (c.next_writes h k rfl).2.2 key fun hwrite => ?_
  rcases keys_of_dataset hc hwrite with rfl | hkey'
  · exact not_datasetKey_datasets _ d hkey
  · exact hne (hkey'.eq hkey he hd)

/-! ## A dataset comes to exist only by its creation -/

variable {h : Host} {k : KvBackend}

/-- Only a creation of a dataset without `/` can bring its configuration into being. -/
theorem eq_create_of_config_appears (c : Call) {e : String} (he : Slashless e)
    (hbefore : (entriesIn h k)[k.configKey e]? = none)
    (hafter : (entriesIn (c.next h k).1 (c.next h k).2)[k.configKey e]?.isSome) : c = .create e := by
  have hkey : c.keys k.keyPrefix (k.configKey e) := by
    by_contra hkey
    rw [(c.next_writes h k rfl).2.2 _ hkey, hbefore] at hafter
    cases hafter
  cases c with
  | create n =>
    rcases hkey with heq | heq | heq
    · exact absurd heq configKey_ne_datasets
    · rw [name_eq_of_key_eq heq.symm]
    · exact absurd heq config_ne_metadata
  | setConfig n d =>
    -- the name must be `e`, whose configuration is missing: the call fails before writing
    have hn : n = e := name_eq_of_key_eq hkey.symm
    subst hn
    rw [next, exec_setConfig_of_missing hbefore, hbefore] at hafter
    cases hafter
  | setMetadata n d => exact absurd hkey config_ne_metadata
  | index n | tagData n _ | query n _ | count n _ | recalculate n => exact absurd hkey config_ne_index
  | insertWith n _ _ | remove n _ =>
    rcases hkey with heq | hdoc
    · exact absurd heq config_ne_index
    · rw [configKey, config_not_startsWith_doc he] at hdoc
      cases hdoc
  | hasDataset n | config n | metadata n | read n _ | list => exact hkey.elim

/-- The host and the backend after calls one after the other, each from where the last
left off. -/
def run : List Call → Host → KvBackend → Host × KvBackend
  | [], h, k => (h, k)
  | c :: cs, h, k => run cs (c.next h k).1 (c.next h k).2

/-- **A dataset without `/` exists only once it has been created**: along any run of calls,
from a state where it did not exist, it exists at the end only if the run created it. -/
theorem mem_of_hasDataset_run {e : String} (he : Slashless e) :
    ∀ (calls : List Call) (h : Host) (k : KvBackend), ((KvBackend.hasDataset e).exec h k).1 = .ok false →
      ((KvBackend.hasDataset e).exec (run calls h k).1 (run calls h k).2).1 = .ok true → Call.create e ∈ calls
  | [], h, k, hbefore, hafter => by
    rw [run, hbefore] at hafter
    cases hafter
  | c :: cs, h, k, hbefore, hafter => by
    rw [exec_hasDataset_storeIn] at hbefore
    have hnone : (entriesIn h k)[k.configKey e]? = none := by
      cases hget : (entriesIn h k)[k.configKey e]? with
      | none => rfl
      | some b =>
        rw [hget] at hbefore
        cases hbefore
    by_cases hc : c = .create e
    · rw [hc]
      exact List.mem_cons_self
    · -- the first call is no creation of `e`, so `e` is still missing after it
      refine List.mem_cons_of_mem _ (mem_of_hasDataset_run he cs _ _ ?_ hafter)
      rw [exec_hasDataset_storeIn]
      have hstill : (entriesIn (c.next h k).1 (c.next h k).2)[(c.next h k).2.configKey e]? = none := by
        rw [configKey, keyPrefix_next, ← configKey]
        cases hsome : (entriesIn (c.next h k).1 (c.next h k).2)[k.configKey e]? with
        | none => rfl
        | some b => exact absurd (eq_create_of_config_appears c he hnone (by rw [hsome]; rfl)) hc
      rw [hstill]
      rfl

end Call

/-- **Datasets without `/` are isolated.** For two different names without `/`, a call
naming one changes no key of the other (its configuration, metadata, counts or any key
under its document prefix), from any state, over any store and however the call ends; and
the one named exists at the end of a run of calls only if the run created it. -/
theorem datasets_isolated (d e : String) (hd : Slashless d) (he : Slashless e) (hne : e ≠ d) :
    (∀ (c : Call) (h : Host) (k : KvBackend) (key : String), c.dataset? = some e →
      DatasetKey k.keyPrefix d key →
        (entriesIn (c.next h k).1 (c.next h k).2)[key]? = (entriesIn h k)[key]?) ∧
    (∀ (calls : List Call) (h : Host) (k : KvBackend), ((hasDataset e).exec h k).1 = .ok false →
      ((hasDataset e).exec (Call.run calls h k).1 (Call.run calls h k).2).1 = .ok true →
        Call.create e ∈ calls) :=
  ⟨fun _ h k _ hc hkey => Call.keeps_other_dataset hc hd he hne h k hkey,
    fun calls h k => Call.mem_of_hasDataset_run he calls h k⟩

/-- The datasets `blog` and `shop` are kept apart. -/
theorem datasets_isolated_blog_shop :
    Slashless "blog" ∧ Slashless "shop" ∧ "shop" ≠ "blog" ∧
    (∀ (c : Call) (h : Host) (k : KvBackend) (key : String), c.dataset? = some "shop" →
      DatasetKey k.keyPrefix "blog" key →
        (entriesIn (c.next h k).1 (c.next h k).2)[key]? = (entriesIn h k)[key]?) ∧
    (∀ (calls : List Call) (h : Host) (k : KvBackend), ((hasDataset "shop").exec h k).1 = .ok false →
      ((hasDataset "shop").exec (Call.run calls h k).1 (Call.run calls h k).2).1 = .ok true →
        Call.create "shop" ∈ calls) :=
  ⟨by decide, by decide, by decide, datasets_isolated "blog" "shop" (by decide) (by decide) (by decide)⟩

end KvBackend

end TagStore
