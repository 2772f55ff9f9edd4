import Pcrf.Lib.Snapshots
import Pcrf.SubscriberCache
import Pcrf.SubscriberRules

/-!
`pcrf_cache.cpp`: the rule cache and the subscriber cache behind one lock. Handlers look into them
while the thread `pcrf_cache_update` replaces one after the other.
-/

namespace Pcrf

open Lib Lib.Snapshots

/-- The two maps behind `g_rwlockCache`. -/
inductive CacheKind where
  | rules
  | subscribers
  deriving Repr, DecidableEq

/-- What `g_pmapRule` and `g_pmmapSubscriptionData` point to. -/
def CacheKind.Map : CacheKind → Type
  | rules => RuleCache
  | subscribers => SubscriberCache

/-- What a handler looks for while it has the lock: the description of a rule, or the subscriber of
an identifier, with the subscriber that the identifiers before it gave. -/
inductive CacheQuery where
  | getRuleInfo (strRuleName : String)
  | checkData (type : SubscriberIdType) (coData strSubscriberId : String)

/-- The kind of map for a query, and whether its function unlocks. -/
def cacheQueries : Queries CacheKind CacheKind.Map where
  Query := CacheQuery
  target
    | .getRuleInfo _ => .rules
    | .checkData _ _ _ => .subscribers
  releases
    | .getRuleInfo _, _ => true
    | .checkData type coData strSubscriberId, cache =>
      (pcrfSubscriberCacheCheckData 0 cache type (.of coData) {} strSubscriberId).2.1 == {}

abbrev CacheNode := Snapshots cacheQueries

/-- `pcrf_cache_init`, where both maps could be loaded. -/
def pcrfCacheInit (rules : RuleCache) (subscribers : SubscriberCache) : CacheNode where
  blocks
    | .rules => ⟨[some rules]⟩
    | .subscribers => ⟨[some subscribers]⟩
  published := fun _ => 0

theorem sound_pcrfCacheInit (rules : RuleCache) (subscribers : SubscriberCache) :
    (pcrfCacheInit rules subscribers).Sound where
  live k := by cases k <;> exact ⟨_, rfl⟩
  counted := rfl
  exclusive := fun _ => rfl
  inside := fun _ mem => absurd mem List.not_mem_nil
  updater := rfl

/-- The identifier is known, as one of the same subscriber. -/
def Known (cache : SubscriberCache) (type : SubscriberIdType) (coData strSubscriberId : String) :
    Prop :=
  ∃ found, cache.data type coData = some found ∧
    (strSubscriberId = "" ∨ strSubscriberId = found)

theorem releases_checkData_iff (cache : SubscriberCache) (type : SubscriberIdType)
    (coData strSubscriberId : String) :
    cacheQueries.releases (.checkData type coData strSubscriberId) cache = true ↔
      Known cache type coData strSubscriberId := by
  have value : (OtlValue.of coData).v = coData := rfl
  have keeps : ¬ RwLock.rdlock {} = {} := by decide
  simp only [cacheQueries, pcrfSubscriberCacheCheckData, OtlValue.isNull_of, value, Known,
    Bool.false_eq_true, if_false, ne_eq, not_true_eq_false, beq_iff_eq]
  cases cache.data type coData with
  | none => simp [keeps]
  | some subscriberId =>
    by_cases first : strSubscriberId = ""
    · simp [first]
    · by_cases same : strSubscriberId = subscriberId <;> simp [first, same, keeps]

/-- The node after handlers and the updater have made these steps, in this order. -/
def cacheRun (rules : RuleCache) (subscribers : SubscriberCache)
    (actions : List (SnapshotAction cacheQueries)) : CacheNode :=
  (pcrfCacheInit rules subscribers).machine.run actions

/-- Every lookup of an identifier that has returned found it. -/
def KnownAnswers (node : CacheNode) : Prop :=
  ∀ type coData strSubscriberId cache,
    ⟨.checkData type coData strSubscriberId, cache⟩ ∈ node.returned →
      Known cache type coData strSubscriberId

section Runs

variable (rules : RuleCache) (subscribers : SubscriberCache)
  (actions : List (SnapshotAction cacheQueries))

theorem sound_cacheRun : (cacheRun rules subscribers actions).Sound :=
  sound_run (sound_pcrfCacheInit rules subscribers) actions

/-- Whatever steps the handlers and the updater make in turn, none of them uses a map that is
freed, every handler that is inside has what is published, and has seen only what is true of every
map that was loaded. -/
theorem lookups_safe (P : (kind : CacheKind) → kind.Map → Prop) :
    (∀ action, (cacheRun rules subscribers actions).step action ≠ .crashes) ∧
      (∀ reader ∈ (cacheRun rules subscribers actions).inside,
        (cacheRun rules subscribers actions).Current reader) ∧
      (P .rules rules → P .subscribers subscribers →
        (∀ kind map, .build kind map ∈ actions → P kind map) →
        ∀ answer ∈ (cacheRun rules subscribers actions).returned,
          P (cacheQueries.target answer.query) answer.content) := by
  have sound := sound_cacheRun rules subscribers actions
  refine ⟨step_ne_crashes sound, sound.inside, fun initial initial' built => ?_⟩
  have only : OnlyHas P (pcrfCacheInit rules subscribers) := by
    refine ⟨fun {kind p map} read => ?_, fun _ mem => absurd mem List.not_mem_nil⟩
    cases kind with
    | rules =>
      cases p with
      | zero => exact Option.some.inj read ▸ initial
      | succ p => cases read
    | subscribers =>
      cases p with
      | zero => exact Option.some.inj read ▸ initial'
      | succ p => cases read
  exact (onlyHas_run (sound_pcrfCacheInit rules subscribers) only built).returned

theorem knownAnswers_iff {node : CacheNode} : KnownAnswers node ↔ node.lost = 0 := by
  rw [lost_eq_zero_iff]
  constructor
  · rintro known ⟨query, map⟩ mem
    cases query with
    | getRuleInfo name => rfl
    | checkData type coData strSubscriberId =>
      exact (releases_checkData_iff map type coData strSubscriberId).mpr (known _ _ _ map mem)
  · intro released type coData strSubscriberId cache mem
    exact (releases_checkData_iff cache type coData strSubscriberId).mp (released _ mem)

/-- A lookup that does not find its identifier is the end of all reloads, of the rules too; as long
as every one finds its own, the updater gets its turn whenever no handler is inside. -/
theorem reload_iff_known :
    (¬ KnownAnswers (cacheRun rules subscribers actions) → ∀ more kind,
      (cacheRun rules subscribers (actions ++ more)).current kind =
        (cacheRun rules subscribers actions).current kind) ∧
    ∀ kind new old, (cacheRun rules subscribers actions).updater = .saved kind new old →
      ((∃ node, (cacheRun rules subscribers actions).step .wrlock = .goes node) ↔
        (cacheRun rules subscribers actions).inside = [] ∧
          KnownAnswers (cacheRun rules subscribers actions)) := by
  have sound := sound_cacheRun rules subscribers actions
  constructor
  · intro unknown more kind
    rw [knownAnswers_iff] at unknown
    rw [cacheRun, Machine.run, Machine.runFrom_append]
    exact current_of_lost sound unknown more kind
  · intro kind new old at_
    rw [knownAnswers_iff]
    exact wrlock_iff sound at_

end Runs

end Pcrf
