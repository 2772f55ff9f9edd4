import Pcrf.Lib.Streams
import Pcrf.SubscriberRules

/-!
`pcrf_rule_cache_reload`: the rules of two tables are loaded into a new map, each with what a
query of its own reads, and the map is published when the loading has gone well.
-/

namespace Pcrf

open Lib

/-! ### The tables -/

/-- A row of `ps.rule` with what is joined to it. -/
structure RuleRow where
  strRuleName : String
  uiRuleId : UInt32
  coDynamicRuleFlag : OtlValue Int32 := .empty
  coRuleGroupFlag : OtlValue Int32 := .empty
  coPrecedenceLevel : OtlValue Int32 := .empty
  coRatingGroupId : OtlValue UInt32 := .empty
  coServiceId : OtlValue UInt32 := .empty
  coMeteringMethod : OtlValue Int32 := .empty
  coOnlineCharging : OtlValue Int32 := .empty
  coOfflineCharging : OtlValue Int32 := .empty
  coQoSClassIdentifier : OtlValue Int32 := .empty
  coMaxRequestedBandwidthUl : OtlValue UInt32 := .empty
  coMaxRequestedBandwidthDl : OtlValue UInt32 := .empty
  coGuaranteedBitrateUl : OtlValue UInt32 := .empty
  coGuaranteedBitrateDl : OtlValue UInt32 := .empty
  coMonitKey : OtlValue String := .empty
  coRedirectAddressType : OtlValue Int32 := .empty
  coRedirectServerAddress : OtlValue String := .empty
  deriving Repr, DecidableEq

/-- The rule of a row, with the flows that were read for it. -/
def RuleRow.abonRule (row : RuleRow) (vectFlowDescr : List SFlowInformation) : SDBAbonRule where
  isActive := false
  isRelevant := true
  strRuleName := row.strRuleName
  coDynamicRuleFlag := row.coDynamicRuleFlag
  coRuleGroupFlag := row.coRuleGroupFlag
  coPrecedenceLevel := row.coPrecedenceLevel
  coRatingGroupId := row.coRatingGroupId
  coServiceId := row.coServiceId
  coMeteringMethod := row.coMeteringMethod
  coOnlineCharging := row.coOnlineCharging
  coOfflineCharging := row.coOfflineCharging
  coQoSClassIdentifier := row.coQoSClassIdentifier
  coMaxRequestedBandwidthUl := row.coMaxRequestedBandwidthUl
  coMaxRequestedBandwidthDl := row.coMaxRequestedBandwidthDl
  coGuaranteedBitrateUl := row.coGuaranteedBitrateUl
  coGuaranteedBitrateDl := row.coGuaranteedBitrateDl
  coRedirectAddressType := row.coRedirectAddressType
  coRedirectServerAddress := row.coRedirectServerAddress
  vectFlowDescr := vectFlowDescr
  vectMonitKey := row.coMonitKey.toOption.toList

/-- A row of `ps.SCE_rule`. -/
structure SceRuleRow where
  uiRuleId : UInt32
  coPrecedenceLevel : OtlValue Int32 := .empty
  strRuleName : String
  coSCE_PackageId : OtlValue Int32 := .empty
  coSCE_RealTimeMonitor : OtlValue Int32 := .empty
  deriving Repr, DecidableEq

/-- The rule of a row, with the monitoring keys that were read for it. -/
def SceRuleRow.abonRule (row : SceRuleRow) (vectMonitKey : List String) : SDBAbonRule where
  isActive := false
  isRelevant := true
  strRuleName := row.strRuleName
  coPrecedenceLevel := row.coPrecedenceLevel
  coSCE_PackageId := row.coSCE_PackageId
  coSCE_RealTimeMonitor := row.coSCE_RealTimeMonitor
  vectMonitKey := vectMonitKey

/-- What the database holds: the two tables of rules, and the answers of the two queries that
are made for one rule. -/
structure RuleTables where
  rule : List RuleRow
  ruleFlows : UInt32 → List (OtlValue String)
  sceRule : List SceRuleRow
  sceMonitoringKey : UInt32 → List String

/-- The flows of a rule as they are kept. -/
def RuleTables.flows (tables : RuleTables) (uiRuleId : UInt32) : List SFlowInformation :=
  (tables.ruleFlows uiRuleId).map fun coFlowDescription => { coFlowDescription }

/-! ### The loading -/

/-- What an attempt to load the tables meets. A query for one rule is known by the place of the
rule's row, and is itself attempted up to twice. `ruleWork` and `sceWork` are what is read of
`g_iCacheWork` before the rows. -/
structure LoadFaults where
  rule : StreamFaults := .none
  ruleWork : Nat → Bool := fun _ => true
  flows : Nat → Nat → StreamFaults := fun _ _ => .none
  sceRule : StreamFaults := .none
  sceWork : Nat → Bool := fun _ => true
  monitKey : Nat → Nat → StreamFaults := fun _ _ => .none

/-- What happens to a call: the two values read of `g_iCacheWork` before the loading, whether
the pool gives a connection, the tables, what each attempt meets, and the codes of the lock. -/
structure ReloadEnv where
  iCacheWork : Int := 1
  iCacheWorkLoad : Int := 1
  connected : Bool := true
  tables : RuleTables
  faults : Nat → LoadFaults := fun _ => {}
  wrlock : Int := 0
  unlock : Int := 0

def ECANCELED : Int := 125

/-- An attempt of a query for one rule: the list is cleared before it. -/
def loadOfRuleAttempt {α : Type} (faults : Nat → StreamFaults) (rows : List α) (attempt : Nat) :
    Attempt (List α) := fun _ =>
  (faults attempt).read (fun _ => true) StreamFaults.collect rows []

def loadOfRule {α : Type} (faults : Nat → StreamFaults) (rows : List α) : Int × List α :=
  let outcome := Attempt.repeatOnce (loadOfRuleAttempt faults rows) []
  (Attempt.code outcome, outcome.1)

namespace ReloadEnv

def loadRuleFlows (env : ReloadEnv) (attempt k : Nat) (uiRuleId : UInt32) :
    Int × List SFlowInformation :=
  loadOfRule ((env.faults attempt).flows k) (env.tables.flows uiRuleId)

def loadSceRuleMk (env : ReloadEnv) (attempt k : Nat) (uiRuleId : UInt32) : Int × List String :=
  loadOfRule ((env.faults attempt).monitKey k) (env.tables.sceMonitoringKey uiRuleId)

/-- The rule of the row at place `k`. The code of `load_rule_flows` is not looked at. -/
def ruleAt (env : ReloadEnv) (attempt k : Nat) (row : RuleRow) : SDBAbonRule :=
  row.abonRule (env.loadRuleFlows attempt k row.uiRuleId).2

/-- Nor is that of `load_sce_rule_mk`. -/
def sceRuleAt (env : ReloadEnv) (attempt k : Nat) (row : SceRuleRow) : SDBAbonRule :=
  row.abonRule (env.loadSceRuleMk attempt k row.uiRuleId).2

def storeRule (env : ReloadEnv) (attempt k : Nat) (row : RuleRow) (mapRule : RuleCache) :
    RuleCache :=
  mapRule.insert (env.ruleAt attempt k row)

def storeSceRule (env : ReloadEnv) (attempt k : Nat) (row : SceRuleRow) (mapRule : RuleCache) :
    RuleCache :=
  mapRule.insert (env.sceRuleAt attempt k row)

/-- An attempt to load both tables, into a map that is cleared first. -/
def loadAttempt (env : ReloadEnv) (attempt : Nat) : Attempt RuleCache := fun _ =>
  Attempt.andThen
    ((env.faults attempt).rule.read (env.faults attempt).ruleWork (env.storeRule attempt)
      env.tables.rule)
    ((env.faults attempt).sceRule.read (env.faults attempt).sceWork (env.storeSceRule attempt)
      env.tables.sceRule)
    RuleCache.empty

def pcrfRuleCacheLoadRuleList (env : ReloadEnv) (mapRule : RuleCache) : Int × RuleCache :=
  if env.iCacheWorkLoad = 0 then (ECANCELED, mapRule)
  else if env.connected then
    let outcome := Attempt.repeatOnce env.loadAttempt mapRule
    (Attempt.code outcome, outcome.1)
  else (-1, mapRule)

/-- The code returned and the published map. -/
def pcrfRuleCacheReload (env : ReloadEnv) (published : RuleCache) : Int × RuleCache :=
  if env.iCacheWork = 0 then (ECANCELED, published)
  else
    match env.pcrfRuleCacheLoadRuleList RuleCache.empty with
    | (0, new) => if env.wrlock ≠ 0 then (env.wrlock, published) else (env.unlock, new)
    | (code, _) => (code, published)

end ReloadEnv

/-! ### What is published -/

/-- Every rule of the two tables is in the map with all its flows and all its keys. -/
structure WholeRules (tables : RuleTables) (mapRule : RuleCache) : Prop where
  rule : ∀ row ∈ tables.rule, ∃ rule, mapRule.mapRule row.strRuleName = some rule ∧
    rule.vectFlowDescr = tables.flows row.uiRuleId ∧
    rule.vectMonitKey = row.coMonitKey.toOption.toList
  sceRule : ∀ row ∈ tables.sceRule, ∃ rule, mapRule.mapRule row.strRuleName = some rule ∧
    rule.vectMonitKey = tables.sceMonitoringKey row.uiRuleId

/-- The call leaves the published map alone or publishes one with every rule whole. -/
def ReloadsWhole (env : ReloadEnv) (published : RuleCache) : Prop :=
  (env.pcrfRuleCacheReload published).2 = published ∨
    WholeRules env.tables (env.pcrfRuleCacheReload published).2

namespace ReloadEnv

/-- The rows of `ps.rule` that an attempt comes to: all, unless `g_iCacheWork` is cleared. -/
def ruleRows (env : ReloadEnv) (attempt : Nat) : List RuleRow :=
  StreamFaults.reached (env.faults attempt).ruleWork env.tables.rule

/-- The rows of `ps.SCE_rule` that an attempt comes to. -/
def sceRuleRows (env : ReloadEnv) (attempt : Nat) : List SceRuleRow :=
  StreamFaults.reached (env.faults attempt).sceWork env.tables.sceRule

/-- What was read for a rule is a front of what there is, and all of it when the query for this
rule returned 0. -/
def ReadForRule {α : Type} (loaded : Int × List α) (rows : List α) : Prop :=
  loaded.2 <+: rows ∧ (loaded.1 = 0 → loaded.2 = rows)

/-- The map has, under each name, the first row of that name that the attempt came to, with
what was read for it; the rows of `ps.rule` come before those of `ps.SCE_rule`. -/
structure Publishes (env : ReloadEnv) (attempt : Nat) (mapRule : RuleCache) : Prop where
  rule : ∀ k row, (env.ruleRows attempt)[k]? = some row →
    (∀ earlier ∈ (env.ruleRows attempt).take k, earlier.strRuleName ≠ row.strRuleName) →
    mapRule.mapRule row.strRuleName = some (env.ruleAt attempt k row) ∧
      ReadForRule (env.loadRuleFlows attempt k row.uiRuleId) (env.tables.flows row.uiRuleId)
  sceRule : ∀ k row, (env.sceRuleRows attempt)[k]? = some row →
    (∀ earlier ∈ env.ruleRows attempt, earlier.strRuleName ≠ row.strRuleName) →
    (∀ earlier ∈ (env.sceRuleRows attempt).take k, earlier.strRuleName ≠ row.strRuleName) →
    mapRule.mapRule row.strRuleName = some (env.sceRuleAt attempt k row) ∧
      ReadForRule (env.loadSceRuleMk attempt k row.uiRuleId)
        (env.tables.sceMonitoringKey row.uiRuleId)
  names : ∀ name, mapRule.mapRule name = none ↔
    (∀ row ∈ env.ruleRows attempt, row.strRuleName ≠ name) ∧
      ∀ row ∈ env.sceRuleRows attempt, row.strRuleName ≠ name

end ReloadEnv

/-! ### Reading for one rule -/

theorem code_eq_zero_iff {σ : Type} {outcome : σ × Option Failure}
    (h : ∀ failure ∈ outcome.2, failure.code ≠ 0) :
    Attempt.code outcome = 0 ↔ outcome.2 = none := by
  obtain ⟨s, failure⟩ := outcome
  cases failure with
  | none => simp [Attempt.code]
  | some failure => simpa [Attempt.code] using h failure rfl

theorem loadOfRule_spec {α : Type} (faults : Nat → StreamFaults) (rows : List α) :
    ReloadEnv.ReadForRule (loadOfRule faults rows) rows := by
  -- whichever attempt decides has started from an empty list
  have hAttempt : ∀ attempt list, ReloadEnv.ReadForRule
      (Attempt.code (loadOfRuleAttempt faults rows attempt list),
        (loadOfRuleAttempt faults rows attempt list).1) rows := by
    intro attempt list
    obtain ⟨hFront, hAll⟩ := (faults attempt).read_collect rows
    refine ⟨hFront, fun hCode => hAll ?_⟩
    exact (code_eq_zero_iff ((faults attempt).read_coded _ _ _ _)).mp hCode
  simp only [loadOfRule, Attempt.repeatOnce_eq]
  split
  · exact hAttempt 1 _
  · exact hAttempt 0 _

/-! ### Storing rules -/

namespace RuleCache

theorem insert_of_ne {name : String} {rule : SDBAbonRule} (h : name ≠ rule.strRuleName)
    (mapRule : RuleCache) : (mapRule.insert rule).mapRule name = mapRule.mapRule name := by
  unfold insert
  split
  · exact Store.set_of_ne h _ _
  · rfl

theorem insert_of_some {name : String} {first : SDBAbonRule} {mapRule : RuleCache}
    (h : mapRule.mapRule name = some first) (rule : SDBAbonRule) :
    (mapRule.insert rule).mapRule name = some first := by
  unfold insert
  split
  next hNew =>
    have hName : name ≠ rule.strRuleName := by
      rintro rfl
      rw [hNew] at h
      exact absurd h.symm (Option.some_ne_none first)
    exact (Store.set_of_ne hName _ _).trans h
  next => exact h

theorem insert_self {rule : SDBAbonRule} {mapRule : RuleCache}
    (hNew : mapRule.mapRule rule.strRuleName = none)
    (hFlags : rule.isActive = false ∧ rule.isRelevant = true) :
    (mapRule.insert rule).mapRule rule.strRuleName = some rule := by
  unfold insert
  rw [dif_pos hNew]
  refine (Store.set_self ..).trans ?_
  -- the flags that the map gives a rule are those it has
  obtain ⟨hActive, hRelevant⟩ := hFlags
  exact congrArg some (by rw [← hActive, ← hRelevant])

theorem insert_isSome (mapRule : RuleCache) (rule : SDBAbonRule) :
    ((mapRule.insert rule).mapRule rule.strRuleName).isSome := by
  cases hOld : mapRule.mapRule rule.strRuleName with
  | some first => rw [insert_of_some hOld]; rfl
  | none =>
    unfold insert
    rw [dif_pos hOld]
    exact congrArg Option.isSome (Store.set_self mapRule.mapRule rule.strRuleName _)

end RuleCache

section Storing

variable {α : Type} (rule : Nat → α → SDBAbonRule)

/-- Store the rule of each row, the first row standing at place `k`. -/
def storeRules : Nat → List α → RuleCache → RuleCache :=
  StreamFaults.storeFrom fun k row mapRule => mapRule.insert (rule k row)

theorem storeRules_cons (k : Nat) (row : α) (rest : List α) (mapRule : RuleCache) :
    storeRules rule k (row :: rest) mapRule =
      storeRules rule (k + 1) rest (mapRule.insert (rule k row)) := rfl

theorem storeRules_of_some {name : String} {first : SDBAbonRule} (k : Nat) (rows : List α)
    {mapRule : RuleCache} (h : mapRule.mapRule name = some first) :
    (storeRules rule k rows mapRule).mapRule name = some first := by
  induction rows generalizing k mapRule with
  | nil => exact h
  | cons row rest ih =>
    rw [storeRules_cons]
    exact ih (k + 1) (RuleCache.insert_of_some h _)

theorem storeRules_isSome {name : String} (k : Nat) (rows : List α) (mapRule : RuleCache)
    {row : α} (hRow : row ∈ rows) (hName : ∀ j, (rule j row).strRuleName = name) :
    ((storeRules rule k rows mapRule).mapRule name).isSome := by
  induction rows generalizing k mapRule with
  | nil => exact absurd hRow List.not_mem_nil
  | cons first rest ih =>
    rw [storeRules_cons]
    rcases List.mem_cons.mp hRow with rfl | hRest
    · have hStored := RuleCache.insert_isSome mapRule (rule k row)
      rw [hName k] at hStored
      obtain ⟨stored, hStored⟩ := Option.isSome_iff_exists.mp hStored
      rw [storeRules_of_some rule (k + 1) rest hStored]
      rfl
    · exact ih (k + 1) _ hRest

/-- Rows of other names leave a name as it is. -/
theorem storeRules_of_ne {name : String} (k : Nat) (rows : List α) (mapRule : RuleCache)
    (h : ∀ j, ∀ row ∈ rows, (rule j row).strRuleName ≠ name) :
    (storeRules rule k rows mapRule).mapRule name = mapRule.mapRule name := by
  induction rows generalizing k mapRule with
  | nil => rfl
  | cons row rest ih =>
    have hFirst := h k row List.mem_cons_self
    have hRest : ∀ j, ∀ row ∈ rest, (rule j row).strRuleName ≠ name :=
      fun j next hNext => h j next (List.mem_cons_of_mem _ hNext)
    rw [storeRules_cons, ih (k + 1) _ hRest]
    exact RuleCache.insert_of_ne hFirst.symm mapRule

/-- The first row of a name that is not there yet is stored. -/
theorem storeRules_first (k : Nat) (rows : List α) (mapRule : RuleCache) {i : Nat} {row : α}
    (hRow : rows[i]? = some row)
    (hNew : mapRule.mapRule (rule (k + i) row).strRuleName = none)
    (hFlags : (rule (k + i) row).isActive = false ∧ (rule (k + i) row).isRelevant = true)
    (hEarlier : ∀ j, ∀ earlier ∈ rows.take i,
      (rule j earlier).strRuleName ≠ (rule (k + i) row).strRuleName) :
    (storeRules rule k rows mapRule).mapRule (rule (k + i) row).strRuleName =
      some (rule (k + i) row) := by
  induction rows generalizing k mapRule i with
  | nil => simp at hRow
  | cons first rest ih =>
    rw [storeRules_cons]
    -- the row is the first of these, or one of the rest at one place less
    cases i with
    | zero =>
      obtain rfl : first = row := Option.some.inj hRow
      exact storeRules_of_some rule (k + 1) rest (RuleCache.insert_self hNew hFlags)
    | succ i =>
      have hShift : k + (i + 1) = k + 1 + i := by omega
      rw [hShift] at hNew hFlags hEarlier ⊢
      have hFirst := hEarlier k first (by simp)
      apply ih (k + 1) _ hRow _ hFlags
      · intro j earlier hAt
        exact hEarlier j earlier (by simp [hAt])
      · rw [RuleCache.insert_of_ne hFirst.symm]
        exact hNew

end Storing

/-! ### Reloading -/

section

variable {env : ReloadEnv}

/-- An attempt that no exception ends has stored the rows of both tables that it came to. -/
theorem loadAttempt_of_none (attempt : Nat) (mapRule : RuleCache)
    (h : (env.loadAttempt attempt mapRule).2 = none) :
    (env.loadAttempt attempt mapRule).1 =
      storeRules (env.sceRuleAt attempt) 0 (env.sceRuleRows attempt)
        (storeRules (env.ruleAt attempt) 0 (env.ruleRows attempt) RuleCache.empty) := by
  obtain ⟨rules, -, hRules, hAllRules⟩ := (env.faults attempt).rule.read_spec
    (env.faults attempt).ruleWork (env.storeRule attempt) env.tables.rule RuleCache.empty
  cases hFirst : (env.faults attempt).rule.read (env.faults attempt).ruleWork
    (env.storeRule attempt) env.tables.rule RuleCache.empty with
  | mk afterRules failure =>
    rw [hFirst] at hRules hAllRules
    cases failure with
    | some failure =>
      -- an exception of the first query ends the attempt
      simp [ReloadEnv.loadAttempt, Attempt.andThen, hFirst] at h
    | none =>
      obtain rfl := hAllRules rfl
      obtain ⟨sceRules, -, hSce, hAllSce⟩ := (env.faults attempt).sceRule.read_spec
        (env.faults attempt).sceWork (env.storeSceRule attempt) env.tables.sceRule afterRules
      have hSecond : env.loadAttempt attempt mapRule =
          (env.faults attempt).sceRule.read (env.faults attempt).sceWork
            (env.storeSceRule attempt) env.tables.sceRule afterRules := by
        simp only [ReloadEnv.loadAttempt, Attempt.andThen, hFirst]
      rw [hSecond] at h ⊢
      obtain rfl := hAllSce h
      rw [hSce]
      exact congrArg _ hRules

theorem loadAttempt_coded (env : ReloadEnv) (attempt : Nat) (mapRule : RuleCache) :
    ∀ failure ∈ (env.loadAttempt attempt mapRule).2, failure.code ≠ 0 := by
  unfold ReloadEnv.loadAttempt Attempt.andThen
  split
  next => exact (env.faults attempt).sceRule.read_coded _ _ _ _
  next s' failure hFirst =>
    intro first hMem
    have hCoded := (env.faults attempt).rule.read_coded (env.faults attempt).ruleWork
      (env.storeRule attempt) env.tables.rule RuleCache.empty
    rw [hFirst] at hCoded
    exact hCoded first hMem

theorem loadAttempt_publishes {attempt : Nat} {mapRule : RuleCache}
    (h : (env.loadAttempt attempt mapRule).2 = none) :
    env.Publishes attempt (env.loadAttempt attempt mapRule).1 := by
  rw [loadAttempt_of_none attempt mapRule h]
  constructor
  · intro k row hRow hEarlier
    refine ⟨?_, loadOfRule_spec _ _⟩
    -- what the first table has stored the second one does not replace
    apply storeRules_of_some
    have hFirst := storeRules_first (env.ruleAt attempt) 0 (env.ruleRows attempt)
      RuleCache.empty hRow rfl ⟨rfl, rfl⟩ fun _ => hEarlier
    rwa [Nat.zero_add] at hFirst
  · intro k row hRow hRules hEarlier
    refine ⟨?_, loadOfRule_spec _ _⟩
    -- no row of the first table has the name, so the second one stores it
    have hNew := storeRules_of_ne (env.ruleAt attempt) 0 (env.ruleRows attempt)
      RuleCache.empty fun _ => hRules
    have hFirst := storeRules_first (env.sceRuleAt attempt) 0 (env.sceRuleRows attempt) _ hRow
      hNew ⟨rfl, rfl⟩ fun _ => hEarlier
    rwa [Nat.zero_add] at hFirst
  · intro name
    constructor
    · intro hNone
      constructor
      · intro row hRow hName
        obtain ⟨stored, hStored⟩ := Option.isSome_iff_exists.mp
          (storeRules_isSome (env.ruleAt attempt) 0 (env.ruleRows attempt) RuleCache.empty hRow
            fun _ => hName)
        rw [storeRules_of_some (env.sceRuleAt attempt) 0 _ hStored] at hNone
        exact absurd hNone (Option.some_ne_none stored)
      · intro row hRow hName
        have hStored := storeRules_isSome (env.sceRuleAt attempt) 0 (env.sceRuleRows attempt)
          (storeRules (env.ruleAt attempt) 0 (env.ruleRows attempt) RuleCache.empty) hRow
          fun _ => hName
        rw [hNone] at hStored
        exact absurd hStored (by simp)
    · rintro ⟨hRules, hSce⟩
      rw [storeRules_of_ne (env.sceRuleAt attempt) 0 (env.sceRuleRows attempt) _ fun _ => hSce,
        storeRules_of_ne (env.ruleAt attempt) 0 (env.ruleRows attempt) _ fun _ => hRules]
      rfl

/-- The attempt that decides, and what the map is then. -/
theorem reload_cases (env : ReloadEnv) (published : RuleCache) :
    (env.pcrfRuleCacheReload published).2 = published ∨
      ∃ attempt < 2, ∃ mapRule, (env.loadAttempt attempt mapRule).2 = none ∧
        (env.pcrfRuleCacheReload published).2 = (env.loadAttempt attempt mapRule).1 := by
  unfold ReloadEnv.pcrfRuleCacheReload
  split
  · exact .inl rfl
  · split
    next new hLoad =>
      split
      · exact .inl rfl
      · -- the code is 0: the loading was made, and its last attempt met no exception
        right
        unfold ReloadEnv.pcrfRuleCacheLoadRuleList at hLoad
        split at hLoad
        · exact absurd (Prod.mk.inj hLoad).1 (by decide)
        · split at hLoad
          · obtain ⟨hCode, rfl⟩ := Prod.mk.inj hLoad
            rw [Attempt.repeatOnce_eq] at hCode ⊢
            split at hCode
            next hRestored =>
              rw [if_pos hRestored]
              exact ⟨1, by decide, _,
                (code_eq_zero_iff (loadAttempt_coded env 1 _)).mp hCode, rfl⟩
            next hRestored =>
              rw [if_neg hRestored]
              exact ⟨0, by decide, _,
                (code_eq_zero_iff (loadAttempt_coded env 0 _)).mp hCode, rfl⟩
          · exact absurd (Prod.mk.inj hLoad).1 (by decide)
    next => exact .inl rfl

/-- A reload leaves the published map alone, or publishes one that has for every name of the
two tables the first row of that name, with what was read for it. -/
theorem reload_publishes (env : ReloadEnv) (published : RuleCache) :
    (env.pcrfRuleCacheReload published).2 = published ∨
      ∃ attempt < 2, env.Publishes attempt (env.pcrfRuleCacheReload published).2 := by
  rcases reload_cases env published with hSame | ⟨attempt, hAttempt, mapRule, hNone, hMap⟩
  · exact .inl hSame
  · rw [hMap]
    exact .inr ⟨attempt, hAttempt, loadAttempt_publishes hNone⟩

/-- What stands before a place in a list without repetitions is not what stands there. -/
theorem ne_of_mem_take {α β : Type} {f : α → β} {rows : List α} (h : (rows.map f).Nodup)
    {k : Nat} {row : α} (hRow : rows[k]? = some row) :
    ∀ earlier ∈ rows.take k, f earlier ≠ f row := by
  intro earlier hEarlier hEq
  have hSplit : rows = rows.take k ++ row :: rows.drop (k + 1) := by
    obtain ⟨hLt, rfl⟩ := List.getElem?_eq_some_iff.mp hRow
    rw [List.getElem_cons_drop, List.take_append_drop]
  rw [hSplit, List.map_append, List.nodup_append] at h
  exact h.2.2 (f earlier) (List.mem_map_of_mem hEarlier) (f row) (by simp) hEq

/-- Where no name stands twice, the caches stay at work and every query for a rule is answered,
what is published is whole. -/
theorem reloadsWhole_of_answered (env : ReloadEnv) (published : RuleCache)
    (hWork : ∀ attempt k, (env.faults attempt).ruleWork k = true ∧
      (env.faults attempt).sceWork k = true)
    (hNames : (env.tables.rule.map RuleRow.strRuleName ++
      env.tables.sceRule.map SceRuleRow.strRuleName).Nodup)
    (hFlows : ∀ attempt k uiRuleId, (env.loadRuleFlows attempt k uiRuleId).1 = 0)
    (hKeys : ∀ attempt k uiRuleId, (env.loadSceRuleMk attempt k uiRuleId).1 = 0) :
    ReloadsWhole env published := by
  rcases reload_cases env published with hSame | ⟨attempt, -, mapRule, hNone, hMap⟩
  · exact .inl hSame
  · obtain ⟨hRules, hSce, hDistinct⟩ := List.nodup_append.mp hNames
    have hPublishes := loadAttempt_publishes hNone
    rw [← hMap] at hPublishes
    have hAllRules : env.ruleRows attempt = env.tables.rule :=
      StreamFaults.reached_eq_self (fun k => (hWork attempt k).1) _
    have hAllSce : env.sceRuleRows attempt = env.tables.sceRule :=
      StreamFaults.reached_eq_self (fun k => (hWork attempt k).2) _
    refine .inr ⟨?_, ?_⟩
    · intro row hRow
      rw [← hAllRules] at hRow hRules
      obtain ⟨k, hAt⟩ := List.mem_iff_getElem?.mp hRow
      obtain ⟨hGet, -, hRead⟩ := hPublishes.rule k row hAt (ne_of_mem_take hRules hAt)
      exact ⟨_, hGet, hRead (hFlows attempt k _), rfl⟩
    · intro row hRow
      -- the name stands in one of the two tables only
      have hOther : ∀ earlier ∈ env.ruleRows attempt, earlier.strRuleName ≠ row.strRuleName := by
        intro earlier hEarlier
        rw [hAllRules] at hEarlier
        exact hDistinct _ (List.mem_map_of_mem hEarlier) _ (List.mem_map_of_mem hRow)
      rw [← hAllSce] at hRow hSce
      obtain ⟨k, hAt⟩ := List.mem_iff_getElem?.mp hRow
      obtain ⟨hGet, -, hRead⟩ := hPublishes.sceRule k row hAt hOther (ne_of_mem_take hSce hAt)
      exact ⟨_, hGet, hRead (hKeys attempt k _)⟩

end

/-! ### Maps that are not whole -/

/-- A rule with one flow, whose query for flows fails; the connection is in order. -/
def flowsFailing : ReloadEnv where
  tables :=
    { rule := [{ strRuleName := "a", uiRuleId := 1 }]
      ruleFlows := fun _ => [.of "permit out ip from any to any"]
      sceRule := []
      sceMonitoringKey := fun _ => [] }
  faults := fun _ =>
    { flows := fun _ _ => .atOpening { code := 1555, restored := false } (by decide) }

/-- The two tables name a rule alike. -/
def namedTwice : ReloadEnv where
  tables :=
    { rule := [{ strRuleName := "a", uiRuleId := 1 }]
      ruleFlows := fun _ => []
      sceRule := [{ strRuleName := "a", uiRuleId := 1 }]
      sceMonitoringKey := fun _ => ["key"] }

/-- A rule that was not there and is not whole was published. -/
theorem not_reloadsWhole_of_get {env : ReloadEnv} {name : String} {rule : SDBAbonRule}
    (hRule : (env.pcrfRuleCacheReload RuleCache.empty).2.mapRule name = some rule)
    (hNot : ¬ WholeRules env.tables (env.pcrfRuleCacheReload RuleCache.empty).2) :
    ¬ ReloadsWhole env RuleCache.empty := by
  rintro (hSame | hWhole)
  · rw [hSame] at hRule
    exact absurd hRule.symm (Option.some_ne_none rule)
  · exact hNot hWhole

/-- A rule is published without its flow, and one without the key it has in the other table. -/
theorem not_reloadsWhole :
    ¬ ReloadsWhole flowsFailing RuleCache.empty ∧ ¬ ReloadsWhole namedTwice RuleCache.empty := by
  constructor
  · have hRule : (flowsFailing.pcrfRuleCacheReload RuleCache.empty).2.mapRule "a" =
        some { isRelevant := true, strRuleName := "a" } := by decide
    apply not_reloadsWhole_of_get hRule
    intro hWhole
    obtain ⟨rule, hGet, hFlows, -⟩ :=
      hWhole.rule { strRuleName := "a", uiRuleId := 1 } List.mem_cons_self
    obtain rfl := Option.some.inj (hRule.symm.trans hGet)
    exact absurd hFlows (by decide)
  · have hRule : (namedTwice.pcrfRuleCacheReload RuleCache.empty).2.mapRule "a" =
        some { isRelevant := true, strRuleName := "a" } := by decide
    apply not_reloadsWhole_of_get hRule
    intro hWhole
    obtain ⟨rule, hGet, hKeys⟩ :=
      hWhole.sceRule { strRuleName := "a", uiRuleId := 1 } List.mem_cons_self
    obtain rfl := Option.some.inj (hRule.symm.trans hGet)
    exact absurd hKeys (by decide)

end Pcrf
