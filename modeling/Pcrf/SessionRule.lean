import Pcrf.Lib.Store
import Pcrf.Types

/-!
`pcrf_session_rule_cache.cpp`: the names of the rules that each session has, and the writers of
`pcrf_server_db_oper.cpp` that keep it together with the table of issued rules.
-/

namespace Pcrf

open Lib

/-- `g_mapSessRuleLst`: the rule names of each session, in the order they were issued. -/
abbrev SessionRuleCache := Index String String

/-- The rules of a session as active ones that nothing has asked for yet. -/
def pcrfSessionRuleCacheGet (mapSessRuleLst : SessionRuleCache) (sessionId : String) :
    List SDBAbonRule :=
  (mapSessRuleLst.entries sessionId).map fun name =>
    { isActive := true, isRelevant := false, strRuleName := name }

def pcrfSessionRuleCacheInsertLocal (mapSessRuleLst : SessionRuleCache)
    (sessionId ruleName : String) : SessionRuleCache :=
  mapSessRuleLst.push sessionId ruleName

def pcrfSessionRuleCacheRemoveRuleLocal (mapSessRuleLst : SessionRuleCache)
    (sessionId ruleName : String) : SessionRuleCache :=
  mapSessRuleLst.purge sessionId ruleName

def pcrfSessionRuleCacheRemoveSessLocal (mapSessRuleLst : SessionRuleCache)
    (sessionId : String) : SessionRuleCache :=
  mapSessRuleLst.erase sessionId

def pcrfSessionRuleCacheInsert (mapSessRuleLst : SessionRuleCache)
    (sessionId ruleName : String) : SessionRuleCache :=
  if 0 < sessionId.length ∧ 0 < ruleName.length then
    pcrfSessionRuleCacheInsertLocal mapSessRuleLst sessionId ruleName
  else mapSessRuleLst

def pcrfSessionRuleCacheRemoveRule (mapSessRuleLst : SessionRuleCache)
    (sessionId ruleName : String) : SessionRuleCache :=
  if 0 < sessionId.length ∧ 0 < ruleName.length then
    pcrfSessionRuleCacheRemoveRuleLocal mapSessRuleLst sessionId ruleName
  else mapSessRuleLst

/-! ### Statements for the database -/

/-- A statement handed to the queue that writes to the database. -/
inductive SqlStatement where
  | insertRule (sessionId ruleName : String)
  | closeRule (sessionId ruleName : String) (failureCode : Option String)
  | closeRuleAll (sessionId : String)
  | storeUsageInfoOffline (subscriberId : String) (usage : SSessionUsageInfo)
  deriving Repr, DecidableEq

/-- What issuing and closing rules works on. -/
structure RuleStore where
  mapSessRuleLst : SessionRuleCache := Store.empty
  sqlQueue : List SqlStatement := []

def pcrfDbInsertRule (st : RuleStore) (sessInfo : SSessionInfo) (rule : SDBAbonRule) :
    RuleStore where
  mapSessRuleLst :=
    if 0 < rule.strRuleName.length then
      pcrfSessionRuleCacheInsert st.mapSessRuleLst sessInfo.strSessionId rule.strRuleName
    else st.mapSessRuleLst
  sqlQueue := st.sqlQueue ++ [.insertRule sessInfo.strSessionId rule.strRuleName]

def pcrfDbCloseSessionRule (st : RuleStore) (sessInfo : SSessionInfo) (ruleName : String)
    (ruleFailureCode : Option String) : RuleStore where
  mapSessRuleLst :=
    pcrfSessionRuleCacheRemoveRule st.mapSessRuleLst sessInfo.strSessionId ruleName
  sqlQueue := st.sqlQueue ++ [.closeRule sessInfo.strSessionId ruleName ruleFailureCode]

def pcrfDbCloseSessionRuleAll (st : RuleStore) (sessionId : String) : RuleStore :=
  { st with sqlQueue := st.sqlQueue ++ [.closeRuleAll sessionId] }

/-- `pcrf_server_policy_db_store` -/
def pcrfServerPolicyDbStore (st : RuleStore) (sessInfo : SSessionInfo) (reqInfo : SRequestInfo) :
    RuleStore :=
  let reported := reqInfo.vectCRR.foldl (fun st policy =>
    pcrfDbCloseSessionRule st sessInfo policy.coChargingRuleName.v
      (some policy.coRuleFailureCodeEnum.v)) st
  match reqInfo.iCCRequestType with
  | .terminationRequest => pcrfDbCloseSessionRuleAll reported sessInfo.strSessionId
  | .updateRequest => reported
  | .initialRequest | .other _ => st

/-! ### What the writers do to the list of a session -/

/-- The names the cache lists for a session. -/
def RuleStore.rulesOf (st : RuleStore) (sessionId : String) : List String :=
  st.mapSessRuleLst.entries sessionId

theorem ruleNames_get (mapSessRuleLst : SessionRuleCache) (sessionId : String) :
    ruleNames (pcrfSessionRuleCacheGet mapSessRuleLst sessionId) =
      mapSessRuleLst.entries sessionId := by
  simp [ruleNames, pcrfSessionRuleCacheGet, Function.comp_def]

theorem rulesOf_insertRule {sessInfo : SSessionInfo} {rule : SDBAbonRule}
    (hs : 0 < sessInfo.strSessionId.length) (hr : 0 < rule.strRuleName.length)
    (st : RuleStore) (s : String) :
    (pcrfDbInsertRule st sessInfo rule).rulesOf s =
      if s = sessInfo.strSessionId then st.rulesOf sessInfo.strSessionId ++ [rule.strRuleName]
      else st.rulesOf s := by
  simp only [RuleStore.rulesOf, pcrfDbInsertRule, pcrfSessionRuleCacheInsert,
    pcrfSessionRuleCacheInsertLocal, hs, hr, and_self, if_true]
  exact Index.entries_push ..

/-- A rule without a name stays: nothing removes it. -/
theorem rulesOf_closeSessionRule {sessInfo : SSessionInfo} (hs : 0 < sessInfo.strSessionId.length)
    (ruleName : String) (st : RuleStore) (code : Option String) (s : String) :
    (pcrfDbCloseSessionRule st sessInfo ruleName code).rulesOf s =
      if s = sessInfo.strSessionId then
        (st.rulesOf sessInfo.strSessionId).filter fun name => name ≠ ruleName ∨ name.length = 0
      else st.rulesOf s := by
  by_cases hr : 0 < ruleName.length
  · simp only [RuleStore.rulesOf, pcrfDbCloseSessionRule, pcrfSessionRuleCacheRemoveRule,
      pcrfSessionRuleCacheRemoveRuleLocal, hs, hr, and_self, if_true, Index.entries_purge]
    refine if_congr Iff.rfl (List.filter_congr fun name _ => ?_) rfl
    by_cases hname : name = ruleName
    · simp [hname, Nat.ne_of_gt hr]
    · simp [hname]
  · -- the removal is refused, and no other name is taken away
    have hkeep : ∀ name ∈ st.rulesOf sessInfo.strSessionId,
        decide (name ≠ ruleName ∨ name.length = 0) = true := by
      intro name _
      simp only [decide_eq_true_eq]
      by_cases hname : name = ruleName
      · exact .inr (by rw [hname]; omega)
      · exact .inl hname
    rw [List.filter_eq_self.mpr hkeep]
    simp only [RuleStore.rulesOf, pcrfDbCloseSessionRule, pcrfSessionRuleCacheRemoveRule, hr,
      and_false, if_false]
    split
    next hsess => rw [hsess]
    next => rfl

end Pcrf
