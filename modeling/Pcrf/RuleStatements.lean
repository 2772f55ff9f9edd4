import Pcrf.CcrHandlers
import Pcrf.MessageFrames

/-!
The steps on the rule cache that the statements of an answer stand for, made without a break, are
what building the answer does to the cache, whichever calls into freeDiameter fail.
-/

namespace Pcrf

open Lib CallM

/-- The rule cache is what the statements queued so far have made of `initial`. -/
def RuleStore.Stated (codes : IpcCodes) (initial : SessionRuleCache) (st : RuleStore) : Prop :=
  st.mapSessRuleLst = performRules (st.sqlQueue.flatMap (SqlStatement.steps codes)) initial

/-- The program keeps that. -/
abbrev KeepsStated (codes : IpcCodes) (initial : SessionRuleCache) {α : Type} (x : FdM α) : Prop :=
  Maintains (fun st => st.store.Stated codes initial) (fun _ => True) x

section

variable {codes : IpcCodes} {initial : SessionRuleCache}

theorem performRules_append (steps more : List CallStep) (rules : SessionRuleCache) :
    performRules (steps ++ more) rules = performRules more (performRules steps rules) :=
  List.foldl_append ..

theorem Stated.insertRule {st : RuleStore} (h : st.Stated codes initial) (sessInfo : SSessionInfo)
    (rule : SDBAbonRule) : (pcrfDbInsertRule st sessInfo rule).Stated codes initial := by
  unfold RuleStore.Stated at h ⊢
  simp only [pcrfDbInsertRule, List.flatMap_append, performRules_append, ← h,
    List.flatMap_singleton, SqlStatement.steps, sessionRuleCacheInsertSteps,
    pcrfSessionRuleCacheInsert]
  by_cases named : 0 < sessInfo.strSessionId.length ∧ 0 < rule.strRuleName.length
  · rw [if_pos named, if_pos named, if_pos named.2]
    rfl
  · rw [if_neg named, if_neg named, ite_self]
    rfl

theorem Stated.closeRule {st : RuleStore} (h : st.Stated codes initial) (sessInfo : SSessionInfo)
    (ruleName : String) (code : Option String) :
    (pcrfDbCloseSessionRule st sessInfo ruleName code).Stated codes initial := by
  unfold RuleStore.Stated at h ⊢
  simp only [pcrfDbCloseSessionRule, List.flatMap_append, performRules_append, ← h,
    List.flatMap_singleton, SqlStatement.steps, sessionRuleCacheRemoveRuleSteps,
    pcrfSessionRuleCacheRemoveRule]
  by_cases named : 0 < sessInfo.strSessionId.length ∧ 0 < ruleName.length
  · rw [if_pos named, if_pos named]
    rfl
  · rw [if_neg named, if_neg named]
    rfl

theorem stated_answer (msg : SMsgDataForDB) (vectActive : List SDBAbonRule)
    (gathered : Gathered) : KeepsStated codes initial (msg.answer vectActive gathered) := by
  -- an AVP of the message is no statement
  refine maintains_answer (fun _ h => h) (fun _ _ h => h) (fun _ _ h => h) ?_ ?_
  · exact maintains_putMade (fun _ _ _ h => h)
      (maintains_makeCRR _ _ fun name _ h => Stated.closeRule h _ name none)
  · exact maintains_putMade (fun _ _ _ h => h)
      (maintains_makeCRI _ _ _ (fun rule _ h => Stated.insertRule h _ rule) fun _ _ _ h => h)

end

/-- What the statements of an answer stand for is what the answer does to the rule cache. -/
theorem performRules_statements (codes : IpcCodes) (msg : SMsgDataForDB)
    (vectActive : List SDBAbonRule) (gathered : Gathered) (answers : Nat → Bool)
    (rules : SessionRuleCache) :
    let after := (exec (msg.answer vectActive gathered) ⟨answers, { store := ⟨rules, []⟩ }⟩).2
    performRules (after.state.store.sqlQueue.flatMap (SqlStatement.steps codes)) rules =
      after.state.store.mapSessRuleLst :=
  ((stated_answer msg vectActive gathered).keeps ⟨answers, { store := ⟨rules, []⟩ }⟩ rfl).symm

end Pcrf
