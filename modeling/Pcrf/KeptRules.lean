import Pcrf.MessageFrames
import Pcrf.RuleEffects

/-!
Answers that take no rule from a session, whichever calls into freeDiameter fail: nothing but
`pcrf_make_CRR` removes rules, and it has no rule to remove.
-/

namespace Pcrf

open Lib CallM

/-- The answer removes no rule, and the session has every rule that it had. -/
structure RulesKept (sessionId : String) (before : RuleStore) (after : AnswerState) : Prop where
  removed : namesIn .chargingRuleRemove after.answer = []
  holds : ∀ name ∈ before.rulesOf sessionId, name ∈ after.store.rulesOf sessionId

/-- AVPs that remove no rule. -/
abbrev RemovesNone (avps : List Avp) : Prop := namesIn .chargingRuleRemove avps = []

/-- Whatever the calls answer, the rules of the session are kept. -/
abbrev KeepsRules (sessionId : String) (before : RuleStore) {α : Type} (x : FdM α) : Prop :=
  Maintains (RulesKept sessionId before) (fun _ => True) x

section

variable {sessionId : String} {before : RuleStore}

/-- More AVPs that remove no rule. -/
theorem RulesKept.append {st : AnswerState} (h : RulesKept sessionId before st)
    {avps : List Avp} (hnone : RemovesNone avps) :
    RulesKept sessionId before { st with answer := st.answer ++ avps } :=
  { h with removed := by rw [namesIn_append, h.removed, hnone, List.append_nil] }

/-! ### Installing -/

theorem RulesKept.insert {st : AnswerState} (h : RulesKept sessionId before st)
    (sessInfo : SSessionInfo) (rule : SDBAbonRule) :
    RulesKept sessionId before { st with store := pcrfDbInsertRule st.store sessInfo rule } :=
  { h with
    holds := fun name hname =>
      (mem_rulesOf_insertAll sessInfo [rule] st.store sessionId name).1 (h.holds name hname) }

theorem keeps_makeCRI (sessInfo : SSessionInfo) (reqInfo : Option SRequestInfo)
    (listAbonRules : List SDBAbonRule) :
    KeepsRules sessionId before (putMade (pcrfMakeCRI sessInfo reqInfo listAbonRules)) := by
  refine maintains_putMade ?_ (maintains_makeCRI sessInfo reqInfo listAbonRules
    (fun rule _ hst => hst.insert sessInfo rule) fun _ _ _ hst => hst.append rfl)
  rintro _ ⟨children, rfl⟩ st hst
  exact hst.append rfl

/-! ### Removing -/

/-- Without active rules, or for a dialect that has no AVPs for them, no rule is removed: for an
SCE they are closed, but the cache refuses those without a name. -/
theorem keeps_makeCRR {sessInfo : SSessionInfo} {vectActive : List SDBAbonRule}
    (hd : sessInfo.uiPeerDialect.takesRules = true → vectActive = [])
    (hsce : sessInfo.uiPeerDialect = .gxCiscoSce → ∀ name ∈ unwanted vectActive,
      ¬ (0 < sessInfo.strSessionId.length ∧ 0 < name.length)) :
    KeepsRules sessionId before (putMade (pcrfMakeCRR sessInfo vectActive)) := by
  -- no AVP is made
  refine maintains_putMade (Q := fun _ => False) (fun _ hfalse => hfalse.elim) ?_
  simp only [pcrfMakeCRR]
  split
  · exact Maintains.pure fun avp heq => Option.some_ne_none avp heq.symm
  · next hempty =>
    have htakes : sessInfo.uiPeerDialect.takesRules = false :=
      Bool.eq_false_iff.mpr fun h => hempty (by simp [hd h])
    have hclosed : ∀ name ∈ closedFor sessInfo.uiPeerDialect (unwanted vectActive),
        ¬ (0 < sessInfo.strSessionId.length ∧ 0 < name.length) := by
      simp only [closedFor, htakes, Bool.false_or, beq_iff_eq]
      split
      next h => exact hsce h
      next => simp
    -- the loop closes only what is not filed
    have hloop : Maintains (RulesKept sessionId before) (· = none)
        (pcrfMakeCRRLoop sessInfo vectActive none) := by
      constructor
      · intro s hs
        rw [exec_makeCRRLoop_unnamed htakes]
        refine ⟨by simpa [withMore] using hs.removed, fun name hname => ?_⟩
        rw [withMore, rulesOf_closeAll_refused hclosed]
        exact hs.holds name hname
      · intro s _ made hmade
        rw [exec_makeCRRLoop_unnamed htakes] at hmade
        exact (Option.some.inj hmade).symm
    refine hloop.attempt.bind fun made hmade => ?_
    split
    next children => exact absurd (hmade _ rfl) (Option.some_ne_none children)
    next => exact Maintains.pure fun avp heq => Option.some_ne_none avp heq.symm

/-! ### The answer -/

theorem keeps_answer {msg : SMsgDataForDB} {vectActive : List SDBAbonRule} (gathered : Gathered)
    (hd : msg.soSessInfo.uiPeerDialect.takesRules = true → vectActive = [])
    (hsce : msg.soSessInfo.uiPeerDialect = .gxCiscoSce → ∀ name ∈ unwanted vectActive,
      ¬ (0 < msg.soSessInfo.strSessionId.length ∧ 0 < name.length)) :
    KeepsRules sessionId before (msg.answer vectActive gathered) :=
  maintains_answer (fun _ hst => { hst with removed := rfl }) (fun _ _ hst => hst.append rfl)
    (fun _ _ hst => hst.append rfl) (keeps_makeCRR hd hsce) (keeps_makeCRI ..)

end

end Pcrf
