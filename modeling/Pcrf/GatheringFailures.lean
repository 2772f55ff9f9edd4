import Pcrf.CreditControlRules
import Pcrf.KeptRules

/-!
What an update leaves of the rules of its session when the data of the subscriber was not
gathered.
-/

namespace Pcrf

open Lib CallM

section

variable {env : GatherEnv} {isProceraUsed : Bool} {uiRefreshDefRuleIn : Nat}
  {msg : SMsgDataForDB} {schedule : List Turn} {queue : LocalRefreshQueue}
  {s : Answering AnswerState} {outcome : CcrOutcome}

/-- However gathering ends, rules that were to be operated still are. -/
theorem operateRule_kept
    (hrun : msg.respond env isProceraUsed uiRefreshDefRuleIn schedule queue s = some outcome)
    (hop : (pcrfServerDetermineActionSet isProceraUsed msg).operateRule = true) :
    outcome.gathered.uiActionSet.operateRule = true := by
  obtain ⟨hreturned, hgathered, -⟩ := respond_eq_some hrun
  rw [hgathered]
  by_cases hzero : outcome.iRetVal = 0
  · rw [hzero] at hreturned
    rw [returned_zero hreturned]
    exact collected_operateRule _ hop
  · rcases returned_nonzero hreturned hzero with h | ⟨-, h⟩
    · rw [h.uiActionSet]
      exact hop
    · rw [h]
      exact hop

/-- To an SCE nothing is issued that was given as active. -/
theorem missing_not_active
    (hrun : msg.respond env isProceraUsed uiRefreshDefRuleIn schedule queue s = some outcome)
    (htype : msg.soReqInfo.iCCRequestType = .updateRequest)
    (hsce : msg.soSessInfo.uiPeerDialect = .gxCiscoSce)
    (hop : (pcrfServerDetermineActionSet isProceraUsed msg).operateRule = true) :
    ∀ name ∈ missing outcome.gathered.listAbonRules,
      name ∉ ruleNames (msg.vectActive (pcrfServerDetermineActionSet isProceraUsed msg)
        s.state.store.mapSessRuleLst) := by
  obtain ⟨hreturned, hgathered, -⟩ := respond_eq_some hrun
  have hown : msg.additionalRules (pcrfServerDetermineActionSet isProceraUsed msg) = [] :=
    additionalRules_eq_nil (by simp [hsce])
  have hnil : missing [] = [] := rfl
  by_cases hzero : outcome.iRetVal = 0
  · cases hdb : env.pcoDBConn with
    | none =>
      -- a worker without a connection has an empty list, and nobody notices
      rw [hzero] at hreturned
      rw [hgathered, returned_zero hreturned]
      have hnone : (msg.gatherCall (pcrfServerDetermineActionSet isProceraUsed msg) env
          s.state.store.mapSessRuleLst).collected.listAbonRules = [] := by
        simp only [GatherCall.collected, GatherCall.expected, SMsgDataForDB.gatherCall, hdb]
        rfl
      simp only [Gathered.copyFrom, hnone]
      simp [SMsgDataForDB.gatherCall, hown, hnil]
    | some db =>
      rw [gathered_rules hrun hzero (operateRule_kept hrun hop) hown htype hdb,
        missing_marked _ fun rule hrule => (abonRules_fresh _ _ rule hrule).1]
      exact fun name hname => (Reconcile.mem_added.mp hname).2
  · -- an update has no default rules to fall back to
    have hlist : outcome.gathered.listAbonRules = [] := by
      rw [hgathered]
      rcases returned_nonzero hreturned hzero with h | ⟨-, h⟩
      · rw [h.listAbonRules]
        simp [GatherCall.fallback, SMsgDataForDB.gatherCall, htype, hown]
      · rw [h]
        exact hown
    simp [hlist, hnil]

/-- The rules of the session are not to be removed: they are not loaded as active ones, as for
a UGW or Ericsson whose RAT has not changed, or there are no AVPs for them. An SCE has none
either, but the rules that the cache does not refuse to remove are closed for it all the same. -/
def SMsgDataForDB.SparesRules (msg : SMsgDataForDB) (store : RuleStore) : Prop :=
  (msg.soSessInfo.uiPeerDialect.isIPCAN = true ∧ 2 ∉ msg.soReqInfo.vectEventTrigger) ∨
    (msg.soSessInfo.uiPeerDialect.takesRules = false ∧
      (msg.soSessInfo.uiPeerDialect = .gxCiscoSce →
        ∀ name ∈ store.rulesOf msg.soSessInfo.strSessionId,
          ¬ (0 < msg.soSessInfo.strSessionId.length ∧ 0 < name.length)))

/-- What is loaded as active is what the session has, or nothing. -/
theorem mem_vectActive (msg : SMsgDataForDB) (uiActionSet : ActionSet) (store : RuleStore) :
    ∀ name ∈ ruleNames (msg.vectActive uiActionSet store.mapSessRuleLst),
      name ∈ store.rulesOf msg.soSessInfo.strSessionId := by
  simp only [SMsgDataForDB.vectActive]
  split
  · rw [ruleNames_get]
    exact fun name hname => hname
  · simp [ruleNames]

/-- Such an update keeps the rules, whether gathering has failed or not and whichever calls
fail. -/
theorem update_keeps_rules
    (hrun : msg.respond env isProceraUsed uiRefreshDefRuleIn schedule queue s = some outcome)
    (htype : msg.soReqInfo.iCCRequestType = .updateRequest)
    (hnew : namesIn .chargingRuleRemove s.state.answer = [])
    (hspares : msg.SparesRules s.state.store) :
    RulesKept msg.soSessInfo.strSessionId s.state.store outcome.answering.state := by
  obtain ⟨-, -, -, hanswering⟩ := respond_eq_some hrun
  have hactive : msg.soSessInfo.uiPeerDialect.takesRules = true →
      msg.vectActive (pcrfServerDetermineActionSet isProceraUsed msg)
        s.state.store.mapSessRuleLst = [] := by
    intro htakes
    rcases hspares with ⟨hd, hrat⟩ | ⟨hno, -⟩
    · have hoff : (pcrfServerDetermineActionSet isProceraUsed msg).operateRule = false :=
        Bool.eq_false_iff.mpr fun hon =>
          ((operateRule_iff htype isProceraUsed).mp hon).elim hrat (by simp [hd])
      simp [SMsgDataForDB.vectActive, hoff]
    · exact absurd htakes (by simp [hno])
  have hsce : msg.soSessInfo.uiPeerDialect = .gxCiscoSce →
      ∀ name ∈ unwanted (msg.vectActive (pcrfServerDetermineActionSet isProceraUsed msg)
        s.state.store.mapSessRuleLst),
          ¬ (0 < msg.soSessInfo.strSessionId.length ∧ 0 < name.length) := by
    intro hsce name hname
    rcases hspares with ⟨hd, -⟩ | ⟨-, hempty⟩
    · simp [hsce, PeerDialect.isIPCAN] at hd
    · exact hempty hsce name (mem_vectActive msg _ _ name (unwanted_vectActive msg _ _ ▸ hname))
  rw [hanswering]
  exact (keeps_answer outcome.gathered hactive hsce).keeps s ⟨hnew, fun name hname => hname⟩

/-- Any other update takes a rule away when no call fails. -/
theorem spares_of_rulesKept
    (hrun : msg.respond env isProceraUsed uiRefreshDefRuleIn schedule queue s = some outcome)
    (htype : msg.soReqInfo.iCCRequestType = .updateRequest)
    (hne : s.state.store.rulesOf msg.soSessInfo.strSessionId ≠ []) (hs : s.AllSucceed)
    (hkept : RulesKept msg.soSessInfo.strSessionId s.state.store outcome.answering.state) :
    msg.SparesRules s.state.store := by
  by_cases hop : (pcrfServerDetermineActionSet isProceraUsed msg).operateRule = true
  · obtain ⟨-, -, -, hanswering⟩ := respond_eq_some hrun
    have hactive : ruleNames (msg.vectActive (pcrfServerDetermineActionSet isProceraUsed msg)
        s.state.store.mapSessRuleLst) = s.state.store.rulesOf msg.soSessInfo.strSessionId := by
      simp only [SMsgDataForDB.vectActive, htype, hop, and_self, if_true]
      exact ruleNames_get ..
    obtain ⟨more, hexec, hremoved, -⟩ := exec_answer
      (effect_answerRules_update htype (operateRule_kept hrun hop)
        (msg.vectActive (pcrfServerDetermineActionSet isProceraUsed msg)
          s.state.store.mapSessRuleLst)) hs
    rw [unwanted_vectActive, hactive] at hexec hremoved
    rw [hanswering, hexec] at hkept
    refine .inr ⟨Bool.eq_false_iff.mpr fun htakes => hne ?_, ?_⟩
    · -- the answer names every rule of the session
      rw [← hkept.removed, hremoved, namedFor, htakes, if_pos rfl]
    · -- every rule of the session that has a name is closed, and none is issued again
      rintro hsce name hname ⟨hsid, hlength⟩
      have hafter := (mem_rulesOf_insertAll _ _ _ _ _).2 (hkept.holds name hname)
      rw [rulesOf_closeAll hsid] at hafter
      rcases hafter with hstays | hissued
      · simp only [List.mem_filter, decide_eq_true_eq, closedFor, hsce, beq_self_eq_true,
          Bool.or_true, if_true] at hstays
        exact hstays.2.elim (fun hgone => hgone hname) (Nat.ne_of_gt hlength)
      · have hmissing : name ∈ missing outcome.gathered.listAbonRules := by
          simpa [issuedFor, hsce, missing] using hissued
        exact absurd (hactive ▸ hname) (missing_not_active hrun htype hsce hop name hmissing)
  · -- the rules were not to be operated
    have hoff := mt (operateRule_iff htype isProceraUsed).mpr hop
    rw [not_or, Bool.not_eq_false] at hoff
    exact .inl ⟨hoff.2, hoff.1⟩

/-- Whatever the calls into freeDiameter answer, an update leaves a session its rules, if and
only if it spares them. It does not matter whether gathering has failed: the rules that were
loaded are removed in any case. The rules are those that the session has when gathering begins,
which is after the request was stored: a rule that it reports is closed by then. -/
theorem update_rules_kept_iff {store : RuleStore} {outcome : (Nat → Bool) → CcrOutcome}
    (hrun : ∀ answers, appPcrfCcrCb env isProceraUsed uiRefreshDefRuleIn msg schedule queue
      { answers, state := { store } } = some (outcome answers))
    (htype : msg.soReqInfo.iCCRequestType = .updateRequest)
    (hne : (pcrfServerPolicyDbStore store msg.soSessInfo msg.soReqInfo).rulesOf
      msg.soSessInfo.strSessionId ≠ []) :
    let stored := pcrfServerPolicyDbStore store msg.soSessInfo msg.soReqInfo
    (∀ answers, RulesKept msg.soSessInfo.strSessionId stored (outcome answers).answering.state) ↔
      msg.SparesRules stored := by
  constructor
  · intro hkept
    have hall : (msg.stored { answers := fun _ => true, state := { store } }).AllSucceed := rfl
    exact spares_of_rulesKept (hrun fun _ => true) htype hne hall (hkept _)
  · intro hspares answers
    exact update_keeps_rules (hrun answers) htype rfl hspares

end

/-- A database that grants a quota and asks for new rules, but does not list them. -/
def unreadDb : DbConnection where
  sessionUsage _ _ := { processQuota := fun _ _ => .ok (⟨.empty, .empty, .of 700⟩, 1) }
  subRules _ _ := .failed { code := 3113, restored := false }
  monitKey _ _ := { processQuota := fun _ => .ok ⟨.empty, .empty, .empty⟩ }

/-- A UGW reports usage. -/
def usageReport : SMsgDataForDB where
  soSessInfo := ratChange.soSessInfo
  soReqInfo :=
    { iCCRequestType := .updateRequest
      vectEventTrigger := [33]
      vectUsageInfo := [{ coMonitoringKey := .of "gold", coCCInputOctets := .of 300 }] }

def unreadEnv : GatherEnv := { twoRulesEnv with pcoDBConn := some unreadDb }

/-- The worker asks for rules because of the quota, and its query of them fails: the session has
the rule `a` and keeps it. -/
theorem unread_update_keeps_rule :
    GatherFailure
      (usageReport.gatherCall (pcrfServerDetermineActionSet false usageReport) unreadEnv
        (sessionWith ["a"]).state.store.mapSessRuleLst) inTimeSchedule ∧
    ∃ outcome : (Nat → Bool) → CcrOutcome,
      (∀ answers, appPcrfCcrCb unreadEnv false 0 usageReport inTimeSchedule Multimap.empty
        { answers, state := { store := (sessionWith ["a"]).state.store } } =
          some (outcome answers)) ∧
      (∀ answers, (outcome answers).gathered.uiActionSet.operateRule = true) ∧
      ∀ answers, RulesKept "gx;1;1" (sessionWith ["a"]).state.store
        (outcome answers).answering.state := by
  have hsome : ∀ answers, (appPcrfCcrCb unreadEnv false 0 usageReport inTimeSchedule
      Multimap.empty
      { answers, state := { store := (sessionWith ["a"]).state.store } }).isSome = true :=
    fun _ => rfl
  have hrun := fun answers => (Option.some_get (hsome answers)).symm
  refine ⟨.query rfl rfl rfl, _, hrun, fun _ => rfl, ?_⟩
  exact (update_rules_kept_iff hrun rfl (by decide)).mpr (.inl (by decide))

/-- An update of a session that has the rule `a` because its RAT has changed, when no slot is free
for its worker. -/
def busyOutcome : Option CcrOutcome :=
  appPcrfCcrCb { twoRulesEnv with uiMaxCCRHandlers := 0 } false 0 ratChange
    (List.replicate 3 .handler) Multimap.empty (sessionWith ["a"])

/-- When the RAT has changed, the rule is removed and none takes its place. -/
theorem busy_update_removes_rule :
    GatherFailure
      (ratChange.gatherCall (pcrfServerDetermineActionSet false ratChange)
        { twoRulesEnv with uiMaxCCRHandlers := 0 } (sessionWith ["a"]).state.store.mapSessRuleLst)
      (List.replicate 3 .handler) ∧
    ∃ outcome, busyOutcome = some outcome ∧
      outcome.gathered.uiActionSet.operateRule = true ∧
      ¬ RulesKept "gx;1;1" (sessionWith ["a"]).state.store outcome.answering.state := by
  have hrun := (Option.some_get (show busyOutcome.isSome = true by decide)).symm
  refine ⟨.limit (by decide), _, hrun, by decide, fun h => ?_⟩
  exact absurd h.removed (by decide)

end Pcrf
