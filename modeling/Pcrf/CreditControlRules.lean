import Pcrf.GatheringRuns
import Pcrf.RuleEffects

/-!
Which rules the answer to a request removes and installs, and which rules its session has
afterwards, when gathering was in time and when it was not.
-/

namespace Pcrf

open Lib CallM

/-! ### What was gathered -/

/-- A handler that returns 0 has what the worker collected. -/
theorem returned_zero {call : GatherCall} {schedule : List Turn}
    (h : (call.machine.run schedule).returned = some 0) :
    (call.machine.run schedule).gathered = call.gathered.copyFrom call.collected := by
  cases (gatherInv_run call schedule).returns h with
  | done _ _ hresult => exact hresult.inTime rfl
  | createFailed _ _ hne => exact absurd rfl hne

/-- A handler that returns a failure has what it can get without the worker, and nothing at all
if there was none to start. -/
theorem returned_nonzero {call : GatherCall} {schedule : List Turn} {code : Int}
    (h : (call.machine.run schedule).returned = some code) (hne : code ≠ 0) :
    FallsBackTo call (call.machine.run schedule).gathered ∨
      call.createCode ≠ 0 ∧ (call.machine.run schedule).gathered = call.gathered := by
  cases (gatherInv_run call schedule).returns h with
  | done _ _ hresult =>
    left
    exact hresult.late hne
  | createFailed _ hcode _ _ hgathered =>
    right
    exact ⟨fun hzero => hne (hcode.trans hzero), hgathered⟩

/-- What the records have left of a quota does not change what the rules are asked for. -/
theorem updateQuota_subRulesArgs (db : DbConnection) (offline : Bool) (d : WorkerData) :
    (d.updateQuota db offline).soData.subRulesArgs = d.soData.subRulesArgs := by
  simp only [WorkerData.updateQuota]
  split
  · rfl
  · split <;> rfl

theorem updateQuota_vectActive (db : DbConnection) (offline : Bool) (d : WorkerData) :
    (d.updateQuota db offline).soData.vectActive = d.soData.vectActive ∧
      (d.updateQuota db offline).soData.i32CCRType = d.soData.i32CCRType := by
  simp only [WorkerData.updateQuota]
  split
  · exact ⟨rfl, rfl⟩
  · split <;> exact ⟨rfl, rfl⟩

theorem loadQuota_listAbonRules (db : DbConnection) (d : WorkerData) :
    (d.loadQuota db).gathered.listAbonRules = d.gathered.listAbonRules ∧
      (d.loadQuota db).gathered.uiActionSet = d.gathered.uiActionSet := by
  simp only [WorkerData.loadQuota]
  split <;> exact ⟨rfl, rfl⟩

theorem loadRules_actionSet (cache : RuleCache) (db : DbConnection) (d : WorkerData) :
    (d.loadRules cache db).gathered.uiActionSet = d.gathered.uiActionSet := by
  simp only [WorkerData.loadRules]
  split <;> rfl

theorem updateQuota_operateRule (db : DbConnection) (offline : Bool) {d : WorkerData}
    (h : d.gathered.uiActionSet.operateRule = true) :
    (d.updateQuota db offline).gathered.uiActionSet.operateRule = true := by
  simp only [WorkerData.updateQuota]
  split
  · exact h
  · split
    · simp [h]
    · exact h

/-- The worker never drops the operation of rules. -/
theorem collected_operateRule (call : GatherCall)
    (h : call.gathered.uiActionSet.operateRule = true) :
    call.collected.uiActionSet.operateRule = true := by
  simp only [GatherCall.collected, GatherCall.expected]
  split
  · exact h
  · simp only [GatherCall.dataAt]
    rw [(loadQuota_listAbonRules ..).2, markActive_actionSet, loadRules_actionSet]
    exact updateQuota_operateRule _ _ h

/-- The rules of the subscriber as the database gives them to the worker. -/
def GatherCall.abonRules (call : GatherCall) (db : DbConnection) : List SDBAbonRule :=
  pcrfServerCreateAbonRuleList call.ruleCache (some db.subRules) call.soData.subRulesArgs

theorem abonRules_fresh (call : GatherCall) (db : DbConnection) : Fresh (call.abonRules db) :=
  createAbonRuleList_fresh _ _ _

/-- The worker of an update collects the rules of the subscriber, marked with those of its
active rules that it has been given. -/
theorem collected_rules (call : GatherCall) {db : DbConnection}
    (hdb : call.pcoDBConn = some db) (htype : call.soData.i32CCRType = .updateRequest)
    (hop : call.collected.uiActionSet.operateRule = true) :
    call.collected.listAbonRules =
      (pcrfServerSelectNotrelevantActive (call.abonRules db) call.soData.vectActive).1 := by
  simp only [GatherCall.collected, GatherCall.expected, hdb, GatherCall.dataAt] at hop ⊢
  rw [(loadQuota_listAbonRules ..).2, markActive_actionSet, loadRules_actionSet] at hop
  rw [(loadQuota_listAbonRules ..).1]
  -- submitting usage has not changed what the rules are asked for and compared with
  obtain ⟨hactive, hkind⟩ := updateQuota_vectActive db false call.workerData
  have hargs := updateQuota_subRulesArgs db false call.workerData
  simp only [WorkerData.markActive, WorkerData.loadRules, hop, if_true, hactive, hkind, hargs]
  simp [GatherCall.workerData, htype, GatherCall.abonRules]

/-! ### What the answer does -/

theorem effect_answerTriggers (msg : SMsgDataForDB) (gathered : Gathered) :
    RuleEffect (msg.answerTriggers gathered) [] [] id := by
  simp only [SMsgDataForDB.answerTriggers]
  split
  · exact effect_putTriggers _
  · exact RuleEffect.pure

theorem effect_answerRules_update {msg : SMsgDataForDB} {gathered : Gathered}
    (htype : msg.soReqInfo.iCCRequestType = .updateRequest)
    (hop : gathered.uiActionSet.operateRule = true) (vectActive : List SDBAbonRule) :
    RuleEffect (msg.answerRules vectActive gathered)
      (namedFor msg.soSessInfo.uiPeerDialect (unwanted vectActive))
      (namedFor msg.soSessInfo.uiPeerDialect (missing gathered.listAbonRules))
      (insertAll msg.soSessInfo (issuedFor msg.soSessInfo.uiPeerDialect gathered.listAbonRules) ∘
        closeAll msg.soSessInfo
          (closedFor msg.soSessInfo.uiPeerDialect (unwanted vectActive))) := by
  simp only [SMsgDataForDB.answerRules, htype, hop, if_true]
  have heffect := (effect_makeCRR msg.soSessInfo vectActive).bind
    ((effect_makeCRI msg.soSessInfo (some msg.soReqInfo) gathered.listAbonRules).bind
      (effect_makeUMI false gathered.mapMonitInfo).tolerate)
  simpa only [List.append_nil, List.nil_append, Function.id_comp] using heffect

theorem effect_answerRules_initial {msg : SMsgDataForDB} {gathered : Gathered}
    (htype : msg.soReqInfo.iCCRequestType = .initialRequest) (vectActive : List SDBAbonRule) :
    RuleEffect (msg.answerRules vectActive gathered) []
      (namedFor msg.soSessInfo.uiPeerDialect (missing gathered.listAbonRules))
      (insertAll msg.soSessInfo
        (issuedFor msg.soSessInfo.uiPeerDialect gathered.listAbonRules)) := by
  simp only [SMsgDataForDB.answerRules, htype]
  have heffect := (effect_makeUMI false gathered.mapMonitInfo).tolerate.bind
    (effect_makeCRI msg.soSessInfo (some msg.soReqInfo) gathered.listAbonRules)
  simpa only [List.append_nil, List.nil_append, Function.comp_id] using heffect

/-- The answer is a new message with just these AVPs. -/
theorem exec_answer {msg : SMsgDataForDB} {vectActive : List SDBAbonRule} {gathered : Gathered}
    {removed installed : List String} {f : RuleStore → RuleStore}
    (heffect : RuleEffect (msg.answerRules vectActive gathered) removed installed f)
    {s : Answering AnswerState} (hs : s.AllSucceed) :
    ∃ more, exec (msg.answer vectActive gathered) s =
        (some (), { s with state := { s.state with store := f s.state.store, answer := more } }) ∧
      namesIn .chargingRuleRemove more = removed ∧
      namesIn .chargingRuleInstall more = installed := by
  -- the triggers that follow are not about rules
  obtain ⟨more, hexec, hremoved, hinstalled⟩ :=
    heffect.bind (effect_answerTriggers msg gathered) _
      (show Answering.AllSucceed { s with state := { s.state with answer := [] } } from hs)
  refine ⟨more, ?_, by simpa using hremoved, by simpa using hinstalled⟩
  simp only [SMsgDataForDB.answer, exec_bind_some (exec_newMessage hs)]
  rw [hexec]
  rfl

/-- The handler of a request has run to its end. -/
theorem respond_eq_some {env : GatherEnv} {isProceraUsed : Bool} {uiRefreshDefRuleIn : Nat}
    {msg : SMsgDataForDB} {schedule : List Turn} {queue : LocalRefreshQueue}
    {s : Answering AnswerState} {outcome : CcrOutcome}
    (h : msg.respond env isProceraUsed uiRefreshDefRuleIn schedule queue s = some outcome) :
    let uiActionSet := pcrfServerDetermineActionSet isProceraUsed msg
    let call := msg.gatherCall uiActionSet env s.state.store.mapSessRuleLst
    (call.machine.run schedule).returned = some outcome.iRetVal ∧
      outcome.gathered = (call.machine.run schedule).gathered ∧
      outcome.mmapLocalRefreshQueue =
        queueRefresh queue uiRefreshDefRuleIn msg.soSessInfo.strSubscriberId outcome.iRetVal ∧
      outcome.answering =
        (exec (msg.answer (msg.vectActive uiActionSet s.state.store.mapSessRuleLst)
          outcome.gathered) s).2 := by
  obtain ⟨iRetVal, hreturned, rfl⟩ := Option.map_eq_some_iff.mp h
  exact ⟨hreturned, rfl, rfl, rfl⟩

/-! ### An update whose data was gathered -/

/-- An update operates rules from the start when the RAT changes, and always for the dialects
other than UGW and Ericsson. -/
theorem operateRule_iff {msg : SMsgDataForDB}
    (htype : msg.soReqInfo.iCCRequestType = .updateRequest) (isProceraUsed : Bool) :
    (pcrfServerDetermineActionSet isProceraUsed msg).operateRule = true ↔
      2 ∈ msg.soReqInfo.vectEventTrigger ∨ msg.soSessInfo.uiPeerDialect.isIPCAN = false := by
  have hstep (set : ActionSet) (trigger : Int32) :
      (set.onTrigger msg.soSessInfo.uiPeerDialect isProceraUsed trigger).operateRule = true ↔
        set.operateRule = true ∨ trigger = 2 := by
    by_cases htrigger : trigger = 2
    · simp [ActionSet.onTrigger, htrigger]
    · -- no other trigger touches the bit
      simp only [ActionSet.onTrigger, htrigger, if_false, or_false]
      repeat' split
      all_goals rfl
  have hfold := foldl_onTrigger_iff hstep
  simp [pcrfServerDetermineActionSet, hfold, htype]

theorem takesRules_of_isIPCAN {dialect : PeerDialect} (h : dialect.isIPCAN = true) :
    dialect.takesRules = true := by
  cases dialect <;> simp_all [PeerDialect.isIPCAN, PeerDialect.takesRules]

theorem ne_procera_of_isIPCAN {dialect : PeerDialect} (h : dialect.isIPCAN = true) :
    dialect ≠ .gxProcera := by
  rintro rfl
  simp [PeerDialect.isIPCAN] at h

/-- Only a Procera session has rules of its own. -/
theorem additionalRules_eq_nil {msg : SMsgDataForDB} {uiActionSet : ActionSet}
    (hd : msg.soSessInfo.uiPeerDialect ≠ .gxProcera) :
    msg.additionalRules uiActionSet = [] := by
  simp [SMsgDataForDB.additionalRules, hd]

/-- The names of the rules that the database gives for the session of a request. -/
def SMsgDataForDB.wantedRules (msg : SMsgDataForDB) (env : GatherEnv) (db : DbConnection) :
    List String :=
  ruleNames ((msg.gatherCall {} env Store.empty).abonRules db)

/-- Nothing has marked the handler's active rules. -/
theorem unwanted_vectActive (msg : SMsgDataForDB) (uiActionSet : ActionSet)
    (mapSessRuleLst : SessionRuleCache) :
    unwanted (msg.vectActive uiActionSet mapSessRuleLst) =
      ruleNames (msg.vectActive uiActionSet mapSessRuleLst) := by
  simp only [SMsgDataForDB.vectActive]
  split
  · simp [unwanted, ruleNames, pcrfSessionRuleCacheGet, List.filter_map, Function.comp_def]
  · rfl

section

variable {env : GatherEnv} {isProceraUsed : Bool} {uiRefreshDefRuleIn : Nat}
  {msg : SMsgDataForDB} {schedule : List Turn} {queue : LocalRefreshQueue}
  {s : Answering AnswerState} {outcome : CcrOutcome}

/-- The rules for an update that was gathered in time: those of the subscriber, marked in the
worker's copies of them. -/
theorem gathered_rules
    (hrun : msg.respond env isProceraUsed uiRefreshDefRuleIn schedule queue s = some outcome)
    (hzero : outcome.iRetVal = 0) (hop : outcome.gathered.uiActionSet.operateRule = true)
    (hown : msg.additionalRules (pcrfServerDetermineActionSet isProceraUsed msg) = [])
    (htype : msg.soReqInfo.iCCRequestType = .updateRequest) {db : DbConnection}
    (hdb : env.pcoDBConn = some db) :
    outcome.gathered.listAbonRules = (pcrfServerSelectNotrelevantActive
      ((msg.gatherCall {} env Store.empty).abonRules db)
      (msg.vectActive (pcrfServerDetermineActionSet isProceraUsed msg)
        s.state.store.mapSessRuleLst)).1 := by
  obtain ⟨hreturned, hgathered, -⟩ := respond_eq_some hrun
  rw [hzero] at hreturned
  rw [returned_zero hreturned] at hgathered
  have hop' : outcome.gathered.uiActionSet =
      (msg.gatherCall (pcrfServerDetermineActionSet isProceraUsed msg) env
        s.state.store.mapSessRuleLst).collected.uiActionSet := by
    rw [hgathered]
    rfl
  have hcollected := collected_rules (msg.gatherCall
    (pcrfServerDetermineActionSet isProceraUsed msg) env s.state.store.mapSessRuleLst)
    hdb htype (by rw [← hop', hop])
  -- the handler's own list is empty, so the worker's is the whole one
  rw [hgathered]
  simp only [Gathered.copyFrom, hcollected]
  simp only [SMsgDataForDB.gatherCall, hown, List.nil_append]
  rfl

/-- What is missing of them is what the active rules do not have. -/
theorem missing_gathered
    (hrun : msg.respond env isProceraUsed uiRefreshDefRuleIn schedule queue s = some outcome)
    (hzero : outcome.iRetVal = 0) (hop : outcome.gathered.uiActionSet.operateRule = true)
    (hd : msg.soSessInfo.uiPeerDialect.isIPCAN = true)
    (htype : msg.soReqInfo.iCCRequestType = .updateRequest) {db : DbConnection}
    (hdb : env.pcoDBConn = some db) :
    let active := ruleNames (msg.vectActive (pcrfServerDetermineActionSet isProceraUsed msg)
      s.state.store.mapSessRuleLst)
    ruleNames outcome.gathered.listAbonRules = msg.wantedRules env db ∧
      missing outcome.gathered.listAbonRules =
        Reconcile.added active (msg.wantedRules env db) := by
  intro active
  have hown : msg.additionalRules (pcrfServerDetermineActionSet isProceraUsed msg) = [] :=
    additionalRules_eq_nil (ne_procera_of_isIPCAN hd)
  rw [gathered_rules hrun hzero hop hown htype hdb]
  exact ⟨ruleNames_marked .., missing_marked _ fun rule hrule => (abonRules_fresh _ _ rule hrule).1⟩

/-- Such an answer removes every rule it was given as active, wanted or not. -/
theorem answer_gathered
    (hrun : msg.respond env isProceraUsed uiRefreshDefRuleIn schedule queue s = some outcome)
    (hzero : outcome.iRetVal = 0) (hop : outcome.gathered.uiActionSet.operateRule = true)
    (hd : msg.soSessInfo.uiPeerDialect.isIPCAN = true)
    (htype : msg.soReqInfo.iCCRequestType = .updateRequest) {db : DbConnection}
    (hdb : env.pcoDBConn = some db) (hsid : 0 < msg.soSessInfo.strSessionId.length)
    (hwanted : ∀ name ∈ msg.wantedRules env db, 0 < name.length) (hs : s.AllSucceed)
    {active : List String} (hactive : ruleNames (msg.vectActive
      (pcrfServerDetermineActionSet isProceraUsed msg) s.state.store.mapSessRuleLst) = active) :
    namesIn .chargingRuleRemove outcome.answering.state.answer = active ∧
      namesIn .chargingRuleInstall outcome.answering.state.answer =
        Reconcile.added active (msg.wantedRules env db) ∧
      outcome.answering.state.store.rulesOf msg.soSessInfo.strSessionId =
        ((s.state.store.rulesOf msg.soSessInfo.strSessionId).filter fun name =>
          name ∉ active ∨ name.length = 0) ++ Reconcile.added active (msg.wantedRules env db) := by
  obtain ⟨hnames, hmissing⟩ := missing_gathered hrun hzero hop hd htype hdb
  obtain ⟨-, -, -, hanswering⟩ := respond_eq_some hrun
  have htakes := takesRules_of_isIPCAN hd
  have hunwanted := unwanted_vectActive msg (pcrfServerDetermineActionSet isProceraUsed msg)
    s.state.store.mapSessRuleLst
  rw [hactive] at hunwanted hmissing
  have heffect := effect_answerRules_update htype hop
    (msg.vectActive (pcrfServerDetermineActionSet isProceraUsed msg) s.state.store.mapSessRuleLst)
  simp only [namedFor, closedFor, htakes, Bool.true_or, if_true, hunwanted, hmissing] at heffect
  obtain ⟨more, hexec, hremoved, hinstalled⟩ := exec_answer heffect hs
  rw [hanswering, hexec]
  refine ⟨hremoved, hinstalled, ?_⟩
  have hrules := rulesOf_closed_issued hsid active (hnames ▸ hwanted) (by rw [htakes]; rfl)
    s.state.store msg.soSessInfo.strSessionId
  simp only [if_true, hmissing] at hrules
  exact hrules

/-- Where every rule held is removed and what is not held is installed, the rules are reconciled
exactly if no rule held is wanted or without a name. -/
theorem reconciled_of_allRemoved_iff {sessionId : String} {held wanted : List String}
    {avps : List Avp} {after : RuleStore} (hwanted : ∀ name ∈ wanted, 0 < name.length)
    (hremoved : namesIn .chargingRuleRemove avps = held)
    (hinstalled : namesIn .chargingRuleInstall avps = Reconcile.added held wanted)
    (hafter : after.rulesOf sessionId =
      (held.filter fun name => name ∉ held ∨ name.length = 0) ++ Reconcile.added held wanted) :
    RulesReconciled sessionId held wanted avps after ↔
      ∀ name ∈ held, name ∉ wanted ∧ 0 < name.length := by
  constructor
  · intro h name hname
    refine ⟨((h.removed name).mp (by rw [hremoved]; exact hname)).2, ?_⟩
    -- a rule without a name is not closed, so it would have to be wanted
    refine Nat.pos_of_ne_zero fun hempty => ?_
    have hkept : name ∈ after.rulesOf sessionId := by
      rw [hafter]
      exact List.mem_append_left _ (List.mem_filter.mpr ⟨hname, decide_eq_true (.inr hempty)⟩)
    exact absurd hempty (Nat.ne_of_gt (hwanted name ((h.holds name).mp hkept)))
  · intro hdisjoint
    refine ⟨fun name => ?_, fun name => ?_, fun name => ?_⟩
    · rw [hremoved]
      exact ⟨fun hname => ⟨hname, (hdisjoint name hname).1⟩, fun h => h.1⟩
    · rw [hinstalled, Reconcile.mem_added]
    · rw [hafter]
      simp only [List.mem_append, List.mem_filter, decide_eq_true_eq, Reconcile.mem_added]
      constructor
      · rintro (⟨hold, hgone | hempty⟩ | ⟨hname, -⟩)
        · exact absurd hold hgone
        · exact absurd hempty (Nat.ne_of_gt (hdisjoint name hold).2)
        · exact hname
      · exact fun hname => .inr ⟨hname, fun hold => (hdisjoint name hold).1 hname⟩

/-- Where nothing is removed and all that is wanted is installed, they are so exactly if no rule
was held. -/
theorem reconciled_of_noneRemoved_iff {sessionId : String} {held wanted : List String}
    {avps : List Avp} {after : RuleStore} (hremoved : namesIn .chargingRuleRemove avps = [])
    (hinstalled : namesIn .chargingRuleInstall avps = Reconcile.added [] wanted)
    (hafter : after.rulesOf sessionId =
      (held.filter fun name => name ∉ [] ∨ name.length = 0) ++ Reconcile.added [] wanted) :
    RulesReconciled sessionId held wanted avps after ↔ held = [] := by
  constructor
  · intro h
    -- a rule that stays must be wanted, and then it was installed although it was held
    refine List.eq_nil_iff_forall_not_mem.mpr fun name hname => ?_
    have hkept := (h.holds name).mp (by rw [hafter]; simp [hname])
    have hnew := (h.installed name).mp (by rw [hinstalled]; simp [hkept])
    exact hnew.2 hname
  · intro hnone
    subst hnone
    refine ⟨fun name => by simp [hremoved], fun name => by simp [hinstalled], fun name => ?_⟩
    rw [hafter]
    simp

/-- The rules of an update that was gathered in time are reconciled if and only if no rule that
was given to the worker as active is wanted or without a name, and none was active if none was
given. The rules held are those that the cache lists once the request is stored: a rule that the
request itself reports is closed by then. -/
theorem update_rules_reconciled_iff
    (hrun : appPcrfCcrCb env isProceraUsed uiRefreshDefRuleIn msg schedule queue s = some outcome)
    (hzero : outcome.iRetVal = 0) (hop : outcome.gathered.uiActionSet.operateRule = true)
    (hd : msg.soSessInfo.uiPeerDialect.isIPCAN = true)
    (htype : msg.soReqInfo.iCCRequestType = .updateRequest) {db : DbConnection}
    (hdb : env.pcoDBConn = some db) (hsid : 0 < msg.soSessInfo.strSessionId.length)
    (hwanted : ∀ name ∈ msg.wantedRules env db, 0 < name.length) (hs : s.AllSucceed) :
    let held := (msg.stored s).state.store.rulesOf msg.soSessInfo.strSessionId
    RulesReconciled msg.soSessInfo.strSessionId held (msg.wantedRules env db)
        outcome.answering.state.answer outcome.answering.state.store ↔
      (2 ∈ msg.soReqInfo.vectEventTrigger →
        ∀ name ∈ held, name ∉ msg.wantedRules env db ∧ 0 < name.length) ∧
      (2 ∉ msg.soReqInfo.vectEventTrigger → held = []) := by
  have hstored : (msg.stored s).AllSucceed := hs
  replace hrun : msg.respond env isProceraUsed uiRefreshDefRuleIn schedule queue (msg.stored s) =
    some outcome := hrun
  generalize msg.stored s = after at hrun hstored ⊢
  have htrigger := operateRule_iff htype isProceraUsed
  simp only [hd, Bool.true_eq_false, or_false] at htrigger
  by_cases hrat : 2 ∈ msg.soReqInfo.vectEventTrigger
  · -- the session's rules were loaded: the answer removes all of them
    have hactive : ruleNames (msg.vectActive (pcrfServerDetermineActionSet isProceraUsed msg)
        after.state.store.mapSessRuleLst) =
        after.state.store.rulesOf msg.soSessInfo.strSessionId := by
      simp only [SMsgDataForDB.vectActive, htype, htrigger.mpr hrat, and_self, if_true]
      exact ruleNames_get ..
    obtain ⟨hremoved, hinstalled, hrules⟩ :=
      answer_gathered hrun hzero hop hd htype hdb hsid hwanted hstored hactive
    simp only [hrat, true_implies, not_true_eq_false, false_implies, and_true]
    exact reconciled_of_allRemoved_iff hwanted hremoved hinstalled hrules
  · -- they were not: the answer removes nothing and installs everything
    have hactive : ruleNames (msg.vectActive (pcrfServerDetermineActionSet isProceraUsed msg)
        after.state.store.mapSessRuleLst) = [] := by
      have hoff : (pcrfServerDetermineActionSet isProceraUsed msg).operateRule = false :=
        Bool.eq_false_iff.mpr fun hon => hrat (htrigger.mp hon)
      simp [SMsgDataForDB.vectActive, hoff, ruleNames]
    obtain ⟨hremoved, hinstalled, hrules⟩ :=
      answer_gathered hrun hzero hop hd htype hdb hsid hwanted hstored hactive
    simp only [hrat, false_implies, not_false_eq_true, true_implies, true_and]
    exact reconciled_of_noneRemoved_iff hremoved hinstalled hrules

end

/-- A database that answers with the rules `a` and `b`. -/
def twoRulesDb : DbConnection where
  sessionUsage _ _ := { processQuota := fun _ _ => .ok (⟨.empty, .empty, .empty⟩, 0) }
  subRules _ _ := .answered "a\t\nb\t\n" none
  monitKey _ _ := { processQuota := fun _ => .ok ⟨.empty, .empty, .empty⟩ }

/-- Both rules are in the cache of rules. -/
def twoRulesEnv : GatherEnv where
  uiMaxCCRHandlers := 1
  ruleCache := .ofRows [{ strRuleName := "a" }, { strRuleName := "b" }]
  pcoDBConn := some twoRulesDb

/-- An update of a UGW session because its RAT has changed. -/
def ratChange : SMsgDataForDB where
  soSessInfo := { uiPeerDialect := .gxHwUgw, strSessionId := "gx;1;1", strSubscriberId := "7" }
  soReqInfo := { iCCRequestType := .updateRequest, vectEventTrigger := [2] }

/-- The session has the given rules, and no call will fail. -/
def sessionWith (names : List String) : Answering AnswerState where
  answers := fun _ => true
  state := { store := { mapSessRuleLst := Store.set Store.empty "gx;1;1" names } }

/-- The worker is in time. -/
def inTimeSchedule : List Turn :=
  [.handler, .handler] ++ List.replicate 6 .worker ++ List.replicate 4 .handler

/-- The update of a session that has the given rules. -/
def ratChangeOutcome (names : List String) : Option CcrOutcome :=
  appPcrfCcrCb twoRulesEnv false 0 ratChange inTimeSchedule Multimap.empty (sessionWith names)

/-- A rule that is not wanted any more is replaced by the wanted ones. -/
theorem ratChange_reconciled :
    ∃ outcome, ratChangeOutcome ["c"] = some outcome ∧
      RulesReconciled "gx;1;1" ["c"] ["a", "b"] outcome.answering.state.answer
        outcome.answering.state.store := by
  have hrun := (Option.some_get (show (ratChangeOutcome ["c"]).isSome = true by decide)).symm
  refine ⟨_, hrun, (update_rules_reconciled_iff hrun (by decide) (by decide) (by decide)
    (by decide) rfl (by decide) (by decide) rfl).mpr ⟨fun _ => by decide, ?_⟩⟩
  exact fun hno => absurd hno (by decide)

/-- A rule that the session has and keeps is removed all the same. -/
theorem ratChange_removes_wanted_rule :
    ∃ outcome, ratChangeOutcome ["a"] = some outcome ∧ outcome.iRetVal = 0 ∧
      outcome.gathered.uiActionSet.operateRule = true ∧
      ¬ RulesReconciled "gx;1;1" ["a"] ["a", "b"] outcome.answering.state.answer
        outcome.answering.state.store := by
  have hrun := (Option.some_get (show (ratChangeOutcome ["a"]).isSome = true by decide)).symm
  refine ⟨_, hrun, by decide, by decide, fun h => ?_⟩
  exact absurd ((h.removed "a").mp (by decide)).2 (by decide)

end Pcrf
