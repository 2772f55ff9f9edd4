import Pcrf.RuleInstall
import Pcrf.Lib.Reconcile

/-!
What the two AVPs name, and what issuing and closing rules leaves in the session rule cache,
when the calls into freeDiameter succeed.
-/

namespace Pcrf

open Lib CallM

/-! ### Marks -/

theorem selectNotrelevantActive_eq (listAbonRules vectActive : List SDBAbonRule) :
    pcrfServerSelectNotrelevantActive listAbonRules vectActive =
      (listAbonRules.map fun rule =>
        if rule.strRuleName ∈ ruleNames vectActive then { rule with isActive := true } else rule,
       vectActive.map fun active =>
        if active.strRuleName ∈ ruleNames listAbonRules then { active with isRelevant := true }
        else active) := by
  -- marking active rules leaves the names that later rules are compared with
  have hmarked : ∀ (vectActive : List SDBAbonRule) (name : String),
      ruleNames (vectActive.map fun active =>
        if active.strRuleName == name then { active with isRelevant := true } else active) =
      ruleNames vectActive := by
    intro vectActive name
    simp only [ruleNames, List.map_map]
    refine List.map_congr_left fun active _ => ?_
    simp only [Function.comp_apply]
    split <;> rfl
  induction listAbonRules generalizing vectActive with
  | nil => simp [pcrfServerSelectNotrelevantActive, ruleNames]
  | cons rule listAbonRules ih =>
    simp only [pcrfServerSelectNotrelevantActive, ih, hmarked, List.map_cons, Prod.mk.injEq,
      List.cons.injEq, and_true]
    constructor
    · -- the wanted rule is marked when an active one has its name
      have hfound : (vectActive.any fun active => active.strRuleName == rule.strRuleName) = true ↔
          rule.strRuleName ∈ ruleNames vectActive := by
        simp [ruleNames]
      simp only [hfound]
    · -- an active rule keeps the mark, whichever wanted rule it has it from
      rw [List.map_map]
      refine List.map_congr_left fun active _ => ?_
      by_cases hname : active.strRuleName = rule.strRuleName
      · simp [ruleNames, hname]
      · simp [ruleNames, hname]

/-- Marks do not change names. -/
theorem ruleNames_marked (listAbonRules vectActive : List SDBAbonRule) :
    ruleNames (pcrfServerSelectNotrelevantActive listAbonRules vectActive).1 =
      ruleNames listAbonRules := by
  simp only [selectNotrelevantActive_eq]
  generalize ruleNames vectActive = names
  simp only [ruleNames, List.map_map]
  refine List.map_congr_left fun rule _ => ?_
  by_cases hname : rule.strRuleName ∈ names <;> simp [hname]

/-- The names of the active rules that are not wanted. -/
def unwanted (vectActive : List SDBAbonRule) : List String :=
  ruleNames (vectActive.filter fun rule => !rule.isRelevant)

/-- The names of the wanted rules that are not active. -/
def missing (listAbonRules : List SDBAbonRule) : List String :=
  ruleNames (listAbonRules.filter fun rule => !rule.isActive)

theorem unwanted_marked (listAbonRules : List SDBAbonRule) {vectActive : List SDBAbonRule}
    (h : ∀ rule ∈ vectActive, rule.isRelevant = false) :
    unwanted (pcrfServerSelectNotrelevantActive listAbonRules vectActive).2 =
      Reconcile.removed (ruleNames vectActive) (ruleNames listAbonRules) := by
  simp only [selectNotrelevantActive_eq]
  -- all active rules are compared with the same names
  generalize ruleNames listAbonRules = names
  induction vectActive with
  | nil => rfl
  | cons active vectActive ih =>
    have hactive := h active (List.mem_cons_self ..)
    have ih := ih fun rule hrule => h rule (List.mem_cons_of_mem _ hrule)
    simp only [unwanted, Reconcile.removed, ruleNames] at ih ⊢
    by_cases hname : active.strRuleName ∈ names
    · simp [hname, ih]
    · simp [hname, hactive, ih]

theorem missing_marked {listAbonRules : List SDBAbonRule} (vectActive : List SDBAbonRule)
    (h : ∀ rule ∈ listAbonRules, rule.isActive = false) :
    missing (pcrfServerSelectNotrelevantActive listAbonRules vectActive).1 =
      Reconcile.added (ruleNames vectActive) (ruleNames listAbonRules) := by
  simp only [selectNotrelevantActive_eq]
  generalize ruleNames vectActive = names
  induction listAbonRules with
  | nil => rfl
  | cons rule listAbonRules ih =>
    have hrule := h rule (List.mem_cons_self ..)
    have ih := ih fun r hr => h r (List.mem_cons_of_mem _ hr)
    simp only [missing, Reconcile.added, ruleNames] at ih ⊢
    by_cases hname : rule.strRuleName ∈ names
    · simp [hname, ih]
    · simp [hname, hrule, ih]

/-! ### Names in the AVPs -/

/-- The dialects whose rules are removed and installed by AVPs of the answer. -/
def PeerDialect.takesRules : PeerDialect → Bool
  | gxHwUgw | gxProcera | gxEricssn => true
  | _ => false

theorem takesRules_iff {dialect : PeerDialect} :
    dialect.takesRules = true ↔
      dialect = .gxHwUgw ∨ dialect = .gxProcera ∨ dialect = .gxEricssn := by
  cases dialect <;> simp [PeerDialect.takesRules]

/-- The name in an AVP that names a rule. -/
def Avp.name : Avp → Option String
  | .leaf .chargingRuleName (.os name) => some name
  | .leaf .chargingRuleBaseName (.os name) => some name
  | _ => none

/-- The rule that an AVP names or defines. -/
def Avp.definedRule : Avp → Option String
  | .group .chargingRuleDefinition children => children.findSome? Avp.name
  | avp => avp.name

/-- The rules that an AVP of the given kind is about. -/
def Avp.carried (dict : Dict) : Avp → List String
  | .group d children => if d = dict then children.filterMap Avp.definedRule else []
  | .leaf _ _ => []

/-- The rules that the Charging-Rule-Remove or the Charging-Rule-Install AVPs among some AVPs
are about, in order. -/
def namesIn (dict : Dict) (avps : List Avp) : List String := avps.flatMap (Avp.carried dict)

theorem definedRule_nameDict (rule : SDBAbonRule) (name : String) :
    (Avp.leaf (nameDict rule) (.os name)).definedRule = some name := by
  unfold nameDict
  split <;> rfl

section Parts

theorem appends_putLeaf {dict : Dict} {value : AvpValue} : Appends (putLeaf dict value) := by
  intro s hs children
  exact ⟨[.leaf dict value], by simp only [putLeaf, exec_bind_some (exec_call hs)]; rfl⟩

theorem appends_putValue {α : Type} {o : OtlValue α} {dict : Dict} {value : α → AvpValue} :
    Appends (putValue o dict value) := by
  unfold putValue
  split
  · exact Appends.pure
  · exact appends_putLeaf

theorem exec_putGroup {dict : Dict} {parts : List Part} (h : ∀ part ∈ parts, Appends part)
    {s : Answering AnswerState} (hs : s.AllSucceed) {children : List Avp} :
    ∃ inner, exec (putGroup dict parts children) s =
      (some (children ++ [.group dict inner]), s) := by
  obtain ⟨inner, hinner⟩ := Appends.runAll h s hs []
  refine ⟨[] ++ inner, ?_⟩
  simp only [putGroup, exec_bind_some (exec_call hs), exec_bind_some hinner]
  rfl

theorem appends_putGroup {dict : Dict} {parts : List Part} (h : ∀ part ∈ parts, Appends part) :
    Appends (putGroup dict parts) := by
  intro s hs children
  obtain ⟨inner, hexec⟩ := exec_putGroup h hs
  exact ⟨_, hexec⟩

theorem exec_makeQoSI (reqInfo : Option SRequestInfo) (rule : SDBAbonRule)
    {s : Answering AnswerState} (hs : s.AllSucceed) :
    ∃ qosi, exec (pcrfMakeQoSI reqInfo rule) s = (some qosi, s) := by
  have hmake : ∃ more, exec (pcrfMakeQoSI reqInfo rule) s =
      (some (.group .qosInformation ([] ++ more)), s) := by
    simp only [pcrfMakeQoSI, exec_bind_some (exec_call hs)]
    refine exec_runAll_map ?_ hs
    simp only [List.forall_mem_cons]
    refine ⟨appends_putValue, appends_putValue, appends_putValue, appends_putValue,
      appends_putValue, appends_putGroup ?_, by simp⟩
    simp only [List.forall_mem_cons]
    exact ⟨appends_putLeaf, appends_putValue, appends_putValue, by simp⟩
  obtain ⟨more, hexec⟩ := hmake
  exact ⟨_, hexec⟩

theorem appends_putQoSI {reqInfo : Option SRequestInfo} {rule : SDBAbonRule} :
    Appends (putQoSI reqInfo rule) := by
  intro s hs children
  obtain ⟨qosi, hqosi⟩ := exec_makeQoSI reqInfo rule hs
  refine ⟨[qosi], ?_⟩
  simp only [putQoSI, exec_bind_some (exec_attempt_some hqosi), exec_bind_some (exec_call hs)]
  rfl

theorem appends_putFlowInformation (flow : SFlowInformation) :
    Appends (putFlowInformation flow) := by
  refine appends_putGroup ?_
  simp only [List.forall_mem_cons]
  exact ⟨appends_putValue, appends_putValue, by simp⟩

theorem appends_putMonitoringKey {rule : SDBAbonRule} : Appends (putMonitoringKey rule) := by
  unfold putMonitoringKey
  split
  · exact Appends.pure
  · exact appends_putLeaf

theorem appends_putRedirectServer {rule : SDBAbonRule} : Appends (putRedirectServer rule) := by
  unfold putRedirectServer
  split
  · exact Appends.pure
  · refine appends_putGroup ?_
    simp only [List.forall_mem_cons]
    exact ⟨appends_putLeaf, appends_putLeaf, by simp⟩

end Parts

/-- A definition that is made names its rule. -/
theorem exec_makeCRD (reqInfo : Option SRequestInfo) (rule : SDBAbonRule)
    {s : Answering AnswerState} (hs : s.AllSucceed) :
    ∃ crd, exec (pcrfMakeCRD reqInfo rule) s = (some crd, s) ∧
      crd.definedRule = some rule.strRuleName := by
  cases hflag : flagSet rule.coDynamicRuleFlag with
  | true =>
    -- a dynamic rule: the name comes first, and what follows is appended to it
    have hname : exec (pcrfSetCRN .chargingRuleName rule.strRuleName []) s =
        (some [.leaf .chargingRuleName (.os rule.strRuleName)], s) := by
      simp only [pcrfSetCRN, putLeaf, exec_bind_some (exec_call hs)]
      rfl
    have hmake : ∃ more, exec (pcrfMakeCRD reqInfo rule) s =
        (some (.group .chargingRuleDefinition
          ([.leaf .chargingRuleName (.os rule.strRuleName)] ++ more)), s) := by
      simp only [pcrfMakeCRD, hflag, if_true, exec_bind_some (exec_call hs),
        exec_bind_some hname]
      refine exec_runAll_map ?_ hs
      simp only [List.forall_mem_append, List.forall_mem_cons, List.forall_mem_map]
      exact ⟨⟨⟨appends_putValue, appends_putValue, appends_putValue, by simp⟩,
        fun flow _ => appends_putFlowInformation flow⟩, appends_putQoSI, appends_putValue,
        appends_putValue, appends_putValue, appends_putValue, appends_putValue,
        appends_putMonitoringKey, appends_putRedirectServer, by simp⟩
    obtain ⟨more, hexec⟩ := hmake
    exact ⟨_, hexec, rfl⟩
  | false =>
    -- a predefined rule: the AVP that names it is all there is
    refine ⟨.leaf (nameDict rule) (.os rule.strRuleName), ?_, definedRule_nameDict ..⟩
    simp only [pcrfMakeCRD, hflag, Bool.false_eq_true, if_false, exec_bind_some (exec_call hs)]
    rfl

/-! ### Rules closed and issued on the way -/

def closeAll (sessInfo : SSessionInfo) (names : List String) (st : RuleStore) : RuleStore :=
  names.foldl (fun st name => pcrfDbCloseSessionRule st sessInfo name none) st

def insertAll (sessInfo : SSessionInfo) (rules : List SDBAbonRule) (st : RuleStore) :
    RuleStore :=
  rules.foldl (fun st rule => pcrfDbInsertRule st sessInfo rule) st

theorem rulesOf_closeAll {sessInfo : SSessionInfo} (hs : 0 < sessInfo.strSessionId.length)
    (names : List String) (st : RuleStore) (s : String) :
    (closeAll sessInfo names st).rulesOf s =
      if s = sessInfo.strSessionId then
        (st.rulesOf sessInfo.strSessionId).filter fun name => name ∉ names ∨ name.length = 0
      else st.rulesOf s := by
  unfold closeAll
  induction names generalizing st with
  | nil => simp +contextual
  | cons name names ih =>
    rw [List.foldl_cons, ih]
    simp only [rulesOf_closeSessionRule hs]
    by_cases hsess : s = sessInfo.strSessionId
    · -- taking away one name and then the others takes away all of them
      simp only [hsess, if_true, List.filter_filter]
      refine List.filter_congr fun n _ => ?_
      by_cases hn : n.length = 0
      · simp [hn]
      · simp [hn, Bool.and_comm]
    · simp [hsess]

/-- Closing rules that the cache refuses to remove changes nothing in it. -/
theorem rulesOf_closeAll_refused {sessInfo : SSessionInfo} {names : List String}
    (h : ∀ name ∈ names, ¬ (0 < sessInfo.strSessionId.length ∧ 0 < name.length))
    (st : RuleStore) (s : String) :
    (closeAll sessInfo names st).rulesOf s = st.rulesOf s := by
  unfold closeAll
  induction names generalizing st with
  | nil => rfl
  | cons name names ih =>
    have hname := h name (List.mem_cons_self ..)
    rw [List.foldl_cons, ih fun n hmem => h n (List.mem_cons_of_mem _ hmem)]
    simp only [RuleStore.rulesOf, pcrfDbCloseSessionRule, pcrfSessionRuleCacheRemoveRule, hname,
      if_false]

/-- The removal is refused to a session and to a rule without a name. -/
theorem rulesOf_closeAll_guarded {sessInfo : SSessionInfo} (names : List String)
    (st : RuleStore) (s : String) :
    (closeAll sessInfo names st).rulesOf s =
      if s = sessInfo.strSessionId then
        (st.rulesOf s).filter fun name =>
          ¬ (name ∈ names ∧ 0 < sessInfo.strSessionId.length ∧ 0 < name.length)
      else st.rulesOf s := by
  by_cases hs : 0 < sessInfo.strSessionId.length
  · rw [rulesOf_closeAll hs]
    refine if_ctx_congr Iff.rfl (fun hsess => ?_) fun _ => rfl
    rw [hsess]
    refine List.filter_congr fun name _ => ?_
    by_cases hname : name ∈ names <;> simp [hname, hs, Nat.pos_iff_ne_zero]
  · rw [rulesOf_closeAll_refused fun _ _ h => hs h.1]
    simp [hs]

/-- The code of the failure is for the database only. -/
theorem rulesOf_closeReported {sessInfo : SSessionInfo} {st : RuleStore}
    (policies : List SSessionPolicyInfo) (s : String) :
    (policies.foldl (fun st policy =>
        pcrfDbCloseSessionRule st sessInfo policy.coChargingRuleName.v
          (some policy.coRuleFailureCodeEnum.v)) st).rulesOf s =
      (closeAll sessInfo (policies.map (·.coChargingRuleName.v)) st).rulesOf s := by
  have same (st st' : RuleStore) (h : st.mapSessRuleLst = st'.mapSessRuleLst) :
      (policies.foldl (fun st policy =>
          pcrfDbCloseSessionRule st sessInfo policy.coChargingRuleName.v
            (some policy.coRuleFailureCodeEnum.v)) st).mapSessRuleLst =
        (closeAll sessInfo (policies.map (·.coChargingRuleName.v)) st').mapSessRuleLst := by
    unfold closeAll
    induction policies generalizing st st' with
    | nil => exact h
    | cons policy policies ih =>
      rw [List.foldl_cons, List.map_cons, List.foldl_cons]
      exact ih _ _ (by simp only [pcrfDbCloseSessionRule, h])
  exact congrArg (Index.entries · s) (same st st rfl)

/-- The names that storing a request takes from the rules of its session: those that the request
reports, unless the cache refuses to remove them. -/
def reportedRules (sessInfo : SSessionInfo) (reqInfo : SRequestInfo) : List String :=
  match reqInfo.iCCRequestType with
  | .updateRequest | .terminationRequest =>
    (reqInfo.vectCRR.map (·.coChargingRuleName.v)).filter fun name =>
      0 < sessInfo.strSessionId.length ∧ 0 < name.length
  | .initialRequest | .other _ => []

/-- A rule is filed only if it and its session have names. -/
theorem rulesOf_insertAll_filed {sessInfo : SSessionInfo} (rules : List SDBAbonRule)
    (st : RuleStore) (s : String) :
    (insertAll sessInfo rules st).rulesOf s =
      st.rulesOf s ++ if s = sessInfo.strSessionId then
        (ruleNames rules).filter fun name =>
          0 < sessInfo.strSessionId.length ∧ 0 < name.length
      else [] := by
  have one (st : RuleStore) (rule : SDBAbonRule) :
      (pcrfDbInsertRule st sessInfo rule).rulesOf s =
        st.rulesOf s ++ if s = sessInfo.strSessionId then
          [rule.strRuleName].filter fun name =>
            0 < sessInfo.strSessionId.length ∧ 0 < name.length
        else [] := by
    by_cases named : 0 < sessInfo.strSessionId.length ∧ 0 < rule.strRuleName.length
    · rw [rulesOf_insertRule named.1 named.2]
      by_cases hs : s = sessInfo.strSessionId <;> simp [hs, named]
    · have same : (pcrfDbInsertRule st sessInfo rule).mapSessRuleLst = st.mapSessRuleLst := by
        simp only [pcrfDbInsertRule, pcrfSessionRuleCacheInsert, named, if_false, ite_self]
      have none_filed : ([rule.strRuleName].filter fun name =>
          0 < sessInfo.strSessionId.length ∧ 0 < name.length) = [] := by
        simp only [named, List.filter_cons, List.filter_nil, decide_false, Bool.false_eq_true,
          if_false]
      rw [none_filed, ite_self, List.append_nil, RuleStore.rulesOf, same]
      rfl
  unfold insertAll
  induction rules generalizing st with
  | nil => simp [ruleNames]
  | cons rule rules ih =>
    rw [List.foldl_cons, ih, one]
    by_cases hs : s = sessInfo.strSessionId
    · simp only [hs, if_true, ruleNames, List.map_cons, List.append_assoc]
      rw [← List.filter_append]
      rfl
    · simp [hs]

theorem rulesOf_insertAll {sessInfo : SSessionInfo} (hs : 0 < sessInfo.strSessionId.length)
    {rules : List SDBAbonRule} (hn : ∀ name ∈ ruleNames rules, 0 < name.length)
    (st : RuleStore) (s : String) :
    (insertAll sessInfo rules st).rulesOf s =
      if s = sessInfo.strSessionId then
        st.rulesOf sessInfo.strSessionId ++ ruleNames rules
      else st.rulesOf s := by
  rw [rulesOf_insertAll_filed]
  by_cases hsess : s = sessInfo.strSessionId
  · have named : ((ruleNames rules).filter fun name =>
        0 < sessInfo.strSessionId.length ∧ 0 < name.length) = ruleNames rules := by
      rw [List.filter_eq_self]
      simpa [hs] using hn
    rw [if_pos hsess, if_pos hsess, named, hsess]
  · rw [if_neg hsess, if_neg hsess, List.append_nil]

theorem sqlQueue_insertAll (sessInfo : SSessionInfo) (rules : List SDBAbonRule)
    (st : RuleStore) :
    (insertAll sessInfo rules st).sqlQueue =
      st.sqlQueue ++ (ruleNames rules).map (.insertRule sessInfo.strSessionId) := by
  simp only [insertAll]
  induction rules generalizing st with
  | nil => simp [ruleNames]
  | cons rule rules ih =>
    rw [List.foldl_cons, ih]
    simp [pcrfDbInsertRule, ruleNames]

/-- Issuing a rule adds at most its name, and takes nothing away. -/
theorem mem_rulesOf_insertAll (sessInfo : SSessionInfo) (rules : List SDBAbonRule)
    (st : RuleStore) (s name : String) :
    (name ∈ st.rulesOf s → name ∈ (insertAll sessInfo rules st).rulesOf s) ∧
      (name ∈ (insertAll sessInfo rules st).rulesOf s →
        name ∈ st.rulesOf s ∨ name ∈ ruleNames rules) := by
  rw [rulesOf_insertAll_filed, List.mem_append]
  refine ⟨.inl, fun h => h.imp_right fun hnew => ?_⟩
  split at hnew
  · exact (List.mem_filter.mp hnew).1
  · cases hnew

/-- The answer state with another rule store. -/
def withStore (s : Answering AnswerState) (store : RuleStore) : Answering AnswerState :=
  { s with state := { s.state with store } }

theorem AllSucceed.withStore {s : Answering AnswerState} (h : s.AllSucceed)
    (store : RuleStore) : (withStore s store).AllSucceed := h

private theorem exec_openOnDemand {crr : Option (List Avp)} {create : FdM (List Avp)}
    {s : Answering AnswerState} {created : List Avp} (h : exec create s = (some created, s)) :
    exec (openOnDemand crr create) s = (some (crr.getD created), s) := by
  cases crr with
  | none => exact h
  | some children => rfl

/-- The loop closes and names the unwanted rules. -/
theorem exec_makeCRRLoop {sessInfo : SSessionInfo} (hd : sessInfo.uiPeerDialect.takesRules = true)
    (vectActive : List SDBAbonRule) {s : Answering AnswerState} (hs : s.AllSucceed)
    (crr : Option (List Avp)) :
    ∃ crr', exec (pcrfMakeCRRLoop sessInfo vectActive crr) s =
        (some crr', withStore s (closeAll sessInfo (unwanted vectActive) s.state.store)) ∧
      crr'.isSome = (crr.isSome || !(unwanted vectActive).isEmpty) ∧
      (crr'.getD []).filterMap Avp.definedRule =
        (crr.getD []).filterMap Avp.definedRule ++ unwanted vectActive := by
  induction vectActive generalizing s crr with
  | nil => exact ⟨crr, rfl, by simp [unwanted, ruleNames], by simp [unwanted, ruleNames]⟩
  | cons rule vectActive ih =>
    by_cases hrel : rule.isRelevant = true
    · -- a relevant rule is passed over
      have hsame : unwanted (rule :: vectActive) = unwanted vectActive := by
        simp [unwanted, hrel]
      simp only [pcrfMakeCRRLoop, hrel, if_true, hsame]
      exact ih hs crr
    · -- another one is named in the AVP, which exists from then on, and closed
      have hmore : unwanted (rule :: vectActive) = rule.strRuleName :: unwanted vectActive := by
        simp [unwanted, ruleNames, hrel]
      have hcreate : exec (do call; return [] : FdM (List Avp)) s = (some [], s) := by
        rw [exec_bind_some (exec_call hs)]
        rfl
      have hname : exec (attempt (pcrfSetCRN (nameDict rule) rule.strRuleName (crr.getD []))) s =
          (some (some (crr.getD [] ++ [.leaf (nameDict rule) (.os rule.strRuleName)])), s) := by
        simp only [exec_attempt, pcrfSetCRN, putLeaf, exec_bind_some (exec_call hs)]
        rfl
      obtain ⟨crr', hexec, hsome, hnames⟩ :=
        ih (AllSucceed.withStore hs (pcrfDbCloseSessionRule s.state.store sessInfo
          rule.strRuleName none)) (some (crr.getD [] ++ [.leaf (nameDict rule)
            (.os rule.strRuleName)]))
      refine ⟨crr', ?_, by simp [hsome, hmore], ?_⟩
      · have hloop : exec (pcrfMakeCRRLoop sessInfo (rule :: vectActive) crr) s =
            exec (pcrfMakeCRRLoop sessInfo vectActive
              (some (crr.getD [] ++ [.leaf (nameDict rule) (.os rule.strRuleName)])))
              (withStore s (pcrfDbCloseSessionRule s.state.store sessInfo rule.strRuleName none))
            := by
          rcases takesRules_iff.mp hd with hdialect | hdialect | hdialect
          all_goals
            simp only [pcrfMakeCRRLoop, hrel, hdialect, Bool.false_eq_true, if_false,
              exec_bind_some (exec_openOnDemand hcreate), exec_bind_some hname]
            rfl
        rw [hloop, hexec, hmore]
        rfl
      · simp [hnames, hmore, definedRule_nameDict]

/-- Charging-Rule-Remove names the unwanted rules, and there is one if there are any. -/
theorem exec_makeCRR {sessInfo : SSessionInfo} (hd : sessInfo.uiPeerDialect.takesRules = true)
    (vectActive : List SDBAbonRule) {s : Answering AnswerState} (hs : s.AllSucceed) :
    ∃ crr, exec (pcrfMakeCRR sessInfo vectActive) s =
        (some crr, withStore s (closeAll sessInfo (unwanted vectActive) s.state.store)) ∧
      crr.isSome = !(unwanted vectActive).isEmpty ∧
      namesIn .chargingRuleRemove crr.toList = unwanted vectActive ∧
      namesIn .chargingRuleInstall crr.toList = [] := by
  unfold pcrfMakeCRR
  cases hempty : vectActive.isEmpty with
  | true =>
    obtain rfl := List.isEmpty_iff.mp hempty
    exact ⟨none, rfl, rfl, rfl, rfl⟩
  | false =>
    obtain ⟨crr, hexec, hsome, hnames⟩ := exec_makeCRRLoop hd vectActive hs none
    simp only [Bool.false_eq_true, if_false, exec_bind_some (exec_attempt_some hexec)]
    cases crr with
    | none => exact ⟨none, rfl, by simpa using hsome, by simpa [namesIn] using hnames, rfl⟩
    | some children =>
      exact ⟨some (.group .chargingRuleRemove children), rfl, by simpa using hsome,
        by simpa [namesIn, Avp.carried] using hnames, by simp [namesIn, Avp.carried]⟩

theorem exec_putBearerIdentifier (reqInfo : Option SRequestInfo) {s : Answering AnswerState}
    (hs : s.AllSucceed) :
    ∃ children, exec (putBearerIdentifier reqInfo []) s = (some children, s) ∧
      children.filterMap Avp.definedRule = [] := by
  have hskip : ∃ children, exec (return [] : FdM (List Avp)) s = (some children, s) ∧
      children.filterMap Avp.definedRule = [] := ⟨[], rfl, rfl⟩
  cases reqInfo with
  | none => exact hskip
  | some req =>
    simp only [putBearerIdentifier, putValue]
    split
    · split
      · exact hskip
      · refine ⟨[.leaf .bearerIdentifier (.os req.coBearerIdentifier.v)], ?_, rfl⟩
        simp only [putLeaf, exec_bind_some (exec_call hs)]
        rfl
    · exact hskip

/-- The loop issues and defines the rules that are not active. -/
theorem exec_makeCRILoop {sessInfo : SSessionInfo} (hd : sessInfo.uiPeerDialect.takesRules = true)
    (reqInfo : Option SRequestInfo) (listAbonRules : List SDBAbonRule)
    {s : Answering AnswerState} (hs : s.AllSucceed) (cri : Option (List Avp)) :
    ∃ cri', exec (pcrfMakeCRILoop sessInfo reqInfo listAbonRules cri) s =
        (some cri', withStore s (insertAll sessInfo
          (listAbonRules.filter fun rule => !rule.isActive) s.state.store)) ∧
      cri'.isSome = (cri.isSome || !(missing listAbonRules).isEmpty) ∧
      (cri'.getD []).filterMap Avp.definedRule =
        (cri.getD []).filterMap Avp.definedRule ++ missing listAbonRules := by
  induction listAbonRules generalizing s cri with
  | nil => exact ⟨cri, rfl, by simp [missing, ruleNames], by simp [missing, ruleNames]⟩
  | cons rule listAbonRules ih =>
    by_cases hact : rule.isActive = true
    · -- an active rule is passed over
      have hsame : missing (rule :: listAbonRules) = missing listAbonRules := by
        simp [missing, hact]
      have hloop : pcrfMakeCRILoop sessInfo reqInfo (rule :: listAbonRules) cri =
          pcrfMakeCRILoop sessInfo reqInfo listAbonRules cri := by
        rcases takesRules_iff.mp hd with hdialect | hdialect | hdialect
        all_goals simp only [pcrfMakeCRILoop, hact, hdialect, if_true]
      simp only [hloop, hsame, List.filter_cons, hact, Bool.not_true, Bool.false_eq_true, if_false]
      exact ih hs cri
    · -- another one is defined in the AVP, behind the bearer if there is one, and issued
      have hmore : missing (rule :: listAbonRules) = rule.strRuleName :: missing listAbonRules := by
        simp [missing, ruleNames, hact]
      obtain ⟨bearer, hbearer, hbearerNames⟩ := exec_putBearerIdentifier reqInfo hs
      have hcreate : exec (do call; putBearerIdentifier reqInfo [] : FdM (List Avp)) s =
          (some bearer, s) := by
        rw [exec_bind_some (exec_call hs)]
        exact hbearer
      obtain ⟨crd, hcrd, hcrdName⟩ := exec_makeCRD reqInfo rule hs
      obtain ⟨cri', hexec, hsome, hnames⟩ :=
        ih (AllSucceed.withStore hs (pcrfDbInsertRule s.state.store sessInfo rule))
          (some (cri.getD bearer ++ [crd]))
      refine ⟨cri', ?_, by simp [hsome, hmore], ?_⟩
      · have hloop : exec (pcrfMakeCRILoop sessInfo reqInfo (rule :: listAbonRules) cri) s =
            exec (pcrfMakeCRILoop sessInfo reqInfo listAbonRules
              (some (cri.getD bearer ++ [crd])))
              (withStore s (pcrfDbInsertRule s.state.store sessInfo rule)) := by
          rcases takesRules_iff.mp hd with hdialect | hdialect | hdialect
          all_goals
            simp only [pcrfMakeCRILoop, hact, hdialect, Bool.false_eq_true, if_false,
              exec_bind_some (exec_openOnDemand hcreate),
              exec_bind_some (exec_attempt_some hcrd), exec_bind_some (exec_call hs)]
            rfl
        rw [hloop, hexec]
        simp only [List.filter_cons, hact, Bool.not_false, if_true]
        rfl
      · have hopened : (cri.getD bearer).filterMap Avp.definedRule =
            (cri.getD []).filterMap Avp.definedRule := by
          cases cri with
          | none => exact hbearerNames
          | some children => rfl
        simp [hnames, hmore, hcrdName, hopened]

/-- Charging-Rule-Install carries the rules that are not active, if there are any. -/
theorem exec_makeCRI {sessInfo : SSessionInfo} (hd : sessInfo.uiPeerDialect.takesRules = true)
    (reqInfo : Option SRequestInfo) (listAbonRules : List SDBAbonRule)
    {s : Answering AnswerState} (hs : s.AllSucceed) :
    ∃ cri, exec (pcrfMakeCRI sessInfo reqInfo listAbonRules) s =
        (some cri, withStore s (insertAll sessInfo
          (listAbonRules.filter fun rule => !rule.isActive) s.state.store)) ∧
      cri.isSome = !(missing listAbonRules).isEmpty ∧
      namesIn .chargingRuleInstall cri.toList = missing listAbonRules ∧
      namesIn .chargingRuleRemove cri.toList = [] := by
  unfold pcrfMakeCRI
  cases hempty : listAbonRules.isEmpty with
  | true =>
    obtain rfl := List.isEmpty_iff.mp hempty
    exact ⟨none, rfl, rfl, rfl, rfl⟩
  | false =>
    obtain ⟨cri, hexec, hsome, hnames⟩ := exec_makeCRILoop hd reqInfo listAbonRules hs none
    simp only [Bool.false_eq_true, if_false, exec_bind_some (exec_attempt_some hexec)]
    cases cri with
    | none => exact ⟨none, rfl, by simpa using hsome, by simpa [namesIn] using hnames, rfl⟩
    | some children =>
      exact ⟨some (.group .chargingRuleInstall children), rfl, by simpa using hsome,
        by simpa [namesIn, Avp.carried] using hnames, by simp [namesIn, Avp.carried]⟩

end Pcrf
