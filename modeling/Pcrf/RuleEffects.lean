import Pcrf.CreditControl
import Pcrf.RuleReconcile

/-!
What building a part of a message does to the rules: the names in the Charging-Rule-Remove and
Charging-Rule-Install AVPs that it puts into the message, and what it closes and issues.
-/

namespace Pcrf

open Lib CallM

/-- The state with other rules and more AVPs in the message. -/
def withMore (s : Answering AnswerState) (store : RuleStore) (more : List Avp) :
    Answering AnswerState :=
  { s with state := { s.state with store, answer := s.state.answer ++ more } }

/-- When no call fails, the program puts AVPs into the message that remove and install the
given rules, and changes the issued rules by `f`. -/
def RuleEffect (x : FdM Unit) (removed installed : List String) (f : RuleStore → RuleStore) :
    Prop :=
  ∀ s : Answering AnswerState, s.AllSucceed → ∃ more,
    exec x s = (some (), withMore s (f s.state.store) more) ∧
      namesIn .chargingRuleRemove more = removed ∧ namesIn .chargingRuleInstall more = installed

theorem namesIn_append (dict : Dict) (avps more : List Avp) :
    namesIn dict (avps ++ more) = namesIn dict avps ++ namesIn dict more :=
  List.flatMap_append

theorem withMore_nil (s : Answering AnswerState) : withMore s s.state.store [] = s := by
  simp [withMore]

theorem withMore_withMore (s : Answering AnswerState) (store store' : RuleStore)
    (more more' : List Avp) :
    withMore (withMore s store more) store' more' = withMore s store' (more ++ more') := by
  simp [withMore]

namespace RuleEffect

variable {x y : FdM Unit} {removed installed removed' installed' : List String}
  {f g : RuleStore → RuleStore}

theorem pure : RuleEffect (return ()) [] [] id := by
  intro s _
  exact ⟨[], by rw [exec_pure, id_eq, withMore_nil], rfl, rfl⟩

theorem bind (hx : RuleEffect x removed installed f) (hy : RuleEffect y removed' installed' g) :
    RuleEffect (x >>= fun _ => y) (removed ++ removed') (installed ++ installed') (g ∘ f) := by
  intro s hs
  obtain ⟨more, hexec, hremoved, hinstalled⟩ := hx s hs
  obtain ⟨more', hexec', hremoved', hinstalled'⟩ := hy (withMore s (f s.state.store) more) hs
  refine ⟨more ++ more', ?_, ?_, ?_⟩
  · rw [exec_bind_some hexec, hexec', withMore_withMore]
    rfl
  · rw [namesIn_append, hremoved, hremoved']
  · rw [namesIn_append, hinstalled, hinstalled']

theorem tolerate (hx : RuleEffect x removed installed f) :
    RuleEffect (CallM.tolerate x) removed installed f := by
  intro s hs
  obtain ⟨more, hexec, hnames⟩ := hx s hs
  exact ⟨more, by rw [exec_tolerate, hexec], hnames⟩

end RuleEffect

/-- A part that adds AVPs which are not about rules. -/
def PlainPart (part : Part) : Prop :=
  ∀ s : Answering AnswerState, s.AllSucceed → ∃ more, exec (part []) s = (some more, s) ∧
    namesIn .chargingRuleRemove more = [] ∧ namesIn .chargingRuleInstall more = []

theorem effect_putMessage {part : Part} (h : PlainPart part) :
    RuleEffect (putMessage part) [] [] id := by
  intro s hs
  obtain ⟨more, hexec, hremoved, hinstalled⟩ := h s hs
  refine ⟨more, ?_, hremoved, hinstalled⟩
  simp only [putMessage, exec_bind_some hexec, exec_update]
  rfl

theorem exec_putTriggers (triggers : List Int32) {s : Answering AnswerState}
    (hs : s.AllSucceed) : exec (putTriggers triggers) s = (some (), withMore s s.state.store
      (triggers.map fun trigId => .leaf .eventTrigger (.i32 trigId))) := by
  induction triggers generalizing s with
  | nil => exact (congrArg (Prod.mk _) (withMore_nil s)).symm
  | cons trigId triggers ih =>
    have hset : exec (setEventTrigger trigId) s =
        (some (), withMore s s.state.store [.leaf .eventTrigger (.i32 trigId)]) := by
      have hleaf : exec (putLeaf .eventTrigger (.i32 trigId) []) s =
          (some [.leaf .eventTrigger (.i32 trigId)], s) := by
        simp only [putLeaf, exec_bind_some (exec_call hs)]
        rfl
      simp only [setEventTrigger, putMessage, exec_bind_some hleaf, exec_update]
      rfl
    have hmore : (withMore s s.state.store [.leaf .eventTrigger (.i32 trigId)]).AllSucceed := hs
    rw [putTriggers, exec_bind, exec_tolerate, hset]
    refine (ih hmore).trans ?_
    rw [withMore_withMore]
    rfl

theorem effect_putTriggers (triggers : List Int32) :
    RuleEffect (putTriggers triggers) [] [] id := by
  have hplain (dict : Dict) : namesIn dict
      (triggers.map fun trigId => .leaf .eventTrigger (.i32 trigId)) = [] := by
    simp [namesIn, List.flatMap_eq_nil_iff, Avp.carried]
  intro s hs
  exact ⟨_, exec_putTriggers triggers hs, hplain _, hplain _⟩

theorem appends_grantedParts (info : SDBMonitoringInfo) :
    ∀ part ∈ grantedParts info, Appends part := by
  simp only [grantedParts]
  split
  · simp only [List.forall_mem_cons]
    exact ⟨appends_putValue, appends_putValue, by simp⟩
  · simp only [List.forall_mem_cons]
    exact ⟨appends_putLeaf, by simp⟩

theorem plainPart_putUMI (key : String) (info : SDBMonitoringInfo) (isNeedUMR : Bool) :
    PlainPart (putUMI key info isNeedUMR) := by
  intro s hs
  have hgroup : ∃ inner, exec (putUMI key info isNeedUMR []) s =
      (some ([] ++ [.group .usageMonitoringInformation inner]), s) := by
    refine exec_putGroup ?_ hs
    simp only [List.forall_mem_append, List.forall_mem_singleton]
    refine ⟨⟨⟨appends_putLeaf, ?_⟩, ?_⟩, appends_putGroup (appends_grantedParts info)⟩
    · split
      · simp
      · exact List.forall_mem_singleton.mpr appends_putLeaf
    · split
      · exact List.forall_mem_singleton.mpr appends_putLeaf
      · simp
  obtain ⟨inner, hexec⟩ := hgroup
  refine ⟨_, hexec, ?_, ?_⟩
  · simp [namesIn, Avp.carried]
  · simp [namesIn, Avp.carried]

theorem effect_makeUMI (isNeedUMR : Bool) (mapMonitInfo : MonitInfoMap) :
    RuleEffect (pcrfMakeUMI isNeedUMR mapMonitInfo) [] [] id := by
  induction mapMonitInfo with
  | nil => exact RuleEffect.pure
  | cons entry rest ih =>
    obtain ⟨key, info⟩ := entry
    simp only [pcrfMakeUMI]
    split
    · exact ih
    · exact (effect_putMessage (plainPart_putUMI _ _ _)).bind ih

/-! ### Removing and installing -/

/-- Putting an AVP that was made on the way of changing the issued rules. -/
theorem effect_putMade {make : FdM (Option Avp)} {removed installed : List String}
    {f : RuleStore → RuleStore}
    (h : ∀ s : Answering AnswerState, s.AllSucceed → ∃ avp more,
      exec make s = (some avp, withMore s (f s.state.store) more) ∧
        namesIn .chargingRuleRemove (more ++ avp.toList) = removed ∧
        namesIn .chargingRuleInstall (more ++ avp.toList) = installed) :
    RuleEffect (putMade make) removed installed f := by
  intro s hs
  obtain ⟨avp, more, hexec, hremoved, hinstalled⟩ := h s hs
  refine ⟨more ++ avp.toList, ?_, hremoved, hinstalled⟩
  cases avp with
  | none =>
    simp only [putMade, exec_bind_some hexec, Option.toList_none, List.append_nil]
    rfl
  | some avp =>
    have hmore : (withMore s (f s.state.store) more).AllSucceed := hs
    simp only [putMade, exec_bind_some hexec, exec_tolerate, exec_bind_some (exec_call hmore),
      exec_update]
    simp [withMore]

/-- The rules that are closed for the unwanted ones: the dialects without rules of their own
close none. -/
def closedFor (dialect : PeerDialect) (names : List String) : List String :=
  if dialect.takesRules || dialect == .gxCiscoSce then names else []

theorem closedFor_unwanted_nil (dialect : PeerDialect) : closedFor dialect (unwanted []) = [] := by
  simp [closedFor, unwanted, ruleNames]

/-- The rules that are named for the unwanted ones: an SCE does not name rules. -/
def namedFor (dialect : PeerDialect) (names : List String) : List String :=
  if dialect.takesRules then names else []

/-- Without AVPs that name rules, they are closed for an SCE only. -/
theorem exec_makeCRRLoop_unnamed {sessInfo : SSessionInfo}
    (hd : sessInfo.uiPeerDialect.takesRules = false) (vectActive : List SDBAbonRule)
    (s : Answering AnswerState) :
    exec (pcrfMakeCRRLoop sessInfo vectActive none) s =
      (some none, withMore s (closeAll sessInfo
        (closedFor sessInfo.uiPeerDialect (unwanted vectActive)) s.state.store) []) := by
  induction vectActive generalizing s with
  | nil =>
    rw [closedFor_unwanted_nil]
    exact (congrArg (Prod.mk _) (withMore_nil s)).symm
  | cons rule vectActive ih =>
    by_cases hrel : rule.isRelevant = true
    · have hsame : unwanted (rule :: vectActive) = unwanted vectActive := by
        simp [unwanted, hrel]
      simp only [pcrfMakeCRRLoop, hrel, if_true, hsame, ih]
    · have hmore : unwanted (rule :: vectActive) = rule.strRuleName :: unwanted vectActive := by
        simp [unwanted, ruleNames, hrel]
      cases hdialect : sessInfo.uiPeerDialect with
      | gxCiscoSce =>
        -- closed without a word in the message
        simp only [hdialect] at ih
        simp only [pcrfMakeCRRLoop, hrel, hdialect, Bool.false_eq_true, if_false]
        rw [exec_bind_some (exec_update ..), ih, hmore]
        rfl
      | gxHwUgw | gxProcera | gxEricssn => simp [hdialect, PeerDialect.takesRules] at hd
      | gxUndef | rxIms | unsupported =>
        simp only [hdialect] at ih
        simp only [pcrfMakeCRRLoop, hrel, hdialect, Bool.false_eq_true, if_false, ih, hmore]
        rfl

theorem effect_makeCRR (sessInfo : SSessionInfo) (vectActive : List SDBAbonRule) :
    RuleEffect (putMade (pcrfMakeCRR sessInfo vectActive))
      (namedFor sessInfo.uiPeerDialect (unwanted vectActive)) []
      (closeAll sessInfo (closedFor sessInfo.uiPeerDialect (unwanted vectActive))) := by
  refine effect_putMade fun s hs => ?_
  cases hd : sessInfo.uiPeerDialect.takesRules with
  | true =>
    -- the AVP is returned, and nothing is put into the message on the way
    obtain ⟨crr, hexec, -, hremoved, hinstalled⟩ := exec_makeCRR hd vectActive hs
    refine ⟨crr, [], ?_, ?_, hinstalled⟩
    · simp only [closedFor, hd, Bool.true_or, if_true]
      rw [hexec]
      simp [withMore, withStore]
    · simp only [namedFor, hd, if_true]
      exact hremoved
  | false =>
    have hloop := exec_makeCRRLoop_unnamed hd vectActive s
    refine ⟨none, [], ?_, ?_, rfl⟩
    · simp only [pcrfMakeCRR]
      cases hempty : vectActive.isEmpty with
      | true =>
        obtain rfl := List.isEmpty_iff.mp hempty
        simp only [if_true, closedFor_unwanted_nil]
        exact (congrArg (Prod.mk _) (withMore_nil s)).symm
      | false =>
        simp only [Bool.false_eq_true, if_false, exec_bind_some (exec_attempt_some hloop)]
        rfl
    · simp only [namedFor, hd, Bool.false_eq_true, if_false]
      rfl

/-- The AVPs of an SCE go straight into the message and name no rule. -/
theorem effect_putAnswer {α : Type} (o : OtlValue α) (dict : Dict) (value : α → UInt32) :
    RuleEffect (putAnswer o dict value) [] [] id := by
  simp only [putAnswer]
  split
  · exact RuleEffect.pure
  · intro s hs
    refine ⟨[.leaf dict (.u32 (value o.v))], ?_, rfl, rfl⟩
    simp only [exec_bind_some (exec_call hs), exec_update]
    rfl

/-- The rules that are issued: the dialects without rules of their own are issued none. -/
def issuedFor (dialect : PeerDialect) (rules : List SDBAbonRule) : List SDBAbonRule :=
  if dialect.takesRules || dialect == .gxCiscoSce then rules.filter fun rule => !rule.isActive
  else []

theorem effect_putSceRule (rule : SDBAbonRule) : RuleEffect (putSceRule rule) [] [] id :=
  (effect_putAnswer _ _ _).bind ((effect_putAnswer _ _ _).bind
    ((effect_putAnswer _ _ _).bind (effect_putAnswer _ _ _)))

theorem exec_makeCRILoop_unnamed {sessInfo : SSessionInfo} (reqInfo : Option SRequestInfo)
    (hd : sessInfo.uiPeerDialect.takesRules = false) (listAbonRules : List SDBAbonRule)
    {s : Answering AnswerState} (hs : s.AllSucceed) :
    ∃ more, exec (pcrfMakeCRILoop sessInfo reqInfo listAbonRules none) s =
        (some none, withMore s (insertAll sessInfo
          (issuedFor sessInfo.uiPeerDialect listAbonRules) s.state.store) more) ∧
      namesIn .chargingRuleRemove more = [] ∧ namesIn .chargingRuleInstall more = [] := by
  induction listAbonRules generalizing s with
  | nil =>
    have hnil : issuedFor sessInfo.uiPeerDialect [] = [] := by simp [issuedFor]
    exact ⟨[], by rw [hnil]; exact (congrArg (Prod.mk _) (withMore_nil s)).symm, rfl, rfl⟩
  | cons rule listAbonRules ih =>
    cases hdialect : sessInfo.uiPeerDialect with
    | gxCiscoSce =>
      simp only [hdialect] at ih
      obtain ⟨more, hput, hremoved, hinstalled⟩ := effect_putSceRule rule s hs
      -- an SCE is told of every rule, but only those that are not active are issued
      cases hact : rule.isActive with
      | true =>
        have hissued : issuedFor .gxCiscoSce (rule :: listAbonRules) =
            issuedFor .gxCiscoSce listAbonRules := by
          simp [issuedFor, hact]
        have hmore : (withMore s s.state.store more).AllSucceed := hs
        obtain ⟨rest, hexec, hremoved', hinstalled'⟩ := ih hmore
        refine ⟨more ++ rest, ?_, by rw [namesIn_append, hremoved, hremoved']; rfl,
          by rw [namesIn_append, hinstalled, hinstalled']; rfl⟩
        simp only [pcrfMakeCRILoop, hdialect, hact, if_true]
        rw [exec_bind_some hput]
        refine hexec.trans ?_
        rw [withMore_withMore, hissued]
        rfl
      | false =>
        have hissued : issuedFor .gxCiscoSce (rule :: listAbonRules) =
            rule :: issuedFor .gxCiscoSce listAbonRules := by
          simp [issuedFor, hact]
        have hmore : (withMore s (pcrfDbInsertRule s.state.store sessInfo rule) more).AllSucceed :=
          hs
        obtain ⟨rest, hexec, hremoved', hinstalled'⟩ := ih hmore
        refine ⟨more ++ rest, ?_, by rw [namesIn_append, hremoved, hremoved']; rfl,
          by rw [namesIn_append, hinstalled, hinstalled']; rfl⟩
        simp only [pcrfMakeCRILoop, hdialect, hact, Bool.false_eq_true, if_false]
        rw [exec_bind_some hput, exec_bind_some (exec_update ..)]
        refine hexec.trans ?_
        rw [withMore_withMore, hissued]
        rfl
    | gxHwUgw | gxProcera | gxEricssn => simp [hdialect, PeerDialect.takesRules] at hd
    | gxUndef | rxIms | unsupported =>
      simp only [hdialect] at ih
      simp only [pcrfMakeCRILoop, hdialect]
      exact ih hs

/-- Charging-Rule-Install names the rules that are issued, except to an SCE. -/
theorem effect_makeCRI (sessInfo : SSessionInfo) (reqInfo : Option SRequestInfo)
    (listAbonRules : List SDBAbonRule) :
    RuleEffect (putMade (pcrfMakeCRI sessInfo reqInfo listAbonRules)) []
      (namedFor sessInfo.uiPeerDialect (missing listAbonRules))
      (insertAll sessInfo (issuedFor sessInfo.uiPeerDialect listAbonRules)) := by
  refine effect_putMade fun s hs => ?_
  cases hd : sessInfo.uiPeerDialect.takesRules with
  | true =>
    obtain ⟨cri, hexec, -, hinstalled, hremoved⟩ := exec_makeCRI hd reqInfo listAbonRules hs
    refine ⟨cri, [], ?_, hremoved, ?_⟩
    · simp only [issuedFor, hd, Bool.true_or, if_true]
      rw [hexec]
      simp [withMore, withStore]
    · simp only [namedFor, hd, if_true]
      exact hinstalled
  | false =>
    -- there is no AVP to return; what the message got was put into it by the loop
    obtain ⟨more, hloop, hremoved, hinstalled⟩ :=
      exec_makeCRILoop_unnamed reqInfo hd listAbonRules hs
    have hnone : namedFor sessInfo.uiPeerDialect (missing listAbonRules) = [] := by
      simp [namedFor, hd]
    simp only [pcrfMakeCRI]
    cases hempty : listAbonRules.isEmpty with
    | true =>
      obtain rfl := List.isEmpty_iff.mp hempty
      have hnil : issuedFor sessInfo.uiPeerDialect [] = [] := by simp [issuedFor]
      refine ⟨none, [], ?_, rfl, hnone.symm⟩
      simp only [if_true, hnil]
      exact (congrArg (Prod.mk _) (withMore_nil s)).symm
    | false =>
      refine ⟨none, more, ?_, ?_, ?_⟩
      · simp only [Bool.false_eq_true, if_false, exec_bind_some (exec_attempt_some hloop)]
        rfl
      · simpa using hremoved
      · simpa [hnone] using hinstalled

/-! ### The rules of the session afterwards -/

/-- The names in the AVPs and the rules of the session bring what it had to what it should
have. -/
structure RulesReconciled (sessionId : String) (held wanted : List String) (avps : List Avp)
    (after : RuleStore) : Prop where
  removed : ∀ name, name ∈ namesIn .chargingRuleRemove avps ↔ name ∈ held ∧ name ∉ wanted
  installed : ∀ name, name ∈ namesIn .chargingRuleInstall avps ↔ name ∈ wanted ∧ name ∉ held
  holds : ∀ name, name ∈ after.rulesOf sessionId ↔ name ∈ wanted

/-- The rules of a session of these dialects after some were closed and the missing ones
issued; the other sessions keep theirs. -/
theorem rulesOf_closed_issued {sessInfo : SSessionInfo} (hs : 0 < sessInfo.strSessionId.length)
    (gone : List String) {listAbonRules : List SDBAbonRule}
    (hn : ∀ name ∈ ruleNames listAbonRules, 0 < name.length)
    (hd : (sessInfo.uiPeerDialect.takesRules || sessInfo.uiPeerDialect == .gxCiscoSce) = true)
    (st : RuleStore) (s : String) :
    (insertAll sessInfo (issuedFor sessInfo.uiPeerDialect listAbonRules)
      (closeAll sessInfo gone st)).rulesOf s =
      if s = sessInfo.strSessionId then
        ((st.rulesOf sessInfo.strSessionId).filter fun name => name ∉ gone ∨ name.length = 0) ++
          missing listAbonRules
      else st.rulesOf s := by
  have hissued : ∀ name ∈ ruleNames (issuedFor sessInfo.uiPeerDialect listAbonRules),
      0 < name.length := by
    intro name hname
    simp only [issuedFor, hd, if_true] at hname
    obtain ⟨rule, hrule, rfl⟩ := List.mem_map.mp hname
    exact hn _ (List.mem_map_of_mem (List.mem_of_mem_filter hrule))
  rw [rulesOf_insertAll hs hissued, rulesOf_closeAll hs, rulesOf_closeAll hs]
  by_cases hsess : s = sessInfo.strSessionId
  · simp [hsess, issuedFor, hd, missing]
  · simp [hsess]

end Pcrf
