import Pcrf.CreditControlRules
import Pcrf.UsageMonitoring

/-!
The event triggers in the answer to an update. Whether rules have changed is found out from the
target rules alone, and the rules that are removed from the active ones.
-/

namespace Pcrf

open Lib CallM

/-! ### The answer -/

/-- The message has such an AVP. -/
def Carries (dict : Dict) (avps : List Avp) : Prop := ∃ children, Avp.group dict children ∈ avps

def HasTrigger (avps : List Avp) (trigger : Int32) : Prop :=
  Avp.leaf .eventTrigger (.i32 trigger) ∈ avps

/-- The triggers for a change of the RAT, of the location and of the SGSN are in the message
exactly when rules are installed or removed by it. -/
def TriggersFollowRules (avps : List Avp) : Prop :=
  ∀ trigger ∈ ([2, 13, 0] : List Int32),
    (HasTrigger avps trigger ↔ Carries .chargingRuleInstall avps ∨ Carries .chargingRuleRemove avps)

/-- A target rule is marked as a change exactly when there is something to install or to
remove. -/
def ChangesAreMarked (listAbonRules vectActive : List SDBAbonRule) : Prop :=
  (∃ rule ∈ listAbonRules, rule.isActive ≠ rule.isRelevant) ↔
    (∃ rule ∈ listAbonRules, rule.isActive = false) ∨ ∃ rule ∈ vectActive, rule.isRelevant = false

theorem rulesChanged_iff (listAbonRules : List SDBAbonRule) :
    rulesChanged listAbonRules = true ↔
      ∃ rule ∈ listAbonRules, rule.isActive ≠ rule.isRelevant := by
  simp only [rulesChanged, Bool.or_eq_true, List.any_eq_true]
  constructor
  · rintro (⟨rule, hrule, h⟩ | ⟨rule, hrule, h⟩)
    · exact ⟨rule, hrule, by simp_all⟩
    · exact ⟨rule, hrule, by simp_all⟩
  · rintro ⟨rule, hrule, h⟩
    cases hactive : rule.isActive with
    | false => exact .inl ⟨rule, hrule, by simp_all⟩
    | true => exact .inr ⟨rule, hrule, by simp_all⟩

/-! ### What is put into the message -/

/-- When no call fails, the program puts AVPs into the message of which `P` holds. -/
def Puts (x : FdM Unit) (P : List Avp → Prop) : Prop :=
  ∀ s : Answering AnswerState, s.AllSucceed →
    ∃ store more, exec x s = (some (), withMore s store more) ∧ P more

/-- One AVP of the kind if the condition holds, and otherwise none. -/
def OneIf (dict : Dict) (condition : Prop) (avps : List Avp) : Prop :=
  (condition ∧ ∃ children, avps = [.group dict children]) ∨ ¬ condition ∧ avps = []

section

variable {x y : FdM Unit} {P Q R : List Avp → Prop}

theorem Puts.bind (hx : Puts x P) (hy : Puts y Q)
    (both : ∀ first rest, P first → Q rest → R (first ++ rest)) :
    Puts (x >>= fun _ => y) R := by
  intro s hs
  obtain ⟨store, first, hfirst, hP⟩ := hx s hs
  obtain ⟨store', rest, hrest, hQ⟩ := hy (withMore s store first) hs
  refine ⟨store', first ++ rest, ?_, both _ _ hP hQ⟩
  rw [exec_bind_some hfirst, hrest, withMore_withMore]

theorem Puts.tolerate (hx : Puts x P) : Puts (CallM.tolerate x) P := by
  intro s hs
  obtain ⟨store, more, hexec, hP⟩ := hx s hs
  exact ⟨store, more, by rw [exec_tolerate, hexec], hP⟩

theorem Puts.nothing (h : P []) : Puts (return ()) P :=
  fun s _ => ⟨s.state.store, [], by rw [withMore_nil]; rfl, h⟩

/-- An AVP that was made, by calls that change no more than the rules. -/
theorem puts_made {make : FdM (Option Avp)}
    (h : ∀ s : Answering AnswerState, s.AllSucceed →
      ∃ avp store, exec make s = (some avp, withStore s store) ∧ P avp.toList) :
    Puts (putMade make) P := by
  intro s hs
  obtain ⟨avp, store, hexec, hP⟩ := h s hs
  refine ⟨store, avp.toList, ?_, hP⟩
  cases avp with
  | none =>
    simp only [putMade, exec_bind_some hexec, Option.toList_none]
    simp [withStore, withMore]
  | some avp =>
    have hstore : (withStore s store).AllSucceed := hs
    simp only [putMade, exec_bind_some hexec, exec_tolerate, exec_bind_some (exec_call hstore),
      exec_update]
    rfl

/-- An AVP that names something is of its kind. -/
theorem oneIf_of_namesIn {dict : Dict} {avp : Option Avp} {names : List String}
    (hsome : avp.isSome = !names.isEmpty) (hnames : namesIn dict avp.toList = names) :
    OneIf dict (names ≠ []) avp.toList := by
  cases avp with
  | none =>
    have hnil : names = [] := by simpa using hsome
    exact .inr ⟨by simp [hnil], rfl⟩
  | some avp =>
    have hne : names ≠ [] := by simpa using hsome
    refine .inl ⟨hne, ?_⟩
    cases avp with
    | leaf d value =>
      rw [← hnames] at hne
      exact absurd rfl hne
    | group d children =>
      by_cases hd : d = dict
      · exact ⟨children, by rw [hd]; rfl⟩
      -- a group of another kind would name nothing
      · have hnil : namesIn dict [Avp.group d children] = [] := by simp [namesIn, Avp.carried, hd]
        rw [← hnames] at hne
        exact absurd hnil hne

theorem unwanted_ne_nil_iff (vectActive : List SDBAbonRule) :
    unwanted vectActive ≠ [] ↔ ∃ rule ∈ vectActive, rule.isRelevant = false := by
  simp [unwanted, ruleNames]

theorem missing_ne_nil_iff (listAbonRules : List SDBAbonRule) :
    missing listAbonRules ≠ [] ↔ ∃ rule ∈ listAbonRules, rule.isActive = false := by
  simp [missing, ruleNames]

theorem puts_makeCRR {sessInfo : SSessionInfo} (hd : sessInfo.uiPeerDialect.takesRules = true)
    (vectActive : List SDBAbonRule) :
    Puts (putMade (pcrfMakeCRR sessInfo vectActive))
      (OneIf .chargingRuleRemove (∃ rule ∈ vectActive, rule.isRelevant = false)) := by
  refine puts_made fun s hs => ?_
  obtain ⟨crr, hexec, hsome, hnames, -⟩ := exec_makeCRR hd vectActive hs
  refine ⟨crr, _, hexec, ?_⟩
  rw [← unwanted_ne_nil_iff]
  exact oneIf_of_namesIn hsome hnames

theorem puts_makeCRI {sessInfo : SSessionInfo} (hd : sessInfo.uiPeerDialect.takesRules = true)
    (reqInfo : Option SRequestInfo) (listAbonRules : List SDBAbonRule) :
    Puts (putMade (pcrfMakeCRI sessInfo reqInfo listAbonRules))
      (OneIf .chargingRuleInstall (∃ rule ∈ listAbonRules, rule.isActive = false)) := by
  refine puts_made fun s hs => ?_
  obtain ⟨cri, hexec, hsome, hnames, -⟩ := exec_makeCRI hd reqInfo listAbonRules hs
  refine ⟨cri, _, hexec, ?_⟩
  rw [← missing_ne_nil_iff]
  exact oneIf_of_namesIn hsome hnames

/-- Quotas are groups of their own. -/
def AreUMI (avps : List Avp) : Prop :=
  ∀ avp ∈ avps, ∃ inner, avp = .group .usageMonitoringInformation inner

theorem puts_makeUMI (isNeedUMR : Bool) (mapMonitInfo : MonitInfoMap) :
    Puts (pcrfMakeUMI isNeedUMR mapMonitInfo) AreUMI := by
  intro s hs
  refine ⟨_, _, exec_makeUMI isNeedUMR mapMonitInfo hs, fun avp havp => ?_⟩
  obtain ⟨entry, -, rfl⟩ := List.mem_map.mp havp
  exact ⟨_, rfl⟩

theorem puts_triggers (triggers : List Int32) :
    Puts (putTriggers triggers)
      (fun avps => avps = triggers.map fun trigger => .leaf .eventTrigger (.i32 trigger)) :=
  fun _ hs => ⟨_, _, exec_putTriggers triggers hs, rfl⟩

/-! ### The whole answer -/

/-- The AVPs of an answer to an update. -/
structure AnswerShape (removes installs : Prop) (triggers : List Int32) (avps : List Avp) :
    Prop where
  remove : Carries .chargingRuleRemove avps ↔ removes
  install : Carries .chargingRuleInstall avps ↔ installs
  trigger : ∀ trigger, HasTrigger avps trigger ↔ trigger ∈ triggers

theorem OneIf.mem_group_iff {dict : Dict} {condition : Prop} {avps : List Avp}
    (h : OneIf dict condition avps) (d : Dict) :
    (∃ children, Avp.group d children ∈ avps) ↔ d = dict ∧ condition := by
  rcases h with ⟨hcondition, children, rfl⟩ | ⟨hcondition, rfl⟩
  · simp [hcondition]
  · simp [hcondition]

theorem OneIf.not_hasTrigger {dict : Dict} {condition : Prop} {avps : List Avp}
    (h : OneIf dict condition avps) (trigger : Int32) : ¬ HasTrigger avps trigger := by
  unfold HasTrigger
  rcases h with ⟨-, children, rfl⟩ | ⟨-, rfl⟩
  · simp
  · simp

theorem AreUMI.mem_group {avps : List Avp} (h : AreUMI avps) {dict : Dict}
    (hdict : dict ≠ .usageMonitoringInformation) :
    ¬ ∃ children, Avp.group dict children ∈ avps := by
  rintro ⟨children, hmem⟩
  obtain ⟨inner, heq⟩ := h _ hmem
  exact hdict (Avp.group.inj heq).1

theorem AreUMI.not_hasTrigger {avps : List Avp} (h : AreUMI avps) (trigger : Int32) :
    ¬ HasTrigger avps trigger := by
  intro hmem
  obtain ⟨inner, heq⟩ := h _ hmem
  cases heq

/-- The parts of the answer, one behind the other. -/
theorem answerShape_of_parts {removes installs : Prop} {triggers : List Int32}
    {crr cri umis : List Avp} (hcrr : OneIf .chargingRuleRemove removes crr)
    (hcri : OneIf .chargingRuleInstall installs cri) (humis : AreUMI umis) :
    AnswerShape removes installs triggers
      (crr ++ (cri ++ umis) ++ triggers.map fun trigger => .leaf .eventTrigger (.i32 trigger)) where
  remove := by
    have hcri' := hcri.mem_group_iff .chargingRuleRemove
    have humis' := @AreUMI.mem_group _ humis .chargingRuleRemove (by decide)
    simp only [Carries, List.mem_append, exists_or, hcrr.mem_group_iff, hcri', humis']
    simp
  install := by
    have hcrr' := hcrr.mem_group_iff .chargingRuleInstall
    have humis' := @AreUMI.mem_group _ humis .chargingRuleInstall (by decide)
    simp only [Carries, List.mem_append, exists_or, hcri.mem_group_iff, hcrr', humis']
    simp
  trigger := by
    intro trigger
    have hcrr' := hcrr.not_hasTrigger trigger
    have hcri' := hcri.not_hasTrigger trigger
    have humis' := humis.not_hasTrigger trigger
    unfold HasTrigger at *
    simp only [List.mem_append, hcrr', hcri', humis', false_or]
    simp

/-- Every trigger of the three is among those of the dialect. -/
theorem mem_answerTriggers {dialect : PeerDialect} (hd : dialect.isIPCAN = true)
    (bMKInstalled : Bool) {trigger : Int32} (h : trigger ∈ ([2, 13, 0] : List Int32)) :
    trigger ∈ answerTriggers dialect bMKInstalled := by
  simp only [List.mem_cons, List.not_mem_nil, or_false] at h
  rcases h with rfl | rfl | rfl
  · simp [answerTriggers, hd]
  · simp [answerTriggers, hd]
  · simp [answerTriggers, hd]

variable {msg : SMsgDataForDB} {gathered : Gathered} {s : Answering AnswerState}

/-- The triggers that an answer to an update has. -/
def SMsgDataForDB.updateTriggers (msg : SMsgDataForDB) (gathered : Gathered) : List Int32 :=
  if rulesChanged gathered.listAbonRules then
    Pcrf.answerTriggers msg.soSessInfo.uiPeerDialect (mkInstalled gathered.listAbonRules)
  else []

theorem puts_answer (htype : msg.soReqInfo.iCCRequestType = .updateRequest)
    (hop : gathered.uiActionSet.operateRule = true)
    (hd : msg.soSessInfo.uiPeerDialect.isIPCAN = true) (vectActive : List SDBAbonRule) :
    Puts (msg.answerRules vectActive gathered >>= fun _ => msg.answerTriggers gathered)
      (AnswerShape (∃ rule ∈ vectActive, rule.isRelevant = false)
        (∃ rule ∈ gathered.listAbonRules, rule.isActive = false)
        (msg.updateTriggers gathered)) := by
  have htakes := takesRules_of_isIPCAN hd
  have hrules : Puts (msg.answerRules vectActive gathered) fun avps => ∃ crr cri umis,
      OneIf .chargingRuleRemove (∃ rule ∈ vectActive, rule.isRelevant = false) crr ∧
      OneIf .chargingRuleInstall (∃ rule ∈ gathered.listAbonRules, rule.isActive = false) cri ∧
      AreUMI umis ∧ avps = crr ++ (cri ++ umis) := by
    simp only [SMsgDataForDB.answerRules, htype, hop, if_true]
    have hinstall := (puts_makeCRI htakes (some msg.soReqInfo) gathered.listAbonRules).bind
      (R := fun avps => ∃ cri umis,
        OneIf .chargingRuleInstall (∃ rule ∈ gathered.listAbonRules, rule.isActive = false) cri ∧
        AreUMI umis ∧ avps = cri ++ umis)
      (puts_makeUMI false gathered.mapMonitInfo).tolerate
      fun cri umis hcri humis => ⟨cri, umis, hcri, humis, rfl⟩
    refine (puts_makeCRR htakes vectActive).bind hinstall fun crr rest hcrr hrest => ?_
    obtain ⟨cri, umis, hcri, humis, rfl⟩ := hrest
    exact ⟨crr, cri, umis, hcrr, hcri, humis, rfl⟩
  have htriggers : Puts (msg.answerTriggers gathered) fun avps =>
      avps = (msg.updateTriggers gathered).map fun trigger =>
        .leaf .eventTrigger (.i32 trigger) := by
    simp only [SMsgDataForDB.answerTriggers, SMsgDataForDB.updateTriggers, htype, hop,
      Bool.true_and]
    cases rulesChanged gathered.listAbonRules with
    | false => exact .nothing rfl
    | true => exact puts_triggers _
  refine hrules.bind htriggers fun first rest hfirst hrest => ?_
  obtain ⟨crr, cri, umis, hcrr, hcri, humis, rfl⟩ := hfirst
  rw [hrest]
  exact answerShape_of_parts hcrr hcri humis

theorem answerShape_answer (htype : msg.soReqInfo.iCCRequestType = .updateRequest)
    (hop : gathered.uiActionSet.operateRule = true)
    (hd : msg.soSessInfo.uiPeerDialect.isIPCAN = true) (vectActive : List SDBAbonRule)
    (hs : s.AllSucceed) :
    AnswerShape (∃ rule ∈ vectActive, rule.isRelevant = false)
      (∃ rule ∈ gathered.listAbonRules, rule.isActive = false) (msg.updateTriggers gathered)
      (exec (msg.answer vectActive gathered) s).2.state.answer := by
  obtain ⟨store, more, hexec, hshape⟩ := puts_answer htype hop hd vectActive
    { s with state := { s.state with answer := [] } } hs
  simp only [SMsgDataForDB.answer, exec_bind_some (exec_newMessage hs)]
  rw [hexec]
  exact hshape

/-- In an answer of that shape the triggers depend on the target rules only. -/
theorem AnswerShape.triggersFollowRules_iff {vectActive : List SDBAbonRule} {avps : List Avp}
    (h : AnswerShape (∃ rule ∈ vectActive, rule.isRelevant = false)
      (∃ rule ∈ gathered.listAbonRules, rule.isActive = false) (msg.updateTriggers gathered) avps)
    (hd : msg.soSessInfo.uiPeerDialect.isIPCAN = true) :
    TriggersFollowRules avps ↔ ChangesAreMarked gathered.listAbonRules vectActive := by
  have htrigger : ∀ trigger ∈ ([2, 13, 0] : List Int32),
      (HasTrigger avps trigger ↔
        ∃ rule ∈ gathered.listAbonRules, rule.isActive ≠ rule.isRelevant) := by
    intro trigger hmem
    rw [h.trigger, ← rulesChanged_iff, SMsgDataForDB.updateTriggers]
    split
    next hchanged => exact iff_of_true (mem_answerTriggers hd _ hmem) hchanged
    next hchanged => exact iff_of_false List.not_mem_nil hchanged
  unfold TriggersFollowRules ChangesAreMarked
  rw [h.install, h.remove]
  constructor
  · intro follow
    -- the three triggers come together, so that one of them is enough
    have hfirst : (2 : Int32) ∈ ([2, 13, 0] : List Int32) := by simp
    rw [← htrigger 2 hfirst]
    exact follow 2 hfirst
  · intro marked trigger hmem
    rw [htrigger trigger hmem]
    exact marked

/-- The triggers follow the rules exactly when the marks of the target rules show the changes. -/
theorem answer_triggersFollowRules_iff (htype : msg.soReqInfo.iCCRequestType = .updateRequest)
    (hop : gathered.uiActionSet.operateRule = true)
    (hd : msg.soSessInfo.uiPeerDialect.isIPCAN = true) (vectActive : List SDBAbonRule)
    (hs : s.AllSucceed) :
    TriggersFollowRules (exec (msg.answer vectActive gathered) s).2.state.answer ↔
      ChangesAreMarked gathered.listAbonRules vectActive :=
  (answerShape_answer htype hop hd vectActive hs).triggersFollowRules_iff hd

/-- The rule `a` is wanted in the place of `c`, with the marks that the handler makes. -/
def replacedRule : Gathered where
  uiActionSet := { operateRule := true }
  listAbonRules := (pcrfServerSelectNotrelevantActive [{ strRuleName := "a", isRelevant := true }]
    [{ strRuleName := "c", isActive := true }]).1

/-- The answer removes the one rule and installs the other, and has the triggers. -/
theorem answer_triggersFollowRules_replaced :
    TriggersFollowRules (exec (ratChange.answer [{ strRuleName := "c", isActive := true }]
      replacedRule) (sessionWith ["c"])).2.state.answer := by
  refine (answer_triggersFollowRules_iff (s := sessionWith ["c"]) rfl rfl rfl _ rfl).mpr ?_
  exact iff_of_true ⟨_, List.mem_cons_self, by decide⟩ (.inl ⟨_, List.mem_cons_self, rfl⟩)

/-- A second rule is not wanted any more. The active rules that the answer is made of are not
marked, so that both are removed, and no trigger is put. -/
theorem not_triggersFollowRules_removal :
    ¬ ∀ (vectActive listAbonRules : List SDBAbonRule), TriggersFollowRules
      (exec (ratChange.answer vectActive
        { uiActionSet := { operateRule := true }
          listAbonRules := (pcrfServerSelectNotrelevantActive listAbonRules vectActive).1 })
        (sessionWith (ruleNames vectActive))).2.state.answer := by
  intro follow
  have hremoved := (follow
    [{ strRuleName := "a", isActive := true }, { strRuleName := "c", isActive := true }]
    [{ strRuleName := "a", isRelevant := true }] 2 (by simp)).mpr
    (.inr ⟨[.leaf .chargingRuleName (.os "a"), .leaf .chargingRuleName (.os "c")], .head _⟩)
  cases hremoved with
  | tail _ h => cases h

/-! ### The handler -/

/-- In the handler the active rules are not marked, and every target rule is relevant: the
triggers follow the rules exactly when a target rule is missing or no rule was active. -/
theorem update_triggersFollowRules_iff {env : GatherEnv} {isProceraUsed : Bool}
    {uiRefreshDefRuleIn : Nat} {schedule : List Turn} {queue : LocalRefreshQueue}
    {outcome : CcrOutcome} {db : DbConnection}
    (hrun : appPcrfCcrCb env isProceraUsed uiRefreshDefRuleIn msg schedule queue s = some outcome)
    (hzero : outcome.iRetVal = 0) (hop : outcome.gathered.uiActionSet.operateRule = true)
    (hd : msg.soSessInfo.uiPeerDialect.isIPCAN = true)
    (htype : msg.soReqInfo.iCCRequestType = .updateRequest) (hdb : env.pcoDBConn = some db)
    (hs : s.AllSucceed) :
    let active := ruleNames (msg.vectActive (pcrfServerDetermineActionSet isProceraUsed msg)
      (msg.stored s).state.store.mapSessRuleLst)
    TriggersFollowRules outcome.answering.state.answer ↔
      Reconcile.added active (msg.wantedRules env db) ≠ [] ∨ active = [] := by
  have hstored : (msg.stored s).AllSucceed := hs
  replace hrun : msg.respond env isProceraUsed uiRefreshDefRuleIn schedule queue (msg.stored s) =
    some outcome := hrun
  generalize msg.stored s = after at hrun hstored ⊢
  intro active
  have hdialect := ne_procera_of_isIPCAN hd
  obtain ⟨-, hmissing⟩ := missing_gathered hrun hzero hop hd htype hdb
  obtain ⟨-, -, -, hanswering⟩ := respond_eq_some hrun
  have hrelevant : ∀ rule ∈ outcome.gathered.listAbonRules, rule.isRelevant = true := by
    rw [gathered_rules hrun hzero hop (additionalRules_eq_nil hdialect) htype hdb,
      selectNotrelevantActive_eq]
    intro rule hrule
    obtain ⟨target, htarget, rfl⟩ := List.mem_map.mp hrule
    have hfresh := (abonRules_fresh _ _ target htarget).2
    split
    · exact hfresh
    · exact hfresh
  -- so that a rule whose marks differ is one that is missing
  have hdiffer : (∃ rule ∈ outcome.gathered.listAbonRules, rule.isActive ≠ rule.isRelevant) ↔
      ∃ rule ∈ outcome.gathered.listAbonRules, rule.isActive = false := by
    refine exists_congr fun rule => and_congr_right fun hrule => ?_
    rw [hrelevant rule hrule]
    simp
  have hunmarked := unwanted_vectActive msg (pcrfServerDetermineActionSet isProceraUsed msg)
    after.state.store.mapSessRuleLst
  rw [hanswering, (answerShape_answer htype hop hd _ hstored).triggersFollowRules_iff hd,
    ChangesAreMarked, hdiffer, ← missing_ne_nil_iff, ← unwanted_ne_nil_iff, hmissing, hunmarked]
  tauto

end

end Pcrf
