import Pcrf.CreditControlRules
import Pcrf.RefreshRules

/-!
The rules that a Procera session should have, as an update of the session computes them and as a
refresh does. An update puts the rules for the equipment, the access point and the location in
front of those of the subscriber; a refresh computes both, and clears the first.
-/

namespace Pcrf

open Lib

/-! ### Both lists -/

/-- The rules that a Procera session has in addition to those of its subscriber. -/
def SMsgDataForDB.proceraRules (msg : SMsgDataForDB) : List SDBAbonRule :=
  pcrfProceraAdditionalRules msg.soSessInfo.coIMEI msg.soSessInfo.coCalledStationId
    msg.soReqInfo.soUserEnvironment.soUsrLoc.coECGI
    msg.soReqInfo.soUserEnvironment.soUsrLoc.coCGI []

/-- The database gives the rule to the subscriber, and the cache of rules knows it. -/
def IsKnownRule (cache : RuleCache) (pcoDBConn : Option RuleListQuery) (args : SubRulesArgs)
    (name : String) : Prop :=
  name ∈ deliveredNames pcoDBConn args ∧ (pcrfRuleCacheGetRuleInfo cache name).isSome = true

/-- What an update knows of a session and what a refresh knows of it are the same, as far as
rules depend on it. -/
structure SameData (msg update : SMsgDataForDB) : Prop where
  args : update.subRulesArgs = msg.subRulesArgs
  coECGI : update.soReqInfo.soUserEnvironment.soUsrLoc.coECGI =
    msg.soReqInfo.soUserEnvironment.soUsrLoc.coECGI
  coCGI : update.soReqInfo.soUserEnvironment.soUsrLoc.coCGI =
    msg.soReqInfo.soUserEnvironment.soUsrLoc.coCGI

/-- Both lists have the names of the additional rules and of the known rules of the subscriber,
and no others. -/
structure TargetsAgree (additional : List SDBAbonRule) (known : String → Prop)
    (refreshed updated : List SDBAbonRule) : Prop where
  refreshed : ∀ name, name ∈ ruleNames refreshed ↔ name ∈ ruleNames additional ∨ known name
  updated : ∀ name, name ∈ ruleNames updated ↔ name ∈ ruleNames additional ∨ known name

theorem SameData.proceraRules {msg update : SMsgDataForDB} (h : SameData msg update) :
    update.proceraRules = msg.proceraRules := by
  have hImei : update.soSessInfo.coIMEI = msg.soSessInfo.coIMEI :=
    congrArg SubRulesArgs.coIMEI h.args
  have hApn : update.soSessInfo.coCalledStationId = msg.soSessInfo.coCalledStationId :=
    congrArg SubRulesArgs.coCalledStationId h.args
  simp only [SMsgDataForDB.proceraRules, hImei, hApn, h.coECGI, h.coCGI]

/-- Except for an SCE, the rules of a subscriber are all those that are known. -/
theorem mem_ruleNames_createAbonRuleList (cache : RuleCache) (pcoDBConn : Option RuleListQuery)
    {args : SubRulesArgs} (hDialect : args.uiPeerDialect ≠ .gxCiscoSce) (name : String) :
    name ∈ ruleNames (pcrfServerCreateAbonRuleList cache pcoDBConn args) ↔
      IsKnownRule cache pcoDBConn args name := by
  -- an empty list is what loading no rule gives
  have hList : pcrfServerCreateAbonRuleList cache pcoDBConn args =
      (deliveredNames pcoDBConn args).filterMap (pcrfRuleCacheGetRuleInfo cache) := by
    simp only [pcrfServerCreateAbonRuleList, pcrfServerLoadRuleInfo, load_names, loadRuleInfo,
      List.nil_append]
    split
    next hEmpty => simp [List.isEmpty_iff.mp hEmpty]
    next =>
      split
      next hSce _ => exact absurd hSce hDialect
      next => rfl
  rw [hList]
  unfold ruleNames IsKnownRule
  rw [List.mem_map]
  constructor
  · rintro ⟨rule, hRule, rfl⟩
    obtain ⟨name, hMem, hGet⟩ := List.mem_filterMap.mp hRule
    -- a rule is kept under its own name
    obtain ⟨rfl, -⟩ := cache.loaded name rule hGet
    exact ⟨hMem, Option.isSome_iff_exists.mpr ⟨rule, hGet⟩⟩
  · rintro ⟨hMem, hSome⟩
    obtain ⟨rule, hGet⟩ := Option.isSome_iff_exists.mp hSome
    exact ⟨rule, List.mem_filterMap.mpr ⟨name, hMem, hGet⟩, (cache.loaded name rule hGet).1⟩

/-! ### An update -/

section

variable {gatherEnv : GatherEnv} {isProceraUsed : Bool} {uiRefreshDefRuleIn : Nat}
  {update : SMsgDataForDB} {schedule : List Turn} {queue : LocalRefreshQueue}
  {s : Answering AnswerState} {outcome : CcrOutcome}

/-- An update that was gathered in time has the additional rules and those of the subscriber. -/
theorem gathered_procera
    (hRun : update.respond gatherEnv isProceraUsed uiRefreshDefRuleIn schedule queue s =
      some outcome)
    (hZero : outcome.iRetVal = 0) (hProcera : update.soSessInfo.uiPeerDialect = .gxProcera)
    (hType : update.soReqInfo.iCCRequestType = .updateRequest) {db : DbConnection}
    (hDb : gatherEnv.pcoDBConn = some db) (name : String) :
    name ∈ ruleNames outcome.gathered.listAbonRules ↔
      name ∈ ruleNames update.proceraRules ∨
        IsKnownRule gatherEnv.ruleCache (some db.subRules) update.subRulesArgs name := by
  obtain ⟨hReturned, hGathered, -⟩ := respond_eq_some hRun
  rw [hZero] at hReturned
  rw [returned_zero hReturned] at hGathered
  -- a Procera session has its rules operated whatever the triggers are
  have hOperate : (pcrfServerDetermineActionSet isProceraUsed update).operateRule = true :=
    (operateRule_iff hType isProceraUsed).mpr (.inr (by rw [hProcera]; rfl))
  have hOwn : update.additionalRules (pcrfServerDetermineActionSet isProceraUsed update) =
      update.proceraRules := by
    simp only [SMsgDataForDB.additionalRules, hOperate, hProcera]
    rfl
  have hCollected := collected_rules (update.gatherCall
    (pcrfServerDetermineActionSet isProceraUsed update) gatherEnv s.state.store.mapSessRuleLst)
    hDb hType (collected_operateRule _ hOperate)
  -- of an SCE the list would be another one
  have hDialect : update.subRulesArgs.uiPeerDialect ≠ .gxCiscoSce := by
    intro hSce
    have hEq : update.soSessInfo.uiPeerDialect = .gxCiscoSce := hSce
    rw [hProcera] at hEq
    exact absurd hEq (by decide)
  rw [← mem_ruleNames_createAbonRuleList _ _ hDialect, hGathered]
  simp only [Gathered.copyFrom, hCollected]
  simp only [SMsgDataForDB.gatherCall, hOwn, ruleNames, List.map_append, List.mem_append]
  have hMarked := ruleNames_marked (pcrfServerCreateAbonRuleList gatherEnv.ruleCache
    (some db.subRules) update.subRulesArgs)
    (update.vectActive (pcrfServerDetermineActionSet isProceraUsed update)
      s.state.store.mapSessRuleLst)
  unfold ruleNames at hMarked
  rw [← hMarked]
  rfl

/-- A refresh that has loaded a Procera session computes the list that an update with the same
data does exactly when every additional rule is also a known rule of the subscriber. -/
theorem refresh_targets_agree_iff {env : RefreshEnv} {k : Nat} {msg : SMsgDataForDB}
    (hProcera : msg.soSessInfo.uiPeerDialect = .gxProcera) (hSame : SameData msg update)
    (hType : update.soReqInfo.iCCRequestType = .updateRequest)
    (hCache : gatherEnv.ruleCache = env.ruleCache) {db : DbConnection}
    (hDb : gatherEnv.pcoDBConn = some db)
    (hRules : env.pcoDBConn.map (·.subRules k) = some db.subRules)
    (hRun : appPcrfCcrCb gatherEnv isProceraUsed uiRefreshDefRuleIn update schedule queue s =
      some outcome)
    (hZero : outcome.iRetVal = 0) :
    TargetsAgree msg.proceraRules (IsKnownRule env.ruleCache (some db.subRules) msg.subRulesArgs)
        (env.abonRules k msg) outcome.gathered.listAbonRules ↔
      ∀ name ∈ ruleNames msg.proceraRules,
        IsKnownRule env.ruleCache (some db.subRules) msg.subRulesArgs name := by
  have hUpdateProcera : update.soSessInfo.uiPeerDialect = .gxProcera := by
    rw [← hProcera]
    exact congrArg SubRulesArgs.uiPeerDialect hSame.args
  have hUpdated := gathered_procera hRun hZero hUpdateProcera hType hDb
  rw [hCache, hSame.args, hSame.proceraRules] at hUpdated
  have hDialect : msg.subRulesArgs.uiPeerDialect ≠ .gxCiscoSce := by
    intro hSce
    have hEq : msg.soSessInfo.uiPeerDialect = .gxCiscoSce := hSce
    rw [hProcera] at hEq
    exact absurd hEq (by decide)
  have hRefreshed := mem_ruleNames_createAbonRuleList env.ruleCache (some db.subRules) hDialect
  rw [← hRules] at hRefreshed
  rw [← hRules] at hUpdated ⊢
  constructor
  · intro hAgree name hName
    -- the list of the refresh has no other rules than the known ones
    exact (hRefreshed name).mp ((hAgree.refreshed name).mpr (.inl hName))
  · intro hKnown
    refine ⟨fun name => ?_, hUpdated⟩
    constructor
    · intro hMem
      exact .inr ((hRefreshed name).mp hMem)
    · rintro (hName | hName)
      · exact (hRefreshed name).mpr (hKnown name hName)
      · exact (hRefreshed name).mpr hName

end

/-! ### A Procera session -/

/-- A connected Procera with one session, of which no more is known than its subscriber. The
database answers with a text. -/
def proceraEnv (text : String) : RefreshEnv where
  sessionCache :=
    { umapSessionCache := Store.set Store.empty "pr;1;1"
        { coSubscriberId := .of "7", coOriginHost := .of "pts", coOriginRealm := .of "net" } }
  vectPeerList :=
    [{ coHostName := .of "pts", coHostReal := .of "net", uiPeerDialect := .gxProcera
       iIsConnected := 1 }]
  ruleCache := .ofRows [{ strRuleName := "a" }, { strRuleName := "/User-Location/inRoaming" }]
  pcoDBConn := some
    { sessionList := fun _ _ => ([], none)
      subRules := fun _ _ _ => .answered text none
      monitKey := fun _ _ _ => { processQuota := fun _ => .ok ⟨.empty, .empty, .empty⟩ } }

/-- The session as a refresh finds it, whatever the database answers. -/
def proceraSession : SMsgDataForDB := ((proceraEnv "").loadSession "pr;1;1").get (by decide)

/-- The environment in which it is updated. -/
def proceraGatherEnv (text : String) : GatherEnv where
  uiMaxCCRHandlers := 1
  ruleCache := (proceraEnv text).ruleCache
  pcoDBConn := some
    { sessionUsage := fun _ _ => { processQuota := fun _ _ => .ok (⟨.empty, .empty, .empty⟩, 0) }
      subRules := fun _ _ => .answered text none
      monitKey := fun _ _ => { processQuota := fun _ => .ok ⟨.empty, .empty, .empty⟩ } }

/-- An update with the same data. -/
def proceraUpdate : SMsgDataForDB :=
  { proceraSession with
    soReqInfo := { proceraSession.soReqInfo with iCCRequestType := .updateRequest } }

def proceraOutcome (text : String) : Option CcrOutcome :=
  appPcrfCcrCb (proceraGatherEnv text) true 0 proceraUpdate inTimeSchedule Multimap.empty
    withoutRules

/-- Both sides name the same rules, when the database answers with a text. -/
def ProceraAgrees (text : String) (outcome : CcrOutcome) : Prop :=
  TargetsAgree proceraSession.proceraRules
    (IsKnownRule (proceraEnv text).ruleCache (some fun _ _ => .answered text none)
      proceraSession.subRulesArgs)
    ((proceraEnv text).abonRules 0 proceraSession) outcome.gathered.listAbonRules

/-- Where the rule for the location is one of the subscriber's, the lists agree. -/
theorem inRoaming_targets_agree :
    ∃ outcome, proceraOutcome "a\t\n/User-Location/inRoaming\t\n" = some outcome ∧
      ProceraAgrees "a\t\n/User-Location/inRoaming\t\n" outcome := by
  let text := "a\t\n/User-Location/inRoaming\t\n"
  have hRun : proceraOutcome text = some ((proceraOutcome text).get (by decide)) :=
    (Option.some_get _).symm
  have hSame : SameData proceraSession proceraUpdate := ⟨rfl, rfl, rfl⟩
  have hRules : (proceraEnv text).pcoDBConn.map (·.subRules 0) =
      some fun _ _ => .answered text none := rfl
  have hCache : (proceraGatherEnv text).ruleCache = (proceraEnv text).ruleCache := rfl
  have hAgree := refresh_targets_agree_iff (by decide) hSame (by decide) hCache rfl hRules hRun
    (by decide)
  refine ⟨_, hRun, hAgree.mpr ?_⟩
  unfold IsKnownRule
  decide

/-- Where it is not, the refresh leaves it out. -/
theorem inRoaming_targets_differ :
    (proceraEnv "a\t\n").loadSession "pr;1;1" = some proceraSession ∧
      SameData proceraSession proceraUpdate ∧
      ∃ outcome, proceraOutcome "a\t\n" = some outcome ∧ outcome.iRetVal = 0 ∧
        ¬ ProceraAgrees "a\t\n" outcome := by
  have hRun : proceraOutcome "a\t\n" = some ((proceraOutcome "a\t\n").get (by decide)) :=
    (Option.some_get _).symm
  refine ⟨by decide, ⟨rfl, rfl, rfl⟩, _, hRun, by decide, ?_⟩
  intro hAgree
  have hName : "/User-Location/inRoaming" ∈ ruleNames proceraSession.proceraRules := by decide
  have hMem := (hAgree.refreshed _).mpr (.inl hName)
  revert hMem
  decide

end Pcrf
