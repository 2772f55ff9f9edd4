import Pcrf.Gathering
import Pcrf.LocalQueue

/-!
`app_pcrf_ccr_cb` from where it decides what to do for a request: the action set, closing the rules
that the request reports, gathering the data of the subscriber, and the part of the answer that
carries rules, quotas and triggers.
-/

namespace Pcrf

open Lib CallM

/-- `SMsgDataForDB`: a request with what the caches have added to it. -/
structure SMsgDataForDB where
  soSessInfo : SSessionInfo
  soReqInfo : SRequestInfo
  deriving Repr, DecidableEq

/-! ### The action set -/

/-- What one event trigger asks for. -/
def ActionSet.onTrigger (uiPeerDialect : PeerDialect) (isProceraUsed : Bool) (set : ActionSet)
    (trigger : Int32) : ActionSet :=
  -- RAT_CHANGE
  if trigger = 2 then { set with updateSessioncache := true, operateRule := true }
  -- SGSN_CHANGE, USER_LOCATION_CHANGE
  else if trigger = 0 ∨ trigger = 13 then
    { set with
      updateSessioncache := true
      proceraChangeUli := set.proceraChangeUli || uiPeerDialect.isIPCAN && isProceraUsed }
  -- DEFAULT_EPS_BEARER_QOS_CHANGE
  else if trigger = 20 then { set with copyDefbearer := true }
  -- USAGE_REPORT, with 26 in the notation of a Cisco SCE
  else if trigger = 26 ∨ trigger = 33 then { set with updateQuota := true }
  -- TETHERING_REPORT
  else if trigger = 101 then
    { set with ugwStoreThetInfo := set.ugwStoreThetInfo || uiPeerDialect == .gxHwUgw }
  else if trigger = 777 then
    { set with proceraStoreThetInfo := set.proceraStoreThetInfo || uiPeerDialect == .gxProcera }
  else set

/-- An action that just some triggers turn on is on after all triggers if it was, or one of them
is there. -/
theorem foldl_onTrigger_iff {action : ActionSet → Bool} {turnsOn : Int32 → Prop}
    {uiPeerDialect : PeerDialect} {isProceraUsed : Bool}
    (hstep : ∀ set trigger, action (ActionSet.onTrigger uiPeerDialect isProceraUsed set trigger) =
      true ↔ action set = true ∨ turnsOn trigger) (triggers : List Int32) (set : ActionSet) :
    action (triggers.foldl (ActionSet.onTrigger uiPeerDialect isProceraUsed) set) = true ↔
      action set = true ∨ ∃ trigger ∈ triggers, turnsOn trigger := by
  induction triggers generalizing set with
  | nil => simp
  | cons trigger triggers ih =>
    rw [List.foldl_cons, ih, hstep]
    simp only [List.mem_cons, exists_eq_or_imp, or_assoc]

/-- Ericsson reports usage with CCR-T, but without the trigger. A new session, and every
request of another dialect than UGW and Ericsson, has its rules operated. -/
def pcrfServerDetermineActionSet (isProceraUsed : Bool) (msg : SMsgDataForDB) : ActionSet :=
  let dialect := msg.soSessInfo.uiPeerDialect
  let type := msg.soReqInfo.iCCRequestType
  let set := msg.soReqInfo.vectEventTrigger.foldl (ActionSet.onTrigger dialect isProceraUsed) {}
  { set with
    updateQuota := set.updateQuota ||
      dialect == .gxEricssn && type == .terminationRequest &&
        msg.soReqInfo.vectUsageInfo.any (·.hasUsage)
    operateRule := set.operateRule || type == .initialRequest || !dialect.isIPCAN }

/-! ### Gathering -/

/-- The active rules, loaded for an update that operates rules from the start. -/
def SMsgDataForDB.vectActive (msg : SMsgDataForDB) (uiActionSet : ActionSet)
    (mapSessRuleLst : SessionRuleCache) : List SDBAbonRule :=
  if msg.soReqInfo.iCCRequestType = .updateRequest ∧ uiActionSet.operateRule then
    pcrfSessionRuleCacheGet mapSessRuleLst msg.soSessInfo.strSessionId
  else []

/-- The rules a Procera session has in addition to those of its subscriber. -/
def SMsgDataForDB.additionalRules (msg : SMsgDataForDB) (uiActionSet : ActionSet) :
    List SDBAbonRule :=
  if uiActionSet.operateRule ∧ msg.soSessInfo.uiPeerDialect = .gxProcera then
    pcrfProceraAdditionalRules msg.soSessInfo.coIMEI msg.soSessInfo.coCalledStationId
      msg.soReqInfo.soUserEnvironment.soUsrLoc.coECGI
      msg.soReqInfo.soUserEnvironment.soUsrLoc.coCGI []
  else []

/-- `pcrf_subscriber_data_prepare`. -/
def SMsgDataForDB.gatherCall (msg : SMsgDataForDB) (uiActionSet : ActionSet) (env : GatherEnv)
    (mapSessRuleLst : SessionRuleCache) : GatherCall :=
  { env with
    soData :=
      { i32CCRType := msg.soReqInfo.iCCRequestType
        strSubscriberId := msg.soSessInfo.strSubscriberId
        uiPeerDialect := msg.soSessInfo.uiPeerDialect
        vectUsageInfo := msg.soReqInfo.vectUsageInfo
        soUserEnvironment := msg.soReqInfo.soUserEnvironment
        coCalledStationId := msg.soSessInfo.coCalledStationId
        coIMEI := msg.soSessInfo.coIMEI
        vectActive := msg.vectActive uiActionSet mapSessRuleLst }
    gathered :=
      { uiActionSet
        listAbonRules := msg.additionalRules uiActionSet
        mapMonitInfo := msg.soSessInfo.mapMonitInfo } }

/-- When gathering has failed the subscriber is to be refreshed. The time is counted from
`time_t( NULL )`, which is 0 and not the clock. -/
def queueRefresh (mmapLocalRefreshQueue : LocalRefreshQueue) (uiRefreshDefRuleIn : Nat)
    (strSubscriberId : String) (iRetVal : Int) : LocalRefreshQueue :=
  if iRetVal = 0 then mmapLocalRefreshQueue
  else
    pcrfLocalRefreshQueueAdd mmapLocalRefreshQueue (0 + uiRefreshDefRuleIn) strSubscriberId
      (some "subscriber_id") none

/-! ### The answer -/

/-- Put an AVP into the message, if there is one. -/
def putMade (make : FdM (Option Avp)) : FdM Unit := do
  match ← make with
  | some avp =>
    tolerate do
      call
      update fun st => { st with answer := st.answer ++ [avp] }
  | none => return ()

/-- Some rule is to be installed, or to be removed. -/
def rulesChanged (listAbonRules : List SDBAbonRule) : Bool :=
  listAbonRules.any (fun rule => !rule.isActive && rule.isRelevant) ||
    listAbonRules.any (fun rule => rule.isActive && !rule.isRelevant)

def mkInstalled (listAbonRules : List SDBAbonRule) : Bool :=
  listAbonRules.any fun rule => rule.isRelevant && !rule.vectMonitKey.isEmpty

/-- The dialect's own trigger for reports of usage. -/
def PeerDialect.usageReport : PeerDialect → List Int32
  | gxHwUgw | gxProcera | gxEricssn => [33]
  | gxCiscoSce => [26]
  | _ => []

/-- The triggers of an answer. -/
def answerTriggers (uiPeerDialect : PeerDialect) (bMKInstalled : Bool) : List Int32 :=
  (if uiPeerDialect.isIPCAN then [2] else []) ++
    (if uiPeerDialect = .gxHwUgw then [101] else []) ++
    (if uiPeerDialect.isIPCAN then [13, 0] else []) ++
    (if bMKInstalled then uiPeerDialect.usageReport else [])

def putTriggers : List Int32 → FdM Unit
  | [] => return ()
  | trigger :: triggers => do
    tolerate (setEventTrigger trigger)
    putTriggers triggers

/-- The part of the answer that depends on the type of the request. -/
def SMsgDataForDB.answerRules (msg : SMsgDataForDB) (vectActive : List SDBAbonRule)
    (gathered : Gathered) : FdM Unit := do
  match msg.soReqInfo.iCCRequestType with
  | .initialRequest =>
    tolerate (pcrfMakeUMI false gathered.mapMonitInfo)
    putMade (pcrfMakeCRI msg.soSessInfo (some msg.soReqInfo) gathered.listAbonRules)
  | .updateRequest =>
    if gathered.uiActionSet.operateRule then
      putMade (pcrfMakeCRR msg.soSessInfo vectActive)
      putMade (pcrfMakeCRI msg.soSessInfo (some msg.soReqInfo) gathered.listAbonRules)
    tolerate (pcrfMakeUMI false gathered.mapMonitInfo)
  | _ => return ()

def SMsgDataForDB.answerTriggers (msg : SMsgDataForDB) (gathered : Gathered) : FdM Unit :=
  let operate := gathered.uiActionSet.operateRule
  let type := msg.soReqInfo.iCCRequestType
  if type = .initialRequest ∨
      type = .updateRequest ∧ (operate && rulesChanged gathered.listAbonRules) then
    putTriggers (Pcrf.answerTriggers msg.soSessInfo.uiPeerDialect
      (operate && mkInstalled gathered.listAbonRules))
  else return ()

/-- Without a message there is nothing to put AVPs into. -/
def newMessage : FdM Unit := do
  call
  update fun st => { st with answer := [] }

theorem exec_newMessage {s : Answering AnswerState} (hs : s.AllSucceed) :
    exec newMessage s = (some (), { s with state := { s.state with answer := [] } }) := by
  simp only [newMessage, exec_bind_some (exec_call hs), exec_update]

def SMsgDataForDB.answer (msg : SMsgDataForDB) (vectActive : List SDBAbonRule)
    (gathered : Gathered) : FdM Unit := do
  newMessage
  msg.answerRules vectActive gathered
  msg.answerTriggers gathered

/-! ### The handler -/

/-- What the handler leaves: the code of gathering, what was gathered, the queue of refreshes
and the state in which the answer was built. -/
structure CcrOutcome where
  iRetVal : Int
  gathered : Gathered
  mmapLocalRefreshQueue : LocalRefreshQueue
  answering : Answering AnswerState

/-- What is done with a request that is answered with 2001 once it is stored: `none` when the
handler has not returned from gathering yet. -/
def SMsgDataForDB.respond (msg : SMsgDataForDB) (env : GatherEnv) (isProceraUsed : Bool)
    (uiRefreshDefRuleIn : Nat) (schedule : List Turn) (queue : LocalRefreshQueue)
    (s : Answering AnswerState) : Option CcrOutcome :=
  let uiActionSet := pcrfServerDetermineActionSet isProceraUsed msg
  let call := msg.gatherCall uiActionSet env s.state.store.mapSessRuleLst
  let gathering := call.machine.run schedule
  gathering.returned.map fun iRetVal =>
    { iRetVal
      gathered := gathering.gathered
      mmapLocalRefreshQueue :=
        queueRefresh queue uiRefreshDefRuleIn msg.soSessInfo.strSubscriberId iRetVal
      -- the answer is built whatever code gathering returned
      answering :=
        (exec (msg.answer (msg.vectActive uiActionSet s.state.store.mapSessRuleLst)
          gathering.gathered) s).2 }

/-- `pcrf_server_req_db_store`, as far as the rules go: those that a CCR-U or a CCR-T reports are
closed, also in the session rule cache. -/
def SMsgDataForDB.stored (msg : SMsgDataForDB) (s : Answering AnswerState) :
    Answering AnswerState :=
  { s with
    state :=
      { s.state with
        store := pcrfServerPolicyDbStore s.state.store msg.soSessInfo msg.soReqInfo } }

/-- A request that is answered with 2001, for an order in which the handler and its worker take
their steps. It is stored before the active rules are loaded: those that it reports are not among
them. -/
def appPcrfCcrCb (env : GatherEnv) (isProceraUsed : Bool) (uiRefreshDefRuleIn : Nat)
    (msg : SMsgDataForDB) (schedule : List Turn) (queue : LocalRefreshQueue)
    (s : Answering AnswerState) : Option CcrOutcome :=
  msg.respond env isProceraUsed uiRefreshDefRuleIn schedule queue (msg.stored s)

/-- A new session reports no rules. -/
theorem stored_initial {msg : SMsgDataForDB} (h : msg.soReqInfo.iCCRequestType = .initialRequest)
    (s : Answering AnswerState) : msg.stored s = s := by
  simp only [SMsgDataForDB.stored, pcrfServerPolicyDbStore, h]

end Pcrf
