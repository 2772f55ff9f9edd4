import Pcrf.CreditControl
import Pcrf.NodeCalls
import Pcrf.SessionLookup
import Pcrf.Lib.Program

/-!
`app_pcrf_ccr_cb` for a CCR-U and for a CCR-T, as far as the caches of the node go: where it reads
them and where it changes them. Each of these points is under the mutex of one cache, and nothing
is held from one to the next. The requests to other sessions that a change of location and a
linked session give rise to are left out.
-/

namespace Pcrf

open Lib CallM

/-- A handler, from one access to the caches to the next. -/
abbrev CcrProgram := Program NodeCaches CallStep

/-- What the handlers of a node have in common. -/
structure CcrEnv where
  codes : IpcCodes
  pcrfPeerDialectRet : String → String → PeerDialect
  isProceraUsed : Bool := false
  iGenerateCDR : Int := 0

/-- What a Cisco SCE says of the subscriber: the number is taken for the IMSI when there is none,
and a long IMSI is cut off at the underscore. -/
def SSubscriptionIdData.ciscoCorrected (data : SSubscriptionIdData) : SSubscriptionIdData :=
  let data :=
    if data.coEndUserIMSI.isNull && !data.coEndUserE164.isNull then
      { data with coEndUserIMSI := data.coEndUserE164, coEndUserE164 := .empty }
    else data
  if !data.coEndUserIMSI.isNull && 15 < data.coEndUserIMSI.v.length then
    { data with
      coEndUserIMSI :=
        { data.coEndUserIMSI with
          v := String.ofList (data.coEndUserIMSI.v.toList.takeWhile (· ≠ '_')) } }
  else data

namespace SMsgDataForDB

/-- The request after the corrections for its dialect. -/
def corrected (msg : SMsgDataForDB) : SMsgDataForDB :=
  if msg.soSessInfo.uiPeerDialect = .gxCiscoSce then
    { msg with
      soSessInfo.soSubscriptionData := msg.soSessInfo.soSubscriptionData.ciscoCorrected }
  else msg

/-- `pcrf_session_cache_get` into the request. -/
def fillFrom (msg : SMsgDataForDB) (sessions : SessionCacheState) (sessionId : String) :
    SMsgDataForDB :=
  match pcrfSessionCacheGet sessions sessionId (some msg.soSessInfo) (some msg.soReqInfo) with
  | some (some soSessInfo, some soReqInfo) => { soSessInfo, soReqInfo }
  | _ => msg

/-- `pcrf_server_policy_db_store`: the rules that the peer reports are closed. -/
def policySteps (codes : IpcCodes) (msg : SMsgDataForDB) : List CallStep :=
  msg.soReqInfo.vectCRR.flatMap fun info =>
    sessionRuleCacheRemoveRuleSteps codes msg.soSessInfo.strSessionId info.coChargingRuleName.v

end SMsgDataForDB

/-! ### CCR-T -/

/-- A CCR-T. For a usage report and for a CDR the session is read before it is removed. -/
def CcrEnv.terminationProgram (env : CcrEnv) (request : SMsgDataForDB) : CcrProgram :=
  let uiActionSet := pcrfServerDetermineActionSet env.isProceraUsed request
  let finish (msg : SMsgDataForDB) : CcrProgram :=
    .makes (pcrfSessionCacheRemove env.codes msg.soSessInfo.strSessionId ++
      msg.policySteps env.codes) .done
  let msg := request.corrected
  if msg.soSessInfo.uiPeerDialect.isIPCAN ∧ (env.iGenerateCDR ≠ 0 ∨ uiActionSet.updateQuota) then
    .read fun caches => finish (msg.fillFrom caches.sessions msg.soSessInfo.strSessionId)
  else finish msg

/-! ### CCR-U -/

/-- A CCR-U with what its handler meets: whether the pool gives a connection, what is gathered for
the subscriber and the active rules, and which calls into freeDiameter succeed. -/
structure CcrUpdate where
  request : SMsgDataForDB
  dbConnected : Bool := true
  gather : SMsgDataForDB → List SDBAbonRule → Gathered
  answers : Nat → Bool := fun _ => true

/-- `pcrf_server_find_core_sess_byframedip` with nothing known of the session: the list of an
address is read first, then the session that was listed last. -/
def findCoreSess (framedIPAddress : String) (next : Option SSessionInfo → CcrProgram) :
    CcrProgram :=
  .read fun caches =>
    match (pcrfSessionCacheIndexFrameIPAddressGetSessionList caches.sessions.mapFramedIPIndex
        framedIPAddress).getLast? with
    | some sessionId =>
      .read fun caches =>
        next ((pcrfSessionCacheGet caches.sessions sessionId (some {}) none).bind Prod.fst)
    | none => next none

/-- The core session of a session of an SCE or of Procera: the request is completed from it, and
its id is that of the parent. `next` is also told whether the request is still a success. -/
def coreSession (msg : SMsgDataForDB)
    (next : SMsgDataForDB → Option String → Bool → CcrProgram) : CcrProgram :=
  let address := msg.soSessInfo.coFramedIPAddress.v
  let complete (sessionId : String) : CcrProgram :=
    .read fun caches => next (msg.fillFrom caches.sessions sessionId) (some sessionId) true
  match msg.soSessInfo.uiPeerDialect with
  | .gxCiscoSce =>
    -- `pcrf_server_find_core_session`
    findCoreSess address fun
      | some core =>
        if msg.soSessInfo.strSubscriberId = core.strSubscriberId then complete core.strSessionId
        else next msg none false
      | none => next msg none false
  | .gxProcera =>
    findCoreSess address fun
      | some core => complete core.strSessionId
      | none => next msg none true
  | _ => next msg none true

/-- The changes that a statement for the database goes with. -/
def SqlStatement.steps (codes : IpcCodes) : SqlStatement → List CallStep
  | .insertRule sessionId ruleName => sessionRuleCacheInsertSteps codes sessionId ruleName
  | .closeRule sessionId ruleName _ => sessionRuleCacheRemoveRuleSteps codes sessionId ruleName
  | _ => []

/-- What the handler changes while it makes the answer: it inserts the session when the request
changes what is kept of it, and closes and issues rules. -/
def CcrUpdate.answerSteps (env : CcrEnv) (update : CcrUpdate) (msg : SMsgDataForDB)
    (parent : Option String) (vectActive : List SDBAbonRule) (gathered : Gathered) :
    List CallStep :=
  let statements :=
    (exec (msg.answer vectActive gathered) ⟨update.answers, {}⟩).2.state.store.sqlQueue
  -- the first call makes the answer; without it nothing of this is done
  if update.answers 0 then
    (if gathered.uiActionSet.updateSessioncache then
        pcrfSessionCacheInsert env.codes env.pcrfPeerDialectRet msg.soSessInfo.strSessionId
          msg.soSessInfo (some msg.soReqInfo) parent
      else []) ++
      statements.flatMap (SqlStatement.steps env.codes)
  else []

def CcrEnv.updateProgram (env : CcrEnv) (update : CcrUpdate) : CcrProgram :=
  let uiActionSet := pcrfServerDetermineActionSet env.isProceraUsed update.request
  let msg := update.request.corrected
  let dialect := msg.soSessInfo.uiPeerDialect
  -- without a connection that is needed only an UGW or Ericsson is served
  let served := update.dbConnected || !(uiActionSet.operateRule || uiActionSet.updateQuota) ||
    dialect.isIPCAN
  .read fun caches =>
    coreSession (msg.fillFrom caches.sessions msg.soSessInfo.strSessionId) fun msg parent found =>
      .makes (msg.policySteps env.codes) <|
        let finish (vectActive : List SDBAbonRule) (gathered : Gathered) : CcrProgram :=
          .makes (update.answerSteps env msg parent vectActive gathered) .done
        if served && found then
          if uiActionSet.operateRule then
            .read fun caches =>
              let vectActive :=
                pcrfSessionRuleCacheGet caches.rules msg.soSessInfo.strSessionId
              finish vectActive (update.gather msg vectActive)
          else finish [] (update.gather msg [])
        else finish [] { uiActionSet, mapMonitInfo := msg.soSessInfo.mapMonitInfo }

/-- One CCR-T and some CCR-Us, their handlers taking turns in any order. -/
def CcrEnv.machine (env : CcrEnv) (caches : NodeCaches) (termination : SMsgDataForDB)
    (updates : List CcrUpdate) : Machine (SideBySide NodeCaches CallStep) Nat :=
  SideBySide.machine NodeCaches.perform caches
    (env.terminationProgram termination :: updates.map env.updateProgram)

end Pcrf
