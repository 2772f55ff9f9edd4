import Pcrf.CcrHandlers
import Pcrf.Lib.Serving
import Pcrf.SessionStores

/-!
The handlers of a node with all that they change: the caches, and the database by way of the
queues of statements. `app_pcrf_ccr_cb` for every type of request, and `pcrf_client_gx_raa` for a
session that its peer does not know. What is sent to linked sessions is left out.
-/

namespace Pcrf

open Lib CallM

/-- The caches of a node, its queues of statements and the database. -/
structure CcrNodeState where
  caches : NodeCaches := {}
  sql : SqlNode SqlParam

/-- A step on the caches, or a statement that is enqueued. -/
inductive NodeStep where
  | cache (step : CallStep)
  | store (statement : StoreStatement)

/-- A statement takes the time at which it is enqueued. -/
def CcrNodeState.perform (node : CcrNodeState) (step : NodeStep) (now : Tm) : CcrNodeState :=
  match step with
  | .cache step => { node with caches := node.caches.perform step }
  | .store statement =>
    { node with sql := node.sql.enqueue (statement.request now) statement.sessionId }

abbrev NodeProgram := Program CcrNodeState NodeStep

/-! ### Steps -/

/-- What enqueuing a statement goes with: for a rule the cache is changed first. -/
def StoreStatement.steps (codes : IpcCodes) : StoreStatement → List NodeStep
  | .rule statement =>
    (statement.steps codes).map NodeStep.cache ++ [.store (.rule statement)]
  | statement => [.store statement]

/-- The record that the handler works on, as the caches see it. -/
def ExtractedData.msg (data : ExtractedData) : SMsgDataForDB where
  soSessInfo := data.sess.toSSessionInfo
  soReqInfo := data.req.toSRequestInfo

def ExtractedData.withMsg (data : ExtractedData) (msg : SMsgDataForDB) : ExtractedData where
  sess := { data.sess with toSSessionInfo := msg.soSessInfo }
  req := { data.req with toSRequestInfo := msg.soReqInfo }

/-- `pcrf_session_cache_get` into the request. -/
def ExtractedData.fillFrom (data : ExtractedData) (node : CcrNodeState) (sessionId : String) :
    ExtractedData :=
  data.withMsg (data.msg.fillFrom node.caches.sessions sessionId)

/-- `pcrf_server_req_db_store`, after the end of the session has been read from the clock for a
CCR-T. -/
def ExtractedData.storeSteps (codes : IpcCodes) (now : Tm) (data : ExtractedData) :
    List NodeStep :=
  (StoreWriter.request data now).statements.flatMap (StoreStatement.steps codes)

/-! ### CCR -/

/-- A request with what its handler meets: the time at which it comes, whether the pool gives a
connection, the subscriber that the cache knows by the subscription data, what is gathered for the
subscriber and the active rules, and which calls into freeDiameter succeed. -/
structure Ccr where
  data : ExtractedData
  now : Tm
  dbConnected : Bool := true
  subscriberId : SSubscriptionIdData → String := fun _ => ""
  gather : SMsgDataForDB → List SDBAbonRule → Gathered
  answers : Nat → Bool := fun _ => true

namespace Ccr

def type (ccr : Ccr) : CCRequestType := ccr.data.req.iCCRequestType

def sessionId (ccr : Ccr) : String := ccr.data.sess.strSessionId

end Ccr

/-- `pcrf_server_find_core_sess_byframedip` with nothing known of the session. -/
def nodeFindCoreSess (framedIPAddress : String) (next : Option SSessionInfo → NodeProgram) :
    NodeProgram :=
  .read fun node =>
    match (pcrfSessionCacheIndexFrameIPAddressGetSessionList node.caches.sessions.mapFramedIPIndex
        framedIPAddress).getLast? with
    | some sessionId =>
      .read fun node =>
        next ((pcrfSessionCacheGet node.caches.sessions sessionId (some {}) none).bind Prod.fst)
    | none => next none

/-- The core session of a session of an SCE or of Procera: the request is completed from it, and
its id is that of the parent. `next` is also told whether it was looked for and not found. -/
def nodeCoreSession (data : ExtractedData)
    (next : ExtractedData → Option String → Bool → NodeProgram) : NodeProgram :=
  let address := data.sess.coFramedIPAddress.v
  let complete (sessionId : String) : NodeProgram :=
    .read fun node => next (data.fillFrom node sessionId) (some sessionId) false
  match data.sess.uiPeerDialect with
  | .gxCiscoSce =>
    -- `pcrf_server_find_core_session`
    nodeFindCoreSess address fun
      | some core =>
        if data.sess.strSubscriberId = core.strSubscriberId then complete core.strSessionId
        else next data none true
      | none => next data none true
  | .gxProcera =>
    nodeFindCoreSess address fun
      | some core => complete core.strSessionId
      | none => next data none true
  | _ => next data none false

/-- The result code of a CCR-I: without a connection the node is too busy, and the session of a
Procera needs a core session. -/
def initialResultCode (dbConnected : Bool) (dialect : PeerDialect) (missing : Bool) : Nat :=
  if missing ∧ dialect = .gxProcera then 5030 else if dbConnected then 2001 else 3004

/-- The result code of a CCR-U: an UGW or Ericsson is served without a connection, and the session
of an SCE needs a core session. -/
def updateResultCode (served : Bool) (dialect : PeerDialect) (missing : Bool) : Nat :=
  if missing ∧ dialect = .gxCiscoSce then 5030 else if served then 2001 else 3004

/-- What a handler changes while it makes the answer: a CCR-U may insert its session, and rules are
closed and issued. -/
def CcrEnv.answerSteps (env : CcrEnv) (ccr : Ccr) (msg : SMsgDataForDB) (parent : Option String)
    (vectActive : List SDBAbonRule) (gathered : Gathered) : List NodeStep :=
  let statements :=
    (exec (msg.answer vectActive gathered) ⟨ccr.answers, {}⟩).2.state.store.sqlQueue
  -- the first call makes the answer; without it nothing of this is done
  if ccr.answers 0 then
    (if ccr.type = .updateRequest ∧ gathered.uiActionSet.updateSessioncache then
        (pcrfSessionCacheInsert env.codes env.pcrfPeerDialectRet msg.soSessInfo.strSessionId
          msg.soSessInfo (some msg.soReqInfo) parent).map NodeStep.cache
      else []) ++
      statements.flatMap fun statement => (StoreStatement.rule statement).steps env.codes
  else []

def CcrEnv.actionSet (env : CcrEnv) (ccr : Ccr) : ActionSet :=
  pcrfServerDetermineActionSet env.isProceraUsed ccr.data.msg

/-- The request after the corrections for its dialect. -/
def Ccr.corrected (ccr : Ccr) : ExtractedData := ccr.data.withMsg ccr.data.msg.corrected

/-- A CCR-I. The session is cached and stored whatever the result code. -/
def CcrEnv.initialHandler (env : CcrEnv) (ccr : Ccr) : NodeProgram :=
  let data := ccr.corrected
  let dialect := data.sess.uiPeerDialect
  let known : ExtractedData :=
    -- of the dialects that are served, only Procera's sessions are not looked up by subscriber
    if dialect.isIPCAN ∨ dialect = .gxCiscoSce then
      { data with sess.strSubscriberId := ccr.subscriberId data.sess.soSubscriptionData }
    else data
  nodeCoreSession known fun data parent missing =>
    .makes ((pcrfSessionCacheInsert env.codes env.pcrfPeerDialectRet data.sess.strSessionId
        data.sess.toSSessionInfo (some data.req.toSRequestInfo) parent).map NodeStep.cache ++
      data.storeSteps env.codes ccr.now) <|
      let gathered : Gathered :=
        if initialResultCode ccr.dbConnected dialect missing = 2001 then ccr.gather data.msg []
        else { uiActionSet := env.actionSet ccr, mapMonitInfo := data.sess.mapMonitInfo }
      .makes (env.answerSteps ccr data.msg parent [] gathered) .done

/-- A CCR-U. -/
def CcrEnv.updateHandler (env : CcrEnv) (ccr : Ccr) : NodeProgram :=
  let uiActionSet := env.actionSet ccr
  let data := ccr.corrected
  let dialect := data.sess.uiPeerDialect
  let served := ccr.dbConnected || !(uiActionSet.operateRule || uiActionSet.updateQuota) ||
    dialect.isIPCAN
  .read fun node =>
    nodeCoreSession (data.fillFrom node data.sess.strSessionId) fun data parent missing =>
      .makes (data.storeSteps env.codes ccr.now) <|
        let finish (vectActive : List SDBAbonRule) (gathered : Gathered) : NodeProgram :=
          .makes (env.answerSteps ccr data.msg parent vectActive gathered) .done
        if updateResultCode served dialect missing = 2001 then
          if uiActionSet.operateRule then
            .read fun node =>
              let vectActive := pcrfSessionRuleCacheGet node.caches.rules data.sess.strSessionId
              finish vectActive (ccr.gather data.msg vectActive)
          else finish [] (ccr.gather data.msg [])
        else finish [] { uiActionSet, mapMonitInfo := data.sess.mapMonitInfo }

/-- A CCR-T. For a usage report and for a CDR the session is read before it is removed. -/
def CcrEnv.terminationHandler (env : CcrEnv) (ccr : Ccr) : NodeProgram :=
  let data := ccr.corrected
  let finish (data : ExtractedData) : NodeProgram :=
    .makes ((pcrfSessionCacheRemove env.codes data.sess.strSessionId).map NodeStep.cache ++
      data.storeSteps env.codes ccr.now) .done
  if data.sess.uiPeerDialect.isIPCAN ∧
      (env.iGenerateCDR ≠ 0 ∨ (env.actionSet ccr).updateQuota) then
    .read fun node => finish (data.fillFrom node data.sess.strSessionId)
  else finish data

/-- `app_pcrf_ccr_cb`, by the type of the request. -/
def CcrEnv.ccrHandler (env : CcrEnv) (ccr : Ccr) : NodeProgram :=
  match ccr.type with
  | .initialRequest => env.initialHandler ccr
  | .updateRequest => env.updateHandler ccr
  | .terminationRequest => env.terminationHandler ccr
  | .other _ => .makes (ccr.corrected.storeSteps env.codes ccr.now) .done

/-- `pcrf_client_gx_raa` for the result code 5002. -/
def CcrEnv.unknownSessionHandler (env : CcrEnv) (sessionId : String) : NodeProgram :=
  .makes ((pcrfClientDbFixStaledSess sessionId).flatMap (StoreStatement.steps env.codes) ++
    (pcrfSessionCacheRemove env.codes sessionId).map NodeStep.cache) .done

/-! ### The node -/

/-- What is handled: a request, or the answer of a peer that does not know the session. -/
inductive NodeRequest where
  | ccr (request : Ccr)
  | unknownSession (sessionId : String)

def NodeRequest.sessionId : NodeRequest → String
  | .ccr request => request.sessionId
  | .unknownSession sessionId => sessionId

/-- What happens beside the handlers: something else is enqueued, or the thread of one queue makes
a pass. -/
inductive NodeOther where
  | enqueue (request : SSQLRequestInfo SqlParam) (sessionId : Option String)
  | pass (index : Nat) (answers : SqlAnswers)

def CcrNodeState.other (node : CcrNodeState) : NodeOther → CcrNodeState
  | .enqueue request sessionId => { node with sql := node.sql.enqueue request sessionId }
  | .pass index answers => { node with sql := node.sql.pass index answers }

def CcrEnv.service (env : CcrEnv) :
    Service String CcrNodeState NodeStep NodeRequest Tm NodeOther where
  key := NodeRequest.sessionId
  program
    | .ccr request => env.ccrHandler request
    | .unknownSession sessionId => env.unknownSessionHandler sessionId
  perform := CcrNodeState.perform
  background := CcrNodeState.other

end Pcrf
