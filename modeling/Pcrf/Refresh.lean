import Pcrf.CreditControl
import Pcrf.SessionLookup

/-!
`pcrf_client_operate_refqueue_record`: the refresh of the sessions that an entry of the queue
selects, with the Re-Auth-Requests that bring their rules up to date or ask to release them.
-/

namespace Pcrf

open Lib CallM

/-! ### Re-Auth-Request -/

/-- The head that both requests have: `fd_msg_new` and the nineteen calls that follow it, from
the header of the message to Re-Auth-Request-Type. -/
def newRar : FdM Unit := do
  newMessage
  calls 19

/-- `fd_msg_send`: the request goes where the session has come from. -/
def sendRar (sessInfo : SSessionInfo) (sessionReleaseCause : Option UInt32) : FdM Unit := do
  call
  update fun st =>
    { st with
      sent := st.sent ++
        [{ sessionId := sessInfo.strSessionId
           destHost := sessInfo.coOriginHost.v
           destRealm := sessInfo.coOriginRealm.v
           avps := st.answer
           sessionReleaseCause }] }

/-- Put something only if the pointer to it is not null. -/
def putGiven {α : Type} (given : Option α) (put : α → FdM Unit) : FdM Unit :=
  match given with
  | some a => put a
  | none => return ()

/-- What a Re-Auth-Request changes at its session. -/
def putChanges (sessInfo : SSessionInfo) (reqInfo : Option SRequestInfo)
    (vectActiveRules listAbonRules : Option (List SDBAbonRule))
    (listTrigger : Option (List Int32)) : FdM Unit := do
  putGiven listTrigger putTriggers
  putGiven vectActiveRules fun vectActive => putMade (pcrfMakeCRR sessInfo vectActive)
  tolerate (pcrfMakeUMI false sessInfo.mapMonitInfo)
  putGiven listAbonRules fun rules => putMade (pcrfMakeCRI sessInfo reqInfo rules)

def pcrfClientGxRar (sessInfo : SSessionInfo) (reqInfo : Option SRequestInfo)
    (vectActiveRules listAbonRules : Option (List SDBAbonRule))
    (listTrigger : Option (List Int32)) : FdM Unit := do
  newRar
  putChanges sessInfo reqInfo vectActiveRules listAbonRules listTrigger
  sendRar sessInfo none

/-- The cause is `UNSPECIFIED_REASON`. -/
def pcrfClientGxRarWSRCause (sessInfo : SSessionInfo) : FdM Unit := do
  newRar
  calls 3
  sendRar sessInfo (some 0)

/-! ### The sessions of an entry -/

/-- The rows that one attempt to read the sessions of a subscriber gets, and the exception that
ends it. -/
abbrev SessionListQuery := String → Nat → List String × Option Failure

/-- What the connection of the refreshing thread answers; the rules and quotas of a session are
asked for anew at each place of the list. -/
structure RefreshDb where
  sessionList : SessionListQuery
  subRules : Nat → RuleListQuery
  monitKey : Nat → MonitKeyQuery

/-- What a refresh reads besides the rules of the sessions. There is no connection when the
queue in the database is not operated, and when the pool has none. -/
structure RefreshEnv where
  sessionCache : SessionCacheState
  vectPeerList : List SPeerInfo
  ruleCache : RuleCache
  pcoDBConn : Option RefreshDb

/-- The list is not cleared before an attempt is repeated. -/
def loadSessionListAttempt (outcome : List String × Option Failure) : Attempt (List String) :=
  fun vectSessionList => (vectSessionList ++ outcome.1, outcome.2)

/-- The code returned and the list. The database is asked only for a subscriber that the cache
does not know. -/
def pcrfClientDbLoadSessionList (env : RefreshEnv) (refQueue : SRefQueue) : Int × List String :=
  if refQueue.strIdentifierType = "subscriber_id" then
    match pcrfSessionCacheGetSubscriberSessionId env.sessionCache.mapSubscriberId
        refQueue.strIdentifier with
    | some vectSessionList => (0, vectSessionList)
    | none =>
      match env.pcoDBConn with
      -- the only place where a refresh gives up for want of a connection
      | none => (22, [])
      | some db =>
        match Attempt.repeatOnce
            (fun k => loadSessionListAttempt (db.sessionList refQueue.strIdentifier k)) [] with
        | (vectSessionList, none) => (0, vectSessionList)
        | (vectSessionList, some failure) => (failure.code, vectSessionList)
  else if refQueue.strIdentifierType = "session_id" then (0, [refQueue.strIdentifier])
  -- any other type selects nothing and is an error
  else (-1, [])

/-- `pcrf_session_cache_get` for a session and its request. -/
def SMsgDataForDB.fromCache (st : SessionCacheState) (sessionId : String)
    (msg : SMsgDataForDB) : Option SMsgDataForDB :=
  match pcrfSessionCacheGet st sessionId (some msg.soSessInfo) (some msg.soReqInfo) with
  | some (some soSessInfo, some soReqInfo) => some { soSessInfo, soReqInfo }
  | _ => none

/-- A Procera session is completed from the core session of its address. -/
def RefreshEnv.completeProcera (env : RefreshEnv) (msg : SMsgDataForDB) : SMsgDataForDB :=
  match pcrfServerFindCoreSessByframedip env.sessionCache msg.soSessInfo.coFramedIPAddress.v {} with
  | some core => (msg.fromCache env.sessionCache core.strSessionId).getD msg
  | none => msg

/-- What is known of a session; a session that is not cached, or whose peer is not configured,
is passed over. -/
def RefreshEnv.loadSession (env : RefreshEnv) (sessionId : String) : Option SMsgDataForDB := do
  let msg ← SMsgDataForDB.fromCache env.sessionCache sessionId
    { soSessInfo := { strSessionId := sessionId }, soReqInfo := {} }
  let soSessInfo ← pcrfPeerDialect env.vectPeerList msg.soSessInfo
  let msg := { msg with soSessInfo }
  if soSessInfo.uiPeerDialect = .gxProcera then env.completeProcera msg else msg

def SMsgDataForDB.subRulesArgs (msg : SMsgDataForDB) : SubRulesArgs where
  strSubscriberId := msg.soSessInfo.strSubscriberId
  uiPeerDialect := msg.soSessInfo.uiPeerDialect
  coIPCANType := msg.soReqInfo.soUserEnvironment.coIPCANType
  coRATType := msg.soReqInfo.soUserEnvironment.coRATType
  coCalledStationId := msg.soSessInfo.coCalledStationId
  coSGSNAddress := msg.soReqInfo.soUserEnvironment.coSGSNAddress
  coIMEI := msg.soSessInfo.coIMEI

/-- The rules of the session at place `k`. What a Procera has in addition is lost, because
`pcrf_server_create_abon_rule_list` clears the list that it is given. -/
def RefreshEnv.abonRules (env : RefreshEnv) (k : Nat) (msg : SMsgDataForDB) :
    List SDBAbonRule :=
  pcrfServerCreateAbonRuleList env.ruleCache (env.pcoDBConn.map (·.subRules k)) msg.subRulesArgs

/-! ### The refresh of a session -/

def SRefQueue.abortsSession (refQueue : SRefQueue) : Bool :=
  !refQueue.coAction.isNull && refQueue.coAction.v == "abort_session"

/-- `ENOTCONN`. -/
def enotconn : Int := 107

/-- What is carried from one session to the next. -/
structure RefreshState where
  bMKInstalled : Bool := false
  answering : Answering AnswerState

/-- Build and send a request; a failure is only logged. -/
def RefreshState.send (st : RefreshState) (request : FdM Unit) : RefreshState :=
  { st with answering := (exec (tolerate request) st.answering).2 }

def refreshTriggers (uiPeerDialect : PeerDialect) (bMKInstalled : Bool) : List Int32 :=
  (if uiPeerDialect.isIPCAN then [2, 101, 13, 0] else []) ++
    (if bMKInstalled then uiPeerDialect.usageReport else [])

/-- Bring the rules of a session up to date. The flag for monitoring keys is not cleared between
the sessions. -/
def RefreshEnv.updateRules (env : RefreshEnv) (k : Nat) (msg : SMsgDataForDB)
    (listAbonRules : List SDBAbonRule) (st : RefreshState) : RefreshState :=
  let vectActive := pcrfSessionRuleCacheGet st.answering.state.store.mapSessRuleLst
    msg.soSessInfo.strSessionId
  let marked := pcrfServerSelectNotrelevantActive listAbonRules vectActive
  let mapMonitInfo := (pcrfServerDbMonitKey (env.pcoDBConn.map (·.monitKey k))
    msg.soSessInfo.strSubscriberId (pcrfMakeMkList marked.1 msg.soSessInfo.mapMonitInfo)).2
  if pcrfClientIsAnyChanges marked.2 marked.1 then
    let bMKInstalled := st.bMKInstalled || marked.1.any fun rule => !rule.vectMonitKey.isEmpty
    { st with bMKInstalled }.send
      (pcrfClientGxRar { msg.soSessInfo with mapMonitInfo } (some msg.soReqInfo) (some marked.2)
        (some marked.1) (some (refreshTriggers msg.soSessInfo.uiPeerDialect bMKInstalled)))
  else st

/-- The body of the loop: the code it leaves and the state. -/
def RefreshEnv.refreshSession (env : RefreshEnv) (refQueue : SRefQueue) (k : Nat)
    (sessionId : String) (st : RefreshState) : Int × RefreshState :=
  match env.loadSession sessionId with
  | none => (0, st)
  | some msg =>
    if pcrfPeerIsConnected env.vectPeerList msg.soSessInfo = 0 then (enotconn, st)
    else if refQueue.abortsSession then (0, st.send (pcrfClientGxRarWSRCause msg.soSessInfo))
    else
      -- no rules, none that is known, or no answer: the list does not tell which
      let listAbonRules := env.abonRules k msg
      if listAbonRules.isEmpty then (0, st.send (pcrfClientGxRarWSRCause msg.soSessInfo))
      else (0, env.updateRules k msg listAbonRules st)

/-- The loop over the sessions from place `k` on: a code other than 0 ends it. -/
def RefreshEnv.refreshSessions (env : RefreshEnv) (refQueue : SRefQueue) :
    Nat → List String → RefreshState → Int × RefreshState
  | _, [], st => (0, st)
  | k, sessionId :: rest, st =>
    match env.refreshSession refQueue k sessionId st with
    | (0, st) => env.refreshSessions refQueue (k + 1) rest st
    | (code, st) => (code, st)

def pcrfClientOperateRefqueueRecord (env : RefreshEnv) (refQueue : SRefQueue)
    (s : Answering AnswerState) : Int × RefreshState :=
  match pcrfClientDbLoadSessionList env refQueue with
  | (0, vectSessionList) =>
    env.refreshSessions refQueue 0 vectSessionList { answering := s }
  | (code, _) => (code, { answering := s })

end Pcrf
