import Pcrf.MonitKeys
import Pcrf.Refresh

/-!
The loops over the sessions that are linked to a session, and over those of a subscriber. Each
completes one record from the cache for one session after another, and the record is never
cleared.
-/

namespace Pcrf

open Lib

/-- `ENODATA`. -/
def enodata : Int := 61

/-- What is called for a session. -/
inductive SessionCall where
  | proceraTerminateSession (sessionId : String)
  | appRxOperateFailedBearer (sessInfo : SSessionInfo)
  | appRxOperateFailedRule (sessInfo : SSessionInfo) (vectRuleReport : List SSessionPolicyInfo)
  | gxRar (sessInfo : SSessionInfo) (reqInfo : SRequestInfo)
  deriving Repr, DecidableEq

/-- What the loops read. -/
structure LinkedEnv where
  sessionCache : SessionCacheState
  vectPeerList : List SPeerInfo

namespace LinkedEnv

variable (env : LinkedEnv)

/-! ### Linked sessions -/

/-- What the two loops do with a session whose dialect is known. Only one of them is concerned
with Procera sessions. -/
def linkedCalls (procera : Bool) (rx : SSessionInfo → SessionCall) (sessionId : String)
    (sessInfo : SSessionInfo) : List SessionCall :=
  match sessInfo.uiPeerDialect with
  | .gxProcera => if procera then [.proceraTerminateSession sessionId] else []
  | .rxIms => [rx sessInfo]
  | _ => []

/-- The body of the loops: what the record is then, and the calls. -/
def linkedStep (calls : String → SSessionInfo → List SessionCall) (sessInfo : SSessionInfo)
    (sessionId : String) : SSessionInfo × List SessionCall :=
  match pcrfSessionCacheGet env.sessionCache sessionId (some sessInfo) none with
  | some (some sessInfo, _) =>
    match pcrfPeerDialect env.vectPeerList sessInfo with
    | some sessInfo => (sessInfo, calls sessionId sessInfo)
    | none => (sessInfo, [])
  | _ => (sessInfo, [])

/-- The calls for each session of a list. -/
def linkedLoop (calls : String → SSessionInfo → List SessionCall) :
    SSessionInfo → List String → List (List SessionCall)
  | _, [] => []
  | sessInfo, sessionId :: rest =>
    let (sessInfo, made) := env.linkedStep calls sessInfo sessionId
    made :: linkedLoop calls sessInfo rest

def terminateLoop (listSessionList : List String) : List (List SessionCall) :=
  env.linkedLoop (linkedCalls true .appRxOperateFailedBearer) {} listSessionList

def ruleReportLoop (vectRuleReport : List SSessionPolicyInfo) (listSessionList : List String) :
    List (List SessionCall) :=
  env.linkedLoop (linkedCalls false fun sessInfo => .appRxOperateFailedRule sessInfo vectRuleReport)
    {} listSessionList

def pcrfLinkedSessionTerminate (strIPCANSessionId : String) : List (List SessionCall) :=
  match pcrfSessionCacheGetLinkedChildSessionList env.sessionCache.links strIPCANSessionId with
  | some listSessionList => env.terminateLoop listSessionList
  | none => []

def pcrfLinkedSessionRuleReport (strIPCANSessionId : String)
    (vectRuleReport : List SSessionPolicyInfo) : List (List SessionCall) :=
  match pcrfSessionCacheGetLinkedChildSessionList env.sessionCache.links strIPCANSessionId with
  | some listSessionList => env.ruleReportLoop vectRuleReport listSessionList
  | none => []

/-! ### The sessions of a subscriber -/

/-- The record for the next session, before its dialect is asked for. Whether the session is in
the cache is not checked, and its number is set in any case. -/
def umiRecord (soInfo : SMsgDataForDB) (sessionId : String) : SMsgDataForDB :=
  let cleared := { soInfo with soReqInfo := { soInfo.soReqInfo with vectUsageInfo := [] } }
  let filled := (cleared.fromCache env.sessionCache sessionId).getD cleared
  { filled with soSessInfo := { filled.soSessInfo with strSessionId := sessionId } }

/-- The record that goes into the request; without one the loop ends. -/
def umiStep (plistMonitKey : List String) (soInfo : SMsgDataForDB) (sessionId : String) :
    Option SMsgDataForDB :=
  let soInfo := env.umiRecord soInfo sessionId
  (pcrfPeerDialect env.vectPeerList soInfo.soSessInfo).map fun sessInfo =>
    { soInfo with
      soSessInfo :=
        { sessInfo with
          mapMonitInfo := MonitInfoMap.insertKeys plistMonitKey sessInfo.mapMonitInfo } }

/-- The code, and the calls for each session of a list; `gxRar` is what `pcrf_client_gx_rar`
returns. -/
def umiLoop (gxRar : SMsgDataForDB → Int) (plistMonitKey : List String) :
    Int → SMsgDataForDB → List String → Int × List (List SessionCall)
  | iRetVal, _, [] => (iRetVal, [])
  | _, soInfo, sessionId :: rest =>
    match env.umiStep plistMonitKey soInfo sessionId with
    -- no session of an unknown peer is passed over: the loop ends there
    | none => (enodata, [] :: rest.map fun _ => [])
    | some soInfo =>
      let (iRetVal, made) := umiLoop gxRar plistMonitKey (gxRar soInfo) soInfo rest
      (iRetVal, [.gxRar soInfo.soSessInfo soInfo.soReqInfo] :: made)

def pcrfSendUmiRar (gxRar : SMsgDataForDB → Int) (coSubscriberId : OtlValue String)
    (plistMonitKey : Option (List String)) : Int × List (List SessionCall) :=
  match coSubscriberId.toOption, plistMonitKey with
  | some subscriberId, some plistMonitKey =>
    match pcrfSessionCacheGetSubscriberSessionId env.sessionCache.mapSubscriberId subscriberId with
    | some vectSessionList =>
      env.umiLoop gxRar plistMonitKey 0 { soSessInfo := {}, soReqInfo := {} } vectSessionList
    | none => (enodata, [])
  | _, _ => (22, [])

end LinkedEnv

end Pcrf
