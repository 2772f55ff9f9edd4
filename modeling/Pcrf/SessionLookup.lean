import Pcrf.SessionCache

/-!
Reading the session cache: filling a request from a cached record, finding the core session of
an address, and the peers of `pcrf_peer.cpp`.
-/

namespace Pcrf

open Lib

/-! ### Filling a request from the cache -/

/-- Keep a value that is there, take the cached one otherwise. -/
def OtlValue.orCached {α : Type} (value cached : OtlValue α) : OtlValue α :=
  if value.isNull then cached else value

/-- The part of `pcrf_session_cache_get` that completes the session. -/
def SSessionInfo.fillFrom (info : SSessionInfo) (sessionId : String) (record : SSessionCache) :
    SSessionInfo :=
  { info with
    strSubscriberId := if record.coSubscriberId.isNull then "" else record.coSubscriberId.v
    strSessionId := if info.strSessionId.length = 0 then sessionId else info.strSessionId
    coFramedIPAddress := info.coFramedIPAddress.orCached record.coFramedIPAddr
    coCalledStationId := info.coCalledStationId.orCached record.coCalledStationId
    coOriginHost := info.coOriginHost.orCached record.coOriginHost
    coOriginRealm := info.coOriginRealm.orCached record.coOriginRealm
    coIMEI := info.coIMEI.orCached record.coIMEISV
    soSubscriptionData :=
      { info.soSubscriptionData with
        coEndUserIMSI := info.soSubscriptionData.coEndUserIMSI.orCached record.coEndUserIMSI
        coEndUserE164 := info.soSubscriptionData.coEndUserE164.orCached record.coEndUserE164 } }

/-- The part that completes the environment of the request. -/
def SUserEnvironment.fillFrom (env : SUserEnvironment) (record : SSessionCache) :
    SUserEnvironment :=
  let noLocation := env.soUsrLoc.coCGI.isNull && env.soUsrLoc.coECGI.isNull &&
    env.soUsrLoc.coTAI.isNull
  { env with
    coIPCANType := env.coIPCANType.orCached record.coIPCANType
    iIPCANType := record.iIPCANType
    coSGSNMCCMNC := env.coSGSNMCCMNC.orCached record.coSGSNMCCMNC
    coSGSNAddress := env.coSGSNAddress.orCached record.coSGSNIPAddr
    coRATType := env.coRATType.orCached record.coRATType
    iRATType := record.iRATType
    -- the location is completed as a whole or not at all
    soUsrLoc :=
      if noLocation then
        { env.soUsrLoc with
          coCGI := record.coCGI, coECGI := record.coECGI, coTAI := record.coTAI }
      else env.soUsrLoc }

def SRequestInfo.fillFrom (req : SRequestInfo) (record : SSessionCache) : SRequestInfo :=
  { req with soUserEnvironment := req.soUserEnvironment.fillFrom record }

/-- `none` models `EINVAL`: the session is not cached. A null pointer for the session or the
request is an argument `none`. -/
def pcrfSessionCacheGet (st : SessionCacheState) (sessionId : String)
    (sessInfo : Option SSessionInfo) (reqInfo : Option SRequestInfo) :
    Option (Option SSessionInfo × Option SRequestInfo) :=
  (st.umapSessionCache sessionId).map fun record =>
    (sessInfo.map (·.fillFrom sessionId record), reqInfo.map (·.fillFrom record))

/-- The core session of an address is the one that was listed last. -/
def pcrfServerFindCoreSessByframedip (st : SessionCacheState) (framedIPAddress : String)
    (sessInfo : SSessionInfo) : Option SSessionInfo :=
  let listSessionId :=
    pcrfSessionCacheIndexFrameIPAddressGetSessionList st.mapFramedIPIndex framedIPAddress
  match listSessionId.getLast? with
  | some sessionId => (pcrfSessionCacheGet st sessionId (some sessInfo) none).bind Prod.fst
  | none => none

/-! ### Peers -/

/-- `SPeerInfo`. -/
structure SPeerInfo where
  coHostName : OtlValue String
  coHostReal : OtlValue String
  uiPeerDialect : PeerDialect := .gxUndef
  iIsConnected : Int := 0
  deriving Repr, DecidableEq

def findPeer (vectPeerList : List SPeerInfo) (host realm : String) : Option SPeerInfo :=
  vectPeerList.find? fun peer => peer.coHostName.v == host && peer.coHostReal.v == realm

/-- `none` models `ENODATA`: the peer is not configured. -/
def pcrfPeerDialect (vectPeerList : List SPeerInfo) (sessInfo : SSessionInfo) :
    Option SSessionInfo :=
  (findPeer vectPeerList sessInfo.coOriginHost.v sessInfo.coOriginRealm.v).map fun peer =>
    { sessInfo with uiPeerDialect := peer.uiPeerDialect }

def pcrfPeerDialectRet (vectPeerList : List SPeerInfo) (host realm : String) : PeerDialect :=
  match findPeer vectPeerList host realm with
  | none => .gxUndef
  | some peer => peer.uiPeerDialect

/-- An unknown peer is answered with `ENODATA` (61), which callers read as connected. -/
def pcrfPeerIsConnected (vectPeerList : List SPeerInfo) (sessInfo : SSessionInfo) : Int :=
  match findPeer vectPeerList sessInfo.coOriginHost.v sessInfo.coOriginRealm.v with
  | some peer => peer.iIsConnected
  | none => 61

end Pcrf
