import Pcrf.SessionIndex
import Pcrf.Lib.Machine

/-!
`pcrf_session_cache.cpp`: the store of session records, with its indexes and links. One mutex
covers the whole of an insertion or a removal, so each of them is one step on the state.
-/

namespace Pcrf

open Lib

/-- The session store with everything that is kept beside it. -/
structure SessionCacheState where
  umapSessionCache : Store String SSessionCache := Store.empty
  mapFramedIPIndex : Index String String := Store.empty
  mapSubscriberId : Index String String := Store.empty
  links : SessionLinks := {}

/-- The body of `pcrf_session_cache_update_some_values` for a record that was found. -/
def SSessionCache.updateSomeValues (old new : SSessionCache) : SSessionCache :=
  -- a location is taken as a whole, and only when the new record has one
  let hasLocation := !new.coCGI.isNull || !new.coECGI.isNull || !new.coTAI.isNull
  { old with
    coSubscriberId := old.coSubscriberId.updateFrom new.coSubscriberId
    coFramedIPAddr := old.coFramedIPAddr.updateFrom new.coFramedIPAddr
    coCalledStationId := old.coCalledStationId.updateFrom new.coCalledStationId
    coIPCANType := old.coIPCANType.updateFrom new.coIPCANType
    iIPCANType := new.iIPCANType
    coSGSNMCCMNC := old.coSGSNMCCMNC.updateFrom new.coSGSNMCCMNC
    coSGSNIPAddr := old.coSGSNIPAddr.updateFrom new.coSGSNIPAddr
    coRATType := old.coRATType.updateFrom new.coRATType
    iRATType := new.iRATType
    coCGI := if hasLocation then new.coCGI else old.coCGI
    coECGI := if hasLocation then new.coECGI else old.coECGI
    coTAI := if hasLocation then new.coTAI else old.coTAI }

def pcrfSessionCacheUpdateSomeValues (cache : Store String SSessionCache) (sessionId : String)
    (someNewInfo : SSessionCache) : Store String SSessionCache :=
  match cache sessionId with
  | some old => cache.set sessionId (old.updateSomeValues someNewInfo)
  | none => cache

/-- `pcrf_session_cache_update_child`: hand the new record of a session to its children. -/
def pcrfSessionCacheUpdateChild (mapParent : Index String String)
    (cache : Store String SSessionCache) (sessionId : String) (sessionInfo : SSessionCache) :
    Store String SSessionCache :=
  (mapParent.entries sessionId).foldl
    (fun cache child => pcrfSessionCacheUpdateSomeValues cache child sessionInfo) cache

def pcrfSessionCacheInsertLocal (st : SessionCacheState) (sessionId : String)
    (sessionInfo : SSessionCache) (parentSessionId : Option String)
    (peerDialect : PeerDialect) : SessionCacheState :=
  match st.umapSessionCache sessionId with
  -- the record is replaced: neither index nor link is looked at
  | some _ =>
    { st with
      umapSessionCache :=
        pcrfSessionCacheUpdateChild st.links.mapParent
          (st.umapSessionCache.set sessionId sessionInfo) sessionId sessionInfo }
  | none =>
    { umapSessionCache := st.umapSessionCache.set sessionId sessionInfo
      mapFramedIPIndex :=
        if peerDialect.isIPCAN then
          pcrfSessionCacheIndexFrameIPAddressInsertSession st.mapFramedIPIndex
            sessionInfo.coFramedIPAddr.v sessionId
        else st.mapFramedIPIndex
      mapSubscriberId :=
        if sessionInfo.coSubscriberId.isNull then st.mapSubscriberId
        else
          pcrfSessionCacheIndexSubscriberIdInsertSession st.mapSubscriberId
            sessionInfo.coSubscriberId.v sessionId
      links := pcrfSessionCacheMkLink2parent st.links sessionId parentSessionId }

/-- The code is 0, or `ENODATA` (61) when the session is not cached. -/
def pcrfSessionCacheRemoveLocal (st : SessionCacheState) (sessionId : String) :
    SessionCacheState × Int :=
  let links := pcrfSessionCacheRemoveLink st.links sessionId
  match st.umapSessionCache sessionId with
  | some record =>
    ({ umapSessionCache := st.umapSessionCache.erase sessionId
       mapFramedIPIndex :=
         pcrfSessionCacheIndexFrameIPAddressRemoveSession st.mapFramedIPIndex
           record.coFramedIPAddr.v sessionId
       mapSubscriberId :=
         if record.coSubscriberId.isNull then st.mapSubscriberId
         else
           pcrfSessionCacheRmSubscriberSessionId st.mapSubscriberId record.coSubscriberId.v
             sessionId
       links }, 0)
  | none => ({ st with links }, 61)

/-! ### Runs of the cache -/

/-- One call on the cache, with the arguments its callers may pass. -/
inductive CacheOp where
  | insertLocal (sessionId : String) (sessionInfo : SSessionCache)
      (parentSessionId : Option String) (peerDialect : PeerDialect)
  | removeLocal (sessionId : String)

def SessionCacheState.apply (st : SessionCacheState) : CacheOp → SessionCacheState
  | .insertLocal sessionId sessionInfo parentSessionId peerDialect =>
    pcrfSessionCacheInsertLocal st sessionId sessionInfo parentSessionId peerDialect
  | .removeLocal sessionId => (pcrfSessionCacheRemoveLocal st sessionId).1

/-- The cache as a machine: it starts empty and takes one call after another. -/
def sessionCacheMachine : Machine SessionCacheState CacheOp where
  init := {}
  step := SessionCacheState.apply

end Pcrf
