import Pcrf.NodeCalls
import Pcrf.SessionLookup
import Pcrf.SessionIndexes

/-!
Completing a request from the cached record of its session, and what the cache then keeps when
the request is stored.
-/

namespace Pcrf

/-! ### What completing should do -/

/-- The value that the request carries, or else that of the record. -/
def Completes {α : Type} (carried cached merged : OtlValue α) : Prop :=
  merged = if carried.isNull then cached else carried

/-- A type in its two forms, both of the request if it carries the text, or else both of the
record. -/
def FromOneSide (carried cached merged : OtlValue String × Int32) : Prop :=
  merged = if carried.1.isNull then cached else carried

/-- Any part of the location is there. -/
def SUserLocation.isPresent (location : SUserLocation) : Bool :=
  !location.coCGI.isNull || !location.coECGI.isNull || !location.coTAI.isNull

/-- No request carries a subscriber id: it is known from the record only. -/
structure SessionCompleted (sessionId : String) (record : SSessionCache)
    (info merged : SSessionInfo) : Prop where
  subscriberId : merged.strSubscriberId = record.coSubscriberId.toOption.getD ""
  sessionId : merged.strSessionId = if info.strSessionId = "" then sessionId else info.strSessionId
  framedIPAddress :
    Completes info.coFramedIPAddress record.coFramedIPAddr merged.coFramedIPAddress
  calledStationId :
    Completes info.coCalledStationId record.coCalledStationId merged.coCalledStationId
  originHost : Completes info.coOriginHost record.coOriginHost merged.coOriginHost
  originRealm : Completes info.coOriginRealm record.coOriginRealm merged.coOriginRealm
  imei : Completes info.coIMEI record.coIMEISV merged.coIMEI
  endUserIMSI : Completes info.soSubscriptionData.coEndUserIMSI record.coEndUserIMSI
    merged.soSubscriptionData.coEndUserIMSI
  endUserE164 : Completes info.soSubscriptionData.coEndUserE164 record.coEndUserE164
    merged.soSubscriptionData.coEndUserE164
  /-- Nothing else changes. -/
  rest : { merged with
    strSubscriberId := info.strSubscriberId
    strSessionId := info.strSessionId
    coFramedIPAddress := info.coFramedIPAddress
    coCalledStationId := info.coCalledStationId
    coOriginHost := info.coOriginHost
    coOriginRealm := info.coOriginRealm
    coIMEI := info.coIMEI
    soSubscriptionData :=
      { merged.soSubscriptionData with
        coEndUserIMSI := info.soSubscriptionData.coEndUserIMSI
        coEndUserE164 := info.soSubscriptionData.coEndUserE164 } } = info

structure EnvironmentCompleted (record : SSessionCache) (env merged : SUserEnvironment) :
    Prop where
  ipcanType : FromOneSide (env.coIPCANType, env.iIPCANType)
    (record.coIPCANType, record.iIPCANType) (merged.coIPCANType, merged.iIPCANType)
  ratType : FromOneSide (env.coRATType, env.iRATType) (record.coRATType, record.iRATType)
    (merged.coRATType, merged.iRATType)
  sgsnMCCMNC : Completes env.coSGSNMCCMNC record.coSGSNMCCMNC merged.coSGSNMCCMNC
  sgsnAddress : Completes env.coSGSNAddress record.coSGSNIPAddr merged.coSGSNAddress
  /-- The routing area, which no record has, stays that of the request. -/
  location : merged.soUsrLoc =
    if env.soUsrLoc.isPresent then env.soUsrLoc
    else ⟨record.coCGI, env.soUsrLoc.coRAI, record.coTAI, record.coECGI⟩

/-- Only the environment of a request is completed. -/
structure RequestCompleted (record : SSessionCache) (req merged : SRequestInfo) : Prop where
  environment :
    EnvironmentCompleted record req.soUserEnvironment merged.soUserEnvironment
  rest : { merged with soUserEnvironment := req.soUserEnvironment } = req

/-- Storing the completed request keeps the RAT-Type that the request carries, in both forms. -/
def RecordsRatType (req : SRequestInfo) (mergedInfo : SSessionInfo) (merged : SRequestInfo) :
    Prop :=
  req.soUserEnvironment.coRATType.isNull = false → mergedInfo.strSessionId ≠ "" →
    ∀ codes pcrfPeerDialectRet parentSessionId caches, ∃ stored,
      ((pcrfSessionCacheInsert codes pcrfPeerDialectRet mergedInfo.strSessionId mergedInfo
          (some merged) parentSessionId).foldl NodeCaches.perform
        caches).sessions.umapSessionCache mergedInfo.strSessionId = some stored ∧
      stored.coRATType = req.soUserEnvironment.coRATType ∧
      stored.iRATType = req.soUserEnvironment.iRATType

/-- `pcrf_session_cache_get` completes what it is given, and a null pointer stays one. -/
structure CompletesRequest (st : SessionCacheState) (sessionId : String) (record : SSessionCache)
    (sessInfo : Option SSessionInfo) (reqInfo : Option SRequestInfo) : Prop where
  found : (pcrfSessionCacheGet st sessionId sessInfo reqInfo).isSome = true
  session : ∀ merged ∈ pcrfSessionCacheGet st sessionId sessInfo reqInfo,
    Option.Rel (SessionCompleted sessionId record) sessInfo merged.1
  request : ∀ merged ∈ pcrfSessionCacheGet st sessionId sessInfo reqInfo,
    Option.Rel (RequestCompleted record) reqInfo merged.2
  stored : ∀ mergedInfo mergedReq,
    pcrfSessionCacheGet st sessionId sessInfo reqInfo = some (some mergedInfo, some mergedReq) →
    ∀ req ∈ reqInfo, RecordsRatType req mergedInfo mergedReq

/-- Where the request carries the text of a type, its number is that of the record. -/
def NumbersAgree (record : SSessionCache) (req : SRequestInfo) : Prop :=
  (req.soUserEnvironment.coIPCANType.isNull = false →
      req.soUserEnvironment.iIPCANType = record.iIPCANType) ∧
    (req.soUserEnvironment.coRATType.isNull = false →
      req.soUserEnvironment.iRATType = record.iRATType)

/-! ### What it does -/

theorem completes_orCached {α : Type} (carried cached : OtlValue α) :
    Completes carried cached (carried.orCached cached) := rfl

theorem sessionCompleted_fillFrom (sessionId : String) (record : SSessionCache)
    (info : SSessionInfo) :
    SessionCompleted sessionId record info (info.fillFrom sessionId record) where
  subscriberId := by
    simp only [SSessionInfo.fillFrom, OtlValue.toOption, OtlValue.isNull]
    by_cases hnull : record.coSubscriberId.null = true
    · simp [hnull]
    · simp [hnull]
  sessionId := by simp [SSessionInfo.fillFrom]
  framedIPAddress := completes_orCached _ _
  calledStationId := completes_orCached _ _
  originHost := completes_orCached _ _
  originRealm := completes_orCached _ _
  imei := completes_orCached _ _
  endUserIMSI := completes_orCached _ _
  endUserE164 := completes_orCached _ _
  rest := rfl

/-- The number always comes from the record. -/
theorem fromOneSide_orCached_iff (carried cached : OtlValue String × Int32) :
    FromOneSide carried cached (carried.1.orCached cached.1, cached.2) ↔
      (carried.1.isNull = false → carried.2 = cached.2) := by
  unfold FromOneSide OtlValue.orCached
  cases carried.1.isNull with
  | true => simp
  | false => simp [Prod.ext_iff, eq_comm]

theorem location_fillFrom (env : SUserEnvironment) (record : SSessionCache) :
    (env.fillFrom record).soUsrLoc =
      if env.soUsrLoc.isPresent then env.soUsrLoc
      else ⟨record.coCGI, env.soUsrLoc.coRAI, record.coTAI, record.coECGI⟩ := by
  have absent : (env.soUsrLoc.coCGI.isNull && env.soUsrLoc.coECGI.isNull &&
      env.soUsrLoc.coTAI.isNull) = !env.soUsrLoc.isPresent := by
    simp only [SUserLocation.isPresent, Bool.not_or, Bool.not_not]
  simp only [SUserEnvironment.fillFrom, absent]
  cases env.soUsrLoc.isPresent with
  | true => rfl
  | false => rfl

theorem requestCompleted_fillFrom_iff (record : SSessionCache) (req : SRequestInfo) :
    RequestCompleted record req (req.fillFrom record) ↔ NumbersAgree record req := by
  constructor
  · rintro ⟨⟨ipcanType, ratType, -, -, -⟩, -⟩
    exact ⟨(fromOneSide_orCached_iff (_, _) (_, _)).mp ipcanType,
      (fromOneSide_orCached_iff (_, _) (_, _)).mp ratType⟩
  · rintro ⟨ipcanType, ratType⟩
    refine ⟨⟨?_, ?_, completes_orCached _ _, completes_orCached _ _, ?_⟩, rfl⟩
    · exact (fromOneSide_orCached_iff (_, _) (_, _)).mpr ipcanType
    · exact (fromOneSide_orCached_iff (_, _) (_, _)).mpr ratType
    · exact location_fillFrom _ _

/-- Whatever the cache held, it then holds the record that was made. -/
theorem sessionCacheInsert_stored {sessionId : String} (hId : sessionId ≠ "") (codes : IpcCodes)
    (pcrfPeerDialectRet : String → String → PeerDialect) (info : SSessionInfo)
    (req : Option SRequestInfo) (parentSessionId : Option String) (caches : NodeCaches) :
    ((pcrfSessionCacheInsert codes pcrfPeerDialectRet sessionId info req
        parentSessionId).foldl NodeCaches.perform caches).sessions.umapSessionCache sessionId =
      some (sessionCacheRecord info req) := by
  have named : sessionId.length ≠ 0 := by simpa using hId
  simp only [pcrfSessionCacheInsert, if_pos named, List.foldl_cons, List.foldl_nil,
    NodeCaches.perform, SessionCacheState.apply]
  cases hs : caches.sessions.umapSessionCache sessionId with
  | some old =>
    rw [insertLocal_cached hs]
    exact if_pos rfl
  | none => simp [pcrfSessionCacheInsertLocal, hs]

theorem recordsRatType_fillFrom (record : SSessionCache) (req : SRequestInfo)
    (info : SSessionInfo) (agree : NumbersAgree record req) :
    RecordsRatType req info (req.fillFrom record) := by
  intro carried hId codes pcrfPeerDialectRet parentSessionId caches
  refine ⟨_, sessionCacheInsert_stored hId _ _ _ _ _ _, ?_, ?_⟩
  · simp [sessionCacheRecord, SRequestInfo.fillFrom, SUserEnvironment.fillFrom,
      OtlValue.orCached, carried]
  · exact (agree.2 carried).symm

theorem completesRequest_iff {st : SessionCacheState} {sessionId : String}
    {record : SSessionCache} (cached : st.umapSessionCache sessionId = some record)
    (sessInfo : Option SSessionInfo) (reqInfo : Option SRequestInfo) :
    CompletesRequest st sessionId record sessInfo reqInfo ↔
      ∀ req ∈ reqInfo, NumbersAgree record req := by
  have get : pcrfSessionCacheGet st sessionId sessInfo reqInfo =
      some (sessInfo.map (·.fillFrom sessionId record), reqInfo.map (·.fillFrom record)) := by
    simp only [pcrfSessionCacheGet, cached, Option.map_some]
  constructor
  · intro completes req hreq
    have request := completes.request _ get
    rw [Option.mem_def.mp hreq] at request
    cases request with
    | some completed => exact (requestCompleted_fillFrom_iff record req).mp completed
  · intro agree
    refine ⟨by simp [get], ?_, ?_, ?_⟩
    · intro merged hmerged
      obtain rfl := Option.some_inj.mp (get.symm.trans hmerged)
      cases sessInfo with
      | none => exact .none
      | some info => exact .some (sessionCompleted_fillFrom sessionId record info)
    · intro merged hmerged
      obtain rfl := Option.some_inj.mp (get.symm.trans hmerged)
      cases reqInfo with
      | none => exact .none
      | some req => exact .some ((requestCompleted_fillFrom_iff record req).mpr (agree req rfl))
    · intro mergedInfo mergedReq hmerged req hreq
      rw [get, Option.some_inj, Prod.mk.injEq, Option.mem_def.mp hreq, Option.map_some,
        Option.some_inj] at hmerged
      rw [← hmerged.2]
      exact recordsRatType_fillFrom record req mergedInfo (agree req hreq)

/-- The record of a session on E-UTRAN. -/
def eutranRecord : SSessionCache := { coRATType := .of "EUTRAN", iRATType := 1004 }

theorem completesRequest_sameAccess :
    CompletesRequest { umapSessionCache := Lib.Store.empty.set "s" eutranRecord } "s"
      eutranRecord (some {})
      (some { soUserEnvironment := { coRATType := .of "EUTRAN", iRATType := 1004 } }) :=
  (completesRequest_iff (by simp) _ _).mpr fun req hreq => by
    obtain rfl := Option.some_inj.mp hreq
    exact ⟨fun h => absurd h (by decide), fun _ => rfl⟩

/-- The session comes to UTRAN: the number of the old access is kept with the text of the new. -/
theorem not_completesRequest_ratChange :
    ¬ ∀ st sessionId record sessInfo reqInfo, st.umapSessionCache sessionId = some record →
      CompletesRequest st sessionId record sessInfo reqInfo := by
  intro completes
  have completed := (completes { umapSessionCache := Lib.Store.empty.set "s" eutranRecord } "s"
    eutranRecord (some {})
    (some { soUserEnvironment := { coRATType := .of "UTRAN", iRATType := 1000 } })
    (by simp)).request _ rfl
  cases completed with
  | some completed =>
    have number := ((requestCompleted_fillFrom_iff _ _).mp completed).2 rfl
    exact absurd number (by decide)

end Pcrf
