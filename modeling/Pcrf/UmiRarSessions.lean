import Pcrf.LinkedSessionsAlone

/-!
`pcrf_send_umi_rar` for the sessions of a subscriber: besides the session, the environment of the
request is carried on, and a session of an unknown peer ends the loop.
-/

namespace Pcrf

open Lib

/-- The location, if there is one. -/
def SUserLocation.present (location : SUserLocation) : Option SUserLocation :=
  if location.isPresent then some location else none

namespace LinkedEnv

variable {env : LinkedEnv} {plistMonitKey front : List String} {sessionId : String}
  {record : SSessionCache}

/-! ### The record of a session -/

/-- The reused record after some sessions. -/
structure UmiCarries (env : LinkedEnv) (plistMonitKey front : List String)
    (soInfo : SMsgDataForDB) : Prop where
  slots : env.CarriesSlots front soInfo.soSessInfo
  bare : { soInfo.soSessInfo.bare with
      uiPeerDialect := .gxUndef
      strSessionId := ""
      strSubscriberId := ""
      mapMonitInfo := [] } = ({} : SSessionInfo)
  keys : MonitInfoMap.insertKeys plistMonitKey soInfo.soSessInfo.mapMonitInfo =
    MonitInfoMap.insertKeys plistMonitKey []
  environment : ∀ slot ∈ environmentSlots,
    (slot.1 soInfo.soReqInfo.soUserEnvironment).toOption = env.earlierValue slot.2 front
  location : soInfo.soReqInfo.soUserEnvironment.soUsrLoc.present = env.earlierLocation front
  rai : soInfo.soReqInfo.soUserEnvironment.soUsrLoc.coRAI = .empty
  request : { soInfo.soReqInfo with soUserEnvironment := {}, vectUsageInfo := [] } =
    ({} : SRequestInfo)

/-- What goes into the request for a session. -/
def umiSent (plistMonitKey : List String) (soInfo : SMsgDataForDB) (sessionId : String)
    (record : SSessionCache) (uiPeerDialect : PeerDialect) : SMsgDataForDB where
  soSessInfo :=
    { soInfo.soSessInfo.fillFrom sessionId record with
      uiPeerDialect
      strSessionId := sessionId
      mapMonitInfo := MonitInfoMap.insertKeys plistMonitKey [] }
  soReqInfo := SRequestInfo.fillFrom { soInfo.soReqInfo with vectUsageInfo := [] } record

theorem umiCarries_nil (env : LinkedEnv) (plistMonitKey : List String) :
    env.UmiCarries plistMonitKey [] { soSessInfo := {}, soReqInfo := {} } where
  slots := env.carriesSlots_nil
  bare := rfl
  keys := rfl
  environment := by
    simp only [environmentSlots, List.forall_mem_cons]
    exact ⟨rfl, rfl, rfl, rfl, fun _ h => absurd h List.not_mem_nil⟩
  location := rfl
  rai := rfl
  request := rfl

/-- The dialect is found without the number of the session. -/
theorem peerDialect_numbered (vectPeerList : List SPeerInfo) (info : SSessionInfo)
    (strSessionId : String) :
    pcrfPeerDialect vectPeerList { info with strSessionId } =
      (pcrfPeerDialect vectPeerList info).map fun info => { info with strSessionId } := by
  rw [pcrfPeerDialect, pcrfPeerDialect, Option.map_map]
  rfl

theorem UmiCarries.umiStep {soInfo : SMsgDataForDB}
    (h : env.UmiCarries plistMonitKey front soInfo)
    (cached : env.sessionCache.umapSessionCache sessionId = some record) :
    env.umiStep plistMonitKey soInfo sessionId =
      (env.dialectAfter front record).map (umiSent plistMonitKey soInfo sessionId record) := by
  have hrecord : env.umiRecord soInfo sessionId =
      { soSessInfo :=
          { soInfo.soSessInfo.fillFrom sessionId record with strSessionId := sessionId }
        soReqInfo :=
          SRequestInfo.fillFrom { soInfo.soReqInfo with vectUsageInfo := [] } record } := by
    simp [umiRecord, SMsgDataForDB.fromCache, pcrfSessionCacheGet, cached]
  rw [LinkedEnv.umiStep, hrecord, peerDialect_numbered, h.slots.peerDialect, Option.map_map,
    Option.map_map]
  refine congrArg (fun f => Option.map f _) (funext fun uiPeerDialect => ?_)
  -- the keys are entered for every session, and are there already
  rw [umiSent, ← h.keys]
  rfl

theorem exists_of_earlierLocation {location : SUserLocation}
    (h : env.earlierLocation front = some location) :
    ∃ first : SSessionCache, first.location = location ∧ location.isPresent = true := by
  obtain ⟨sessionId, -, hfirst⟩ := List.exists_of_findSome?_eq_some h
  obtain ⟨first, -, hlocation⟩ := Option.bind_eq_some_iff.mp hfirst
  split at hlocation
  next hpresent =>
    obtain rfl := Option.some.inj hlocation
    exact ⟨first, rfl, hpresent⟩
  next => cases hlocation

/-- The location is the first that there is. -/
theorem UmiCarries.location_sent {soInfo : SMsgDataForDB}
    (h : env.UmiCarries plistMonitKey front soInfo) (sessionId : String)
    (record : SSessionCache) (uiPeerDialect : PeerDialect) :
    (umiSent plistMonitKey soInfo sessionId record
        uiPeerDialect).soReqInfo.soUserEnvironment.soUsrLoc =
      (env.earlierLocation front).getD record.location := by
  have hrai := h.rai
  have hlocation := location_fillFrom soInfo.soReqInfo.soUserEnvironment record
  rw [hrai] at hlocation
  rw [← h.location]
  refine hlocation.trans ?_
  unfold SUserLocation.present
  split
  · rfl
  · rfl

theorem UmiCarries.sent {soInfo : SMsgDataForDB} (h : env.UmiCarries plistMonitKey front soInfo)
    (cached : env.sessionCache.umapSessionCache sessionId = some record)
    (uiPeerDialect : PeerDialect) :
    env.UmiCarries plistMonitKey (front ++ [sessionId])
      (umiSent plistMonitKey soInfo sessionId record uiPeerDialect) where
  slots := by
    intro slot hslot
    rw [← h.slots.fillFrom cached slot hslot]
    exact congrArg OtlValue.toOption (slot_numbered _ uiPeerDialect sessionId
      (MonitInfoMap.insertKeys plistMonitKey []) slot hslot)
  bare := by
    have hbare := h.bare
    exact hbare
  keys := (show MonitInfoMap.Sorted [] from List.Pairwise.nil).insertKeys_again plistMonitKey
  environment := by
    intro slot hslot
    have hfilled := slot_fillFrom_request soInfo.soReqInfo.soUserEnvironment record slot hslot
    rw [earlierValue, earlier_snoc cached, ← earlierValue, ← h.environment slot hslot,
      ← OtlValue.orCached_toOption, ← hfilled]
    rfl
  location := by
    rw [h.location_sent, earlierLocation, earlier_snoc cached, ← earlierLocation]
    cases hfirst : env.earlierLocation front with
    | some location =>
      obtain ⟨first, rfl, hpresent⟩ := exists_of_earlierLocation hfirst
      exact if_pos hpresent
    | none => rfl
  rai := by
    rw [h.location_sent]
    cases hfirst : env.earlierLocation front with
    | some location =>
      obtain ⟨first, rfl, -⟩ := exists_of_earlierLocation hfirst
      rfl
    | none => rfl
  request := by
    have hrequest := h.request
    exact hrequest

theorem UmiCarries.session_eq_iff {soInfo : SMsgDataForDB}
    (h : env.UmiCarries plistMonitKey front soInfo) (sessionId : String)
    (record : SSessionCache) (uiPeerDialect alone : PeerDialect) :
    (umiSent plistMonitKey soInfo sessionId record uiPeerDialect).soSessInfo =
        (umiSent plistMonitKey { soSessInfo := {}, soReqInfo := {} } sessionId record
          alone).soSessInfo ↔
      uiPeerDialect = alone ∧ env.Spares (sessionSlots.map Prod.snd) front record := by
  rw [SSessionInfo.eq_iff_slots, ← h.slots.slots_eq_iff sessionId record]
  refine and_congr ?_ (forall_congr' fun slot => imp_congr_right fun hslot => ?_)
  · have bare (soInfo : SMsgDataForDB) (uiPeerDialect : PeerDialect)
        (hbare : { soInfo.soSessInfo.bare with
          uiPeerDialect := .gxUndef
          strSessionId := ""
          strSubscriberId := ""
          mapMonitInfo := [] } = ({} : SSessionInfo)) :
        (umiSent plistMonitKey soInfo sessionId record uiPeerDialect).soSessInfo.bare =
          { uiPeerDialect
            strSessionId := sessionId
            strSubscriberId :=
              if record.coSubscriberId.isNull then "" else record.coSubscriberId.v
            mapMonitInfo := MonitInfoMap.insertKeys plistMonitKey [] } :=
      congrArg (fun rest : SSessionInfo =>
        { rest with
          uiPeerDialect
          strSessionId := sessionId
          strSubscriberId :=
            if record.coSubscriberId.isNull then "" else record.coSubscriberId.v
          mapMonitInfo := MonitInfoMap.insertKeys plistMonitKey [] }) hbare
    rw [bare soInfo uiPeerDialect h.bare, bare { soSessInfo := {}, soReqInfo := {} } alone rfl]
    simp
  · have numbered (info : SSessionInfo) (uiPeerDialect : PeerDialect) :=
      slot_numbered (info.fillFrom sessionId record) uiPeerDialect sessionId
        (MonitInfoMap.insertKeys plistMonitKey []) slot hslot
    exact Eq.congr (numbered soInfo.soSessInfo uiPeerDialect) (numbered {} alone)

/-- The environment is what it would be if the session were alone. -/
theorem UmiCarries.environment_eq_iff {soInfo : SMsgDataForDB}
    (h : env.UmiCarries plistMonitKey front soInfo) (sessionId : String)
    (record : SSessionCache) (uiPeerDialect alone : PeerDialect) :
    (umiSent plistMonitKey soInfo sessionId record uiPeerDialect).soReqInfo =
        (umiSent plistMonitKey { soSessInfo := {}, soReqInfo := {} } sessionId record
          alone).soReqInfo ↔
      env.Spares (environmentSlots.map Prod.snd) front record ∧
        ∀ location ∈ env.earlierLocation front, location = record.location := by
  have request (soInfo : SMsgDataForDB) (uiPeerDialect : PeerDialect)
      (hrequest : { soInfo.soReqInfo with soUserEnvironment := {}, vectUsageInfo := [] } =
        ({} : SRequestInfo)) :
      (umiSent plistMonitKey soInfo sessionId record uiPeerDialect).soReqInfo =
        { soUserEnvironment := soInfo.soReqInfo.soUserEnvironment.fillFrom record } :=
    congrArg (fun rest : SRequestInfo =>
      { rest with
        soUserEnvironment := soInfo.soReqInfo.soUserEnvironment.fillFrom record }) hrequest
  have hlocation := h.location_sent sessionId record uiPeerDialect
  have halone := (umiCarries_nil env plistMonitKey).location_sent sessionId record alone
  rw [request soInfo uiPeerDialect h.request] at hlocation ⊢
  rw [request { soSessInfo := {}, soReqInfo := {} } alone rfl] at halone ⊢
  simp only [SRequestInfo.mk.injEq, true_and, and_true]
  rw [SUserEnvironment.eq_iff_slots, hlocation, halone]
  refine and_congr ?_ ⟨fun hsame location hfirst => ?_, fun hsame => ⟨rfl, rfl, ?_⟩⟩
  · simp only [Spares, List.forall_mem_map]
    refine forall_congr' fun slot => imp_congr_right fun hslot => ?_
    rw [slot_fillFrom_request _ _ slot hslot, slot_fillFrom_request _ _ slot hslot,
      environmentSlot_empty slot hslot, ← h.environment slot hslot]
    exact OtlValue.orCached_eq_iff ..
  · have hlocation := hsame.2.2
    rw [Option.mem_def.mp hfirst] at hlocation
    exact hlocation
  · cases hfirst : env.earlierLocation front with
    | some location => exact hsame location hfirst
    | none => rfl

/-! ### The loop -/

/-- The peer of the session is configured. -/
def Known (env : LinkedEnv) (sessionId : String) : Prop :=
  ∀ record, env.sessionCache.umapSessionCache sessionId = some record →
    env.dialectAfter [] record ≠ none

/-- The session with a record of a configured peer is known. -/
theorem known_of_cached (cached : env.sessionCache.umapSessionCache sessionId = some record)
    (hpeer : env.dialectAfter [] record ≠ none) : env.Known sessionId := by
  intro other hother
  obtain rfl := Option.some.inj (cached.symm.trans hother)
  exact hpeer

theorem forall_known_snoc (hreached : ∀ earlier ∈ front, env.Known earlier)
    (known : env.Known sessionId) : ∀ earlier ∈ front ++ [sessionId], env.Known earlier := by
  rw [List.forall_mem_append]
  exact ⟨hreached, fun earlier hearlier => List.mem_singleton.mp hearlier ▸ known⟩

/-- The request for the session is the one for it alone. -/
structure UmiAlike (env : LinkedEnv) (front : List String) (record : SSessionCache) : Prop where
  known : env.dialectAfter [] record ≠ none → (∀ earlier ∈ front, env.Known earlier) ∧
    env.Spares (sessionSlots.map Prod.snd) front record ∧
    env.Spares (environmentSlots.map Prod.snd) front record ∧
    ∀ location ∈ env.earlierLocation front, location = record.location
  unknown : env.dialectAfter [] record = none → (∀ earlier ∈ front, env.Known earlier) →
    env.dialectAfter front record = none

/-- The session is not taken for one of another peer. -/
theorem dialectAfter_of_spares (h : env.Spares (sessionSlots.map Prod.snd) front record) :
    env.dialectAfter front record = env.dialectAfter [] record := by
  have spared (field : SSessionCache → OtlValue String)
      (hfield : field ∈ sessionSlots.map Prod.snd) :
      (env.earlierValue field front).getD (field record).v = (field record).v := by
    cases hfirst : env.earlierValue field front with
    | none => rfl
    | some value => exact (OtlValue.toOption_eq_some.mp (h field hfield value hfirst)).2.symm
  have host := spared (fun record => record.coOriginHost) (.tail _ (.tail _ (.head _)))
  have realm := spared (fun record => record.coOriginRealm)
    (.tail _ (.tail _ (.tail _ (.head _))))
  simp only [dialectAfter, host, realm]
  rfl

/-- What is called for a session that is the only one. -/
def umiCalls (env : LinkedEnv) (plistMonitKey : List String) (sessionId : String) :
    List SessionCall :=
  (env.umiStep plistMonitKey { soSessInfo := {}, soReqInfo := {} } sessionId).elim []
    fun soInfo => [.gxRar soInfo.soSessInfo soInfo.soReqInfo]

variable {gxRar : SMsgDataForDB → Int}

theorem umiLoop_singleton (iRetVal : Int) (sessionId : String) :
    (env.umiLoop gxRar plistMonitKey iRetVal { soSessInfo := {}, soReqInfo := {} }
      [sessionId]).2 = [env.umiCalls plistMonitKey sessionId] := by
  simp only [umiLoop, umiCalls]
  cases env.umiStep plistMonitKey { soSessInfo := {}, soReqInfo := {} } sessionId with
  | none => rfl
  | some soInfo => rfl

theorem umiCalls_of_cached (plistMonitKey : List String)
    (cached : env.sessionCache.umapSessionCache sessionId = some record) :
    env.umiCalls plistMonitKey sessionId =
      (env.dialectAfter [] record).elim [] fun uiPeerDialect =>
        let sent := umiSent plistMonitKey { soSessInfo := {}, soReqInfo := {} } sessionId record
          uiPeerDialect
        [.gxRar sent.soSessInfo sent.soReqInfo] := by
  rw [umiCalls, (umiCarries_nil env plistMonitKey).umiStep cached]
  cases env.dialectAfter [] record with
  | none => rfl
  | some uiPeerDialect => rfl

/-- After the end of the loop the sessions should be those for which nothing is called. -/
theorem stopped_iff {list : List String} (hstop : ¬∀ earlier ∈ front, env.Known earlier)
    (cached : ∀ sessionId ∈ list, (env.sessionCache.umapSessionCache sessionId).isSome) :
    (list.map fun _ => []) = list.map (env.umiCalls plistMonitKey) ↔
      env.EachAfter (fun front _ record => env.UmiAlike front record) front list := by
  induction list generalizing front with
  | nil => simp [EachAfter]
  | cons sessionId rest ih =>
    obtain ⟨hfirst, hrest⟩ := List.forall_mem_cons.mp cached
    obtain ⟨record, hrecord⟩ := Option.isSome_iff_exists.mp hfirst
    have hstop' : ¬∀ earlier ∈ front ++ [sessionId], env.Known earlier := fun h =>
      hstop fun earlier hearlier => h earlier (List.mem_append_left _ hearlier)
    have halike : env.UmiAlike front record ↔ [] = env.umiCalls plistMonitKey sessionId := by
      rw [umiCalls_of_cached plistMonitKey hrecord]
      cases halone : env.dialectAfter [] record with
      | none => exact iff_of_true ⟨fun h => absurd halone h, fun _ h => absurd h hstop⟩ rfl
      | some uiPeerDialect =>
        refine iff_of_false (fun alike => hstop (alike.known ?_).1) (List.cons_ne_nil _ _).symm
        rw [halone]
        exact Option.some_ne_none _
    rw [eachAfter_cons_iff hrecord, halike, ← ih hstop' hrest]
    exact List.cons_eq_cons

/-- Two known dialects: the calls differ in what is left over. -/
theorem UmiCarries.call_alike_iff {soInfo : SMsgDataForDB}
    (h : env.UmiCarries plistMonitKey front soInfo)
    (hreached : ∀ earlier ∈ front, env.Known earlier) (sessionId : String)
    {uiPeerDialect alone : PeerDialect}
    (hafter : env.dialectAfter front record = some uiPeerDialect)
    (halone : env.dialectAfter [] record = some alone) :
    let sent := umiSent plistMonitKey soInfo sessionId record uiPeerDialect
    let own := umiSent plistMonitKey { soSessInfo := {}, soReqInfo := {} } sessionId record alone
    [SessionCall.gxRar sent.soSessInfo sent.soReqInfo] =
        [SessionCall.gxRar own.soSessInfo own.soReqInfo] ↔ env.UmiAlike front record := by
  intro sent own
  have hknown : env.dialectAfter [] record ≠ none := by
    rw [halone]
    exact Option.some_ne_none _
  rw [List.singleton_inj, SessionCall.gxRar.injEq, h.session_eq_iff, h.environment_eq_iff]
  constructor
  · rintro ⟨⟨-, hsession⟩, hrequest⟩
    exact ⟨fun _ => ⟨hreached, hsession, hrequest⟩, fun hnone => absurd hnone hknown⟩
  · intro alike
    obtain ⟨-, hsession, hrequest⟩ := alike.known hknown
    have hsame := dialectAfter_of_spares hsession
    rw [hafter, halone] at hsame
    exact ⟨⟨Option.some.inj hsame, hsession⟩, hrequest⟩

theorem umiLoop_alone_iff {soInfo : SMsgDataForDB}
    (h : env.UmiCarries plistMonitKey front soInfo)
    (hreached : ∀ earlier ∈ front, env.Known earlier) {list : List String}
    (cached : ∀ sessionId ∈ list, (env.sessionCache.umapSessionCache sessionId).isSome)
    (iRetVal : Int) :
    (env.umiLoop gxRar plistMonitKey iRetVal soInfo list).2 =
        list.map (env.umiCalls plistMonitKey) ↔
      env.EachAfter (fun front _ record => env.UmiAlike front record) front list := by
  induction list generalizing front soInfo iRetVal with
  | nil => simp [umiLoop, EachAfter]
  | cons sessionId rest ih =>
    obtain ⟨hfirst, hrest⟩ := List.forall_mem_cons.mp cached
    obtain ⟨record, hrecord⟩ := Option.isSome_iff_exists.mp hfirst
    have hcalls := umiCalls_of_cached plistMonitKey hrecord
    rw [eachAfter_cons_iff hrecord, List.map_cons]
    cases hafter : env.dialectAfter front record with
    | none =>
      have hloop : (env.umiLoop gxRar plistMonitKey iRetVal soInfo (sessionId :: rest)).2 =
          [] :: rest.map fun _ => [] := by
        simp only [umiLoop, h.umiStep hrecord, hafter, Option.map_none]
      rw [hloop, List.cons_eq_cons, hcalls]
      cases halone : env.dialectAfter [] record with
      | none =>
        -- the loop ends at a session for which nothing is to be called
        have hunknown : ¬∀ earlier ∈ front ++ [sessionId], env.Known earlier := fun hknown =>
          hknown sessionId (by simp) record hrecord halone
        rw [stopped_iff hunknown hrest]
        refine and_congr_left fun _ => iff_of_true rfl ⟨fun h => absurd halone h, fun _ _ => hafter⟩
      | some alone =>
        refine iff_of_false (fun hsame => List.cons_ne_nil _ _ hsame.1.symm) fun alike => ?_
        have hknown := alike.1.known (by simp [halone])
        rw [dialectAfter_of_spares hknown.2.1, halone] at hafter
        cases hafter
    | some uiPeerDialect =>
      have hloop : (env.umiLoop gxRar plistMonitKey iRetVal soInfo (sessionId :: rest)).2 =
          let sent := umiSent plistMonitKey soInfo sessionId record uiPeerDialect
          [.gxRar sent.soSessInfo sent.soReqInfo] ::
            (env.umiLoop gxRar plistMonitKey (gxRar sent) sent rest).2 := by
        simp only [umiLoop, h.umiStep hrecord, hafter, Option.map_some]
      rw [hloop, List.cons_eq_cons, hcalls]
      cases halone : env.dialectAfter [] record with
      | none =>
        refine iff_of_false (fun hsame => List.cons_ne_nil _ _ hsame.1) fun alike => ?_
        have hunknown := alike.1.unknown halone hreached
        rw [hafter] at hunknown
        cases hunknown
      | some alone =>
        have known : env.Known sessionId := known_of_cached hrecord (by simp [halone])
        exact and_congr (h.call_alike_iff hreached sessionId hafter halone)
          (ih (h.sent hrecord uiPeerDialect) (forall_known_snoc hreached known) hrest _)

/-! ### The three loops -/

/-- The calls for each session of a list are those for a list with this session alone. -/
structure HandledAlone (env : LinkedEnv) (list : List String) : Prop where
  terminate : env.terminateLoop list = list.flatMap fun sessionId => env.terminateLoop [sessionId]
  ruleReport : ∀ vectRuleReport, env.ruleReportLoop vectRuleReport list =
    list.flatMap fun sessionId => env.ruleReportLoop vectRuleReport [sessionId]
  umiRar : ∀ gxRar plistMonitKey,
    (env.umiLoop gxRar plistMonitKey 0 { soSessInfo := {}, soReqInfo := {} } list).2 =
      list.flatMap fun sessionId =>
        (env.umiLoop gxRar plistMonitKey 0 { soSessInfo := {}, soReqInfo := {} } [sessionId]).2

/-- Nothing that the sessions before a session leave over is taken for its own. -/
structure NothingLeftOver (env : LinkedEnv) (list : List String) : Prop where
  linked : env.EachAfter (env.LinkedAlike true) [] list
  umi : env.EachAfter (fun front _ record => env.UmiAlike front record) [] list

theorem LinkedAlike.ruleReport (h : env.LinkedAlike true front sessionId record) :
    env.LinkedAlike false front sessionId record :=
  ⟨h.rx, fun hprocera => absurd hprocera Bool.false_ne_true, h.own⟩

/-- The three loops handle every session with its own data exactly when nothing is left over for
it. -/
theorem handledAlone_iff {list : List String}
    (cached : ∀ sessionId ∈ list, (env.sessionCache.umapSessionCache sessionId).isSome) :
    env.HandledAlone list ↔ env.NothingLeftOver list := by
  have terminate : env.terminateLoop list =
      (list.flatMap fun sessionId => env.terminateLoop [sessionId]) ↔
        env.EachAfter (env.LinkedAlike true) [] list :=
    linkedLoop_alone_iff true (fun _ _ h => SessionCall.appRxOperateFailedBearer.inj h)
      (fun _ _ => SessionCall.noConfusion) env.carries_nil cached
  have ruleReport (vectRuleReport : List SSessionPolicyInfo) :
      env.ruleReportLoop vectRuleReport list =
        (list.flatMap fun sessionId => env.ruleReportLoop vectRuleReport [sessionId]) ↔
          env.EachAfter (env.LinkedAlike false) [] list :=
    linkedLoop_alone_iff false (fun _ _ h => (SessionCall.appRxOperateFailedRule.inj h).1)
      (fun _ _ => SessionCall.noConfusion) env.carries_nil cached
  have umiRar (gxRar : SMsgDataForDB → Int) (plistMonitKey : List String) :
      (env.umiLoop gxRar plistMonitKey 0 { soSessInfo := {}, soReqInfo := {} } list).2 =
        (list.flatMap fun sessionId =>
          (env.umiLoop gxRar plistMonitKey 0 { soSessInfo := {}, soReqInfo := {} }
            [sessionId]).2) ↔
        env.EachAfter (fun front _ record => env.UmiAlike front record) [] list := by
    simp only [umiLoop_singleton, ← List.map_eq_flatMap]
    exact umiLoop_alone_iff (umiCarries_nil env plistMonitKey)
      (fun _ h => absurd h List.not_mem_nil) cached 0
  constructor
  · intro h
    exact ⟨terminate.mp h.terminate, (umiRar (fun _ => 0) []).mp (h.umiRar _ _)⟩
  · intro h
    refine ⟨terminate.mpr h.linked, fun vectRuleReport => (ruleReport vectRuleReport).mpr ?_,
      fun gxRar plistMonitKey => (umiRar gxRar plistMonitKey).mpr h.umi⟩
    exact fun pre sessionId post heq record hrecord =>
      (h.linked pre sessionId post heq record hrecord).ruleReport

end LinkedEnv

/-- Two sessions of different Rx peers. -/
def twoRxEnv : LinkedEnv where
  sessionCache :=
    { umapSessionCache :=
        (Store.set Store.empty "rx;1"
          { coOriginHost := .of "af1", coOriginRealm := .of "net" }).set
          "rx;2" { coOriginHost := .of "af2", coOriginRealm := .of "net" } }
  vectPeerList :=
    [{ coHostName := .of "af1", coHostReal := .of "net", uiPeerDialect := .rxIms },
     { coHostName := .of "af2", coHostReal := .of "net", uiPeerDialect := .rxIms }]

/-- Both calls of `pcrf_linked_session_terminate` are for the first session. -/
theorem not_handledAlone_twoRx :
    (∀ sessionId ∈ ["rx;1", "rx;2"],
        (twoRxEnv.sessionCache.umapSessionCache sessionId).isSome) ∧
      ¬twoRxEnv.HandledAlone ["rx;1", "rx;2"] := by
  refine ⟨by decide, fun h => ?_⟩
  exact absurd h.terminate (by decide)

/-- The record of a session of a UGW. -/
def ugwRecord : SSessionCache := { coOriginHost := .of "ugw", coOriginRealm := .of "net" }

/-- Two sessions that have the same data. -/
def oneUgwEnv : LinkedEnv where
  sessionCache :=
    { umapSessionCache := (Store.set Store.empty "gx;1" ugwRecord).set "gx;2" ugwRecord }
  vectPeerList :=
    [{ coHostName := .of "ugw", coHostReal := .of "net", uiPeerDialect := .gxHwUgw }]

theorem handledAlone_oneUgw : oneUgwEnv.HandledAlone ["gx;1", "gx;2"] := by
  have first : oneUgwEnv.sessionCache.umapSessionCache "gx;1" = some ugwRecord := by decide
  have second : oneUgwEnv.sessionCache.umapSessionCache "gx;2" = some ugwRecord := by decide
  have ended {P : List String → String → SSessionCache → Prop} {front : List String} :
      oneUgwEnv.EachAfter P front [] := fun pre _ _ heq => by simp at heq
  have alone : oneUgwEnv.dialectAfter [] ugwRecord = some .gxHwUgw := by decide
  have after : oneUgwEnv.dialectAfter ["gx;1"] ugwRecord = some .gxHwUgw := by decide
  have known : ∀ earlier ∈ ["gx;1"], oneUgwEnv.Known earlier := by
    intro earlier hearlier record hrecord
    rw [List.mem_singleton.mp hearlier, first, Option.some_inj] at hrecord
    rw [← hrecord, alone]
    exact Option.some_ne_none _
  refine (LinkedEnv.handledAlone_iff (by decide)).mpr ⟨?_, ?_⟩
  · refine (LinkedEnv.eachAfter_cons_iff first).mpr
      ⟨⟨Iff.rfl, fun _ => Iff.rfl, ?_⟩, (LinkedEnv.eachAfter_cons_iff second).mpr
        ⟨⟨?_, fun _ => ?_, ?_⟩, ended⟩⟩
    · simp [alone]
    · simp [alone, after]
    · simp [alone, after]
    · simp [alone]
  · refine (LinkedEnv.eachAfter_cons_iff first).mpr
      ⟨⟨fun _ => ⟨by simp, ?_, ?_, by decide⟩, fun h _ => h⟩,
        (LinkedEnv.eachAfter_cons_iff second).mpr
          ⟨⟨fun _ => ⟨known, ?_, ?_, by decide⟩, fun h => ?_⟩, ended⟩⟩
    · decide
    · decide
    · decide
    · decide
    · simp [alone] at h

end Pcrf
