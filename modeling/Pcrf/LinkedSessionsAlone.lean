import Pcrf.LinkedSessions
import Pcrf.SessionMerge

/-!
When the loops over linked sessions and over the sessions of a subscriber make the calls for each
session that they would make if it were the only one.
-/

namespace Pcrf

open Lib

/-! ### Completing a record that is not empty -/

namespace OtlValue

variable {α : Type}

theorem orCached_toOption (value cached : OtlValue α) :
    (value.orCached cached).toOption = value.toOption.or cached.toOption := by
  unfold orCached toOption isNull
  cases hnull : value.null with
  | true => rfl
  | false => simp [hnull]

theorem orCached_v (value cached : OtlValue α) :
    (value.orCached cached).v = value.toOption.getD cached.v := by
  unfold orCached toOption isNull
  cases value.null with
  | true => rfl
  | false => rfl

/-- What is there already is what would have been taken. -/
theorem orCached_eq_iff (value cached : OtlValue α) :
    value.orCached cached = cached ↔ ∀ a ∈ value.toOption, cached.toOption = some a := by
  obtain ⟨v, null⟩ := value
  cases null with
  | true => simp [orCached, toOption, isNull]
  | false =>
    have htaken : orCached ⟨v, false⟩ cached = ⟨v, false⟩ := rfl
    have hvalue : toOption ⟨v, false⟩ = some v := rfl
    simp only [htaken, hvalue, Option.mem_some_iff, forall_eq', toOption_eq_some]
    constructor
    · rintro rfl
      exact ⟨rfl, rfl⟩
    · obtain ⟨v', null'⟩ := cached
      rintro ⟨hnull, rfl⟩
      exact congrArg (mk v') hnull.symm

end OtlValue

/-- The values of a session that are taken from its record when they are missing. -/
def sessionSlots : List ((SSessionInfo → OtlValue String) × (SSessionCache → OtlValue String)) :=
  [(fun info => info.coFramedIPAddress, fun record => record.coFramedIPAddr),
   (fun info => info.coCalledStationId, fun record => record.coCalledStationId),
   (fun info => info.coOriginHost, fun record => record.coOriginHost),
   (fun info => info.coOriginRealm, fun record => record.coOriginRealm),
   (fun info => info.coIMEI, fun record => record.coIMEISV),
   (fun info => info.soSubscriptionData.coEndUserIMSI, fun record => record.coEndUserIMSI),
   (fun info => info.soSubscriptionData.coEndUserE164, fun record => record.coEndUserE164)]

/-- The same of a request, without the location. -/
def environmentSlots :
    List ((SUserEnvironment → OtlValue String) × (SSessionCache → OtlValue String)) :=
  [(fun env => env.coIPCANType, fun record => record.coIPCANType),
   (fun env => env.coSGSNMCCMNC, fun record => record.coSGSNMCCMNC),
   (fun env => env.coSGSNAddress, fun record => record.coSGSNIPAddr),
   (fun env => env.coRATType, fun record => record.coRATType)]

/-- The values of a session that no record has, and its numbers. -/
def SSessionInfo.bare (info : SSessionInfo) : SSessionInfo :=
  { uiPeerDialect := info.uiPeerDialect
    strSessionId := info.strSessionId
    strSubscriberId := info.strSubscriberId
    soSubscriptionData :=
      { info.soSubscriptionData with coEndUserIMSI := .empty, coEndUserE164 := .empty }
    mapMonitInfo := info.mapMonitInfo }

theorem SSessionInfo.eq_iff_slots (info info' : SSessionInfo) :
    info = info' ↔ info.bare = info'.bare ∧ ∀ slot ∈ sessionSlots, slot.1 info = slot.1 info' := by
  constructor
  · rintro rfl
    exact ⟨rfl, fun _ _ => rfl⟩
  · rintro ⟨hbare, hslots⟩
    obtain ⟨_, _, _, _, _, ⟨_, _, _, _, _⟩, _, _, _, _⟩ := info
    obtain ⟨_, _, _, _, _, ⟨_, _, _, _, _⟩, _, _, _, _⟩ := info'
    simp_all [sessionSlots, bare]

theorem SUserEnvironment.eq_iff_slots (env env' : SUserEnvironment) :
    env = env' ↔ (∀ slot ∈ environmentSlots, slot.1 env = slot.1 env') ∧
      env.iRATType = env'.iRATType ∧ env.iIPCANType = env'.iIPCANType ∧
      env.soUsrLoc = env'.soUsrLoc := by
  constructor
  · rintro rfl
    exact ⟨fun _ _ => rfl, rfl, rfl, rfl⟩
  · rintro ⟨hslots, hrat, hipcan, hlocation⟩
    obtain ⟨_, _, _, _, _, _, _⟩ := env
    obtain ⟨_, _, _, _, _, _, _⟩ := env'
    simp_all [environmentSlots]

theorem slot_fillFrom (info : SSessionInfo) (sessionId : String) (record : SSessionCache) :
    ∀ slot ∈ sessionSlots,
      slot.1 (info.fillFrom sessionId record) = (slot.1 info).orCached (slot.2 record) := by
  simp only [sessionSlots, List.forall_mem_cons]
  exact ⟨rfl, rfl, rfl, rfl, rfl, rfl, rfl, fun _ h => absurd h List.not_mem_nil⟩

theorem slot_empty : ∀ slot ∈ sessionSlots, slot.1 {} = .empty := by
  simp [sessionSlots]

/-- The slots are not where the numbers of a session are. -/
theorem slot_numbered (info : SSessionInfo) (uiPeerDialect : PeerDialect)
    (strSessionId : String) (mapMonitInfo : MonitInfoMap) :
    ∀ slot ∈ sessionSlots,
      slot.1 { info with uiPeerDialect, strSessionId, mapMonitInfo } = slot.1 info := by
  simp [sessionSlots]

theorem bare_fillFrom (info : SSessionInfo) (sessionId : String) (record : SSessionCache) :
    (info.fillFrom sessionId record).bare =
      { info.bare with
        strSessionId := if info.strSessionId = "" then sessionId else info.strSessionId
        strSubscriberId := record.coSubscriberId.toOption.getD "" } := by
  have completed := sessionCompleted_fillFrom sessionId record info
  rw [← completed.subscriberId, ← completed.sessionId]
  rfl

theorem slot_fillFrom_request (env : SUserEnvironment) (record : SSessionCache) :
    ∀ slot ∈ environmentSlots,
      slot.1 (env.fillFrom record) = (slot.1 env).orCached (slot.2 record) := by
  simp only [environmentSlots, List.forall_mem_cons]
  exact ⟨rfl, rfl, rfl, rfl, fun _ h => absurd h List.not_mem_nil⟩

theorem environmentSlot_empty : ∀ slot ∈ environmentSlots, slot.1 {} = .empty := by
  simp [environmentSlots]

/-! ### What is left over -/

/-- The location that a record has. -/
def SSessionCache.location (record : SSessionCache) : SUserLocation :=
  { coCGI := record.coCGI, coTAI := record.coTAI, coECGI := record.coECGI }

namespace LinkedEnv

/-- The first that the records of some sessions have of something. -/
def earlier {α : Type} (env : LinkedEnv) (field : SSessionCache → Option α)
    (front : List String) : Option α :=
  front.findSome? fun sessionId => (env.sessionCache.umapSessionCache sessionId).bind field

def earlierValue (env : LinkedEnv) (field : SSessionCache → OtlValue String) :
    List String → Option String :=
  env.earlier fun record => (field record).toOption

def earlierLocation (env : LinkedEnv) : List String → Option SUserLocation :=
  env.earlier fun record => if record.location.isPresent then some record.location else none

/-- The first of some sessions that has a number and a record. -/
def earlierId (env : LinkedEnv) (front : List String) : Option String :=
  front.find? fun sessionId =>
    (env.sessionCache.umapSessionCache sessionId).isSome && sessionId ≠ ""

/-- What the sessions before have in these fields, the record of the session has too. -/
def Spares (env : LinkedEnv) (fields : List (SSessionCache → OtlValue String))
    (front : List String) (record : SSessionCache) : Prop :=
  ∀ field ∈ fields, ∀ value ∈ env.earlierValue field front, (field record).toOption = some value

instance (env : LinkedEnv) (fields : List (SSessionCache → OtlValue String))
    (front : List String) (record : SSessionCache) : Decidable (env.Spares fields front record) :=
  inferInstanceAs (Decidable (∀ field ∈ fields, ∀ value ∈ env.earlierValue field front,
    (field record).toOption = some value))

/-- The dialect that a session is taken to have after others. -/
def dialectAfter (env : LinkedEnv) (front : List String) (record : SSessionCache) :
    Option PeerDialect :=
  (findPeer env.vectPeerList
    ((env.earlierValue (fun record => record.coOriginHost) front).getD record.coOriginHost.v)
    ((env.earlierValue (fun record => record.coOriginRealm) front).getD
      record.coOriginRealm.v)).map fun peer => peer.uiPeerDialect

variable {env : LinkedEnv} {front : List String} {sessionId : String} {record : SSessionCache}

theorem earlier_snoc {α : Type} {field : SSessionCache → Option α}
    (cached : env.sessionCache.umapSessionCache sessionId = some record) :
    env.earlier field (front ++ [sessionId]) = (env.earlier field front).or (field record) := by
  simp [earlier, List.findSome?_append, cached]

/-- The slots of the reused record hold what the sessions before have. -/
def CarriesSlots (env : LinkedEnv) (front : List String) (info : SSessionInfo) : Prop :=
  ∀ slot ∈ sessionSlots, (slot.1 info).toOption = env.earlierValue slot.2 front

theorem CarriesSlots.fillFrom {info : SSessionInfo} (h : env.CarriesSlots front info)
    (cached : env.sessionCache.umapSessionCache sessionId = some record) :
    env.CarriesSlots (front ++ [sessionId]) (info.fillFrom sessionId record) := by
  intro slot hslot
  rw [slot_fillFrom info sessionId record slot hslot, OtlValue.orCached_toOption, h slot hslot,
    earlierValue, earlier_snoc cached]

/-- Completed from its record, the session is as it would be alone, where it is spared. -/
theorem CarriesSlots.slots_eq_iff {info : SSessionInfo} (h : env.CarriesSlots front info)
    (sessionId : String) (record : SSessionCache) :
    (∀ slot ∈ sessionSlots, slot.1 (info.fillFrom sessionId record) =
        slot.1 (({} : SSessionInfo).fillFrom sessionId record)) ↔
      env.Spares (sessionSlots.map Prod.snd) front record := by
  have halone : ∀ slot ∈ sessionSlots,
      slot.1 (({} : SSessionInfo).fillFrom sessionId record) = slot.2 record := by
    intro slot hslot
    rw [slot_fillFrom _ _ _ slot hslot, slot_empty slot hslot]
    rfl
  simp only [Spares, List.forall_mem_map]
  refine forall_congr' fun slot => imp_congr_right fun hslot => ?_
  rw [halone slot hslot, slot_fillFrom info _ _ slot hslot, OtlValue.orCached_eq_iff, h slot hslot]

theorem carriesSlots_nil (env : LinkedEnv) : env.CarriesSlots [] {} := by
  intro slot hslot
  rw [slot_empty slot hslot]
  rfl

theorem CarriesSlots.peerDialect {info : SSessionInfo} (h : env.CarriesSlots front info)
    (sessionId : String) (record : SSessionCache) :
    pcrfPeerDialect env.vectPeerList (info.fillFrom sessionId record) =
      (env.dialectAfter front record).map fun uiPeerDialect =>
        { info.fillFrom sessionId record with uiPeerDialect } := by
  have host : (info.fillFrom sessionId record).coOriginHost.v =
      (env.earlierValue (fun record => record.coOriginHost) front).getD record.coOriginHost.v := by
    have hslot := h (fun info => info.coOriginHost, fun record => record.coOriginHost)
      (.tail _ (.tail _ (.head _)))
    rw [← hslot]
    exact OtlValue.orCached_v ..
  have realm : (info.fillFrom sessionId record).coOriginRealm.v =
      (env.earlierValue (fun record => record.coOriginRealm) front).getD
        record.coOriginRealm.v := by
    have hslot := h (fun info => info.coOriginRealm, fun record => record.coOriginRealm)
      (.tail _ (.tail _ (.tail _ (.head _))))
    rw [← hslot]
    exact OtlValue.orCached_v ..
  rw [pcrfPeerDialect, dialectAfter, host, realm, Option.map_map]
  rfl

/-! ### The loops over linked sessions -/

/-- The reused record after some sessions: nothing is in it but what they have. -/
structure Carries (env : LinkedEnv) (front : List String) (info : SSessionInfo) : Prop where
  slots : env.CarriesSlots front info
  sessionId : info.strSessionId = (env.earlierId front).getD ""
  bare : { info.bare with uiPeerDialect := .gxUndef, strSessionId := "", strSubscriberId := "" } =
    ({} : SSessionInfo)

theorem carries_nil (env : LinkedEnv) : env.Carries [] {} := ⟨env.carriesSlots_nil, rfl, rfl⟩

theorem linkedStep_of_cached {calls : String → SSessionInfo → List SessionCall}
    {info : SSessionInfo} (h : env.CarriesSlots front info)
    (cached : env.sessionCache.umapSessionCache sessionId = some record) :
    env.linkedStep calls info sessionId =
      (env.dialectAfter front record).elim (info.fillFrom sessionId record, [])
        fun uiPeerDialect => ({ info.fillFrom sessionId record with uiPeerDialect },
          calls sessionId { info.fillFrom sessionId record with uiPeerDialect }) := by
  simp only [linkedStep, pcrfSessionCacheGet, cached, Option.map_some, h.peerDialect]
  cases env.dialectAfter front record with
  | none => rfl
  | some uiPeerDialect => rfl

theorem earlierId_snoc (cached : env.sessionCache.umapSessionCache sessionId = some record) :
    env.earlierId (front ++ [sessionId]) =
      (env.earlierId front).or (if sessionId = "" then none else some sessionId) := by
  rw [earlierId, List.find?_append]
  congr 1
  by_cases hempty : sessionId = ""
  · simp [hempty]
  · simp [hempty, cached]

theorem ne_empty_of_earlierId {id : String} (h : env.earlierId front = some id) : id ≠ "" := by
  have hfound := List.find?_some h
  rw [Bool.and_eq_true, decide_eq_true_eq] at hfound
  exact hfound.2

theorem Carries.fillFrom {info : SSessionInfo} (h : env.Carries front info)
    (cached : env.sessionCache.umapSessionCache sessionId = some record) :
    env.Carries (front ++ [sessionId]) (info.fillFrom sessionId record) where
  slots := h.slots.fillFrom cached
  sessionId := by
    rw [(sessionCompleted_fillFrom sessionId record info).sessionId, h.sessionId,
      earlierId_snoc cached]
    cases hfirst : env.earlierId front with
    | some id => exact if_neg (ne_empty_of_earlierId hfirst)
    | none =>
      by_cases hempty : sessionId = ""
      · simp [hempty]
      · simp [hempty]
  bare := by
    have hbare := h.bare
    rw [bare_fillFrom]
    exact hbare

theorem Carries.step (calls : String → SSessionInfo → List SessionCall) {info : SSessionInfo}
    (h : env.Carries front info)
    (cached : env.sessionCache.umapSessionCache sessionId = some record) :
    env.Carries (front ++ [sessionId]) (env.linkedStep calls info sessionId).1 := by
  have hfilled := h.fillFrom cached
  rw [linkedStep_of_cached h.slots cached]
  cases env.dialectAfter front record with
  | none => exact hfilled
  | some uiPeerDialect =>
    refine ⟨fun slot hslot => ?_, hfilled.sessionId, hfilled.bare⟩
    rw [← hfilled.slots slot hslot]
    exact congrArg OtlValue.toOption (slot_numbered _ uiPeerDialect _ _ slot hslot)

theorem Carries.bare_fillFrom {info : SSessionInfo} (h : env.Carries front info)
    (sessionId : String) (record : SSessionCache) (uiPeerDialect : PeerDialect) :
    ({ info.fillFrom sessionId record with uiPeerDialect } : SSessionInfo).bare =
      { uiPeerDialect
        strSessionId := (env.earlierId front).getD sessionId
        strSubscriberId := record.coSubscriberId.toOption.getD "" } := by
  have hid : (info.fillFrom sessionId record).strSessionId =
      (env.earlierId front).getD sessionId := by
    rw [(sessionCompleted_fillFrom sessionId record info).sessionId, h.sessionId]
    cases hfirst : env.earlierId front with
    | some id => exact if_neg (ne_empty_of_earlierId hfirst)
    | none => rfl
  have hsubscriber := (sessionCompleted_fillFrom sessionId record info).subscriberId
  rw [← hid, ← hsubscriber]
  exact congrArg (fun rest : SSessionInfo =>
    { rest with
      uiPeerDialect
      strSessionId := (info.fillFrom sessionId record).strSessionId
      strSubscriberId := (info.fillFrom sessionId record).strSubscriberId }) h.bare

/-- The session that goes into a call is the one that would if it were alone. -/
theorem Carries.alone_iff {info : SSessionInfo} (h : env.Carries front info)
    (sessionId : String) (record : SSessionCache) (uiPeerDialect : PeerDialect) :
    ({ info.fillFrom sessionId record with uiPeerDialect } : SSessionInfo) =
        { ({} : SSessionInfo).fillFrom sessionId record with uiPeerDialect } ↔
      env.Spares (sessionSlots.map Prod.snd) front record ∧
        ∀ id ∈ env.earlierId front, id = sessionId := by
  rw [← h.slots.slots_eq_iff sessionId record, SSessionInfo.eq_iff_slots, and_comm]
  refine and_congr (forall_congr' fun slot => imp_congr_right fun hslot => ?_) ?_
  · have hnumbered := slot_numbered (info.fillFrom sessionId record) uiPeerDialect
      (info.fillFrom sessionId record).strSessionId (info.fillFrom sessionId record).mapMonitInfo
      slot hslot
    have hnumbered' := slot_numbered (({} : SSessionInfo).fillFrom sessionId record)
      uiPeerDialect (({} : SSessionInfo).fillFrom sessionId record).strSessionId
      (({} : SSessionInfo).fillFrom sessionId record).mapMonitInfo slot hslot
    exact Eq.congr hnumbered hnumbered'
  · -- of the rest only the number can differ
    rw [h.bare_fillFrom, env.carries_nil.bare_fillFrom]
    simp only [SSessionInfo.mk.injEq, true_and, and_true]
    cases hfirst : env.earlierId front with
    | none => simp [earlierId]
    | some id => simp [earlierId]

/-- The calls for the session are those for it alone. -/
structure LinkedAlike (env : LinkedEnv) (procera : Bool) (front : List String)
    (sessionId : String) (record : SSessionCache) : Prop where
  rx : env.dialectAfter front record = some .rxIms ↔ env.dialectAfter [] record = some .rxIms
  procera : procera = true → (env.dialectAfter front record = some .gxProcera ↔
    env.dialectAfter [] record = some .gxProcera)
  own : env.dialectAfter [] record = some .rxIms →
    env.Spares (sessionSlots.map Prod.snd) front record ∧
      ∀ id ∈ env.earlierId front, id = sessionId

section

variable {procera : Bool} {rx : SSessionInfo → SessionCall}

theorem linkedStep_calls {info : SSessionInfo} (h : env.CarriesSlots front info)
    (cached : env.sessionCache.umapSessionCache sessionId = some record) :
    (env.linkedStep (linkedCalls procera rx) info sessionId).2 =
      if env.dialectAfter front record = some .rxIms then
        [rx { info.fillFrom sessionId record with uiPeerDialect := .rxIms }]
      else if procera = true ∧ env.dialectAfter front record = some .gxProcera then
        [.proceraTerminateSession sessionId]
      else [] := by
  rw [linkedStep_of_cached h cached]
  cases env.dialectAfter front record with
  | none => simp
  | some uiPeerDialect => cases uiPeerDialect <;> simp [linkedCalls]

theorem linkedStep_alike_iff (hrx : Function.Injective rx)
    (hother : ∀ info sessionId, rx info ≠ .proceraTerminateSession sessionId)
    {info : SSessionInfo} (h : env.Carries front info)
    (cached : env.sessionCache.umapSessionCache sessionId = some record) :
    (env.linkedStep (linkedCalls procera rx) info sessionId).2 =
        (env.linkedStep (linkedCalls procera rx) {} sessionId).2 ↔
      env.LinkedAlike procera front sessionId record := by
  rw [linkedStep_calls h.slots cached, linkedStep_calls env.carriesSlots_nil cached]
  by_cases hafter : env.dialectAfter front record = some .rxIms
  · by_cases halone : env.dialectAfter [] record = some .rxIms
    · rw [if_pos hafter, if_pos halone, List.singleton_inj, hrx.eq_iff, h.alone_iff]
      refine ⟨fun own => ⟨iff_of_true hafter halone, fun _ => ?_, fun _ => own⟩,
        fun alike => alike.own halone⟩
      rw [hafter, halone]
    · rw [if_pos hafter, if_neg halone]
      refine iff_of_false (fun heq => ?_) fun alike => halone (alike.rx.mp hafter)
      split at heq
      · exact hother _ _ (List.singleton_inj.mp heq)
      · cases heq
  · by_cases halone : env.dialectAfter [] record = some .rxIms
    · rw [if_neg hafter, if_pos halone]
      refine iff_of_false (fun heq => ?_) fun alike => hafter (alike.rx.mpr halone)
      split at heq
      · exact hother _ _ (List.singleton_inj.mp heq).symm
      · cases heq
    · rw [if_neg hafter, if_neg halone]
      have calls : ∀ p q : Prop, [Decidable p] → [Decidable q] →
          ((if p then [SessionCall.proceraTerminateSession sessionId] else []) =
            (if q then [SessionCall.proceraTerminateSession sessionId] else []) ↔ (p ↔ q)) := by
        intro p q _ _
        by_cases hp : p <;> by_cases hq : q <;> simp [hp, hq]
      rw [calls, and_congr_right_iff]
      exact ⟨fun hprocera => ⟨iff_of_false hafter halone, hprocera,
        fun hown => absurd hown halone⟩, fun alike => alike.procera⟩

end

/-- The first element of a list, or one of the others after it. -/
theorem forall_split_cons {P : List String → String → Prop} {first : String}
    {list : List String} :
    (∀ pre x post, first :: list = pre ++ x :: post → P pre x) ↔
      P [] first ∧ ∀ pre x post, list = pre ++ x :: post → P (first :: pre) x := by
  constructor
  · intro h
    refine ⟨h [] first list rfl, fun pre x post heq => h (first :: pre) x post ?_⟩
    rw [heq]
    rfl
  · rintro ⟨hfirst, hrest⟩ pre x post heq
    cases pre with
    | nil =>
      obtain ⟨rfl, -⟩ := List.cons.inj heq
      exact hfirst
    | cons y pre =>
      obtain ⟨rfl, hsplit⟩ := List.cons.inj heq
      exact hrest pre x post hsplit

/-- Every session of a list, with its record, after those before it. -/
def EachAfter (env : LinkedEnv) (P : List String → String → SSessionCache → Prop)
    (front list : List String) : Prop :=
  ∀ pre sessionId post, list = pre ++ sessionId :: post →
    ∀ record, env.sessionCache.umapSessionCache sessionId = some record →
      P (front ++ pre) sessionId record

theorem eachAfter_cons_iff {P : List String → String → SSessionCache → Prop} {rest : List String}
    (cached : env.sessionCache.umapSessionCache sessionId = some record) :
    env.EachAfter P front (sessionId :: rest) ↔
      P front sessionId record ∧ env.EachAfter P (front ++ [sessionId]) rest := by
  simp only [EachAfter]
  rw [forall_split_cons (P := fun pre sessionId => ∀ record,
    env.sessionCache.umapSessionCache sessionId = some record →
      P (front ++ pre) sessionId record)]
  simp [cached]

theorem linkedLoop_alone_iff (procera : Bool) {rx : SSessionInfo → SessionCall}
    (hrx : Function.Injective rx)
    (hother : ∀ info sessionId, rx info ≠ .proceraTerminateSession sessionId)
    {info : SSessionInfo} (h : env.Carries front info) {list : List String}
    (cached : ∀ sessionId ∈ list, (env.sessionCache.umapSessionCache sessionId).isSome) :
    env.linkedLoop (linkedCalls procera rx) info list =
        list.flatMap (fun sessionId => env.linkedLoop (linkedCalls procera rx) {} [sessionId]) ↔
      env.EachAfter (env.LinkedAlike procera) front list := by
  induction list generalizing front info with
  | nil => simp [linkedLoop, EachAfter]
  | cons sessionId rest ih =>
    obtain ⟨hfirst, hrest⟩ := List.forall_mem_cons.mp cached
    obtain ⟨record, hrecord⟩ := Option.isSome_iff_exists.mp hfirst
    rw [eachAfter_cons_iff hrecord, ← linkedStep_alike_iff hrx hother h hrecord,
      ← ih (h.step (linkedCalls procera rx) hrecord) hrest]
    exact List.cons_eq_cons

end LinkedEnv

end Pcrf
