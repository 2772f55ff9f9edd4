import Pcrf.Lib.Rows
import Pcrf.RuleReports
import Pcrf.SessionRuleTable

/-!
The statements about `ps.sessionList` and `ps.sessionLocation` with their texts and parameters,
what they do to the rows of the tables, and what that is for the rows of one session.
-/

namespace Pcrf

open Lib

/-- `EVENT_REQUEST` -/
def CCRequestType.eventRequest : CCRequestType := .other 4

/-- A time that is read from the clock when the statement is made, or one that is given. -/
inductive Stamp where
  | now
  | given (time : OtlValue OtlDatetime)
  deriving Repr, DecidableEq

def Stamp.at (now : Tm) : Stamp → OtlValue OtlDatetime
  | .now => pcrfFillOtlDatetime now
  | .given time => time

/-- A statement of the functions that store a request. -/
inductive StoreStatement where
  | insertSession (sess : ExtractedSession)
  | updateSession (sessionId : String) (timeEnd timeLast : Stamp) (termCause : OtlValue String)
  | closeLocation (sessionId : String)
  | insertLocation (sessionId : String) (environment : ExtractedEnvironment)
  | rule (statement : SqlStatement)
  deriving DecidableEq

/-! ### The texts -/

def insertSessionText : String :=
  "insert into ps.sessionList " ++
  "(session_id,subscriber_id,origin_host,origin_realm,end_user_imsi,end_user_e164,imeisv," ++
  "time_start,time_last_req,framed_ip_address,called_station_id)" ++
  "values(:session_id/*char[255]*/,:subscriber_id/*char[64]*/,:origin_host/*char[255]*/," ++
  ":origin_realm/*char[255]*/,:end_user_imsi/*char[32]*/,:end_user_e164/*char[16]*/," ++
  ":imeisv/*char[20]*/,:start_time/*timestamp*/,:time_last/*timestamp*/," ++
  ":framed_ip_address/*char[16]*/,:called_station_id/*char[255]*/)"

def updateSessionText : String :=
  "update ps.sessionList" ++
  " set time_end = :time_end/*timestamp*/, " ++
  "time_last_req = nvl(:time_last/*timestamp*/,time_last_req), " ++
  "termination_cause = :term_cause/*char[64]*/" ++
  " where session_id = :session_id/*char[255]*/"

def closeLocationText : String :=
  "update /*+ index(loc ie1_sessionlocation_session_id)*/ ps.sessionLocation loc " ++
  "set time_end = :time_end/*timestamp*/ where time_end is null and " ++
  "session_id = :session_id /*char[255]*/"

def insertLocationText : String :=
  "insert into ps.sessionLocation " ++
  "(session_id, time_start, time_end, sgsn_mcc_mnc, sgsn_ip_address, sgsn_ipv6_address, " ++
  "rat_type, ip_can_type, cgi, ecgi, tai, rai) " ++
  "values " ++
  "(:session_id/*char[255]*/, :time_start/*timestamp*/, null, :sgsn_mcc_mnc/*char[10]*/, " ++
  ":sgsn_ip_address/*char[15]*/, :sgsn_ipv6_address/*char[50]*/, :rat_type/*char[50]*/, " ++
  ":ip_can_type/*char[20]*/, :cgi/*char[20]*/, :ecgi/*char[20]*/, :tai/*char[20]*/, " ++
  ":rai/*char[20]*/)"

/-- The columns of a location that do not say whose it is and when. -/
structure LocationColumns where
  sgsnMccMnc : OtlValue String
  sgsnIpAddress : OtlValue String
  sgsnIpv6Address : OtlValue String
  ratType : OtlValue String
  ipCanType : OtlValue String
  cgi : OtlValue String
  ecgi : OtlValue String
  tai : OtlValue String
  rai : OtlValue String
  deriving Repr, DecidableEq

def ExtractedEnvironment.columns (environment : ExtractedEnvironment) : LocationColumns where
  sgsnMccMnc := environment.coSGSNMCCMNC
  sgsnIpAddress := environment.coSGSNAddress
  sgsnIpv6Address := environment.coSGSNIPv6Address
  ratType := environment.coRATType
  ipCanType := environment.coIPCANType
  cgi := environment.soUsrLoc.coCGI
  ecgi := environment.soUsrLoc.coECGI
  tai := environment.soUsrLoc.coTAI
  rai := environment.soUsrLoc.coRAI

/-- The request that is handed to the queue, when the clock shows `now`. -/
def StoreStatement.request (now : Tm) : StoreStatement → SSQLRequestInfo SqlParam
  | .insertSession sess =>
    { pszRequest := some insertSessionText
      plistParamList :=
        some [.string sess.strSessionId, .otlString (.of sess.strSubscriberId),
          .otlString sess.coOriginHost, .otlString sess.coOriginRealm,
          .otlString sess.soSubscriptionData.coEndUserIMSI,
          .otlString sess.soSubscriptionData.coEndUserE164, .otlString sess.coIMEI,
          .datetime (pcrfFillOtlDatetime now), .datetime (pcrfFillOtlDatetime now),
          .otlString sess.coFramedIPAddress, .otlString sess.coCalledStationId]
      pszReqName := "insert session" }
  | .updateSession sessionId timeEnd timeLast termCause =>
    { pszRequest := some updateSessionText
      plistParamList :=
        some [.datetime (timeEnd.at now), .datetime (timeLast.at now), .otlString termCause,
          .string sessionId]
      pszReqName := "update session" }
  | .closeLocation sessionId =>
    { pszRequest := some closeLocationText
      plistParamList := some [.datetime (pcrfFillOtlDatetime now), .string sessionId]
      pszReqName := "close location" }
  | .insertLocation sessionId environment =>
    let columns := environment.columns
    { pszRequest := some insertLocationText
      plistParamList :=
        some [.string sessionId, .datetime (pcrfFillOtlDatetime now),
          .otlString columns.sgsnMccMnc, .otlString columns.sgsnIpAddress,
          .otlString columns.sgsnIpv6Address, .otlString columns.ratType,
          .otlString columns.ipCanType, .otlString columns.cgi, .otlString columns.ecgi,
          .otlString columns.tai, .otlString columns.rai]
      pszReqName := "insert location" }
  | .rule statement => statement.request now

/-! ### The functions that store a request -/

/-- `pcrf_server_db_user_location` -/
def pcrfServerDbUserLocation (data : ExtractedData) : List StoreStatement :=
  if data.req.bLoaded then
    [.closeLocation data.sess.strSessionId,
     .insertLocation data.sess.strSessionId data.req.environment]
  else []

/-- The statements of `pcrf_server_policy_db_store`. -/
def policyStatements (data : ExtractedData) : List StoreStatement :=
  (pcrfServerPolicyDbStore {} data.sess.toSSessionInfo data.req.toSRequestInfo).sqlQueue.map .rule

/-- `pcrf_server_req_db_store`; `coTimeEnd` is that of the session. -/
def pcrfServerReqDbStore (data : ExtractedData) (coTimeEnd : OtlValue OtlDatetime) :
    List StoreStatement :=
  let update : StoreStatement :=
    .updateSession data.sess.strSessionId (.given coTimeEnd) .now data.sess.coTermCause
  if data.req.iCCRequestType = .initialRequest then
    .insertSession data.sess :: pcrfServerDbUserLocation data
  else if data.req.iCCRequestType = .terminationRequest then
    .closeLocation data.sess.strSessionId :: update :: policyStatements data
  else if data.req.iCCRequestType = .updateRequest ∨ data.req.iCCRequestType = .eventRequest then
    update :: (pcrfServerDbUserLocation data ++ policyStatements data)
  else []

/-- `pcrf_client_db_fix_staled_sess` -/
def pcrfClientDbFixStaledSess (sessionId : String) : List StoreStatement :=
  [.updateSession sessionId .now (.given .empty) .empty, .rule (.closeRuleAll sessionId),
   .closeLocation sessionId]

/-! ### The tables -/

/-- A row of `ps.sessionLocation`. -/
structure SessionLocationRow where
  sessionId : String
  timeStart : OtlValue OtlDatetime
  timeEnd : OtlValue OtlDatetime := .empty
  columns : LocationColumns
  deriving Repr, DecidableEq

/-- A row of `ps.sessionList`. -/
structure SessionListRow where
  sessionId : String
  subscriberId : OtlValue String
  originHost : OtlValue String
  originRealm : OtlValue String
  endUserImsi : OtlValue String
  endUserE164 : OtlValue String
  imeisv : OtlValue String
  timeStart : OtlValue OtlDatetime
  timeLastReq : OtlValue OtlDatetime
  framedIpAddress : OtlValue String
  calledStationId : OtlValue String
  timeEnd : OtlValue OtlDatetime := .empty
  terminationCause : OtlValue String := .empty
  deriving Repr, DecidableEq

/-- What a statement asks of `ps.sessionLocation`. -/
inductive LocationChange where
  | insert (sessionId : String) (timeStart : OtlValue OtlDatetime) (columns : LocationColumns)
  | close (timeEnd : OtlValue OtlDatetime) (sessionId : String)
  deriving Repr, DecidableEq

/-- What a statement asks of `ps.sessionList`. -/
inductive SessionListChange where
  | insert (row : SessionListRow)
  | update (timeEnd timeLast : OtlValue OtlDatetime) (termCause : OtlValue String)
      (sessionId : String)
  deriving Repr, DecidableEq

/-- The text with its parameters, in the order in which they are bound. -/
def SSQLRequestInfo.locationChange? (request : SSQLRequestInfo SqlParam) :
    Option LocationChange :=
  match request.plistParamList with
  | some [.datetime timeEnd, .string sessionId] =>
    if request.pszRequest = some closeLocationText then some (.close timeEnd sessionId) else none
  | some [.string sessionId, .datetime timeStart, .otlString sgsnMccMnc, .otlString sgsnIpAddress,
      .otlString sgsnIpv6Address, .otlString ratType, .otlString ipCanType, .otlString cgi,
      .otlString ecgi, .otlString tai, .otlString rai] =>
    if request.pszRequest = some insertLocationText then
      some (.insert sessionId timeStart
        { sgsnMccMnc, sgsnIpAddress, sgsnIpv6Address, ratType, ipCanType, cgi, ecgi, tai, rai })
    else none
  | _ => none

/-- The same for `ps.sessionList`. -/
def SSQLRequestInfo.sessionListChange? (request : SSQLRequestInfo SqlParam) :
    Option SessionListChange :=
  match request.plistParamList with
  | some [.datetime timeEnd, .datetime timeLast, .otlString termCause, .string sessionId] =>
    if request.pszRequest = some updateSessionText then
      some (.update timeEnd timeLast termCause sessionId)
    else none
  | some [.string sessionId, .otlString subscriberId, .otlString originHost,
      .otlString originRealm, .otlString endUserImsi, .otlString endUserE164, .otlString imeisv,
      .datetime timeStart, .datetime timeLastReq, .otlString framedIpAddress,
      .otlString calledStationId] =>
    if request.pszRequest = some insertSessionText then
      some (.insert
        { sessionId, subscriberId, originHost, originRealm, endUserImsi, endUserE164, imeisv,
          timeStart, timeLastReq, framedIpAddress, calledStationId })
    else none
  | _ => none

def LocationChange.perform :
    LocationChange → List SessionLocationRow → List SessionLocationRow
  | .insert sessionId timeStart columns, rows => rows ++ [{ sessionId, timeStart, columns }]
  | .close timeEnd sessionId, rows =>
    updateRows (fun row => row.timeEnd.isNull && sqlEq row.sessionId sessionId)
      (fun row => { row with timeEnd }) rows

/-- `nvl( value, otherwise )` -/
def nvl {α : Type} (value otherwise : OtlValue α) : OtlValue α :=
  if value.isNull then otherwise else value

def SessionListChange.perform : SessionListChange → List SessionListRow → List SessionListRow
  | .insert row, rows => rows ++ [row]
  | .update timeEnd timeLast termCause sessionId, rows =>
    updateRows (fun row => sqlEq row.sessionId sessionId)
      (fun row =>
        { row with
          timeEnd
          timeLastReq := nvl timeLast row.timeLastReq
          terminationCause := termCause })
      rows

/-- What a request does to `ps.sessionLocation`. -/
def SSQLRequestInfo.onLocations (request : SSQLRequestInfo SqlParam)
    (rows : List SessionLocationRow) : List SessionLocationRow :=
  request.locationChange?.elim rows fun change => change.perform rows

/-- What a request does to `ps.sessionList`. -/
def SSQLRequestInfo.onSessionList (request : SSQLRequestInfo SqlParam)
    (rows : List SessionListRow) : List SessionListRow :=
  request.sessionListChange?.elim rows fun change => change.perform rows

/-! ### The open locations of a session -/

/-- What the open rows of a session say. -/
def openLocations (sessionId : String) (rows : List SessionLocationRow) : List LocationColumns :=
  (rows.filter fun row => row.sessionId = sessionId ∧ row.timeEnd.isNull).map (·.columns)

namespace LocationChange

def sessionId : LocationChange → String
  | .insert sessionId _ _ | .close _ sessionId => sessionId

/-- The session has an id, and there is a time at which it is closed. -/
def Proper : LocationChange → Prop
  | .insert sessionId _ _ => sessionId ≠ ""
  | .close timeEnd sessionId => timeEnd.isNull = false ∧ sessionId ≠ ""

/-- What a change is for the open locations of its session. -/
def onOpen : LocationChange → List LocationColumns → List LocationColumns
  | .insert _ _ columns, opened => opened ++ [columns]
  | .close _ _, _ => []

/-- The same, seen from any session. -/
def onOpenOf (sessionId : String) (change : LocationChange) (opened : List LocationColumns) :
    List LocationColumns :=
  if change.sessionId = sessionId then change.onOpen opened else opened

end LocationChange

theorem openLocations_close {own sessionId : String} {timeEnd : OtlValue OtlDatetime}
    (closed : timeEnd.isNull = false) (named : own ≠ "") (rows : List SessionLocationRow) :
    openLocations sessionId ((LocationChange.close timeEnd own).perform rows) =
      if own = sessionId then [] else openLocations sessionId rows := by
  have gone : ∀ row : SessionLocationRow,
      (row.timeEnd.isNull && sqlEq row.sessionId own) = true →
        decide ({ row with timeEnd }.sessionId = sessionId ∧
          { row with timeEnd }.timeEnd.isNull = true) = false := by
    simp [closed]
  rw [openLocations, LocationChange.perform]
  by_cases same : own = sessionId
  · -- an open row of the session is chosen
    rw [if_pos same, filter_updateRows_gone gone, List.filter_eq_nil_iff.mpr, List.map_nil]
    subst same
    intro row _
    rw [sqlEq_of_ne_empty named]
    by_cases mine : row.sessionId = own <;> simp [mine]
  · rw [if_neg same, filter_updateRows_other gone, openLocations]
    intro row mine
    have mine : row.sessionId = sessionId := (of_decide_eq_true mine).1
    simp [sqlEq_of_ne_empty named, mine, Ne.symm same]

/-- The change to the table is the change of the open locations of its session. -/
theorem openLocations_perform {change : LocationChange} (proper : change.Proper)
    (sessionId : String) (rows : List SessionLocationRow) :
    openLocations sessionId (change.perform rows) =
      change.onOpenOf sessionId (openLocations sessionId rows) := by
  cases change with
  | insert own timeStart columns =>
    simp only [LocationChange.perform, LocationChange.onOpenOf, LocationChange.sessionId,
      LocationChange.onOpen, openLocations, List.filter_append, List.map_append]
    by_cases same : own = sessionId <;> simp [same, OtlValue.isNull, OtlValue.empty]
  | close timeEnd own => exact openLocations_close proper.1 proper.2 rows

/-! ### The rows of a session in the list -/

def sessionRows (sessionId : String) (rows : List SessionListRow) : List SessionListRow :=
  rows.filter fun row => row.sessionId = sessionId

namespace SessionListChange

def sessionId : SessionListChange → String
  | .insert row => row.sessionId
  | .update _ _ _ sessionId => sessionId

/-- What a change is for the rows of a session. -/
def onRowsOf (sessionId : String) (change : SessionListChange) (rows : List SessionListRow) :
    List SessionListRow :=
  if change.sessionId = sessionId then change.perform rows else rows

end SessionListChange

theorem sessionRows_perform {change : SessionListChange} (named : change.sessionId ≠ "")
    (sessionId : String) (rows : List SessionListRow) :
    sessionRows sessionId (change.perform rows) =
      change.onRowsOf sessionId (sessionRows sessionId rows) := by
  cases change with
  | insert row =>
    simp only [SessionListChange.perform, SessionListChange.onRowsOf, SessionListChange.sessionId,
      sessionRows, List.filter_append]
    by_cases same : row.sessionId = sessionId <;> simp [same]
  | update timeEnd timeLast termCause own =>
    have eq (row : SessionListRow) : sqlEq row.sessionId own = decide (row.sessionId = own) :=
      sqlEq_of_ne_empty named _
    -- an update leaves every row in its session
    have kept : sessionRows sessionId
          ((SessionListChange.update timeEnd timeLast termCause own).perform rows) =
        (SessionListChange.update timeEnd timeLast termCause own).perform
          (sessionRows sessionId rows) :=
      filter_updateRows_kept (by intro row _; rfl) rows
    rw [kept]
    by_cases same : own = sessionId
    · exact (if_pos same).symm
    · refine (updateRows_of_none fun row mem => ?_).trans (if_neg same).symm
      have mine : row.sessionId = sessionId := of_decide_eq_true (List.mem_filter.mp mem).2
      rw [eq, mine, decide_eq_false (Ne.symm same)]

end Pcrf
