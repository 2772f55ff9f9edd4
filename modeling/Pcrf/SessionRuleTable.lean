import Pcrf.SessionRule
import Pcrf.SqlQueue

/-!
The statements about `ps.sessionRule` with their texts and parameters, what they do to the rows of
the table, and what that is for the open rows of one session.
-/

namespace Pcrf

open Lib

/-- `tm`, as `localtime_r` fills it. -/
structure Tm where
  tmYear : Int
  tmMon : Int
  tmMday : Int
  tmHour : Int
  tmMin : Int
  tmSec : Int
  deriving Repr, DecidableEq

/-- `otl_datetime`. -/
structure OtlDatetime where
  year : Int
  month : Int
  day : Int
  hour : Int
  minute : Int
  second : Int
  deriving Repr, DecidableEq, Inhabited

/-- `pcrf_fill_otl_datetime` with the time of the clock, which does not fail. -/
def pcrfFillOtlDatetime (now : Tm) : OtlValue OtlDatetime :=
  .of
    { year := now.tmYear + 1900
      month := now.tmMon + 1
      day := now.tmMday
      hour := now.tmHour
      minute := now.tmMin
      second := now.tmSec }

/-- `SSQLQueueParam`, by the type of the value. -/
inductive SqlParam where
  | string (value : String)
  | otlString (value : OtlValue String)
  | octets (value : OtlValue UInt64)
  | datetime (value : OtlValue OtlDatetime)
  deriving Repr, DecidableEq

/-! ### The texts -/

def insertRuleText : String :=
  "insert into ps.sessionRule " ++
  "(session_id,time_start,rule_name) " ++
  "values (:session_id /*char[255]*/, :time_start/*timestamp*/, :rule_name /*char[255]*/)"

def closeRuleAllText : String :=
  "update /*+ index(sr IE1_SESSIONRULE_SESSION_ID)*/ ps.sessionRule sr set time_end = " ++
  ":time_end/*timestamp*/ where session_id = :session_id /* char[255] */ and time_end is null"

def closeRuleText : String :=
  "update /*+ index(sr IE1_SESSIONRULE_SESSION_ID)*/ " ++
  "ps.sessionRule sr " ++
  "set " ++
  "time_end = :time_end/*timestamp*/," ++
  "rule_failure_code = :rule_failure_code /*char[64]*/ " ++
  "where " ++
  "session_id = :session_id /*char[255]*/ " ++
  "and rule_name = :rule_name /*char[100]*/ " ++
  "and time_end is null"

def storeUsageInfoText : String :=
  "begin" ++
  "\tnInput number;" ++
  "\tnOutput number;" ++
  "\tnTotal number;" ++
  "\tnRefresh number;" ++
  "ps.qm.ProcessQuota(" ++
  "\t:SubscriberID /*char[255],in*/, :MonitoringKey /*char[32],in*/," ++
  "\t:UsedInputOctets /*ubigint,in*/, :UsedOutputOctets /*ubigint,in*/, " ++
  ":UsedTotalOctets /*ubigint,in*/," ++
  "\tnInput, nOutput, nTotal," ++
  "\tnRefresh );" ++
  "end;"

/-- The request that a writer hands to the queue, when the clock shows `now`. -/
def SqlStatement.request (now : Tm) : SqlStatement → SSQLRequestInfo SqlParam
  | .insertRule sessionId ruleName =>
    { pszRequest := some insertRuleText
      plistParamList :=
        some [.string sessionId, .datetime (pcrfFillOtlDatetime now), .string ruleName]
      pszReqName := "insert rule" }
  | .closeRule sessionId ruleName failureCode =>
    { pszRequest := some closeRuleText
      plistParamList :=
        some [.datetime (pcrfFillOtlDatetime now),
          .otlString (failureCode.elim .empty .of), .string sessionId, .otlString (.of ruleName)]
      pszReqName := "close rule" }
  | .closeRuleAll sessionId =>
    { pszRequest := some closeRuleAllText
      plistParamList := some [.datetime (pcrfFillOtlDatetime now), .string sessionId]
      pszReqName := "close rule all" }
  | .storeUsageInfoOffline subscriberId usage =>
    { pszRequest := some storeUsageInfoText
      plistParamList :=
        some [.string subscriberId, .otlString usage.coMonitoringKey,
          .octets usage.coCCInputOctets, .octets usage.coCCOutputOctets,
          .octets usage.coCCTotalOctets]
      pszReqName := "store_usage_info_offline"
      bRollbackOnFail := true }

/-- The session id that goes with the request. -/
def SqlStatement.sessionId : SqlStatement → Option String
  | .insertRule sessionId _ | .closeRule sessionId _ _ | .closeRuleAll sessionId => some sessionId
  | .storeUsageInfoOffline _ _ => none

/-! ### The table -/

/-- A row of `ps.sessionRule`. -/
structure SessionRuleRow where
  sessionId : String
  timeStart : OtlValue OtlDatetime
  timeEnd : OtlValue OtlDatetime := .empty
  ruleName : String
  ruleFailureCode : OtlValue String := .empty
  deriving Repr, DecidableEq

/-- A column equals a parameter. The empty string is null, which equals nothing. -/
def sqlEq (column param : String) : Bool := column == param && param != ""

/-- What a statement asks for. -/
inductive SessionRuleChange where
  | insert (sessionId : String) (timeStart : OtlValue OtlDatetime) (ruleName : String)
  | closeAll (timeEnd : OtlValue OtlDatetime) (sessionId : String)
  | close (timeEnd : OtlValue OtlDatetime) (ruleFailureCode : OtlValue String)
      (sessionId : String) (ruleName : OtlValue String)
  deriving Repr, DecidableEq

/-- The text with its parameters, in the order in which they are bound. -/
def SSQLRequestInfo.change? (request : SSQLRequestInfo SqlParam) : Option SessionRuleChange :=
  match request.plistParamList with
  | some [.string sessionId, .datetime timeStart, .string ruleName] =>
    if request.pszRequest = some insertRuleText then some (.insert sessionId timeStart ruleName)
    else none
  | some [.datetime timeEnd, .string sessionId] =>
    if request.pszRequest = some closeRuleAllText then some (.closeAll timeEnd sessionId)
    else none
  | some [.datetime timeEnd, .otlString ruleFailureCode, .string sessionId, .otlString ruleName] =>
    if request.pszRequest = some closeRuleText then
      some (.close timeEnd ruleFailureCode sessionId ruleName)
    else none
  | _ => none

/-- What it does to the rows. -/
def SessionRuleChange.perform :
    SessionRuleChange → List SessionRuleRow → List SessionRuleRow
  | .insert sessionId timeStart ruleName, rows => rows ++ [{ sessionId, timeStart, ruleName }]
  | .closeAll timeEnd sessionId, rows =>
    rows.map fun row =>
      if sqlEq row.sessionId sessionId && row.timeEnd.isNull then { row with timeEnd } else row
  | .close timeEnd ruleFailureCode sessionId ruleName, rows =>
    rows.map fun row =>
      if sqlEq row.sessionId sessionId && (!ruleName.isNull && sqlEq row.ruleName ruleName.v) &&
          row.timeEnd.isNull then
        { row with timeEnd, ruleFailureCode }
      else row

/-- What a statement does to the rows; one that is no other does nothing. -/
def SSQLRequestInfo.onSessionRule (request : SSQLRequestInfo SqlParam)
    (rows : List SessionRuleRow) : List SessionRuleRow :=
  request.change?.elim rows fun change => change.perform rows

/-! ### The open rows of a session -/

/-- The names of the rules whose rows are open. -/
def openRules (sessionId : String) (rows : List SessionRuleRow) : List String :=
  (rows.filter fun row => row.sessionId = sessionId ∧ row.timeEnd.isNull).map (·.ruleName)

/-- The names, the ids and the times are there. -/
def SessionRuleChange.Proper : SessionRuleChange → Prop
  | .insert sessionId _ ruleName => sessionId ≠ "" ∧ ruleName ≠ ""
  | .closeAll timeEnd sessionId => timeEnd.isNull = false ∧ sessionId ≠ ""
  | .close timeEnd _ sessionId ruleName =>
    timeEnd.isNull = false ∧ sessionId ≠ "" ∧ ruleName.isNull = false ∧ ruleName.v ≠ ""

def SessionRuleChange.sessionId : SessionRuleChange → String
  | .insert sessionId _ _ | .closeAll _ sessionId | .close _ _ sessionId _ => sessionId

/-- What a change is for the list of the rules of its session. -/
def SessionRuleChange.onList : SessionRuleChange → List String → List String
  | .insert _ _ ruleName, names => names ++ [ruleName]
  | .closeAll _ _, _ => []
  | .close _ _ _ ruleName, names => names.filter (· ≠ ruleName.v)

/-- The same, seen from any session. -/
def SessionRuleChange.onListOf (sessionId : String) (change : SessionRuleChange)
    (names : List String) : List String :=
  if change.sessionId = sessionId then change.onList names else names

/-- Rows that are closed are not open any more. -/
theorem openRules_close (sessionId : String) (chosen : SessionRuleRow → Bool)
    (closed : SessionRuleRow → SessionRuleRow)
    (closes : ∀ row, (closed row).timeEnd.isNull = false) (rows : List SessionRuleRow) :
    openRules sessionId
        (rows.map fun row => if chosen row && row.timeEnd.isNull then closed row else row) =
      openRules sessionId (rows.filter fun row => !chosen row) := by
  induction rows with
  | nil => rfl
  | cons row rows ih =>
    simp only [openRules, List.map_cons] at ih ⊢
    cases chosenRow : chosen row with
    | true =>
      rw [List.filter_cons_of_neg (a := row) (by simp [chosenRow])]
      -- a row that is chosen is closed now, or was closed before
      cases isOpen : row.timeEnd.isNull with
      | true => rw [if_pos (by rfl), List.filter_cons_of_neg (by simp [closes]), ih]
      | false => rw [if_neg (by simp), List.filter_cons_of_neg (by simp [isOpen]), ih]
    | false =>
      rw [Bool.false_and, if_neg (by simp),
        List.filter_cons_of_pos (a := row) (p := fun row => !chosen row) (by simp [chosenRow])]
      simp only [List.filter_cons]
      split
      next => rw [List.map_cons, List.map_cons, ih]
      next => rw [ih]

theorem sqlEq_of_ne_empty {param : String} (h : param ≠ "") (column : String) :
    sqlEq column param = decide (column = param) := by
  rw [sqlEq, show (param != "") = true from bne_iff_ne.mpr h, Bool.and_true]
  rfl

/-- Other rows than those of the session do not matter. -/
theorem openRules_filter_congr {sessionId : String} {p : SessionRuleRow → Bool}
    {q : String → Bool} (h : ∀ row, row.sessionId = sessionId → p row = q row.ruleName)
    (rows : List SessionRuleRow) :
    openRules sessionId (rows.filter p) = (openRules sessionId rows).filter q := by
  rw [openRules, openRules, List.filter_map, List.filter_filter, List.filter_filter]
  congr 1
  refine List.filter_congr fun row _ => ?_
  by_cases own : row.sessionId = sessionId
  · rw [h row own, Bool.and_comm]
    rfl
  · simp [own]

/-- Rows of other sessions may be closed. -/
theorem openRules_close_other {sessionId : String} {chosen : SessionRuleRow → Bool}
    {closed : SessionRuleRow → SessionRuleRow}
    (closes : ∀ row, (closed row).timeEnd.isNull = false)
    (spares : ∀ row, row.sessionId = sessionId → chosen row = false) (rows : List SessionRuleRow) :
    openRules sessionId
        (rows.map fun row => if chosen row && row.timeEnd.isNull then closed row else row) =
      openRules sessionId rows := by
  have kept : openRules sessionId (rows.filter fun row => !chosen row) =
      (openRules sessionId rows).filter fun _ => true := by
    apply openRules_filter_congr
    intro row same
    rw [spares row same]
    rfl
  rw [openRules_close sessionId _ _ closes, kept, List.filter_true]

theorem onListOf_own (change : SessionRuleChange) (names : List String) :
    change.onListOf change.sessionId names = change.onList names := if_pos rfl

theorem onListOf_other {change : SessionRuleChange} {sessionId : String}
    (h : change.sessionId ≠ sessionId) (names : List String) :
    change.onListOf sessionId names = names := if_neg h

/-- Another session keeps its open rows. -/
theorem openRules_other {change : SessionRuleChange} (proper : change.Proper) {sessionId : String}
    (h : change.sessionId ≠ sessionId) (rows : List SessionRuleRow) :
    openRules sessionId (change.perform rows) = openRules sessionId rows := by
  cases change with
  | insert own timeStart ruleName =>
    have other : own ≠ sessionId := h
    simp [SessionRuleChange.perform, openRules, other]
  | closeAll timeEnd own =>
    obtain ⟨closed, named⟩ := proper
    have other : sessionId ≠ own := Ne.symm h
    apply openRules_close_other fun _ => closed
    intro row same
    -- rows of another session do not match the parameter
    simp [sqlEq_of_ne_empty named, same, other]
  | close timeEnd ruleFailureCode own ruleName =>
    obtain ⟨closed, named, -⟩ := proper
    have other : sessionId ≠ own := Ne.symm h
    apply openRules_close_other fun _ => closed
    intro row same
    simp [sqlEq_of_ne_empty named, same, other]

/-- The change to the table is the change of the list of its session. -/
theorem openRules_perform {change : SessionRuleChange} (proper : change.Proper)
    (sessionId : String) (rows : List SessionRuleRow) :
    openRules sessionId (change.perform rows) =
      change.onListOf sessionId (openRules sessionId rows) := by
  by_cases own : change.sessionId = sessionId
  -- other sessions first
  swap
  · rw [openRules_other proper own, onListOf_other own]
  subst own
  rw [onListOf_own]
  cases change with
  | insert own timeStart ruleName =>
    simp only [SessionRuleChange.perform, SessionRuleChange.sessionId, SessionRuleChange.onList,
      openRules, List.filter_append, List.map_append]
    simp [OtlValue.isNull, OtlValue.empty]
  | closeAll timeEnd own =>
    obtain ⟨closed, named⟩ := proper
    simp only [SessionRuleChange.perform, SessionRuleChange.sessionId, SessionRuleChange.onList]
    rw [openRules_close own _ _ fun _ => closed, openRules_filter_congr (q := fun _ => false)]
    · exact List.filter_false _
    · intro row same
      simp [sqlEq_of_ne_empty named, same]
  | close timeEnd ruleFailureCode own ruleName =>
    obtain ⟨closed, named, present, ruleNamed⟩ := proper
    simp only [SessionRuleChange.perform, SessionRuleChange.sessionId, SessionRuleChange.onList]
    rw [openRules_close own _ _ fun _ => closed, openRules_filter_congr]
    intro row same
    simp [sqlEq_of_ne_empty named, sqlEq_of_ne_empty ruleNamed, present, same]

end Pcrf
