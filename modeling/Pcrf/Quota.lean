import Pcrf.ChargingRule
import Pcrf.Lib.Retry

/-!
Quotas: the monitoring keys of a session, the usage records of a request and the two ways they
are submitted to `ps.qm.ProcessQuota`, and the Usage-Monitoring-Information of a message.
-/

namespace Pcrf

open Lib CallM

/-! ### Monitoring keys -/

/-- `std::map<std::string, SDBMonitoringInfo>`, as its entries in the order of their keys. -/
abbrev MonitInfoMap := List (String × SDBMonitoringInfo)

/-- `std::map::insert`: a key that is there keeps its value. -/
def MonitInfoMap.insert (mapMonitInfo : MonitInfoMap) (key : String) (info : SDBMonitoringInfo) :
    MonitInfoMap :=
  match mapMonitInfo with
  | [] => [(key, info)]
  | entry :: rest =>
    if key = entry.1 then entry :: rest
    else if key < entry.1 then (key, info) :: entry :: rest
    else entry :: MonitInfoMap.insert rest key info

/-- The keys of the rules that are going to be installed. -/
def pcrfMakeMkList (listAbonRules : List SDBAbonRule) (mapMonitInfo : MonitInfoMap) :
    MonitInfoMap :=
  listAbonRules.foldl
    (fun map rule =>
      if rule.isRelevant && !rule.isActive then
        rule.vectMonitKey.foldl (fun map key => map.insert key {}) map
      else map)
    mapMonitInfo

/-- Octets granted by `ps.qm.ProcessQuota`. -/
structure Grant where
  inputOctets : OtlValue UInt64
  outputOctets : OtlValue UInt64
  totalOctets : OtlValue UInt64

/-- What the database does in one attempt to ask for the quotas of keys. -/
structure MonitKeyOutcome where
  opening : Option Failure := none
  processQuota : String → Except Failure Grant
  closing : Option Failure := none

/-- Ask for the keys that the usage records have not reported, up to a failure. -/
def monitKeyLoop (processQuota : String → Except Failure Grant) :
    MonitInfoMap → MonitInfoMap × Option Failure
  | [] => ([], none)
  | (key, info) :: rest =>
    if info.isReported then
      let (rest, failure) := monitKeyLoop processQuota rest
      ((key, info) :: rest, failure)
    else
      match processQuota key with
      | .error failure => ((key, info) :: rest, some failure)
      | .ok grant =>
        let (rest, failure) := monitKeyLoop processQuota rest
        ((key, { info with
            coDosageInputOctets := grant.inputOctets
            coDosageOutputOctets := grant.outputOctets
            coDosageTotalOctets := grant.totalOctets }) :: rest, failure)

def monitKeyAttempt (outcome : MonitKeyOutcome) : Attempt MonitInfoMap :=
  (Attempt.throwing outcome.opening).andThen <|
    Attempt.andThen (monitKeyLoop outcome.processQuota) (Attempt.throwing outcome.closing)

/-- What the database answers to each attempt to ask for the keys of a subscriber. -/
abbrev MonitKeyQuery := String → Nat → MonitKeyOutcome

/-- The code returned and the quotas; no key is no query, a null connection is `EINVAL` (22). -/
def pcrfServerDbMonitKey (pcoDBConn : Option MonitKeyQuery) (subscriberId : String)
    (mapMonitInfo : MonitInfoMap) : Int × MonitInfoMap :=
  if mapMonitInfo.isEmpty then (0, mapMonitInfo)
  else
    match pcoDBConn with
    | none => (22, mapMonitInfo)
    | some query =>
      match Attempt.repeatOnce (fun k => monitKeyAttempt (query subscriberId k)) mapMonitInfo with
      | (mapMonitInfo, none) => (0, mapMonitInfo)
      | (mapMonitInfo, some failure) => (failure.code, mapMonitInfo)

/-- The quotas used when the database does not answer in time. -/
def pcrfSubscriberDataLoadDefQuota (uiDefaultQuota : UInt64)
    (vectUsageInfo : List SSessionUsageInfo) (mapMonitInfo : MonitInfoMap) : MonitInfoMap :=
  vectUsageInfo.foldl
    (fun map usage =>
      let quota (counter : OtlValue UInt64) : OtlValue UInt64 :=
        if counter.isNull then .empty else .of uiDefaultQuota
      map.insert usage.coMonitoringKey.v
        { isReported := true
          coDosageTotalOctets := quota usage.coCCTotalOctets
          coDosageOutputOctets := quota usage.coCCOutputOctets
          coDosageInputOctets := quota usage.coCCInputOctets })
    mapMonitInfo

/-! ### Usage records -/

def nonZero (counter : OtlValue UInt64) : Bool := !counter.isNull && counter.v != 0

/-- The record reports traffic. -/
def SSessionUsageInfo.hasUsage (usage : SSessionUsageInfo) : Bool :=
  nonZero usage.coCCInputOctets || nonZero usage.coCCOutputOctets ||
    nonZero usage.coCCTotalOctets

/-- What the database does in one attempt to submit usage records; each submission answers
with the quotas left and `UpdateRule`. -/
structure UsageOutcome where
  opening : Option Failure := none
  processQuota : Nat → SSessionUsageInfo → Except Failure (Grant × Int)
  committing : Option Failure := none
  closing : Option Failure := none

/-- What `pcrf_db_session_usage` works on. The records that were submitted are `pending` until
they are committed. -/
structure UsageState where
  mapMonitInfo : MonitInfoMap
  vectUsageInfo : List SSessionUsageInfo
  iUpdateRule : Int := 0
  pending : List SSessionUsageInfo := []
  charged : List SSessionUsageInfo := []

/-- Submit the record at a position and put what is left of its quotas in its place. -/
def usageStep (outcome : UsageOutcome) (i : Nat) : Attempt UsageState := fun st =>
  match st.vectUsageInfo[i]? with
  | none => (st, none)
  | some usage =>
    if !usage.hasUsage then (st, none)
    else
      match outcome.processQuota i usage with
      | .error failure => (st, some failure)
      | .ok (grant, updateRule) =>
        ({ mapMonitInfo := st.mapMonitInfo.insert usage.coMonitoringKey.v
             { isReported := true
               coDosageInputOctets := grant.inputOctets
               coDosageOutputOctets := grant.outputOctets
               coDosageTotalOctets := grant.totalOctets }
           vectUsageInfo := st.vectUsageInfo.set i
             { usage with
               coCCInputOctets := grant.inputOctets
               coCCOutputOctets := grant.outputOctets
               coCCTotalOctets := grant.totalOctets }
           -- one record is enough to have the rules updated
           iUpdateRule := if updateRule = 0 then st.iUpdateRule else 1
           pending := st.pending ++ [usage]
           charged := st.charged }, none)

def commit : Attempt UsageState := fun st =>
  ({ st with pending := [], charged := st.charged ++ st.pending }, none)

/-- What an exception does before the attempt is repeated. -/
def rollback (attempt : Attempt UsageState) : Attempt UsageState := fun st =>
  match attempt st with
  | (st, none) => (st, none)
  | (st, some failure) => ({ st with pending := [] }, some failure)

def usageAttempt (outcome : UsageOutcome) : Attempt UsageState := rollback fun st =>
  Attempt.andThen (Attempt.throwing outcome.opening)
    (Attempt.andThen (Attempt.forEach (usageStep outcome) (List.range st.vectUsageInfo.length))
      (Attempt.andThen (Attempt.throwing outcome.committing)
        (Attempt.andThen commit (Attempt.throwing outcome.closing)))) st

/-- What the database does in each attempt to submit the usage of a subscriber. -/
abbrev UsageQuery := String → Nat → UsageOutcome

def pcrfDbSessionUsage (query : UsageQuery) (subscriberId : String) (st : UsageState) :
    Int × UsageState :=
  if !st.vectUsageInfo.any (·.hasUsage) then (0, st)
  else
    match Attempt.repeatOnce (fun k => usageAttempt (query subscriberId k)) st with
    | (st, none) => (0, st)
    | (st, some failure) => (failure.code, st)

/-- The record while what is left of its quotas is put in its place, one counter after the
other. -/
def SSessionUsageInfo.grantWrites (usage : SSessionUsageInfo) (grant : Grant) :
    List SSessionUsageInfo :=
  let input := { usage with coCCInputOctets := grant.inputOctets }
  let output := { input with coCCOutputOctets := grant.outputOctets }
  [input, output, { output with coCCTotalOctets := grant.totalOctets }]

/-- The usage records in the course of the step for a position. -/
def usageStepWrites (outcome : UsageOutcome) (i : Nat) (st : UsageState) :
    List (List SSessionUsageInfo) :=
  match st.vectUsageInfo[i]? with
  | none => []
  | some usage =>
    if !usage.hasUsage then []
    else
      match outcome.processQuota i usage with
      | .error _ => []
      | .ok (grant, _) => (usage.grantWrites grant).map (st.vectUsageInfo.set i)

def usageAttemptWrites (outcome : UsageOutcome) (st : UsageState) :
    List (List SSessionUsageInfo) :=
  if outcome.opening.isSome then []
  else
    Attempt.forEachSeen (usageStep outcome) (usageStepWrites outcome)
      (List.range st.vectUsageInfo.length) st

/-- The usage records in the course of `pcrf_db_session_usage`, as another thread can see them:
its caller's records are those that it writes. -/
def pcrfDbSessionUsageWrites (query : UsageQuery) (subscriberId : String) (st : UsageState) :
    List (List SSessionUsageInfo) :=
  if !st.vectUsageInfo.any (·.hasUsage) then []
  else
    Attempt.repeatOnceSeen (fun k => usageAttempt (query subscriberId k))
      (fun k => usageAttemptWrites (query subscriberId k)) st

/-- One statement for each record, whatever it reports. -/
def pcrfDbSessionUsageOffline (subscriberId : String) (vectUsageInfo : List SSessionUsageInfo)
    (sqlQueue : List SqlStatement) : List SqlStatement :=
  sqlQueue ++ vectUsageInfo.map (.storeUsageInfoOffline subscriberId)

/-! ### Usage-Monitoring-Information -/

/-- Granted-Service-Unit: the total, and only without one the two directions. -/
def grantedParts (info : SDBMonitoringInfo) : List Part :=
  if info.coDosageTotalOctets.isNull then
    [putValue info.coDosageInputOctets .ccInputOctets .u64,
     putValue info.coDosageOutputOctets .ccOutputOctets .u64]
  else [putLeaf .ccTotalOctets (.u64 info.coDosageTotalOctets.v)]

def putUMI (key : String) (info : SDBMonitoringInfo) (isNeedUMR : Bool) : Part :=
  putGroup .usageMonitoringInformation (
    [putLeaf .monitoringKey (.os key)] ++
    (if info.isReported then [] else [putLeaf .usageMonitoringLevel (.i32 1)]) ++
    (if isNeedUMR then [putLeaf .usageMonitoringReport (.i32 0)] else []) ++
    [putGroup .grantedServiceUnit (grantedParts info)])

/-- One AVP for each key with some quota. -/
def pcrfMakeUMI (isNeedUMR : Bool) : MonitInfoMap → FdM Unit
  | [] => return ()
  | (key, info) :: rest => do
    if info.coDosageTotalOctets.isNull && info.coDosageOutputOctets.isNull &&
        info.coDosageInputOctets.isNull then
      pcrfMakeUMI isNeedUMR rest
    else
      putMessage (putUMI key info isNeedUMR)
      pcrfMakeUMI isNeedUMR rest

end Pcrf
