import Pcrf.DefaultRules
import Pcrf.Lib.Machine
import Pcrf.Quota
import Pcrf.RuleInstall
import Pcrf.SubscriberRules

/-!
`pcrf_timed_oper.cpp`: a handler gives the collection of a subscriber's rules and quotas to a
worker thread and waits for it for a limited time. The steps of the two threads are those
between which the other one can notice a difference: taking and releasing a mutex, each reading
and writing of the flag that switches the worker to offline, and each reading and writing of a
usage record. What is called a copy of the subscriber's data is the data of the handler itself.
-/

namespace Pcrf

open Lib

/-- The bits of an action set, `ACTION_COPY_DEFBEARER` … `ACTION_PROCERA_CHANGE_ULI`. -/
structure ActionSet where
  copyDefbearer : Bool := false
  updateSessioncache : Bool := false
  operateRule : Bool := false
  updateQuota : Bool := false
  ugwStoreThetInfo : Bool := false
  proceraStoreThetInfo : Bool := false
  proceraChangeUli : Bool := false
  deriving Repr, DecidableEq

/-- `SSubscriberData` without the references to variables of the handler. -/
structure SSubscriberData where
  i32CCRType : CCRequestType
  strSubscriberId : String
  uiPeerDialect : PeerDialect
  vectUsageInfo : List SSessionUsageInfo := []
  soUserEnvironment : SUserEnvironment := {}
  coCalledStationId : OtlValue String := .empty
  coIMEI : OtlValue String := .empty
  vectActive : List SDBAbonRule := []

/-- What is gathered: of the handler its own variables, of the worker the lists in which it
collects the same. -/
structure Gathered where
  uiActionSet : ActionSet
  listAbonRules : List SDBAbonRule := []
  mapMonitInfo : MonitInfoMap := []

/-- What a connection to the database answers. -/
structure DbConnection where
  sessionUsage : UsageQuery
  subRules : RuleListQuery
  monitKey : MonitKeyQuery

/-- What a call of `pcrf_subscriber_data_proc` meets: the configuration, the number of handlers
that are busy, what `pthread_create` returns, and the connection that the pool gives to the
worker. -/
structure GatherEnv where
  uiMaxCCRHandlers : Nat
  uiDefaultQuota : UInt64 := 0
  mapDefaultRule : List SDefaultRule := []
  ruleCache : RuleCache
  uiThreadCount : Nat := 0
  createCode : Int := 0
  pcoDBConn : Option DbConnection

/-- The call itself, with the variables of the handler that it refers to. -/
structure GatherCall extends GatherEnv where
  soData : SSubscriberData
  gathered : Gathered

/-! ### The worker -/

/-- What only the worker writes while it runs, and what it hands to the database. -/
structure WorkerData where
  soData : SSubscriberData
  gathered : Gathered
  charged : List SSessionUsageInfo := []
  sqlQueue : List SqlStatement := []

/-- The worker starts from the data of a call, with empty lists of its own. -/
def GatherCall.workerData (call : GatherCall) : WorkerData where
  soData := call.soData
  gathered := { uiActionSet := call.gathered.uiActionSet }

/-- The usage state that `pcrf_db_session_usage` is given. -/
def WorkerData.usageState (d : WorkerData) : UsageState where
  mapMonitInfo := d.gathered.mapMonitInfo
  vectUsageInfo := d.soData.vectUsageInfo

/-- The usage records are submitted at once, and not by the queue. -/
def WorkerData.submitsAtOnce (switchedToOffline : Bool) (d : WorkerData) : Bool :=
  d.gathered.uiActionSet.updateQuota && !switchedToOffline &&
    d.soData.i32CCRType != .terminationRequest

/-- The usage records in the course of their submission. -/
def WorkerData.usageWrites (db : DbConnection) (d : WorkerData) : List (List SSessionUsageInfo) :=
  pcrfDbSessionUsageWrites db.sessionUsage d.soData.strSubscriberId d.usageState

/-- Submit the usage records; a record can ask for the rules to be updated. -/
def WorkerData.updateQuota (db : DbConnection) (switchedToOffline : Bool) (d : WorkerData) :
    WorkerData :=
  if !d.gathered.uiActionSet.updateQuota then d
  -- a CCR-T is always submitted by the queue
  else if !switchedToOffline && d.soData.i32CCRType != .terminationRequest then
    let usage := (pcrfDbSessionUsage db.sessionUsage d.soData.strSubscriberId
      { mapMonitInfo := d.gathered.mapMonitInfo, vectUsageInfo := d.soData.vectUsageInfo }).2
    { d with
      soData := { d.soData with vectUsageInfo := usage.vectUsageInfo }
      gathered :=
        { d.gathered with
          mapMonitInfo := usage.mapMonitInfo
          uiActionSet :=
            { d.gathered.uiActionSet with
              operateRule := d.gathered.uiActionSet.operateRule || usage.iUpdateRule != 0 } }
      charged := d.charged ++ usage.charged }
  else
    { d with
      sqlQueue :=
        pcrfDbSessionUsageOffline d.soData.strSubscriberId d.soData.vectUsageInfo d.sqlQueue }

def SSubscriberData.subRulesArgs (data : SSubscriberData) : SubRulesArgs where
  strSubscriberId := data.strSubscriberId
  uiPeerDialect := data.uiPeerDialect
  coIPCANType := data.soUserEnvironment.coIPCANType
  coRATType := data.soUserEnvironment.coRATType
  coCalledStationId := data.coCalledStationId
  coSGSNAddress := data.soUserEnvironment.coSGSNAddress
  coIMEI := data.coIMEI

def WorkerData.loadRules (cache : RuleCache) (db : DbConnection) (d : WorkerData) : WorkerData :=
  if d.gathered.uiActionSet.operateRule then
    { d with
      gathered :=
        { d.gathered with
          listAbonRules :=
            pcrfServerCreateAbonRuleList cache (some db.subRules) d.soData.subRulesArgs } }
  else d

/-- The marks are made on the worker's lists, the active rules among them. -/
def WorkerData.markActive (d : WorkerData) : WorkerData :=
  if d.gathered.uiActionSet.operateRule && d.soData.i32CCRType != .initialRequest then
    let marked := pcrfServerSelectNotrelevantActive d.gathered.listAbonRules d.soData.vectActive
    { d with
      gathered := { d.gathered with listAbonRules := marked.1 }
      soData := { d.soData with vectActive := marked.2 } }
  else d

def WorkerData.loadQuota (db : DbConnection) (d : WorkerData) : WorkerData :=
  if d.gathered.uiActionSet.operateRule then
    let keys := pcrfMakeMkList d.gathered.listAbonRules d.gathered.mapMonitInfo
    { d with
      gathered :=
        { d.gathered with
          mapMonitInfo :=
            (pcrfServerDbMonitKey (some db.monitKey) d.soData.strSubscriberId keys).2 } }
  else d

/-! ### The handler -/

/-- What the handler takes over from a worker that was in time. -/
def Gathered.copyFrom (g worker : Gathered) : Gathered where
  listAbonRules := g.listAbonRules ++ worker.listAbonRules
  mapMonitInfo := worker.mapMonitInfo.foldl (fun map entry => map.insert entry.1 entry.2)
    g.mapMonitInfo
  uiActionSet := worker.uiActionSet

/-- What the handler does without the worker: default rules for a new session, default quotas
for an update, by the usage records as it finds them. -/
def GatherCall.fallback (call : GatherCall) (vectUsageInfo : List SSessionUsageInfo) :
    Gathered :=
  match call.soData.i32CCRType with
  | .initialRequest =>
    { call.gathered with
      listAbonRules :=
        pcrfServerLoadRuleInfo call.ruleCache
          (pcrfDrsGetDefaultRuleList call.mapDefaultRule call.soData.soUserEnvironment
            call.soData.uiPeerDialect)
          call.soData.uiPeerDialect call.gathered.listAbonRules }
  | .updateRequest =>
    { call.gathered with
      mapMonitInfo :=
        pcrfSubscriberDataLoadDefQuota call.uiDefaultQuota vectUsageInfo
          call.gathered.mapMonitInfo }
  | _ => call.gathered

/-! ### Steps -/

/-- The counters of a usage record, in the order in which `pcrf_subscriber_data_load_def_quota`
looks at them. -/
inductive UsageCounter where
  | total
  | output
  | input
  deriving Repr, DecidableEq

def SSessionUsageInfo.counter (usage : SSessionUsageInfo) : UsageCounter → OtlValue UInt64
  | .total => usage.coCCTotalOctets
  | .output => usage.coCCOutputOctets
  | .input => usage.coCCInputOctets

inductive HandlerPhase where
  | enter
  | launch
  | waitReady
  | release (code : Int)
  | collect (code : Int)
  /-- In `pcrf_subscriber_data_load_def_quota`, at a counter of the record at a position. -/
  | loadDefQuota (code : Int) (i : Nat) (counter : UsageCounter) (soMonitInfo : SDBMonitoringInfo)
  | unlockCopied (code : Int)
  | done (code : Int)
  | createFailed (code : Int)
  deriving Repr, DecidableEq

inductive WorkerPhase where
  | notCreated
  | connect
  | updateQuota
  /-- In `pcrf_db_session_usage`, with the writes to the usage records that are to come. -/
  | sessionUsage (writes : List (List SSessionUsageInfo))
  | loadRules
  | markActive
  | loadQuota
  | unlockReady
  | waitCopied
  | finished
  deriving Repr, DecidableEq

structure GatherState where
  handler : HandlerPhase := .enter
  worker : WorkerPhase := .notCreated
  uiThreadCount : Nat
  switchedToOffline : Bool := false
  dataReady : Bool := false
  dataCopied : Bool := false
  data : WorkerData
  /-- `m_vectUsageInfo`, of which both threads have the address. -/
  vectUsageInfo : List SSessionUsageInfo
  gathered : Gathered

/-- `EBUSY` and `ETIMEDOUT`. -/
def ebusy : Int := 16
def etimedout : Int := 110

/-- `pcrf_subscriber_data_load_def_quota` looks whether a counter is null, and inserts the quota
of a key with its last counter. -/
def GatherCall.readCounter (call : GatherCall) (code : Int) (i : Nat) (counter : UsageCounter)
    (soMonitInfo : SDBMonitoringInfo) (s : GatherState) : GatherState :=
  match s.vectUsageInfo[i]? with
  | none => { s with handler := .unlockCopied code }
  | some usage =>
    let quota : OtlValue UInt64 :=
      if (usage.counter counter).isNull then .empty else .of call.uiDefaultQuota
    match counter with
    | .total =>
      let soMonitInfo := { soMonitInfo with coDosageTotalOctets := quota }
      { s with handler := .loadDefQuota code i .output soMonitInfo }
    | .output =>
      let soMonitInfo := { soMonitInfo with coDosageOutputOctets := quota }
      { s with handler := .loadDefQuota code i .input soMonitInfo }
    | .input =>
      let soMonitInfo := { soMonitInfo with coDosageInputOctets := quota }
      { s with
        gathered :=
          { s.gathered with
            mapMonitInfo :=
              s.gathered.mapMonitInfo.insert usage.coMonitoringKey.v soMonitInfo }
        handler := .loadDefQuota code (i + 1) .total { isReported := true } }

def GatherCall.stepHandler (call : GatherCall) (s : GatherState) : GatherState :=
  match s.handler with
  -- `pcrf_subscriber_data_increment_counter`
  | .enter =>
    if s.uiThreadCount < call.uiMaxCCRHandlers then
      { s with uiThreadCount := s.uiThreadCount + 1, handler := .launch }
    else { s with handler := .collect ebusy }
  | .launch =>
    if call.createCode = 0 then { s with handler := .waitReady, worker := .connect }
    -- `CHECK_FCT` returns at once: the slot is not given back, and there is no fallback
    else { s with handler := .createFailed call.createCode }
  | .waitReady =>
    if s.dataReady then { s with handler := .release 0, dataReady := false } else s
  | .release code => { s with uiThreadCount := s.uiThreadCount - 1, handler := .collect code }
  | .collect code =>
    if code = 0 then
      { s with gathered := s.gathered.copyFrom s.data.gathered, handler := .unlockCopied code }
    else
      { s with
        switchedToOffline := true
        gathered := call.fallback s.vectUsageInfo
        handler := .unlockCopied code }
  | .loadDefQuota code i counter soMonitInfo => call.readCounter code i counter soMonitInfo s
  | .unlockCopied code => { s with dataCopied := true, handler := .done code }
  | .done _ => s
  | .createFailed _ => s

/-- A handler that falls back for an update comes to the loop over the usage records; they can
change while it is in there. -/
def GatherCall.enterDefQuota (call : GatherCall) (s : GatherState) : GatherState :=
  match s.handler with
  | .collect code =>
    if code != 0 && call.soData.i32CCRType == .updateRequest then
      { s with
        switchedToOffline := true
        handler := .loadDefQuota code 0 .total { isReported := true } }
    else call.stepHandler s
  | _ => call.stepHandler s

/-- A worker without a connection, or one that finds the flag set, goes to its end. -/
def GatherCall.stepWorker (call : GatherCall) (s : GatherState) : GatherState :=
  match s.worker, call.pcoDBConn with
  | .connect, none => { s with worker := .unlockReady }
  | .connect, some _ => { s with worker := .updateQuota }
  -- the one place where the flag does not end the work
  | .updateQuota, some db =>
    let data := s.data.updateQuota db s.switchedToOffline
    { s with data := data, vectUsageInfo := data.soData.vectUsageInfo, worker := .loadRules }
  | .sessionUsage (vectUsageInfo :: writes), some _ =>
    { s with vectUsageInfo := vectUsageInfo, worker := .sessionUsage writes }
  | .sessionUsage [], some db =>
    { s with data := s.data.updateQuota db false, worker := .loadRules }
  | .loadRules, some db =>
    if s.switchedToOffline then { s with worker := .unlockReady }
    else { s with data := s.data.loadRules call.ruleCache db, worker := .markActive }
  | .markActive, some _ =>
    if s.switchedToOffline then { s with worker := .unlockReady }
    else
      { s with
        data := s.data.markActive
        worker :=
          if s.data.gathered.uiActionSet.operateRule then .loadQuota else .unlockReady }
  | .loadQuota, some db =>
    if s.switchedToOffline then { s with worker := .unlockReady }
    else { s with data := s.data.loadQuota db, worker := .unlockReady }
  | .unlockReady, _ => { s with dataReady := true, worker := .waitCopied }
  | .waitCopied, _ => if s.dataCopied then { s with worker := .finished } else s
  | _, _ => s

/-- A worker that submits the usage records at once comes to the loop over them. Its own data
is brought up to date at the end of the loop, the records that the handler sees at each write. -/
def GatherCall.enterSessionUsage (call : GatherCall) (s : GatherState) : GatherState :=
  match s.worker, call.pcoDBConn with
  | .updateQuota, some db =>
    if s.data.submitsAtOnce s.switchedToOffline then
      { s with worker := .sessionUsage (s.data.usageWrites db) }
    else call.stepWorker s
  | _, _ => call.stepWorker s

/-- The wait of the handler ends without the mutex. -/
def GatherCall.stepTimeout (s : GatherState) : GatherState :=
  match s.handler with
  -- a mutex that is free is taken, however late
  | .waitReady => if s.dataReady then s else { s with handler := .release etimedout }
  | _ => s

/-- A thread that takes its turn runs through a loop over the usage records, or only enters it
and goes on by one record's counter with each turn. -/
inductive Turn where
  | handler
  | worker
  | timeout
  | enterDefQuota
  | enterSessionUsage
  deriving Repr, DecidableEq

def GatherCall.start (call : GatherCall) : GatherState where
  uiThreadCount := call.uiThreadCount
  data := call.workerData
  vectUsageInfo := call.soData.vectUsageInfo
  gathered := call.gathered

/-- The two threads of a call, taking their steps in any order. -/
def GatherCall.machine (call : GatherCall) : Machine GatherState Turn where
  init := call.start
  step s
    | .handler => call.stepHandler s
    | .worker => call.stepWorker s
    | .timeout => GatherCall.stepTimeout s
    | .enterDefQuota => call.enterDefQuota s
    | .enterSessionUsage => call.enterSessionUsage s

/-- The code that the handler has returned. -/
def GatherState.returned (s : GatherState) : Option Int :=
  match s.handler with
  | .done code => some code
  | .createFailed code => some code
  | _ => none

end Pcrf
