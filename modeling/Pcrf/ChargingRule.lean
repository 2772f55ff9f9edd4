import Pcrf.Lib.Calls
import Pcrf.SessionRule

/-!
The AVPs that install and remove charging rules, built as `pcrf_server.cpp` builds them: each
`fd_msg_avp_new`, `fd_msg_avp_setvalue` and `fd_msg_avp_add` is one call that may fail.
-/

namespace Pcrf

open Lib CallM

/-- The dictionary objects of the AVPs that are built here. -/
inductive Dict where
  | chargingRuleRemove | chargingRuleInstall | chargingRuleDefinition
  | chargingRuleName | chargingRuleBaseName | bearerIdentifier
  | serviceIdentifier | flowStatus | ratingGroup
  | flowInformation | flowDescription | flowDirection
  | qosInformation | qosClassIdentifier
  | maxRequestedBandwidthUL | maxRequestedBandwidthDL
  | guaranteedBitrateUL | guaranteedBitrateDL
  | allocationRetentionPriority | priorityLevel
  | preemptionCapability | preemptionVulnerability
  | reportingLevel | online | offline | meteringMethod | precedence | monitoringKey
  | redirectServer | redirectAddressType | redirectServerAddress
  | usageMonitoringInformation | usageMonitoringLevel | usageMonitoringReport
  | grantedServiceUnit | ccTotalOctets | ccInputOctets | ccOutputOctets
  | eventTrigger
  | ciscoBBPackageInstall | ciscoBBRTMonitorInstall
  | ciscoBBVlinkUStreamInstall | ciscoBBVlinkDStreamInstall
  deriving Repr, DecidableEq

/-- `union avp_value`. -/
inductive AvpValue where
  | os (data : String)
  | i32 (n : Int32)
  | u32 (n : UInt32)
  | u64 (n : UInt64)
  deriving Repr, DecidableEq

inductive Avp where
  | leaf (dict : Dict) (value : AvpValue)
  | group (dict : Dict) (children : List Avp)

/-- A Re-Auth-Request: where it goes, the AVPs behind its fixed head, and the value of its
Session-Release-Cause, if it has one. -/
structure RarMessage where
  sessionId : String
  destHost : String
  destRealm : String
  avps : List Avp := []
  sessionReleaseCause : Option UInt32 := none

/-- What building a message works on: the rules that are issued, the AVPs put straight into the
message so far, and the requests that have been sent. -/
structure AnswerState where
  store : RuleStore := {}
  answer : List Avp := []
  sent : List RarMessage := []

abbrev FdM := CallM AnswerState

/-- A step that adds something to the children of an AVP. -/
abbrev Part := List Avp → FdM (List Avp)

/-- Create an AVP, give it a value and add it. -/
def putLeaf (dict : Dict) (value : AvpValue) : Part := fun children => do
  call
  call
  call
  return children ++ [.leaf dict value]

/-- The same for a value that may be absent. -/
def putValue {α : Type} (o : OtlValue α) (dict : Dict) (value : α → AvpValue) : Part :=
  if o.isNull then fun children => return children else putLeaf dict (value o.v)

/-- Create a grouped AVP, fill it and add it. -/
def putGroup (dict : Dict) (parts : List Part) : Part := fun children => do
  call
  let inner ← runAll parts []
  call
  return children ++ [.group dict inner]

/-- Put an AVP straight into the message. -/
def putMessage (part : Part) : FdM Unit := do
  let avps ← part []
  update fun st => { st with answer := st.answer ++ avps }

def setEventTrigger (trigId : Int32) : FdM Unit :=
  putMessage (putLeaf .eventTrigger (.i32 trigId))

def pcrfSetCRN (dict : Dict) (name : String) : Part := putLeaf dict (.os name)

/-! ### Charging-Rule-Definition -/

/-- `ui32Value > limit ? limit : ui32Value`, for a limit that may be absent. -/
def limitedBy (value : UInt32) (limit : OtlValue UInt32) : UInt32 :=
  if limit.isNull then value else if value > limit.v then limit.v else value

/-- The value of a rule, limited by the request and by the bitrate of the APN. -/
def putBandwidth (dict : Dict) (ruleValue requested apn : OtlValue UInt32) : Part :=
  putValue ruleValue dict fun v => .u32 (limitedBy (limitedBy v requested) apn)

def requested (reqInfo : Option SRequestInfo) (field : SRequestInfo → OtlValue UInt32) :
    OtlValue UInt32 :=
  (reqInfo.map field).getD .empty

/-- The bitrate of the APN, if the request has QoS-Information. -/
def apnBitrate (reqInfo : Option SRequestInfo) (field : SQoSInformation → OtlValue UInt32) :
    OtlValue UInt32 :=
  requested reqInfo fun req =>
    if req.coQoSInformation.isNull then .empty else field req.coQoSInformation.v

/-- The bitrate as Guaranteed-Bitrate-DL reads it: only if QoS-Information is null. -/
def apnBitrateOfNull (reqInfo : Option SRequestInfo)
    (field : SQoSInformation → OtlValue UInt32) : OtlValue UInt32 :=
  requested reqInfo fun req =>
    if req.coQoSInformation.isNull then field req.coQoSInformation.v else .empty

/-- Priority-Level: from the rule, else from the default bearer, else 2. -/
def priorityLevel (reqInfo : Option SRequestInfo) (rule : SDBAbonRule) : UInt32 :=
  if !rule.soARP.coPriorityLevel.isNull then rule.soARP.coPriorityLevel.v
  else
    match reqInfo with
    | some req =>
      if !req.coDEPSBQoS.isNull && !req.coDEPSBQoS.v.soARP.isNull &&
          !req.coDEPSBQoS.v.soARP.v.coPriorityLevel.isNull then
        req.coDEPSBQoS.v.soARP.v.coPriorityLevel.v
      else 2
    | none => 2

def pcrfMakeQoSI (reqInfo : Option SRequestInfo) (rule : SDBAbonRule) : FdM Avp := do
  call
  let children ← runAll [
    putValue rule.coQoSClassIdentifier .qosClassIdentifier .i32,
    putBandwidth .maxRequestedBandwidthUL rule.coMaxRequestedBandwidthUl
      (requested reqInfo (·.coMaxRequestedBandwidthUl))
      (apnBitrate reqInfo (·.coAPNAggregateMaxBitrateUL)),
    putBandwidth .maxRequestedBandwidthDL rule.coMaxRequestedBandwidthDl
      (requested reqInfo (·.coMaxRequestedBandwidthDl))
      (apnBitrate reqInfo (·.coAPNAggregateMaxBitrateDL)),
    putBandwidth .guaranteedBitrateUL rule.coGuaranteedBitrateUl
      (requested reqInfo (·.coGuaranteedBitrateUl))
      (apnBitrate reqInfo (·.coAPNAggregateMaxBitrateUL)),
    putBandwidth .guaranteedBitrateDL rule.coGuaranteedBitrateDl
      (requested reqInfo (·.coGuaranteedBitrateDl))
      (apnBitrateOfNull reqInfo (·.coAPNAggregateMaxBitrateDL)),
    putGroup .allocationRetentionPriority [
      putLeaf .priorityLevel (.u32 (priorityLevel reqInfo rule)),
      putValue rule.soARP.coPreemptionCapability .preemptionCapability .i32,
      putValue rule.soARP.coPreemptionVulnerability .preemptionVulnerability
        fun v => .i32 v.toInt32]] []
  return .group .qosInformation children

/-- A definition is sent without QoS-Information when that cannot be made. -/
def putQoSI (reqInfo : Option SRequestInfo) (rule : SDBAbonRule) : Part := fun children => do
  match ← attempt (pcrfMakeQoSI reqInfo rule) with
  | some qosi =>
    call
    return children ++ [qosi]
  | none => return children

def putFlowInformation (flow : SFlowInformation) : Part :=
  putGroup .flowInformation [
    putValue flow.coFlowDescription .flowDescription .os,
    putValue flow.coFlowDirection .flowDirection .i32]

def putMonitoringKey (rule : SDBAbonRule) : Part :=
  match rule.vectMonitKey with
  | [] => fun children => return children
  | key :: _ => putLeaf .monitoringKey (.os key)

def putRedirectServer (rule : SDBAbonRule) : Part :=
  if rule.coRedirectAddressType.isNull || rule.coRedirectServerAddress.isNull then
    fun children => return children
  else
    putGroup .redirectServer [
      putLeaf .redirectAddressType (.i32 rule.coRedirectAddressType.v),
      putLeaf .redirectServerAddress (.os rule.coRedirectServerAddress.v)]

/-- `! flag.is_null() && flag.v`. -/
def flagSet (flag : OtlValue Int32) : Bool := !flag.isNull && flag.v != 0

/-- The AVP that names a rule: a group of rules has a base name. -/
def nameDict (rule : SDBAbonRule) : Dict :=
  if flagSet rule.coRuleGroupFlag then .chargingRuleBaseName else .chargingRuleName

def pcrfMakeCRD (reqInfo : Option SRequestInfo) (rule : SDBAbonRule) : FdM Avp := do
  if flagSet rule.coDynamicRuleFlag then
    -- a dynamic rule has its name as the first child, also when it is a group
    call
    let named ← pcrfSetCRN .chargingRuleName rule.strRuleName []
    let children ← runAll (
      [putValue rule.coServiceId .serviceIdentifier .u32,
       putValue rule.coFlowStatus .flowStatus .i32,
       putValue rule.coRatingGroupId .ratingGroup .u32] ++
      rule.vectFlowDescr.map putFlowInformation ++
      [putQoSI reqInfo rule,
       putValue rule.coReportingLevel .reportingLevel .i32,
       putValue rule.coOnlineCharging .online .i32,
       putValue rule.coOfflineCharging .offline .i32,
       putValue rule.coMeteringMethod .meteringMethod .i32,
       putValue rule.coPrecedenceLevel .precedence fun v => .u32 v.toUInt32,
       putMonitoringKey rule,
       putRedirectServer rule]) named
    return .group .chargingRuleDefinition children
  else
    -- a predefined rule is only named
    call
    call
    return .leaf (nameDict rule) (.os rule.strRuleName)

end Pcrf
