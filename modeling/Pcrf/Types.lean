import Mathlib.Data.List.Basic

/-!
Data of the policy server: nullable database values, peer dialects and the records that the
caches and the request handlers pass to each other. Strings stand for byte strings, one
character for each byte.
-/

namespace Pcrf

def EINVAL : Int := 22

/-- A nullable value. A null one still carries a `v`, which code that does not ask
`isNull` reads. -/
structure OtlValue (α : Type) where
  v : α
  null : Bool
  deriving Repr, DecidableEq

namespace OtlValue

variable {α : Type}

/-- `otl_value<T>()`: null, with the default value of `T` inside. -/
def empty [Inhabited α] : OtlValue α := ⟨default, true⟩

/-- Assignment from a plain value. -/
def of (a : α) : OtlValue α := ⟨a, false⟩

def isNull (o : OtlValue α) : Bool := o.null

/-- The value, when there is one. -/
def toOption (o : OtlValue α) : Option α := if o.null then none else some o.v

/-- `if ( ! src.is_null() ) dst = src;` -/
def updateFrom (dst src : OtlValue α) : OtlValue α := if src.isNull then dst else src

instance [Inhabited α] : Inhabited (OtlValue α) := ⟨empty⟩

@[simp] theorem isNull_of (a : α) : (of a).isNull = false := rfl

@[simp] theorem v_of (a : α) : (of a).v = a := rfl

theorem toOption_eq_some {o : OtlValue α} {a : α} :
    o.toOption = some a ↔ o.isNull = false ∧ o.v = a := by
  simp only [toOption, isNull]
  cases o.null <;> simp

theorem toOption_eq_none {o : OtlValue α} : o.toOption = none ↔ o.isNull = true := by
  simp only [toOption, isNull]
  cases o.null <;> simp

end OtlValue

/-- `GX_UNDEF` … `RX_IMS`; any other protocol number of the peer table is unsupported. -/
inductive PeerDialect where
  | gxUndef
  | gxHwUgw
  | gxCiscoSce
  | gxProcera
  | gxEricssn
  | rxIms
  | unsupported (code : Nat)
  deriving Repr, DecidableEq, Inhabited

/-- The dialects whose sessions are indexed by address: `GX_HW_UGW` and `GX_ERICSSN`. -/
def PeerDialect.isIPCAN : PeerDialect → Bool
  | gxHwUgw | gxEricssn => true
  | _ => false

/-- `SSessionCache`: what is kept of a session. -/
structure SSessionCache where
  coSubscriberId : OtlValue String := .empty
  coFramedIPAddr : OtlValue String := .empty
  coCalledStationId : OtlValue String := .empty
  coIPCANType : OtlValue String := .empty
  coSGSNMCCMNC : OtlValue String := .empty
  coSGSNIPAddr : OtlValue String := .empty
  coRATType : OtlValue String := .empty
  coOriginHost : OtlValue String := .empty
  coOriginRealm : OtlValue String := .empty
  coCGI : OtlValue String := .empty
  coECGI : OtlValue String := .empty
  coTAI : OtlValue String := .empty
  coIMEISV : OtlValue String := .empty
  coEndUserIMSI : OtlValue String := .empty
  coEndUserE164 : OtlValue String := .empty
  iIPCANType : Int32 := 0
  iRATType : Int32 := 0
  deriving Repr, DecidableEq, Inhabited

/-- `SDBMonitoringInfo`: quota left for a monitoring key. -/
structure SDBMonitoringInfo where
  isReported : Bool := false
  coDosageTotalOctets : OtlValue UInt64 := .empty
  coDosageOutputOctets : OtlValue UInt64 := .empty
  coDosageInputOctets : OtlValue UInt64 := .empty
  deriving Repr, DecidableEq, Inhabited

structure SSubscriptionIdData where
  coEndUserE164 : OtlValue String := .empty
  coEndUserIMSI : OtlValue String := .empty
  coEndUserSIPURI : OtlValue String := .empty
  coEndUserNAI : OtlValue String := .empty
  coEndUserPrivate : OtlValue String := .empty
  deriving Repr, DecidableEq, Inhabited

/-- `SSessionInfo`. The map of monitoring keys is kept as its list of entries. -/
structure SSessionInfo where
  uiPeerDialect : PeerDialect := .gxUndef
  strSessionId : String := ""
  strSubscriberId : String := ""
  coOriginHost : OtlValue String := .empty
  coOriginRealm : OtlValue String := .empty
  soSubscriptionData : SSubscriptionIdData := {}
  coIMEI : OtlValue String := .empty
  coFramedIPAddress : OtlValue String := .empty
  coCalledStationId : OtlValue String := .empty
  mapMonitInfo : List (String × SDBMonitoringInfo) := []
  deriving Repr, DecidableEq, Inhabited

/-- `SSessionUsageInfo`: one usage record of a request. -/
structure SSessionUsageInfo where
  coMonitoringKey : OtlValue String := .empty
  coCCInputOctets : OtlValue UInt64 := .empty
  coCCOutputOctets : OtlValue UInt64 := .empty
  coCCTotalOctets : OtlValue UInt64 := .empty
  deriving Repr, DecidableEq, Inhabited

structure SUserLocation where
  coCGI : OtlValue String := .empty
  coRAI : OtlValue String := .empty
  coTAI : OtlValue String := .empty
  coECGI : OtlValue String := .empty
  deriving Repr, DecidableEq, Inhabited

structure SUserEnvironment where
  coSGSNMCCMNC : OtlValue String := .empty
  coSGSNAddress : OtlValue String := .empty
  coRATType : OtlValue String := .empty
  iRATType : Int32 := 0
  coIPCANType : OtlValue String := .empty
  iIPCANType : Int32 := 0
  soUsrLoc : SUserLocation := {}
  deriving Repr, DecidableEq, Inhabited

structure SAllocationRetentionPriority where
  coPriorityLevel : OtlValue UInt32 := .empty
  coPreemptionCapability : OtlValue Int32 := .empty
  coPreemptionVulnerability : OtlValue UInt32 := .empty
  deriving Repr, DecidableEq, Inhabited

structure SDefaultEPSBearerQoS where
  coQoSClassIdentifier : OtlValue Int32 := .empty
  soARP : OtlValue SAllocationRetentionPriority := .empty
  deriving Repr, DecidableEq, Inhabited

structure SQoSInformation where
  coAPNAggregateMaxBitrateDL : OtlValue UInt32 := .empty
  coAPNAggregateMaxBitrateUL : OtlValue UInt32 := .empty
  deriving Repr, DecidableEq, Inhabited

/-- `SSessionPolicyInfo`: one Charging-Rule-Report. -/
structure SSessionPolicyInfo where
  coChargingRuleName : OtlValue String := .empty
  coPCCRuleStatus : OtlValue Int32 := .empty
  coRuleFailureCode : OtlValue Int32 := .empty
  coRuleFailureCodeEnum : OtlValue String := .empty
  deriving Repr, DecidableEq, Inhabited

/-- The values of CC-Request-Type. -/
inductive CCRequestType where
  | initialRequest
  | updateRequest
  | terminationRequest
  | other (code : Int32)
  deriving Repr, DecidableEq, Inhabited

structure SRequestInfo where
  iCCRequestType : CCRequestType := .other 0
  coBearerIdentifier : OtlValue String := .empty
  coMaxRequestedBandwidthUl : OtlValue UInt32 := .empty
  coMaxRequestedBandwidthDl : OtlValue UInt32 := .empty
  coQoSInformation : OtlValue SQoSInformation := .empty
  coGuaranteedBitrateUl : OtlValue UInt32 := .empty
  coGuaranteedBitrateDl : OtlValue UInt32 := .empty
  soUserEnvironment : SUserEnvironment := {}
  coDEPSBQoS : OtlValue SDefaultEPSBearerQoS := .empty
  coTetheringFlag : OtlValue UInt32 := .empty
  vectUsageInfo : List SSessionUsageInfo := []
  vectEventTrigger : List Int32 := []
  vectCRR : List SSessionPolicyInfo := []
  deriving Repr, DecidableEq, Inhabited

structure SFlowInformation where
  coFlowDescription : OtlValue String := .empty
  coFlowDirection : OtlValue Int32 := .empty
  deriving Repr, DecidableEq, Inhabited

/-- `SDBAbonRule`: a rule of a subscriber, with the two marks that compare the rules a
session has with the rules it should have. -/
structure SDBAbonRule where
  isActive : Bool := false
  isRelevant : Bool := false
  strRuleName : String := ""
  coDynamicRuleFlag : OtlValue Int32 := .empty
  coRuleGroupFlag : OtlValue Int32 := .empty
  coPrecedenceLevel : OtlValue Int32 := .empty
  coFlowStatus : OtlValue Int32 := .empty
  coRatingGroupId : OtlValue UInt32 := .empty
  coServiceId : OtlValue UInt32 := .empty
  coMeteringMethod : OtlValue Int32 := .empty
  coReportingLevel : OtlValue Int32 := .empty
  coOnlineCharging : OtlValue Int32 := .empty
  coOfflineCharging : OtlValue Int32 := .empty
  coQoSClassIdentifier : OtlValue Int32 := .empty
  soARP : SAllocationRetentionPriority := {}
  coMaxRequestedBandwidthUl : OtlValue UInt32 := .empty
  coMaxRequestedBandwidthDl : OtlValue UInt32 := .empty
  coGuaranteedBitrateUl : OtlValue UInt32 := .empty
  coGuaranteedBitrateDl : OtlValue UInt32 := .empty
  coRedirectAddressType : OtlValue Int32 := .empty
  coRedirectServerAddress : OtlValue String := .empty
  vectFlowDescr : List SFlowInformation := []
  coSCE_PackageId : OtlValue Int32 := .empty
  coSCE_RealTimeMonitor : OtlValue Int32 := .empty
  coSCE_UpVirtualLink : OtlValue UInt32 := .empty
  coSCE_DownVirtualLink : OtlValue UInt32 := .empty
  vectMonitKey : List String := []
  deriving Repr, DecidableEq, Inhabited

/-- The names of a list of rules, in order. -/
def ruleNames (rules : List SDBAbonRule) : List String := rules.map SDBAbonRule.strRuleName

/-- `timeval`. -/
structure Timeval where
  tvSec : Int
  tvUsec : Int
  deriving Repr, DecidableEq, Inhabited

/-- `SRefQueue`: an entry of the queue of policy refreshes. -/
structure SRefQueue where
  strRowId : String := ""
  strIdentifier : String := ""
  strIdentifierType : String := ""
  coAction : OtlValue String := .empty
  deriving Repr, DecidableEq, Inhabited

/-- The constructor of `SRefQueue` that the local queue uses; `none` is a null pointer. -/
def SRefQueue.make (identifier : String) (identifierType action : Option String) : SRefQueue :=
  let v := action.getD ""
  { strIdentifier := identifier
    strIdentifierType := identifierType.getD ""
    coAction := ⟨v, v.length == 0⟩ }

end Pcrf
