import Pcrf.SubscriberCache
import Pcrf.UserLocation

/-!
What `pcrf_extract_req_data` takes from the AVPs of a CCR. The big switch is kept as three, by the
structure that a case writes to: the session, the request, or the user environment of the request.
-/

namespace Pcrf

/-! ### AVPs -/

/-- The readings of an `avp_value`, which is a union: its octet string, and its number. -/
structure ReceivedValue where
  os : List UInt8 := []
  number : UInt64 := 0
  deriving Repr, DecidableEq

namespace ReceivedValue

def u32 (value : ReceivedValue) : UInt32 := value.number.toUInt32

def i32 (value : ReceivedValue) : Int32 := value.number.toUInt32.toInt32

def u64 (value : ReceivedValue) : UInt64 := value.number

def text (value : ReceivedValue) : String :=
  String.ofList (value.os.map fun octet => Char.ofNat octet.toNat)

end ReceivedValue

/-- An AVP of a request. -/
structure CcrAvp where
  isVendor : Bool := false
  vendor : UInt32 := 0
  code : UInt32
  value : ReceivedValue := {}
  children : List CcrAvp := []

namespace CcrAvp

/-- What the extractors of grouped AVPs look at. -/
def header (avp : CcrAvp) : UInt32 × UInt32 := (avp.vendor, avp.code)

/-- `tVenId` and the code: without the flag the vendor is 0. -/
def key (avp : CcrAvp) : UInt32 × UInt32 := (if avp.isVendor then avp.vendor else 0, avp.code)

end CcrAvp

/-! ### Values -/

/-- `avp_basetype` -/
inductive AvpBasetype where
  | grouped
  | octetString
  | integer32
  | integer64
  | unsigned32
  | unsigned64
  | float32
  | float64
  deriving Repr, DecidableEq

/-- The dictionary of freeDiameter: the base type of an AVP, whether its type is known, and the
names of the values of that type. `printFloat` is what `"%f"` makes of a value. -/
structure Dictionary where
  basetype : UInt32 × UInt32 → Option AvpBasetype
  typeOfAvp : UInt32 × UInt32 → Bool
  enumval : UInt32 × UInt32 → ReceivedValue → Option String
  printFloat : AvpBasetype → ReceivedValue → String

/-- The text in a buffer, behind which a null has to fit. -/
def clip (bufSize : Nat) (text : String) : String :=
  String.ofList (text.toList.take (bufSize - 1))

/-- `"%#0*x"`: a zero has no `0x`. -/
def printHex (width n : Nat) : String :=
  let digits := Nat.toDigits 16 n
  if n = 0 then String.ofList (List.replicate width '0')
  else String.ofList ('0' :: 'x' :: (List.replicate (width - 2 - digits.length) '0' ++ digits))

example : printHex 8 1005 = "0x0003ed" := by decide

/-- `pcrf_extract_avp_enum_val`: the text in the buffer, when the result is 0. -/
def pcrfExtractAvpEnumVal (dict : Dictionary) (avp : CcrAvp) (bufSize : Nat) : Option String :=
  match dict.basetype avp.header with
  | none | some .grouped | some .octetString => none
  | some basetype =>
    if dict.typeOfAvp avp.header then
      match dict.enumval avp.header avp.value with
      | some name => some (clip bufSize name)
      | none =>
        match basetype with
        | .integer32 | .unsigned32 => some (clip bufSize (printHex 8 avp.value.u32.toNat))
        | .integer64 | .unsigned64 => some (clip bufSize (printHex 16 avp.value.u64.toNat))
        | _ => some (clip bufSize (dict.printFloat basetype avp.value))
    else none

/-- `if( 0 == pcrf_extract_avp_enum_val( … ) ) { dst = mcValue; }` -/
def OtlValue.assign (dst : OtlValue String) (text : Option String) : OtlValue String :=
  text.elim dst .of

/-- `dst.v.insert( 0, … )` and `dst.set_non_null()` -/
def OtlValue.prepend (dst : OtlValue String) (text : String) : OtlValue String :=
  .of (text ++ dst.v)

/-- `pcrf_ip_addr_to_string` -/
def pcrfIpAddrToString (octets : List UInt8) (coIPAddress : OtlValue String) : OtlValue String :=
  match octets with
  | [b1, b2, b3, b4] =>
    .of (toString b1.toNat ++ "." ++ toString b2.toNat ++ "." ++ toString b3.toNat ++ "." ++
      toString b4.toNat)
  | _ => coIPAddress

/-- The `memcpy` and `ntohl` of a Framed-IP-Address of four octets. -/
def framedIPNumber (octets : List UInt8) (ui32FramedIPAddress : UInt32) : UInt32 :=
  match octets with
  | [b1, b2, b3, b4] =>
    b1.toUInt32 <<< 24 ||| b2.toUInt32 <<< 16 ||| b3.toUInt32 <<< 8 ||| b4.toUInt32
  | _ => ui32FramedIPAddress

/-! ### The structures -/

/-- `SSF` -/
structure SSF where
  ui32VendorId : UInt32 := 0
  ui32FeatureListID : UInt32 := 0
  ui32FeatureList : UInt32 := 0
  deriving Repr, DecidableEq

/-- The members of `SSessionInfo` that are written here, beside those that are read elsewhere. -/
structure ExtractedSession extends SSessionInfo where
  coOriginStateId : OtlValue UInt32 := .empty
  ui32FramedIPAddress : UInt32 := 0xFFFFFFFF
  coTermCause : OtlValue String := .empty
  listSF : List SSF := []
  deriving DecidableEq

/-- The same of `SUserEnvironment`. -/
structure ExtractedEnvironment extends SUserEnvironment where
  bLoaded : Bool := false
  coSGSNIPv6Address : OtlValue String := .empty
  deriving DecidableEq

/-- The same of `SSessionPolicyInfo`. -/
structure ReportedPolicy extends SSessionPolicyInfo where
  coPCCRuleStatusEnum : OtlValue String := .empty
  deriving DecidableEq

/-- The same of `SRequestInfo`. Of the user environment the rest stands beside it, and of the
elements of `vectCRR` as well. -/
structure ExtractedRequest extends SRequestInfo where
  coCCRequestType : OtlValue String := .empty
  coCCRequestNumber : OtlValue UInt32 := .empty
  coOnlineCharging : OtlValue String := .empty
  coOfflineCharging : OtlValue String := .empty
  coQoSUpgrade : OtlValue String := .empty
  coQoSNegotiation : OtlValue String := .empty
  coBearerUsage : OtlValue String := .empty
  coBearerOperation : OtlValue String := .empty
  bLoaded : Bool := false
  coSGSNIPv6Address : OtlValue String := .empty
  vectPCCRuleStatusEnum : List (OtlValue String) := []
  deriving DecidableEq

namespace ExtractedRequest

def environment (req : ExtractedRequest) : ExtractedEnvironment where
  toSUserEnvironment := req.soUserEnvironment
  bLoaded := req.bLoaded
  coSGSNIPv6Address := req.coSGSNIPv6Address

def withEnvironment (req : ExtractedRequest) (e : ExtractedEnvironment) : ExtractedRequest :=
  { req with
    soUserEnvironment := e.toSUserEnvironment
    bLoaded := e.bLoaded
    coSGSNIPv6Address := e.coSGSNIPv6Address }

end ExtractedRequest

/-- What the pointers of `SMsgDataForDB` lead to, as the constructors leave it at first. -/
structure ExtractedData where
  sess : ExtractedSession := {}
  req : ExtractedRequest := {}
  deriving DecidableEq

/-! ### Grouped AVPs -/

/-- The loop of `pcrf_extract_SubscriptionId`: the type and the data. -/
def readSubscriptionId (avp : CcrAvp) : Int32 × String :=
  avp.children.foldl (fun (iSubscriptionIdType, strSubscriptionIdData) (child : CcrAvp) =>
    if child.header = (0, 450) then (child.value.i32, strSubscriptionIdData)
    else if child.header = (0, 444) then
      (iSubscriptionIdType, child.value.text ++ strSubscriptionIdData)
    else (iSubscriptionIdType, strSubscriptionIdData)) (-1, "")

/-- `DIAM_END_USER_E164` … `DIAM_END_USER_PRIVATE` -/
def SubscriberIdType.toInt32 : SubscriberIdType → Int32
  | endUserE164 => 0
  | endUserIMSI => 1
  | endUserSIPURI => 2
  | endUserNAI => 3
  | endUserPrivate => 4

def SubscriberIdType.ofInt32 (type : Int32) : Option SubscriberIdType :=
  [endUserE164, endUserIMSI, endUserSIPURI, endUserNAI, endUserPrivate].find? fun name =>
    name.toInt32 == type

def SSubscriptionIdData.assign (data : SSubscriptionIdData) (text : String) :
    SubscriberIdType → SSubscriptionIdData
  | .endUserE164 => { data with coEndUserE164 := .of text }
  | .endUserIMSI => { data with coEndUserIMSI := .of text }
  | .endUserSIPURI => { data with coEndUserSIPURI := .of text }
  | .endUserNAI => { data with coEndUserNAI := .of text }
  | .endUserPrivate => { data with coEndUserPrivate := .of text }

/-- `pcrf_extract_SubscriptionId` -/
def pcrfExtractSubscriptionId (avp : CcrAvp) (data : SSubscriptionIdData) :
    SSubscriptionIdData :=
  let (iSubscriptionIdType, strSubscriptionIdData) := readSubscriptionId avp
  if strSubscriptionIdData.length = 0 then data
  else (SubscriberIdType.ofInt32 iSubscriptionIdType).elim data (data.assign strSubscriptionIdData)

/-- `pcrf_extract_UEI` -/
def pcrfExtractUEI (avp : CcrAvp) (coIMEI : OtlValue String) : OtlValue String :=
  let (iType, strInfo) := avp.children.foldl (fun (iType, strInfo) child =>
    if child.header = (0, 459) then (child.value.i32, strInfo)
    else if child.header = (0, 460) then (iType, child.value.text ++ strInfo)
    else (iType, strInfo)) ((-1 : Int32), "")
  if iType = 0 then .of strInfo else coIMEI

/-- The loop of `pcrf_extract_ChargingRuleReport`. -/
def readChargingRuleReport (dict : Dictionary) (avp : CcrAvp) : ReportedPolicy :=
  avp.children.foldl (fun (soPolicy : ReportedPolicy) child =>
    if child.header = (10415, 1005) then
      { soPolicy with
        coChargingRuleName := soPolicy.coChargingRuleName.prepend child.value.text }
    else if child.header = (10415, 1019) then
      { soPolicy with
        coPCCRuleStatus := .of child.value.i32
        coPCCRuleStatusEnum :=
          soPolicy.coPCCRuleStatusEnum.assign (pcrfExtractAvpEnumVal dict child 0x10000) }
    else if child.header = (10415, 1031) then
      { soPolicy with
        coRuleFailureCode := .of child.value.i32
        coRuleFailureCodeEnum :=
          soPolicy.coRuleFailureCodeEnum.assign (pcrfExtractAvpEnumVal dict child 0x10000) }
    else soPolicy) {}

/-- A report is kept when it has the name of a rule and the code of a failure. -/
def ReportedPolicy.push {α : Type} (soPolicy : ReportedPolicy) (vect : List α) (x : α) : List α :=
  if !soPolicy.coChargingRuleName.isNull && !soPolicy.coRuleFailureCode.isNull then vect ++ [x]
  else vect

/-- `pcrf_extract_SF` -/
def pcrfExtractSF (avp : CcrAvp) (listSupportedFeatures : List SSF) : List SSF :=
  listSupportedFeatures ++ [avp.children.foldl (fun (soSF : SSF) child =>
    if child.header = (0, 266) then { soSF with ui32VendorId := child.value.u32 }
    else if child.header = (10415, 629) then { soSF with ui32FeatureListID := child.value.u32 }
    else if child.header = (10415, 630) then { soSF with ui32FeatureList := child.value.u32 }
    else soSF) {}]

/-- `pcrf_extract_USU` -/
def pcrfExtractUSU (avp : CcrAvp) (soUsageInfo : SSessionUsageInfo) : SSessionUsageInfo :=
  avp.children.foldl (fun soUsageInfo child =>
    if child.header = (0, 412) then { soUsageInfo with coCCInputOctets := .of child.value.u64 }
    else if child.header = (0, 414) then
      { soUsageInfo with coCCOutputOctets := .of child.value.u64 }
    else if child.header = (0, 421) then
      { soUsageInfo with coCCTotalOctets := .of child.value.u64 }
    else soUsageInfo) soUsageInfo

/-- `pcrf_extract_UMI`: without a key the usage is not kept. -/
def pcrfExtractUMI (avp : CcrAvp) (vectUsageInfo : List SSessionUsageInfo) :
    List SSessionUsageInfo :=
  let (bDone, soUsageInfo) := avp.children.foldl (fun (bDone, soUsageInfo) child =>
    if child.header = (10415, 1066) then
      (true, { soUsageInfo with coMonitoringKey := .of child.value.text })
    else if child.header = (0, 446) then (bDone, pcrfExtractUSU child soUsageInfo)
    else (bDone, soUsageInfo)) (false, ({} : SSessionUsageInfo))
  if bDone then vectUsageInfo ++ [soUsageInfo] else vectUsageInfo

mutual

/-- `pcrf_extract_DefaultEPSBearerQoS`, which an Allocation-Retention-Priority is given to as
well: the members of either are taken from both. -/
def pcrfExtractDefaultEPSBearerQoS : CcrAvp → SDefaultEPSBearerQoS → SDefaultEPSBearerQoS
  | ⟨_, _, _, _, children⟩, qos => extractDefaultEPSBearerQoSFrom children qos

def extractDefaultEPSBearerQoSFrom : List CcrAvp → SDefaultEPSBearerQoS → SDefaultEPSBearerQoS
  | [], qos => qos
  | child :: children, qos =>
    extractDefaultEPSBearerQoSFrom children <|
      if child.header = (10415, 1028) then
        { qos with coQoSClassIdentifier := .of child.value.i32 }
      else if child.header = (10415, 1034) then
        pcrfExtractDefaultEPSBearerQoS child { qos with soARP.null := false }
      else if child.header = (10415, 1046) then
        { qos with soARP.v.coPriorityLevel := .of child.value.u32 }
      else if child.header = (10415, 1047) then
        { qos with soARP.v.coPreemptionCapability := .of child.value.i32 }
      else if child.header = (10415, 1048) then
        { qos with soARP.v.coPreemptionVulnerability := .of child.value.u32 }
      else qos

end

/-- `pcrf_extract_QoSInformation` -/
def pcrfExtractQoSInformation (avp : CcrAvp) (coQoSInformation : OtlValue SQoSInformation) :
    OtlValue SQoSInformation :=
  .of (avp.children.foldl (fun qos child =>
    if child.header = (10415, 1040) then
      { qos with coAPNAggregateMaxBitrateDL := .of child.value.u32 }
    else if child.header = (10415, 1041) then
      { qos with coAPNAggregateMaxBitrateUL := .of child.value.u32 }
    else qos) coQoSInformation.v)

/-! ### The switch -/

/-- The cases that write to the session. -/
inductive SessionAvp where
  | framedIPAddress
  | calledStationId
  | sessionId
  | originHost
  | originStateId
  | originRealm
  | terminationCause
  | subscriptionId
  | userEquipmentInfo
  | supportedFeatures
  deriving Repr, DecidableEq

def SessionAvp.key : SessionAvp → UInt32 × UInt32
  | framedIPAddress => (0, 8)
  | calledStationId => (0, 30)
  | sessionId => (0, 263)
  | originHost => (0, 264)
  | originStateId => (0, 278)
  | originRealm => (0, 296)
  | terminationCause => (0, 295)
  | subscriptionId => (0, 443)
  | userEquipmentInfo => (0, 458)
  | supportedFeatures => (10415, 628)

/-- The cases that write to the request, less its user environment. -/
inductive RequestAvp where
  | ccRequestType
  | ccRequestNumber
  | maxRequestedBandwidthDl
  | maxRequestedBandwidthUl
  | bearerUsage
  | eventTrigger
  | online
  | offline
  | qosInformation
  | chargingRuleReport
  | bearerIdentifier
  | bearerOperation
  | guaranteedBitrateDl
  | guaranteedBitrateUl
  | qosNegotiation
  | qosUpgrade
  | defaultEPSBearerQoS
  | usageMonitoringInformation
  | xHwTetheringStatus
  | proceraTetheringFlag
  deriving Repr, DecidableEq

def RequestAvp.key : RequestAvp → UInt32 × UInt32
  | ccRequestType => (0, 416)
  | ccRequestNumber => (0, 415)
  | maxRequestedBandwidthDl => (10415, 515)
  | maxRequestedBandwidthUl => (10415, 516)
  | bearerUsage => (10415, 1000)
  | eventTrigger => (10415, 1006)
  | online => (10415, 1009)
  | offline => (10415, 1008)
  | qosInformation => (10415, 1016)
  | chargingRuleReport => (10415, 1018)
  | bearerIdentifier => (10415, 1020)
  | bearerOperation => (10415, 1021)
  | guaranteedBitrateDl => (10415, 1025)
  | guaranteedBitrateUl => (10415, 1026)
  | qosNegotiation => (10415, 1029)
  | qosUpgrade => (10415, 1030)
  | defaultEPSBearerQoS => (10415, 1049)
  | usageMonitoringInformation => (10415, 1067)
  | xHwTetheringStatus => (2011, 2029)
  | proceraTetheringFlag => (15397, 777)

/-- The cases that write to the user environment. -/
inductive EnvironmentAvp where
  | sgsnAddress
  | sgsnMCCMNC
  | threeGPPRATType
  | userLocationInfo
  | rai
  | ipCANType
  | ratType
  | anGWAddress
  deriving Repr, DecidableEq

def EnvironmentAvp.key : EnvironmentAvp → UInt32 × UInt32
  | sgsnAddress => (10415, 6)
  | sgsnMCCMNC => (10415, 18)
  | threeGPPRATType => (10415, 21)
  | userLocationInfo => (10415, 22)
  | rai => (10415, 909)
  | ipCANType => (10415, 1027)
  | ratType => (10415, 1032)
  | anGWAddress => (10415, 1050)

/-- The case of a vendor and a code. -/
inductive AvpName where
  | session (name : SessionAvp)
  | request (name : RequestAvp)
  | environment (name : EnvironmentAvp)
  deriving Repr, DecidableEq

namespace AvpName

def key : AvpName → UInt32 × UInt32
  | session name => name.key
  | request name => name.key
  | environment name => name.key

def all : List AvpName :=
  [.framedIPAddress, .calledStationId, .sessionId, .originHost, .originStateId, .originRealm,
    .terminationCause, .subscriptionId, .userEquipmentInfo, .supportedFeatures].map session ++
  [.ccRequestType, .ccRequestNumber, .maxRequestedBandwidthDl, .maxRequestedBandwidthUl,
    .bearerUsage, .eventTrigger, .online, .offline, .qosInformation, .chargingRuleReport,
    .bearerIdentifier, .bearerOperation, .guaranteedBitrateDl, .guaranteedBitrateUl,
    .qosNegotiation, .qosUpgrade, .defaultEPSBearerQoS, .usageMonitoringInformation,
    .xHwTetheringStatus, .proceraTetheringFlag].map request ++
  [.sgsnAddress, .sgsnMCCMNC, .threeGPPRATType, .userLocationInfo, .rai, .ipCANType, .ratType,
    .anGWAddress].map environment

/-- The case that an AVP comes to. -/
def ofKey (key : UInt32 × UInt32) : Option AvpName := all.find? fun name => name.key == key

end AvpName

/-- `sin_family` -/
inductive AddressFamily where
  | inet
  | inet6
  | other
  deriving Repr, DecidableEq

/-- What a `sSA4` is filled with. -/
structure SocketAddress where
  family : AddressFamily
  sAddr : UInt8 × UInt8 × UInt8 × UInt8
  deriving Repr, DecidableEq

def SocketAddress.octets (address : SocketAddress) : List UInt8 :=
  [address.sAddr.1, address.sAddr.2.1, address.sAddr.2.2.1, address.sAddr.2.2.2]

/-- The parts of freeDiameter that the switch calls, and what `pcrf_parse_user_location` meets. -/
structure ExtractEnv where
  dict : Dictionary
  addressInterpret : ReceivedValue → Option SocketAddress
  parse : ParseEnv

/-- `CCRequestType` of its number. -/
def CCRequestType.ofInt32 (type : Int32) : CCRequestType :=
  if type = 1 then initialRequest
  else if type = 2 then updateRequest
  else if type = 3 then terminationRequest
  else other type

section Switch

variable (env : ExtractEnv) (avp : CcrAvp)

def ExtractEnv.enumText : Option String := pcrfExtractAvpEnumVal env.dict avp 0x100

def SessionAvp.extract (sess : ExtractedSession) : SessionAvp → ExtractedSession
  | framedIPAddress =>
    { sess with
      coFramedIPAddress := pcrfIpAddrToString avp.value.os sess.coFramedIPAddress
      ui32FramedIPAddress := framedIPNumber avp.value.os sess.ui32FramedIPAddress }
  | calledStationId =>
    { sess with coCalledStationId := sess.coCalledStationId.prepend avp.value.text }
  | sessionId => { sess with strSessionId := avp.value.text ++ sess.strSessionId }
  | originHost => { sess with coOriginHost := sess.coOriginHost.prepend avp.value.text }
  | originStateId => { sess with coOriginStateId := .of avp.value.u32 }
  | originRealm => { sess with coOriginRealm := sess.coOriginRealm.prepend avp.value.text }
  | terminationCause => { sess with coTermCause := sess.coTermCause.assign (env.enumText avp) }
  | subscriptionId =>
    { sess with soSubscriptionData := pcrfExtractSubscriptionId avp sess.soSubscriptionData }
  | userEquipmentInfo => { sess with coIMEI := pcrfExtractUEI avp sess.coIMEI }
  | supportedFeatures => { sess with listSF := pcrfExtractSF avp sess.listSF }

def RequestAvp.extract (req : ExtractedRequest) : RequestAvp → ExtractedRequest
  | ccRequestType =>
    { req with
      iCCRequestType := .ofInt32 avp.value.i32
      coCCRequestType := req.coCCRequestType.assign (env.enumText avp) }
  | ccRequestNumber => { req with coCCRequestNumber := .of avp.value.u32 }
  | maxRequestedBandwidthDl => { req with coMaxRequestedBandwidthDl := .of avp.value.u32 }
  | maxRequestedBandwidthUl => { req with coMaxRequestedBandwidthUl := .of avp.value.u32 }
  | bearerUsage => { req with coBearerUsage := req.coBearerUsage.assign (env.enumText avp) }
  | eventTrigger => { req with vectEventTrigger := req.vectEventTrigger ++ [avp.value.i32] }
  | online => { req with coOnlineCharging := req.coOnlineCharging.assign (env.enumText avp) }
  | offline => { req with coOfflineCharging := req.coOfflineCharging.assign (env.enumText avp) }
  | qosInformation =>
    { req with coQoSInformation := pcrfExtractQoSInformation avp req.coQoSInformation }
  | chargingRuleReport =>
    let soPolicy := readChargingRuleReport env.dict avp
    { req with
      vectCRR := soPolicy.push req.vectCRR soPolicy.toSSessionPolicyInfo
      vectPCCRuleStatusEnum :=
        soPolicy.push req.vectPCCRuleStatusEnum soPolicy.coPCCRuleStatusEnum }
  | bearerIdentifier =>
    { req with
      coBearerIdentifier :=
        if req.coBearerIdentifier.isNull then
          req.coBearerIdentifier.prepend avp.value.text
        else req.coBearerIdentifier }
  | bearerOperation =>
    { req with coBearerOperation := req.coBearerOperation.assign (env.enumText avp) }
  | guaranteedBitrateDl => { req with coGuaranteedBitrateDl := .of avp.value.u32 }
  | guaranteedBitrateUl => { req with coGuaranteedBitrateUl := .of avp.value.u32 }
  | qosNegotiation =>
    { req with coQoSNegotiation := req.coQoSNegotiation.assign (env.enumText avp) }
  | qosUpgrade => { req with coQoSUpgrade := req.coQoSUpgrade.assign (env.enumText avp) }
  | defaultEPSBearerQoS =>
    { req with coDEPSBQoS := .of (pcrfExtractDefaultEPSBearerQoS avp req.coDEPSBQoS.v) }
  | usageMonitoringInformation =>
    { req with vectUsageInfo := pcrfExtractUMI avp req.vectUsageInfo }
  | xHwTetheringStatus | proceraTetheringFlag =>
    { req with coTetheringFlag := .of avp.value.u32 }

/-- The text for the first octet of a 3GPP-RAT-Type. -/
def ratTypeText (os : List UInt8) : Option String :=
  match os with
  | [] => none
  | octet :: _ =>
    if octet = 1 then some "UTRAN"
    else if octet = 2 then some "GERAN"
    else if octet = 3 then some "WLAN"
    else if octet = 4 then some "GAN"
    else if octet = 5 then some "HSPA Evolution"
    else none

/-- `v.insert( 3, 1, '-' )`: `none` when the exception is thrown. -/
def insertDash (text : String) : Option String :=
  if 3 ≤ text.length then
    some (String.ofList (text.toList.take 3 ++ '-' :: text.toList.drop 3))
  else none

/-- The addresses after an AN-GW-Address, which is for where there is none of an SGSN. -/
def anGWAddressTo (coSGSNAddress coSGSNIPv6Address : OtlValue String) :
    OtlValue String × OtlValue String :=
  if coSGSNAddress.isNull then
    match env.addressInterpret avp.value with
    | some soAddr =>
      match soAddr.family with
      | .inet => (pcrfIpAddrToString soAddr.octets coSGSNAddress, coSGSNIPv6Address)
      | .inet6 => (coSGSNAddress, pcrfIpAddrToString soAddr.octets coSGSNIPv6Address)
      | .other => (coSGSNAddress, coSGSNIPv6Address)
    | none => (coSGSNAddress, coSGSNIPv6Address)
  else (coSGSNAddress, coSGSNIPv6Address)

/-- `none` when an exception is thrown, or a User-Location-Info overruns its structure. An IPv6
AN-GW-Address overruns `sSA4`, too, and is `some` here: what it reads of `sSA4` is what was written
there. -/
def EnvironmentAvp.extract (e : ExtractedEnvironment) :
    EnvironmentAvp → Option ExtractedEnvironment
  | sgsnAddress =>
    some { e with coSGSNAddress := pcrfIpAddrToString avp.value.os e.coSGSNAddress }
  | sgsnMCCMNC =>
    (insertDash (avp.value.text ++ e.coSGSNMCCMNC.v)).map fun v =>
      { e with coSGSNMCCMNC := .of v, bLoaded := true }
  | threeGPPRATType =>
    match ratTypeText avp.value.os with
    | some text => some { e with coRATType := .of text, bLoaded := true }
    | none => some e
  | userLocationInfo =>
    (pcrfParseUserLocation env.parse avp.value.os e.soUsrLoc (some e.bLoaded)).map fun result =>
      { e with
        soUsrLoc := result.soUserLocationInfo
        bLoaded := result.bLoaded.getD e.bLoaded }
  | rai => some { e with soUsrLoc.coRAI := (pcrfParseRAI avp.value.os e.soUsrLoc.coRAI).2 }
  | ipCANType =>
    some { e with
      iIPCANType := avp.value.i32
      bLoaded := true
      coIPCANType := e.coIPCANType.assign (env.enumText avp) }
  | ratType =>
    some { e with
      iRATType := avp.value.i32
      bLoaded := true
      coRATType := e.coRATType.assign (env.enumText avp) }
  | anGWAddress =>
    let addresses := anGWAddressTo env avp e.coSGSNAddress e.coSGSNIPv6Address
    some { e with coSGSNAddress := addresses.1, coSGSNIPv6Address := addresses.2 }

/-- One turn of the loop. -/
def extractAvp (data : ExtractedData) : Option ExtractedData :=
  match AvpName.ofKey avp.key with
  | some (.session name) => some { data with sess := name.extract env avp data.sess }
  | some (.request name) => some { data with req := name.extract env avp data.req }
  | some (.environment name) =>
    (name.extract env avp data.req.environment).map fun e =>
      { data with req := data.req.withEnvironment e }
  | none => some data

end Switch

/-- `pcrf_extract_req_data`, whose result is 0, on the structures of a new request. -/
def pcrfExtractReqData (env : ExtractEnv) (avps : List CcrAvp) : Option ExtractedData :=
  avps.foldlM (fun data avp => extractAvp env avp data) {}

end Pcrf
