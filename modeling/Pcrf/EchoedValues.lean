import Pcrf.Lib.Calls
import Pcrf.RequestExtraction

/-!
Values of a request that its answer repeats: the Supported-Features, Default-EPS-Bearer-QoS and
QoS-Information. They are built of the AVPs that `pcrf_extract_req_data` reads, so that what was
built can be extracted again.
-/

namespace Pcrf

open Lib CallM

/-! ### Building -/

/-- The dictionary objects, each with its vendor and code. -/
inductive EchoedDict where
  | supportedFeatures | vendorId | featureListID | featureList
  | defaultEPSBearerQoS | qosClassIdentifier | allocationRetentionPriority
  | priorityLevel | preemptionCapability | preemptionVulnerability
  | qosInformation | apnAggregateMaxBitrateDL | apnAggregateMaxBitrateUL
  deriving Repr, DecidableEq

def EchoedDict.header : EchoedDict → UInt32 × UInt32
  | supportedFeatures => (10415, 628)
  | vendorId => (0, 266)
  | featureListID => (10415, 629)
  | featureList => (10415, 630)
  | defaultEPSBearerQoS => (10415, 1049)
  | qosClassIdentifier => (10415, 1028)
  | allocationRetentionPriority => (10415, 1034)
  | priorityLevel => (10415, 1046)
  | preemptionCapability => (10415, 1047)
  | preemptionVulnerability => (10415, 1048)
  | qosInformation => (10415, 1016)
  | apnAggregateMaxBitrateDL => (10415, 1040)
  | apnAggregateMaxBitrateUL => (10415, 1041)

/-- `fd_msg_avp_new`: the flag says whether there is a vendor. -/
def EchoedDict.new (dict : EchoedDict) (value : ReceivedValue) (children : List CcrAvp) :
    CcrAvp where
  isVendor := dict.header.1 != 0
  vendor := dict.header.1
  code := dict.header.2
  value := value
  children := children

def ReceivedValue.ofU32 (v : UInt32) : ReceivedValue := { number := v.toUInt64 }

def ReceivedValue.ofI32 (v : Int32) : ReceivedValue := { number := v.toUInt32.toUInt64 }

/-- A step that adds something to the children of an AVP. The state is the message. -/
abbrev EchoedPart := List CcrAvp → CallM (List CcrAvp) (List CcrAvp)

def addLeaf (dict : EchoedDict) (value : ReceivedValue) : EchoedPart := fun children => do
  -- `fd_msg_avp_new`, `fd_msg_avp_setvalue`, `fd_msg_avp_add`
  call
  call
  call
  return children ++ [dict.new value []]

/-- The same for a value that may be absent. -/
def addValue {α : Type} (o : OtlValue α) (dict : EchoedDict) (value : α → ReceivedValue) :
    EchoedPart :=
  if o.isNull then fun children => return children else addLeaf dict (value o.v)

def addGroup (dict : EchoedDict) (parts : List EchoedPart) : EchoedPart := fun children => do
  -- the group is made first, and added when its children are in it
  call
  let inner ← runAll parts []
  call
  return children ++ [dict.new {} inner]

/-- Put an AVP into the message. -/
def addToMessage (part : EchoedPart) : CallM (List CcrAvp) Unit := do
  let avps ← part []
  update fun message => message ++ avps

/-- `pcrf_make_SF` -/
def pcrfMakeSF : List SSF → CallM (List CcrAvp) Unit
  | [] => return ()
  | soSF :: listSupportedFeatures => do
    addToMessage (addGroup .supportedFeatures [
      addLeaf .vendorId (.ofU32 soSF.ui32VendorId),
      addLeaf .featureListID (.ofU32 soSF.ui32FeatureListID),
      addLeaf .featureList (.ofU32 soSF.ui32FeatureList)])
    pcrfMakeSF listSupportedFeatures

def addARP (soARP : OtlValue SAllocationRetentionPriority) : EchoedPart :=
  if soARP.isNull then fun children => return children
  else
    addGroup .allocationRetentionPriority [
      addValue soARP.v.coPriorityLevel .priorityLevel .ofU32,
      addValue soARP.v.coPreemptionCapability .preemptionCapability .ofI32,
      addValue soARP.v.coPreemptionVulnerability .preemptionVulnerability .ofU32]

/-- `pcrf_make_DefaultEPSBearerQoS` -/
def pcrfMakeDefaultEPSBearerQoS (reqInfo : SRequestInfo) : CallM (List CcrAvp) Unit :=
  if reqInfo.coDEPSBQoS.isNull then return ()
  else
    addToMessage (addGroup .defaultEPSBearerQoS [
      addValue reqInfo.coDEPSBQoS.v.coQoSClassIdentifier .qosClassIdentifier .ofI32,
      addARP reqInfo.coDEPSBQoS.v.soARP])

/-- `pcrf_make_QoSInformation` -/
def pcrfMakeQoSInformation (reqInfo : SRequestInfo) : CallM (List CcrAvp) Unit :=
  if reqInfo.coQoSInformation.isNull then return ()
  else
    addToMessage (addGroup .qosInformation [
      addValue reqInfo.coQoSInformation.v.coAPNAggregateMaxBitrateDL .apnAggregateMaxBitrateDL
        .ofU32,
      addValue reqInfo.coQoSInformation.v.coAPNAggregateMaxBitrateUL .apnAggregateMaxBitrateUL
        .ofU32])

/-- The message with the AVPs of all three, when no call fails. -/
def echoedMessage (listSF : List SSF) (reqInfo : SRequestInfo) : List CcrAvp :=
  (exec (do
    pcrfMakeSF listSF
    pcrfMakeDefaultEPSBearerQoS reqInfo
    pcrfMakeQoSInformation reqInfo) ⟨fun _ => true, []⟩).2.state

/-! ### Values -/

/-- The members, those that are present. -/
def SAllocationRetentionPriority.members (arp : SAllocationRetentionPriority) :
    Option UInt32 × Option Int32 × Option UInt32 :=
  (arp.coPriorityLevel.toOption, arp.coPreemptionCapability.toOption,
    arp.coPreemptionVulnerability.toOption)

def SDefaultEPSBearerQoS.members (qos : SDefaultEPSBearerQoS) :
    Option Int32 × Option (Option UInt32 × Option Int32 × Option UInt32) :=
  (qos.coQoSClassIdentifier.toOption, qos.soARP.toOption.map fun arp => arp.members)

def SQoSInformation.members (qos : SQoSInformation) : Option UInt32 × Option UInt32 :=
  (qos.coAPNAggregateMaxBitrateDL.toOption, qos.coAPNAggregateMaxBitrateUL.toOption)

/-- The values and whether they are null, and the features in their order. -/
structure ExtractedData.Echoes (data : ExtractedData) (listSF : List SSF)
    (reqInfo : SRequestInfo) : Prop where
  features : data.sess.listSF = listSF
  bearer : (data.req.coDEPSBQoS.toOption.map fun qos => qos.members) =
    reqInfo.coDEPSBQoS.toOption.map fun qos => qos.members
  information : (data.req.coQoSInformation.toOption.map fun qos => qos.members) =
    reqInfo.coQoSInformation.toOption.map fun qos => qos.members

/-! ### What is built -/

/-- An AVP for a value that is present. -/
def EchoedDict.avpOf {α : Type} (dict : EchoedDict) (o : OtlValue α) (value : α → ReceivedValue) :
    List CcrAvp :=
  (o.toOption.map fun v => dict.new (value v) []).toList

def SSF.avp (soSF : SSF) : CcrAvp :=
  EchoedDict.supportedFeatures.new {}
    [EchoedDict.vendorId.new (.ofU32 soSF.ui32VendorId) [],
      EchoedDict.featureListID.new (.ofU32 soSF.ui32FeatureListID) [],
      EchoedDict.featureList.new (.ofU32 soSF.ui32FeatureList) []]

def SAllocationRetentionPriority.avp (arp : SAllocationRetentionPriority) : CcrAvp :=
  EchoedDict.allocationRetentionPriority.new {} (
    EchoedDict.priorityLevel.avpOf arp.coPriorityLevel .ofU32 ++
    (EchoedDict.preemptionCapability.avpOf arp.coPreemptionCapability .ofI32 ++
      EchoedDict.preemptionVulnerability.avpOf arp.coPreemptionVulnerability .ofU32))

def SDefaultEPSBearerQoS.avp (qos : SDefaultEPSBearerQoS) : CcrAvp :=
  EchoedDict.defaultEPSBearerQoS.new {} (
    EchoedDict.qosClassIdentifier.avpOf qos.coQoSClassIdentifier .ofI32 ++
      (qos.soARP.toOption.map fun arp => arp.avp).toList)

def SQoSInformation.avp (qos : SQoSInformation) : CcrAvp :=
  EchoedDict.qosInformation.new {} (
    EchoedDict.apnAggregateMaxBitrateDL.avpOf qos.coAPNAggregateMaxBitrateDL .ofU32 ++
      EchoedDict.apnAggregateMaxBitrateUL.avpOf qos.coAPNAggregateMaxBitrateUL .ofU32)

section Built

variable {s : Answering (List CcrAvp)}

theorem appendsJust_addLeaf {dict : EchoedDict} {value : ReceivedValue} :
    AppendsJust [dict.new value []] (addLeaf dict value) := by
  intro s hs children
  simp only [addLeaf, exec_bind_some (exec_call hs)]
  rfl

theorem appendsJust_addValue {α : Type} {o : OtlValue α} {dict : EchoedDict}
    {value : α → ReceivedValue} :
    AppendsJust (dict.avpOf o value) (addValue o dict value) := by
  cases hnull : o.null with
  | true =>
    simp only [EchoedDict.avpOf, addValue, OtlValue.isNull, OtlValue.toOption, hnull, if_true,
      Option.map_none, Option.toList_none]
    exact .pure
  | false =>
    simp only [EchoedDict.avpOf, addValue, OtlValue.isNull, OtlValue.toOption, hnull,
      Bool.false_eq_true, if_false, Option.map_some, Option.toList_some]
    exact appendsJust_addLeaf

theorem appendsJust_addGroup {dict : EchoedDict} {parts : List EchoedPart}
    {children : List CcrAvp} (h : AppendsJust children (runAll parts)) :
    AppendsJust [dict.new {} children] (addGroup dict parts) := by
  intro s hs siblings
  have hinner := h s hs []
  rw [List.nil_append] at hinner
  simp only [addGroup, exec_bind_some (exec_call hs), exec_bind_some hinner]
  rfl

theorem exec_addToMessage {part : EchoedPart} {avps : List CcrAvp} (h : AppendsJust avps part)
    (hs : s.AllSucceed) :
    exec (addToMessage part) s = (some (), { s with state := s.state ++ avps }) := by
  rw [addToMessage, exec_bind_some (h s hs []), exec_update, List.nil_append]

theorem appendsJust_addARP (soARP : OtlValue SAllocationRetentionPriority) :
    AppendsJust (soARP.toOption.map fun arp => arp.avp).toList (addARP soARP) := by
  cases hnull : soARP.null with
  | true =>
    simp only [addARP, OtlValue.isNull, OtlValue.toOption, hnull, if_true, Option.map_none,
      Option.toList_none]
    exact .pure
  | false =>
    simp only [addARP, OtlValue.isNull, OtlValue.toOption, hnull, Bool.false_eq_true, if_false,
      Option.map_some, Option.toList_some]
    exact appendsJust_addGroup
      (appendsJust_addValue.cons (appendsJust_addValue.cons (.singleton appendsJust_addValue)))

theorem exec_makeSF (listSF : List SSF) (hs : s.AllSucceed) :
    exec (pcrfMakeSF listSF) s =
      (some (), { s with state := s.state ++ listSF.map fun soSF => soSF.avp }) := by
  induction listSF generalizing s with
  | nil => simp [pcrfMakeSF]
  | cons soSF listSF ih =>
    have one : AppendsJust [soSF.avp] (addGroup .supportedFeatures [
        addLeaf .vendorId (.ofU32 soSF.ui32VendorId),
        addLeaf .featureListID (.ofU32 soSF.ui32FeatureListID),
        addLeaf .featureList (.ofU32 soSF.ui32FeatureList)]) :=
      appendsJust_addGroup
        (appendsJust_addLeaf.cons (appendsJust_addLeaf.cons (.singleton appendsJust_addLeaf)))
    have rest := ih (s := { s with state := s.state ++ [soSF.avp] }) hs
    rw [pcrfMakeSF, exec_bind_some (exec_addToMessage one hs), rest, List.append_assoc]
    rfl

theorem exec_makeDefaultEPSBearerQoS (reqInfo : SRequestInfo) (hs : s.AllSucceed) :
    exec (pcrfMakeDefaultEPSBearerQoS reqInfo) s =
      (some (), { s with
        state := s.state ++ (reqInfo.coDEPSBQoS.toOption.map fun qos => qos.avp).toList }) := by
  cases hnull : reqInfo.coDEPSBQoS.null with
  | true => simp [pcrfMakeDefaultEPSBearerQoS, OtlValue.isNull, OtlValue.toOption, hnull]
  | false =>
    simp only [pcrfMakeDefaultEPSBearerQoS, OtlValue.isNull, OtlValue.toOption, hnull,
      Bool.false_eq_true, if_false, Option.map_some, Option.toList_some]
    exact exec_addToMessage (appendsJust_addGroup
      (appendsJust_addValue.cons (.singleton (appendsJust_addARP _)))) hs

theorem exec_makeQoSInformation (reqInfo : SRequestInfo) (hs : s.AllSucceed) :
    exec (pcrfMakeQoSInformation reqInfo) s =
      (some (), { s with
        state :=
          s.state ++ (reqInfo.coQoSInformation.toOption.map fun qos => qos.avp).toList }) := by
  cases hnull : reqInfo.coQoSInformation.null with
  | true => simp [pcrfMakeQoSInformation, OtlValue.isNull, OtlValue.toOption, hnull]
  | false =>
    simp only [pcrfMakeQoSInformation, OtlValue.isNull, OtlValue.toOption, hnull,
      Bool.false_eq_true, if_false, Option.map_some, Option.toList_some]
    exact exec_addToMessage (appendsJust_addGroup
      (appendsJust_addValue.cons (.singleton appendsJust_addValue))) hs

theorem echoedMessage_eq (listSF : List SSF) (reqInfo : SRequestInfo) :
    echoedMessage listSF reqInfo =
      (listSF.map fun soSF => soSF.avp) ++
        (reqInfo.coDEPSBQoS.toOption.map fun qos => qos.avp).toList ++
        (reqInfo.coQoSInformation.toOption.map fun qos => qos.avp).toList := by
  have succeeds (message : List CcrAvp) :
      Answering.AllSucceed (⟨fun _ => true, message⟩ : Answering (List CcrAvp)) := rfl
  unfold echoedMessage
  rw [exec_bind_some (exec_makeSF listSF (succeeds [])),
    exec_bind_some (exec_makeDefaultEPSBearerQoS reqInfo (succeeds _)),
    exec_makeQoSInformation reqInfo (succeeds _), List.nil_append]

end Built

/-! ### Extraction -/

section Extraction

variable {env : ExtractEnv}

theorem ReceivedValue.u32_ofU32 (v : UInt32) : (ReceivedValue.ofU32 v).u32 = v := by
  simp [ofU32, u32]

theorem ReceivedValue.i32_ofI32 (v : Int32) : (ReceivedValue.ofI32 v).i32 = v := by
  simp [ofI32, i32]

theorem pcrfExtractSF_avp (soSF : SSF) (listSF : List SSF) :
    pcrfExtractSF soSF.avp listSF = listSF ++ [soSF] := by
  simp [pcrfExtractSF, SSF.avp, EchoedDict.header, EchoedDict.new,
    ReceivedValue.u32_ofU32, CcrAvp.header]

/-- Members that are present are taken over, all others stay. -/
def SQoSInformation.updateFrom (dst src : SQoSInformation) : SQoSInformation where
  coAPNAggregateMaxBitrateDL :=
    dst.coAPNAggregateMaxBitrateDL.updateFrom src.coAPNAggregateMaxBitrateDL
  coAPNAggregateMaxBitrateUL :=
    dst.coAPNAggregateMaxBitrateUL.updateFrom src.coAPNAggregateMaxBitrateUL

def SAllocationRetentionPriority.updateFrom (dst src : SAllocationRetentionPriority) :
    SAllocationRetentionPriority where
  coPriorityLevel := dst.coPriorityLevel.updateFrom src.coPriorityLevel
  coPreemptionCapability := dst.coPreemptionCapability.updateFrom src.coPreemptionCapability
  coPreemptionVulnerability :=
    dst.coPreemptionVulnerability.updateFrom src.coPreemptionVulnerability

def SDefaultEPSBearerQoS.updateFrom (dst src : SDefaultEPSBearerQoS) :
    SDefaultEPSBearerQoS where
  coQoSClassIdentifier := dst.coQoSClassIdentifier.updateFrom src.coQoSClassIdentifier
  soARP :=
    if src.soARP.isNull then dst.soARP else .of (dst.soARP.v.updateFrom src.soARP.v)

theorem pcrfExtractQoSInformation_avp (qos : SQoSInformation)
    (coQoSInformation : OtlValue SQoSInformation) :
    pcrfExtractQoSInformation qos.avp coQoSInformation =
      .of (coQoSInformation.v.updateFrom qos) := by
  obtain ⟨⟨dl, nullDL⟩, ⟨ul, nullUL⟩⟩ := qos
  cases nullDL <;> cases nullUL <;>
    simp [pcrfExtractQoSInformation, SQoSInformation.avp, EchoedDict.avpOf, OtlValue.toOption,
      EchoedDict.header, EchoedDict.new, ReceivedValue.u32_ofU32, CcrAvp.header, OtlValue.of,
      SQoSInformation.updateFrom, OtlValue.updateFrom, OtlValue.isNull]

theorem extractDefaultEPSBearerQoSFrom_append (xs ys : List CcrAvp)
    (qos : SDefaultEPSBearerQoS) :
    extractDefaultEPSBearerQoSFrom (xs ++ ys) qos =
      extractDefaultEPSBearerQoSFrom ys (extractDefaultEPSBearerQoSFrom xs qos) := by
  induction xs generalizing qos with
  | nil => rfl
  | cons x xs ih =>
    rw [List.cons_append, extractDefaultEPSBearerQoSFrom, extractDefaultEPSBearerQoSFrom, ih]

/-- The members of a priority go to the members of the priority that is there. -/
theorem pcrfExtractARP_avp (arp : SAllocationRetentionPriority) (qos : SDefaultEPSBearerQoS) :
    pcrfExtractDefaultEPSBearerQoS arp.avp qos =
      { qos with soARP := { qos.soARP with v := qos.soARP.v.updateFrom arp } } := by
  obtain ⟨⟨level, nullLevel⟩, ⟨capability, nullCapability⟩,
    ⟨vulnerability, nullVulnerability⟩⟩ := arp
  -- which members are present decides which children there are to read
  cases nullLevel <;> cases nullCapability <;> cases nullVulnerability <;>
    simp [SAllocationRetentionPriority.avp, EchoedDict.new, EchoedDict.header,
      EchoedDict.avpOf, OtlValue.toOption, pcrfExtractDefaultEPSBearerQoS,
      extractDefaultEPSBearerQoSFrom, CcrAvp.header, ReceivedValue.u32_ofU32,
      ReceivedValue.i32_ofI32, OtlValue.of, SAllocationRetentionPriority.updateFrom,
      OtlValue.updateFrom, OtlValue.isNull]

theorem pcrfExtractDefaultEPSBearerQoS_avp (src dst : SDefaultEPSBearerQoS) :
    pcrfExtractDefaultEPSBearerQoS src.avp dst = dst.updateFrom src := by
  have identifier : extractDefaultEPSBearerQoSFrom
      (EchoedDict.qosClassIdentifier.avpOf src.coQoSClassIdentifier .ofI32) dst =
        { dst with
          coQoSClassIdentifier :=
            dst.coQoSClassIdentifier.updateFrom src.coQoSClassIdentifier } := by
    obtain ⟨⟨identifier, nullIdentifier⟩, soARP⟩ := src
    cases nullIdentifier <;>
      simp [EchoedDict.avpOf, OtlValue.toOption, extractDefaultEPSBearerQoSFrom,
        EchoedDict.new, EchoedDict.header, CcrAvp.header, ReceivedValue.i32_ofI32, OtlValue.of,
        OtlValue.updateFrom, OtlValue.isNull]
  -- the identifier comes first, and then the group, for which the function calls itself
  have parts : pcrfExtractDefaultEPSBearerQoS src.avp dst =
      extractDefaultEPSBearerQoSFrom
        (EchoedDict.qosClassIdentifier.avpOf src.coQoSClassIdentifier .ofI32 ++
          (src.soARP.toOption.map fun arp => arp.avp).toList) dst := by
    rw [SDefaultEPSBearerQoS.avp, EchoedDict.new, pcrfExtractDefaultEPSBearerQoS]
  rw [parts, extractDefaultEPSBearerQoSFrom_append, identifier]
  cases hnull : src.soARP.null with
  | true =>
    simp [OtlValue.toOption, hnull, extractDefaultEPSBearerQoSFrom,
      SDefaultEPSBearerQoS.updateFrom, OtlValue.isNull]
  | false =>
    have group : src.soARP.v.avp.header = (10415, 1034) := rfl
    simp [OtlValue.toOption, hnull, extractDefaultEPSBearerQoSFrom, group, pcrfExtractARP_avp,
      SDefaultEPSBearerQoS.updateFrom, OtlValue.isNull, OtlValue.of]

/-! ### Round trip -/

theorem OtlValue.toOption_updateFrom_empty {α : Type} [Inhabited α] (o : OtlValue α) :
    (OtlValue.empty.updateFrom o).toOption = o.toOption := by
  obtain ⟨v, null⟩ := o
  cases null <;> rfl

theorem SQoSInformation.members_updateFrom_empty (qos : SQoSInformation) :
    (updateFrom {} qos).members = qos.members := by
  simp only [members, updateFrom, OtlValue.toOption_updateFrom_empty]

theorem SAllocationRetentionPriority.members_updateFrom_empty
    (arp : SAllocationRetentionPriority) : (updateFrom {} arp).members = arp.members := by
  simp only [members, updateFrom, OtlValue.toOption_updateFrom_empty]

theorem SDefaultEPSBearerQoS.members_updateFrom_empty (qos : SDefaultEPSBearerQoS) :
    (updateFrom {} qos).members = qos.members := by
  have arp : (if qos.soARP.isNull then OtlValue.empty
      else OtlValue.of (SAllocationRetentionPriority.updateFrom {} qos.soARP.v)).toOption.map
        (fun arp => arp.members) = qos.soARP.toOption.map fun arp => arp.members := by
    cases hnull : qos.soARP.null with
    | true => simp [OtlValue.isNull, OtlValue.toOption, OtlValue.empty, hnull]
    | false =>
      have same := qos.soARP.v.members_updateFrom_empty
      simpa [OtlValue.isNull, OtlValue.toOption, OtlValue.of, hnull] using same
  simp only [members, updateFrom, OtlValue.toOption_updateFrom_empty]
  exact congrArg _ arp

theorem extract_features (listSF : List SSF) (data : ExtractedData) :
    (listSF.map fun soSF => soSF.avp).foldlM (fun data avp => extractAvp env avp data) data =
      some { data with sess.listSF := data.sess.listSF ++ listSF } := by
  induction listSF generalizing data with
  | nil => simp
  | cons soSF listSF ih =>
    have key : soSF.avp.key = SessionAvp.supportedFeatures.key := rfl
    have turn : extractAvp env soSF.avp data =
        some { data with sess.listSF := data.sess.listSF ++ [soSF] } := by
      rw [extractAvp_session data key, SessionAvp.extract, pcrfExtractSF_avp]
    rw [List.map_cons, List.foldlM_cons, turn]
    refine (ih _).trans ?_
    rw [List.append_assoc, List.singleton_append]

theorem extract_bearer (coDEPSBQoS : OtlValue SDefaultEPSBearerQoS) (data : ExtractedData) :
    (coDEPSBQoS.toOption.map fun qos => qos.avp).toList.foldlM
        (fun data avp => extractAvp env avp data) data =
      some { data with
        req.coDEPSBQoS := coDEPSBQoS.toOption.elim data.req.coDEPSBQoS fun qos =>
          .of (data.req.coDEPSBQoS.v.updateFrom qos) } := by
  cases coDEPSBQoS.toOption with
  | none => rfl
  | some qos =>
    have key : qos.avp.key = RequestAvp.defaultEPSBearerQoS.key := rfl
    simp [extractAvp_request data key, RequestAvp.extract, pcrfExtractDefaultEPSBearerQoS_avp]

theorem extract_information (coQoSInformation : OtlValue SQoSInformation)
    (data : ExtractedData) :
    (coQoSInformation.toOption.map fun qos => qos.avp).toList.foldlM
        (fun data avp => extractAvp env avp data) data =
      some { data with
        req.coQoSInformation := coQoSInformation.toOption.elim data.req.coQoSInformation
          fun qos => .of (data.req.coQoSInformation.v.updateFrom qos) } := by
  cases coQoSInformation.toOption with
  | none => rfl
  | some qos =>
    have key : qos.avp.key = RequestAvp.qosInformation.key := rfl
    simp [extractAvp_request data key, RequestAvp.extract, pcrfExtractQoSInformation_avp]

theorem extract_echoedMessage (env : ExtractEnv) (listSF : List SSF) (reqInfo : SRequestInfo) :
    pcrfExtractReqData env (echoedMessage listSF reqInfo) = some {
      sess := { listSF := listSF }
      req := {
        coDEPSBQoS := reqInfo.coDEPSBQoS.toOption.elim .empty fun qos =>
          .of (SDefaultEPSBearerQoS.updateFrom {} qos)
        coQoSInformation := reqInfo.coQoSInformation.toOption.elim .empty fun qos =>
          .of (SQoSInformation.updateFrom {} qos) } } := by
  -- each kind of AVP goes to a member of its own
  rw [pcrfExtractReqData, echoedMessage_eq, List.foldlM_append, List.foldlM_append]
  simp only [extract_features, extract_bearer, extract_information, Option.bind_eq_bind,
    Option.bind_some, List.nil_append]
  rfl

/-- What is extracted from a message is what its AVPs were built of. -/
theorem echoes_extracted (env : ExtractEnv) (listSF : List SSF) (reqInfo : SRequestInfo) :
    ∃ data, pcrfExtractReqData env (echoedMessage listSF reqInfo) = some data ∧
      data.Echoes listSF reqInfo := by
  refine ⟨_, extract_echoedMessage env listSF reqInfo, rfl, ?_, ?_⟩
  · cases reqInfo.coDEPSBQoS.toOption with
    | none => rfl
    | some qos => exact congrArg some qos.members_updateFrom_empty
  · cases reqInfo.coQoSInformation.toOption with
    | none => rfl
    | some qos => exact congrArg some qos.members_updateFrom_empty

end Extraction

end Pcrf
