import Mathlib.Data.List.Induction
import Pcrf.RequestExtraction

/-!
The octets and string positions that `pcrf_extract_req_data` uses. What a
3GPP-User-Location-Info is copied to is left out here. Of all other cases only two do not see to
their own bounds: the dash that is put into a network, and the address of a gateway.
-/

namespace Pcrf

/-! ### Accesses -/

/-- Something that has to be within bounds. -/
inductive Access where
  /-- An octet of a value, or of a buffer. -/
  | octet (i len : Nat)
  /-- A position where a string is inserted into another; beyond its end an exception is
  thrown. -/
  | position (pos len : Nat)
  /-- Octets that are written to an object. -/
  | store (size room : Nat)
  deriving Repr, DecidableEq

def Access.InRange : Access → Prop
  | octet i len => i < len
  | position pos len => pos ≤ len
  | store size room => size ≤ room

def AllInRange (accesses : List Access) : Prop := ∀ access ∈ accesses, access.InRange

/-- The first octets of a value. -/
def readOctets (count len : Nat) : List Access := (List.range count).map (.octet · len)

/-- `v.insert( 0, os.data, os.len )` -/
def insertAtFront (v : String) (os : List UInt8) : List Access :=
  .position 0 v.length :: readOctets os.length os.length

/-- The same for all children of one kind, each in front of those before. -/
def insertChildren (header : UInt32 × UInt32) : List CcrAvp → String → List Access
  | [], _ => []
  | child :: children, v =>
    if child.header = header then
      insertAtFront v child.value.os ++ insertChildren header children (child.value.text ++ v)
    else insertChildren header children v

/-- `pcrf_ip_addr_to_string` -/
def ipAddressAccesses (os : List UInt8) : List Access :=
  if os.length = 4 then readOctets 4 os.length else []

/-- `pcrf_extract_avp_enum_val` puts a null at the end of the buffer. -/
def enumAccesses (bufSize : Nat) : List Access := [.octet (bufSize - 1) bufSize]

/-- `sizeof( sSA4 )` -/
def sSA4Size : Nat := 16

section Switch

-- `addressSize` is how many octets `fd_dictfct_Address_interpret` writes for a value.
variable (env : ExtractEnv) (addressSize : ReceivedValue → Nat) (avp : CcrAvp)

def SessionAvp.accesses (sess : ExtractedSession) : SessionAvp → List Access
  | framedIPAddress =>
    ipAddressAccesses avp.value.os ++
      if avp.value.os.length = 4 then readOctets 4 avp.value.os.length ++ [.store 4 4] else []
  | calledStationId => insertAtFront sess.coCalledStationId.v avp.value.os
  | sessionId => insertAtFront sess.strSessionId avp.value.os
  | originHost => insertAtFront sess.coOriginHost.v avp.value.os
  | originStateId => []
  | originRealm => insertAtFront sess.coOriginRealm.v avp.value.os
  | terminationCause => enumAccesses 0x100
  | subscriptionId => insertChildren (0, 444) avp.children ""
  | userEquipmentInfo => insertChildren (0, 460) avp.children ""
  | supportedFeatures => []

def RequestAvp.accesses (req : ExtractedRequest) : RequestAvp → List Access
  | ccRequestType | bearerUsage | online | offline | bearerOperation | qosNegotiation
  | qosUpgrade => enumAccesses 0x100
  | chargingRuleReport =>
    insertChildren (10415, 1005) avp.children "" ++
      (avp.children.filter fun child =>
        child.header = (10415, 1019) ∨ child.header = (10415, 1031)).flatMap fun _ =>
          enumAccesses 0x10000
  | bearerIdentifier =>
    if req.coBearerIdentifier.isNull then insertAtFront req.coBearerIdentifier.v avp.value.os
    else []
  | usageMonitoringInformation =>
    (avp.children.filter fun child => child.header = (10415, 1066)).flatMap fun child =>
      readOctets child.value.os.length child.value.os.length
  | ccRequestNumber | maxRequestedBandwidthDl | maxRequestedBandwidthUl | eventTrigger
  | qosInformation | guaranteedBitrateDl | guaranteedBitrateUl | defaultEPSBearerQoS
  | xHwTetheringStatus | proceraTetheringFlag => []

def EnvironmentAvp.accesses (e : ExtractedEnvironment) : EnvironmentAvp → List Access
  | sgsnAddress => ipAddressAccesses avp.value.os
  | sgsnMCCMNC =>
    insertAtFront e.coSGSNMCCMNC.v avp.value.os ++
      [.position 3 (avp.value.text ++ e.coSGSNMCCMNC.v).length]
  | threeGPPRATType =>
    if avp.value.os.length = 0 then [] else [.octet 0 avp.value.os.length]
  | userLocationInfo => []
  | rai =>
    -- four octets behind the network in a structure of seven
    if 9 ≤ avp.value.os.length then readOctets 9 avp.value.os.length ++ [.store (3 + 4) 7] else []
  | ipCANType | ratType => enumAccesses 0x100
  | anGWAddress =>
    if e.coSGSNAddress.isNull then
      .store (addressSize avp.value) sSA4Size ::
        (env.addressInterpret avp.value).elim [] fun soAddr => ipAddressAccesses soAddr.octets
    else []

/-- One turn of the loop. -/
def turnAccesses (data : ExtractedData) : List Access :=
  match AvpName.ofKey avp.key with
  | some (.session name) => name.accesses avp data.sess
  | some (.request name) => name.accesses avp data.req
  | some (.environment name) => name.accesses env addressSize avp data.req.environment
  | none => []

/-- The turn itself. Where a location would be copied beyond its structure the data stay as they
are. -/
def turnAside (data : ExtractedData) : Option ExtractedData :=
  if avp.key = EnvironmentAvp.userLocationInfo.key then
    some ((extractAvp env avp data).getD data)
  else extractAvp env avp data

end Switch

def extractAside (env : ExtractEnv) (avps : List CcrAvp) : Option ExtractedData :=
  avps.foldlM (fun data avp => turnAside env avp data) {}

/-- Every turn that is reached stays within bounds, and the last one is. -/
structure CompletesInRange (env : ExtractEnv) (addressSize : ReceivedValue → Nat)
    (avps : List CcrAvp) : Prop where
  inRange : ∀ front avp rest data, avps = front ++ avp :: rest →
    extractAside env front = some data → AllInRange (turnAccesses env addressSize avp data)
  completes : (extractAside env avps).isSome = true

/-- An address of an SGSN is known after the AVP: its own, or one of a gateway. -/
def CcrAvp.GivesAddress (env : ExtractEnv) (avp : CcrAvp) : Prop :=
  (avp.key = EnvironmentAvp.sgsnAddress.key ∧ avp.value.os.length = 4) ∨
  (avp.key = EnvironmentAvp.anGWAddress.key ∧
    ∃ soAddr, env.addressInterpret avp.value = some soAddr ∧ soAddr.family = .inet)

/-- The first network is long enough for the dash, and the address of a gateway has its room
where it is asked for. -/
structure PayloadsFit (env : ExtractEnv) (addressSize : ReceivedValue → Nat)
    (avps : List CcrAvp) : Prop where
  network : ∀ front avp rest, avps = front ++ avp :: rest →
    avp.key = EnvironmentAvp.sgsnMCCMNC.key →
    (∀ earlier ∈ front, earlier.key ≠ EnvironmentAvp.sgsnMCCMNC.key) → 3 ≤ avp.value.os.length
  gateway : ∀ front avp rest, avps = front ++ avp :: rest →
    avp.key = EnvironmentAvp.anGWAddress.key → (∀ earlier ∈ front, ¬ earlier.GivesAddress env) →
    addressSize avp.value ≤ sSA4Size

/-! ### Bounds -/

section Bounds

theorem allInRange_append {xs ys : List Access} :
    AllInRange (xs ++ ys) ↔ AllInRange xs ∧ AllInRange ys :=
  List.forall_mem_append

theorem allInRange_nil : AllInRange [] := by simp [AllInRange]

theorem allInRange_readOctets {count len : Nat} (h : count ≤ len) :
    AllInRange (readOctets count len) := by
  intro access haccess
  obtain ⟨i, hi, rfl⟩ := List.mem_map.mp haccess
  exact lt_of_lt_of_le (List.mem_range.mp hi) h

theorem allInRange_insertAtFront (v : String) (os : List UInt8) :
    AllInRange (insertAtFront v os) :=
  List.forall_mem_cons.mpr ⟨Nat.zero_le _, allInRange_readOctets (Nat.le_refl _)⟩

theorem allInRange_insertChildren (header : UInt32 × UInt32) (children : List CcrAvp)
    (v : String) : AllInRange (insertChildren header children v) := by
  induction children generalizing v with
  | nil => exact allInRange_nil
  | cons child children ih =>
    unfold insertChildren
    split
    · exact allInRange_append.mpr ⟨allInRange_insertAtFront _ _, ih _⟩
    · exact ih v

theorem allInRange_ipAddress (os : List UInt8) : AllInRange (ipAddressAccesses os) := by
  unfold ipAddressAccesses
  split
  next h => exact allInRange_readOctets h.ge
  next => exact allInRange_nil

theorem allInRange_enum {bufSize : Nat} (h : 0 < bufSize) :
    AllInRange (enumAccesses bufSize) :=
  List.forall_mem_singleton.mpr (Nat.sub_lt h Nat.one_pos)

theorem SessionAvp.allInRange_accesses (avp : CcrAvp) (sess : ExtractedSession)
    (name : SessionAvp) : AllInRange (name.accesses avp sess) := by
  cases name with
  | framedIPAddress =>
    refine allInRange_append.mpr ⟨allInRange_ipAddress _, ?_⟩
    split
    next h =>
      exact allInRange_append.mpr ⟨allInRange_readOctets h.ge,
        List.forall_mem_singleton.mpr (Nat.le_refl 4)⟩
    next => exact allInRange_nil
  | calledStationId | sessionId | originHost | originRealm => exact allInRange_insertAtFront _ _
  | terminationCause => exact allInRange_enum (by decide)
  | subscriptionId | userEquipmentInfo => exact allInRange_insertChildren _ _ _
  | originStateId | supportedFeatures => exact allInRange_nil

theorem RequestAvp.allInRange_accesses (avp : CcrAvp) (req : ExtractedRequest)
    (name : RequestAvp) : AllInRange (name.accesses avp req) := by
  cases name with
  | chargingRuleReport =>
    refine allInRange_append.mpr ⟨allInRange_insertChildren _ _ _, ?_⟩
    intro access haccess
    obtain ⟨_, -, haccess⟩ := List.mem_flatMap.mp haccess
    exact allInRange_enum (by decide) access haccess
  | bearerIdentifier =>
    simp only [RequestAvp.accesses]
    split
    · exact allInRange_insertAtFront _ _
    · exact allInRange_nil
  | usageMonitoringInformation =>
    intro access haccess
    obtain ⟨_, -, haccess⟩ := List.mem_flatMap.mp haccess
    exact allInRange_readOctets (Nat.le_refl _) access haccess
  | ccRequestType | bearerUsage | online | offline | bearerOperation | qosNegotiation
  | qosUpgrade => exact allInRange_enum (by decide)
  | ccRequestNumber | maxRequestedBandwidthDl | maxRequestedBandwidthUl | eventTrigger
  | qosInformation | guaranteedBitrateDl | guaranteedBitrateUl | defaultEPSBearerQoS
  | xHwTetheringStatus | proceraTetheringFlag => exact allInRange_nil

theorem AvpName.ofKey_eq_some_iff {key : UInt32 × UInt32} {name : AvpName} :
    ofKey key = some name ↔ key = name.key :=
  ⟨fun h => (key_of_ofKey h).symm, fun h => h ▸ ofKey_key name⟩

variable (env : ExtractEnv) (addressSize : ReceivedValue → Nat) (avp : CcrAvp)

/-- What has to hold of a turn for its accesses to be within bounds. -/
structure TurnFits (data : ExtractedData) : Prop where
  network : avp.key = EnvironmentAvp.sgsnMCCMNC.key →
    3 ≤ avp.value.os.length + data.req.soUserEnvironment.coSGSNMCCMNC.v.length
  gateway : avp.key = EnvironmentAvp.anGWAddress.key →
    data.req.soUserEnvironment.coSGSNAddress.isNull = true → addressSize avp.value ≤ sSA4Size

/-- The cases for the user environment that see to their bounds. -/
theorem EnvironmentAvp.allInRange_accesses (e : ExtractedEnvironment) {name : EnvironmentAvp}
    (network : name ≠ sgsnMCCMNC) (gateway : name ≠ anGWAddress) :
    AllInRange (name.accesses env addressSize avp e) := by
  cases name with
  | sgsnMCCMNC => exact absurd rfl network
  | anGWAddress => exact absurd rfl gateway
  | sgsnAddress => exact allInRange_ipAddress _
  | threeGPPRATType =>
    simp only [EnvironmentAvp.accesses]
    split
    · exact allInRange_nil
    next h => exact List.forall_mem_singleton.mpr (Nat.pos_of_ne_zero h)
  | userLocationInfo => exact allInRange_nil
  | rai =>
    simp only [EnvironmentAvp.accesses]
    split
    next h =>
      exact allInRange_append.mpr ⟨allInRange_readOctets h,
        List.forall_mem_singleton.mpr (Nat.le_refl 7)⟩
    next => exact allInRange_nil
  | ipCANType | ratType => exact allInRange_enum (by decide)

theorem allInRange_network_iff (e : ExtractedEnvironment) :
    AllInRange (EnvironmentAvp.sgsnMCCMNC.accesses env addressSize avp e) ↔
      3 ≤ avp.value.os.length + e.coSGSNMCCMNC.v.length := by
  rw [EnvironmentAvp.accesses, allInRange_append,
    and_iff_right (allInRange_insertAtFront _ _), AllInRange,
    List.forall_mem_singleton, Access.InRange, String.length_append, ReceivedValue.length_text]

theorem allInRange_gateway_iff (e : ExtractedEnvironment) :
    AllInRange (EnvironmentAvp.anGWAddress.accesses env addressSize avp e) ↔
      (e.coSGSNAddress.isNull = true → addressSize avp.value ≤ sSA4Size) := by
  rw [EnvironmentAvp.accesses]
  split
  next h =>
    have haddress : AllInRange ((env.addressInterpret avp.value).elim [] fun soAddr =>
        ipAddressAccesses soAddr.octets) := by
      cases env.addressInterpret avp.value with
      | none => exact allInRange_nil
      | some soAddr => exact allInRange_ipAddress _
    rw [AllInRange, List.forall_mem_cons, ← AllInRange, and_iff_left haddress]
    exact ⟨fun hstore _ => hstore, fun hstore => hstore h⟩
  next h => exact iff_of_true allInRange_nil fun hnull => absurd hnull h

/-- Only the network and the gateway ask for something. -/
theorem allInRange_turn_iff (data : ExtractedData) :
    AllInRange (turnAccesses env addressSize avp data) ↔ TurnFits addressSize avp data := by
  have other (network : AvpName.ofKey avp.key ≠ some (.environment .sgsnMCCMNC))
      (gateway : AvpName.ofKey avp.key ≠ some (.environment .anGWAddress)) :
      TurnFits addressSize avp data :=
    ⟨fun key => absurd (AvpName.ofKey_eq_some_iff.mpr key) network,
      fun key => absurd (AvpName.ofKey_eq_some_iff.mpr key) gateway⟩
  unfold turnAccesses
  cases hname : AvpName.ofKey avp.key with
  | none => exact iff_of_true allInRange_nil (other (by simp [hname]) (by simp [hname]))
  | some name =>
    cases name with
    | session name =>
      exact iff_of_true (name.allInRange_accesses avp _)
        (other (by simp [hname]) (by simp [hname]))
    | request name =>
      exact iff_of_true (name.allInRange_accesses avp _)
        (other (by simp [hname]) (by simp [hname]))
    | environment name =>
      have key : avp.key = name.key := AvpName.ofKey_eq_some_iff.mp hname
      by_cases network : name = .sgsnMCCMNC
      · subst network
        simp only [allInRange_network_iff]
        refine ⟨fun h => ⟨fun _ => h, fun gateway => ?_⟩, fun h => h.network key⟩
        exact absurd (key.symm.trans gateway) (by decide)
      · by_cases gateway : name = .anGWAddress
        · subst gateway
          simp only [allInRange_gateway_iff]
          refine ⟨fun h => ⟨fun network => ?_, fun _ => h⟩, fun h => h.gateway key⟩
          exact absurd (key.symm.trans network) (by decide)
        · exact iff_of_true (EnvironmentAvp.allInRange_accesses env addressSize avp _ network
            gateway) (other (by simp [hname, network]) (by simp [hname, gateway]))

end Bounds

/-! ### Turns -/

section Turns

variable {env : ExtractEnv} {addressSize : ReceivedValue → Nat} {avp : CcrAvp}

namespace EnvironmentAvp

variable {e e' : ExtractedEnvironment} {name : EnvironmentAvp}

/-- The network and the address of an SGSN are left as they are by all other cases. -/
theorem extract_keeps (h : name.extract env avp e = some e') :
    (name ≠ sgsnMCCMNC → e'.coSGSNMCCMNC = e.coSGSNMCCMNC) ∧
      (name.part ≠ .addresses → e'.coSGSNAddress = e.coSGSNAddress) := by
  cases name with
  | sgsnMCCMNC =>
    obtain ⟨dashed, -, rfl⟩ := Option.map_eq_some_iff.mp h
    exact ⟨fun hname => absurd rfl hname, fun _ => rfl⟩
  | sgsnAddress | anGWAddress =>
    cases h
    exact ⟨fun _ => rfl, fun hname => absurd rfl hname⟩
  | userLocationInfo =>
    rcases userLocationInfo_cases env avp with ⟨-, fails⟩ | idle | ⟨type, memory, stored⟩
    · cases (fails e).symm.trans h
    · cases (idle e).symm.trans h
      exact ⟨fun _ => rfl, fun _ => rfl⟩
    · cases (stored e).symm.trans h
      exact ⟨fun _ => rfl, fun _ => rfl⟩
  | threeGPPRATType =>
    rcases threeGPPRATType_cases env avp with idle | ⟨text, -, stored⟩
    · cases (idle e).symm.trans h
      exact ⟨fun _ => rfl, fun _ => rfl⟩
    · cases (stored e).symm.trans h
      exact ⟨fun _ => rfl, fun _ => rfl⟩
  | rai | ipCANType | ratType =>
    cases h
    exact ⟨fun _ => rfl, fun _ => rfl⟩

theorem extract_network_written (h : sgsnMCCMNC.extract env avp e = some e') :
    3 ≤ e'.coSGSNMCCMNC.v.length := by
  obtain ⟨dashed, hdashed, rfl⟩ := Option.map_eq_some_iff.mp h
  obtain ⟨long, hdashed⟩ := Option.ite_none_right_eq_some.mp hdashed
  cases hdashed
  -- three characters are kept in front of the dash
  simp only [OtlValue.of, String.length_ofList, List.length_append, List.length_cons,
    List.length_take, List.length_drop, String.length_toList]
  omega

theorem isSome_extract_network (h : 3 ≤ avp.value.os.length + e.coSGSNMCCMNC.v.length) :
    (sgsnMCCMNC.extract env avp e).isSome = true := by
  have long : 3 ≤ (avp.value.text ++ e.coSGSNMCCMNC.v).length := by
    rwa [String.length_append, ReceivedValue.length_text]
  obtain ⟨dashed, hdashed⟩ := insertDash_of_le long
  rw [extract, hdashed, Option.map_some, Option.isSome_some]

end EnvironmentAvp

theorem isNull_pcrfIpAddrToString (octets : List UInt8) (coIPAddress : OtlValue String) :
    (pcrfIpAddrToString octets coIPAddress).isNull = true ↔
      coIPAddress.isNull = true ∧ octets.length ≠ 4 := by
  by_cases h : octets.length = 4
  · obtain ⟨text, written⟩ := pcrfIpAddrToString_of_eq h
    rw [written]
    exact iff_of_false Bool.false_ne_true fun hnull => hnull.2 h
  · rw [pcrfIpAddrToString_of_ne h, and_iff_left h]

/-- Beside an address of an SGSN one of a gateway is not asked for. -/
theorem isNull_anGWAddressTo (coSGSNAddress coSGSNIPv6Address : OtlValue String) :
    (anGWAddressTo env avp coSGSNAddress coSGSNIPv6Address).1.isNull = true ↔
      coSGSNAddress.isNull = true ∧
        ¬ ∃ soAddr, env.addressInterpret avp.value = some soAddr ∧ soAddr.family = .inet := by
  unfold anGWAddressTo
  split
  next hnull =>
    rw [and_iff_right hnull]
    cases haddress : env.addressInterpret avp.value with
    | none => simp [hnull]
    | some soAddr =>
      cases hfamily : soAddr.family with
      | inet =>
        simp [isNull_pcrfIpAddrToString, SocketAddress.octets, hfamily]
      | inet6 => simp [hnull, hfamily]
      | other => simp [hnull, hfamily]
  next hnull => exact iff_of_false hnull fun h => hnull h.1

/-- What a turn makes of the network and of the address of an SGSN. -/
structure Turned (env : ExtractEnv) (avp : CcrAvp) (data data' : ExtractedData) : Prop where
  kept : avp.key ≠ EnvironmentAvp.sgsnMCCMNC.key →
    data'.req.soUserEnvironment.coSGSNMCCMNC = data.req.soUserEnvironment.coSGSNMCCMNC
  written : avp.key = EnvironmentAvp.sgsnMCCMNC.key →
    3 ≤ data'.req.soUserEnvironment.coSGSNMCCMNC.v.length
  address : data'.req.soUserEnvironment.coSGSNAddress.isNull = true ↔
    data.req.soUserEnvironment.coSGSNAddress.isNull = true ∧ ¬ avp.GivesAddress env

variable {data data' : ExtractedData}

theorem CcrAvp.not_givesAddress (sgsn : avp.key ≠ EnvironmentAvp.sgsnAddress.key)
    (gateway : avp.key ≠ EnvironmentAvp.anGWAddress.key) : ¬ avp.GivesAddress env := by
  rintro (⟨key, -⟩ | ⟨key, -⟩)
  · exact sgsn key
  · exact gateway key

/-- Where none of the three AVPs is met the user environment may change in other members only. -/
theorem turned_of_kept (network : avp.key ≠ EnvironmentAvp.sgsnMCCMNC.key)
    (sgsn : avp.key ≠ EnvironmentAvp.sgsnAddress.key)
    (gateway : avp.key ≠ EnvironmentAvp.anGWAddress.key)
    (hnetwork : data'.req.soUserEnvironment.coSGSNMCCMNC =
      data.req.soUserEnvironment.coSGSNMCCMNC)
    (haddress : data'.req.soUserEnvironment.coSGSNAddress =
      data.req.soUserEnvironment.coSGSNAddress) : Turned env avp data data' where
  kept _ := hnetwork
  written key := absurd key network
  address := by rw [haddress, and_iff_left (CcrAvp.not_givesAddress sgsn gateway)]

theorem EnvironmentAvp.turned {name : EnvironmentAvp} {e' : ExtractedEnvironment}
    (key : avp.key = name.key) (h : name.extract env avp data.req.environment = some e') :
    Turned env avp data { data with req := data.req.withEnvironment e' } := by
  obtain ⟨network, address⟩ := extract_keeps h
  cases name with
  | sgsnMCCMNC =>
    have kept : e'.coSGSNAddress = data.req.soUserEnvironment.coSGSNAddress :=
      address (by decide)
    refine ⟨fun hne => absurd key hne, fun _ => extract_network_written h, ?_⟩
    rw [ExtractedRequest.withEnvironment, kept, and_iff_left]
    exact CcrAvp.not_givesAddress (key.trans_ne (by decide)) (key.trans_ne (by decide))
  | sgsnAddress =>
    cases h
    refine ⟨fun _ => rfl, fun hne => absurd (key.symm.trans hne) (by decide), ?_⟩
    refine (isNull_pcrfIpAddrToString _ _).trans (and_congr_right' (not_congr ?_))
    refine ⟨fun four => .inl ⟨key, four⟩, ?_⟩
    rintro (⟨-, four⟩ | ⟨key', -⟩)
    · exact four
    · exact absurd (key.symm.trans key') (by decide)
  | anGWAddress =>
    cases h
    refine ⟨fun _ => rfl, fun hne => absurd (key.symm.trans hne) (by decide), ?_⟩
    refine (isNull_anGWAddressTo _ _).trans (and_congr_right' (not_congr ?_))
    refine ⟨fun interpreted => .inr ⟨key, interpreted⟩, ?_⟩
    rintro (⟨key', -⟩ | ⟨-, interpreted⟩)
    · exact absurd (key.symm.trans key') (by decide)
    · exact interpreted
  | threeGPPRATType | userLocationInfo | rai | ipCANType | ratType =>
    exact turned_of_kept (key.trans_ne (by decide)) (key.trans_ne (by decide))
      (key.trans_ne (by decide)) (network (by decide)) (address (by decide))

theorem turned_of_extractAvp (h : extractAvp env avp data = some data') :
    Turned env avp data data' := by
  have ne_key {name : AvpName} (h : AvpName.ofKey avp.key ≠ some name) : avp.key ≠ name.key :=
    fun key => h (AvpName.ofKey_eq_some_iff.mpr key)
  have other (hname : ∀ name : EnvironmentAvp, AvpName.ofKey avp.key ≠ some (.environment name))
      (kept : data'.req.soUserEnvironment = data.req.soUserEnvironment) :
      Turned env avp data data' :=
    turned_of_kept (ne_key (hname .sgsnMCCMNC)) (ne_key (hname .sgsnAddress))
      (ne_key (hname .anGWAddress)) (by rw [kept]) (by rw [kept])
  unfold extractAvp at h
  cases hname : AvpName.ofKey avp.key with
  | none =>
    simp only [hname, Option.some_inj] at h
    exact other (by simp [hname]) (by rw [h])
  | some name =>
    cases name with
    | session name =>
      simp only [hname, Option.some_inj] at h
      exact other (by simp [hname]) (by rw [← h])
    | request name =>
      simp only [hname, Option.some_inj] at h
      refine other (by simp [hname]) ?_
      rw [← h]
      cases name <;> rfl
    | environment name =>
      simp only [hname] at h
      obtain ⟨e', he', rfl⟩ := Option.map_eq_some_iff.mp h
      exact EnvironmentAvp.turned (AvpName.ofKey_eq_some_iff.mp hname) he'

theorem turned_of_turnAside (h : turnAside env avp data = some data') :
    Turned env avp data data' := by
  unfold turnAside at h
  split at h
  next key =>
    cases hturn : extractAvp env avp data with
    | none =>
      have kept : data = data' := by simpa [hturn] using h
      subst kept
      exact turned_of_kept (key.trans_ne (by decide)) (key.trans_ne (by decide))
        (key.trans_ne (by decide)) rfl rfl
    | some after =>
      have kept : after = data' := by simpa [hturn] using h
      subst kept
      exact turned_of_extractAvp hturn
  next => exact turned_of_extractAvp h

/-- A turn that fits is completed. -/
theorem TurnFits.isSome_turnAside (h : TurnFits addressSize avp data) :
    (turnAside env avp data).isSome = true := by
  unfold turnAside
  split
  next => rfl
  next location =>
    unfold extractAvp
    cases hname : AvpName.ofKey avp.key with
    | none => rfl
    | some name =>
      cases name with
      | session | request => rfl
      | environment name =>
        have key : avp.key = name.key := AvpName.ofKey_eq_some_iff.mp hname
        rw [Option.isSome_map]
        cases name with
        | sgsnMCCMNC => exact EnvironmentAvp.isSome_extract_network (h.network key)
        | userLocationInfo => exact absurd key location
        | threeGPPRATType =>
          rcases EnvironmentAvp.threeGPPRATType_cases env avp with idle | ⟨text, -, stored⟩
          · rw [idle, Option.isSome_some]
          · rw [stored, Option.isSome_some]
        | sgsnAddress | rai | ipCANType | ratType | anGWAddress => rfl

end Turns

/-! ### Requests -/

section Requests

variable {env : ExtractEnv} {addressSize : ReceivedValue → Nat} {avps : List CcrAvp}

/-- After some AVPs. -/
structure Reached (env : ExtractEnv) (front : List CcrAvp) (data : ExtractedData) : Prop where
  network : (∃ avp ∈ front, avp.key = EnvironmentAvp.sgsnMCCMNC.key) →
    3 ≤ data.req.soUserEnvironment.coSGSNMCCMNC.v.length
  noNetwork : (∀ avp ∈ front, avp.key ≠ EnvironmentAvp.sgsnMCCMNC.key) →
    data.req.soUserEnvironment.coSGSNMCCMNC.v.length = 0
  address : data.req.soUserEnvironment.coSGSNAddress.isNull = true ↔
    ∀ avp ∈ front, ¬ avp.GivesAddress env

theorem reached_nil : Reached env [] {} where
  network := by simp
  noNetwork _ := rfl
  address := iff_of_true rfl (by simp)

theorem Reached.turned {front : List CcrAvp} {avp : CcrAvp} {data data' : ExtractedData}
    (h : Reached env front data) (turn : Turned env avp data data') :
    Reached env (front ++ [avp]) data' where
  network := by
    rintro ⟨met, hmet, key⟩
    by_cases last : avp.key = EnvironmentAvp.sgsnMCCMNC.key
    · exact turn.written last
    · rw [turn.kept last]
      refine h.network ⟨met, ?_, key⟩
      rcases List.mem_append.mp hmet with earlier | hlast
      · exact earlier
      · exact absurd (List.mem_singleton.mp hlast ▸ key) last
  noNetwork := by
    intro absent
    rw [List.forall_mem_append, List.forall_mem_singleton] at absent
    rw [turn.kept absent.2]
    exact h.noNetwork absent.1
  address := by
    rw [turn.address, h.address, List.forall_mem_append, List.forall_mem_singleton]

theorem extractAside_concat (front : List CcrAvp) (avp : CcrAvp) :
    extractAside env (front ++ [avp]) = (extractAside env front).bind (turnAside env avp) := by
  simp only [extractAside, List.foldlM_append, List.foldlM_cons, List.foldlM_nil]
  exact Option.bind_congr fun before _ => bind_pure _

theorem reached_extractAside {front : List CcrAvp} {data : ExtractedData}
    (h : extractAside env front = some data) : Reached env front data := by
  induction front using List.reverseRecOn generalizing data with
  | nil =>
    cases h
    exact reached_nil
  | append_singleton front avp ih =>
    rw [extractAside_concat] at h
    obtain ⟨before, hbefore, hturn⟩ := Option.bind_eq_some_iff.mp h
    exact (ih hbefore).turned (turned_of_turnAside hturn)

/-- What the AVPs before say of a turn. -/
theorem Reached.turnFits_iff {front : List CcrAvp} {avp : CcrAvp} {data : ExtractedData}
    (h : Reached env front data) :
    TurnFits addressSize avp data ↔
      (avp.key = EnvironmentAvp.sgsnMCCMNC.key →
        (∀ earlier ∈ front, earlier.key ≠ EnvironmentAvp.sgsnMCCMNC.key) →
          3 ≤ avp.value.os.length) ∧
      (avp.key = EnvironmentAvp.anGWAddress.key →
        (∀ earlier ∈ front, ¬ earlier.GivesAddress env) →
          addressSize avp.value ≤ sSA4Size) := by
  constructor
  · intro fits
    refine ⟨fun key first => ?_, fun key unknown => fits.gateway key (h.address.mpr unknown)⟩
    have long := fits.network key
    rwa [h.noNetwork first, Nat.add_zero] at long
  · rintro ⟨network, gateway⟩
    refine ⟨fun key => ?_, fun key unknown => gateway key (h.address.mp unknown)⟩
    -- a network that was met before is long enough already
    by_cases first : ∀ earlier ∈ front, earlier.key ≠ EnvironmentAvp.sgsnMCCMNC.key
    · exact Nat.le_add_right_of_le (network key first)
    · push Not at first
      exact Nat.le_add_left_of_le (h.network first)

theorem PayloadsFit.completes (h : PayloadsFit env addressSize avps) (front rest : List CcrAvp)
    (split : avps = front ++ rest) : ∃ data, extractAside env front = some data := by
  induction front using List.reverseRecOn generalizing rest with
  | nil => exact ⟨{}, rfl⟩
  | append_singleton front avp ih =>
    rw [List.append_assoc, List.singleton_append] at split
    obtain ⟨before, hbefore⟩ := ih (avp :: rest) split
    have fits : TurnFits addressSize avp before := (reached_extractAside hbefore).turnFits_iff.mpr
      ⟨h.network front avp rest split, h.gateway front avp rest split⟩
    rw [extractAside_concat, hbefore, Option.bind_some]
    exact Option.isSome_iff_exists.mp fits.isSome_turnAside

/-- Exactly these requests are extracted from within bounds. -/
theorem completesInRange_iff (env : ExtractEnv) (addressSize : ReceivedValue → Nat)
    (avps : List CcrAvp) :
    CompletesInRange env addressSize avps ↔ PayloadsFit env addressSize avps := by
  constructor
  · intro h
    -- a request that is completed is completed up to each of its AVPs
    have fits (front : List CcrAvp) (avp : CcrAvp) (rest : List CcrAvp)
        (split : avps = front ++ avp :: rest) :
        ∃ data, Reached env front data ∧ TurnFits addressSize avp data := by
      obtain ⟨data, hdata⟩ := Option.isSome_iff_exists.mp h.completes
      rw [split, extractAside, List.foldlM_append] at hdata
      obtain ⟨before, hbefore, -⟩ := Option.bind_eq_some_iff.mp hdata
      exact ⟨before, reached_extractAside hbefore,
        (allInRange_turn_iff env addressSize avp before).mp
          (h.inRange front avp rest before split hbefore)⟩
    constructor
    · intro front avp rest split
      obtain ⟨data, reached, hfits⟩ := fits front avp rest split
      exact (reached.turnFits_iff.mp hfits).1
    · intro front avp rest split
      obtain ⟨data, reached, hfits⟩ := fits front avp rest split
      exact (reached.turnFits_iff.mp hfits).2
  · intro h
    constructor
    · intro front avp rest data split hdata
      exact (allInRange_turn_iff env addressSize avp data).mpr
        ((reached_extractAside hdata).turnFits_iff.mpr
          ⟨h.network front avp rest split, h.gateway front avp rest split⟩)
    · obtain ⟨data, hdata⟩ := h.completes avps [] (List.append_nil avps).symm
      rw [hdata, Option.isSome_some]

/-- Where no location is copied beyond its structure the turns are those of the program. -/
theorem turnAside_eq {avp : CcrAvp} (data : ExtractedData)
    (fits : avp.key = EnvironmentAvp.userLocationInfo.key → ¬ OverrunsLocation avp.value.os) :
    turnAside env avp data = extractAvp env avp data := by
  unfold turnAside
  split
  next key =>
    rw [extractAvp_environment data key]
    rcases EnvironmentAvp.userLocationInfo_cases env avp with
      ⟨overruns, -⟩ | idle | ⟨type, memory, stored⟩
    · exact absurd overruns (fits key)
    · rw [idle, Option.map_some, Option.getD_some]
    · rw [stored, Option.map_some, Option.getD_some]
  next => rfl

theorem extractAside_eq
    (fits : ∀ avp ∈ avps, avp.key = EnvironmentAvp.userLocationInfo.key →
      ¬ OverrunsLocation avp.value.os) :
    extractAside env avps = pcrfExtractReqData env avps := by
  unfold extractAside pcrfExtractReqData
  generalize ({} : ExtractedData) = data
  induction avps generalizing data with
  | nil => rfl
  | cons avp avps ih =>
    rw [List.forall_mem_cons] at fits
    rw [List.foldlM_cons, List.foldlM_cons, turnAside_eq data fits.1]
    exact Option.bind_congr fun after _ => ih fits.2 after

end Requests

/-- A network of two octets is too short for the dash. -/
theorem not_completesInRange_shortNetwork :
    ¬ ∀ env addressSize avps, CompletesInRange env addressSize avps := by
  intro h
  have completes := (h ratTypeEnv (fun _ => 0)
    [{ isVendor := true, vendor := 10415, code := 18, value := { os := [50, 53] } }]).completes
  exact absurd completes (by decide)

end Pcrf
