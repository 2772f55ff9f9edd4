import Mathlib.Data.List.Pairwise
import Pcrf.Lib.Traces
import Pcrf.RequestAvps
import Pcrf.UserLocationSafety

/-!
The order of the AVPs of a CCR. Cases of the switch that write to different members may change
places. Four members have two cases each, and there the order can show.
-/

namespace Pcrf

open Lib (Commutes attempt commutes_attempt)

/-! ### The order of AVPs -/

/-- Not the same AVP, unless they are Subscription-Ids of distinct types. -/
def DifferentAvps (x y : CcrAvp) : Prop :=
  x.key = y.key →
    x.key = SessionAvp.subscriptionId.key ∧ (readSubscriptionId x).1 ≠ (readSubscriptionId y).1

instance : DecidableRel DifferentAvps := fun x y =>
  inferInstanceAs (Decidable (x.key = y.key → _ ∧ _))

def DistinctAvps (avps : List CcrAvp) : Prop := avps.Pairwise DifferentAvps

instance : DecidablePred DistinctAvps := fun avps =>
  inferInstanceAs (Decidable (avps.Pairwise DifferentAvps))

def ExtractedAlike (env : ExtractEnv) (avps : List CcrAvp) : Prop :=
  ∀ avps', avps.Perm avps' → pcrfExtractReqData env avps' = pcrfExtractReqData env avps

/-- More is copied than the structure of a location holds. -/
def OverrunsLocation (os : List UInt8) : Prop :=
  ∃ octet rest type, os = octet :: rest ∧ EUserLocationType.ofOctet octet = some type ∧
    type.size < rest.length

/-- The program goes wrong at the AVP. -/
inductive CcrAvp.Breaks (avp : CcrAvp) : Prop where
  | location (key : avp.key = EnvironmentAvp.userLocationInfo.key)
      (overruns : OverrunsLocation avp.value.os)
  | network (key : avp.key = EnvironmentAvp.sgsnMCCMNC.key) (short : avp.value.os.length < 3)

/-- Two AVPs write different values to one member, or the second one takes the place of the
first when it comes before. -/
inductive Conflict (env : ExtractEnv) (x y : CcrAvp) : Prop where
  | ratType {text text' : String} (left : x.key = EnvironmentAvp.threeGPPRATType.key)
      (right : y.key = EnvironmentAvp.ratType.key) (written : ratTypeText x.value.os = some text)
      (written' : env.enumText y = some text') (differ : text ≠ text')
  | tethering (left : x.key = RequestAvp.xHwTetheringStatus.key)
      (right : y.key = RequestAvp.proceraTetheringFlag.key) (differ : x.value.u32 ≠ y.value.u32)
  | rai {result : UserLocationResult} (left : x.key = EnvironmentAvp.userLocationInfo.key)
      (right : y.key = EnvironmentAvp.rai.key)
      (parsed : pcrfParseUserLocation env.parse x.value.os {} none = some result)
      (written : result.soUserLocationInfo.coRAI.isNull = false)
      (written' : (pcrfParseRAI y.value.os .empty).1 = 0)
      (differ : result.soUserLocationInfo.coRAI ≠ (pcrfParseRAI y.value.os .empty).2)
  | address {soAddr : SocketAddress} (left : x.key = EnvironmentAvp.sgsnAddress.key)
      (right : y.key = EnvironmentAvp.anGWAddress.key) (written : x.value.os.length = 4)
      (interpreted : env.addressInterpret y.value = some soAddr)
      (inet6 : soAddr.family = .inet6)

section Names

variable {env : ExtractEnv} {avp : CcrAvp}

theorem AvpName.ofKey_key (name : AvpName) : AvpName.ofKey name.key = some name := by
  rcases name with name | name | name <;> cases name <;> rfl

theorem AvpName.key_of_ofKey {key : UInt32 × UInt32} {name : AvpName}
    (h : AvpName.ofKey key = some name) : name.key = key := by
  simpa using List.find?_some h

theorem AvpName.key_inj {name name' : AvpName} (h : name.key = name'.key) : name = name' := by
  have same : some name = some name' := by rw [← ofKey_key name, h, ofKey_key]
  exact Option.some_inj.mp same

variable (data : ExtractedData)

theorem extractAvp_session {name : SessionAvp} (h : avp.key = name.key) :
    extractAvp env avp data = some { data with sess := name.extract env avp data.sess } := by
  simp only [extractAvp, h, show name.key = (AvpName.session name).key from rfl,
    AvpName.ofKey_key]

theorem extractAvp_request {name : RequestAvp} (h : avp.key = name.key) :
    extractAvp env avp data = some { data with req := name.extract env avp data.req } := by
  simp only [extractAvp, h, show name.key = (AvpName.request name).key from rfl,
    AvpName.ofKey_key]

theorem extractAvp_environment {name : EnvironmentAvp} (h : avp.key = name.key) :
    extractAvp env avp data =
      (name.extract env avp data.req.environment).map fun e =>
        { data with req := data.req.withEnvironment e } := by
  simp only [extractAvp, h, show name.key = (AvpName.environment name).key from rfl,
    AvpName.ofKey_key]

end Names

/-! ### What the values make of the members -/

section Values

/-- A location overruns its structure, or it is left as it is, or one structure is stored. -/
theorem pcrfParseUserLocation_cases (env : ParseEnv) (data : List UInt8) :
    (OverrunsLocation data ∧
      ∀ location bLoaded, pcrfParseUserLocation env data location bLoaded = none) ∨
    (∃ code, ∀ location bLoaded,
      pcrfParseUserLocation env data location bLoaded = some ⟨code, location, bLoaded⟩) ∨
    ∃ type memory, ∀ location bLoaded,
      pcrfParseUserLocation env data location bLoaded =
        some ⟨0, EUserLocationType.store type memory (formatMCCMNC (.load memory)) location,
          bLoaded.map fun _ => true⟩ := by
  cases htype : EUserLocationType.ofOctet (data.headD env.beyond) with
  | none => exact .inr (.inl ⟨-2, fun _ _ => pcrfParseUserLocation_unknown htype⟩)
  | some type =>
    by_cases short : data.length < type.size
    · exact .inr (.inl ⟨-1, fun _ _ => pcrfParseUserLocation_short htype short⟩)
    · cases data with
      | nil =>
        have positive : 0 < type.size := by cases type <;> decide
        exact absurd positive short
      | cons octet rest =>
        have first : EUserLocationType.ofOctet octet = some type := htype
        have copied (location : SUserLocation) (bLoaded : Option Bool) :
            pcrfParseUserLocation env (octet :: rest) location bLoaded =
              (memcpy type.size env.stack rest).map fun memory =>
                env.parsed type memory location bLoaded :=
          pcrfParseUserLocation_copied first (Nat.not_lt.mp short)
        by_cases long : type.size < rest.length
        · refine .inl ⟨⟨octet, rest, type, rfl, htype, long⟩, fun location bLoaded => ?_⟩
          rw [copied, memcpy_of_lt long, Option.map_none]
        · simp only [memcpy_of_le (Nat.not_lt.mp long), Option.map_some] at copied
          cases hasprintf : env.asprintf with
          | false =>
            refine .inr (.inl ⟨0, fun location bLoaded => ?_⟩)
            simp [copied, ParseEnv.parsed, hasprintf]
          | true =>
            refine .inr (.inr ⟨type, fun i => rest[i]?.getD (env.stack i),
              fun location bLoaded => ?_⟩)
            simp [copied, ParseEnv.parsed, hasprintf]

theorem pcrfParseUserLocation_of_overruns {env : ParseEnv} {data : List UInt8}
    (h : OverrunsLocation data) (location : SUserLocation) (bLoaded : Option Bool) :
    pcrfParseUserLocation env data location bLoaded = none := by
  obtain ⟨octet, rest, type, rfl, htype, long⟩ := h
  rw [pcrfParseUserLocation_copied htype (by omega), memcpy_of_lt long, Option.map_none]

theorem isNull_formatRAI (so : SRAI) (pszMCCMNC : String) :
    (formatRAI so pszMCCMNC).isNull = false := by
  simp only [formatRAI, formatLocation]
  split <;> rfl

theorem pcrfParseRAI_cases (data : List UInt8) :
    (∀ coValue, pcrfParseRAI data coValue = (EINVAL, coValue)) ∨
      ∃ value, ∀ coValue, pcrfParseRAI data coValue = (0, value) := by
  unfold pcrfParseRAI
  split
  · exact .inr ⟨_, fun _ => rfl⟩
  · exact .inl fun _ => rfl

theorem pcrfIpAddrToString_of_ne {octets : List UInt8} (h : octets.length ≠ 4)
    (coIPAddress : OtlValue String) : pcrfIpAddrToString octets coIPAddress = coIPAddress := by
  unfold pcrfIpAddrToString
  split
  · exact absurd rfl h
  · rfl

/-- Four octets are an address, whatever stood there. -/
theorem pcrfIpAddrToString_of_eq {octets : List UInt8} (h : octets.length = 4) :
    ∃ text, ∀ coIPAddress, pcrfIpAddrToString octets coIPAddress = .of text := by
  unfold pcrfIpAddrToString
  split
  · exact ⟨_, fun _ => rfl⟩
  · next hne =>
    match octets, h with
    | [b1, b2, b3, b4], _ => exact absurd rfl (hne b1 b2 b3 b4)

theorem insertDash_of_short {text : String} (h : text.length < 3) : insertDash text = none :=
  if_neg (Nat.not_le.mpr h)

theorem insertDash_of_le {text : String} (h : 3 ≤ text.length) :
    ∃ dashed, insertDash text = some dashed := ⟨_, if_pos h⟩

theorem ReceivedValue.length_text (value : ReceivedValue) :
    value.text.length = value.os.length := by
  simp [ReceivedValue.text]

theorem SubscriberIdType.toInt32_of_ofInt32 {type : Int32} {name : SubscriberIdType}
    (h : ofInt32 type = some name) : name.toInt32 = type := by
  simpa using List.find?_some h

theorem SSubscriptionIdData.assign_comm (data : SSubscriptionIdData) (text text' : String)
    {name name' : SubscriberIdType} (h : name ≠ name') :
    (data.assign text' name').assign text name = (data.assign text name).assign text' name' := by
  cases name <;> cases name' <;> first | exact absurd rfl h | rfl

/-- Identifiers of distinct types go to distinct members. -/
theorem pcrfExtractSubscriptionId_comm {x y : CcrAvp}
    (h : (readSubscriptionId x).1 ≠ (readSubscriptionId y).1) (data : SSubscriptionIdData) :
    pcrfExtractSubscriptionId x (pcrfExtractSubscriptionId y data) =
      pcrfExtractSubscriptionId y (pcrfExtractSubscriptionId x data) := by
  unfold pcrfExtractSubscriptionId
  generalize readSubscriptionId x = read at h ⊢
  generalize readSubscriptionId y = read' at h ⊢
  obtain ⟨type, text⟩ := read
  obtain ⟨type', text'⟩ := read'
  dsimp only at h ⊢
  cases hname : SubscriberIdType.ofInt32 type with
  | none => simp
  | some name =>
    cases hname' : SubscriberIdType.ofInt32 type' with
    | none => simp
    | some name' =>
      have hne : name ≠ name' := by
        rintro rfl
        exact h ((SubscriberIdType.toInt32_of_ofInt32 hname).symm.trans
          (SubscriberIdType.toInt32_of_ofInt32 hname'))
      by_cases htext : text.length = 0
      · simp [htext]
      · by_cases htext' : text'.length = 0
        · simp [htext']
        · simp only [htext, htext', if_false, Option.elim_some]
          exact data.assign_comm text text' hne

end Values

/-! ### The user environment -/

/-- The members of the user environment that a case reads or writes, the flag apart. -/
inductive EnvironmentPart where
  | addresses
  | network
  | rat
  | location
  | ipCAN
  deriving DecidableEq

def EnvironmentAvp.part : EnvironmentAvp → EnvironmentPart
  | sgsnAddress | anGWAddress => .addresses
  | sgsnMCCMNC => .network
  | threeGPPRATType | ratType => .rat
  | userLocationInfo | rai => .location
  | ipCANType => .ipCAN

namespace ExtractedEnvironment

/-- After the structure of a location was stored. -/
def withLocation (type : EUserLocationType) (memory : Memory) (e : ExtractedEnvironment) :
    ExtractedEnvironment :=
  { e with
    soUsrLoc := type.store memory (formatMCCMNC (.load memory)) e.soUsrLoc
    bLoaded := true }

def withRAI (value : OtlValue String) (e : ExtractedEnvironment) : ExtractedEnvironment :=
  { e with soUsrLoc.coRAI := value }

def withRATType (text : String) (e : ExtractedEnvironment) : ExtractedEnvironment :=
  { e with coRATType := .of text, bLoaded := true }

def withNetwork (dashed : String) (e : ExtractedEnvironment) : ExtractedEnvironment :=
  { e with coSGSNMCCMNC := .of dashed, bLoaded := true }

end ExtractedEnvironment

namespace EnvironmentAvp

variable {env : ExtractEnv} {x y : CcrAvp} {a b : EnvironmentAvp}

theorem userLocationInfo_cases (env : ExtractEnv) (x : CcrAvp) :
    (OverrunsLocation x.value.os ∧ ∀ e, userLocationInfo.extract env x e = none) ∨
    (∀ e, userLocationInfo.extract env x e = some e) ∨
    ∃ type memory, ∀ e, userLocationInfo.extract env x e = some (e.withLocation type memory) := by
  rcases pcrfParseUserLocation_cases env.parse x.value.os with
    ⟨overruns, parsed⟩ | ⟨code, kept⟩ | ⟨type, memory, stored⟩
  · exact .inl ⟨overruns, fun e => by rw [extract, parsed, Option.map_none]⟩
  · exact .inr (.inl fun e => by rw [extract, kept]; rfl)
  · exact .inr (.inr ⟨type, memory, fun e => by rw [extract, stored]; rfl⟩)

theorem threeGPPRATType_cases (env : ExtractEnv) (x : CcrAvp) :
    (∀ e, threeGPPRATType.extract env x e = some e) ∨
    ∃ text, ratTypeText x.value.os = some text ∧
      ∀ e, threeGPPRATType.extract env x e = some (e.withRATType text) := by
  cases htext : ratTypeText x.value.os with
  | none => exact .inl fun e => by simp only [extract, htext]
  | some text =>
    refine .inr ⟨text, rfl, fun e => ?_⟩
    simp only [extract, htext]
    rfl

/-- Whether the network can be written does not depend on what else is written. -/
theorem commutes_network_of_edit {f : ExtractedEnvironment → Option ExtractedEnvironment}
    {edit : ExtractedEnvironment → ExtractedEnvironment} (hf : ∀ e, f e = some (edit e))
    (keeps : ∀ e, (edit e).coSGSNMCCMNC = e.coSGSNMCCMNC)
    (beside : ∀ e dashed, edit (e.withNetwork dashed) = (edit e).withNetwork dashed) :
    Commutes (attempt (sgsnMCCMNC.extract env x)) (attempt f) := by
  have written (e : ExtractedEnvironment) : sgsnMCCMNC.extract env x e =
      (insertDash (x.value.text ++ e.coSGSNMCCMNC.v)).map fun dashed => e.withNetwork dashed :=
    rfl
  refine commutes_attempt.mpr fun e => ?_
  rw [hf, Option.bind_some, written, written, keeps]
  cases insertDash (x.value.text ++ e.coSGSNMCCMNC.v) with
  | none => rfl
  | some dashed => rw [Option.map_some, Option.map_some, Option.bind_some, hf, beside]

theorem commutes_network (hb : b ≠ sgsnMCCMNC) :
    Commutes (attempt (sgsnMCCMNC.extract env x)) (attempt (b.extract env y)) := by
  cases b with
  | sgsnMCCMNC => exact absurd rfl hb
  | userLocationInfo =>
    rcases userLocationInfo_cases env y with ⟨-, fails⟩ | idle | ⟨type, memory, stored⟩
    · exact (Lib.commutes_of_fails fails _).symm
    · exact (Lib.commutes_of_idle idle _).symm
    · exact commutes_network_of_edit stored (fun _ => rfl) fun _ _ => rfl
  | threeGPPRATType =>
    rcases threeGPPRATType_cases env y with idle | ⟨text, -, stored⟩
    · exact (Lib.commutes_of_idle idle _).symm
    · exact commutes_network_of_edit stored (fun _ => rfl) fun _ _ => rfl
  | sgsnAddress | rai | ipCANType | ratType | anGWAddress =>
    exact commutes_network_of_edit (fun _ => rfl) (fun _ => rfl) fun _ _ => rfl

theorem commutes_location (hb : b.part ≠ .location) :
    Commutes (attempt (userLocationInfo.extract env x)) (attempt (b.extract env y)) := by
  rcases userLocationInfo_cases env x with ⟨-, fails⟩ | idle | ⟨type, memory, stored⟩
  · exact Lib.commutes_of_fails fails _
  · exact Lib.commutes_of_idle idle _
  · cases b with
    | userLocationInfo | rai => exact absurd rfl hb
    | sgsnMCCMNC => exact (commutes_network (by decide)).symm
    | threeGPPRATType =>
      rcases threeGPPRATType_cases env y with idle | ⟨text, -, stored'⟩
      · exact (Lib.commutes_of_idle idle _).symm
      · exact Lib.commutes_of_edits stored stored' fun _ => rfl
    | sgsnAddress | ipCANType | ratType | anGWAddress =>
      exact Lib.commutes_of_edits stored (fun _ => rfl) fun _ => rfl

theorem commutes_threeGPPRATType (hb : b.part ≠ .rat) :
    Commutes (attempt (threeGPPRATType.extract env x)) (attempt (b.extract env y)) := by
  rcases threeGPPRATType_cases env x with idle | ⟨text, -, stored⟩
  · exact Lib.commutes_of_idle idle _
  · cases b with
    | threeGPPRATType | ratType => exact absurd rfl hb
    | sgsnMCCMNC => exact (commutes_network (by decide)).symm
    | userLocationInfo => exact (commutes_location (by decide)).symm
    | sgsnAddress | rai | ipCANType | anGWAddress =>
      exact Lib.commutes_of_edits stored (fun _ => rfl) fun _ => rfl

/-- Cases that write to different members. -/
theorem commutes_of_part (h : a.part ≠ b.part) :
    Commutes (attempt (a.extract env x)) (attempt (b.extract env y)) := by
  cases a with
  | sgsnMCCMNC =>
    refine commutes_network ?_
    rintro rfl
    exact h rfl
  | userLocationInfo => exact commutes_location h.symm
  | threeGPPRATType => exact commutes_threeGPPRATType h.symm
  | sgsnAddress | rai | ipCANType | ratType | anGWAddress =>
    cases b with
    | sgsnMCCMNC => exact (commutes_network (by decide)).symm
    | userLocationInfo => exact (commutes_location h).symm
    | threeGPPRATType => exact (commutes_threeGPPRATType h).symm
    | sgsnAddress | rai | ipCANType | ratType | anGWAddress =>
      first
        | exact absurd rfl h
        | exact Lib.commutes_of_edits (fun _ => rfl) (fun _ => rfl) fun _ => rfl

/-! ### Two cases for one member -/

/-- An address that is known keeps the one of the gateway out. -/
theorem anGWAddressTo_of (env : ExtractEnv) (y : CcrAvp) (text : String)
    (coSGSNIPv6Address : OtlValue String) :
    anGWAddressTo env y (.of text) coSGSNIPv6Address = (.of text, coSGSNIPv6Address) := rfl

theorem anGWAddressTo_snd
    (h : ∀ soAddr, env.addressInterpret y.value = some soAddr → soAddr.family ≠ .inet6)
    (coSGSNAddress coSGSNIPv6Address : OtlValue String) :
    (anGWAddressTo env y coSGSNAddress coSGSNIPv6Address).2 = coSGSNIPv6Address := by
  unfold anGWAddressTo
  split
  · split
    · next soAddr interpreted =>
      split
      · rfl
      · next inet6 => exact absurd inet6 (h soAddr interpreted)
      · rfl
    · rfl
  · rfl

theorem commutes_addresses
    (h : x.value.os.length = 4 → ∀ soAddr, env.addressInterpret y.value = some soAddr →
      soAddr.family ≠ .inet6) :
    Commutes (attempt (sgsnAddress.extract env x)) (attempt (anGWAddress.extract env y)) := by
  by_cases four : x.value.os.length = 4
  · obtain ⟨text, written⟩ := pcrfIpAddrToString_of_eq four
    refine commutes_attempt.mpr fun e => ?_
    simp only [extract, written, Option.bind_some, anGWAddressTo_of, anGWAddressTo_snd (h four)]
  · refine Lib.commutes_of_idle (fun e => ?_) _
    simp only [extract, pcrfIpAddrToString_of_ne four]

theorem commutes_rat
    (h : ∀ text text', ratTypeText x.value.os = some text → env.enumText y = some text' →
      text = text') :
    Commutes (attempt (threeGPPRATType.extract env x)) (attempt (ratType.extract env y)) := by
  rcases threeGPPRATType_cases env x with idle | ⟨text, htext, stored⟩
  · exact Lib.commutes_of_idle idle _
  · refine Lib.commutes_of_edits stored (fun _ => rfl) fun e => ?_
    cases henum : env.enumText y with
    | none => rfl
    | some text' =>
      rw [h text text' htext henum]
      rfl

theorem commutes_rai (h : ¬ Conflict env x y) (hx : x.key = userLocationInfo.key)
    (hy : y.key = rai.key) :
    Commutes (attempt (userLocationInfo.extract env x)) (attempt (rai.extract env y)) := by
  rcases pcrfParseRAI_cases y.value.os with kept | ⟨value, made⟩
  · refine (Lib.commutes_of_idle (fun e => ?_) _).symm
    simp only [extract, kept]
  · rcases pcrfParseUserLocation_cases env.parse x.value.os with
      ⟨-, overrun⟩ | ⟨code, idle⟩ | ⟨type, memory, stored⟩
    · refine Lib.commutes_of_fails (fun e => ?_) _
      rw [extract, overrun, Option.map_none]
    · refine Lib.commutes_of_idle (fun e => ?_) _
      rw [extract, idle]
      rfl
    · have located (e : ExtractedEnvironment) :
          userLocationInfo.extract env x e = some (e.withLocation type memory) := by
        rw [extract, stored]
        rfl
      have routed (e : ExtractedEnvironment) :
          rai.extract env y e = some (e.withRAI value) := by
        simp only [extract, made]
        rfl
      refine Lib.commutes_of_edits located routed fun e => ?_
      cases type with
      | rai =>
        -- both make the area, and by assumption the same one
        have same : formatRAI (.load memory) (formatMCCMNC (.load memory)) = value := by
          by_contra differ
          refine h (.rai hx hy (stored {} none) ?_ ?_ ?_)
          · simp only [EUserLocationType.store, isNull_formatRAI]
          · rw [made]
          · simp only [EUserLocationType.store, made]
            exact differ
        simp only [ExtractedEnvironment.withLocation, ExtractedEnvironment.withRAI,
          EUserLocationType.store, same]
      | cgi | sai | tai | ecgi | taiEcgi =>
        simp only [ExtractedEnvironment.withLocation, ExtractedEnvironment.withRAI,
          EUserLocationType.store]

end EnvironmentAvp

/-! ### Two AVPs -/

theorem SessionAvp.extract_comm {env : ExtractEnv} {x y : CcrAvp} {a b : SessionAvp} (h : a ≠ b) :
    Commutes (a.extract env x) (b.extract env y) := by
  cases a <;> cases b <;> first | exact absurd rfl h | exact fun _ => rfl

theorem RequestAvp.extract_comm {env : ExtractEnv} {x y : CcrAvp} {a b : RequestAvp} (h : a ≠ b)
    (left : a = .xHwTetheringStatus → b = .proceraTetheringFlag → x.value.u32 = y.value.u32)
    (right : b = .xHwTetheringStatus → a = .proceraTetheringFlag → x.value.u32 = y.value.u32) :
    Commutes (a.extract env x) (b.extract env y) := by
  intro req
  cases a <;> cases b <;>
    first
      | exact absurd rfl h
      | rfl
      | simp only [extract, left rfl rfl]
      | simp only [extract, right rfl rfl]

/-- The user environment is apart from the rest of the request. -/
theorem RequestAvp.extract_withEnvironment (env : ExtractEnv) (x : CcrAvp) (a : RequestAvp)
    (req : ExtractedRequest) (e : ExtractedEnvironment) :
    a.extract env x (req.withEnvironment e) = (a.extract env x req).withEnvironment e := by
  cases a <;> rfl

theorem RequestAvp.environment_extract (env : ExtractEnv) (x : CcrAvp) (a : RequestAvp)
    (req : ExtractedRequest) : (a.extract env x req).environment = req.environment := by
  cases a <;> rfl

section Pairs

variable {env : ExtractEnv} {x y : CcrAvp}

theorem extractAvp_comm_of_sessions {a b : SessionAvp} (hx : x.key = a.key) (hy : y.key = b.key)
    (h : Commutes (a.extract env x) (b.extract env y)) :
    Commutes (attempt (extractAvp env x)) (attempt (extractAvp env y)) :=
  Lib.commutes_of_edits (fun data => extractAvp_session data hx)
    (fun data => extractAvp_session data hy)
    fun data => congrArg (fun sess => { data with sess := sess }) (h data.sess)

theorem extractAvp_comm_of_requests {a b : RequestAvp} (hx : x.key = a.key) (hy : y.key = b.key)
    (h : Commutes (a.extract env x) (b.extract env y)) :
    Commutes (attempt (extractAvp env x)) (attempt (extractAvp env y)) :=
  Lib.commutes_of_edits (fun data => extractAvp_request data hx)
    (fun data => extractAvp_request data hy)
    fun data => congrArg (fun req => { data with req := req }) (h data.req)

/-- The second AVP reads the environment that the first one left. -/
theorem extractAvp_bind_environment {a b : EnvironmentAvp} (hx : x.key = a.key)
    (hy : y.key = b.key) (data : ExtractedData) :
    (extractAvp env x data).bind (extractAvp env y) =
      ((a.extract env x data.req.environment).bind (b.extract env y)).map fun e =>
        { data with req := data.req.withEnvironment e } := by
  rw [extractAvp_environment data hx]
  cases a.extract env x data.req.environment with
  | none => rfl
  | some e =>
    rw [Option.map_some, Option.bind_some, Option.bind_some, extractAvp_environment _ hy]
    rfl

theorem extractAvp_comm_of_environments {a b : EnvironmentAvp} (hx : x.key = a.key)
    (hy : y.key = b.key)
    (h : Commutes (attempt (a.extract env x)) (attempt (b.extract env y))) :
    Commutes (attempt (extractAvp env x)) (attempt (extractAvp env y)) := by
  refine commutes_attempt.mpr fun data => ?_
  rw [extractAvp_bind_environment hy hx, extractAvp_bind_environment hx hy,
    commutes_attempt.mp h data.req.environment]

theorem extractAvp_comm_of_apart {a : RequestAvp} {b : EnvironmentAvp} (hx : x.key = a.key)
    (hy : y.key = b.key) :
    Commutes (attempt (extractAvp env x)) (attempt (extractAvp env y)) := by
  refine commutes_attempt.mpr fun data => ?_
  rw [extractAvp_environment data hy, extractAvp_request data hx, Option.bind_some,
    extractAvp_environment _ hy, RequestAvp.environment_extract]
  cases b.extract env y data.req.environment with
  | none => rfl
  | some e =>
    rw [Option.map_some, Option.map_some, Option.bind_some, extractAvp_request _ hx,
      RequestAvp.extract_withEnvironment]

theorem extractAvp_comm_of_session {a : SessionAvp} {name : AvpName} (hx : x.key = a.key)
    (hy : y.key = name.key) (hname : ∀ b, name ≠ .session b) :
    Commutes (attempt (extractAvp env x)) (attempt (extractAvp env y)) := by
  cases name with
  | session b => exact absurd rfl (hname b)
  | request b =>
    exact Lib.commutes_of_edits (fun data => extractAvp_session data hx)
      (fun data => extractAvp_request data hy) fun _ => rfl
  | environment b =>
    refine commutes_attempt.mpr fun data => ?_
    rw [extractAvp_environment data hy, extractAvp_session data hx, Option.bind_some,
      extractAvp_environment _ hy]
    cases b.extract env y data.req.environment with
    | none => rfl
    | some e => exact extractAvp_session _ hx

theorem extractAvp_of_unknown (h : AvpName.ofKey x.key = none) (data : ExtractedData) :
    extractAvp env x data = some data := by
  simp only [extractAvp, h]

theorem EnvironmentAvp.commutes_of_part_eq {a b : EnvironmentAvp} (hx : x.key = a.key)
    (hy : y.key = b.key) (hne : a ≠ b) (hpart : a.part = b.part) (h : ¬ Conflict env x y)
    (h' : ¬ Conflict env y x) :
    Commutes (attempt (a.extract env x)) (attempt (b.extract env y)) := by
  cases a with
  | sgsnAddress =>
    cases b with
    | anGWAddress =>
      exact commutes_addresses fun four soAddr interpreted inet6 =>
        h (.address hx hy four interpreted inet6)
    | _ => first | exact absurd rfl hne | exact absurd hpart (by decide)
  | anGWAddress =>
    cases b with
    | sgsnAddress =>
      exact (commutes_addresses fun four soAddr interpreted inet6 =>
        h' (.address hy hx four interpreted inet6)).symm
    | _ => first | exact absurd rfl hne | exact absurd hpart (by decide)
  | threeGPPRATType =>
    cases b with
    | ratType =>
      exact commutes_rat fun text text' written written' =>
        by_contra fun differ => h (.ratType hx hy written written' differ)
    | _ => first | exact absurd rfl hne | exact absurd hpart (by decide)
  | ratType =>
    cases b with
    | threeGPPRATType =>
      exact (commutes_rat fun text text' written written' =>
        by_contra fun differ => h' (.ratType hy hx written written' differ)).symm
    | _ => first | exact absurd rfl hne | exact absurd hpart (by decide)
  | userLocationInfo =>
    cases b with
    | rai => exact commutes_rai h hx hy
    | _ => first | exact absurd rfl hne | exact absurd hpart (by decide)
  | rai =>
    cases b with
    | userLocationInfo => exact (commutes_rai h' hy hx).symm
    | _ => first | exact absurd rfl hne | exact absurd hpart (by decide)
  | sgsnMCCMNC | ipCANType =>
    cases b with
    | _ => first | exact absurd rfl hne | exact absurd hpart (by decide)

/-- Of the AVPs that come to one case only Subscription-Ids are different. -/
theorem DifferentAvps.of_name {name : AvpName} (different : DifferentAvps x y)
    (hx : x.key = name.key) (hy : y.key = name.key) :
    name = .session .subscriptionId ∧ (readSubscriptionId x).1 ≠ (readSubscriptionId y).1 := by
  obtain ⟨subscription, types⟩ := different (hx.trans hy.symm)
  exact ⟨AvpName.key_inj (hx.symm.trans subscription), types⟩

theorem DifferentAvps.key_ne (different : DifferentAvps x y) (name : AvpName)
    (hy : y.key = name.key) (hname : name ≠ .session .subscriptionId) : x.key ≠ name.key :=
  fun hx => hname (different.of_name hx hy).1

/-- AVPs that do not write to one member may change places. -/
theorem commutes_of_not_conflict (different : DifferentAvps x y) (h : ¬ Conflict env x y)
    (h' : ¬ Conflict env y x) :
    Commutes (attempt (extractAvp env x)) (attempt (extractAvp env y)) := by
  cases hx : AvpName.ofKey x.key with
  | none => exact Lib.commutes_of_idle (extractAvp_of_unknown hx) _
  | some name =>
    cases hy : AvpName.ofKey y.key with
    | none => exact (Lib.commutes_of_idle (extractAvp_of_unknown hy) _).symm
    | some name' =>
      have keyX : x.key = name.key := (AvpName.key_of_ofKey hx).symm
      have keyY : y.key = name'.key := (AvpName.key_of_ofKey hy).symm
      cases name with
      | session a =>
        cases name' with
        | session b =>
          refine extractAvp_comm_of_sessions keyX keyY ?_
          by_cases hab : a = b
          · subst hab
            obtain ⟨hname, types⟩ := different.of_name keyX keyY
            cases hname
            intro sess
            simp only [SessionAvp.extract, pcrfExtractSubscriptionId_comm types]
          · exact SessionAvp.extract_comm hab
        | request b => exact extractAvp_comm_of_session keyX keyY (by simp)
        | environment b => exact extractAvp_comm_of_session keyX keyY (by simp)
      | request a =>
        cases name' with
        | session b => exact (extractAvp_comm_of_session keyY keyX (by simp)).symm
        | request b =>
          refine extractAvp_comm_of_requests keyX keyY (RequestAvp.extract_comm ?_ ?_ ?_)
          · rintro rfl
            cases (different.of_name keyX keyY).1
          · rintro rfl rfl
            exact by_contra fun differ => h (.tethering keyX keyY differ)
          · rintro rfl rfl
            exact by_contra fun differ => h' (.tethering keyY keyX (Ne.symm differ))
        | environment b => exact extractAvp_comm_of_apart keyX keyY
      | environment a =>
        cases name' with
        | session b => exact (extractAvp_comm_of_session keyY keyX (by simp)).symm
        | request b => exact (extractAvp_comm_of_apart keyY keyX).symm
        | environment b =>
          refine extractAvp_comm_of_environments keyX keyY ?_
          by_cases hpart : a.part = b.part
          · refine EnvironmentAvp.commutes_of_part_eq keyX keyY ?_ hpart h h'
            rintro rfl
            cases (different.of_name keyX keyY).1
          · exact EnvironmentAvp.commutes_of_part hpart

theorem Conflict.key_ne (h : Conflict env x y) : x.key ≠ y.key := by
  cases h with
  | ratType left right | tethering left right | rai left right | address left right =>
    rw [left, right]
    decide

theorem Conflict.right_of_sgsnAddress (h : Conflict env x y)
    (hx : x.key = EnvironmentAvp.sgsnAddress.key) : y.key = EnvironmentAvp.anGWAddress.key := by
  cases h with
  | address _ right => exact right
  | ratType left | tethering left | rai left => exact absurd (left.symm.trans hx) (by decide)

theorem Conflict.not_breaks_left (h : Conflict env x y) : ¬ x.Breaks := by
  rintro (⟨key, overruns⟩ | ⟨key, -⟩)
  · cases h with
    | rai left right parsed =>
      rw [pcrfParseUserLocation_of_overruns overruns] at parsed
      cases parsed
    | ratType left | tethering left | address left =>
      exact absurd (left.symm.trans key) (by decide)
  · cases h with
    | ratType left | tethering left | rai left | address left =>
      exact absurd (left.symm.trans key) (by decide)

theorem Conflict.not_breaks_right (h : Conflict env x y) : ¬ y.Breaks := by
  rintro (⟨key, -⟩ | ⟨key, -⟩) <;> cases h with
  | ratType left right | tethering left right | rai left right | address left right =>
    exact absurd (right.symm.trans key) (by decide)

/-- The structures of a new request have no network in them yet. -/
theorem extractAvp_of_breaks (h : x.Breaks) : extractAvp env x {} = none := by
  cases h with
  | location key overruns =>
    rw [extractAvp_environment _ key, EnvironmentAvp.extract,
      pcrfParseUserLocation_of_overruns overruns, Option.map_none, Option.map_none]
  | network key short =>
    have hlength : (x.value.text ++ "").length < 3 := by
      rw [String.append_empty, ReceivedValue.length_text]
      exact short
    rw [extractAvp_environment _ key, EnvironmentAvp.extract]
    change Option.map _ (Option.map _ (insertDash (x.value.text ++ ""))) = none
    rw [insertDash_of_short hlength, Option.map_none, Option.map_none]

/-- The members that the two cases for addresses are about. -/
def ExtractedEnvironment.addresses (e : ExtractedEnvironment) :
    OtlValue String × OtlValue String :=
  (e.coSGSNAddress, e.coSGSNIPv6Address)

theorem EnvironmentAvp.extract_of_not_breaks (env : ExtractEnv) {a : EnvironmentAvp}
    (hx : x.key = a.key) (h : ¬ x.Breaks) (e : ExtractedEnvironment) :
    ∃ e', a.extract env x e = some e' ∧ (a.part ≠ .addresses → e'.addresses = e.addresses) := by
  cases a with
  | sgsnMCCMNC =>
    have hlength : 3 ≤ (x.value.text ++ e.coSGSNMCCMNC.v).length := by
      have := Nat.not_lt.mp fun short => h (.network hx short)
      rw [String.length_append, ReceivedValue.length_text]
      omega
    obtain ⟨dashed, hdash⟩ := insertDash_of_le hlength
    have written : sgsnMCCMNC.extract env x e = some (e.withNetwork dashed) := by
      rw [extract, hdash, Option.map_some]
      rfl
    exact ⟨_, written, fun _ => rfl⟩
  | threeGPPRATType =>
    rcases threeGPPRATType_cases env x with idle | ⟨text, -, stored⟩
    · exact ⟨e, idle e, fun _ => rfl⟩
    · exact ⟨_, stored e, fun _ => rfl⟩
  | userLocationInfo =>
    rcases userLocationInfo_cases env x with ⟨overruns, -⟩ | idle | ⟨type, memory, stored⟩
    · exact absurd (.location hx overruns) h
    · exact ⟨e, idle e, fun _ => rfl⟩
    · exact ⟨_, stored e, fun _ => rfl⟩
  | sgsnAddress | anGWAddress => exact ⟨_, rfl, fun hpart => absurd rfl hpart⟩
  | rai | ipCANType | ratType => exact ⟨_, rfl, fun _ => rfl⟩

def CcrAvp.SparesAddresses (avp : CcrAvp) : Prop :=
  avp.key ≠ EnvironmentAvp.sgsnAddress.key ∧ avp.key ≠ EnvironmentAvp.anGWAddress.key

theorem extractAvp_of_not_breaks (h : ¬ x.Breaks) (data : ExtractedData) :
    ∃ data', extractAvp env x data = some data' ∧ (x.SparesAddresses →
      data'.req.environment.addresses = data.req.environment.addresses) := by
  cases hx : AvpName.ofKey x.key with
  | none => exact ⟨data, extractAvp_of_unknown hx data, fun _ => rfl⟩
  | some name =>
    have key : x.key = name.key := (AvpName.key_of_ofKey hx).symm
    cases name with
    | session a => exact ⟨_, extractAvp_session data key, fun _ => rfl⟩
    | request a =>
      refine ⟨_, extractAvp_request data key, fun _ => ?_⟩
      rw [RequestAvp.environment_extract]
    | environment a =>
      obtain ⟨e', he', spared⟩ :=
        EnvironmentAvp.extract_of_not_breaks env key h data.req.environment
      have written : extractAvp env x data =
          some { data with req := data.req.withEnvironment e' } := by
        rw [extractAvp_environment data key, he', Option.map_some]
      refine ⟨_, written, fun ⟨sgsn, gateway⟩ => spared ?_⟩
      intro hpart
      cases a with
      | sgsnAddress => exact sgsn key
      | anGWAddress => exact gateway key
      | _ => exact absurd hpart (by decide)

/-- What shows in the environment shows in the whole. -/
theorem extractAvp_bind_ne {a b : EnvironmentAvp} (hx : x.key = a.key) (hy : y.key = b.key)
    {data : ExtractedData}
    (h : (a.extract env x data.req.environment).bind (b.extract env y) ≠
      (b.extract env y data.req.environment).bind (a.extract env x)) :
    (extractAvp env x data).bind (extractAvp env y) ≠
      (extractAvp env y data).bind (extractAvp env x) := by
  intro same
  rw [extractAvp_bind_environment hx hy, extractAvp_bind_environment hy hx] at same
  refine h (Option.map_injective (fun e e' heq => ?_) same)
  exact congrArg (fun data : ExtractedData => data.req.environment) heq

/-- In a conflict it shows which of the two came last. -/
theorem Conflict.differ (h : Conflict env x y) (data : ExtractedData)
    (addresses : x.key = EnvironmentAvp.sgsnAddress.key →
      data.req.environment.addresses = (.empty, .empty)) :
    (extractAvp env x data).bind (extractAvp env y) ≠
      (extractAvp env y data).bind (extractAvp env x) := by
  cases h with
  | @ratType text text' left right written written' differ =>
    refine extractAvp_bind_ne left right fun same => differ ?_
    simp only [EnvironmentAvp.extract, written, written', Option.bind_some] at same
    have shown := congrArg (Option.map fun e => e.coRATType.v) same
    exact (Option.some_inj.mp shown).symm
  | tethering left right differ =>
    intro same
    rw [extractAvp_request data left, extractAvp_request data right, Option.bind_some,
      Option.bind_some, extractAvp_request _ left, extractAvp_request _ right] at same
    have shown := congrArg (Option.map fun d => d.req.coTetheringFlag.v) same
    exact differ (Option.some_inj.mp shown).symm
  | @rai result left right parsed written written' differ =>
    refine extractAvp_bind_ne left right fun same => differ ?_
    rcases pcrfParseRAI_cases y.value.os with kept | ⟨value, made⟩
    · rw [kept] at written'
      exact absurd written' (by decide)
    · rcases pcrfParseUserLocation_cases env.parse x.value.os with
        ⟨-, overrun⟩ | ⟨code, idle⟩ | ⟨type, memory, stored⟩
      · rw [overrun] at parsed
        cases parsed
      · rw [idle] at parsed
        cases parsed
        cases written
      · rw [stored] at parsed
        cases parsed
        cases type with
        | rai =>
          simp only [EnvironmentAvp.extract, stored, made, Option.bind_some, Option.map_some]
            at same
          have shown := congrArg (Option.map fun e => e.soUsrLoc.coRAI) same
          rw [made]
          exact (Option.some_inj.mp shown).symm
        | cgi | sai | tai | ecgi | taiEcgi => cases written
  | @address soAddr left right four interpreted inet6 =>
    refine extractAvp_bind_ne left right fun same => ?_
    obtain ⟨text, written⟩ := pcrfIpAddrToString_of_eq four
    obtain ⟨text', written'⟩ := pcrfIpAddrToString_of_eq (show soAddr.octets.length = 4 from rfl)
    have hnone := addresses left
    simp only [ExtractedEnvironment.addresses, Prod.mk.injEq] at hnone
    obtain ⟨noSGSN, noIPv6⟩ := hnone
    have late : anGWAddressTo env y .empty .empty = (.empty, .of text') := by
      simp only [anGWAddressTo, interpreted, inet6, written']
      rfl
    simp only [EnvironmentAvp.extract, written, Option.bind_some,
      EnvironmentAvp.anGWAddressTo_of, noSGSN, noIPv6, late] at same
    have shown := congrArg (Option.map fun e => e.coSGSNIPv6Address.null) same
    cases Option.some_inj.mp shown

end Pairs

/-! ### The whole request -/

section Request

variable {env : ExtractEnv} {avps : List CcrAvp}

instance : Std.Symm DifferentAvps where
  symm x y h key := by
    obtain ⟨subscription, types⟩ := h key.symm
    exact ⟨key.trans subscription, types.symm⟩

theorem DistinctAvps.nodup (distinct : DistinctAvps avps) : avps.Nodup := by
  refine List.Pairwise.imp ?_ distinct
  rintro x y different rfl
  exact (different rfl).2 rfl

theorem DistinctAvps.different (distinct : DistinctAvps avps) {x y : CcrAvp} (hx : x ∈ avps)
    (hy : y ∈ avps) (hne : x ≠ y) : DifferentAvps x y :=
  List.Pairwise.forall distinct hx hy hne

theorem pcrfExtractReqData_eq_replay (env : ExtractEnv) (avps : List CcrAvp) :
    pcrfExtractReqData env avps =
      Lib.replay (fun avp => attempt (extractAvp env avp)) (some {}) avps :=
  Lib.foldlM_eq_replay (f := extractAvp env) {} avps

/-- Without a conflict the order does not matter. -/
theorem extractedAlike_of_no_conflict (distinct : DistinctAvps avps)
    (h : ∀ x ∈ avps, ∀ y ∈ avps, ¬ Conflict env x y) : ExtractedAlike env avps := by
  intro avps' perm
  rw [pcrfExtractReqData_eq_replay, pcrfExtractReqData_eq_replay]
  refine (Lib.replay_eq perm distinct.nodup (fun x y conflict before => ?_) _).symm
  exfalso
  have hx := before.mem_left
  have hy := before.mem_right
  refine conflict (commutes_of_not_conflict (distinct.different hx hy ?_) (h x hx y hy)
    (h y hy x hx))
  rintro rfl
  exact conflict fun _ => rfl

/-- One AVP that the program goes wrong at is enough, wherever it stands. -/
theorem extractedAlike_of_breaks (distinct : DistinctAvps avps) {x : CcrAvp} (hx : x ∈ avps)
    (h : x.Breaks) : ExtractedAlike env avps := by
  have fails (avps' : List CcrAvp) (perm : avps.Perm avps') :
      pcrfExtractReqData env avps' = none := by
    obtain ⟨front, back, rfl⟩ := List.append_of_mem (perm.subset hx)
    have nodup : (front ++ x :: back).Nodup := perm.nodup_iff.mp distinct.nodup
    -- it is in no conflict, so that it may come first
    have commutes : ∀ y ∈ front,
        Commutes (attempt (extractAvp env x)) (attempt (extractAvp env y)) := by
      intro y hy
      refine commutes_of_not_conflict (distinct.different hx ?_ ?_)
        (fun conflict => conflict.not_breaks_left h) fun conflict => conflict.not_breaks_right h
      · exact perm.mem_iff.mpr (List.mem_append_left _ hy)
      · rintro rfl
        exact (List.nodup_append.mp nodup).2.2 x hy x (List.mem_cons_self ..) rfl
    have first : attempt (extractAvp env x) (some {}) = none := extractAvp_of_breaks h
    rw [pcrfExtractReqData_eq_replay, Lib.replay_move commutes, first]
    exact Lib.replay_none (front ++ back)
  intro avps' perm
  rw [fails avps' perm, fails avps (.refl _)]

/-- The AVPs that stand before the two of a conflict. -/
theorem extracted_rest (env : ExtractEnv) {rest : List CcrAvp} (h : ∀ z ∈ rest, ¬ z.Breaks)
    (data : ExtractedData) :
    ∃ data', rest.foldlM (fun data avp => extractAvp env avp data) data = some data' ∧
      ((∀ z ∈ rest, z.SparesAddresses) →
        data'.req.environment.addresses = data.req.environment.addresses) := by
  induction rest generalizing data with
  | nil => exact ⟨data, rfl, fun _ => rfl⟩
  | cons z rest ih =>
    obtain ⟨data', hz, keptZ⟩ := extractAvp_of_not_breaks (h z (List.mem_cons_self ..)) data
    obtain ⟨data'', hrest, kept⟩ :=
      ih (fun w hw => h w (List.mem_cons_of_mem _ hw)) data'
    refine ⟨data'', ?_, fun spared => ?_⟩
    · rw [List.foldlM_cons, hz]
      exact hrest
    · rw [kept fun w hw => spared w (List.mem_cons_of_mem _ hw),
        keptZ (spared z (List.mem_cons_self ..))]

theorem not_extractedAlike_of_conflict (distinct : DistinctAvps avps)
    (sound : ∀ z ∈ avps, ¬ z.Breaks) {x y : CcrAvp} (hx : x ∈ avps) (hy : y ∈ avps)
    (conflict : Conflict env x y) : ¬ ExtractedAlike env avps := by
  classical
  intro alike
  have hne : x ≠ y := fun heq => conflict.key_ne (congrArg CcrAvp.key heq)
  -- all the others first, then the two in either order
  obtain ⟨rest, toEnd⟩ : ∃ rest, avps.Perm (rest ++ [x, y]) := by
    refine ⟨(avps.erase x).erase y, ?_⟩
    have hy' : y ∈ avps.erase x := (List.mem_erase_of_ne hne.symm).mpr hy
    exact ((List.perm_cons_erase hx).trans ((List.perm_cons_erase hy').cons x)).trans
      (show ([x, y] ++ (avps.erase x).erase y).Perm _ from List.perm_append_comm)
  have toEnd' : avps.Perm (rest ++ [y, x]) :=
    toEnd.trans ((List.Perm.swap y x []).append_left rest)
  have hrest : ∀ z ∈ rest, z ∈ avps := fun z hz => toEnd.mem_iff.mpr (List.mem_append_left _ hz)
  obtain ⟨data, hdata, kept⟩ := extracted_rest env (fun z hz => sound z (hrest z hz)) {}
  have run (p q : CcrAvp) : pcrfExtractReqData env (rest ++ [p, q]) =
      (extractAvp env p data).bind (extractAvp env q) := by
    rw [pcrfExtractReqData, List.foldlM_append, hdata]
    change (extractAvp env p data).bind (fun data => (extractAvp env q data).bind some) = _
    simp only [Option.bind_fun_some]
  refine conflict.differ data (fun sgsn => kept fun z hz => ?_) ?_
  · have distinct' : DistinctAvps (rest ++ [x, y]) :=
      (toEnd.pairwise_iff (fun h => symm h)).mp distinct
    have different := (List.pairwise_append.mp distinct').2.2 z hz
    have gateway : y.key = EnvironmentAvp.anGWAddress.key := conflict.right_of_sgsnAddress sgsn
    exact ⟨(different x (by simp)).key_ne (.environment .sgsnAddress) sgsn (by simp),
      (different y (by simp)).key_ne (.environment .anGWAddress) gateway (by simp)⟩
  · rw [← run x y, ← run y x, alike _ toEnd, alike _ toEnd']

theorem extractedAlike_iff (distinct : DistinctAvps avps) :
    ExtractedAlike env avps ↔
      (∃ x ∈ avps, x.Breaks) ∨ ∀ x ∈ avps, ∀ y ∈ avps, ¬ Conflict env x y := by
  constructor
  · intro alike
    by_cases sound : ∃ x ∈ avps, x.Breaks
    · exact .inl sound
    · refine .inr fun x hx y hy conflict => ?_
      exact not_extractedAlike_of_conflict distinct
        (fun z hz breaks => sound ⟨z, hz, breaks⟩) hx hy conflict alike
  · rintro (⟨x, hx, breaks⟩ | h)
    · exact extractedAlike_of_breaks distinct hx breaks
    · exact extractedAlike_of_no_conflict distinct h

end Request

/-- The dictionary with the first values of RAT-Type, and no other part that gives anything. -/
def ratTypeEnv : ExtractEnv where
  dict :=
    { basetype := fun _ => some .integer32
      typeOfAvp := fun _ => true
      enumval := fun header value =>
        if header = (10415, 1032) ∧ value.u32 = 1000 then some "UTRAN"
        else if header = (10415, 1032) ∧ value.u32 = 1001 then some "GERAN"
        else none
      printFloat := fun _ _ => "" }
  addressInterpret _ := none
  parse := ⟨fun _ => 0, 0, true⟩

def threeGPPRATTypeAvp (octet : UInt8) : CcrAvp where
  isVendor := true
  vendor := 10415
  code := 21
  value := { os := [octet] }

def ratTypeAvp (number : UInt64) : CcrAvp where
  isVendor := true
  vendor := 10415
  code := 1032
  value := { number := number }

def subscriptionIdAvp (type : UInt64) (data : List UInt8) : CcrAvp where
  code := 443
  children :=
    [{ code := 450, value := { number := type } }, { code := 444, value := { os := data } }]

theorem extractedAlike_sameRATType :
    ExtractedAlike ratTypeEnv
      [subscriptionIdAvp 0 [55], subscriptionIdAvp 1 [50], threeGPPRATTypeAvp 1,
        ratTypeAvp 1000] := by
  refine (extractedAlike_iff (by decide)).mpr (.inr fun x hx y hy conflict => ?_)
  simp only [List.mem_cons, List.not_mem_nil, or_false] at hx hy
  cases conflict with
  | ratType left right written written' differ =>
    have htext : ratTypeText x.value.os = some "UTRAN" := by
      rcases hx with rfl | rfl | rfl | rfl <;> first | rfl | exact absurd left (by decide)
    have henum : ratTypeEnv.enumText y = some "UTRAN" := by
      rcases hy with rfl | rfl | rfl | rfl <;> first | rfl | exact absurd right (by decide)
    rw [htext, Option.some_inj] at written
    rw [henum, Option.some_inj] at written'
    exact differ (written.symm.trans written')
  | tethering left | rai left | address left =>
    rcases hx with rfl | rfl | rfl | rfl <;> exact absurd left (by decide)

theorem not_extractedAlike_twoRATTypes :
    ¬ ∀ env avps, DistinctAvps avps → ExtractedAlike env avps := by
  intro h
  have same := h ratTypeEnv [threeGPPRATTypeAvp 2, ratTypeAvp 1000] (by decide) _ (.swap _ _ [])
  have shown := congrArg (Option.map fun data => data.req.soUserEnvironment.coRATType.v) same
  exact absurd shown (by decide)

end Pcrf
