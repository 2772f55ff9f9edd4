import Pcrf.Lib.Decimal
import Pcrf.UserLocation

/-!
The lengths that `pcrf_parse_user_location` accepts, and the texts of a TAI and an ECGI that come
in one value.
-/

namespace Pcrf

open Lib

/-- Shorter than the structure of its location type and the octet of the type before it. -/
def TooShort : List UInt8 → Prop
  | [] => True
  | octet :: rest =>
    ∃ type, EUserLocationType.ofOctet octet = some type ∧ rest.length < type.size

/-- No more is copied than the structure holds, what is made of the value is made of its own
octets, and a value that is too short changes nothing. -/
structure ParsesSafely (data : List UInt8) : Prop where
  fits : ∀ env location bLoaded, pcrfParseUserLocation env data location bLoaded ≠ none
  /-- The same whatever is on the stack and behind the value. -/
  present : ∀ env env' location bLoaded result, env.asprintf = env'.asprintf →
    pcrfParseUserLocation env data location bLoaded = some result → result.iRetVal = 0 →
    pcrfParseUserLocation env' data location bLoaded = some result
  rejected : TooShort data → ∀ env location bLoaded result,
    pcrfParseUserLocation env data location bLoaded = some result →
    result.iRetVal ≠ 0 ∧ result.soUserLocationInfo = location ∧ result.bLoaded = bLoaded

/-- The length is one that the check refuses, or the one that the type has. -/
def LengthFits (data : List UInt8) : Prop :=
  ∀ type, data.head?.bind EUserLocationType.ofOctet = some type →
    data.length < type.size ∨ data.length = type.size + 1

/-! ### What is read of a structure -/

/-- Two memories with the same first octets. -/
def SameFront (size : Nat) (memory memory' : Memory) : Prop :=
  ∀ i < size, memory i = memory' i

section Front

variable {memory memory' : Memory}

theorem SameFront.mono {size size' : Nat} (h : SameFront size memory memory')
    (hsize : size' ≤ size) : SameFront size' memory memory' :=
  fun i hi => h i (by omega)

theorem SMCCMNC.load_congr (h : SameFront 3 memory memory') :
    SMCCMNC.load memory = SMCCMNC.load memory' := by
  simp only [SMCCMNC.load, h 0 (by decide), h 1 (by decide), h 2 (by decide)]

theorem SCGI.load_congr (h : SameFront 7 memory memory') :
    SCGI.load memory = SCGI.load memory' := by
  simp only [SCGI.load, SMCCMNC.load_congr (h.mono (by decide)), h 3 (by decide),
    h 4 (by decide), h 5 (by decide), h 6 (by decide)]

theorem SRAI.load_congr (h : SameFront 7 memory memory') :
    SRAI.load memory = SRAI.load memory' := by
  simp only [SRAI.load, SMCCMNC.load_congr (h.mono (by decide)), h 3 (by decide),
    h 4 (by decide), h 5 (by decide)]

theorem STAI.load_congr (h : SameFront 5 memory memory') :
    STAI.load memory = STAI.load memory' := by
  simp only [STAI.load, SMCCMNC.load_congr (h.mono (by decide)), h 3 (by decide),
    h 4 (by decide)]

theorem SECGI.load_congr (h : SameFront 7 memory memory') :
    SECGI.load memory = SECGI.load memory' := by
  simp only [SECGI.load, SMCCMNC.load_congr (h.mono (by decide)), h 3 (by decide),
    h 4 (by decide), h 5 (by decide), h 6 (by decide)]

/-- The texts are made of the octets of the structure. -/
theorem EUserLocationType.store_congr {type : EUserLocationType}
    (h : SameFront type.size memory memory') (location : SUserLocation) :
    type.store memory (formatMCCMNC (.load memory)) location =
      type.store memory' (formatMCCMNC (.load memory')) location := by
  have network : SMCCMNC.load memory = SMCCMNC.load memory' :=
    SMCCMNC.load_congr (h.mono (by cases type <;> decide))
  cases type with
  | cgi => simp only [store, network, SCGI.load_congr h]
  | sai => rfl
  | rai => simp only [store, network, SRAI.load_congr h]
  | tai => simp only [store, network, STAI.load_congr h]
  | ecgi => simp only [store, network, SECGI.load_congr h]
  | taiEcgi =>
    have tai : STAI.load memory = STAI.load memory' := STAI.load_congr (h.mono (by decide))
    have cell : SameFront 7 (memory.member 5) (memory'.member 5) := by
      intro i hi
      exact h (5 + i) (by simp only [EUserLocationType.size]; omega)
    simp only [store, network, tai, SECGI.load_congr cell]

end Front

/-! ### The lengths -/

section Lengths

variable {env : ParseEnv} {location : SUserLocation} {bLoaded : Option Bool}

theorem memcpy_of_le {size : Nat} {octets : List UInt8} (h : octets.length ≤ size)
    (stack : Memory) : memcpy size stack octets = some fun i => octets[i]?.getD (stack i) :=
  if_pos h

theorem memcpy_of_lt {size : Nat} {octets : List UInt8} (h : size < octets.length)
    (stack : Memory) : memcpy size stack octets = none :=
  if_neg (by omega)

/-- An octet that was copied is not that of the stack. -/
theorem sameFront_copied (octets : List UInt8) (stack stack' : Memory) :
    SameFront octets.length (fun i => octets[i]?.getD (stack i))
      (fun i => octets[i]?.getD (stack' i)) := by
  intro i hi
  simp only [List.getElem?_eq_getElem hi, Option.getD_some]

/-- What the parser makes of the structure that a value was copied to. -/
def ParseEnv.parsed (env : ParseEnv) (type : EUserLocationType) (memory : Memory)
    (location : SUserLocation) (bLoaded : Option Bool) : UserLocationResult :=
  if env.asprintf then
    ⟨0, type.store memory (formatMCCMNC (.load memory)) location, bLoaded.map fun _ => true⟩
  else ⟨0, location, bLoaded⟩

theorem ParseEnv.parsed_iRetVal (env : ParseEnv) (type : EUserLocationType) (memory : Memory) :
    (env.parsed type memory location bLoaded).iRetVal = 0 := by
  unfold ParseEnv.parsed
  split <;> rfl

theorem pcrfParseUserLocation_short {data : List UInt8} {type : EUserLocationType}
    (htype : EUserLocationType.ofOctet (data.headD env.beyond) = some type)
    (h : data.length < type.size) :
    pcrfParseUserLocation env data location bLoaded = some ⟨-1, location, bLoaded⟩ := by
  simp only [pcrfParseUserLocation, htype]
  exact if_neg (by omega)

theorem pcrfParseUserLocation_copied {octet : UInt8} {rest : List UInt8}
    {type : EUserLocationType} (htype : EUserLocationType.ofOctet octet = some type)
    (h : type.size ≤ rest.length + 1) :
    pcrfParseUserLocation env (octet :: rest) location bLoaded =
      (memcpy type.size env.stack rest).map fun memory =>
        env.parsed type memory location bLoaded := by
  simp only [pcrfParseUserLocation, List.headD_cons, htype]
  exact if_pos h

theorem pcrfParseUserLocation_unknown {data : List UInt8}
    (htype : EUserLocationType.ofOctet (data.headD env.beyond) = none) :
    pcrfParseUserLocation env data location bLoaded = some ⟨-2, location, bLoaded⟩ := by
  simp only [pcrfParseUserLocation, htype]

/-- An empty value is too short for the type that stands behind it. -/
theorem pcrfParseUserLocation_nil (env : ParseEnv) (location : SUserLocation)
    (bLoaded : Option Bool) :
    ∃ code, code ≠ 0 ∧
      pcrfParseUserLocation env [] location bLoaded = some ⟨code, location, bLoaded⟩ := by
  cases htype : EUserLocationType.ofOctet env.beyond with
  | none => exact ⟨-2, by decide, pcrfParseUserLocation_unknown htype⟩
  | some type =>
    have positive : ([] : List UInt8).length < type.size := by cases type <;> decide
    exact ⟨-1, by decide, pcrfParseUserLocation_short htype positive⟩

theorem parsesSafely_nil : ParsesSafely [] where
  fits env location bLoaded := by
    obtain ⟨code, -, hparse⟩ := pcrfParseUserLocation_nil env location bLoaded
    simp [hparse]
  present env env' location bLoaded result _ hparse hzero := by
    obtain ⟨code, hcode, hrejected⟩ := pcrfParseUserLocation_nil env location bLoaded
    rw [hrejected, Option.some_inj] at hparse
    subst hparse
    exact absurd hzero hcode
  rejected _ env location bLoaded result hparse := by
    obtain ⟨code, hcode, hrejected⟩ := pcrfParseUserLocation_nil env location bLoaded
    rw [hrejected, Option.some_inj] at hparse
    subst hparse
    exact ⟨hcode, rfl, rfl⟩

/-- A value whose outcome is the same refusal whatever surrounds it. -/
theorem parsesSafely_of_rejected {data : List UInt8} {code : Int} (hcode : code ≠ 0)
    (h : ∀ env location bLoaded,
      pcrfParseUserLocation env data location bLoaded = some ⟨code, location, bLoaded⟩) :
    ParsesSafely data where
  fits env location bLoaded := by simp [h]
  present env env' location bLoaded result _ hparse _ := by
    rw [h] at hparse ⊢
    exact hparse
  rejected _ env location bLoaded result hparse := by
    rw [h, Option.some_inj] at hparse
    subst hparse
    exact ⟨hcode, rfl, rfl⟩

theorem pcrfParseUserLocation_exact {octet : UInt8} {rest : List UInt8}
    {type : EUserLocationType} (htype : EUserLocationType.ofOctet octet = some type)
    (h : rest.length = type.size) :
    pcrfParseUserLocation env (octet :: rest) location bLoaded =
      some (env.parsed type (fun i => rest[i]?.getD (env.stack i)) location bLoaded) := by
  rw [pcrfParseUserLocation_copied htype (by omega), memcpy_of_le (by omega)]
  rfl

/-- A value of the length that its type has. -/
theorem parsesSafely_of_exact {octet : UInt8} {rest : List UInt8} {type : EUserLocationType}
    (htype : EUserLocationType.ofOctet octet = some type) (h : rest.length = type.size) :
    ParsesSafely (octet :: rest) where
  fits env location bLoaded := by simp [pcrfParseUserLocation_exact htype h]
  present env env' location bLoaded result hasprintf hparse _ := by
    rw [pcrfParseUserLocation_exact htype h] at hparse ⊢
    rw [← hparse]
    -- the structure is filled, so that the stack is in no text
    have filled := sameFront_copied rest env'.stack env.stack
    rw [h] at filled
    simp only [ParseEnv.parsed, hasprintf, EUserLocationType.store_congr filled]
  rejected hshort env location bLoaded result hparse := by
    obtain ⟨type', htype', hlt⟩ := hshort
    rw [htype, Option.some_inj] at htype'
    subst htype'
    omega

/-- A value that is one octet too short passes the check. -/
theorem not_parsesSafely_of_missing {octet : UInt8} {rest : List UInt8}
    {type : EUserLocationType} (htype : EUserLocationType.ofOctet octet = some type)
    (h : rest.length + 1 = type.size) : ¬ ParsesSafely (octet :: rest) := by
  intro safe
  have hshort : TooShort (octet :: rest) := ⟨type, htype, by omega⟩
  let env : ParseEnv := ⟨fun _ => 0, 0, true⟩
  have hparse : pcrfParseUserLocation env (octet :: rest) {} none =
      some (env.parsed type (fun i => rest[i]?.getD 0) {} none) := by
    rw [pcrfParseUserLocation_copied htype (by omega), memcpy_of_le (by omega)]
    rfl
  have hret := (safe.rejected hshort env {} none _ hparse).1
  exact hret (env.parsed_iRetVal type _)

/-- More than the type has is copied behind the structure. -/
theorem not_parsesSafely_of_longer {octet : UInt8} {rest : List UInt8}
    {type : EUserLocationType} (htype : EUserLocationType.ofOctet octet = some type)
    (h : type.size < rest.length) : ¬ ParsesSafely (octet :: rest) := by
  intro safe
  apply safe.fits ⟨fun _ => 0, 0, true⟩ {} none
  rw [pcrfParseUserLocation_copied htype (by omega), memcpy_of_lt h]
  rfl

theorem parsesSafely_iff (data : List UInt8) : ParsesSafely data ↔ LengthFits data := by
  cases data with
  | nil =>
    constructor
    · rintro - type htype
      cases htype
    · intro _
      exact parsesSafely_nil
  | cons octet rest =>
    cases htype : EUserLocationType.ofOctet octet with
    | none =>
      constructor
      · rintro - type hhead
        simp [htype] at hhead
      · intro _
        exact parsesSafely_of_rejected (show (-2 : Int) ≠ 0 by decide)
          fun env location bLoaded => pcrfParseUserLocation_unknown htype
    | some type =>
      constructor
      · intro safe type' hhead
        simp only [List.head?_cons, Option.bind_some, htype, Option.some_inj] at hhead
        subst hhead
        by_contra hlength
        rw [List.length_cons, not_or] at hlength
        -- between the two lengths lies the one that the check takes for the whole
        rcases Nat.lt_trichotomy rest.length type.size with hlt | heq | hgt
        · exact not_parsesSafely_of_missing htype (by omega) safe
        · omega
        · exact not_parsesSafely_of_longer htype hgt safe
      · intro fits
        rcases fits type (by simpa using htype) with hlt | heq
        · exact parsesSafely_of_rejected (show (-1 : Int) ≠ 0 by decide)
            fun env location bLoaded => pcrfParseUserLocation_short htype hlt
        · exact parsesSafely_of_exact htype (by simpa using heq)

/-- A CGI that lacks the last octet of its CI is accepted. -/
theorem not_parsesSafely_short_cgi : ¬ ∀ data, ParsesSafely data := by
  intro safe
  have missing : ¬ ParsesSafely [0, 0x52, 0xf0, 0x99, 0, 10, 4] :=
    not_parsesSafely_of_missing (show EUserLocationType.ofOctet 0 = some .cgi from rfl) rfl
  exact missing (safe _)

end Lengths

/-! ### A TAI and an ECGI in one value -/

section Combined

/-- Parsing the parts together stores the same texts as parsing each of them. -/
def CombinedAgrees (tai ecgi : List UInt8) : Prop :=
  ∀ env envTai envEcgi location bLoaded,
    env.asprintf = envTai.asprintf → env.asprintf = envEcgi.asprintf →
    ∃ both resultTai resultEcgi,
      pcrfParseUserLocation env (130 :: (tai ++ ecgi)) location bLoaded = some both ∧
      pcrfParseUserLocation envTai (128 :: tai) location bLoaded = some resultTai ∧
      pcrfParseUserLocation envEcgi (129 :: ecgi) location bLoaded = some resultEcgi ∧
      both.soUserLocationInfo.coTAI = resultTai.soUserLocationInfo.coTAI ∧
      both.soUserLocationInfo.coECGI = resultEcgi.soUserLocationInfo.coECGI

/-- The digits of the network that a part begins with. -/
def networkOf (part : List UInt8) : SMCCMNC := .load fun i => part.getD i 0

/-- The country codes have the same digits when they are written one after another, and the
network codes too. A digit above 9 is written with two. -/
def SMCCMNC.WrittenAlike (so so' : SMCCMNC) : Prop :=
  toString so.uiMCC1 ++ toString so.uiMCC2 ++ toString so.uiMCC3 =
      toString so'.uiMCC1 ++ toString so'.uiMCC2 ++ toString so'.uiMCC3 ∧
    toString so.uiMNC1 ++ toString so.uiMNC2 = toString so'.uiMNC1 ++ toString so'.uiMNC2

/-- The digits that are written of a network. -/
def SMCCMNC.digits (so : SMCCMNC) : List Nat :=
  [so.uiMCC1, so.uiMCC2, so.uiMCC3, so.uiMNC1, so.uiMNC2]

/-- Between decimal digits there is no choice in how they are written. -/
theorem SMCCMNC.writtenAlike_iff_of_decimal {so so' : SMCCMNC} (h : ∀ d ∈ so.digits, d < 10)
    (h' : ∀ d ∈ so'.digits, d < 10) : so.WrittenAlike so' ↔ so.digits = so'.digits := by
  simp only [digits, List.forall_mem_cons] at h h'
  obtain ⟨h1, h2, h3, h4, h5, -⟩ := h
  obtain ⟨h1', h2', h3', h4', h5', -⟩ := h'
  simp only [WrittenAlike, digits, ← String.toList_inj, String.toList_append,
    toList_toString_of_lt, h1, h2, h3, h4, h5, h1', h2', h3', h4', h5']
  simp only [List.cons_append, List.nil_append, List.cons.injEq, and_true]
  rw [digitChar_inj h1 h1', digitChar_inj h2 h2', digitChar_inj h3 h3', digitChar_inj h4 h4',
    digitChar_inj h5 h5', and_assoc, and_assoc]

/-- The dash tells where the country code ends. -/
theorem formatMCCMNC_inj {so so' : SMCCMNC} :
    formatMCCMNC so = formatMCCMNC so' ↔ so.WrittenAlike so' := by
  have split : ∀ so : SMCCMNC, (formatMCCMNC so).toList =
      (toString so.uiMCC1 ++ toString so.uiMCC2 ++ toString so.uiMCC3).toList ++
        '-' :: (toString so.uiMNC1 ++ toString so.uiMNC2).toList := by
    intro so
    simp [formatMCCMNC, String.toList_append]
  have noDash : ∀ so : SMCCMNC,
      '-' ∉ (toString so.uiMCC1 ++ toString so.uiMCC2 ++ toString so.uiMCC3).toList ∧
        '-' ∉ (toString so.uiMNC1 ++ toString so.uiMNC2).toList := by
    intro so
    simp only [String.toList_append, List.mem_append, dash_notMem_toString, or_self,
      not_false_eq_true, and_self]
  rw [← String.toList_inj, split so, split so',
    List.append_cons_inj_of_notMem (noDash so).1 (noDash so).2]
  simp only [String.toList_inj, true_and, SMCCMNC.WrittenAlike]

theorem formatLocation_inj {pszMCCMNC pszMCCMNC' text : String} :
    formatLocation pszMCCMNC text = formatLocation pszMCCMNC' text ↔
      pszMCCMNC = pszMCCMNC' := by
  by_cases h : 0 < (snprintf text).1
  · simp [formatLocation, h, OtlValue.of]
  · simp [formatLocation, h, OtlValue.of]

/-- The location that a value of the right length leaves. -/
theorem ParseEnv.parsed_location {env : ParseEnv} {type : EUserLocationType} {memory : Memory}
    {location : SUserLocation} {bLoaded : Option Bool} :
    (env.parsed type memory location bLoaded).soUserLocationInfo =
      if env.asprintf then type.store memory (formatMCCMNC (.load memory)) location
      else location := by
  unfold ParseEnv.parsed
  split <;> rfl

variable {tai ecgi : List UInt8}

theorem networkOf_copied {part : List UInt8} (h : 3 ≤ part.length) (stack : Memory) :
    SMCCMNC.load (fun i => part[i]?.getD (stack i)) = networkOf part := by
  apply SMCCMNC.load_congr
  intro i hi
  simp only [List.getD_eq_getElem?_getD, List.getElem?_eq_getElem (Nat.lt_of_lt_of_le hi h),
    Option.getD_some]

/-- The first member of the combined structure is the TAI part. -/
theorem sameFront_tai (htai : tai.length = 5) (stack stack' : Memory) :
    SameFront 5 (fun i => (tai ++ ecgi)[i]?.getD (stack i)) fun i => tai[i]?.getD (stack' i) := by
  intro i hi
  have within : i < tai.length := by omega
  simp only [List.getElem?_append_left within, List.getElem?_eq_getElem within, Option.getD_some]

/-- The second one is the ECGI part. -/
theorem sameFront_ecgi (htai : tai.length = 5) (hecgi : ecgi.length = 7)
    (stack stack' : Memory) :
    SameFront 7 (Memory.member (fun i => (tai ++ ecgi)[i]?.getD (stack i)) 5)
      fun i => ecgi[i]?.getD (stack' i) := by
  intro i hi
  have within : i < ecgi.length := by omega
  have shifted : (tai ++ ecgi)[5 + i]? = ecgi[i]? := by
    rw [List.getElem?_append_right (by omega), htai, Nat.add_sub_cancel_left]
  simp only [Memory.member, shifted, List.getElem?_eq_getElem within, Option.getD_some]

section

variable {env : ParseEnv} {location : SUserLocation}

theorem stored_tai (hasprintf : env.asprintf = true) (htai : tai.length = 5)
    (bLoaded : Option Bool) (stack : Memory) :
    (env.parsed .tai (fun i => tai[i]?.getD (stack i)) location
        bLoaded).soUserLocationInfo.coTAI =
      formatTAI (.load fun i => tai[i]?.getD 0) (formatMCCMNC (networkOf tai)) := by
  rw [ParseEnv.parsed_location, if_pos hasprintf]
  simp only [EUserLocationType.store, networkOf_copied (show 3 ≤ tai.length by omega)]
  rw [STAI.load_congr (htai ▸ sameFront_copied tai stack fun _ => 0)]

theorem stored_ecgi (hasprintf : env.asprintf = true) (hecgi : ecgi.length = 7)
    (bLoaded : Option Bool) (stack : Memory) :
    (env.parsed .ecgi (fun i => ecgi[i]?.getD (stack i)) location
        bLoaded).soUserLocationInfo.coECGI =
      formatECGI (.load fun i => ecgi[i]?.getD 0) (formatMCCMNC (networkOf ecgi)) := by
  rw [ParseEnv.parsed_location, if_pos hasprintf]
  simp only [EUserLocationType.store, networkOf_copied (show 3 ≤ ecgi.length by omega)]
  rw [SECGI.load_congr (hecgi ▸ sameFront_copied ecgi stack fun _ => 0)]

/-- Of the two parts the combined value has the cells, but the network of the TAI in both. -/
theorem stored_taiEcgi (hasprintf : env.asprintf = true) (htai : tai.length = 5)
    (hecgi : ecgi.length = 7) (bLoaded : Option Bool) (stack : Memory) :
    (env.parsed .taiEcgi (fun i => (tai ++ ecgi)[i]?.getD (stack i)) location
        bLoaded).soUserLocationInfo =
      { location with
        coTAI := formatTAI (.load fun i => tai[i]?.getD 0) (formatMCCMNC (networkOf tai))
        coECGI := formatECGI (.load fun i => ecgi[i]?.getD 0)
          (formatMCCMNC (networkOf tai)) } := by
  have front : SameFront 5 (fun i => (tai ++ ecgi)[i]?.getD (stack i))
      fun i => tai[i]?.getD 0 := sameFront_tai htai stack fun _ => 0
  have network : SMCCMNC.load (fun i => (tai ++ ecgi)[i]?.getD (stack i)) = networkOf tai := by
    rw [SMCCMNC.load_congr (front.mono (by decide))]
    exact networkOf_copied (by omega) fun _ => 0
  rw [ParseEnv.parsed_location, if_pos hasprintf]
  simp only [EUserLocationType.store, network, STAI.load_congr front]
  rw [SECGI.load_congr (sameFront_ecgi htai hecgi stack fun _ => 0)]

end

theorem combinedAgrees_iff (htai : tai.length = 5) (hecgi : ecgi.length = 7) :
    CombinedAgrees tai ecgi ↔ (networkOf tai).WrittenAlike (networkOf ecgi) := by
  have hboth : (tai ++ ecgi).length = EUserLocationType.size .taiEcgi := by
    rw [List.length_append, htai, hecgi]
    rfl
  have formatted : formatECGI (.load fun i => ecgi[i]?.getD 0) (formatMCCMNC (networkOf tai)) =
      formatECGI (.load fun i => ecgi[i]?.getD 0) (formatMCCMNC (networkOf ecgi)) ↔
        (networkOf tai).WrittenAlike (networkOf ecgi) :=
    formatLocation_inj.trans formatMCCMNC_inj
  rw [← formatted]
  constructor
  · intro agrees
    let env : ParseEnv := ⟨fun _ => 0, 0, true⟩
    obtain ⟨both, -, resultEcgi, hparse, -, hecgiParse, -, hsame⟩ :=
      agrees env env env {} none rfl rfl
    rw [pcrfParseUserLocation_exact rfl hboth, Option.some_inj] at hparse
    rw [pcrfParseUserLocation_exact rfl hecgi, Option.some_inj] at hecgiParse
    rw [← hparse, ← hecgiParse, stored_taiEcgi rfl htai hecgi, stored_ecgi rfl hecgi] at hsame
    simpa only using hsame
  · intro hformatted env envTai envEcgi location bLoaded hasTai hasEcgi
    refine ⟨_, _, _, pcrfParseUserLocation_exact rfl hboth, pcrfParseUserLocation_exact rfl htai,
      pcrfParseUserLocation_exact rfl hecgi, ?_⟩
    cases hasprintf : env.asprintf with
    | true =>
      rw [stored_taiEcgi hasprintf htai hecgi, stored_tai (hasTai ▸ hasprintf) htai,
        stored_ecgi (hasEcgi ▸ hasprintf) hecgi]
      simp only [hformatted, and_self]
    | false =>
      -- without memory for the text nothing is stored by any of the three
      simp [ParseEnv.parsed_location, hasprintf, ← hasTai, ← hasEcgi]

theorem combinedAgrees_oneNetwork :
    CombinedAgrees [0x52, 0xf0, 0x99, 0, 10] [0x52, 0xf0, 0x99, 1, 2, 3, 4] :=
  (combinedAgrees_iff rfl rfl).mpr ⟨by decide, by decide⟩

/-- A tracking area of the network 250-99 with a cell of 250-20. -/
theorem not_combinedAgrees_twoNetworks :
    ¬ ∀ tai ecgi : List UInt8, tai.length = 5 → ecgi.length = 7 → CombinedAgrees tai ecgi := by
  intro agrees
  let env : ParseEnv := ⟨fun _ => 0, 0, true⟩
  obtain ⟨both, -, resultEcgi, hparse, -, hecgiParse, -, hsame⟩ :=
    agrees [0x52, 0xf0, 0x99, 0, 10] [0x52, 0xf0, 0x02, 1, 2, 3, 4] rfl rfl
      env env env {} none rfl rfl
  have first : (pcrfParseUserLocation env
      [130, 0x52, 0xf0, 0x99, 0, 10, 0x52, 0xf0, 0x02, 1, 2, 3, 4] {} none).map
        (·.soUserLocationInfo.coECGI) = some (.of "250-99-66051-4") := by decide
  have second : (pcrfParseUserLocation env [129, 0x52, 0xf0, 0x02, 1, 2, 3, 4] {} none).map
      (·.soUserLocationInfo.coECGI) = some (.of "250-20-66051-4") := by decide
  simp only [List.cons_append, List.nil_append] at hparse
  rw [hparse, Option.map_some, Option.some_inj] at first
  rw [hecgiParse, Option.map_some, Option.some_inj, ← hsame, first] at second
  exact absurd second (by decide)

end Combined

end Pcrf
