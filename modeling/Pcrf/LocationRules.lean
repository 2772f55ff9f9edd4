import Pcrf.UserLocationTexts

/-!
The rule for the location of a Procera session, from the text that is stored of a CGI or an ECGI.
The caller adds the rule whatever `pcrf_procera_make_uli_rule` returns.
-/

namespace Pcrf

open Lib

/-! ### The last place of a character -/

section FindLastOf

theorem getLast?_filter_range {p : Nat → Bool} {n i : Nat} :
    ((List.range n).filter p).getLast? = some i ↔
      i < n ∧ p i = true ∧ ∀ j, i < j → j < n → p j = false := by
  induction n with
  | zero => simp
  | succ n ih =>
    rw [List.range_succ, List.filter_append]
    cases hn : p n with
    | true =>
      have last : ((List.range n).filter p ++ [n].filter p).getLast? = some n := by
        simp [hn]
      rw [last, Option.some_inj]
      constructor
      · rintro rfl
        exact ⟨Nat.lt_succ_self _, hn, fun j hlt hle => absurd hle (by omega)⟩
      · rintro ⟨hlt, -, hlater⟩
        by_contra hne
        exact absurd (hlater n (by omega) (Nat.lt_succ_self n)) (by simp [hn])
    | false =>
      have same : (List.range n).filter p ++ [n].filter p = (List.range n).filter p := by
        simp [hn]
      rw [same, ih]
      constructor
      · rintro ⟨hlt, hp, hlater⟩
        refine ⟨by omega, hp, fun j hj hle => ?_⟩
        rcases Nat.lt_succ_iff_lt_or_eq.mp hle with hle | rfl
        · exact hlater j hj hle
        · exact hn
      · rintro ⟨hlt, hp, hlater⟩
        have hne : i ≠ n := fun h => by
          rw [h, hn] at hp
          cases hp
        exact ⟨by omega, hp, fun j hj hle => hlater j hj (by omega)⟩

theorem findLastOf_eq_some_iff {chars : List Char} {c : Char} {pos i : Nat} :
    findLastOf chars c pos = some i ↔
      i ≤ pos ∧ chars[i]? = some c ∧ ∀ j, i < j → j ≤ pos → chars[j]? ≠ some c := by
  have within : chars[i]? = some c → i < chars.length := fun h =>
    (List.getElem?_eq_some_iff.mp h).1
  rw [findLastOf, getLast?_filter_range]
  simp only [beq_iff_eq, beq_eq_false_iff_ne]
  constructor
  · rintro ⟨hlt, hc, hlater⟩
    refine ⟨by omega, hc, fun j hj hle hj' => ?_⟩
    exact hlater j hj (by have := (List.getElem?_eq_some_iff.mp hj').1; omega) hj'
  · rintro ⟨hle, hc, hlater⟩
    have := within hc
    exact ⟨by omega, hc, fun j hj hlt => hlater j hj (by omega)⟩

/-- Nothing behind the place, as far as the search goes, is the character. -/
theorem findLastOf_append {c : Char} {front mid tail : List Char} {pos : Nat} (hmid : c ∉ mid)
    (hle : front.length ≤ pos) (hpos : tail = [] ∨ pos ≤ front.length + mid.length) :
    findLastOf (front ++ c :: (mid ++ tail)) c pos = some front.length := by
  rw [findLastOf_eq_some_iff]
  refine ⟨hle, by simp, fun j hlt hj hc => ?_⟩
  obtain ⟨k, rfl⟩ := Nat.exists_eq_add_of_lt hlt
  have shifted : (front ++ c :: (mid ++ tail))[front.length + k + 1]? = (mid ++ tail)[k]? := by
    rw [Nat.add_assoc, List.getElem?_append_right (by omega), Nat.add_sub_cancel_left,
      List.getElem?_cons_succ]
  rw [shifted] at hc
  rcases hpos with rfl | hpos
  · rw [List.append_nil] at hc
    exact hmid (List.mem_of_getElem? hc)
  · rw [List.getElem?_append_left (by omega)] at hc
    exact hmid (List.mem_of_getElem? hc)

/-- The text before the place found and the rest, in which the character comes no more, as far as
the search went. -/
theorem findLastOf_split {chars : List Char} {c : Char} {pos i : Nat}
    (h : findLastOf chars c pos = some i) :
    chars.drop i = c :: chars.drop (i + 1) ∧ c ∉ (chars.drop (i + 1)).take (pos - i) := by
  obtain ⟨-, hat, hlater⟩ := findLastOf_eq_some_iff.mp h
  constructor
  · exact List.drop_eq_getElem?_toList_append.trans (by rw [hat]; rfl)
  · intro hmem
    obtain ⟨k, hk⟩ := List.mem_iff_getElem?.mp hmem
    have hlt : k < pos - i := by
      have := (List.getElem?_eq_some_iff.mp hk).1
      simp only [List.length_take] at this
      omega
    rw [List.getElem?_take_of_lt hlt, List.getElem?_drop] at hk
    exact hlater _ (by omega) (by omega) hk

end FindLastOf

/-! ### The rule for a text -/

/-- The text ends with a base station and a sector. -/
def NamesSector (uli : String) : Prop :=
  ∃ front baseStation sector, uli = front ++ "-" ++ baseStation ++ "-" ++ sector ∧
    baseStation ≠ "" ∧ '-' ∉ baseStation.toList ∧ '-' ∉ sector.toList

/-- The rule for a location, made of one for something else. -/
def SDBAbonRule.forLocation (abonRule : SDBAbonRule) (name : String) : SDBAbonRule :=
  { abonRule with
    strRuleName := name
    coDynamicRuleFlag := .of 0
    coRuleGroupFlag := .of 0 }

def uliRuleName (baseStation sector : String) : String :=
  "/User-Location/" ++ baseStation ++ "/" ++ sector

section MakeUliRule

variable {coULI : OtlValue String} {abonRule : SDBAbonRule}

theorem makeUliRule_of_null (h : coULI.isNull = true) :
    pcrfProceraMakeUliRule coULI abonRule =
      (0, abonRule.forLocation "/User-Location/inRoaming") := by
  simp only [pcrfProceraMakeUliRule, h, if_true]
  rfl

/-- The places that are found in a text with a base station and a sector. -/
theorem makeUliRule_of_parts (hnull : coULI.isNull = false) {front baseStation sector : String}
    (hv : coULI.v = front ++ "-" ++ baseStation ++ "-" ++ sector)
    (hbase : '-' ∉ baseStation.toList) (hsector : '-' ∉ sector.toList) :
    pcrfProceraMakeUliRule coULI abonRule =
      if baseStation = "" then (22, { abonRule with strRuleName := "/User-Location/" })
      else (0, abonRule.forLocation (uliRuleName baseStation sector)) := by
  have parts : coULI.v.toList = front.toList ++ '-' ::
      (baseStation.toList ++ '-' :: sector.toList) := by
    rw [hv]
    simp [String.toList_append]
  have grouped : coULI.v.toList = (front.toList ++ '-' :: baseStation.toList) ++
      '-' :: (sector.toList ++ []) := by
    rw [parts]
    simp
  have place : (front.toList ++ '-' :: baseStation.toList).length =
      front.length + 1 + baseStation.length := by
    simp only [List.length_append, List.length_cons, String.length_toList]
    omega
  have sectorPos : findLastOf coULI.v.toList '-' coULI.v.toList.length =
      some (front.length + 1 + baseStation.length) := by
    have hle : (front.toList ++ '-' :: baseStation.toList).length ≤ coULI.v.toList.length := by
      rw [grouped]
      simp only [List.length_append]
      omega
    rw [grouped] at hle ⊢
    rw [findLastOf_append hsector hle (.inl rfl), place]
  have bsPos : findLastOf coULI.v.toList '-' (front.length + 1 + baseStation.length - 1) =
      some front.length := by
    rw [parts, ← String.length_toList, ← String.length_toList]
    exact findLastOf_append hbase (by omega) (.inr (by omega))
  have hne : front.length + 1 + baseStation.length ≠ 0 := by omega
  simp only [pcrfProceraMakeUliRule, hnull, Bool.false_eq_true, if_false, sectorPos, hne, bsPos]
  have width : front.length + 1 + baseStation.length - front.length = baseStation.length + 1 := by
    omega
  rw [width]
  by_cases hempty : baseStation = ""
  · subst hempty
    rfl
  · have positive : 1 < baseStation.length + 1 := by
      have := String.length_eq_zero_iff.not.mpr hempty
      omega
    have base : (coULI.v.toList.drop (front.length + 1)).take (baseStation.length + 1 - 1) =
        baseStation.toList := by
      have dropped : coULI.v.toList.drop (front.length + 1) =
          baseStation.toList ++ '-' :: sector.toList := by
        rw [parts, ← String.length_toList, ← List.drop_drop, List.drop_left]
        rfl
      rw [dropped, Nat.add_sub_cancel, ← String.length_toList, List.take_left]
    have last : coULI.v.toList.drop (front.length + 1 + baseStation.length + 1) =
        sector.toList := by
      rw [← place, grouped, ← List.drop_drop, List.drop_left, List.append_nil]
      rfl
    rw [if_pos positive, if_neg hempty, base, last, String.ofList_toList, String.ofList_toList]
    rfl

/-- No rule is made of a text without a base station and a sector. -/
theorem namesSector_of_makeUliRule (hnull : coULI.isNull = false)
    (h : (pcrfProceraMakeUliRule coULI abonRule).1 = 0) : NamesSector coULI.v := by
  simp only [pcrfProceraMakeUliRule, hnull, Bool.false_eq_true, if_false] at h
  generalize hlist : coULI.v.toList = uli at h
  split at h
  next => cases h
  next sectorPos hsectorPos =>
    split at h
    next => cases h
    next bsPos hbsPos =>
      split at h
      next hwidth =>
        -- the base station lies between the two places
        obtain ⟨hsectorDrop, hsector⟩ := findLastOf_split hsectorPos
        rw [if_neg (by omega)] at hbsPos
        obtain ⟨hbsDrop, hbase⟩ := findLastOf_split hbsPos
        have hlt := (List.getElem?_eq_some_iff.mp
          (findLastOf_eq_some_iff.mp hsectorPos).2.1).1
        have hbetween : uli.drop (bsPos + 1) =
            (uli.drop (bsPos + 1)).take (sectorPos - 1 - bsPos) ++ uli.drop sectorPos := by
          conv_lhs => rw [← List.take_append_drop (sectorPos - 1 - bsPos) (uli.drop (bsPos + 1))]
          rw [List.drop_drop, show bsPos + 1 + (sectorPos - 1 - bsPos) = sectorPos by omega]
        have hrest : (uli.drop (sectorPos + 1)).take (uli.length - sectorPos) =
            uli.drop (sectorPos + 1) :=
          List.take_of_length_le (by rw [List.length_drop]; omega)
        refine ⟨String.ofList (uli.take bsPos),
          String.ofList ((uli.drop (bsPos + 1)).take (sectorPos - 1 - bsPos)),
          String.ofList (uli.drop (sectorPos + 1)), ?_, ?_, ?_, ?_⟩
        · rw [← String.toList_inj, hlist]
          simp only [String.toList_append, String.toList_ofList]
          conv_lhs => rw [← List.take_append_drop bsPos uli, hbsDrop, hbetween, hsectorDrop]
          simp
        · intro hempty
          have hlength := congrArg String.length hempty
          simp only [String.length_ofList, List.length_take, List.length_drop] at hlength
          have : "".length = 0 := rfl
          omega
        · rwa [String.toList_ofList]
        · rwa [String.toList_ofList, ← hrest]
      next => cases h

/-- A rule is made exactly of a text with a base station and a sector, and for a location that is
not known. -/
theorem makeUliRule_iff : (pcrfProceraMakeUliRule coULI abonRule).1 = 0 ↔
    coULI.isNull = true ∨ NamesSector coULI.v := by
  constructor
  · intro h
    cases hnull : coULI.isNull with
    | true => exact .inl rfl
    | false => exact .inr (namesSector_of_makeUliRule hnull h)
  · rintro (hnull | ⟨front, baseStation, sector, hv, hempty, hbase, hsector⟩)
    · rw [makeUliRule_of_null hnull]
    · cases hnull : coULI.isNull with
      | true => rw [makeUliRule_of_null hnull]
      | false => rw [makeUliRule_of_parts hnull hv hbase hsector, if_neg hempty]

end MakeUliRule

/-! ### What is added for the location -/

section Added

variable (coIMEI coCalledStationId coECGI coCGI : OtlValue String)
  (listAbonRules : List SDBAbonRule)

/-- The rules for the equipment and the access point. -/
def proceraOwnRules : List SDBAbonRule :=
  let rule (name : String) : SDBAbonRule :=
    { isRelevant := true
      strRuleName := name
      coDynamicRuleFlag := .of 0
      coRuleGroupFlag := .of 0 }
  (coIMEI.toOption.map fun imei => rule ("/IMEISV/" ++ imei)).toList ++
    (coCalledStationId.toOption.map fun apn => rule ("/APN/" ++ apn)).toList

/-- The text that the rule for the location is made of. -/
def proceraLocation : OtlValue String := if coECGI.isNull then coCGI else coECGI

/-- One rule is added for the location, with this name. -/
def AddsLocation (name : String) : Prop :=
  ∃ rule, pcrfProceraAdditionalRules coIMEI coCalledStationId coECGI coCGI listAbonRules =
      listAbonRules ++ proceraOwnRules coIMEI coCalledStationId ++ [rule] ∧
    rule.strRuleName = name

/-- If no rule can be made of the location, none is added for it. -/
def SparesUnnamed : Prop :=
  ¬ (pcrfProceraMakeUliRule (proceraLocation coECGI coCGI) {}).1 = 0 →
    pcrfProceraAdditionalRules coIMEI coCalledStationId coECGI coCGI listAbonRules =
      listAbonRules ++ proceraOwnRules coIMEI coCalledStationId

/-- The record that the rule for the location is made of: the one that was added last. -/
def proceraLastRule : SDBAbonRule where
  isRelevant := true
  coDynamicRuleFlag := .of 0
  coRuleGroupFlag := .of 0
  strRuleName :=
    if !coCalledStationId.isNull then "/APN/" ++ coCalledStationId.v
    else if !coIMEI.isNull then "/IMEISV/" ++ coIMEI.v
    else ""

/-- A rule for the location is added in any case. -/
theorem additionalRules_eq :
    pcrfProceraAdditionalRules coIMEI coCalledStationId coECGI coCGI listAbonRules =
      listAbonRules ++ proceraOwnRules coIMEI coCalledStationId ++
        [(pcrfProceraMakeUliRule (proceraLocation coECGI coCGI)
          (proceraLastRule coIMEI coCalledStationId)).2] := by
  cases himei : coIMEI.null <;> cases hapn : coCalledStationId.null <;>
    simp [pcrfProceraAdditionalRules, proceraOwnRules, proceraLastRule, proceraLocation,
      OtlValue.toOption, OtlValue.isNull, himei, hapn]

variable {coIMEI coCalledStationId coECGI coCGI listAbonRules}

theorem addsLocation_iff {name : String} :
    AddsLocation coIMEI coCalledStationId coECGI coCGI listAbonRules name ↔
      (pcrfProceraMakeUliRule (proceraLocation coECGI coCGI)
        (proceraLastRule coIMEI coCalledStationId)).2.strRuleName = name := by
  unfold AddsLocation
  rw [additionalRules_eq]
  constructor
  · rintro ⟨rule, heq, hname⟩
    obtain rfl := List.singleton_inj.mp (List.append_cancel_left heq)
    exact hname
  · intro hname
    exact ⟨_, rfl, hname⟩

theorem sparesUnnamed_iff :
    SparesUnnamed coIMEI coCalledStationId coECGI coCGI listAbonRules ↔
      (proceraLocation coECGI coCGI).isNull = true ∨
        NamesSector (proceraLocation coECGI coCGI).v := by
  unfold SparesUnnamed
  rw [additionalRules_eq, makeUliRule_iff]
  constructor
  · intro spares
    by_contra hnone
    have hsame := spares hnone
    have hlength := congrArg List.length hsame
    simp at hlength
  · intro hmade hnone
    exact absurd hmade hnone

end Added

/-! ### The rule for a cell -/

/-- The types of the cells that rules are made of. -/
def EUserLocationType.isCell : EUserLocationType → Bool
  | cgi | ecgi => true
  | rai | tai | sai | taiEcgi => false

/-- For a cell of the third type the rule is made of no other text. -/
theorem proceraLocation_store {type : EUserLocationType} (htype : type.isCell = true)
    {memory : Memory} {pszMCCMNC text : String}
    (h : type.textOf (type.store memory pszMCCMNC {}) = .of text) :
    proceraLocation (type.store memory pszMCCMNC {}).coECGI
      (type.store memory pszMCCMNC {}).coCGI = .of text := by
  cases type with
  | cgi => exact h
  | ecgi =>
    have stored : (EUserLocationType.ecgi.store memory pszMCCMNC {}).coECGI = .of text := h
    rw [stored]
    rfl
  | rai | tai | sai | taiEcgi => cases htype

namespace LocationValue

section Cell

variable {type : EUserLocationType} (v : LocationValue type)

/-- The parts of the cell: an E-UTRAN cell has a number of its base station, of a CI only the
digits are there. -/
def IsCellOf (baseStation sector : String) : Prop :=
  match type with
  | .cgi => baseStation ++ sector = toString v.cell
  | .ecgi =>
    baseStation = toString (v.cellIdentity / 256) ∧ sector = toString (v.cellIdentity % 256)
  | .rai | .tai | .sai | .taiEcgi => False

variable (coIMEI coCalledStationId : OtlValue String) (listAbonRules : List SDBAbonRule)

/-- The value is accepted, and one rule is added for the stored text, named after the cell. -/
def AddsCellRule : Prop :=
  ∀ env bLoaded, env.asprintf = true → ∃ result baseStation sector,
    pcrfParseUserLocation env v.data {} bLoaded = some result ∧ result.iRetVal = 0 ∧
    IsDecimal baseStation ∧ IsDecimal sector ∧ v.IsCellOf baseStation sector ∧
    AddsLocation coIMEI coCalledStationId result.soUserLocationInfo.coECGI
      result.soUserLocationInfo.coCGI listAbonRules (uliRuleName baseStation sector)

/-- The digits before the last part of the text. -/
def baseText : String :=
  match type with
  | .cgi => frontDigits v.cell
  | .ecgi => toString (v.cellIdentity / 256)
  | .rai | .tai | .sai | .taiEcgi => ""

def sectorText : String :=
  match type with
  | .cgi => toString (v.cell % 10)
  | .ecgi => toString (v.cellIdentity % 256)
  | .rai | .tai | .sai | .taiEcgi => ""

variable {v}

theorem text_eq_parts (htype : type.isCell = true) :
    ∃ front, v.text = front ++ "-" ++ v.baseText ++ "-" ++ v.sectorText := by
  cases type with
  | cgi =>
    refine ⟨formatMCCMNC v.network ++ "-" ++ toString v.area, ?_⟩
    simp only [text, codesText, baseText, sectorText, String.append_assoc]
  | ecgi =>
    refine ⟨formatMCCMNC v.network, ?_⟩
    simp only [text, codesText, baseText, sectorText, String.append_assoc]
  | rai | tai | sai | taiEcgi => cases htype

theorem dash_notMem_baseText : '-' ∉ v.baseText.toList := by
  cases type with
  | cgi => exact dash_notMem_frontDigits _
  | ecgi => exact dash_notMem_toString _
  | rai | tai | sai | taiEcgi => exact List.not_mem_nil

theorem dash_notMem_sectorText : '-' ∉ v.sectorText.toList := by
  cases type with
  | cgi | ecgi => exact dash_notMem_toString _
  | rai | tai | sai | taiEcgi => exact List.not_mem_nil

theorem isCellOf_parts (htype : type.isCell = true) : v.IsCellOf v.baseText v.sectorText := by
  cases type with
  | cgi => exact (toString_eq_front v.cell).symm
  | ecgi => exact ⟨rfl, rfl⟩
  | rai | tai | sai | taiEcgi => cases htype

theorem isDecimal_sectorText (htype : type.isCell = true) : IsDecimal v.sectorText := by
  cases type with
  | cgi | ecgi => exact isDecimal_toString _
  | rai | tai | sai | taiEcgi => cases htype

/-- A CI of one digit leaves no digit for the base station. -/
theorem isDecimal_baseText_iff (htype : type.isCell = true) :
    IsDecimal v.baseText ↔ (type = .cgi → 10 ≤ v.cell) := by
  cases type with
  | cgi =>
    simp only [baseText, frontDigits, true_imp_iff]
    split
    next hlt => exact iff_of_false (fun h => h.1 rfl) (Nat.not_le.mpr hlt)
    next hle => exact iff_of_true (isDecimal_toString _) (Nat.not_lt.mp hle)
  | ecgi => exact iff_of_true (isDecimal_toString _) (fun h => by cases h)
  | rai | tai | sai | taiEcgi => cases htype

theorem eq_empty_of_append {front middle sep rest : String}
    (h : front = front ++ middle ++ sep ++ rest) : middle = "" := by
  have lengths := congrArg String.length h
  rw [String.length_append, String.length_append, String.length_append] at lengths
  rw [← String.length_eq_zero_iff]
  omega

/-- The rule that is made of the text of a cell. -/
theorem makeUliRule_text (htype : type.isCell = true) (abonRule : SDBAbonRule) :
    (pcrfProceraMakeUliRule (.of v.text) abonRule).2.strRuleName =
      if v.baseText = "" then "/User-Location/" else uliRuleName v.baseText v.sectorText := by
  obtain ⟨front, hv⟩ := v.text_eq_parts htype
  have parts : (OtlValue.of v.text).v = front ++ "-" ++ v.baseText ++ "-" ++ v.sectorText := hv
  rw [makeUliRule_of_parts rfl parts dash_notMem_baseText dash_notMem_sectorText]
  split <;> rfl

theorem addsCellRule_iff (htype : type.isCell = true) :
    v.AddsCellRule coIMEI coCalledStationId listAbonRules ↔ (type = .cgi → 10 ≤ v.cell) := by
  have location {env : ParseEnv} {bLoaded : Option Bool} {result : UserLocationResult}
      (hasprintf : env.asprintf = true)
      (hparse : pcrfParseUserLocation env v.data {} bLoaded = some result) :
      result.iRetVal = 0 ∧ proceraLocation result.soUserLocationInfo.coECGI
        result.soUserLocationInfo.coCGI = .of v.text := by
    obtain ⟨result', hparse', hzero, htext⟩ := v.stores_text env {} bLoaded hasprintf
    obtain rfl := Option.some.inj (hparse'.symm.trans hparse)
    rw [LocationValue.data, pcrfParseUserLocation_exact (EUserLocationType.ofOctet_octet type)
      v.full, Option.some_inj] at hparse
    subst hparse
    rw [ParseEnv.parsed_location, if_pos hasprintf] at htext ⊢
    exact ⟨hzero, proceraLocation_store htype htext⟩
  rw [← v.isDecimal_baseText_iff htype]
  constructor
  · intro adds
    obtain ⟨result, baseStation, sector, hparse, -, hbase, -, -, hadds⟩ :=
      adds ⟨fun _ => 0, 0, true⟩ none rfl
    rw [addsLocation_iff, (location rfl hparse).2, makeUliRule_text htype] at hadds
    split at hadds
    next hempty =>
      -- the name that is left behind has no base station
      exact absurd (eq_empty_of_append hadds) hbase.1
    next hne =>
      exact (isDecimal_baseText_iff htype).mpr fun hcgi => by
        subst hcgi
        by_contra hlt
        exact hne (if_pos (Nat.not_le.mp hlt))
  · intro hbase env bLoaded hasprintf
    obtain ⟨result, hparse, hzero, -⟩ := v.stores_text env {} bLoaded hasprintf
    refine ⟨result, v.baseText, v.sectorText, hparse, hzero, hbase, isDecimal_sectorText htype,
      isCellOf_parts htype, ?_⟩
    rw [addsLocation_iff, (location hasprintf hparse).2, makeUliRule_text htype,
      if_neg hbase.1]

end Cell

end LocationValue

section Rules

variable (coIMEI coCalledStationId : OtlValue String) (listAbonRules : List SDBAbonRule)

/-- The rule of a cell is right unless the CI has one digit. A text that no rule can be made of
gets a rule as well. -/
theorem additionalRules_location_iff :
    (∀ (type : EUserLocationType) (v : LocationValue type), type.isCell = true →
      (v.AddsCellRule coIMEI coCalledStationId listAbonRules ↔
        (type = .cgi → 10 ≤ v.cell))) ∧
    ∀ coECGI coCGI : OtlValue String,
      SparesUnnamed coIMEI coCalledStationId coECGI coCGI listAbonRules ↔
        (proceraLocation coECGI coCGI).isNull = true ∨
          NamesSector (proceraLocation coECGI coCGI).v :=
  ⟨fun _ _ htype => LocationValue.addsCellRule_iff coIMEI coCalledStationId listAbonRules htype,
    fun _ _ => sparesUnnamed_iff⟩

end Rules

/-- The cell 4 of the location area 1, in the network 250-01. -/
theorem not_addsCellRule_shortCI :
    ¬ ∀ (type : EUserLocationType) (v : LocationValue type), type.isCell = true →
      v.AddsCellRule .empty .empty [] := by
  intro adds
  let v : LocationValue .cgi :=
    { octets := [0x52, 0xf0, 0x10, 0, 1, 0, 4]
      isPlace := rfl
      full := rfl
      decimal := by decide
      filled := by decide }
  have ten := (LocationValue.addsCellRule_iff .empty .empty [] (v := v) rfl).mp
    (adds .cgi v rfl) rfl
  exact absurd ten (by decide)

end Pcrf
