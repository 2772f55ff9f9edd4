import Pcrf.Types

/-!
Rules that do not come from the database: the default rules of the configuration
(`pcrf_defaultRuleSelector.cpp`) and the rules added for a Procera (`pcrf_procera.cpp`).
-/

namespace Pcrf

/-! ### Default rules -/

/-- A default rule and its conditions, pairs of a parameter and one of its values. -/
structure SDefaultRule where
  strRuleName : String
  mmapCondition : List (String × String) := []
  deriving Repr, DecidableEq

/-- `c_str()` as the functions of C read it: up to the first null. -/
def cStr (s : String) : String := String.ofList (s.toList.takeWhile (· ≠ Char.ofNat 0))

/-- A parameter without conditions fits every value. -/
def pcrfDrsCheckParameter (mmapCondition : List (String × String)) (param value : String) :
    Bool :=
  let values := mmapCondition.filter fun condition => condition.1 == param
  values.isEmpty || values.any fun condition => condition.2 == value

def PeerDialect.dialectName : PeerDialect → String
  | gxUndef => "GX_UNDEF"
  | gxHwUgw => "GX_HW_UGW"
  | gxCiscoSce => "GX_CISCO_SCE"
  | gxProcera => "GX_PROCERA"
  | gxEricssn => "GX_ERICSSN"
  | rxIms => "RX_IMS"
  | unsupported _ => "UNSUPPORTED_DIALECT"

/-- A value that is not known is not compared. -/
def fitsKnown (rule : SDefaultRule) (known : OtlValue String) (param value : String) : Bool :=
  known.isNull || pcrfDrsCheckParameter rule.mmapCondition param value

/-- The names of the default rules whose conditions fit. The dialect is compared only when the
IP-CAN-Type is known. -/
def pcrfDrsGetDefaultRuleList (mapDefaultRule : List SDefaultRule)
    (soUserEnvironment : SUserEnvironment) (uiPeerDialect : PeerDialect) : List String :=
  let env := soUserEnvironment
  (mapDefaultRule.filter fun rule =>
    fitsKnown rule env.coRATType "RAT_TYPE" (cStr env.coRATType.v) &&
    fitsKnown rule env.coSGSNAddress "SGSN_ADDRESS" (cStr env.coSGSNAddress.v) &&
    fitsKnown rule env.coIPCANType "IP_CAN_TYPE" (cStr env.coIPCANType.v) &&
    fitsKnown rule env.coIPCANType "PEER_DIALECT" uiPeerDialect.dialectName).map
  SDefaultRule.strRuleName

/-! ### Procera -/

/-- `std::string::find_last_of`: the last place of `c` at or before `pos`. -/
def findLastOf (chars : List Char) (c : Char) (pos : Nat) : Option Nat :=
  ((List.range (min chars.length (pos + 1))).filter fun i => chars[i]? == some c).getLast?

/-- The code returned and the rule, whose name stays as it was when there is no location to
name, and is cut short when the base station is empty. `EINVAL` is 22. -/
def pcrfProceraMakeUliRule (coULI : OtlValue String) (abonRule : SDBAbonRule) :
    Int × SDBAbonRule :=
  let named (name : String) : SDBAbonRule :=
    { abonRule with
      strRuleName := name, coDynamicRuleFlag := .of 0, coRuleGroupFlag := .of 0 }
  if coULI.isNull then (0, named "/User-Location/inRoaming")
  else
    let uli := coULI.v.toList
    match findLastOf uli '-' uli.length with
    | none => (22, abonRule)
    | some sectorPos =>
      -- the position before the first one is `npos`, the end of the string
      match findLastOf uli '-' (if sectorPos = 0 then uli.length else sectorPos - 1) with
      | none => (22, abonRule)
      | some bsPos =>
        if 1 < sectorPos - bsPos then
          let baseStation := (uli.drop (bsPos + 1)).take (sectorPos - bsPos - 1)
          let sector := uli.drop (sectorPos + 1)
          (0, named ("/User-Location/" ++ String.ofList baseStation ++ "/" ++ String.ofList sector))
        else (22, { abonRule with strRuleName := "/User-Location/" })

/-- The rules are added one after another from one record, so that a location without a name
repeats the name before it. -/
def pcrfProceraAdditionalRules (coIMEI coCalledStationId coECGI coCGI : OtlValue String)
    (listAbonRules : List SDBAbonRule) : List SDBAbonRule :=
  let abonRule : SDBAbonRule :=
    { isRelevant := true, coDynamicRuleFlag := .of 0, coRuleGroupFlag := .of 0 }
  let imei := { abonRule with strRuleName := "/IMEISV/" ++ coIMEI.v }
  let afterImei := if coIMEI.isNull then abonRule else imei
  let apn := { afterImei with strRuleName := "/APN/" ++ coCalledStationId.v }
  let afterApn := if coCalledStationId.isNull then afterImei else apn
  let uli := (pcrfProceraMakeUliRule (if coECGI.isNull then coCGI else coECGI) afterApn).2
  listAbonRules ++ (if coIMEI.isNull then [] else [imei]) ++
    (if coCalledStationId.isNull then [] else [apn]) ++ [uli]

end Pcrf
