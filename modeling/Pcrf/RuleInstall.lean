import Pcrf.ChargingRule

/-!
Comparing the rules a session has with the rules it should have, and the two AVPs of an answer
or a request that make them agree. Issuing and closing rules is a side effect of building them.
-/

namespace Pcrf

open Lib CallM

/-- Mark the wanted rules that are active and the active rules that are wanted. -/
def pcrfServerSelectNotrelevantActive :
    List SDBAbonRule → List SDBAbonRule → List SDBAbonRule × List SDBAbonRule
  | [], vectActive => ([], vectActive)
  | rule :: listAbonRules, vectActive =>
    let found := vectActive.any fun active => active.strRuleName == rule.strRuleName
    let marked := vectActive.map fun active =>
      if active.strRuleName == rule.strRuleName then { active with isRelevant := true }
      else active
    let rest := pcrfServerSelectNotrelevantActive listAbonRules marked
    ((if found then { rule with isActive := true } else rule) :: rest.1, rest.2)

/-- Whether an active rule is not wanted, or a wanted one not active. -/
def pcrfClientIsAnyChanges (vectActive listAbonRules : List SDBAbonRule) : Bool :=
  vectActive.any (fun rule => !rule.isRelevant && rule.isActive) ||
    listAbonRules.any (fun rule => !rule.isActive && rule.isRelevant)

/-- An AVP that is created when its first child is to be added. -/
def openOnDemand (children : Option (List Avp)) (create : FdM (List Avp)) : FdM (List Avp) :=
  match children with
  | some children => return children
  | none => create

/-! ### Charging-Rule-Remove -/

/-- The loop of `pcrf_make_CRR`; `crr` holds the children of the AVP once it exists. -/
def pcrfMakeCRRLoop (sessInfo : SSessionInfo) :
    List SDBAbonRule → Option (List Avp) → FdM (Option (List Avp))
  | [], crr => return crr
  | rule :: vectActive, crr =>
    if rule.isRelevant then pcrfMakeCRRLoop sessInfo vectActive crr
    else
      let close : FdM Unit := update fun st =>
        { st with store := pcrfDbCloseSessionRule st.store sessInfo rule.strRuleName none }
      match sessInfo.uiPeerDialect with
      | .gxHwUgw | .gxProcera | .gxEricssn => do
        let children ← openOnDemand crr (do call; return [])
        match ← attempt (pcrfSetCRN (nameDict rule) rule.strRuleName children) with
        | some children =>
          close
          pcrfMakeCRRLoop sessInfo vectActive (some children)
        | none => pcrfMakeCRRLoop sessInfo vectActive (some children)
      | .gxCiscoSce => do
        close
        pcrfMakeCRRLoop sessInfo vectActive crr
      | _ => pcrfMakeCRRLoop sessInfo vectActive crr

/-- `none` is the null pointer: nothing to remove, or the AVP could not be made. -/
def pcrfMakeCRR (sessInfo : SSessionInfo) (vectActive : List SDBAbonRule) :
    FdM (Option Avp) := do
  if vectActive.isEmpty then return none
  match ← attempt (pcrfMakeCRRLoop sessInfo vectActive none) with
  | some (some children) => return some (.group .chargingRuleRemove children)
  | _ => return none

/-! ### Charging-Rule-Install -/

/-- Bearer-Identifier, for a request over a bearer of IP-CAN-Type 0. -/
def putBearerIdentifier (reqInfo : Option SRequestInfo) : Part :=
  match reqInfo with
  | some req =>
    if req.soUserEnvironment.iIPCANType == 0 then
      putValue req.coBearerIdentifier .bearerIdentifier .os
    else fun children => return children
  | none => fun children => return children

/-- An AVP of the Cisco SCE goes straight into the message. -/
def putAnswer {α : Type} (o : OtlValue α) (dict : Dict) (value : α → UInt32) : FdM Unit :=
  if o.isNull then return ()
  else do
    call
    call
    call
    update fun st => { st with answer := st.answer ++ [.leaf dict (.u32 (value o.v))] }

/-- What an SCE is told of a rule. -/
def putSceRule (rule : SDBAbonRule) : FdM Unit := do
  putAnswer rule.coSCE_PackageId .ciscoBBPackageInstall (·.toUInt32)
  putAnswer rule.coSCE_RealTimeMonitor .ciscoBBRTMonitorInstall (·.toUInt32)
  putAnswer rule.coSCE_UpVirtualLink .ciscoBBVlinkUStreamInstall id
  putAnswer rule.coSCE_DownVirtualLink .ciscoBBVlinkDStreamInstall id

/-- The loop of `pcrf_make_CRI`; `cri` holds the children of the AVP once it exists. -/
def pcrfMakeCRILoop (sessInfo : SSessionInfo) (reqInfo : Option SRequestInfo) :
    List SDBAbonRule → Option (List Avp) → FdM (Option (List Avp))
  | [], cri => return cri
  | rule :: listAbonRules, cri =>
    let insert : FdM Unit := update fun st =>
      { st with store := pcrfDbInsertRule st.store sessInfo rule }
    match sessInfo.uiPeerDialect with
    | .gxHwUgw | .gxProcera | .gxEricssn => do
      if rule.isActive then pcrfMakeCRILoop sessInfo reqInfo listAbonRules cri
      else
        let children ← openOnDemand cri (do call; putBearerIdentifier reqInfo [])
        match ← attempt (pcrfMakeCRD reqInfo rule) with
        | some crd =>
          call
          insert
          pcrfMakeCRILoop sessInfo reqInfo listAbonRules (some (children ++ [crd]))
        | none => pcrfMakeCRILoop sessInfo reqInfo listAbonRules (some children)
    | .gxCiscoSce => do
      putSceRule rule
      if rule.isActive then pure () else insert
      pcrfMakeCRILoop sessInfo reqInfo listAbonRules cri
    | _ => pcrfMakeCRILoop sessInfo reqInfo listAbonRules cri

def pcrfMakeCRI (sessInfo : SSessionInfo) (reqInfo : Option SRequestInfo)
    (listAbonRules : List SDBAbonRule) : FdM (Option Avp) := do
  if listAbonRules.isEmpty then return none
  match ← attempt (pcrfMakeCRILoop sessInfo reqInfo listAbonRules none) with
  | some (some children) => return some (.group .chargingRuleInstall children)
  | _ => return none

end Pcrf
