import Pcrf.BitrateLimits
import Pcrf.MonitKeys
import Pcrf.RuleEffects

/-!
The Usage-Monitoring-Informations of a message: what `pcrf_make_UMI` makes of the monitoring keys
of a session, and which of its AVPs are about a key.
-/

namespace Pcrf

open Lib CallM

/-! ### The AVPs of a map of keys -/

def SDBMonitoringInfo.hasQuota (info : SDBMonitoringInfo) : Bool :=
  !(info.coDosageTotalOctets.isNull && info.coDosageOutputOctets.isNull &&
    info.coDosageInputOctets.isNull)

/-- The AVP of a value that may be absent. -/
def avpOf {α : Type} (o : OtlValue α) (dict : Dict) (value : α → AvpValue) : List Avp :=
  (o.toOption.map fun v => .leaf dict (value v)).toList

/-- Granted-Service-Unit: the total, and only without one the two directions. -/
def SDBMonitoringInfo.granted (info : SDBMonitoringInfo) : Avp :=
  .group .grantedServiceUnit <|
    if info.coDosageTotalOctets.isNull then
      avpOf info.coDosageInputOctets .ccInputOctets .u64 ++
        avpOf info.coDosageOutputOctets .ccOutputOctets .u64
    else avpOf info.coDosageTotalOctets .ccTotalOctets .u64

/-- Usage-Monitoring-Information for a key. -/
def umiOf (isNeedUMR : Bool) (key : String) (info : SDBMonitoringInfo) : Avp :=
  .group .usageMonitoringInformation <|
    .leaf .monitoringKey (.os key) ::
      ((if info.isReported then [] else [.leaf .usageMonitoringLevel (.i32 1)]) ++
        (if isNeedUMR then [.leaf .usageMonitoringReport (.i32 0)] else []) ++ [info.granted])

/-- What a map of keys adds to a message. -/
def MonitInfoMap.umis (isNeedUMR : Bool) (mapMonitInfo : MonitInfoMap) : List Avp :=
  (mapMonitInfo.filter fun entry => entry.2.hasQuota).map fun entry =>
    umiOf isNeedUMR entry.1 entry.2

/-- The AVP is a Usage-Monitoring-Information for the key. -/
def Avp.monitors (key : String) : Avp → Bool
  | .group .usageMonitoringInformation children => .os key ∈ leavesOf .monitoringKey children
  | _ => false

/-- The Usage-Monitoring-Informations for a key. -/
def umisFor (key : String) (avps : List Avp) : List Avp := avps.filter (Avp.monitors key)

theorem MonitInfoMap.umis_cons (isNeedUMR : Bool) (entry : String × SDBMonitoringInfo)
    (rest : MonitInfoMap) :
    umis isNeedUMR (entry :: rest) =
      if entry.2.hasQuota then umiOf isNeedUMR entry.1 entry.2 :: umis isNeedUMR rest
      else umis isNeedUMR rest := by
  cases hquota : entry.2.hasQuota <;> simp [umis, hquota]

/-! ### What is put into the message -/

section Puts

theorem appendsJust_putLeaf {dict : Dict} {value : AvpValue} :
    AppendsJust [.leaf dict value] (putLeaf dict value) := by
  intro s hs children
  simp only [putLeaf, exec_bind_some (exec_call hs)]
  rfl

theorem appendsJust_putValue {α : Type} {o : OtlValue α} {dict : Dict} {value : α → AvpValue} :
    AppendsJust (avpOf o dict value) (putValue o dict value) := by
  cases hnull : o.null with
  | true =>
    simp only [avpOf, putValue, OtlValue.isNull, OtlValue.toOption, hnull, if_true, Option.map_none,
      Option.toList_none]
    exact .pure
  | false =>
    simp only [avpOf, putValue, OtlValue.isNull, OtlValue.toOption, hnull, Bool.false_eq_true,
      if_false, Option.map_some, Option.toList_some]
    exact appendsJust_putLeaf

theorem appendsJust_putGroup {dict : Dict} {parts : List Part} {children : List Avp}
    (h : AppendsJust children (runAll parts)) :
    AppendsJust [.group dict children] (putGroup dict parts) := by
  intro s hs siblings
  have hinner := h s hs []
  rw [List.nil_append] at hinner
  simp only [putGroup, exec_bind_some (exec_call hs), exec_bind_some hinner]
  rfl

theorem appendsJust_granted (info : SDBMonitoringInfo) :
    AppendsJust [info.granted] (putGroup .grantedServiceUnit (grantedParts info)) := by
  refine appendsJust_putGroup ?_
  cases hnull : info.coDosageTotalOctets.isNull with
  | true =>
    simp only [grantedParts, hnull, if_true]
    exact appendsJust_putValue.cons (.singleton appendsJust_putValue)
  | false =>
    have htotal : avpOf info.coDosageTotalOctets .ccTotalOctets .u64 =
        [.leaf .ccTotalOctets (.u64 info.coDosageTotalOctets.v)] := by
      rw [OtlValue.isNull] at hnull
      simp [avpOf, OtlValue.toOption, hnull]
    simp only [grantedParts, hnull, Bool.false_eq_true, if_false, htotal]
    exact .singleton appendsJust_putLeaf

theorem appendsJust_putUMI (key : String) (info : SDBMonitoringInfo) (isNeedUMR : Bool) :
    AppendsJust [umiOf isNeedUMR key info] (putUMI key info isNeedUMR) := by
  have level : AppendsJust (if info.isReported then [] else [.leaf .usageMonitoringLevel (.i32 1)])
      (runAll (if info.isReported then [] else [putLeaf .usageMonitoringLevel (.i32 1)])) := by
    split
    · exact .pure
    · exact .singleton appendsJust_putLeaf
  have report : AppendsJust (if isNeedUMR then [.leaf .usageMonitoringReport (.i32 0)] else [])
      (runAll (if isNeedUMR then [putLeaf .usageMonitoringReport (.i32 0)] else [])) := by
    split
    · exact .singleton appendsJust_putLeaf
    · exact .pure
  refine appendsJust_putGroup ?_
  simp only [List.append_assoc]
  exact appendsJust_putLeaf.cons
    (level.append (report.append (.singleton (appendsJust_granted info))))

theorem makeUMI_cons (isNeedUMR : Bool) (entry : String × SDBMonitoringInfo)
    (rest : MonitInfoMap) :
    pcrfMakeUMI isNeedUMR (entry :: rest) =
      if entry.2.hasQuota then do
        putMessage (putUMI entry.1 entry.2 isNeedUMR)
        pcrfMakeUMI isNeedUMR rest
      else pcrfMakeUMI isNeedUMR rest := by
  rw [pcrfMakeUMI, SDBMonitoringInfo.hasQuota]
  split
  next hnone => simp [hnone]
  next hsome => simp [hsome]

/-- `pcrf_make_UMI` adds the AVPs of its keys. -/
theorem exec_makeUMI (isNeedUMR : Bool) (mapMonitInfo : MonitInfoMap)
    {s : Answering AnswerState} (hs : s.AllSucceed) :
    exec (pcrfMakeUMI isNeedUMR mapMonitInfo) s =
      (some (), withMore s s.state.store (mapMonitInfo.umis isNeedUMR)) := by
  induction mapMonitInfo generalizing s with
  | nil => exact congrArg (Prod.mk _) (withMore_nil s).symm
  | cons entry rest ih =>
    rw [makeUMI_cons]
    cases hquota : entry.2.hasQuota with
    | false =>
      simp only [MonitInfoMap.umis_cons, hquota, Bool.false_eq_true, if_false, ih hs]
    | true =>
      have hput := appendsJust_putUMI entry.1 entry.2 isNeedUMR s hs []
      have hmessage : exec (putMessage (putUMI entry.1 entry.2 isNeedUMR)) s =
          (some (), withMore s s.state.store [umiOf isNeedUMR entry.1 entry.2]) := by
        simp only [putMessage, exec_bind_some hput, exec_update]
        rfl
      have hmore : (withMore s s.state.store [umiOf isNeedUMR entry.1 entry.2]).AllSucceed := hs
      simp only [if_true, exec_bind_some hmessage, ih hmore]
      refine congrArg (Prod.mk _) ((withMore_withMore ..).trans ?_)
      rw [MonitInfoMap.umis_cons, hquota]
      rfl

end Puts

/-- Keys without a quota are passed over. -/
theorem makeUMI_of_noQuota (isNeedUMR : Bool) {mapMonitInfo : MonitInfoMap}
    (h : ∀ entry ∈ mapMonitInfo, entry.2.hasQuota = false) :
    pcrfMakeUMI isNeedUMR mapMonitInfo = return () := by
  induction mapMonitInfo with
  | nil => rfl
  | cons entry rest ih =>
    obtain ⟨hentry, hrest⟩ := List.forall_mem_cons.mp h
    rw [makeUMI_cons, hentry, if_neg Bool.false_ne_true, ih hrest]

/-! ### The AVP of a key -/

theorem monitors_umiOf (isNeedUMR : Bool) (key k : String) (info : SDBMonitoringInfo) :
    (umiOf isNeedUMR k info).monitors key = decide (k = key) := by
  have hkey : leavesOf .monitoringKey (umiOf isNeedUMR k info).children = [.os k] := by
    cases hreported : info.isReported <;> cases isNeedUMR <;>
      simp [umiOf, Avp.children, leavesOf, hreported, SDBMonitoringInfo.granted]
  show decide (.os key ∈ leavesOf .monitoringKey (umiOf isNeedUMR k info).children) = _
  rw [hkey]
  simp [eq_comm]

/-- A key of the map has one AVP, if it has a quota. -/
theorem MonitInfoMap.Sorted.umisFor_umis {mapMonitInfo : MonitInfoMap} (h : mapMonitInfo.Sorted)
    (isNeedUMR : Bool) {key : String} {info : SDBMonitoringInfo}
    (hfind : mapMonitInfo.find key = some info) (hquota : info.hasQuota = true) :
    umisFor key (mapMonitInfo.umis isNeedUMR) = [umiOf isNeedUMR key info] := by
  induction mapMonitInfo with
  | nil => cases hfind
  | cons entry rest ih =>
    obtain ⟨hentry, hrest⟩ := List.pairwise_cons.mp h
    rw [find_cons] at hfind
    rw [umis_cons]
    split at hfind
    next hkey =>
      -- the keys that follow are greater
      subst hkey
      obtain rfl := Option.some.inj hfind
      have hothers : umisFor entry.1 (umis isNeedUMR rest) = [] := by
        refine List.filter_eq_nil_iff.mpr fun avp havp => ?_
        obtain ⟨later, hlater, rfl⟩ := List.mem_map.mp havp
        have hlt := hentry later (List.mem_filter.mp hlater).1
        rw [monitors_umiOf, decide_eq_true_eq]
        exact ne_of_gt hlt
      rw [if_pos hquota, umisFor, List.filter_cons_of_pos (by simp [monitors_umiOf])]
      exact congrArg _ hothers
    next hkey =>
      rw [← ih hrest hfind]
      split
      next => exact List.filter_cons_of_neg (by simp [monitors_umiOf, hkey])
      next => rfl

end Pcrf
