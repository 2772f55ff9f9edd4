import Pcrf.CreditControl
import Pcrf.Lib.LastWrite
import Pcrf.Lib.Machine

/-!
`pcrf_procera_oper_thetering_report`: the sessions whose equipment shares its connection, and the
rule that redirects them. A session is recorded when its last flag was not zero, unless a zero
came for a session that was not recorded.
-/

namespace Pcrf

open Lib

/-! ### The report -/

/-- `soRule`, before its marks are set. -/
def redirectRule : SDBAbonRule :=
  { coDynamicRuleFlag := .of 0
    coRuleGroupFlag := .of 0
    strRuleName := "/PSM/Policies/Redirect_blocked_device" }

/-- What a report leaves: `g_pmapTethering`, the rules to install and the active rules. -/
structure TetheringOutcome where
  pmapTethering : Option (Store String Int32)
  listAbonRule : List SDBAbonRule
  vectActiveRule : List SDBAbonRule

/-- The map is made by the first call. The function has no `return`, and what it would return
is not read. -/
def pcrfProceraOperTheteringReport (pmapTethering : Option (Store String Int32))
    (soRequestInfo : SMsgDataForDB) (listAbonRule vectActiveRule : List SDBAbonRule) :
    TetheringOutcome :=
  let strSessionId := soRequestInfo.soSessInfo.strSessionId
  let coTetheringFlag := soRequestInfo.soReqInfo.coTetheringFlag
  let map := pmapTethering.getD Store.empty
  let relevant := { redirectRule with isRelevant := true }
  match map strSessionId with
  | none =>
    -- nothing is recorded of the session, so that without a flag nothing is done
    if coTetheringFlag.isNull then ⟨some map, listAbonRule, vectActiveRule⟩
    else if coTetheringFlag.v = 0 then
      -- `case 0` has no `break`, so that what is done for the other values follows
      let soRule := { redirectRule with isActive := true }
      ⟨some (map.set strSessionId 1), listAbonRule ++ [{ soRule with isRelevant := true }],
        vectActiveRule ++ [soRule]⟩
    else ⟨some (map.set strSessionId 1), listAbonRule ++ [relevant], vectActiveRule⟩
  | some value =>
    -- without a flag the recorded value stands for it
    if coTetheringFlag.isNull then
      if value = 0 then ⟨some (map.erase strSessionId), listAbonRule, vectActiveRule⟩
      else ⟨some map, listAbonRule ++ [relevant], vectActiveRule⟩
    else if coTetheringFlag.v = 0 then
      ⟨some (map.erase strSessionId), listAbonRule, vectActiveRule⟩
    else ⟨some (map.set strSessionId 1), listAbonRule ++ [relevant], vectActiveRule⟩

/-- A call with the lists it is given. -/
structure TetheringCall where
  soRequestInfo : SMsgDataForDB
  listAbonRule : List SDBAbonRule := []
  vectActiveRule : List SDBAbonRule := []

namespace TetheringCall

def strSessionId (call : TetheringCall) : String := call.soRequestInfo.soSessInfo.strSessionId

def flag (call : TetheringCall) : Option UInt32 :=
  call.soRequestInfo.soReqInfo.coTetheringFlag.toOption

def report (call : TetheringCall) (pmapTethering : Option (Store String Int32)) :
    TetheringOutcome :=
  pcrfProceraOperTheteringReport pmapTethering call.soRequestInfo call.listAbonRule
    call.vectActiveRule

/-- What a call says of a session: that its flag is not zero, or that it is. -/
def switches (strSessionId : String) (call : TetheringCall) : Option Bool :=
  if call.strSessionId = strSessionId then call.flag.map (fun flag => flag ≠ 0) else none

/-- The call adds one rule to those to install, the one that redirects. -/
def AppendsRedirect (call : TetheringCall) (after : TetheringOutcome) : Prop :=
  ∃ rule, after.listAbonRule = call.listAbonRule ++ [rule] ∧
    rule.strRuleName = redirectRule.strRuleName ∧ rule.isRelevant = true

end TetheringCall

/-- One call after another, from the start of the program. -/
def tetheringMachine : Machine (Option (Store String Int32)) TetheringCall where
  init := none
  step := fun pmapTethering call => (call.report pmapTethering).pmapTethering

def IsRecorded (pmapTethering : Option (Store String Int32)) (strSessionId : String) : Prop :=
  ((pmapTethering.getD Store.empty) strSessionId).isSome = true

/-- The last flag that came for the session was not zero. -/
def LastFlagSet (calls : List TetheringCall) (strSessionId : String) : Prop :=
  lastWrite (TetheringCall.switches strSessionId) calls = some true

/-- What a call leaves after the calls before it: those sessions are recorded whose last flag
was not zero, and the call adds the rule exactly when its session is one of them. -/
structure FollowsFlags (front : List TetheringCall) (call : TetheringCall) : Prop where
  recorded : ∀ strSessionId, IsRecorded (tetheringMachine.run (front ++ [call])) strSessionId ↔
    LastFlagSet (front ++ [call]) strSessionId
  appended : call.AppendsRedirect (call.report (tetheringMachine.run front)) ↔
    IsRecorded (tetheringMachine.run (front ++ [call])) call.strSessionId

/-! ### One step -/

section

variable {pmapTethering : Option (Store String Int32)}

/-- What is recorded is recorded as one. -/
def RecordedAsOne (pmapTethering : Option (Store String Int32)) : Prop :=
  ∀ strSessionId value, pmapTethering.getD Store.empty strSessionId = some value → value = 1

theorem TetheringCall.not_appends_self (call : TetheringCall) {after : TetheringOutcome}
    (h : after.listAbonRule = call.listAbonRule) : ¬ call.AppendsRedirect after := by
  rintro ⟨rule, hlist, -⟩
  rw [h] at hlist
  simpa using congrArg List.length hlist

/-- What a report does for a map in which sessions are recorded as one. -/
theorem report_cases (call : TetheringCall) (ones : RecordedAsOne pmapTethering) :
    let map := pmapTethering.getD Store.empty
    let after := call.report pmapTethering
    (call.flag = none ∧ map call.strSessionId = none ∧ after.pmapTethering = some map ∧
      ¬ call.AppendsRedirect after) ∨
    (call.flag = none ∧ map call.strSessionId = some 1 ∧ after.pmapTethering = some map ∧
      call.AppendsRedirect after) ∨
    (call.flag = some 0 ∧ map call.strSessionId = some 1 ∧
      after.pmapTethering = some (map.erase call.strSessionId) ∧ ¬ call.AppendsRedirect after) ∨
    (call.flag ≠ none ∧ (call.flag = some 0 → map call.strSessionId = none) ∧
      after.pmapTethering = some (map.set call.strSessionId 1) ∧ call.AppendsRedirect after) := by
  intro map after
  have hafter : after = pcrfProceraOperTheteringReport pmapTethering call.soRequestInfo
    call.listAbonRule call.vectActiveRule := rfl
  unfold pcrfProceraOperTheteringReport at hafter
  simp only at hafter
  split at hafter
  next hnone =>
    split at hafter
    next hnull =>
      refine .inl ⟨OtlValue.toOption_eq_none.mpr hnull, hnone, by rw [hafter], ?_⟩
      exact call.not_appends_self (by rw [hafter])
    next hpresent =>
      have hflag : call.flag = some call.soRequestInfo.soReqInfo.coTetheringFlag.v :=
        OtlValue.toOption_eq_some.mpr ⟨by simpa using hpresent, rfl⟩
      -- with or without the fall-through the session is recorded
      refine .inr (.inr (.inr ⟨by simp [hflag], fun _ => hnone, ?_, ?_⟩))
      · split at hafter <;> rw [hafter] <;> rfl
      · split at hafter <;> rw [hafter] <;> exact ⟨_, rfl, rfl, rfl⟩
  next value hvalue =>
    -- the session is recorded as one, so that the branch for a recorded zero is not taken
    obtain rfl := ones _ _ hvalue
    split at hafter
    next hnull =>
      rw [if_neg (by decide)] at hafter
      refine .inr (.inl ⟨OtlValue.toOption_eq_none.mpr hnull, hvalue, by rw [hafter], ?_⟩)
      rw [hafter]
      exact ⟨_, rfl, rfl, rfl⟩
    next hpresent =>
      have hflag : call.flag = some call.soRequestInfo.soReqInfo.coTetheringFlag.v :=
        OtlValue.toOption_eq_some.mpr ⟨by simpa using hpresent, rfl⟩
      split at hafter
      next hzero =>
        refine .inr (.inr (.inl ⟨hflag.trans (by rw [hzero]), hvalue, by rw [hafter]; rfl, ?_⟩))
        exact call.not_appends_self (by rw [hafter])
      next hset =>
        refine .inr (.inr (.inr ⟨by simp [hflag], ?_, by rw [hafter]; rfl, ?_⟩))
        · rintro hzero
          rw [hflag] at hzero
          exact absurd (Option.some_inj.mp hzero) hset
        · rw [hafter]
          exact ⟨_, rfl, rfl, rfl⟩

/-- A report keeps the entries as ones. -/
theorem recordedAsOne_report (call : TetheringCall) (ones : RecordedAsOne pmapTethering) :
    RecordedAsOne (call.report pmapTethering).pmapTethering := by
  intro strSessionId value hvalue
  rcases report_cases call ones with ⟨-, -, hmap, -⟩ | ⟨-, -, hmap, -⟩ | ⟨-, -, hmap, -⟩ |
    ⟨-, -, hmap, -⟩
  · rw [hmap] at hvalue
    exact ones _ _ hvalue
  · rw [hmap] at hvalue
    exact ones _ _ hvalue
  · rw [hmap, Option.getD_some, Store.erase_apply] at hvalue
    split at hvalue
    · cases hvalue
    · exact ones _ _ hvalue
  · rw [hmap, Option.getD_some] at hvalue
    by_cases hsession : strSessionId = call.strSessionId
    · rw [hsession, Store.set_self] at hvalue
      exact (Option.some_inj.mp hvalue).symm
    · rw [Store.set_of_ne hsession] at hvalue
      exact ones _ _ hvalue

/-- The rule is added exactly when the session is recorded afterwards. -/
theorem appendsRedirect_iff (call : TetheringCall) (ones : RecordedAsOne pmapTethering) :
    call.AppendsRedirect (call.report pmapTethering) ↔
      IsRecorded (call.report pmapTethering).pmapTethering call.strSessionId := by
  unfold IsRecorded
  rcases report_cases call ones with ⟨-, hbefore, hmap, happ⟩ | ⟨-, hbefore, hmap, happ⟩ |
    ⟨-, -, hmap, happ⟩ | ⟨-, -, hmap, happ⟩
  · simp [hmap, happ, hbefore]
  · simp [hmap, happ, hbefore]
  · simp [hmap, happ]
  · simp [hmap, happ]

/-- A report is about its own session only. -/
theorem isRecorded_report_of_ne (call : TetheringCall) (ones : RecordedAsOne pmapTethering)
    {strSessionId : String} (h : strSessionId ≠ call.strSessionId) :
    IsRecorded (call.report pmapTethering).pmapTethering strSessionId ↔
      IsRecorded pmapTethering strSessionId := by
  unfold IsRecorded
  rcases report_cases call ones with ⟨-, -, hmap, -⟩ | ⟨-, -, hmap, -⟩ | ⟨-, -, hmap, -⟩ |
    ⟨-, -, hmap, -⟩
  · rw [hmap, Option.getD_some]
  · rw [hmap, Option.getD_some]
  · rw [hmap, Option.getD_some, Store.erase_of_ne h]
  · rw [hmap, Option.getD_some, Store.set_of_ne h]

/-- Of its own session it makes what its flag says, except that a zero turns it over. -/
theorem isRecorded_report_self (call : TetheringCall) (ones : RecordedAsOne pmapTethering) :
    IsRecorded (call.report pmapTethering).pmapTethering call.strSessionId ↔
      (call.flag = none ∧ IsRecorded pmapTethering call.strSessionId) ∨
      (call.flag = some 0 ∧ ¬ IsRecorded pmapTethering call.strSessionId) ∨
      (call.flag ≠ none ∧ call.flag ≠ some 0) := by
  unfold IsRecorded
  rcases report_cases call ones with ⟨hflag, hbefore, hmap, -⟩ | ⟨hflag, hbefore, hmap, -⟩ |
    ⟨hflag, hbefore, hmap, -⟩ | ⟨hflag, hbefore, hmap, -⟩
  · simp [hmap, hflag, hbefore]
  · simp [hmap, hflag, hbefore]
  · simp [hmap, hflag, hbefore]
  · rw [hmap, Option.getD_some, Store.set_self]
    by_cases hzero : call.flag = some 0
    · simp [hzero, hbefore hzero]
    · simp [hzero, hflag]

end

/-! ### Runs -/

theorem recordedAsOne_run (calls : List TetheringCall) :
    RecordedAsOne (tetheringMachine.run calls) :=
  tetheringMachine.inv_run (fun _ _ h => by cases h)
    (fun _ call ones => recordedAsOne_report call ones) calls

/-- No zero comes for a session whose last flag was not set, or that had none. -/
def NoStrayZero (calls : List TetheringCall) : Prop :=
  ∀ front call, front ++ [call] <+: calls → call.flag = some 0 →
    LastFlagSet front call.strSessionId

/-- Every call of the run leaves what the flags say. -/
def AllFollowFlags (calls : List TetheringCall) : Prop :=
  ∀ front call, front ++ [call] <+: calls → FollowsFlags front call

/-- What the last flags are after one more call, for its own session. -/
theorem lastFlagSet_snoc_self (calls : List TetheringCall) (call : TetheringCall) :
    LastFlagSet (calls ++ [call]) call.strSessionId ↔
      (call.flag = none ∧ LastFlagSet calls call.strSessionId) ∨
      (call.flag ≠ none ∧ call.flag ≠ some 0) := by
  rw [LastFlagSet, lastWrite_snoc, TetheringCall.switches, if_pos rfl]
  cases call.flag with
  | none => simp [LastFlagSet]
  | some flag => simp

theorem lastFlagSet_snoc_of_ne (calls : List TetheringCall) {call : TetheringCall}
    {strSessionId : String} (h : strSessionId ≠ call.strSessionId) :
    LastFlagSet (calls ++ [call]) strSessionId ↔ LastFlagSet calls strSessionId := by
  rw [LastFlagSet, lastWrite_snoc, TetheringCall.switches, if_neg (Ne.symm h), Option.none_or]
  rfl

/-- After calls that left the map as the flags say, one more does so unless it brings a zero for a
session that is not recorded. -/
theorem followsFlags_iff {calls : List TetheringCall}
    (before : ∀ strSessionId, IsRecorded (tetheringMachine.run calls) strSessionId ↔
      LastFlagSet calls strSessionId) (call : TetheringCall) :
    FollowsFlags calls call ↔
      (call.flag = some 0 → LastFlagSet calls call.strSessionId) := by
  have ones := recordedAsOne_run calls
  have next : tetheringMachine.run (calls ++ [call]) =
      (call.report (tetheringMachine.run calls)).pmapTethering := tetheringMachine.run_snoc ..
  have self := isRecorded_report_self call ones
  rw [← next, before] at self
  constructor
  · intro follows hzero
    -- after a zero the session is recorded exactly if it was not before
    have recorded := self.symm.trans (follows.recorded call.strSessionId)
    rw [lastFlagSet_snoc_self] at recorded
    simpa [hzero] using recorded
  · intro condition
    refine ⟨fun strSessionId => ?_, by rw [next]; exact appendsRedirect_iff call ones⟩
    by_cases hsession : strSessionId = call.strSessionId
    · rw [hsession, self, lastFlagSet_snoc_self]
      by_cases hzero : call.flag = some 0
      · simp [hzero, condition hzero]
      · simp [hzero]
    · rw [next, isRecorded_report_of_ne call ones hsession, before,
        lastFlagSet_snoc_of_ne calls hsession]

theorem AllFollowFlags.recorded {calls : List TetheringCall} (h : AllFollowFlags calls)
    (strSessionId : String) :
    IsRecorded (tetheringMachine.run calls) strSessionId ↔ LastFlagSet calls strSessionId := by
  cases calls using List.reverseRecOn with
  | nil => exact iff_of_false (fun h => by cases h) (fun h => by cases h)
  | append_singleton calls call => exact (h calls call List.prefix_rfl).recorded strSessionId

/-- Every call follows the flags exactly when no zero comes for a session that is not recorded. -/
theorem allFollowFlags_iff (calls : List TetheringCall) :
    AllFollowFlags calls ↔ NoStrayZero calls := by
  -- the calls of a longer run are those of the run and the last one
  have split {P : List TetheringCall → TetheringCall → Prop} (calls : List TetheringCall)
      (last : TetheringCall) :
      (∀ front call, front ++ [call] <+: calls ++ [last] → P front call) ↔
        (∀ front call, front ++ [call] <+: calls → P front call) ∧ P calls last := by
    constructor
    · intro h
      exact ⟨fun front call pre => h front call (pre.trans (List.prefix_append ..)),
        h calls last List.prefix_rfl⟩
    · rintro ⟨h, hlast⟩ front call pre
      rcases List.prefix_concat_iff.mp pre with heq | pre
      · obtain ⟨rfl, hcall⟩ := List.append_inj' heq rfl
        exact List.singleton_inj.mp hcall ▸ hlast
      · exact h front call pre
  induction calls using List.reverseRecOn with
  | nil => exact iff_of_true (by simp [AllFollowFlags]) (by simp [NoStrayZero])
  | append_singleton calls call ih =>
    unfold AllFollowFlags NoStrayZero
    rw [split, split]
    constructor
    · rintro ⟨follow, last⟩
      exact ⟨ih.mp follow, (followsFlags_iff (AllFollowFlags.recorded follow) call).mp last⟩
    · rintro ⟨stray, last⟩
      have follow := ih.mpr stray
      exact ⟨follow, (followsFlags_iff (AllFollowFlags.recorded follow) call).mpr last⟩

/-- One zero for a session that nobody knows. -/
theorem not_allFollowFlags : ¬ ∀ calls, AllFollowFlags calls := by
  intro all
  let call : TetheringCall :=
    { soRequestInfo :=
        { soSessInfo := { uiPeerDialect := .gxProcera, strSessionId := "procera;1" }
          soReqInfo := { coTetheringFlag := .of 0 } } }
  have follows := all [call] [] call List.prefix_rfl
  have recorded : IsRecorded (tetheringMachine.run [call]) "procera;1" := rfl
  have last := (follows.recorded "procera;1").mp recorded
  cases last

end Pcrf
