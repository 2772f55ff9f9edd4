import Pcrf.Lib.LastWrite
import Pcrf.MonitKeys

/-!
Submitting usage records again after an exception. The answers of the database are written into
the records, and entered into the map of monitoring keys, while the attempt can still fail.
-/

namespace Pcrf

open Lib

/-! ### The calls of an attempt -/

/-- What the database sees of a record. -/
structure UsageSubmission where
  monitoringKey : Option String
  inputOctets : Option UInt64
  outputOctets : Option UInt64
  totalOctets : Option UInt64
  deriving Repr, DecidableEq

def SSessionUsageInfo.submission (usage : SSessionUsageInfo) : UsageSubmission :=
  ⟨usage.coMonitoringKey.toOption, usage.coCCInputOctets.toOption,
    usage.coCCOutputOctets.toOption, usage.coCCTotalOctets.toOption⟩

/-- The answers of `ps.qm.ProcessQuota` in an attempt, for the record at a place. -/
abbrev QuotaAnswers := Nat → UsageSubmission → Except Failure (Grant × Int)

/-- A call of `ps.qm.ProcessQuota`: the place of the record, the key that its answer is kept
under, and what is submitted. -/
structure UsageCall where
  place : Nat
  key : String
  submission : UsageSubmission
  deriving Repr, DecidableEq

/-- The calls for the records from a place on, up to one that fails. -/
def usageCalls (answers : QuotaAnswers) : Nat → List SSessionUsageInfo → List UsageCall
  | _, [] => []
  | i, usage :: rest =>
    if usage.hasUsage then
      ⟨i, usage.coMonitoringKey.v, usage.submission⟩ ::
        match answers i usage.submission with
        | .error _ => []
        | .ok _ => usageCalls answers (i + 1) rest
    else usageCalls answers (i + 1) rest

/-- An answer that was returned. -/
structure UsageReturn where
  call : UsageCall
  grant : Grant
  updateRule : Int

def UsageCall.answer (answers : QuotaAnswers) (call : UsageCall) : Option UsageReturn :=
  match answers call.place call.submission with
  | .ok (grant, updateRule) => some ⟨call, grant, updateRule⟩
  | .error _ => none

def UsageCall.failure (answers : QuotaAnswers) (call : UsageCall) : Option Failure :=
  match answers call.place call.submission with
  | .ok _ => none
  | .error failure => some failure

/-- The answers to calls. -/
def returns (answers : QuotaAnswers) (calls : List UsageCall) : List UsageReturn :=
  calls.filterMap (UsageCall.answer answers)

/-- The exception that ends the calls. -/
def callsFailure (answers : QuotaAnswers) (calls : List UsageCall) : Option Failure :=
  calls.findSome? (UsageCall.failure answers)

/-- The record with what is left of its quotas in place of its counters. -/
def SSessionUsageInfo.granted (usage : SSessionUsageInfo) (grant : Grant) : SSessionUsageInfo :=
  { usage with
    coCCInputOctets := grant.inputOctets
    coCCOutputOctets := grant.outputOctets
    coCCTotalOctets := grant.totalOctets }

@[simp] theorem SSessionUsageInfo.granted_coMonitoringKey (usage : SSessionUsageInfo)
    (grant : Grant) : (usage.granted grant).coMonitoringKey = usage.coMonitoringKey := rfl

/-- The records after the calls for them. -/
def recordsAfter (answers : QuotaAnswers) : Nat → List SSessionUsageInfo → List SSessionUsageInfo
  | _, [] => []
  | i, usage :: rest =>
    if usage.hasUsage then
      match answers i usage.submission with
      | .error _ => usage :: rest
      | .ok (grant, _) => usage.granted grant :: recordsAfter answers (i + 1) rest
    else usage :: recordsAfter answers (i + 1) rest

/-- What is kept of an answer. -/
def UsageReturn.info (ret : UsageReturn) : SDBMonitoringInfo where
  isReported := true
  coDosageInputOctets := ret.grant.inputOctets
  coDosageOutputOctets := ret.grant.outputOctets
  coDosageTotalOctets := ret.grant.totalOctets

def MonitInfoMap.keep (mapMonitInfo : MonitInfoMap) (rets : List UsageReturn) : MonitInfoMap :=
  rets.foldl (fun map ret => map.insert ret.call.key ret.info) mapMonitInfo

/-- `p_iUpdateRule` after answers. -/
def updateRuleAfter (iUpdateRule : Int) (rets : List UsageReturn) : Int :=
  if rets.any (·.updateRule ≠ 0) then 1 else iUpdateRule

section Loop

variable {answers : QuotaAnswers}

/-- The outcome of an attempt, by its answers and what else it meets. -/
def QuotaAnswers.outcome (answers : QuotaAnswers) (opening committing closing : Option Failure) :
    UsageOutcome where
  opening := opening
  processQuota := fun i usage => answers i usage.submission
  committing := committing
  closing := closing

theorem usageCalls_of_ok {i : Nat} {usage : SSessionUsageInfo} {rest : List SSessionUsageInfo}
    {answer : Grant × Int} (hu : usage.hasUsage = true)
    (ha : answers i usage.submission = .ok answer) :
    usageCalls answers i (usage :: rest) =
      ⟨i, usage.coMonitoringKey.v, usage.submission⟩ :: usageCalls answers (i + 1) rest := by
  simp only [usageCalls, hu, if_true, ha]

theorem usageCalls_of_error {i : Nat} {usage : SSessionUsageInfo}
    {rest : List SSessionUsageInfo} {failure : Failure} (hu : usage.hasUsage = true)
    (ha : answers i usage.submission = .error failure) :
    usageCalls answers i (usage :: rest) =
      [⟨i, usage.coMonitoringKey.v, usage.submission⟩] := by
  simp only [usageCalls, hu, if_true, ha]

theorem usageCalls_of_idle {i : Nat} {usage : SSessionUsageInfo}
    {rest : List SSessionUsageInfo} (hu : usage.hasUsage = false) :
    usageCalls answers i (usage :: rest) = usageCalls answers (i + 1) rest := by
  simp [usageCalls, hu]

theorem returns_of_ok {i : Nat} {usage : SSessionUsageInfo} {rest : List SSessionUsageInfo}
    {grant : Grant} {updateRule : Int} (hu : usage.hasUsage = true)
    (ha : answers i usage.submission = .ok (grant, updateRule)) :
    returns answers (usageCalls answers i (usage :: rest)) =
      ⟨⟨i, usage.coMonitoringKey.v, usage.submission⟩, grant, updateRule⟩ ::
        returns answers (usageCalls answers (i + 1) rest) := by
  rw [usageCalls_of_ok hu ha]
  simp [returns, UsageCall.answer, ha]

theorem callsFailure_of_ok {i : Nat} {usage : SSessionUsageInfo}
    {rest : List SSessionUsageInfo} {answer : Grant × Int} (hu : usage.hasUsage = true)
    (ha : answers i usage.submission = .ok answer) :
    callsFailure answers (usageCalls answers i (usage :: rest)) =
      callsFailure answers (usageCalls answers (i + 1) rest) := by
  rw [usageCalls_of_ok hu ha]
  simp [callsFailure, UsageCall.failure, ha]

theorem recordsAfter_of_ok {i : Nat} {usage : SSessionUsageInfo} {grant : Grant}
    {updateRule : Int} (hu : usage.hasUsage = true)
    (ha : answers i usage.submission = .ok (grant, updateRule))
    (rest : List SSessionUsageInfo) :
    recordsAfter answers i (usage :: rest) =
      usage.granted grant :: recordsAfter answers (i + 1) rest := by
  simp only [recordsAfter, hu, if_true, ha]

/-- The records from one that fails on stay as they were reported. -/
theorem recordsAfter_of_error {i : Nat} {usage : SSessionUsageInfo} {failure : Failure}
    (hu : usage.hasUsage = true) (ha : answers i usage.submission = .error failure)
    (rest : List SSessionUsageInfo) :
    recordsAfter answers i (usage :: rest) = usage :: rest := by
  simp only [recordsAfter, hu, if_true, ha]

theorem recordsAfter_of_idle {i : Nat} {usage : SSessionUsageInfo}
    (hu : usage.hasUsage = false) (rest : List SSessionUsageInfo) :
    recordsAfter answers i (usage :: rest) = usage :: recordsAfter answers (i + 1) rest := by
  simp [recordsAfter, hu]

theorem updateRuleAfter_cons (iUpdateRule : Int) (ret : UsageReturn) (rets : List UsageReturn) :
    updateRuleAfter iUpdateRule (ret :: rets) =
      updateRuleAfter (if ret.updateRule = 0 then iUpdateRule else 1) rets := by
  by_cases h : ret.updateRule = 0 <;> simp [updateRuleAfter, h]

/-- The state after the answer for the record at a place. -/
def UsageState.answered (st : UsageState) (usage : SSessionUsageInfo) (ret : UsageReturn) :
    UsageState :=
  { st with
    mapMonitInfo := st.mapMonitInfo.insert ret.call.key ret.info
    vectUsageInfo := st.vectUsageInfo.set ret.call.place (usage.granted ret.grant)
    iUpdateRule := if ret.updateRule = 0 then st.iUpdateRule else 1
    pending := st.pending ++ [usage] }

section Step

variable {opening committing closing : Option Failure} {st : UsageState} {i : Nat}
  {usage : SSessionUsageInfo}

theorem usageStep_of_idle (here : st.vectUsageInfo[i]? = some usage)
    (hu : usage.hasUsage = false) :
    usageStep (answers.outcome opening committing closing) i st = (st, none) := by
  simp [usageStep, here, hu]

theorem usageStep_of_error {failure : Failure} (here : st.vectUsageInfo[i]? = some usage)
    (hu : usage.hasUsage = true) (ha : answers i usage.submission = .error failure) :
    usageStep (answers.outcome opening committing closing) i st = (st, some failure) := by
  simp [usageStep, here, hu, QuotaAnswers.outcome, ha]

theorem usageStep_of_ok {grant : Grant} {updateRule : Int}
    (here : st.vectUsageInfo[i]? = some usage) (hu : usage.hasUsage = true)
    (ha : answers i usage.submission = .ok (grant, updateRule)) :
    usageStep (answers.outcome opening committing closing) i st =
      (st.answered usage
        ⟨⟨i, usage.coMonitoringKey.v, usage.submission⟩, grant, updateRule⟩, none) := by
  simp [usageStep, here, hu, QuotaAnswers.outcome, ha, UsageState.answered, UsageReturn.info,
    SSessionUsageInfo.granted]

end Step

/-- The steps for the records that are left. -/
theorem usageSteps_eq (answers : QuotaAnswers) (opening committing closing : Option Failure)
    (front rest : List SSessionUsageInfo) (st : UsageState)
    (hvect : st.vectUsageInfo = front ++ rest) :
    ∃ pending,
      Attempt.forEach (usageStep (answers.outcome opening committing closing))
          (List.range' front.length rest.length) st =
        ({ mapMonitInfo :=
             st.mapMonitInfo.keep (returns answers (usageCalls answers front.length rest))
           vectUsageInfo := front ++ recordsAfter answers front.length rest
           iUpdateRule := updateRuleAfter st.iUpdateRule
             (returns answers (usageCalls answers front.length rest))
           pending := pending
           charged := st.charged },
         callsFailure answers (usageCalls answers front.length rest)) := by
  -- each step moves one record to the front
  induction rest generalizing front st with
  | nil =>
    refine ⟨st.pending, ?_⟩
    simp only [List.append_nil] at hvect
    simp [Attempt.forEach, Attempt.throwing, usageCalls, returns, callsFailure, recordsAfter,
      MonitInfoMap.keep, updateRuleAfter, ← hvect]
  | cons usage rest ih =>
    have here : st.vectUsageInfo[front.length]? = some usage := by simp [hvect]
    rw [List.length_cons, List.range'_succ, Attempt.forEach]
    cases hu : usage.hasUsage with
    | false =>
      obtain ⟨pending, heq⟩ := ih (front ++ [usage]) st (by simp [hvect])
      rw [List.length_append, List.length_singleton] at heq
      refine ⟨pending, ?_⟩
      rw [Attempt.andThen_of_none (usageStep_of_idle here hu), heq, usageCalls_of_idle hu]
      simp [recordsAfter_of_idle hu]
    | true =>
      cases ha : answers front.length usage.submission with
      | error failure =>
        refine ⟨st.pending, ?_⟩
        rw [usageCalls_of_error hu ha]
        simp [Attempt.andThen, usageStep_of_error here hu ha, recordsAfter_of_error hu ha, ha,
          returns, callsFailure, UsageCall.answer, UsageCall.failure, MonitInfoMap.keep,
          updateRuleAfter, ← hvect]
      | ok answer =>
        obtain ⟨grant, updateRule⟩ := answer
        let ret : UsageReturn :=
          ⟨⟨front.length, usage.coMonitoringKey.v, usage.submission⟩, grant, updateRule⟩
        have records : (st.answered usage ret).vectUsageInfo =
            front ++ [usage.granted grant] ++ rest := by
          simp [UsageState.answered, ret, hvect]
        obtain ⟨pending, heq⟩ := ih _ _ records
        rw [List.length_append, List.length_singleton] at heq
        refine ⟨pending, ?_⟩
        rw [Attempt.andThen_of_none (usageStep_of_ok here hu ha), heq, returns_of_ok hu ha,
          callsFailure_of_ok hu ha, updateRuleAfter_cons]
        simp [recordsAfter_of_ok hu ha, UsageState.answered, SSessionUsageInfo.granted,
          MonitInfoMap.keep, ret]

/-- An attempt whose connection and stream open. -/
theorem usageAttempt_of_opened (answers : QuotaAnswers) (committing closing : Option Failure)
    (st : UsageState) : ∃ pending charged,
    usageAttempt (answers.outcome none committing closing) st =
      ({ mapMonitInfo :=
           st.mapMonitInfo.keep (returns answers (usageCalls answers 0 st.vectUsageInfo))
         vectUsageInfo := recordsAfter answers 0 st.vectUsageInfo
         iUpdateRule := updateRuleAfter st.iUpdateRule
           (returns answers (usageCalls answers 0 st.vectUsageInfo))
         pending := pending
         charged := charged },
       (callsFailure answers (usageCalls answers 0 st.vectUsageInfo)).or
         (committing.or closing)) := by
  obtain ⟨pending, heq⟩ := usageSteps_eq answers none committing closing [] st.vectUsageInfo st rfl
  rw [List.length_nil, ← List.range_eq_range'] at heq
  simp only [usageAttempt, rollback, Attempt.andThen, Attempt.throwing, QuotaAnswers.outcome,
    commit] at heq ⊢
  rw [heq]
  cases callsFailure answers (usageCalls answers 0 st.vectUsageInfo) with
  | some failure => exact ⟨[], st.charged, rfl⟩
  | none =>
    cases committing with
    | some failure => exact ⟨[], st.charged, rfl⟩
    | none =>
      cases closing with
      | some failure => exact ⟨[], st.charged ++ pending, rfl⟩
      | none => exact ⟨[], st.charged ++ pending, rfl⟩

theorem usageAttempt_of_not_opened (answers : QuotaAnswers) (failure : Failure)
    (committing closing : Option Failure) (st : UsageState) :
    usageAttempt (answers.outcome (some failure) committing closing) st =
      ({ st with pending := [] }, some failure) := rfl

theorem pcrfDbSessionUsage_of_hasUsage (query : UsageQuery) (subscriberId : String)
    {st : UsageState} (h : st.vectUsageInfo.any (·.hasUsage) = true) :
    (pcrfDbSessionUsage query subscriberId st).2 =
      (Attempt.repeatOnce (fun k => usageAttempt (query subscriberId k)) st).1 := by
  simp only [pcrfDbSessionUsage, h, Bool.not_true, Bool.false_eq_true, if_false]
  split
  next heq => rw [heq]
  next heq => rw [heq]

theorem usageCalls_of_all_idle {i : Nat} {records : List SSessionUsageInfo}
    (h : ∀ usage ∈ records, usage.hasUsage = false) : usageCalls answers i records = [] := by
  induction records generalizing i with
  | nil => rfl
  | cons usage rest ih =>
    obtain ⟨hu, hrest⟩ := List.forall_mem_cons.mp h
    rw [usageCalls_of_idle hu, ih hrest]

end Loop

/-! ### An attempt that is made again -/

/-- A submission whose first attempt fails at a record, after which the connection comes back. -/
structure UsageRetry where
  strSubscriberId : String
  mapMonitInfo : MonitInfoMap
  sorted : mapMonitInfo.Sorted
  vectUsageInfo : List SSessionUsageInfo
  iUpdateRule : Int
  first : QuotaAnswers
  second : QuotaAnswers
  /-- What else the second attempt meets. -/
  opening : Option Failure
  committing : Option Failure
  closing : Option Failure
  failure : Failure
  fails : callsFailure first (usageCalls first 0 vectUsageInfo) = some failure
  restored : failure.restored = true

/-- The quotas are those of the grant. -/
def SDBMonitoringInfo.Has (info : SDBMonitoringInfo) (grant : Grant) : Prop :=
  info.coDosageInputOctets.toOption = grant.inputOctets.toOption ∧
    info.coDosageOutputOctets.toOption = grant.outputOctets.toOption ∧
    info.coDosageTotalOctets.toOption = grant.totalOctets.toOption

/-- What is left of the quotas is just what was submitted as used. -/
def UsageReturn.Repeats (ret : UsageReturn) : Prop :=
  ret.grant.inputOctets.toOption = ret.call.submission.inputOctets ∧
    ret.grant.outputOctets.toOption = ret.call.submission.outputOctets ∧
    ret.grant.totalOctets.toOption = ret.call.submission.totalOctets

/-- The values that were returned last for a key. -/
def lastGrant (key : String) (rets : List UsageReturn) : Option Grant :=
  lastWrite (fun ret => if ret.call.key = key then some ret.grant else none) rets

namespace UsageRetry

variable (r : UsageRetry)

def start : UsageState :=
  { mapMonitInfo := r.mapMonitInfo
    vectUsageInfo := r.vectUsageInfo
    iUpdateRule := r.iUpdateRule }

def query : UsageQuery := fun _ attempt =>
  if attempt = 0 then r.first.outcome none none none
  else r.second.outcome r.opening r.committing r.closing

/-- The state that the second attempt starts from. -/
def again : UsageState := (usageAttempt (r.query r.strSubscriberId 0) r.start).1

def retried : UsageState × Option Failure :=
  usageAttempt (r.query r.strSubscriberId 1) r.again

/-- What is left when the call returns. -/
def final : UsageState := (pcrfDbSessionUsage r.query r.strSubscriberId r.start).2

/-- The calls that a second attempt makes for records; none when it cannot begin. -/
def secondCalls (vectUsageInfo : List SSessionUsageInfo) : List UsageCall :=
  if r.opening.isSome then [] else usageCalls r.second 0 vectUsageInfo

/-- The answers to the attempts, had both been made for the reported records. -/
def firstReturns : List UsageReturn := returns r.first (usageCalls r.first 0 r.vectUsageInfo)

def secondReturns : List UsageReturn := returns r.second (r.secondCalls r.vectUsageInfo)

/-- The second attempt submits the reported records, and when it succeeds the map and the flag
come from it alone. -/
structure LeavesNoTrace : Prop where
  submits : r.secondCalls r.again.vectUsageInfo = r.secondCalls r.vectUsageInfo
  quotas : r.retried.2 = none → ∀ key grant,
    lastGrant key (returns r.second (r.secondCalls r.again.vectUsageInfo)) = some grant →
    ∃ info, r.final.mapMonitInfo.find key = some info ∧ info.Has grant
  rule : r.retried.2 = none →
    r.final.iUpdateRule = updateRuleAfter r.iUpdateRule
      (returns r.second (r.secondCalls r.again.vectUsageInfo))

/-- The second attempt meets no exception, when it is for the reported records. -/
structure Succeeds : Prop where
  opening : r.opening = none
  calls : callsFailure r.second (r.secondCalls r.vectUsageInfo) = none
  committing : r.committing = none
  closing : r.closing = none

/-- The entry that is in the map first. -/
def firstInfo (key : String) : Option SDBMonitoringInfo :=
  (r.mapMonitInfo.find key).or
    (((r.firstReturns ++ r.secondReturns).find? (·.call.key = key)).map UsageReturn.info)

/-- What the first attempt has left behind is what the second one would make. -/
structure Harmless : Prop where
  /-- A record that the second attempt comes to was answered with its own counters. -/
  counters : ∀ ret ∈ r.firstReturns,
    ret.call.place ∈ (r.secondCalls r.vectUsageInfo).map UsageCall.place → ret.Repeats
  /-- Of a key that is answered, the first entry has what is answered last. -/
  quotas : r.Succeeds → ∀ key grant, lastGrant key r.secondReturns = some grant →
    ∃ info, r.firstInfo key = some info ∧ info.Has grant
  /-- The rules were to be updated anyway. -/
  rule : r.Succeeds → (∃ ret ∈ r.firstReturns, ret.updateRule ≠ 0) →
    r.iUpdateRule = 1 ∨ ∃ ret ∈ r.secondReturns, ret.updateRule ≠ 0

end UsageRetry

section Calls

variable {answers second : QuotaAnswers}

theorem le_place_of_mem {i : Nat} {records : List SSessionUsageInfo} {call : UsageCall}
    (h : call ∈ usageCalls answers i records) : i ≤ call.place := by
  induction records generalizing i with
  | nil => cases h
  | cons usage rest ih =>
    unfold usageCalls at h
    split at h
    · rcases List.mem_cons.mp h with rfl | h
      · exact Nat.le_refl i
      · split at h
        · cases h
        · exact Nat.le_of_succ_le (ih h)
    · exact Nat.le_of_succ_le (ih h)

theorem mem_of_mem_returns {calls : List UsageCall} {ret : UsageReturn}
    (h : ret ∈ returns answers calls) : ret.call ∈ calls := by
  obtain ⟨call, hcall, hanswer⟩ := List.mem_filterMap.mp h
  unfold UsageCall.answer at hanswer
  split at hanswer
  · rw [Option.some_inj] at hanswer
    exact hanswer ▸ hcall
  · cases hanswer

theorem hasUsage_eq (usage : SSessionUsageInfo) :
    usage.hasUsage = ([usage.submission.inputOctets, usage.submission.outputOctets,
      usage.submission.totalOctets].any fun counter => counter.any (· ≠ 0)) := by
  have counter : ∀ o : OtlValue UInt64, nonZero o = o.toOption.any (· ≠ 0) := by
    intro o
    unfold nonZero OtlValue.toOption OtlValue.isNull
    cases o.null with
    | true => rfl
    | false => exact (decide_not.trans (congrArg _ (beq_eq_decide ..).symm)).symm
  simp only [SSessionUsageInfo.hasUsage, SSessionUsageInfo.submission, counter, List.any_cons,
    List.any_nil, Bool.or_false, Bool.or_assoc]

/-- Counters that are just those reported are submitted the same. -/
theorem granted_submission_iff (usage : SSessionUsageInfo) (i : Nat) (grant : Grant)
    (updateRule : Int) :
    (usage.granted grant).submission = usage.submission ↔
      UsageReturn.Repeats ⟨⟨i, usage.coMonitoringKey.v, usage.submission⟩, grant, updateRule⟩ := by
  simp [SSessionUsageInfo.granted, SSessionUsageInfo.submission, UsageReturn.Repeats]

/-- A record that reports traffic is submitted, whatever the answer. -/
theorem usageCalls_of_hasUsage (answers : QuotaAnswers) (i : Nat) {usage : SSessionUsageInfo}
    (hu : usage.hasUsage = true) (rest : List SSessionUsageInfo) :
    ∃ calls, usageCalls answers i (usage :: rest) =
      ⟨i, usage.coMonitoringKey.v, usage.submission⟩ :: calls := by
  cases ha : answers i usage.submission with
  | error failure => exact ⟨[], usageCalls_of_error hu ha⟩
  | ok answer => exact ⟨_, usageCalls_of_ok hu ha⟩

/-- The calls differ from the first one on when the record has other counters. -/
theorem usageCalls_granted_ne {i : Nat} {usage : SSessionUsageInfo} {grant : Grant}
    {rest after : List SSessionUsageInfo} (hu : usage.hasUsage = true)
    (h : (usage.granted grant).submission ≠ usage.submission) :
    usageCalls answers i (usage.granted grant :: after) ≠
      usageCalls answers i (usage :: rest) := by
  intro heq
  obtain ⟨calls, hcalls⟩ := usageCalls_of_hasUsage answers i hu rest
  rw [hcalls] at heq
  cases hg : (usage.granted grant).hasUsage with
  | true =>
    obtain ⟨calls', hcalls'⟩ := usageCalls_of_hasUsage answers i hg after
    rw [hcalls'] at heq
    exact h (congrArg UsageCall.submission (List.cons.inj heq).1)
  | false =>
    -- the record is passed over, and no other has its place
    rw [usageCalls_of_idle hg] at heq
    have hplace := le_place_of_mem (heq ▸ List.mem_cons_self)
    exact absurd hplace (Nat.not_succ_le_self i)

/-- An attempt after a first one makes the calls for the reported records exactly when every
record that it comes to was answered with its own counters. -/
theorem usageCalls_recordsAfter_iff (first second : QuotaAnswers) (i : Nat)
    (records : List SSessionUsageInfo) :
    usageCalls second i (recordsAfter first i records) = usageCalls second i records ↔
      ∀ ret ∈ returns first (usageCalls first i records),
        ret.call.place ∈ (usageCalls second i records).map UsageCall.place → ret.Repeats := by
  induction records generalizing i with
  | nil => simp [recordsAfter, usageCalls, returns]
  | cons usage rest ih =>
    cases hu : usage.hasUsage with
    | false =>
      rw [recordsAfter_of_idle hu, usageCalls_of_idle hu, usageCalls_of_idle hu,
        usageCalls_of_idle hu]
      exact ih (i + 1)
    | true =>
      cases ha : first i usage.submission with
      | error failure =>
        -- the first attempt ended here, and all the rest is as it was
        rw [recordsAfter_of_error hu ha, usageCalls_of_error hu ha]
        simp [returns, UsageCall.answer, ha]
      | ok answer =>
        obtain ⟨grant, updateRule⟩ := answer
        let ret : UsageReturn :=
          ⟨⟨i, usage.coMonitoringKey.v, usage.submission⟩, grant, updateRule⟩
        obtain ⟨calls, hcalls⟩ := usageCalls_of_hasUsage second i hu rest
        have here : ret.call.place ∈
            (usageCalls second i (usage :: rest)).map UsageCall.place := by
          rw [hcalls]
          exact List.mem_cons_self
        rw [recordsAfter_of_ok hu ha, returns_of_ok hu ha, List.forall_mem_cons]
        by_cases hrep : ret.Repeats
        · have same := (granted_submission_iff usage i grant updateRule).mpr hrep
          have hg : (usage.granted grant).hasUsage = true := by
            rw [hasUsage_eq, same, ← hasUsage_eq, hu]
          have later : ∀ ret' ∈ returns first (usageCalls first (i + 1) rest),
              ret'.call.place ≠ i := fun ret' hret' =>
            Nat.ne_of_gt (le_place_of_mem (mem_of_mem_returns hret'))
          cases hs : second i usage.submission with
          | error failure =>
            rw [usageCalls_of_error hu hs, usageCalls_of_error hg (same ▸ hs), same]
            simp only [List.map_cons, List.map_nil, List.mem_singleton]
            exact iff_of_true rfl ⟨fun _ => hrep, fun ret' hret' h => absurd h (later ret' hret')⟩
          | ok answer =>
            rw [usageCalls_of_ok hu hs, usageCalls_of_ok hg (same ▸ hs), same,
              SSessionUsageInfo.granted_coMonitoringKey, List.cons_inj_right, ih (i + 1),
              List.map_cons]
            refine ⟨fun h => ⟨fun _ => hrep, fun ret' hret' hplace => ?_⟩,
              fun h ret' hret' hplace => h.2 ret' hret' (List.mem_cons_of_mem i hplace)⟩
            exact h ret' hret' ((List.mem_cons.mp hplace).resolve_left (later ret' hret'))
        · refine iff_of_false (usageCalls_granted_ne hu fun same => hrep ?_) fun h =>
            hrep (h.1 here)
          exact (granted_submission_iff usage i grant updateRule).mp same

end Calls

section Keep

variable {mapMonitInfo : MonitInfoMap} {rets : List UsageReturn}

theorem MonitInfoMap.Sorted.keep (h : mapMonitInfo.Sorted) :
    (mapMonitInfo.keep rets).Sorted := by
  induction rets generalizing mapMonitInfo with
  | nil => exact h
  | cons ret rets ih => exact ih (h.insert ret.call.key ret.info)

/-- An answer is kept when the map has no entry for its key, and none came before it. -/
theorem MonitInfoMap.Sorted.find_keep (h : mapMonitInfo.Sorted) (key : String) :
    (mapMonitInfo.keep rets).find key =
      (mapMonitInfo.find key).or
        ((rets.find? fun ret => ret.call.key = key).map UsageReturn.info) := by
  induction rets generalizing mapMonitInfo with
  | nil => simp [MonitInfoMap.keep]
  | cons ret rets ih =>
    have step : mapMonitInfo.keep (ret :: rets) =
        (mapMonitInfo.insert ret.call.key ret.info).keep rets := rfl
    rw [step, ih (h.insert ret.call.key ret.info), h.find_insert, Option.or_assoc]
    congr 1
    by_cases hk : ret.call.key = key <;> simp [hk]

theorem MonitInfoMap.keep_append (mapMonitInfo : MonitInfoMap) (rets later : List UsageReturn) :
    mapMonitInfo.keep (rets ++ later) = (mapMonitInfo.keep rets).keep later :=
  List.foldl_append

theorem updateRuleAfter_append (iUpdateRule : Int) (rets later : List UsageReturn) :
    updateRuleAfter iUpdateRule (rets ++ later) =
      updateRuleAfter (updateRuleAfter iUpdateRule rets) later := by
  unfold updateRuleAfter
  rw [List.any_append]
  cases later.any (·.updateRule ≠ 0) <;> simp

/-- The flag is set by the first answers too. -/
theorem updateRuleAfter_append_iff (iUpdateRule : Int) (rets later : List UsageReturn) :
    updateRuleAfter iUpdateRule (rets ++ later) = updateRuleAfter iUpdateRule later ↔
      ((∃ ret ∈ rets, ret.updateRule ≠ 0) →
        iUpdateRule = 1 ∨ ∃ ret ∈ later, ret.updateRule ≠ 0) := by
  simp only [updateRuleAfter, List.any_append, Bool.or_eq_true, List.any_eq_true,
    decide_eq_true_eq]
  by_cases hl : ∃ ret ∈ later, ret.updateRule ≠ 0
  · simp [hl]
  · by_cases hr : ∃ ret ∈ rets, ret.updateRule ≠ 0
    · simp [hl, hr, eq_comm]
    · simp [hl, hr]

end Keep

namespace UsageRetry

variable (r : UsageRetry)

/-- The first attempt fails with the connection restored, and leaves its answers behind. -/
theorem first_eq : ∃ pending charged,
    usageAttempt (r.query r.strSubscriberId 0) r.start =
      ({ mapMonitInfo := r.mapMonitInfo.keep r.firstReturns
         vectUsageInfo := recordsAfter r.first 0 r.vectUsageInfo
         iUpdateRule := updateRuleAfter r.iUpdateRule r.firstReturns
         pending := pending
         charged := charged }, some r.failure) := by
  obtain ⟨pending, charged, heq⟩ := usageAttempt_of_opened r.first none none r.start
  refine ⟨pending, charged, heq.trans ?_⟩
  simp only [start, r.fails, Option.some_or, firstReturns]

theorem hasUsage_of_fails : r.vectUsageInfo.any (·.hasUsage) = true := by
  by_contra h
  have idle : ∀ usage ∈ r.vectUsageInfo, usage.hasUsage = false := by simpa using h
  have hcalls : usageCalls r.first 0 r.vectUsageInfo = [] := usageCalls_of_all_idle idle
  have hfails := r.fails
  rw [hcalls] at hfails
  cases hfails

/-- The second attempt decides. -/
theorem final_eq : r.final = r.retried.1 := by
  obtain ⟨pending, charged, heq⟩ := r.first_eq
  have restored : (usageAttempt (r.query r.strSubscriberId 0) r.start).2.any (·.restored) := by
    rw [heq]
    exact r.restored
  have hasUsage : r.start.vectUsageInfo.any (·.hasUsage) = true := r.hasUsage_of_fails
  rw [final, pcrfDbSessionUsage_of_hasUsage r.query r.strSubscriberId hasUsage,
    Attempt.repeatOnce_eq, if_pos restored]
  rfl

@[simp] theorem again_mapMonitInfo :
    r.again.mapMonitInfo = r.mapMonitInfo.keep r.firstReturns := by
  obtain ⟨pending, charged, heq⟩ := r.first_eq
  rw [again, heq]

@[simp] theorem again_vectUsageInfo :
    r.again.vectUsageInfo = recordsAfter r.first 0 r.vectUsageInfo := by
  obtain ⟨pending, charged, heq⟩ := r.first_eq
  rw [again, heq]

@[simp] theorem again_iUpdateRule :
    r.again.iUpdateRule = updateRuleAfter r.iUpdateRule r.firstReturns := by
  obtain ⟨pending, charged, heq⟩ := r.first_eq
  rw [again, heq]

theorem submits_iff :
    r.secondCalls r.again.vectUsageInfo = r.secondCalls r.vectUsageInfo ↔
      ∀ ret ∈ r.firstReturns,
        ret.call.place ∈ (r.secondCalls r.vectUsageInfo).map UsageCall.place → ret.Repeats := by
  rw [again_vectUsageInfo]
  unfold secondCalls
  cases r.opening with
  | some failure => simp
  | none => exact usageCalls_recordsAfter_iff r.first r.second 0 r.vectUsageInfo

/-- The second attempt when it is for the reported records. -/
theorem retried_eq (hopening : r.opening = none)
    (h : r.secondCalls r.again.vectUsageInfo = r.secondCalls r.vectUsageInfo) :
    r.retried.1.mapMonitInfo = r.mapMonitInfo.keep (r.firstReturns ++ r.secondReturns) ∧
      r.retried.1.iUpdateRule =
        updateRuleAfter r.iUpdateRule (r.firstReturns ++ r.secondReturns) ∧
      r.retried.2 = (callsFailure r.second (r.secondCalls r.vectUsageInfo)).or
        (r.committing.or r.closing) := by
  obtain ⟨pending, charged, heq⟩ := usageAttempt_of_opened r.second r.committing r.closing r.again
  have attempt : r.retried =
      usageAttempt (r.second.outcome none r.committing r.closing) r.again := by
    rw [← hopening]
    rfl
  have calls : usageCalls r.second 0 r.again.vectUsageInfo = r.secondCalls r.vectUsageInfo := by
    rw [← h]
    simp [secondCalls, hopening]
  rw [attempt, heq, calls, MonitInfoMap.keep_append, updateRuleAfter_append, again_mapMonitInfo,
    again_iUpdateRule]
  exact ⟨rfl, rfl, rfl⟩

theorem retried_none_iff
    (h : r.secondCalls r.again.vectUsageInfo = r.secondCalls r.vectUsageInfo) :
    r.retried.2 = none ↔ r.Succeeds := by
  cases hopening : r.opening with
  | some failure =>
    have failed : r.retried.2 = some failure := by
      have attempt : r.retried =
          usageAttempt (r.second.outcome (some failure) r.committing r.closing) r.again := by
        rw [← hopening]
        rfl
      rw [attempt, usageAttempt_of_not_opened]
    refine iff_of_false (by simp [failed]) fun succeeds => ?_
    rw [succeeds.opening] at hopening
    cases hopening
  | none =>
    obtain ⟨-, -, hfailure⟩ := r.retried_eq hopening h
    rw [hfailure, Option.or_eq_none_iff, Option.or_eq_none_iff]
    exact ⟨fun ⟨calls, committing, closing⟩ => ⟨hopening, calls, committing, closing⟩,
      fun succeeds => ⟨succeeds.calls, succeeds.committing, succeeds.closing⟩⟩

/-- A rolled back attempt leaves no trace exactly when it leaves what the attempt after it would
make. -/
theorem leavesNoTrace_iff : r.LeavesNoTrace ↔ r.Harmless := by
  constructor
  · intro h
    have succeeds := r.retried_none_iff h.submits
    refine ⟨r.submits_iff.mp h.submits, fun hs key grant hlast => ?_, fun hs => ?_⟩
    · obtain ⟨hmap, -, -⟩ := r.retried_eq hs.opening h.submits
      obtain ⟨info, hfind, hhas⟩ := h.quotas (succeeds.mpr hs) key grant (h.submits ▸ hlast)
      rw [final_eq, hmap, r.sorted.find_keep] at hfind
      exact ⟨info, hfind, hhas⟩
    · obtain ⟨-, hrule, -⟩ := r.retried_eq hs.opening h.submits
      have same := h.rule (succeeds.mpr hs)
      rw [final_eq, hrule, h.submits] at same
      exact (updateRuleAfter_append_iff ..).mp same
  · intro h
    have submits := r.submits_iff.mpr h.counters
    have succeeds := r.retried_none_iff submits
    refine ⟨submits, fun hnone key grant hlast => ?_, fun hnone => ?_⟩
    · have hs := succeeds.mp hnone
      obtain ⟨hmap, -, -⟩ := r.retried_eq hs.opening submits
      rw [submits] at hlast
      rw [final_eq, hmap, r.sorted.find_keep]
      exact h.quotas hs key grant hlast
    · have hs := succeeds.mp hnone
      obtain ⟨-, hrule, -⟩ := r.retried_eq hs.opening submits
      rw [final_eq, hrule, submits]
      exact (updateRuleAfter_append_iff ..).mpr (h.rule hs)

/-- A record of 100 octets is answered with 900 left, and the next record fails. -/
def answeredFirst : UsageRetry where
  strSubscriberId := "1"
  mapMonitInfo := []
  sorted := List.Pairwise.nil
  vectUsageInfo :=
    [{ coMonitoringKey := .of "gold", coCCTotalOctets := .of 100 },
     { coMonitoringKey := .of "silver", coCCTotalOctets := .of 50 }]
  iUpdateRule := 0
  first := fun i _ => if i = 0 then .ok (⟨.empty, .empty, .of 900⟩, 0) else .error ⟨3113, true⟩
  second := fun _ _ => .ok (⟨.empty, .empty, .of 900⟩, 0)
  opening := none
  committing := none
  closing := none
  failure := ⟨3113, true⟩
  fails := by decide
  restored := rfl

/-- The second attempt reports 900 octets as used, that were left. -/
theorem not_leavesNoTrace_answeredFirst : ¬answeredFirst.LeavesNoTrace := by
  intro h
  have submits := h.submits
  rw [again_vectUsageInfo] at submits
  exact absurd submits (by decide)

end UsageRetry

end Pcrf
