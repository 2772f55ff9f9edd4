import Pcrf.GatheringRuns

/-!
How often the usage records of a request are submitted to quota processing, over every
interleaving of the handler and its worker.
-/

namespace Pcrf

open Lib

/-! ### Submitting to the database -/

/-- Every call of the attempt succeeds. -/
structure UsageOutcome.Succeeds (outcome : UsageOutcome) : Prop where
  opening : outcome.opening = none
  processQuota : ∀ i usage, ∃ answer, outcome.processQuota i usage = .ok answer
  committing : outcome.committing = none
  closing : outcome.closing = none

/-- What the step for the record at a position does. -/
theorem usageStep_spec {outcome : UsageOutcome} (h : outcome.Succeeds) (i : Nat)
    (st : UsageState) :
    ∃ st', usageStep outcome i st = (st', none) ∧ st'.charged = st.charged ∧
      st'.pending = st.pending ++ st.vectUsageInfo[i]?.toList.filter (·.hasUsage) ∧
      ∀ j, i < j → st'.vectUsageInfo[j]? = st.vectUsageInfo[j]? := by
  simp only [usageStep]
  split
  next hnone => exact ⟨st, rfl, rfl, by simp [hnone], fun _ _ => rfl⟩
  next usage hsome =>
    cases hu : usage.hasUsage with
    | false => exact ⟨st, by simp, rfl, by simp [hsome, hu], fun _ _ => rfl⟩
    | true =>
      obtain ⟨answer, hanswer⟩ := h.processQuota i usage
      simp only [hanswer, Bool.not_true, Bool.false_eq_true, if_false]
      refine ⟨_, rfl, rfl, by simp [hsome, hu], fun j hj => ?_⟩
      exact List.getElem?_set_ne (Nat.ne_of_lt hj)

/-- The first `n` records have been submitted, the others not touched. -/
theorem usageSteps_spec {outcome : UsageOutcome} (h : outcome.Succeeds) (st : UsageState)
    (n : Nat) :
    ∃ st', Attempt.forEach (usageStep outcome) (List.range n) st = (st', none) ∧
      st'.charged = st.charged ∧
      st'.pending = st.pending ++ (st.vectUsageInfo.take n).filter (·.hasUsage) ∧
      ∀ j, n ≤ j → st'.vectUsageInfo[j]? = st.vectUsageInfo[j]? := by
  have hfold (items : List Nat) : Attempt.forEach (usageStep outcome) items st =
      (items.foldl (fun st i => (usageStep outcome i st).1) st, none) :=
    Attempt.forEach_of_none (fun i st => by
      obtain ⟨st', hstep, -⟩ := usageStep_spec h i st
      rw [hstep]) items st
  rw [hfold]
  refine ⟨_, rfl, ?_⟩
  induction n with
  | zero => simp
  | succ n ih =>
    -- the record at `n` is still as the request has brought it
    obtain ⟨hcharged, hpending, hrest⟩ := ih
    simp only [List.range_succ, List.foldl_append, List.foldl_cons, List.foldl_nil]
    obtain ⟨st', hstep, hcharged', hpending', hrest'⟩ := usageStep_spec h n
      ((List.range n).foldl (fun st i => (usageStep outcome i st).1) st)
    rw [hstep]
    refine ⟨hcharged'.trans hcharged, ?_, fun j hj => ?_⟩
    · rw [hpending', hpending, hrest n (Nat.le_refl n), List.take_add_one, List.filter_append,
        List.append_assoc]
    · exact (hrest' j hj).trans (hrest j (Nat.le_of_succ_le hj))

/-- A successful submission charges each record with usage, once. -/
theorem sessionUsage_charged {query : UsageQuery} {subscriberId : String}
    (h : (query subscriberId 0).Succeeds) {st : UsageState} (hp : st.pending = []) :
    (pcrfDbSessionUsage query subscriberId st).2.charged =
      st.charged ++ st.vectUsageInfo.filter (·.hasUsage) := by
  simp only [pcrfDbSessionUsage]
  cases hany : st.vectUsageInfo.any (·.hasUsage) with
  | false =>
    have hnil : st.vectUsageInfo.filter (·.hasUsage) = [] :=
      List.filter_eq_nil_iff.mpr fun usage hmem hu => by
        simpa [hu] using List.any_eq_false.mp hany usage hmem
    simp [hnil]
  | true =>
    obtain ⟨st', hsteps, hcharged, hpending, -⟩ :=
      usageSteps_spec h st st.vectUsageInfo.length
    have hattempt : usageAttempt (query subscriberId 0) st =
        ({ st' with pending := [], charged := st'.charged ++ st'.pending }, none) := by
      simp only [usageAttempt, rollback, Attempt.andThen, Attempt.throwing, h.opening, hsteps,
        h.committing, commit, h.closing]
    rw [Attempt.repeatOnce_eq, hattempt]
    simp [hcharged, hpending, hp]

/-! ### Submitting by either way -/

/-- The usage record of a statement. -/
def SqlStatement.usage? : SqlStatement → Option SSessionUsageInfo
  | .storeUsageInfoOffline _ usage => some usage
  | _ => none

/-- The records that have been submitted to quota processing, at once or by the queue. -/
def WorkerData.submitted (d : WorkerData) : List SSessionUsageInfo :=
  d.charged ++ d.sqlQueue.filterMap SqlStatement.usage?

/-- The database calls for usage records succeed. -/
def GatherCall.ChargingSucceeds (call : GatherCall) : Prop :=
  ∀ db, call.pcoDBConn = some db → ∀ subscriberId, (db.sessionUsage subscriberId 0).Succeeds

/-- Either way submits each record with usage, once. -/
theorem updateQuota_submitted {call : GatherCall}
    (hq : call.gathered.uiActionSet.updateQuota = true) {db : DbConnection}
    (h : ∀ subscriberId, (db.sessionUsage subscriberId 0).Succeeds) (offline : Bool) :
    (call.workerData.updateQuota db offline).submitted.filter (·.hasUsage) =
      call.soData.vectUsageInfo.filter (·.hasUsage) := by
  simp only [WorkerData.updateQuota, GatherCall.workerData, hq, Bool.not_true,
    Bool.false_eq_true, if_false]
  split
  · -- at once: what was pending is committed
    have hcharged : (pcrfDbSessionUsage db.sessionUsage call.soData.strSubscriberId
        { mapMonitInfo := [], vectUsageInfo := call.soData.vectUsageInfo }).2.charged =
        call.soData.vectUsageInfo.filter (·.hasUsage) :=
      sessionUsage_charged (h call.soData.strSubscriberId) rfl
    simp [WorkerData.submitted, hcharged]
  · -- by the queue: one statement for each record
    have hqueue (records : List SSessionUsageInfo) :
        (records.map (SqlStatement.storeUsageInfoOffline call.soData.strSubscriberId)).filterMap
          SqlStatement.usage? = records := by
      simp [List.filterMap_map, Function.comp_def, SqlStatement.usage?]
    simp [WorkerData.submitted, pcrfDbSessionUsageOffline, hqueue]

/-- Both threads have come to their end, or there is only one. -/
def GatherState.Complete (s : GatherState) : Prop :=
  s.returned.isSome = true ∧ (s.worker = .notCreated ∨ s.worker = .finished)

instance (s : GatherState) : Decidable s.Complete :=
  inferInstanceAs (Decidable (_ ∧ _))

/-- The worker got as far as submitting: a slot was free, the thread was created and the pool
gave it a connection. -/
def GatherCall.WorkerConnects (call : GatherCall) : Prop :=
  call.uiThreadCount < call.uiMaxCCRHandlers ∧ call.createCode = 0 ∧ call.pcoDBConn.isSome = true

/-- In every state that is reached, the records with usage are submitted or none of them is. -/
theorem run_submitted {call : GatherCall} (hq : call.gathered.uiActionSet.updateQuota = true)
    (hdb : call.ChargingSucceeds) (schedule : List Turn) :
    (call.machine.run schedule).data.submitted.filter (·.hasUsage) =
      if (call.machine.run schedule).worker.pastQuota && call.pcoDBConn.isSome then
        call.soData.vectUsageInfo.filter (·.hasUsage)
      else [] := by
  have hw := (gatherInv_run call schedule).worker
  cases hpast : (call.machine.run schedule).worker.pastQuota with
  | false =>
    rw [hw.early hpast]
    rfl
  | true =>
    cases hconn : call.pcoDBConn with
    | none =>
      -- past the quotas, but without having come to them
      rw [(hw.unconnected hconn).1]
      rfl
    | some db =>
      obtain ⟨offline, hcharged, hqueue⟩ := hw.charges db hconn hpast
      rw [WorkerData.submitted, hcharged, hqueue]
      exact updateQuota_submitted hq (hdb db hconn) offline

/-- A worker that was created has a phase of its own when both threads have ended. -/
theorem complete_finished_iff {call : GatherCall} {schedule : List Turn}
    (h : (call.machine.run schedule).Complete) :
    (call.machine.run schedule).worker = .finished ↔
      call.uiThreadCount < call.uiMaxCCRHandlers ∧ call.createCode = 0 := by
  obtain ⟨hreturned, hworker⟩ := h
  obtain ⟨code, hreturned⟩ := Option.isSome_iff_exists.mp hreturned
  cases (gatherInv_run call schedule).returns hreturned with
  | done _ hcode =>
    cases hcode with
    | inTime hl _ => exact iff_of_true (hworker.resolve_left hl.worker) ⟨hl.slot, hl.created⟩
    | timedOut hl => exact iff_of_true (hworker.resolve_left hl.worker) ⟨hl.slot, hl.created⟩
    | busy hb hn => exact iff_of_false (by simp [hn]) fun hslot => absurd hslot.1 (by omega)
  | createFailed hn hcode hne =>
    exact iff_of_false (by simp [hn]) fun hslot => hne (hcode.trans hslot.2)

/-- Each record with usage has been submitted exactly as often as the request carries it. -/
def ChargedOnce (call : GatherCall) (d : WorkerData) : Prop :=
  ∀ usage, usage.hasUsage = true →
    d.submitted.count usage = call.soData.vectUsageInfo.count usage

theorem count_filter_hasUsage {usage : SSessionUsageInfo} (h : usage.hasUsage = true)
    (records : List SSessionUsageInfo) :
    (records.filter (·.hasUsage)).count usage = records.count usage :=
  List.count_filter h

/-- No record is ever submitted twice. -/
theorem usage_charged_at_most_once {call : GatherCall}
    (hq : call.gathered.uiActionSet.updateQuota = true) (hdb : call.ChargingSucceeds)
    (schedule : List Turn) {usage : SSessionUsageInfo} (hu : usage.hasUsage = true) :
    (call.machine.run schedule).data.submitted.count usage ≤
      call.soData.vectUsageInfo.count usage := by
  rw [← count_filter_hasUsage hu, run_submitted hq hdb]
  split
  · rw [count_filter_hasUsage hu]
  · exact Nat.zero_le _

/-- When both threads have ended, every record has been charged once if and only if there was
nothing to charge or the worker got a slot, a thread and a connection. -/
theorem usage_charged_once_iff (call : GatherCall)
    (hq : call.gathered.uiActionSet.updateQuota = true) (hdb : call.ChargingSucceeds)
    (schedule : List Turn) (hc : (call.machine.run schedule).Complete) :
    ChargedOnce call (call.machine.run schedule).data ↔
      (∀ usage ∈ call.soData.vectUsageInfo, usage.hasUsage = false) ∨ call.WorkerConnects := by
  have hsubmitted := run_submitted hq hdb schedule
  have hfinished := complete_finished_iff hc
  by_cases hconnects : call.WorkerConnects
  · -- the worker has come past the step that submits
    refine iff_of_true (fun usage hu => ?_) (.inr hconnects)
    rw [hfinished.mpr ⟨hconnects.1, hconnects.2.1⟩, hconnects.2.2] at hsubmitted
    rw [← count_filter_hasUsage hu, hsubmitted]
    exact count_filter_hasUsage hu _
  · -- nothing has been submitted, so there must be nothing to submit
    have hnone : (call.machine.run schedule).data.submitted.filter (·.hasUsage) = [] := by
      rw [hsubmitted]
      refine if_neg fun hpast => hconnects ?_
      obtain ⟨hpast, hconn⟩ := (Bool.and_eq_true ..).mp hpast
      have hworker : (call.machine.run schedule).worker = .finished :=
        hc.2.resolve_left fun hn => absurd hpast (by simp [hn, WorkerPhase.pastQuota])
      exact ⟨(hfinished.mp hworker).1, (hfinished.mp hworker).2, hconn⟩
    simp only [hconnects, or_false]
    constructor
    · intro honce usage hmem
      refine Bool.eq_false_iff.mpr fun hu => ?_
      have hcount := honce usage hu
      rw [← count_filter_hasUsage hu, hnone] at hcount
      exact absurd (List.count_pos_iff.mpr hmem) (by simp [← hcount])
    · intro hall usage hu
      rw [← count_filter_hasUsage hu, hnone]
      refine (List.count_eq_zero.mpr fun hmem => ?_).symm
      exact absurd hu (by simp [hall usage hmem])

/-- A database that grants nothing more and knows no rules. -/
def plainDb : DbConnection where
  sessionUsage _ _ := { processQuota := fun _ _ => .ok (⟨.empty, .empty, .empty⟩, 0) }
  subRules _ _ := .answered "" none
  monitKey _ _ := { processQuota := fun _ => .ok ⟨.empty, .empty, .empty⟩ }

/-- An update that reports a thousand octets, when `busy` of `limit` handlers are taken. -/
def usageCall (busy limit : Nat) : GatherCall where
  uiMaxCCRHandlers := limit
  ruleCache := .empty
  uiThreadCount := busy
  pcoDBConn := some plainDb
  soData :=
    { i32CCRType := .updateRequest, strSubscriberId := "7", uiPeerDialect := .gxHwUgw
      vectUsageInfo := [{ coMonitoringKey := .of "k", coCCTotalOctets := .of 1000 }] }
  gathered := { uiActionSet := { updateQuota := true } }

theorem usageCall_succeeds (busy limit : Nat) : (usageCall busy limit).ChargingSucceeds := by
  intro db hdb subscriberId
  obtain rfl := Option.some.inj hdb
  exact ⟨rfl, fun _ _ => ⟨_, rfl⟩, rfl, rfl⟩

/-- With a free slot the usage is charged, although the handler does not wait for it. -/
theorem usage_charged_after_timeout :
    ChargedOnce (usageCall 0 1) ((usageCall 0 1).machine.run
      [.handler, .handler, .timeout, .handler, .handler, .handler, .worker, .worker, .worker,
        .worker, .worker]).data :=
  (usage_charged_once_iff (usageCall 0 1) rfl (usageCall_succeeds 0 1) _ (by decide)).mpr
    (.inr ⟨by decide, rfl, rfl⟩)

/-- Without one it is lost. -/
theorem usage_lost_when_busy :
    (usageCall 1 1).ChargingSucceeds ∧
      ((usageCall 1 1).machine.run [.handler, .handler, .handler]).Complete ∧
      ¬ ChargedOnce (usageCall 1 1)
        ((usageCall 1 1).machine.run [.handler, .handler, .handler]).data :=
  ⟨usageCall_succeeds 1 1, by decide, fun h =>
    absurd (h { coMonitoringKey := .of "k", coCCTotalOctets := .of 1000 } (by decide))
      (by decide)⟩

end Pcrf
