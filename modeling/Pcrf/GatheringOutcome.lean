import Pcrf.GatheringDeletion

/-!
What an interleaving of a handler and its worker leaves behind, in every state that it reaches:
the data that both threads use is deleted once and is not used afterwards, a handler that was
waited for has what its worker has collected, and one that was not has what it can get alone, as
long as the usage records it looks at are as the request has brought them.
-/

namespace Pcrf

open Lib

variable {call : GatherCall} {s : GatherState}

/-! ### Default quotas -/

/-- The default quota for a counter. -/
def defQuota (uiDefaultQuota : UInt64) (counter : OtlValue UInt64) : OtlValue UInt64 :=
  if counter.isNull then .empty else .of uiDefaultQuota

/-- The default quotas of a record, before the look at a counter. -/
def quotaBefore (uiDefaultQuota : UInt64) (usage : SSessionUsageInfo) :
    UsageCounter → SDBMonitoringInfo
  | .total => { isReported := true }
  | .output =>
    { isReported := true, coDosageTotalOctets := defQuota uiDefaultQuota usage.coCCTotalOctets }
  | .input =>
    { isReported := true
      coDosageTotalOctets := defQuota uiDefaultQuota usage.coCCTotalOctets
      coDosageOutputOctets := defQuota uiDefaultQuota usage.coCCOutputOctets }

/-- What is inserted for a record. -/
def quotaOf (uiDefaultQuota : UInt64) (usage : SSessionUsageInfo) : SDBMonitoringInfo :=
  { quotaBefore uiDefaultQuota usage .input with
    coDosageInputOctets := defQuota uiDefaultQuota usage.coCCInputOctets }

theorem loadDefQuota_snoc (uiDefaultQuota : UInt64) (before : List SSessionUsageInfo)
    (usage : SSessionUsageInfo) (mapMonitInfo : MonitInfoMap) :
    pcrfSubscriberDataLoadDefQuota uiDefaultQuota (before ++ [usage]) mapMonitInfo =
      (pcrfSubscriberDataLoadDefQuota uiDefaultQuota before mapMonitInfo).insert
        usage.coMonitoringKey.v (quotaOf uiDefaultQuota usage) := by
  simp only [pcrfSubscriberDataLoadDefQuota, List.foldl_append, List.foldl_cons, List.foldl_nil]
  rfl

/-- Whether the counter at a position is null. -/
def nullAt (vectUsageInfo : List SSessionUsageInfo) (place : Nat × UsageCounter) : Option Bool :=
  vectUsageInfo[place.1]?.map fun usage => (usage.counter place.2).isNull

/-- The keys and the nulls of the records decide about the default quotas. -/
theorem loadDefQuota_congr {before after : List SSessionUsageInfo}
    (hkeys : usageKeys before = usageKeys after)
    (hnulls : ∀ place, nullAt before place = nullAt after place) (uiDefaultQuota : UInt64)
    (mapMonitInfo : MonitInfoMap) :
    pcrfSubscriberDataLoadDefQuota uiDefaultQuota before mapMonitInfo =
      pcrfSubscriberDataLoadDefQuota uiDefaultQuota after mapMonitInfo := by
  have hload (records : List SSessionUsageInfo) :
      pcrfSubscriberDataLoadDefQuota uiDefaultQuota records mapMonitInfo =
        (records.map fun usage => (usage.coMonitoringKey.v, quotaOf uiDefaultQuota usage)).foldl
          (fun map entry => map.insert entry.1 entry.2) mapMonitInfo := by
    rw [List.foldl_map]
    rfl
  rw [hload, hload]
  congr 1
  refine List.ext_getElem? fun i => ?_
  have hkey : before[i]?.map (·.coMonitoringKey) = after[i]?.map (·.coMonitoringKey) := by
    simpa [usageKeys] using congrArg (fun keys => keys[i]?) hkeys
  have htotal := hnulls (i, .total)
  have houtput := hnulls (i, .output)
  have hinput := hnulls (i, .input)
  rw [List.getElem?_map, List.getElem?_map]
  cases hb : before[i]? with
  | none =>
    cases ha : after[i]? with
    | none => rfl
    | some usage' => simp [hb, ha] at hkey
  | some usage =>
    cases ha : after[i]? with
    | none => simp [hb, ha] at hkey
    | some usage' =>
      simp only [nullAt, hb, ha, Option.map_some, Option.some.injEq,
        SSessionUsageInfo.counter] at hkey htotal houtput hinput
      simp only [Option.map_some, quotaOf, quotaBefore, defQuota, hkey, htotal, houtput, hinput]

/-- The counters that the handler looks at in a step, to see whether they are null: all of them
when it runs through the loop, the one it has come to when it is in there. -/
def GatherCall.usageReads (call : GatherCall) (s : GatherState) (turn : Turn) :
    List (Nat × UsageCounter) :=
  match s.handler, turn with
  | .collect code, .handler =>
    if code != 0 && call.soData.i32CCRType == .updateRequest then
      (List.range s.vectUsageInfo.length).flatMap fun i =>
        [(i, .total), (i, .output), (i, .input)]
    else []
  | .loadDefQuota _ i counter _, .handler | .loadDefQuota _ i counter _, .enterDefQuota =>
    [(i, counter)]
  | _, _ => []

/-- Where the handler looks, the worker has written no null over a number and no number over a
null. -/
def GatherCall.Undisturbed (call : GatherCall) (s : GatherState) (turn : Turn) : Prop :=
  ∀ place ∈ call.usageReads s turn,
    nullAt s.vectUsageInfo place = nullAt call.soData.vectUsageInfo place

instance (call : GatherCall) (s : GatherState) (turn : Turn) :
    Decidable (call.Undisturbed s turn) :=
  inferInstanceAs (Decidable (∀ _ ∈ _, _))

/-- What a handler that falls back has so far, as if it were alone. -/
def FallbackOk (call : GatherCall) (s : GatherState) : Prop :=
  match s.handler with
  | .loadDefQuota _ i counter soMonitInfo =>
    s.gathered =
        { call.gathered with
          mapMonitInfo :=
            pcrfSubscriberDataLoadDefQuota call.uiDefaultQuota (call.soData.vectUsageInfo.take i)
              call.gathered.mapMonitInfo } ∧
      ∀ usage, call.soData.vectUsageInfo[i]? = some usage →
        soMonitInfo = quotaBefore call.uiDefaultQuota usage counter
  | .unlockCopied code | .done code =>
    code ≠ 0 → s.gathered = call.fallback call.soData.vectUsageInfo
  | _ => True

theorem FallbackOk.of_handler {s' : GatherState} (h : FallbackOk call s)
    (hhandler : s'.handler = s.handler) (hgathered : s'.gathered = s.gathered) :
    FallbackOk call s' := by
  simp only [FallbackOk, hhandler, hgathered]
  exact h

/-- The records that both threads see have the nulls of the request when every one of them was
looked at. -/
theorem fallback_congr {vectUsageInfo : List SSessionUsageInfo}
    (hkeys : usageKeys vectUsageInfo = usageKeys call.soData.vectUsageInfo)
    (hnulls : call.soData.i32CCRType = .updateRequest →
      ∀ place, nullAt vectUsageInfo place = nullAt call.soData.vectUsageInfo place) :
    call.fallback vectUsageInfo = call.fallback call.soData.vectUsageInfo := by
  simp only [GatherCall.fallback]
  split
  next => rfl
  next htype => rw [loadDefQuota_congr hkeys (hnulls htype)]
  next => rfl

/-- Positions behind the records have no counters. -/
theorem nullAt_of_keys {before after : List SSessionUsageInfo}
    (hkeys : usageKeys before = usageKeys after)
    (hnulls : ∀ place : Nat × UsageCounter, place.1 < before.length →
      nullAt before place = nullAt after place) (place : Nat × UsageCounter) :
    nullAt before place = nullAt after place := by
  have hlength : before.length = after.length := by
    simpa [usageKeys] using congrArg List.length hkeys
  rcases Nat.lt_or_ge place.1 before.length with hin | hout
  · exact hnulls place hin
  · simp [nullAt, List.getElem?_eq_none hout, List.getElem?_eq_none (hlength ▸ hout)]

/-- One step of the loop, at a counter that is null exactly if that of the request is. -/
theorem fallbackOk_readCounter (hg : GatherInv call s) (hu : UsageOk call s)
    (h : FallbackOk call s) {code : Int} {i : Nat} {counter : UsageCounter}
    {soMonitInfo : SDBMonitoringInfo} (hs : s.handler = .loadDefQuota code i counter soMonitInfo)
    (hnull : nullAt s.vectUsageInfo (i, counter) = nullAt call.soData.vectUsageInfo (i, counter)) :
    FallbackOk call (call.readCounter code i counter soMonitInfo s) := by
  have htype : call.soData.i32CCRType = .updateRequest := by
    have hh := hg.handler
    simp only [HandlerOk, hs] at hh
    exact hh.2.2.2.1
  simp only [FallbackOk, hs] at h
  obtain ⟨hgathered, hinfo⟩ := h
  simp only [GatherCall.readCounter]
  cases hi : s.vectUsageInfo[i]? with
  | none =>
    -- behind the last record
    have hend : call.soData.vectUsageInfo.length ≤ i := by
      simpa [nullAt, hi] using hnull.symm
    intro _
    simp only [hgathered, List.take_of_length_le hend, GatherCall.fallback, htype]
  | some usage' =>
    obtain ⟨usage, husage⟩ : ∃ usage, call.soData.vectUsageInfo[i]? = some usage := by
      cases hcall : call.soData.vectUsageInfo[i]? with
      | none => simp [nullAt, hi, hcall] at hnull
      | some usage => exact ⟨usage, rfl⟩
    have hquota : (if (usage'.counter counter).isNull = true then OtlValue.empty
        else .of call.uiDefaultQuota) = defQuota call.uiDefaultQuota (usage.counter counter) := by
      simp only [nullAt, hi, husage, Option.map_some, Option.some.injEq] at hnull
      rw [hnull, defQuota]
    have hsame := hinfo usage husage
    cases counter with
    | total =>
      refine ⟨hgathered, fun usage₁ husage₁ => ?_⟩
      obtain rfl := Option.some.inj (husage.symm.trans husage₁)
      rw [hquota, hsame]
      rfl
    | output =>
      refine ⟨hgathered, fun usage₁ husage₁ => ?_⟩
      obtain rfl := Option.some.inj (husage.symm.trans husage₁)
      rw [hquota, hsame]
      rfl
    | input =>
      -- the record is complete
      have hkey : usage'.coMonitoringKey = usage.coMonitoringKey := by
        have := congrArg (fun keys => keys[i]?) hu.keys
        simpa [usageKeys, hi, husage] using this
      refine ⟨?_, fun _ _ => rfl⟩
      dsimp only
      rw [hquota, hsame, hgathered, List.take_add_one, husage, Option.toList_some,
        loadDefQuota_snoc, hkey]
      rfl

theorem mem_usageReads {code : Int} (hs : s.handler = .collect code) (hne : code ≠ 0)
    (htype : call.soData.i32CCRType = .updateRequest) {place : Nat × UsageCounter}
    (hplace : place.1 < s.vectUsageInfo.length) : place ∈ call.usageReads s .handler := by
  simp only [GatherCall.usageReads, hs, htype, bne_iff_ne.mpr hne, BEq.rfl, Bool.and_self,
    if_true]
  refine List.mem_flatMap.mpr ⟨place.1, List.mem_range.mpr hplace, ?_⟩
  rcases place with ⟨i, _ | _ | _⟩ <;> simp

/-- A thread that does not enter the loop looks at what it would have looked at anyway. -/
theorem usageReads_enterDefQuota (call : GatherCall) (s : GatherState)
    (h : ∀ code, s.handler = .collect code →
      ¬ (code != 0 && call.soData.i32CCRType == .updateRequest) = true) :
    call.usageReads s .enterDefQuota = call.usageReads s .handler := by
  simp only [GatherCall.usageReads]
  cases hs : s.handler with
  | collect code => exact (if_neg (h code hs)).symm
  | _ => rfl

theorem fallbackOk_handler (hg : GatherInv call s) (hu : UsageOk call s) (h : FallbackOk call s)
    (hreads : call.Undisturbed s .handler) : FallbackOk call (call.stepHandler s) := by
  simp only [GatherCall.stepHandler]
  cases hs : s.handler with
  | enter | waitReady => dsimp only; split <;> simp only [FallbackOk, hs]
  | launch => dsimp only; split <;> trivial
  | release => trivial
  | collect code =>
    dsimp only
    split
    next hzero => exact fun hne => absurd hzero hne
    next hne =>
      exact fun _ => fallback_congr hu.keys fun htype => nullAt_of_keys hu.keys
        fun place hplace => hreads place (mem_usageReads hs hne htype hplace)
  | loadDefQuota code i counter soMonitInfo =>
    refine fallbackOk_readCounter hg hu h hs (hreads (i, counter) ?_)
    simp only [GatherCall.usageReads, hs, List.mem_singleton]
  | unlockCopied code =>
    simp only [FallbackOk, hs] at h
    exact h
  | done code => simpa only [FallbackOk, hs] using h
  | createFailed => simp only [FallbackOk, hs]

theorem fallbackOk_enterDefQuota (hg : GatherInv call s) (hu : UsageOk call s)
    (h : FallbackOk call s) (hreads : call.Undisturbed s .enterDefQuota) :
    FallbackOk call (call.enterDefQuota s) := by
  simp only [GatherCall.enterDefQuota]
  split
  next code hs =>
    split
    next =>
      -- nothing has been looked at
      have hh := hg.handler
      simp only [HandlerOk, hs] at hh
      exact ⟨hh.2.2, fun _ _ => rfl⟩
    next hcond =>
      refine fallbackOk_handler hg hu h ?_
      rwa [GatherCall.Undisturbed, ← usageReads_enterDefQuota call s]
      intro code' hs'
      obtain rfl := HandlerPhase.collect.inj (hs.symm.trans hs')
      exact hcond
  next hnot =>
    refine fallbackOk_handler hg hu h ?_
    rwa [GatherCall.Undisturbed, ← usageReads_enterDefQuota call s]
    exact fun code hs => absurd hs (hnot code)

theorem stepWorker_gathered (call : GatherCall) (s : GatherState) :
    (call.stepWorker s).gathered = s.gathered := by
  simp only [GatherCall.stepWorker]
  split <;> first | rfl | (split <;> rfl)

theorem enterSessionUsage_gathered (call : GatherCall) (s : GatherState) :
    (call.enterSessionUsage s).gathered = s.gathered := by
  simp only [GatherCall.enterSessionUsage]
  split
  next => split <;> first | rfl | exact stepWorker_gathered call s
  next => exact stepWorker_gathered call s

theorem fallbackOk_step (hg : GatherInv call s) (hu : UsageOk call s) (h : FallbackOk call s)
    {turn : Turn} (hreads : call.Undisturbed s turn) :
    FallbackOk call (call.machine.step s turn) := by
  cases turn with
  | handler => exact fallbackOk_handler hg hu h hreads
  | enterDefQuota => exact fallbackOk_enterDefQuota hg hu h hreads
  | worker => exact h.of_handler (stepWorker_handler call s) (stepWorker_gathered call s)
  | enterSessionUsage =>
    exact h.of_handler (enterSessionUsage_handler call s) (enterSessionUsage_gathered call s)
  | timeout =>
    simp only [GatherCall.machine, GatherCall.stepTimeout]
    split
    next => split <;> first | exact h | trivial
    next => exact h

/-! ### What is left behind -/

/-- What a state of the run of `schedule` is to have. -/
structure Gathers (call : GatherCall) (schedule : List Turn) : Prop where
  /-- The data is deleted once, by a worker that comes to its end, and used by nobody later. -/
  deletedLast : ∃ uses, DataUse.delete ∉ uses ∧
    call.machine.trace GatherState.dataUses schedule =
      uses ++ (call.machine.run schedule).deletion
  /-- A handler that returns 0 has what the worker has in the end. -/
  inTime : (call.machine.run schedule).returned = some 0 →
    (call.machine.run schedule).data.gathered = call.collected ∧
      (call.machine.run schedule).gathered = call.gathered.copyFrom call.collected
  /-- Else it has what it gets from its call alone. -/
  alone : ∀ code, code ≠ 0 → (call.machine.run schedule).returned = some code →
    (call.machine.run schedule).gathered = call.fallback call.soData.vectUsageInfo

theorem GatherInv.inTime (h : GatherInv call s) (hreturned : s.returned = some 0) :
    s.data.gathered = call.collected ∧ s.gathered = call.gathered.copyFrom call.collected := by
  cases h.returns hreturned with
  | createFailed _ _ hne => exact absurd rfl hne
  | done hs hcode hresult =>
    have hh := h.handler
    simp only [HandlerOk, hs] at hh
    have hready : s.worker.isReady = true := by
      generalize hzero : (0 : Int) = code at hcode
      cases hcode with
      | inTime _ hready => exact hready
      | timedOut => simp [etimedout] at hzero
      | busy => simp [ebusy] at hzero
    refine ⟨?_, hresult.inTime rfl⟩
    rw [h.worker.inTime hh.2.1, expected_of_isReady call hready, GatherCall.collected]

/-- What the steps of an undisturbed handler keep. -/
structure OutcomeInv (call : GatherCall) (s : GatherState) : Prop where
  gather : GatherInv call s
  usage : UsageOk call s
  fallback : FallbackOk call s

theorem outcomeInv_start (call : GatherCall) : OutcomeInv call call.start :=
  ⟨gatherInv_start call, usageOk_start call, trivial⟩

theorem outcomeInv_step {turn : Turn} (h : OutcomeInv call s)
    (hreads : call.Undisturbed s turn) : OutcomeInv call (call.machine.step s turn) where
  gather := gatherInv_step h.gather turn
  usage := usageOk_step h.gather h.usage turn
  fallback := fallbackOk_step h.gather h.usage h.fallback hreads

/-- In a run whose handler, when it falls back for an update, finds the nulls of the request in
the usage records, every state reached has what it is to have. -/
theorem gathering_outcome (call : GatherCall) (hcreated : call.createCode = 0)
    {schedule : List Turn} (hmeets : call.machine.Meets call.Undisturbed schedule)
    {reached : List Turn} (hreached : reached <+: schedule) : Gathers call reached := by
  obtain ⟨more, rfl⟩ := hreached
  have hbefore := ((call.machine.meetsFrom_append call.Undisturbed _ reached more).mp hmeets).1
  obtain ⟨hgather, -, hfallback⟩ : OutcomeInv call (call.machine.run reached) :=
    call.machine.inv_of_meets (outcomeInv_start call) (fun _ _ => outcomeInv_step) hbefore
  refine ⟨data_deleted_last call reached, hgather.inTime, fun code hne hreturned => ?_⟩
  cases hgather.returns hreturned with
  | done hs _ _ =>
    simp only [FallbackOk, hs] at hfallback
    exact hfallback hne
  | createFailed _ hcode => exact absurd (hcode.trans hcreated) hne

/-- A handler that does not serve an update does not look at the records at all. -/
theorem meets_of_not_update {call : GatherCall}
    (htype : call.soData.i32CCRType ≠ .updateRequest) (schedule : List Turn) :
    call.machine.Meets call.Undisturbed schedule := by
  refine call.machine.meets_of_inv (gatherInv_start call) (fun _ turn h => gatherInv_step h turn)
    (fun s turn h place hplace => ?_) schedule
  have hh := h.handler
  simp only [GatherCall.usageReads] at hplace
  split at hplace
  next => simp [htype] at hplace
  next hs =>
    simp only [HandlerOk, hs] at hh
    exact absurd hh.2.2.2.1 htype
  next hs =>
    simp only [HandlerOk, hs] at hh
    exact absurd hh.2.2.2.1 htype
  next => exact absurd hplace List.not_mem_nil

/-- A database in which the quota of every key is used up, and that has no limit for it. -/
def spentDb : DbConnection where
  sessionUsage _ _ := { processQuota := fun _ _ => .ok (⟨.empty, .empty, .empty⟩, 0) }
  subRules _ _ := .answered "" none
  monitKey _ _ := { processQuota := fun _ => .ok ⟨.empty, .empty, .empty⟩ }

/-- An update that reports a thousand octets. -/
def spentCall : GatherCall where
  uiMaxCCRHandlers := 1
  uiDefaultQuota := 500
  ruleCache := .empty
  pcoDBConn := some spentDb
  soData :=
    { i32CCRType := .updateRequest, strSubscriberId := "7", uiPeerDialect := .gxHwUgw
      vectUsageInfo := [{ coMonitoringKey := .of "k", coCCTotalOctets := .of 1000 }] }
  gathered := { uiActionSet := { updateQuota := true } }

/-- The worker is in the loop over the usage records when the wait of the handler ends, and has
not come to the total octets when the handler looks at them. -/
def narrowSchedule : List Turn :=
  [.handler, .handler, .worker, .enterSessionUsage, .worker, .timeout, .handler, .enterDefQuota] ++
    List.replicate 4 .handler ++ List.replicate 5 .worker

theorem gathering_outcome_narrow : Gathers spentCall narrowSchedule :=
  gathering_outcome spentCall rfl (by decide) List.prefix_rfl

/-- The worker has submitted the records before the wait of the handler ends. -/
def overtakenSchedule : List Turn :=
  [.handler, .handler, .worker, .worker, .timeout, .handler, .handler, .handler]

/-- What the handler adds depends on the steps of a worker that it does not wait for. -/
theorem gathering_outcome_counterexample :
    spentCall.createCode = 0 ∧
      (spentCall.machine.run overtakenSchedule).returned = some etimedout ∧
      (spentCall.machine.run (overtakenSchedule.filter (· != .worker))).returned =
        some etimedout ∧
      (spentCall.machine.run overtakenSchedule).gathered.mapMonitInfo ≠
        (spentCall.machine.run (overtakenSchedule.filter (· != .worker))).gathered.mapMonitInfo ∧
      ¬ Gathers spentCall overtakenSchedule := by
  have hlate : (spentCall.machine.run overtakenSchedule).gathered.mapMonitInfo ≠
      (spentCall.fallback spentCall.soData.vectUsageInfo).mapMonitInfo := by decide
  refine ⟨rfl, by decide, by decide, by decide, fun h => hlate ?_⟩
  rw [h.alone etimedout (by decide) (by decide)]

end Pcrf
