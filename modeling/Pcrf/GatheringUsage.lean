import Pcrf.GatheringRuns

/-!
The usage records that a handler and its worker share: the worker writes what is left of the
quotas into them, one counter after the other, and their keys stay those of the request.
-/

namespace Pcrf

open Lib

/-! ### What is left of the quotas in the usage records -/

theorem usageStepWrites_shows (outcome : UsageOutcome) (i : Nat) :
    Attempt.Shows UsageState.vectUsageInfo (usageStepWrites outcome i) (usageStep outcome i) := by
  intro st
  simp only [usageStepWrites, usageStep]
  cases st.vectUsageInfo[i]? with
  | none => rfl
  | some usage =>
    dsimp only
    split
    next => rfl
    next =>
      cases outcome.processQuota i usage with
      | error failure => rfl
      | ok answer => rfl

/-- Committing, closing and rolling back leave the records alone. -/
theorem usageAttempt_vectUsageInfo (outcome : UsageOutcome) (st : UsageState) :
    (usageAttempt outcome st).1.vectUsageInfo =
      if outcome.opening.isSome then st.vectUsageInfo
      else
        (Attempt.forEach (usageStep outcome) (List.range st.vectUsageInfo.length)
          st).1.vectUsageInfo := by
  simp only [usageAttempt, rollback, Attempt.andThen, Attempt.throwing]
  cases outcome.opening with
  | some failure => rfl
  | none =>
    dsimp only
    obtain ⟨st', failure⟩ :=
      Attempt.forEach (usageStep outcome) (List.range st.vectUsageInfo.length) st
    cases failure with
    | some failure => rfl
    | none => cases outcome.committing <;> cases outcome.closing <;> rfl

theorem usageAttemptWrites_shows (outcome : UsageOutcome) :
    Attempt.Shows UsageState.vectUsageInfo (usageAttemptWrites outcome)
      (usageAttempt outcome) := by
  intro st
  rw [usageAttempt_vectUsageInfo, usageAttemptWrites]
  split
  next => rfl
  next => exact Attempt.Shows.forEach (usageStepWrites_shows outcome) _ st

/-- The last write leaves the records as `pcrf_db_session_usage` returns them. -/
theorem sessionUsageWrites_last (query : UsageQuery) (subscriberId : String) (st : UsageState) :
    (pcrfDbSessionUsageWrites query subscriberId st).getLastD st.vectUsageInfo =
      (pcrfDbSessionUsage query subscriberId st).2.vectUsageInfo := by
  simp only [pcrfDbSessionUsageWrites, pcrfDbSessionUsage]
  split
  next => rfl
  next =>
    refine (Attempt.Shows.repeatOnce
      (fun k => usageAttemptWrites_shows (query subscriberId k)) st).trans ?_
    split
    next hattempt => rw [hattempt]
    next hattempt => rw [hattempt]

/-- The keys of usage records, position by position. -/
def usageKeys (vectUsageInfo : List SSessionUsageInfo) : List (OtlValue String) :=
  vectUsageInfo.map (·.coMonitoringKey)

theorem usageKeys_set {vectUsageInfo : List SSessionUsageInfo} {i : Nat}
    {usage usage' : SSessionUsageInfo} (hi : vectUsageInfo[i]? = some usage)
    (hkey : usage'.coMonitoringKey = usage.coMonitoringKey) :
    usageKeys (vectUsageInfo.set i usage') = usageKeys vectUsageInfo := by
  rw [usageKeys, List.map_set, hkey]
  refine List.ext_getElem? fun j => ?_
  rw [List.getElem?_set]
  split
  next hij =>
    subst hij
    split <;> simp_all [usageKeys]
  next => rfl

/-- Only counters are written. -/
theorem usageStepWrites_keys (outcome : UsageOutcome) (i : Nat) {st : UsageState}
    {keys : List (OtlValue String)} (h : usageKeys st.vectUsageInfo = keys) :
    ∀ vectUsageInfo ∈ usageStepWrites outcome i st, usageKeys vectUsageInfo = keys := by
  intro vectUsageInfo hmem
  simp only [usageStepWrites] at hmem
  split at hmem
  next => exact absurd hmem List.not_mem_nil
  next usage hi =>
    split at hmem
    next => exact absurd hmem List.not_mem_nil
    next =>
      split at hmem
      next => exact absurd hmem List.not_mem_nil
      next grant _ _ =>
        obtain ⟨usage', husage', rfl⟩ := List.mem_map.mp hmem
        refine (usageKeys_set hi ?_).trans h
        simp only [SSessionUsageInfo.grantWrites, List.mem_cons, List.not_mem_nil,
          or_false] at husage'
        rcases husage' with rfl | rfl | rfl <;> rfl

theorem sessionUsageWrites_keys (query : UsageQuery) (subscriberId : String) (st : UsageState) :
    ∀ vectUsageInfo ∈ pcrfDbSessionUsageWrites query subscriberId st,
      usageKeys vectUsageInfo = usageKeys st.vectUsageInfo := by
  have hattempt (k : Nat) (st' : UsageState)
      (hst' : usageKeys st'.vectUsageInfo = usageKeys st.vectUsageInfo) :
      ∀ vectUsageInfo ∈ usageAttemptWrites (query subscriberId k) st',
        usageKeys vectUsageInfo = usageKeys st.vectUsageInfo := by
    simp only [usageAttemptWrites]
    split
    next => exact fun _ hmem => absurd hmem List.not_mem_nil
    next =>
      exact Attempt.forall_forEachSeen
        (P := fun vectUsageInfo => usageKeys vectUsageInfo = usageKeys st.vectUsageInfo)
        (usageStepWrites_shows _) (fun i _ hkeys => usageStepWrites_keys _ i hkeys) hst'
  simp only [pcrfDbSessionUsageWrites]
  split
  next => exact fun _ hmem => absurd hmem List.not_mem_nil
  next =>
    exact Attempt.forall_repeatOnceSeen
      (P := fun vectUsageInfo => usageKeys vectUsageInfo = usageKeys st.vectUsageInfo)
      (fun k => usageAttemptWrites_shows (query subscriberId k)) hattempt rfl

theorem sessionUsage_keys (query : UsageQuery) (subscriberId : String) (st : UsageState) :
    usageKeys (pcrfDbSessionUsage query subscriberId st).2.vectUsageInfo =
      usageKeys st.vectUsageInfo := by
  rw [← sessionUsageWrites_last]
  have hlast : (pcrfDbSessionUsageWrites query subscriberId st).getLastD st.vectUsageInfo ∈
      st.vectUsageInfo :: pcrfDbSessionUsageWrites query subscriberId st :=
    List.getLastD_mem_cons
  rcases List.mem_cons.mp hlast with hlast | hlast
  · rw [hlast]
  · exact sessionUsageWrites_keys query subscriberId st _ hlast

/-! ### The worker's part of the usage records -/

/-- A worker that enters the loop comes out of it with what running through it would have
written. -/
theorem usageWrites_last (db : DbConnection) {d : WorkerData} {switchedToOffline : Bool}
    (h : d.submitsAtOnce switchedToOffline = true) :
    (d.usageWrites db).getLastD d.soData.vectUsageInfo =
      (d.updateQuota db false).soData.vectUsageInfo := by
  simp only [WorkerData.submitsAtOnce, Bool.and_eq_true] at h
  obtain ⟨⟨hupdate, -⟩, htype⟩ := h
  simp only [WorkerData.updateQuota, hupdate, htype, Bool.not_true, Bool.not_false,
    Bool.and_self, Bool.false_eq_true, if_false, if_true]
  exact sessionUsageWrites_last db.sessionUsage d.soData.strSubscriberId d.usageState

theorem updateQuota_keys (db : DbConnection) (offline : Bool) (d : WorkerData) :
    usageKeys (d.updateQuota db offline).soData.vectUsageInfo =
      usageKeys d.soData.vectUsageInfo := by
  simp only [WorkerData.updateQuota]
  split
  next => rfl
  next =>
    split
    next => exact sessionUsage_keys db.sessionUsage d.soData.strSubscriberId d.usageState
    next => rfl

theorem loadRules_soData (cache : RuleCache) (db : DbConnection) (d : WorkerData) :
    (d.loadRules cache db).soData = d.soData := by
  simp only [WorkerData.loadRules]
  split <;> rfl

theorem markActive_vectUsageInfo (d : WorkerData) :
    d.markActive.soData.vectUsageInfo = d.soData.vectUsageInfo := by
  simp only [WorkerData.markActive]
  split <;> rfl

theorem loadQuota_soData (db : DbConnection) (d : WorkerData) :
    (d.loadQuota db).soData = d.soData := by
  simp only [WorkerData.loadQuota]
  split <;> rfl

variable {call : GatherCall} {s : GatherState}

/-- The usage records as both threads see them. -/
structure UsageOk (call : GatherCall) (s : GatherState) : Prop where
  keys : usageKeys s.vectUsageInfo = usageKeys call.soData.vectUsageInfo
  writes : ∀ writes, s.worker = .sessionUsage writes → ∀ vectUsageInfo ∈ writes,
    usageKeys vectUsageInfo = usageKeys call.soData.vectUsageInfo
  /-- In the loop the writes to come lead to what the worker goes on with. -/
  inLoop : ∀ writes, s.worker = .sessionUsage writes → ∀ db, call.pcoDBConn = some db →
    writes.getLastD s.vectUsageInfo = (s.data.updateQuota db false).soData.vectUsageInfo
  outside : (∀ writes, s.worker ≠ .sessionUsage writes) →
    s.vectUsageInfo = s.data.soData.vectUsageInfo

theorem UsageOk.of_eq {s' : GatherState} (h : UsageOk call s) (hworker : s'.worker = s.worker)
    (hdata : s'.data = s.data) (hvect : s'.vectUsageInfo = s.vectUsageInfo) :
    UsageOk call s' where
  keys := by rw [hvect]; exact h.keys
  writes := by rw [hworker]; exact h.writes
  inLoop := by rw [hworker, hdata, hvect]; exact h.inLoop
  outside := by rw [hworker, hdata, hvect]; exact h.outside

/-- The worker goes on outside the loop, with the records as they are. -/
theorem UsageOk.of_outside (h : UsageOk call s) (phase : WorkerPhase) (data : WorkerData)
    (hworker : ∀ writes, s.worker ≠ .sessionUsage writes)
    (hphase : ∀ writes, phase ≠ .sessionUsage writes)
    (hdata : data.soData.vectUsageInfo = s.data.soData.vectUsageInfo) :
    UsageOk call { s with data := data, worker := phase } where
  keys := h.keys
  writes writes hs := absurd hs (hphase writes)
  inLoop writes hs := absurd hs (hphase writes)
  outside _ := (h.outside hworker).trans hdata.symm

theorem usageOk_worker (h : UsageOk call s) : UsageOk call (call.stepWorker s) := by
  simp only [GatherCall.stepWorker]
  split
  next hs _ => exact h.of_outside _ s.data (by simp [hs]) (by simp) rfl
  next hs _ => exact h.of_outside _ s.data (by simp [hs]) (by simp) rfl
  next db hs hdb =>
    -- running through the loop
    have hkeys := h.outside (by simp [hs]) ▸ h.keys
    exact
      { keys := (updateQuota_keys db s.switchedToOffline s.data).trans hkeys
        writes := fun _ hphase => by simp at hphase
        inLoop := fun _ hphase => by simp at hphase
        outside := fun _ => rfl }
  next vectUsageInfo writes db hs hdb =>
    -- one write
    exact
      { keys := h.writes _ hs _ (List.mem_cons_self ..)
        writes := fun _ hphase => by
          obtain rfl := WorkerPhase.sessionUsage.inj hphase
          exact fun v hv => h.writes _ hs v (List.mem_cons_of_mem _ hv)
        inLoop := fun _ hphase db' hdb' => by
          obtain rfl := WorkerPhase.sessionUsage.inj hphase
          rw [← h.inLoop _ hs db' hdb', List.getLastD_cons]
        outside := fun hphase => absurd rfl (hphase writes) }
  next db hs hdb =>
    -- the end of the loop
    exact
      { keys := h.keys
        writes := fun _ hphase => by simp at hphase
        inLoop := fun _ hphase => by simp at hphase
        outside := fun _ => h.inLoop [] hs db hdb }
  next db hs hdb =>
    split
    next => exact h.of_outside _ s.data (by simp [hs]) (by simp) rfl
    next =>
      exact h.of_outside _ _ (by simp [hs]) (by simp)
        (congrArg SSubscriberData.vectUsageInfo (loadRules_soData ..))
  next hs hdb =>
    split
    next => exact h.of_outside _ s.data (by simp [hs]) (by simp) rfl
    next =>
      refine h.of_outside _ _ (by simp [hs]) (fun writes => ?_) (markActive_vectUsageInfo _)
      split <;> simp
  next db hs hdb =>
    split
    next => exact h.of_outside _ s.data (by simp [hs]) (by simp) rfl
    next =>
      exact h.of_outside _ _ (by simp [hs]) (by simp)
        (congrArg SSubscriberData.vectUsageInfo (loadQuota_soData ..))
  next hs => exact (h.of_outside .waitCopied s.data (by simp [hs]) (by simp) rfl).of_eq rfl rfl rfl
  next hs =>
    split
    next => exact h.of_outside _ s.data (by simp [hs]) (by simp) rfl
    next => exact h
  next => exact h

theorem usageOk_enterSessionUsage (h : UsageOk call s) :
    UsageOk call (call.enterSessionUsage s) := by
  simp only [GatherCall.enterSessionUsage]
  split
  next db hs hdb =>
    split
    next honce =>
      have hsame := h.outside (by simp [hs])
      have hkeys := hsame ▸ h.keys
      exact
        { keys := h.keys
          writes := fun _ hphase v hv => by
            obtain rfl := WorkerPhase.sessionUsage.inj hphase
            exact (sessionUsageWrites_keys db.sessionUsage _ _ v hv).trans hkeys
          inLoop := fun _ hphase db' hdb' => by
            obtain rfl := WorkerPhase.sessionUsage.inj hphase
            obtain rfl := Option.some.inj (hdb.symm.trans hdb')
            rw [hsame]
            exact usageWrites_last db honce
          outside := fun hphase => absurd rfl (hphase _) }
    next => exact usageOk_worker h
  next => exact usageOk_worker h

/-- What a step of the handler leaves alone: only by its launch does the worker move on. -/
structure HandlerFrame (s s' : GatherState) : Prop where
  data : s'.data = s.data
  vectUsageInfo : s'.vectUsageInfo = s.vectUsageInfo
  worker : s'.worker = s.worker ∨ s.handler = .launch ∧ s'.worker = .connect

theorem stepHandler_frame (call : GatherCall) (s : GatherState) :
    HandlerFrame s (call.stepHandler s) := by
  simp only [GatherCall.stepHandler]
  cases hs : s.handler with
  | enter | collect => dsimp only; split <;> exact ⟨rfl, rfl, .inl rfl⟩
  | launch =>
    dsimp only
    split
    next => exact ⟨rfl, rfl, .inr ⟨hs, rfl⟩⟩
    next => exact ⟨rfl, rfl, .inl rfl⟩
  | waitReady => dsimp only; split <;> exact ⟨rfl, rfl, .inl rfl⟩
  | loadDefQuota code i counter soMonitInfo =>
    obtain ⟨mapMonitInfo, heq | ⟨i', counter', soMonitInfo', heq⟩⟩ :=
      readCounter_cases call code i counter soMonitInfo s <;>
      (dsimp only; rw [heq]; exact ⟨rfl, rfl, .inl rfl⟩)
  | release | unlockCopied | done | createFailed => exact ⟨rfl, rfl, .inl rfl⟩

theorem enterDefQuota_frame (call : GatherCall) (s : GatherState) :
    HandlerFrame s (call.enterDefQuota s) := by
  simp only [GatherCall.enterDefQuota]
  split
  next =>
    split
    next => exact ⟨rfl, rfl, .inl rfl⟩
    next => exact stepHandler_frame call s
  next => exact stepHandler_frame call s

theorem stepTimeout_frame (s : GatherState) : HandlerFrame s (GatherCall.stepTimeout s) := by
  simp only [GatherCall.stepTimeout]
  split
  next => split <;> exact ⟨rfl, rfl, .inl rfl⟩
  next => exact ⟨rfl, rfl, .inl rfl⟩

theorem UsageOk.of_frame {s' : GatherState} (h : UsageOk call s) (hg : GatherInv call s)
    (hframe : HandlerFrame s s') : UsageOk call s' := by
  rcases hframe.worker with hworker | ⟨hs, hworker⟩
  · exact h.of_eq hworker hframe.data hframe.vectUsageInfo
  · -- the thread that is created has not written anything
    have hn : s.worker = .notCreated := by
      have hh := hg.handler
      simp only [HandlerOk, hs] at hh
      exact hh.1
    exact (h.of_outside .connect s.data (by simp [hn]) (by simp) rfl).of_eq hworker hframe.data
      hframe.vectUsageInfo

theorem usageOk_start (call : GatherCall) : UsageOk call call.start where
  keys := rfl
  writes _ hs := by simp [GatherCall.start] at hs
  inLoop _ hs := by simp [GatherCall.start] at hs
  outside _ := rfl

theorem usageOk_step (hg : GatherInv call s) (h : UsageOk call s) (turn : Turn) :
    UsageOk call (call.machine.step s turn) := by
  cases turn with
  | handler => exact h.of_frame hg (stepHandler_frame call s)
  | enterDefQuota => exact h.of_frame hg (enterDefQuota_frame call s)
  | timeout => exact h.of_frame hg (stepTimeout_frame s)
  | worker => exact usageOk_worker h
  | enterSessionUsage => exact usageOk_enterSessionUsage h

end Pcrf
