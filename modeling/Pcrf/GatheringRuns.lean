import Pcrf.Gathering

/-!
What every interleaving of the handler and its worker leads to: which code the handler returns,
what it has then gathered, and which usage records have been submitted.
-/

namespace Pcrf

open Lib

variable {call : GatherCall} {s : GatherState}

/-! ### The worker left alone -/

namespace GatherCall

/-- What a worker has when it comes to a phase without having been switched to offline. -/
def dataAt (call : GatherCall) (db : DbConnection) : WorkerPhase → WorkerData
  | .notCreated | .connect | .updateQuota | .sessionUsage _ => call.workerData
  | .loadRules => call.workerData.updateQuota db false
  | .markActive => (call.workerData.updateQuota db false).loadRules call.ruleCache db
  | .loadQuota => ((call.workerData.updateQuota db false).loadRules call.ruleCache db).markActive
  | .unlockReady | .waitCopied | .finished =>
    (((call.workerData.updateQuota db false).loadRules call.ruleCache db).markActive).loadQuota db

def expected (call : GatherCall) (phase : WorkerPhase) : WorkerData :=
  match call.pcoDBConn with
  | none => call.workerData
  | some db => call.dataAt db phase

/-- What the worker of a call delivers. -/
def collected (call : GatherCall) : Gathered := (call.expected .finished).gathered

end GatherCall

/-- What a handler without its worker has gathered. For an update the default quotas depend on
the usage records as the worker has left them. -/
structure FallsBackTo (call : GatherCall) (gathered : Gathered) : Prop where
  uiActionSet : gathered.uiActionSet = call.gathered.uiActionSet
  listAbonRules :
    gathered.listAbonRules = (call.fallback call.soData.vectUsageInfo).listAbonRules
  mapMonitInfo : call.soData.i32CCRType ≠ .updateRequest →
    gathered.mapMonitInfo = call.gathered.mapMonitInfo

/-- What the handler has gathered when it returns a code. -/
structure ResultOf (call : GatherCall) (code : Int) (gathered : Gathered) : Prop where
  inTime : code = 0 → gathered = call.gathered.copyFrom call.collected
  late : code ≠ 0 → FallsBackTo call gathered

theorem fallback_fallsBackTo (call : GatherCall) (vectUsageInfo : List SSessionUsageInfo) :
    FallsBackTo call (call.fallback vectUsageInfo) := by
  simp only [GatherCall.fallback]
  split
  next htype => exact ⟨rfl, by simp only [GatherCall.fallback, htype], fun _ => rfl⟩
  next htype =>
    exact ⟨rfl, by simp only [GatherCall.fallback, htype], fun hne => absurd htype hne⟩
  next => exact ⟨rfl, by simp only [GatherCall.fallback], fun _ => rfl⟩

/-- The worker has released the mutex of its data. -/
def WorkerPhase.isReady : WorkerPhase → Bool
  | waitCopied | finished => true
  | _ => false

/-- A worker that is ready and was not switched to offline has what it will have in the end. -/
theorem expected_of_isReady (call : GatherCall) {phase : WorkerPhase}
    (h : phase.isReady = true) : call.expected phase = call.expected .finished := by
  cases phase with
  | waitCopied | finished => rfl
  | _ => exact absurd h Bool.false_ne_true

/-- The usage records have been submitted. -/
def WorkerPhase.pastQuota : WorkerPhase → Bool
  | loadRules | markActive | loadQuota | unlockReady | waitCopied | finished => true
  | _ => false

/-! ### The invariant -/

/-- A slot was free and the thread was created. -/
structure Launched (call : GatherCall) (s : GatherState) : Prop where
  slot : call.uiThreadCount < call.uiMaxCCRHandlers
  created : call.createCode = 0
  worker : s.worker ≠ .notCreated

/-- What a code says of the worker. -/
inductive CodeOf (call : GatherCall) (s : GatherState) : Int → Prop
  | inTime : Launched call s → s.worker.isReady = true → CodeOf call s 0
  | timedOut : Launched call s → CodeOf call s etimedout
  | busy : call.uiMaxCCRHandlers ≤ call.uiThreadCount → s.worker = .notCreated → CodeOf call s ebusy

/-- The handler has neither switched the worker to offline nor gathered anything. -/
def Untouched (call : GatherCall) (s : GatherState) : Prop :=
  s.switchedToOffline = false ∧ s.gathered = call.gathered

def HandlerOk (call : GatherCall) (s : GatherState) : Prop :=
  match s.handler with
  | .enter => s.worker = .notCreated ∧ s.uiThreadCount = call.uiThreadCount ∧ Untouched call s
  | .launch =>
    s.worker = .notCreated ∧ call.uiThreadCount < call.uiMaxCCRHandlers ∧ Untouched call s
  | .waitReady => Launched call s ∧ Untouched call s
  | .release code | .collect code => CodeOf call s code ∧ Untouched call s
  | .loadDefQuota code _ _ _ =>
    CodeOf call s code ∧ s.switchedToOffline = true ∧ code ≠ 0 ∧
      call.soData.i32CCRType = .updateRequest ∧ FallsBackTo call s.gathered
  | .unlockCopied code | .done code =>
    CodeOf call s code ∧ s.switchedToOffline = (code != 0) ∧ ResultOf call code s.gathered
  | .createFailed code =>
    s.worker = .notCreated ∧ code = call.createCode ∧ code ≠ 0 ∧
      call.uiThreadCount < call.uiMaxCCRHandlers ∧ Untouched call s

structure WorkerOk (call : GatherCall) (s : GatherState) : Prop where
  /-- Before the usage records are submitted nothing has changed. -/
  early : s.worker.pastQuota = false → s.data = call.workerData
  /-- Without a connection the worker goes from its start to its end. -/
  unconnected : call.pcoDBConn = none → s.data = call.workerData ∧
    s.worker ∈ [.notCreated, .connect, .unlockReady, .waitCopied, .finished]
  /-- The records are submitted in one of the two ways, once. -/
  charges : ∀ db, call.pcoDBConn = some db → s.worker.pastQuota = true → ∃ offline,
    s.data.charged = (call.workerData.updateQuota db offline).charged ∧
    s.data.sqlQueue = (call.workerData.updateQuota db offline).sqlQueue
  inTime : s.switchedToOffline = false → s.data = call.expected s.worker

structure GatherInv (call : GatherCall) (s : GatherState) : Prop where
  handler : HandlerOk call s
  worker : WorkerOk call s
  ready : s.dataReady = true → s.worker.isReady = true

theorem gatherInv_start (call : GatherCall) : GatherInv call call.start where
  handler := ⟨rfl, rfl, rfl, rfl⟩
  worker :=
    { early := fun _ => rfl
      unconnected := fun _ => ⟨rfl, List.mem_cons_self ..⟩
      charges := fun _ _ h => absurd h Bool.false_ne_true
      inTime := fun _ => by
        simp only [GatherCall.start, GatherCall.expected]
        split <;> rfl }
  ready := fun h => absurd h Bool.false_ne_true

/-! ### The handler's steps -/

/-- The handler's word about the worker and the worker's own part stay when only the handler
moves on. -/
theorem WorkerOk.of_eq {s' : GatherState} (h : WorkerOk call s) (hdata : s'.data = s.data)
    (hworker : s'.worker = s.worker)
    (hflag : s'.switchedToOffline = false → s.switchedToOffline = false) : WorkerOk call s' where
  early := by rw [hdata, hworker]; exact h.early
  unconnected := by rw [hdata, hworker]; exact h.unconnected
  charges := by rw [hdata, hworker]; exact h.charges
  inTime hs' := by rw [hdata, hworker]; exact h.inTime (hflag hs')

theorem CodeOf.of_eq {s' : GatherState} {code : Int} (h : CodeOf call s code)
    (hworker : s'.worker = s.worker) : CodeOf call s' code := by
  cases h with
  | inTime hl hr => exact .inTime ⟨hl.slot, hl.created, hworker ▸ hl.worker⟩ (hworker ▸ hr)
  | timedOut hl => exact .timedOut ⟨hl.slot, hl.created, hworker ▸ hl.worker⟩
  | busy hb hn => exact .busy hb (hworker.trans hn)

/-- A step of the loop changes the quotas of the handler, and leads on in the loop or out of it. -/
theorem readCounter_cases (call : GatherCall) (code : Int) (i : Nat) (counter : UsageCounter)
    (soMonitInfo : SDBMonitoringInfo) (s : GatherState) :
    ∃ mapMonitInfo,
      call.readCounter code i counter soMonitInfo s =
        { s with
          gathered := { s.gathered with mapMonitInfo := mapMonitInfo }
          handler := .unlockCopied code } ∨
      ∃ i' counter' soMonitInfo', call.readCounter code i counter soMonitInfo s =
        { s with
          gathered := { s.gathered with mapMonitInfo := mapMonitInfo }
          handler := .loadDefQuota code i' counter' soMonitInfo' } := by
  simp only [GatherCall.readCounter]
  split
  next => exact ⟨s.gathered.mapMonitInfo, .inl rfl⟩
  next =>
    cases counter with
    | total | output => exact ⟨s.gathered.mapMonitInfo, .inr ⟨_, _, _, rfl⟩⟩
    | input => exact ⟨_, .inr ⟨_, _, _, rfl⟩⟩

theorem FallsBackTo.of_update {gathered : Gathered} (h : FallsBackTo call gathered)
    (htype : call.soData.i32CCRType = .updateRequest) (mapMonitInfo : MonitInfoMap) :
    FallsBackTo call { gathered with mapMonitInfo := mapMonitInfo } :=
  ⟨h.uiActionSet, h.listAbonRules, fun hne => absurd htype hne⟩

/-- The handler looks for a free slot. -/
theorem gatherInv_enter (h : GatherInv call s) (hs : s.handler = .enter) :
    GatherInv call (call.stepHandler s) := by
  have hh := h.handler
  simp only [HandlerOk, hs] at hh
  obtain ⟨hn, hcount, hu⟩ := hh
  simp only [GatherCall.stepHandler, hs]
  split
  next hfree =>
    exact ⟨⟨hn, hcount ▸ hfree, hu⟩, h.worker.of_eq rfl rfl id, h.ready⟩
  next hbusy =>
    exact ⟨⟨.busy (hcount ▸ Nat.le_of_not_lt hbusy) hn, hu⟩, h.worker.of_eq rfl rfl id, h.ready⟩

/-- The worker starts with what it has been given, unless it cannot be created. -/
theorem gatherInv_launch (h : GatherInv call s) (hs : s.handler = .launch) :
    GatherInv call (call.stepHandler s) := by
  have hh := h.handler
  simp only [HandlerOk, hs] at hh
  obtain ⟨hn, hslot, hu⟩ := hh
  simp only [GatherCall.stepHandler, hs]
  split
  next hcreated =>
    have hdata := h.worker.early (by rw [hn]; rfl)
    refine ⟨⟨⟨hslot, hcreated, by simp⟩, hu⟩, ?_, fun hr => ?_⟩
    · exact
        { early := fun _ => hdata
          unconnected := fun _ => ⟨hdata, by simp⟩
          charges := fun _ _ hp => absurd hp (by simp [WorkerPhase.pastQuota])
          inTime := fun _ => by
            rw [hdata]
            simp only [GatherCall.expected]
            split <;> rfl }
    · -- no worker has been there to release the mutex
      have := h.ready hr
      rw [hn] at this
      exact absurd this (by decide)
  next hfailed =>
    exact ⟨⟨hn, rfl, hfailed, hslot, hu⟩, h.worker.of_eq rfl rfl id, h.ready⟩

/-- The handler waits for a mutex that only a worker that is ready releases. -/
theorem gatherInv_waitReady (h : GatherInv call s) (hs : s.handler = .waitReady) :
    GatherInv call (call.stepHandler s) := by
  have hh := h.handler
  simp only [HandlerOk, hs] at hh
  obtain ⟨hl, hu⟩ := hh
  simp only [GatherCall.stepHandler, hs]
  split
  next hready =>
    exact ⟨⟨.inTime ⟨hl.slot, hl.created, hl.worker⟩ (h.ready hready), hu⟩,
      h.worker.of_eq rfl rfl id, fun hr => absurd hr (by simp)⟩
  next => exact h

/-- The handler takes over what the worker has gathered, or falls back and says so. -/
theorem gatherInv_collect (h : GatherInv call s) {code : Int} (hs : s.handler = .collect code) :
    GatherInv call (call.stepHandler s) := by
  have hh := h.handler
  simp only [HandlerOk, hs] at hh
  obtain ⟨hcode, hflag, hgathered⟩ := hh
  simp only [GatherCall.stepHandler, hs]
  split
  next hzero =>
    subst hzero
    refine ⟨⟨hcode.of_eq rfl, hflag, ?_⟩, h.worker.of_eq rfl rfl id, h.ready⟩
    -- in time: the worker is past its last step, so its lists are complete
    cases hcode with
    | inTime hl hr =>
      have hdata := h.worker.inTime hflag
      refine ⟨fun _ => ?_, fun hne => absurd rfl hne⟩
      rw [GatherCall.collected, ← expected_of_isReady call hr, ← hdata, hgathered]
  next hnonzero =>
    -- the flag is set with the fallback
    refine ⟨⟨hcode.of_eq rfl, by simp [hnonzero], ?_⟩,
      h.worker.of_eq rfl rfl (fun hf => absurd hf (by simp)), h.ready⟩
    exact ⟨fun hzero => absurd hzero hnonzero, fun _ => fallback_fallsBackTo call _⟩

/-- The quotas that the handler reads by itself are a part of its fallback. -/
theorem gatherInv_readCounter (h : GatherInv call s) {code : Int} {i : Nat}
    {counter : UsageCounter} {soMonitInfo : SDBMonitoringInfo}
    (hs : s.handler = .loadDefQuota code i counter soMonitInfo) :
    GatherInv call (call.stepHandler s) := by
  have hh := h.handler
  simp only [HandlerOk, hs] at hh
  obtain ⟨hcode, hflag, hne, htype, hfalls⟩ := hh
  simp only [GatherCall.stepHandler, hs]
  obtain ⟨mapMonitInfo, heq | ⟨i', counter', soMonitInfo', heq⟩⟩ :=
    readCounter_cases call code i counter soMonitInfo s <;> rw [heq]
  · -- the last counter: the handler leaves the loop
    refine ⟨⟨hcode.of_eq rfl, by simp [hflag, hne], fun hzero => absurd hzero hne, fun _ => ?_⟩,
      h.worker.of_eq rfl rfl id, h.ready⟩
    exact hfalls.of_update htype mapMonitInfo
  · exact ⟨⟨hcode.of_eq rfl, hflag, hne, htype, hfalls.of_update htype mapMonitInfo⟩,
      h.worker.of_eq rfl rfl id, h.ready⟩

theorem gatherInv_handler (h : GatherInv call s) : GatherInv call (call.stepHandler s) := by
  have hh := h.handler
  simp only [HandlerOk] at hh
  cases hs : s.handler with
  | enter => exact gatherInv_enter h hs
  | launch => exact gatherInv_launch h hs
  | waitReady => exact gatherInv_waitReady h hs
  | collect code => exact gatherInv_collect h hs
  | loadDefQuota code i counter soMonitInfo => exact gatherInv_readCounter h hs
  | release code | unlockCopied code =>
    -- the code and what has been gathered stay as they are
    simp only [hs] at hh
    simp only [GatherCall.stepHandler, hs]
    exact ⟨⟨hh.1.of_eq rfl, hh.2⟩, h.worker.of_eq rfl rfl id, h.ready⟩
  | done code | createFailed code => simpa only [GatherCall.stepHandler, hs] using h

/-- A handler that enters the loop has what it has been called with. -/
theorem gatherInv_enterDefQuota (h : GatherInv call s) :
    GatherInv call (call.enterDefQuota s) := by
  simp only [GatherCall.enterDefQuota]
  split
  next code hs =>
    split
    next hcond =>
      obtain ⟨hne, htype⟩ : code ≠ 0 ∧ call.soData.i32CCRType = .updateRequest := by
        simpa using hcond
      have hh := h.handler
      simp only [HandlerOk, hs] at hh
      obtain ⟨hcode, -, hgathered⟩ := hh
      refine ⟨⟨hcode.of_eq rfl, rfl, hne, htype, ?_⟩,
        h.worker.of_eq rfl rfl (fun hf => absurd hf (by simp)), h.ready⟩
      simp only [hgathered]
      exact ⟨rfl, by simp only [GatherCall.fallback, htype], fun hne => absurd htype hne⟩
    next => exact gatherInv_handler h
  next => exact gatherInv_handler h

theorem gatherInv_timeout (h : GatherInv call s) : GatherInv call (GatherCall.stepTimeout s) := by
  have hh := h.handler
  simp only [HandlerOk] at hh
  simp only [GatherCall.stepTimeout]
  split
  next hs =>
    simp only [hs] at hh
    split
    next => exact h
    next => exact ⟨⟨.timedOut ⟨hh.1.slot, hh.1.created, hh.1.worker⟩, hh.2⟩,
      h.worker.of_eq rfl rfl id, h.ready⟩
  next => exact h

/-! ### The worker's steps -/

/-- How the worker's phase can change as far as the handler can tell. -/
structure PhaseMoves (before after : WorkerPhase) : Prop where
  absent : before = .notCreated → after = .notCreated
  present : before ≠ .notCreated → after ≠ .notCreated
  ready : before.isReady = true → after.isReady = true

theorem HandlerOk.of_moves {s' : GatherState} (h : HandlerOk call s)
    (hhandler : s'.handler = s.handler) (hcount : s'.uiThreadCount = s.uiThreadCount)
    (hflag : s'.switchedToOffline = s.switchedToOffline) (hgathered : s'.gathered = s.gathered)
    (hmoves : PhaseMoves s.worker s'.worker) : HandlerOk call s' := by
  have launched (hl : Launched call s) : Launched call s' :=
    ⟨hl.slot, hl.created, hmoves.present hl.worker⟩
  have codeOf {code : Int} (hc : CodeOf call s code) : CodeOf call s' code := by
    cases hc with
    | inTime hl hr => exact .inTime (launched hl) (hmoves.ready hr)
    | timedOut hl => exact .timedOut (launched hl)
    | busy hb hn => exact .busy hb (hmoves.absent hn)
  have untouched (hu : Untouched call s) : Untouched call s' :=
    ⟨hflag.trans hu.1, hgathered.trans hu.2⟩
  -- what is said of the worker in any phase of the handler is kept by the moves
  simp only [HandlerOk, hhandler] at h ⊢
  cases hs : s.handler with
  | enter =>
    simp only [hs] at h
    exact ⟨hmoves.absent h.1, hcount.trans h.2.1, untouched h.2.2⟩
  | launch =>
    simp only [hs] at h
    exact ⟨hmoves.absent h.1, h.2.1, untouched h.2.2⟩
  | waitReady =>
    simp only [hs] at h
    exact ⟨launched h.1, untouched h.2⟩
  | release code =>
    simp only [hs] at h
    exact ⟨codeOf h.1, untouched h.2⟩
  | collect code =>
    simp only [hs] at h
    exact ⟨codeOf h.1, untouched h.2⟩
  | loadDefQuota code i counter soMonitInfo =>
    simp only [hs] at h
    exact ⟨codeOf h.1, hflag.trans h.2.1, h.2.2.1, h.2.2.2.1, hgathered ▸ h.2.2.2.2⟩
  | unlockCopied code =>
    simp only [hs] at h
    exact ⟨codeOf h.1, hflag.trans h.2.1, hgathered ▸ h.2.2⟩
  | done code =>
    simp only [hs] at h
    exact ⟨codeOf h.1, hflag.trans h.2.1, hgathered ▸ h.2.2⟩
  | createFailed code =>
    simp only [hs] at h
    exact ⟨hmoves.absent h.1, h.2.1, h.2.2.1, h.2.2.2.1, untouched h.2.2.2.2⟩

/-- Later steps submit no usage record. -/
theorem loadRules_charges (cache : RuleCache) (db : DbConnection) (d : WorkerData) :
    (d.loadRules cache db).charged = d.charged ∧ (d.loadRules cache db).sqlQueue = d.sqlQueue := by
  simp only [WorkerData.loadRules]
  split <;> exact ⟨rfl, rfl⟩

theorem markActive_charges (d : WorkerData) :
    d.markActive.charged = d.charged ∧ d.markActive.sqlQueue = d.sqlQueue := by
  simp only [WorkerData.markActive]
  split <;> exact ⟨rfl, rfl⟩

theorem loadQuota_charges (db : DbConnection) (d : WorkerData) :
    (d.loadQuota db).charged = d.charged ∧ (d.loadQuota db).sqlQueue = d.sqlQueue := by
  simp only [WorkerData.loadQuota]
  split <;> exact ⟨rfl, rfl⟩

theorem markActive_actionSet (d : WorkerData) :
    d.markActive.gathered.uiActionSet = d.gathered.uiActionSet := by
  simp only [WorkerData.markActive]
  split <;> rfl

/-- Without rules to operate the last step does nothing. -/
theorem loadQuota_of_not_operateRule (db : DbConnection) {d : WorkerData}
    (h : d.gathered.uiActionSet.operateRule = false) : d.loadQuota db = d := by
  simp only [WorkerData.loadQuota, h, Bool.false_eq_true, if_false]

/-- A worker that has submitted the records and is not ready yet can go on to any phase in
which they are submitted. -/
theorem PhaseMoves.of_pastQuota {before after : WorkerPhase} (hbefore : before.pastQuota = true)
    (hready : before.isReady = false) (hafter : after.pastQuota = true) :
    PhaseMoves before after where
  absent hn := by simp [hn, WorkerPhase.pastQuota] at hbefore
  present _ hn := by simp [hn, WorkerPhase.pastQuota] at hafter
  ready hr := by simp [hr] at hready

/-- The invariant after a step of the worker, from what the step does to phase and data. -/
theorem GatherInv.of_worker {phase : WorkerPhase} {data : WorkerData} (h : GatherInv call s)
    (hmoves : PhaseMoves s.worker phase)
    (hw : WorkerOk call { s with worker := phase, data := data }) :
    GatherInv call { s with worker := phase, data := data } where
  handler := h.handler.of_moves rfl rfl rfl rfl hmoves
  worker := hw
  ready hr := hmoves.ready (h.ready hr)

theorem GatherInv.of_phase {phase : WorkerPhase} (h : GatherInv call s)
    (hmoves : PhaseMoves s.worker phase) (hw : WorkerOk call { s with worker := phase }) :
    GatherInv call { s with worker := phase } where
  handler := h.handler.of_moves rfl rfl rfl rfl hmoves
  worker := hw
  ready hr := hmoves.ready (h.ready hr)

/-- The quotas are submitted in one of the two ways, at once as long as the flag is not set. -/
theorem GatherInv.submit (h : GatherInv call s) {db : DbConnection}
    (hdb : call.pcoDBConn = some db) (hearly : s.worker.pastQuota = false)
    (hmoves : PhaseMoves s.worker .loadRules) {offline : Bool}
    (hoffline : s.switchedToOffline = false → offline = false)
    (vectUsageInfo : List SSessionUsageInfo) :
    GatherInv call
      { s with
        data := s.data.updateQuota db offline
        vectUsageInfo := vectUsageInfo
        worker := .loadRules } := by
  have hdata := h.worker.early hearly
  exact
    { handler := h.handler.of_moves rfl rfl rfl rfl hmoves
      worker :=
        { early := fun hp => absurd hp (by simp [WorkerPhase.pastQuota])
          unconnected := fun hnone => absurd (hdb.symm.trans hnone) (by simp)
          charges := fun db' hdb' _ => by
            obtain rfl := Option.some.inj (hdb.symm.trans hdb')
            exact ⟨offline, by rw [hdata], by rw [hdata]⟩
          inTime := fun hf => by
            simp only [GatherCall.expected, hdb, GatherCall.dataAt]
            rw [hdata, hoffline hf] }
      ready := fun hr => hmoves.ready (h.ready hr) }

/-- In the loop over the usage records the worker has what it has started with. -/
theorem GatherInv.inLoop (h : GatherInv call s) {db : DbConnection}
    (hdb : call.pcoDBConn = some db) (hearly : s.worker.pastQuota = false)
    {writes : List (List SSessionUsageInfo)} (hmoves : PhaseMoves s.worker (.sessionUsage writes))
    (vectUsageInfo : List SSessionUsageInfo) :
    GatherInv call
      { s with vectUsageInfo := vectUsageInfo, worker := .sessionUsage writes } := by
  have hdata := h.worker.early hearly
  exact
    { handler := h.handler.of_moves rfl rfl rfl rfl hmoves
      worker :=
        { early := fun _ => hdata
          unconnected := fun hnone => absurd (hdb.symm.trans hnone) (by simp)
          charges := fun _ _ hp => absurd hp (by simp [WorkerPhase.pastQuota])
          inTime := fun _ => by
            simp only [GatherCall.expected, hdb]
            exact hdata }
      ready := fun hr => hmoves.ready (h.ready hr) }

/-- A worker that finds itself switched to offline goes to its end with what it has. -/
theorem GatherInv.abort (h : GatherInv call s) {db : DbConnection}
    (hdb : call.pcoDBConn = some db) (hpast : s.worker.pastQuota = true)
    (hmoves : PhaseMoves s.worker .unlockReady) (hflag : s.switchedToOffline = true) :
    GatherInv call { s with worker := .unlockReady } :=
  h.of_phase hmoves
    { early := fun hp => absurd hp (by simp [WorkerPhase.pastQuota])
      unconnected := fun hnone => absurd (hdb.symm.trans hnone) (by simp)
      charges := fun db' hdb' _ => h.worker.charges db' hdb' hpast
      inTime := fun hf => absurd (hflag.symm.trans hf) (by simp) }

/-- Before each stage behind the quotas the worker looks whether it is switched to offline. -/
theorem GatherInv.unlessOffline (h : GatherInv call s) {db : DbConnection}
    (hdb : call.pcoDBConn = some db) (hpast : s.worker.pastQuota = true)
    (hready : s.worker.isReady = false) {next : GatherState}
    (hnext : GatherInv call next) :
    GatherInv call
      (if s.switchedToOffline then { s with worker := .unlockReady } else next) := by
  split
  next hflag => exact h.abort hdb hpast (.of_pastQuota hpast hready rfl) hflag
  next => exact hnext

/-- A worker that goes on has what is expected of it, and submits nothing more. -/
theorem GatherInv.advance (h : GatherInv call s) {db : DbConnection}
    (hdb : call.pcoDBConn = some db) (hpast : s.worker.pastQuota = true) {phase : WorkerPhase}
    (hphase : phase.pastQuota = true) (hmoves : PhaseMoves s.worker phase) {data : WorkerData}
    (hcharges : data.charged = s.data.charged ∧ data.sqlQueue = s.data.sqlQueue)
    (hdata : s.switchedToOffline = false → data = call.expected phase) :
    GatherInv call { s with worker := phase, data := data } :=
  h.of_worker hmoves
    { early := fun hp => absurd (hphase.symm.trans hp) (by simp)
      unconnected := fun hnone => absurd (hdb.symm.trans hnone) (by simp)
      charges := fun db' hdb' _ => by
        obtain ⟨offline, hcharged, hqueue⟩ := h.worker.charges db' hdb' hpast
        exact ⟨offline, hcharges.1.trans hcharged, hcharges.2.trans hqueue⟩
      inTime := hdata }

/-- A worker that is given no connection goes to its end. -/
theorem GatherInv.giveUp (h : GatherInv call s) (hs : s.worker = .connect)
    (hdb : call.pcoDBConn = none) : GatherInv call { s with worker := .unlockReady } := by
  refine h.of_phase ⟨by simp [hs], by simp, by simp [hs, WorkerPhase.isReady]⟩ ?_
  have hdata := (h.worker.unconnected hdb).1
  exact
    { early := fun _ => hdata
      unconnected := fun _ => ⟨hdata, by simp⟩
      charges := fun db hsome => absurd (hdb.symm.trans hsome) (by simp)
      inTime := fun _ => by simp only [GatherCall.expected, hdb]; exact hdata }

/-- With a connection it goes on to the quotas. -/
theorem GatherInv.connect (h : GatherInv call s) {db : DbConnection} (hs : s.worker = .connect)
    (hdb : call.pcoDBConn = some db) : GatherInv call { s with worker := .updateQuota } := by
  refine h.of_phase ⟨by simp [hs], by simp, by simp [hs, WorkerPhase.isReady]⟩ ?_
  have hdata := h.worker.early (by rw [hs]; rfl)
  exact
    { early := fun _ => hdata
      unconnected := fun hnone => absurd (hdb.symm.trans hnone) (by simp)
      charges := fun _ _ hp => absurd hp (by simp [WorkerPhase.pastQuota])
      inTime := fun _ => by simp only [GatherCall.expected, hdb]; exact hdata }

/-- After the marks the action set tells where the worker goes on to. -/
theorem GatherInv.mark (h : GatherInv call s) {db : DbConnection} (hs : s.worker = .markActive)
    (hdb : call.pcoDBConn = some db) :
    GatherInv call
      { s with
        data := s.data.markActive
        worker :=
          if s.data.gathered.uiActionSet.operateRule then .loadQuota else .unlockReady } := by
  have hpast : s.worker.pastQuota = true := by rw [hs]; rfl
  have hready : s.worker.isReady = false := by rw [hs]; rfl
  have hdata (hf : s.switchedToOffline = false) := h.worker.inTime hf
  simp only [GatherCall.expected, hdb, hs, GatherCall.dataAt] at hdata
  cases hrule : s.data.gathered.uiActionSet.operateRule with
  | true =>
    show GatherInv call { s with worker := .loadQuota, data := s.data.markActive }
    refine h.advance hdb hpast rfl (.of_pastQuota hpast hready rfl) (markActive_charges _)
      fun hf => ?_
    simp only [GatherCall.expected, hdb, GatherCall.dataAt, ← hdata hf]
  | false =>
    show GatherInv call { s with worker := .unlockReady, data := s.data.markActive }
    refine h.advance hdb hpast rfl (.of_pastQuota hpast hready rfl) (markActive_charges _)
      fun hf => ?_
    -- the quotas are skipped, which is what loading them would do
    have hskip := loadQuota_of_not_operateRule db
      ((congrArg ActionSet.operateRule (markActive_actionSet s.data)).trans hrule)
    simp only [GatherCall.expected, hdb, GatherCall.dataAt, ← hdata hf, hskip]

/-- The data is ready, with or without a connection. -/
theorem GatherInv.tellReady (h : GatherInv call s) (hs : s.worker = .unlockReady) :
    GatherInv call { s with dataReady := true, worker := .waitCopied } := by
  have hsame : call.expected s.worker = call.expected .waitCopied := by
    simp only [GatherCall.expected, hs]
    split <;> rfl
  exact
    { handler := h.handler.of_moves rfl rfl rfl rfl
        ⟨by simp [hs], by simp, by simp [WorkerPhase.isReady]⟩
      worker :=
        { early := fun hp => absurd hp (by simp [WorkerPhase.pastQuota])
          unconnected := fun hnone => ⟨(h.worker.unconnected hnone).1, by simp⟩
          charges := fun db hdb _ => h.worker.charges db hdb (by rw [hs]; rfl)
          inTime := fun hf => (h.worker.inTime hf).trans hsame }
      ready := fun _ => rfl }

/-- The handler has copied the data. -/
theorem GatherInv.finish (h : GatherInv call s) (hs : s.worker = .waitCopied) :
    GatherInv call { s with worker := .finished } := by
  have hsame : call.expected s.worker = call.expected .finished := by
    simp only [GatherCall.expected, hs]
    split <;> rfl
  refine h.of_phase ⟨by simp [hs], by simp, by simp [WorkerPhase.isReady]⟩ ?_
  exact
    { early := fun hp => absurd hp (by simp [WorkerPhase.pastQuota])
      unconnected := fun hnone => ⟨(h.worker.unconnected hnone).1, by simp⟩
      charges := fun db hdb _ => h.worker.charges db hdb (by rw [hs]; rfl)
      inTime := fun hf => (h.worker.inTime hf).trans hsame }

theorem gatherInv_worker (h : GatherInv call s) : GatherInv call (call.stepWorker s) := by
  simp only [GatherCall.stepWorker]
  split
  next hs hdb => exact h.giveUp hs hdb
  next db hs hdb => exact h.connect hs hdb
  -- the quotas: the flag decides in which of the two ways the records are submitted
  next db hs hdb =>
    exact h.submit hdb (by rw [hs]; rfl)
      ⟨by simp [hs], by simp, by simp [hs, WorkerPhase.isReady]⟩ id _
  -- the loop over the usage records
  next hs hdb =>
    exact h.inLoop hdb (by rw [hs]; rfl)
      ⟨by simp [hs], by simp, by simp [hs, WorkerPhase.isReady]⟩ _
  next db hs hdb =>
    exact h.submit hdb (by rw [hs]; rfl)
      ⟨by simp [hs], by simp, by simp [hs, WorkerPhase.isReady]⟩ (fun _ => rfl) _
  -- the rules
  next db hs hdb =>
    have hpast : s.worker.pastQuota = true := by rw [hs]; rfl
    have hready : s.worker.isReady = false := by rw [hs]; rfl
    refine h.unlessOffline hdb hpast hready (h.advance hdb hpast rfl
      (.of_pastQuota hpast hready rfl) (loadRules_charges ..) fun hf => ?_)
    have hdata := h.worker.inTime hf
    simp only [GatherCall.expected, hdb, hs, GatherCall.dataAt] at hdata ⊢
    rw [hdata]
  -- the marks
  next db hs hdb =>
    exact h.unlessOffline hdb (by rw [hs]; rfl) (by rw [hs]; rfl) (h.mark hs hdb)
  -- the monitoring keys
  next db hs hdb =>
    have hpast : s.worker.pastQuota = true := by rw [hs]; rfl
    have hready : s.worker.isReady = false := by rw [hs]; rfl
    refine h.unlessOffline hdb hpast hready (h.advance hdb hpast rfl
      (.of_pastQuota hpast hready rfl) (loadQuota_charges ..) fun hf => ?_)
    have hdata := h.worker.inTime hf
    simp only [GatherCall.expected, hdb, hs, GatherCall.dataAt] at hdata ⊢
    rw [hdata]
  next hs => exact h.tellReady hs
  next hs =>
    split
    next => exact h.finish hs
    next => exact h
  next => exact h

theorem gatherInv_enterSessionUsage (h : GatherInv call s) :
    GatherInv call (call.enterSessionUsage s) := by
  simp only [GatherCall.enterSessionUsage]
  split
  next db hs hdb =>
    split
    next =>
      exact h.inLoop hdb (by rw [hs]; rfl)
        ⟨by simp [hs], by simp, by simp [hs, WorkerPhase.isReady]⟩ _
    next => exact gatherInv_worker h
  next => exact gatherInv_worker h

theorem gatherInv_step (h : GatherInv call s) (turn : Turn) :
    GatherInv call (call.machine.step s turn) := by
  cases turn with
  | handler => exact gatherInv_handler h
  | worker => exact gatherInv_worker h
  | timeout => exact gatherInv_timeout h
  | enterDefQuota => exact gatherInv_enterDefQuota h
  | enterSessionUsage => exact gatherInv_enterSessionUsage h

theorem gatherInv_run (call : GatherCall) (schedule : List Turn) :
    GatherInv call (call.machine.run schedule) :=
  call.machine.inv_run (gatherInv_start call) (fun _ turn h => gatherInv_step h turn) schedule

/-! ### Handlers that have returned -/

/-- How a handler comes to return a code: it is done with what belongs to the code, or
`pthread_create` has failed and there is no worker. -/
inductive Returns (call : GatherCall) (s : GatherState) (code : Int) : Prop
  | done : s.handler = .done code → CodeOf call s code → ResultOf call code s.gathered →
      Returns call s code
  | createFailed : s.worker = .notCreated → code = call.createCode → code ≠ 0 →
      call.uiThreadCount < call.uiMaxCCRHandlers → s.gathered = call.gathered →
      Returns call s code

theorem GatherInv.returns (h : GatherInv call s) {code : Int}
    (hreturned : s.returned = some code) : Returns call s code := by
  have hh := h.handler
  simp only [HandlerOk] at hh
  cases hs : s.handler with
  | done code' =>
    obtain rfl : code' = code := by simpa [GatherState.returned, hs] using hreturned
    simp only [hs] at hh
    exact .done hs hh.1 hh.2.2
  | createFailed code' =>
    obtain rfl : code' = code := by simpa [GatherState.returned, hs] using hreturned
    simp only [hs] at hh
    obtain ⟨hworker, hcode, hne, hslot, hu⟩ := hh
    exact .createFailed hworker hcode hne hslot hu.2
  | _ => simp [GatherState.returned, hs] at hreturned

/-! ### Why a handler fails -/

/-- The code that the handler is going to return. -/
def HandlerPhase.code? : HandlerPhase → Option Int
  | release code | collect code | loadDefQuota code _ _ _ | unlockCopied code | done code =>
    some code
  | _ => none

/-- The wait of the handler ends, in some state of the run, before the worker is ready. -/
def TimesOut (call : GatherCall) (schedule : List Turn) : Prop :=
  ∃ pre rest, schedule = pre ++ .timeout :: rest ∧
    (call.machine.run pre).handler = .waitReady ∧ (call.machine.run pre).dataReady = false

/-- The ways in which the data of a subscriber is not gathered: no free slot, a wait that ends
too early, and a worker that gets no connection or no answer to its query of the rules. -/
inductive GatherFailure (call : GatherCall) (schedule : List Turn) : Prop
  | limit : call.uiMaxCCRHandlers ≤ call.uiThreadCount → GatherFailure call schedule
  | timeout : TimesOut call schedule → GatherFailure call schedule
  | unconnected : call.createCode = 0 → call.pcoDBConn = none → GatherFailure call schedule
  | query {db : DbConnection} : call.createCode = 0 → call.pcoDBConn = some db →
      StreamOutcome.returned (db.subRules call.soData.subRulesArgs) = false →
      GatherFailure call schedule

theorem stepWorker_handler (call : GatherCall) (s : GatherState) :
    (call.stepWorker s).handler = s.handler := by
  simp only [GatherCall.stepWorker]
  split <;> first | rfl | (split <;> rfl)

theorem enterSessionUsage_handler (call : GatherCall) (s : GatherState) :
    (call.enterSessionUsage s).handler = s.handler := by
  simp only [GatherCall.enterSessionUsage]
  split
  next => split <;> first | rfl | exact stepWorker_handler call s
  next => exact stepWorker_handler call s

theorem readCounter_code (call : GatherCall) (code : Int) (i : Nat) (counter : UsageCounter)
    (soMonitInfo : SDBMonitoringInfo) (s : GatherState) :
    (call.readCounter code i counter soMonitInfo s).handler.code? = some code := by
  obtain ⟨mapMonitInfo, heq | ⟨i', counter', soMonitInfo', heq⟩⟩ :=
    readCounter_cases call code i counter soMonitInfo s <;> rw [heq] <;> rfl

/-- Entering the loop over the usage records says as much of the code as running through it. -/
theorem enterDefQuota_code (call : GatherCall) (s : GatherState) :
    (call.enterDefQuota s).handler.code? = (call.stepHandler s).handler.code? := by
  simp only [GatherCall.enterDefQuota]
  split
  next code hs =>
    split
    next =>
      simp only [GatherCall.stepHandler, hs]
      split <;> rfl
    next => rfl
  next => rfl

theorem stepHandler_code_kept {code : Int} (h : s.handler.code? = some code) :
    (call.stepHandler s).handler.code? = some code := by
  simp only [GatherCall.stepHandler]
  cases hs : s.handler <;> rw [hs] at h
  case release | unlockCopied => exact h
  case done => simpa only [hs] using h
  case collect => dsimp only; split <;> exact h
  case loadDefQuota => exact (readCounter_code ..).trans h
  case enter | launch | waitReady | createFailed => simp [HandlerPhase.code?] at h

/-- Once there is a code it does not change. -/
theorem step_code_kept {code : Int} (h : s.handler.code? = some code) (turn : Turn) :
    (call.machine.step s turn).handler.code? = some code := by
  cases turn with
  | handler => exact stepHandler_code_kept h
  | enterDefQuota => exact (enterDefQuota_code call s).trans (stepHandler_code_kept h)
  | worker => exact (congrArg _ (stepWorker_handler call s)).trans h
  | enterSessionUsage => exact (congrArg _ (enterSessionUsage_handler call s)).trans h
  | timeout =>
    simp only [GatherCall.machine, GatherCall.stepTimeout]
    split
    next hs => simp [hs, HandlerPhase.code?] at h
    next => exact h

theorem stepHandler_code_timedOut
    (h : (call.stepHandler s).handler.code? = some etimedout) :
    s.handler.code? = some etimedout := by
  simp only [GatherCall.stepHandler] at h
  cases hs : s.handler with
  | enter =>
    simp only [hs] at h
    split at h <;> simp [HandlerPhase.code?, ebusy, etimedout] at h
  | launch =>
    simp only [hs] at h
    split at h <;> simp [HandlerPhase.code?] at h
  | waitReady =>
    simp only [hs] at h
    split at h <;> simp [hs, HandlerPhase.code?, etimedout] at h
  | collect code =>
    simp only [hs] at h
    split at h <;> exact h
  | loadDefQuota =>
    simp only [hs] at h
    exact (readCounter_code ..).symm.trans h
  | release | unlockCopied =>
    simp only [hs] at h
    exact h
  | done | createFailed => simpa only [hs] using h

/-- Only a wait that ends before the worker is ready makes the code `ETIMEDOUT`. -/
theorem step_code_timedOut {turn : Turn}
    (h : (call.machine.step s turn).handler.code? = some etimedout) :
    s.handler.code? = some etimedout ∨
      turn = .timeout ∧ s.handler = .waitReady ∧ s.dataReady = false := by
  cases turn with
  | handler => exact .inl (stepHandler_code_timedOut h)
  | enterDefQuota =>
    exact .inl (stepHandler_code_timedOut ((enterDefQuota_code call s).symm.trans h))
  | worker => exact .inl ((congrArg _ (stepWorker_handler call s)).symm.trans h)
  | enterSessionUsage =>
    exact .inl ((congrArg _ (enterSessionUsage_handler call s)).symm.trans h)
  | timeout =>
    simp only [GatherCall.machine, GatherCall.stepTimeout] at h
    split at h
    next hs =>
      split at h
      next => exact .inl h
      next hready => exact .inr ⟨rfl, hs, by simpa using hready⟩
    next => exact .inl h

theorem step_timeout (hwait : s.handler = .waitReady) (hready : s.dataReady = false) :
    (call.machine.step s .timeout).handler.code? = some etimedout := by
  simp only [GatherCall.machine, GatherCall.stepTimeout, hwait, hready]
  rfl

theorem run_code_timedOut_iff (call : GatherCall) (schedule : List Turn) :
    (call.machine.run schedule).handler.code? = some etimedout ↔ TimesOut call schedule := by
  induction schedule using List.reverseRecOn with
  | nil =>
    refine iff_of_false (by simp [Machine.run, Machine.runFrom, GatherCall.machine,
      GatherCall.start, HandlerPhase.code?]) ?_
    rintro ⟨pre, rest, hsplit, -⟩
    simp at hsplit
  | append_singleton schedule turn ih =>
    rw [Machine.run_snoc]
    constructor
    · intro h
      rcases step_code_timedOut h with hbefore | ⟨rfl, hwait, hready⟩
      · obtain ⟨pre, rest, rfl, hpre⟩ := ih.mp hbefore
        exact ⟨pre, rest ++ [turn], by simp, hpre⟩
      · exact ⟨schedule, [], rfl, hwait, hready⟩
    · rintro ⟨pre, rest, hsplit, hwait, hready⟩
      -- `reverseRecOn` takes the last step off, so the split is looked at from behind
      rcases List.eq_nil_or_concat rest with rfl | ⟨rest, last, rfl⟩
      · -- the wait ends with the last step
        obtain ⟨rfl, hturn⟩ := List.append_inj' hsplit rfl
        obtain rfl := List.singleton_inj.mp hturn
        exact step_timeout hwait hready
      · refine step_code_kept (ih.mpr ⟨pre, rest, ?_, hwait, hready⟩) turn
        rw [List.concat_eq_append, ← List.cons_append, ← List.append_assoc] at hsplit
        exact (List.append_inj' hsplit rfl).1

/-- A wait can end too early only after a thread was created. -/
theorem TimesOut.created {schedule : List Turn} (h : TimesOut call schedule) :
    call.createCode = 0 := by
  obtain ⟨pre, -, -, hwait, -⟩ := h
  have hh := (gatherInv_run call pre).handler
  simp only [HandlerOk, hwait] at hh
  exact hh.1.created

/-- A handler fails when there is no free slot for its thread, when the thread cannot be
created and when its wait ends too early; there is no other way. -/
theorem returned_nonzero_iff {schedule : List Turn} {code : Int}
    (h : (call.machine.run schedule).returned = some code) :
    code ≠ 0 ↔ call.uiMaxCCRHandlers ≤ call.uiThreadCount ∨ TimesOut call schedule ∨
      call.createCode ≠ 0 := by
  have htimed := run_code_timedOut_iff call schedule
  cases (gatherInv_run call schedule).returns h with
  | done hdone hcode =>
    simp only [hdone, HandlerPhase.code?, Option.some.injEq] at htimed
    rw [← htimed]
    cases hcode with
    | inTime hl => simpa [etimedout, hl.created] using hl.slot
    | timedOut => simp [etimedout]
    | busy hbusy => simp [ebusy, hbusy]
  | createFailed _ hcode hne => exact iff_of_true hne (.inr (.inr (hcode ▸ hne)))

/-- Of the failures, the handler knows of its own only. -/
theorem GatherFailure.returned_nonzero_iff {schedule : List Turn} {code : Int}
    (hfail : GatherFailure call schedule)
    (h : (call.machine.run schedule).returned = some code) :
    code ≠ 0 ↔ call.uiMaxCCRHandlers ≤ call.uiThreadCount ∨ TimesOut call schedule := by
  rw [Pcrf.returned_nonzero_iff h]
  cases hfail with
  | limit hbusy => simp [hbusy]
  | timeout htime => simp [htime]
  | unconnected hcreated | query hcreated => simp [hcreated]

/-- A handler without a free slot, or whose wait has ended too early, falls back. -/
theorem returned_fallback {schedule : List Turn} {code : Int}
    (h : (call.machine.run schedule).returned = some code)
    (hfail : call.uiMaxCCRHandlers ≤ call.uiThreadCount ∨ TimesOut call schedule) :
    code ≠ 0 ∧ FallsBackTo call (call.machine.run schedule).gathered := by
  have hne : code ≠ 0 := (returned_nonzero_iff h).mpr (hfail.imp_right .inl)
  cases (gatherInv_run call schedule).returns h with
  | done _ _ hresult => exact ⟨hne, hresult.late hne⟩
  | createFailed _ hcode _ hslot =>
    rcases hfail with hbusy | htime
    · exact absurd hslot (Nat.not_lt_of_le hbusy)
    · exact absurd (hcode.trans htime.created) hne

end Pcrf
