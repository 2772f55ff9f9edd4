import Pcrf.GatheringUsage

/-!
The data that a handler and its worker share is deleted once, by the worker, and nobody uses it
afterwards.
-/

namespace Pcrf

open Lib

variable {call : GatherCall} {s : GatherState}

/-! ### Who uses the data -/

/-- A use of the `STimedData` of a call and of the `SSubscriberData` in it, and their deletion. -/
inductive DataUse where
  | handler
  | worker
  | delete
  deriving Repr, DecidableEq

/-- To give its slot back the handler needs the counter of the threads only. -/
def HandlerPhase.usesData : HandlerPhase → Bool
  | release _ | done _ | createFailed _ => false
  | _ => true

/-- The uses that a step makes of the data. -/
def GatherState.dataUses (s : GatherState) : Turn → List DataUse
  | .handler | .enterDefQuota => if s.handler.usesData then [.handler] else []
  | .timeout => if s.handler = .waitReady then [.handler] else []
  | .worker | .enterSessionUsage =>
    match s.worker with
    | .notCreated | .finished => []
    -- `delete psoParam` follows the lock that waits for the handler
    | .waitCopied => if s.dataCopied then [.worker, .delete] else [.worker]
    | _ => [.worker]

/-- The mutex that the worker waits for at its end is released by the handler's last step. -/
structure EndOk (s : GatherState) : Prop where
  copied : s.dataCopied = true → ∃ code, s.handler = .done code
  finished : s.worker = .finished → s.dataCopied = true

/-- A step of the handler's: after its last one nothing changes, and that one releases the
mutex. -/
theorem EndOk.of_frame {s' : GatherState} (h : EndOk s) (hframe : HandlerFrame s s')
    (hdone : ∀ code, s.handler = .done code → s' = s)
    (hcopied : s'.dataCopied = true → s.dataCopied = true ∨ ∃ code, s'.handler = .done code) :
    EndOk s' where
  copied hc := by
    rcases hcopied hc with hbefore | hlast
    · obtain ⟨code, hcode⟩ := h.copied hbefore
      exact ⟨code, hdone code hcode ▸ hcode⟩
    · exact hlast
  finished hf := by
    rcases hframe.worker with hsame | ⟨-, hconnect⟩
    · have hbefore := h.finished (hsame ▸ hf)
      obtain ⟨code, hcode⟩ := h.copied hbefore
      exact hdone code hcode ▸ hbefore
    · simp [hconnect] at hf

theorem stepHandler_copied (h : (call.stepHandler s).dataCopied = true) :
    s.dataCopied = true ∨ ∃ code, (call.stepHandler s).handler = .done code := by
  simp only [GatherCall.stepHandler] at h ⊢
  cases hs : s.handler with
  | enter | launch | waitReady | collect =>
    left
    simp only [hs] at h
    split at h <;> exact h
  | loadDefQuota code i counter soMonitInfo =>
    left
    simp only [hs] at h
    obtain ⟨mapMonitInfo, heq | ⟨i', counter', soMonitInfo', heq⟩⟩ :=
      readCounter_cases call code i counter soMonitInfo s <;> (rw [heq] at h; exact h)
  | unlockCopied code => exact .inr ⟨code, rfl⟩
  | release | done | createFailed =>
    left
    simpa only [hs] using h

theorem endOk_handler (h : EndOk s) : EndOk (call.stepHandler s) :=
  h.of_frame (stepHandler_frame call s)
    (fun _ hs => by simp only [GatherCall.stepHandler, hs]) stepHandler_copied

theorem endOk_enterDefQuota (h : EndOk s) : EndOk (call.enterDefQuota s) := by
  refine h.of_frame (enterDefQuota_frame call s)
    (fun _ hs => by simp only [GatherCall.enterDefQuota, GatherCall.stepHandler, hs]) ?_
  simp only [GatherCall.enterDefQuota]
  split
  next =>
    split
    next => exact .inl
    next => exact stepHandler_copied
  next => exact stepHandler_copied

theorem endOk_timeout (h : EndOk s) : EndOk (GatherCall.stepTimeout s) := by
  refine h.of_frame (stepTimeout_frame s)
    (fun _ hs => by simp only [GatherCall.stepTimeout, hs]) ?_
  simp only [GatherCall.stepTimeout]
  split
  next => split <;> exact .inl
  next => exact .inl

/-- The worker comes to its end when the mutex has been released to it. -/
theorem stepWorker_finished_iff (call : GatherCall) (s : GatherState) :
    (call.stepWorker s).worker = .finished ↔
      s.worker = .finished ∨ s.worker = .waitCopied ∧ s.dataCopied = true := by
  simp only [GatherCall.stepWorker]
  split
  next hs _ => simp [hs]
  next hs _ => simp [hs]
  next hs _ => simp [hs]
  next hs _ => simp [hs]
  next hs _ => simp [hs]
  next hs _ => split <;> simp [hs]
  next hs _ =>
    split
    next => simp [hs]
    next => dsimp only; split <;> simp [hs]
  next hs _ => split <;> simp [hs]
  next hs => simp [hs]
  next hs => split <;> simp_all
  next hwait _ => simp_all

theorem stepWorker_dataCopied (call : GatherCall) (s : GatherState) :
    (call.stepWorker s).dataCopied = s.dataCopied := by
  simp only [GatherCall.stepWorker]
  split <;> first | rfl | (split <;> rfl)

theorem enterSessionUsage_finished_iff (call : GatherCall) (s : GatherState) :
    (call.enterSessionUsage s).worker = .finished ↔
      s.worker = .finished ∨ s.worker = .waitCopied ∧ s.dataCopied = true := by
  simp only [GatherCall.enterSessionUsage]
  split
  next hs _ =>
    split
    next => simp [hs]
    next => exact stepWorker_finished_iff call s
  next => exact stepWorker_finished_iff call s

theorem enterSessionUsage_dataCopied (call : GatherCall) (s : GatherState) :
    (call.enterSessionUsage s).dataCopied = s.dataCopied := by
  simp only [GatherCall.enterSessionUsage]
  split
  next => split <;> first | rfl | exact stepWorker_dataCopied call s
  next => exact stepWorker_dataCopied call s

theorem EndOk.of_worker {s' : GatherState} (h : EndOk s) (hhandler : s'.handler = s.handler)
    (hcopied : s'.dataCopied = s.dataCopied)
    (hfinished : s'.worker = .finished ↔
      s.worker = .finished ∨ s.worker = .waitCopied ∧ s.dataCopied = true) : EndOk s' where
  copied hc := by
    rw [hhandler]
    exact h.copied (hcopied ▸ hc)
  finished hf := by
    rw [hcopied]
    exact (hfinished.mp hf).elim h.finished And.right

theorem endOk_start (call : GatherCall) : EndOk call.start :=
  ⟨fun hc => by simp [GatherCall.start] at hc, fun hf => by simp [GatherCall.start] at hf⟩

theorem endOk_step (h : EndOk s) (turn : Turn) : EndOk (call.machine.step s turn) := by
  cases turn with
  | handler => exact endOk_handler h
  | worker =>
    exact h.of_worker (stepWorker_handler call s) (stepWorker_dataCopied call s)
      (stepWorker_finished_iff call s)
  | timeout => exact endOk_timeout h
  | enterDefQuota => exact endOk_enterDefQuota h
  | enterSessionUsage =>
    exact h.of_worker (enterSessionUsage_handler call s) (enterSessionUsage_dataCopied call s)
      (enterSessionUsage_finished_iff call s)

theorem endOk_run (call : GatherCall) (schedule : List Turn) :
    EndOk (call.machine.run schedule) :=
  call.machine.inv_run (endOk_start call) (fun _ turn h => endOk_step h turn) schedule

/-- The deletion of the data, by a worker that has come to its end. -/
def GatherState.deletion (s : GatherState) : List DataUse :=
  if s.worker = .finished then [.delete] else []

/-- The worker's uses of the data end with its deletion. -/
theorem worker_dataUses {s' : GatherState} (turn : Turn)
    (hturn : turn = .worker ∨ turn = .enterSessionUsage)
    (hfinished : s'.worker = .finished ↔
      s.worker = .finished ∨ s.worker = .waitCopied ∧ s.dataCopied = true) :
    ∃ uses, DataUse.delete ∉ uses ∧
      s.deletion ++ s.dataUses turn = uses ++ s'.deletion := by
  have huses : s.dataUses turn = s.dataUses .worker := by
    rcases hturn with rfl | rfl <;> rfl
  rw [huses]
  cases hs : s.worker with
  | notCreated => exact ⟨[], by simp, by simp_all [GatherState.deletion, GatherState.dataUses]⟩
  | finished => exact ⟨[], by simp, by simp_all [GatherState.deletion, GatherState.dataUses]⟩
  | waitCopied =>
    refine ⟨[.worker], by simp, ?_⟩
    cases hcopied : s.dataCopied <;> simp_all [GatherState.deletion, GatherState.dataUses]
  | connect | updateQuota | sessionUsage | loadRules | markActive | loadQuota | unlockReady =>
    exact ⟨[.worker], by simp, by simp_all [GatherState.deletion, GatherState.dataUses]⟩

/-- After the deletion the handler does not use the data any more. -/
theorem handler_dataUses {s' : GatherState} (h : EndOk s) (hframe : HandlerFrame s s')
    (turn : Turn) (hturn : turn = .handler ∨ turn = .enterDefQuota ∨ turn = .timeout) :
    ∃ uses, DataUse.delete ∉ uses ∧
      s.deletion ++ s.dataUses turn = uses ++ s'.deletion := by
  have hnodelete : DataUse.delete ∉ s.dataUses turn := by
    rcases hturn with rfl | rfl | rfl <;> (simp only [GatherState.dataUses]; split <;> simp)
  by_cases hs : s.worker = .finished
  · obtain ⟨code, hdone⟩ := h.copied (h.finished hs)
    have hnone : s.dataUses turn = [] := by
      rcases hturn with rfl | rfl | rfl <;>
        simp [GatherState.dataUses, hdone, HandlerPhase.usesData]
    have hs' : s'.worker = .finished := by
      rcases hframe.worker with hsame | ⟨hlaunch, -⟩
      · exact hsame.trans hs
      · simp [hdone] at hlaunch
    exact ⟨[], List.not_mem_nil, by simp [hnone, GatherState.deletion, hs, hs']⟩
  · have hs' : s'.worker ≠ .finished := by
      rcases hframe.worker with hsame | ⟨-, hconnect⟩
      · exact hsame ▸ hs
      · simp [hconnect]
    exact ⟨_, hnodelete, by simp [GatherState.deletion, hs, hs']⟩

theorem step_dataUses (h : EndOk s) (turn : Turn) :
    ∃ uses, DataUse.delete ∉ uses ∧
      s.deletion ++ s.dataUses turn = uses ++ (call.machine.step s turn).deletion := by
  cases turn with
  | handler => exact handler_dataUses h (stepHandler_frame call s) _ (.inl rfl)
  | enterDefQuota => exact handler_dataUses h (enterDefQuota_frame call s) _ (.inr (.inl rfl))
  | timeout => exact handler_dataUses h (stepTimeout_frame s) _ (.inr (.inr rfl))
  | worker => exact worker_dataUses _ (.inl rfl) (stepWorker_finished_iff call s)
  | enterSessionUsage => exact worker_dataUses _ (.inr rfl) (enterSessionUsage_finished_iff call s)

/-- The data that both threads use is deleted exactly once by a worker that has come to its end,
and it is the last thing done with it. -/
theorem data_deleted_last (call : GatherCall) (schedule : List Turn) :
    ∃ uses, DataUse.delete ∉ uses ∧
      call.machine.trace GatherState.dataUses schedule =
        uses ++ (call.machine.run schedule).deletion := by
  induction schedule using List.reverseRecOn with
  | nil => exact ⟨[], List.not_mem_nil, rfl⟩
  | append_singleton schedule turn ih =>
    obtain ⟨before, hbefore, htrace⟩ := ih
    obtain ⟨uses, huses, hstep⟩ := step_dataUses (endOk_run call schedule) turn
    refine ⟨before ++ uses, by simp [hbefore, huses], ?_⟩
    rw [Machine.trace_snoc, Machine.run_snoc, htrace, List.append_assoc, hstep, List.append_assoc]

end Pcrf
