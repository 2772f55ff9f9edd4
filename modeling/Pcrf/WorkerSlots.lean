import Pcrf.GatheringOutcome
import Pcrf.Lib.Tally

/-!
Any number of calls of `pcrf_subscriber_data_proc` side by side, with the counter of the threads
that they share.
-/

namespace Pcrf

open Lib

/-! ### Calls side by side -/

/-- `g_uiThreadCount`, and the calls so far, each with its threads. -/
structure CcrCalls where
  uiThreadCount : Nat := 0
  calls : List (GatherCall × GatherState) := []

/-- A handler calls `pcrf_subscriber_data_proc`, or a thread of a call goes on. -/
inductive CcrCallsOp where
  | arrive (call : GatherCall)
  | turn (i : Nat) (turn : Turn)

/-- A thread of call `i` makes its turn, with the counter as it finds it. -/
def CcrCalls.take (s : CcrCalls) (i : Nat) (call : GatherCall) (g : GatherState) (turn : Turn) :
    CcrCalls :=
  let next := call.machine.step { g with uiThreadCount := s.uiThreadCount } turn
  { uiThreadCount := next.uiThreadCount, calls := s.calls.set i (call, next) }

/-- The calls of a node that was configured with this number of handlers. -/
def ccrCallsMachine (uiMaxCCRHandlers : Nat) : Machine CcrCalls CcrCallsOp where
  init := {}
  step s
    | .arrive call =>
      let call := { call with uiMaxCCRHandlers }
      { s with calls := s.calls ++ [(call, call.start)] }
    | .turn i turn =>
      match s.calls[i]? with
      | some (call, g) => s.take i call g turn
      | none => s

/-! ### What the counter counts -/

/-- 1 for a thread that was launched and has not finished. -/
def WorkerPhase.live : WorkerPhase → Nat
  | notCreated | finished => 0
  | _ => 1

/-- The thread still gathers, or is about to tell that it is ready. -/
def WorkerPhase.atWork : WorkerPhase → Bool
  | connect | updateQuota | sessionUsage _ | loadRules | markActive | loadQuota
  | unlockReady => true
  | notCreated | waitCopied | finished => false

/-- 1 for a thread at work. -/
def WorkerPhase.working (phase : WorkerPhase) : Nat := if phase.atWork then 1 else 0

/-- 1 between `pcrf_subscriber_data_increment_counter` and
`pcrf_subscriber_data_decrement_counter`. -/
def HandlerPhase.slot : HandlerPhase → Nat
  | launch | waitReady | release _ => 1
  | _ => 0

/-- Neither is a thread being launched, nor does it finish, nor is its slot given back. -/
structure GatherState.Quiet (g : GatherState) : Prop where
  launched : g.handler ≠ .launch
  released : ∀ code, g.handler ≠ .release code
  ended : g.worker ≠ .waitCopied
  waited : ¬ (g.handler = .waitReady ∧ g.dataReady = true)

/-- While nothing of that goes on, the counter is the number of live threads, and these are not
more than configured; the threads at work are never more. -/
structure CcrCalls.Accounts (uiMaxCCRHandlers : Nat) (s : CcrCalls) : Prop where
  counts : (∀ call ∈ s.calls, call.2.Quiet) →
    s.uiThreadCount = tally (fun call => call.2.worker.live) s.calls ∧
      tally (fun call => call.2.worker.live) s.calls ≤ uiMaxCCRHandlers
  works : tally (fun call => call.2.worker.working) s.calls ≤ uiMaxCCRHandlers

/-- A turn of the handler in which `pthread_create` fails, or in which it gives the slot back
while its thread is still at work. -/
def GatherCall.missesSlot (call : GatherCall) (g : GatherState) (turn : Turn) : Bool :=
  (turn == .handler || turn == .enterDefQuota) &&
    match g.handler with
    | .launch => call.createCode != 0
    | .release _ => g.worker.atWork
    | _ => false

/-- The step is none of these. -/
def SlotKept (s : CcrCalls) : CcrCallsOp → Prop
  | .arrive _ => True
  | .turn i turn => ∀ call ∈ s.calls[i]?, call.1.missesSlot call.2 turn = false

instance (s : CcrCalls) : ∀ op, Decidable (SlotKept s op)
  | .arrive _ => .isTrue trivial
  | .turn i turn =>
    inferInstanceAs (Decidable (∀ call ∈ s.calls[i]?, call.1.missesSlot call.2 turn = false))

/-! ### One call -/

/-- Where the thread is, by where its handler is. -/
def GatherState.SlotOk (g : GatherState) : Prop :=
  match g.handler with
  | .enter | .launch => g.worker = .notCreated ∧ g.dataReady = false
  | .waitReady => g.worker ≠ .notCreated ∧ g.dataReady = !g.worker.atWork
  | .release _ => g.worker ≠ .notCreated
  | .createFailed _ => False
  | _ => g.worker.atWork = false

/-- What a turn of a call does with the slot. -/
structure TurnOk (call : GatherCall) (g g' : GatherState) : Prop where
  ok : g'.SlotOk
  count : g'.uiThreadCount + g.handler.slot = g.uiThreadCount + g'.handler.slot
  bounded : g.uiThreadCount ≤ call.uiMaxCCRHandlers → g'.uiThreadCount ≤ call.uiMaxCCRHandlers

section Call

variable {call : GatherCall} {g : GatherState}

/-- A turn that leaves the counter alone. -/
theorem turnOk_of_count {g' : GatherState} (ok : g'.SlotOk)
    (count : g'.uiThreadCount = g.uiThreadCount) (slot : g'.handler.slot = g.handler.slot) :
    TurnOk call g g' := by
  refine ⟨ok, ?_, fun h => ?_⟩
  · rw [count, slot]
  · rw [count]
    exact h

theorem handler_turnOk (h : g.SlotOk) (held : g.handler.slot ≤ g.uiThreadCount)
    (kept : call.missesSlot g .handler = false) : TurnOk call g (call.stepHandler g) := by
  unfold GatherState.SlotOk at h
  unfold GatherCall.stepHandler
  cases phase : g.handler with
  | enter =>
    simp only [phase] at h ⊢
    split
    next free => exact ⟨h, by simp [phase, HandlerPhase.slot], fun _ => free⟩
    next =>
      -- there is no slot, and no thread will be created
      refine turnOk_of_count ?_ rfl (by simp [phase, HandlerPhase.slot])
      simp only [GatherState.SlotOk, h.1]
      rfl
  | launch =>
    simp only [phase] at h ⊢
    split
    next =>
      refine turnOk_of_count ?_ rfl (by simp [phase, HandlerPhase.slot])
      refine ⟨WorkerPhase.noConfusion, ?_⟩
      show g.dataReady = _
      rw [h.2]
      rfl
    next failed => simp [GatherCall.missesSlot, phase, failed] at kept
  | waitReady =>
    simp only [phase] at h ⊢
    split
    next => exact turnOk_of_count h.1 rfl (by simp [phase, HandlerPhase.slot])
    next =>
      refine turnOk_of_count ?_ rfl rfl
      simp only [GatherState.SlotOk, phase]
      exact h
  | release code =>
    simp only [phase, HandlerPhase.slot] at h held ⊢
    -- no slot is missed, so the thread is no more at work
    have done : g.worker.atWork = false := by simpa [GatherCall.missesSlot, phase] using kept
    refine ⟨done, ?_, fun h => Nat.le_trans (Nat.sub_le ..) h⟩
    simp only [phase, HandlerPhase.slot]
    omega
  | collect code =>
    simp only [phase] at h ⊢
    split <;> exact turnOk_of_count h rfl (by simp [phase, HandlerPhase.slot])
  | loadDefQuota code i counter soMonitInfo =>
    simp only [phase] at h ⊢
    -- a step of the loop over the quotas leads on in it, or out of it
    obtain ⟨mapMonitInfo, same | ⟨i', counter', soMonitInfo', same⟩⟩ :=
      readCounter_cases call code i counter soMonitInfo g
    · rw [same]
      exact turnOk_of_count h rfl (by simp [phase, HandlerPhase.slot])
    · rw [same]
      exact turnOk_of_count h rfl (by simp [phase, HandlerPhase.slot])
  | unlockCopied code =>
    simp only [phase] at h ⊢
    exact turnOk_of_count h rfl (by simp [phase, HandlerPhase.slot])
  | done code =>
    refine turnOk_of_count ?_ rfl rfl
    simp only [GatherState.SlotOk, phase] at h ⊢
    exact h
  | createFailed code =>
    simp only [phase] at h

theorem enterDefQuota_turnOk (h : g.SlotOk) (held : g.handler.slot ≤ g.uiThreadCount)
    (kept : call.missesSlot g .enterDefQuota = false) : TurnOk call g (call.enterDefQuota g) := by
  have whole : TurnOk call g (call.stepHandler g) := handler_turnOk h held kept
  unfold GatherCall.enterDefQuota
  cases phase : g.handler with
  | collect code =>
    simp only
    split
    next =>
      simp only [GatherState.SlotOk, phase] at h
      exact turnOk_of_count h rfl (by simp [phase, HandlerPhase.slot])
    next => exact whole
  | _ => exact whole

theorem timeout_turnOk (h : g.SlotOk) : TurnOk call g (GatherCall.stepTimeout g) := by
  have same : TurnOk call g g := turnOk_of_count h rfl rfl
  unfold GatherCall.stepTimeout
  cases phase : g.handler with
  | waitReady =>
    simp only [GatherState.SlotOk, phase] at h
    simp only
    split
    next => exact same
    next => exact turnOk_of_count h.1 rfl (by simp [phase, HandlerPhase.slot])
  | _ => exact same

/-- A turn of the thread: it tells that it is ready, or it does not change whether it is at work. -/
structure WorkerTurn (g g' : GatherState) : Prop where
  handler : g'.handler = g.handler
  uiThreadCount : g'.uiThreadCount = g.uiThreadCount
  worker : (g'.worker.atWork = g.worker.atWork ∧ g'.dataReady = g.dataReady ∧
      (g'.worker = .notCreated ↔ g.worker = .notCreated)) ∨
    (g.worker = .unlockReady ∧ g'.worker = .waitCopied ∧ g'.dataReady = true)

theorem stepWorker_turn (call : GatherCall) (g : GatherState) :
    WorkerTurn g (call.stepWorker g) := by
  unfold GatherCall.stepWorker
  split
  next phase _ => exact ⟨rfl, rfl, .inl (by simp [phase, WorkerPhase.atWork])⟩
  next phase _ => exact ⟨rfl, rfl, .inl (by simp [phase, WorkerPhase.atWork])⟩
  next phase _ => exact ⟨rfl, rfl, .inl (by simp [phase, WorkerPhase.atWork])⟩
  next phase _ => exact ⟨rfl, rfl, .inl (by simp [phase, WorkerPhase.atWork])⟩
  next phase _ => exact ⟨rfl, rfl, .inl (by simp [phase, WorkerPhase.atWork])⟩
  next phase _ => split <;> exact ⟨rfl, rfl, .inl (by simp [phase, WorkerPhase.atWork])⟩
  next phase _ =>
    split
    next => exact ⟨rfl, rfl, .inl (by simp [phase, WorkerPhase.atWork])⟩
    next =>
      refine ⟨rfl, rfl, .inl ?_⟩
      simp only [phase]
      split <;> simp [WorkerPhase.atWork]
  next phase _ => split <;> exact ⟨rfl, rfl, .inl (by simp [phase, WorkerPhase.atWork])⟩
  next phase => exact ⟨rfl, rfl, .inr ⟨phase, rfl, rfl⟩⟩
  next phase => split <;> exact ⟨rfl, rfl, .inl (by simp [phase, WorkerPhase.atWork])⟩
  next => exact ⟨rfl, rfl, .inl ⟨rfl, rfl, Iff.rfl⟩⟩

theorem enterSessionUsage_turn (call : GatherCall) (g : GatherState) :
    WorkerTurn g (call.enterSessionUsage g) := by
  unfold GatherCall.enterSessionUsage
  split
  next phase _ =>
    split
    next => exact ⟨rfl, rfl, .inl (by simp [phase, WorkerPhase.atWork])⟩
    next => exact stepWorker_turn call g
  next => exact stepWorker_turn call g

theorem worker_turnOk (h : g.SlotOk) {g' : GatherState} (turn : WorkerTurn g g') :
    TurnOk call g g' := by
  refine turnOk_of_count ?_ turn.uiThreadCount (by rw [turn.handler])
  unfold GatherState.SlotOk at h ⊢
  rw [turn.handler]
  rcases turn.worker with ⟨works, ready, created⟩ | ⟨before, after, ready⟩
  · rw [works, ready]
    -- the handler cannot tell where in its work the thread is
    cases phase : g.handler with
    | enter | launch =>
      simp only [phase] at h ⊢
      exact ⟨created.mpr h.1, h.2⟩
    | waitReady =>
      simp only [phase] at h ⊢
      exact ⟨created.not.mpr h.1, h.2⟩
    | release code =>
      simp only [phase] at h ⊢
      exact created.not.mpr h
    | collect | loadDefQuota | unlockCopied | done =>
      simp only [phase] at h ⊢
      exact h
    | createFailed => simp only [phase] at h
  · -- a thread at work that has told is none at work
    rw [before] at h
    rw [after, ready]
    cases phase : g.handler <;> simp_all [WorkerPhase.atWork]

/-- A turn that does not miss the slot. -/
theorem turn_turnOk (h : g.SlotOk) (held : g.handler.slot ≤ g.uiThreadCount) {turn : Turn}
    (kept : call.missesSlot g turn = false) : TurnOk call g (call.machine.step g turn) := by
  cases turn with
  | handler => exact handler_turnOk h held kept
  | enterDefQuota => exact enterDefQuota_turnOk h held kept
  | timeout => exact timeout_turnOk h
  | worker => exact worker_turnOk h (stepWorker_turn call g)
  | enterSessionUsage => exact worker_turnOk h (enterSessionUsage_turn call g)

end Call

/-! ### All calls -/

/-- The counter counts the handlers that have a slot. -/
structure CcrCalls.Ok (uiMaxCCRHandlers : Nat) (s : CcrCalls) : Prop where
  calls : ∀ call ∈ s.calls, call.1.uiMaxCCRHandlers = uiMaxCCRHandlers ∧ call.2.SlotOk
  count : s.uiThreadCount = tally (fun call => call.2.handler.slot) s.calls
  bounded : s.uiThreadCount ≤ uiMaxCCRHandlers

section Run

variable {uiMaxCCRHandlers : Nat} {s : CcrCalls}

theorem ok_arrive (ok : s.Ok uiMaxCCRHandlers) (call : GatherCall) :
    ((ccrCallsMachine uiMaxCCRHandlers).step s (.arrive call)).Ok uiMaxCCRHandlers where
  calls other mem := by
    rcases List.mem_append.mp mem with before | new
    · exact ok.calls other before
    · obtain rfl := List.mem_singleton.mp new
      exact ⟨rfl, rfl, rfl⟩
  count := by
    show s.uiThreadCount = tally _ (s.calls ++ _)
    rw [ok.count, tally_append]
    rfl
  bounded := ok.bounded

theorem ok_turn (ok : s.Ok uiMaxCCRHandlers) {i : Nat} {turn : Turn}
    (kept : SlotKept s (.turn i turn)) :
    ((ccrCallsMachine uiMaxCCRHandlers).step s (.turn i turn)).Ok uiMaxCCRHandlers := by
  simp only [ccrCallsMachine]
  cases there : s.calls[i]? with
  | none => exact ok
  | some entry =>
    obtain ⟨call, g⟩ := entry
    have mem := List.mem_of_getElem? there
    have held : g.handler.slot ≤ s.uiThreadCount := by
      rw [ok.count]
      exact le_tally (fun call => call.2.handler.slot) mem
    -- the counter is shared, so the call goes on with its present value
    let counted : GatherState := { g with uiThreadCount := s.uiThreadCount }
    have before : counted.SlotOk := (ok.calls _ mem).2
    have turned : TurnOk call counted (call.machine.step counted turn) :=
      turn_turnOk before held (kept _ there)
    -- only this call may hold another number of slots than before
    have sum := tally_set (fun call => call.2.handler.slot) there
      (call, call.machine.step counted turn)
    have count := turned.count
    refine ⟨fun other later => ?_, ?_, ?_⟩
    · rcases List.mem_or_eq_of_mem_set later with before | rfl
      · exact ok.calls other before
      · exact ⟨(ok.calls _ mem).1, turned.ok⟩
    · have all := ok.count
      show (call.machine.step counted turn).uiThreadCount = tally _ (s.calls.set i _)
      simp only [counted] at sum count ⊢
      omega
    · have bounded := turned.bounded
      rw [(ok.calls _ mem).1] at bounded
      exact bounded ok.bounded

theorem ok_run {ops : List CcrCallsOp}
    (kept : (ccrCallsMachine uiMaxCCRHandlers).Meets SlotKept ops) :
    ((ccrCallsMachine uiMaxCCRHandlers).run ops).Ok uiMaxCCRHandlers := by
  have init : (ccrCallsMachine uiMaxCCRHandlers).init.Ok uiMaxCCRHandlers :=
    ⟨fun _ mem => absurd mem List.not_mem_nil, rfl, Nat.zero_le _⟩
  refine Machine.inv_of_meets _ init ?_ kept
  intro s op ok kept
  cases op with
  | arrive call => exact ok_arrive ok call
  | turn i turn => exact ok_turn ok kept

theorem working_le_slot {g : GatherState} (h : g.SlotOk) : g.worker.working ≤ g.handler.slot := by
  have atMost : g.worker.working ≤ 1 := by
    unfold WorkerPhase.working
    split <;> omega
  unfold GatherState.SlotOk at h
  cases phase : g.handler with
  | launch | waitReady | release => exact atMost
  | enter =>
    simp only [phase] at h
    rw [h.1]
    exact Nat.le_refl _
  | createFailed => simp only [phase] at h
  | collect | loadDefQuota | unlockCopied | done =>
    simp only [phase] at h
    simp [WorkerPhase.working, h]

/-- In a quiet call the handler has its slot as long as its thread lives. -/
theorem live_eq_slot {g : GatherState} (h : g.SlotOk) (quiet : g.Quiet) :
    g.worker.live = g.handler.slot := by
  have waited := quiet.waited
  have ended := quiet.ended
  have launched := quiet.launched
  unfold GatherState.SlotOk at h
  cases phase : g.handler with
  | release code => exact absurd phase (quiet.released code)
  | createFailed => simp only [phase] at h
  | _ =>
    simp only [phase] at h
    cases worker : g.worker <;>
      simp_all [WorkerPhase.live, WorkerPhase.atWork, HandlerPhase.slot]

theorem accounts_of_ok (ok : s.Ok uiMaxCCRHandlers) : s.Accounts uiMaxCCRHandlers where
  counts quiet := by
    have same : tally (fun call => call.2.worker.live) s.calls = s.uiThreadCount := by
      rw [ok.count]
      exact tally_congr fun call mem => live_eq_slot (ok.calls call mem).2 (quiet call mem)
    exact ⟨same.symm, same ▸ ok.bounded⟩
  works := by
    have := ok.bounded
    rw [ok.count] at this
    exact (tally_le_of_mem fun call mem => working_le_slot (ok.calls call mem).2).trans this

end Run

/-- As long as every thread is created and none is still at work when its handler gives the slot
back, the counter counts the threads and bounds them. -/
theorem slots_account (uiMaxCCRHandlers : Nat) {ops : List CcrCallsOp}
    (kept : (ccrCallsMachine uiMaxCCRHandlers).Meets SlotKept ops) {pre : List CcrCallsOp}
    (h : pre <+: ops) :
    ((ccrCallsMachine uiMaxCCRHandlers).run pre).Accounts uiMaxCCRHandlers := by
  obtain ⟨more, rfl⟩ := h
  exact accounts_of_ok (ok_run ((Machine.meetsFrom_append _ _ _ _ _).mp kept).1)

/-- A thread finds no connection and tells at once that it is ready; then the next one comes. -/
def promptOps : List CcrCallsOp :=
  [.arrive { spentCall with pcoDBConn := none }, .turn 0 .handler, .turn 0 .handler,
    .turn 0 .worker, .turn 0 .worker, .turn 0 .handler, .turn 0 .handler, .turn 0 .handler,
    .turn 0 .handler, .turn 0 .worker, .arrive spentCall, .turn 1 .handler, .turn 1 .handler]

theorem prompt_slots_account : ((ccrCallsMachine 1).run promptOps).Accounts 1 :=
  slots_account 1 (by decide) (List.prefix_refl promptOps)

/-- The first handler does not wait until its thread is ready, and the second one takes its
slot. -/
def overtakingOps : List CcrCallsOp :=
  [.arrive spentCall, .turn 0 .handler, .turn 0 .handler, .turn 0 .timeout, .turn 0 .handler,
    .arrive spentCall, .turn 1 .handler, .turn 1 .handler]

/-- There is no thread for the handler: `EAGAIN`. -/
def threadlessOps : List CcrCallsOp :=
  [.arrive { spentCall with createCode := 11 }, .turn 0 .handler, .turn 0 .handler]

/-- Two threads are at work in the one slot; or the slot is taken, and there is no thread. -/
theorem slots_miscounted :
    (tally (fun call => call.2.worker.working) ((ccrCallsMachine 1).run overtakingOps).calls = 2 ∧
      ¬ ((ccrCallsMachine 1).run overtakingOps).Accounts 1) ∧
    (((ccrCallsMachine 1).run threadlessOps).uiThreadCount = 1 ∧
      ¬ ((ccrCallsMachine 1).run threadlessOps).Accounts 1) := by
  refine ⟨⟨by decide, fun h => absurd h.works (by decide)⟩, rfl, fun h => ?_⟩
  have quiet : ∀ call ∈ ((ccrCallsMachine 1).run threadlessOps).calls, call.2.Quiet := by
    intro call mem
    obtain rfl := List.mem_singleton.mp mem
    exact ⟨by decide, fun _ => HandlerPhase.noConfusion, by decide, by decide⟩
  exact absurd (h.counts quiet).1 (by decide)

end Pcrf
