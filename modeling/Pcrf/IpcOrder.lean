import Pcrf.IpcOperator
import Pcrf.Lib.Dispatch

/-!
The order in which the operators carry out what the receiver hands them.
-/

namespace Pcrf

open Lib

section Order

variable (env : IpcEnv)

/-- The number of the datagram that an operator holds, and the updates still to be made for it. -/
def SIPCReqOperator.holding (o : SIPCReqOperator) : Option (Nat × List CallStep) :=
  if o.stDataLen ≠ 0 then
    some (o.num, match o.processor with
      | .process todo => todo
      | _ => env.updates o.bytes)
  else none

/-- The receiver has a datagram that it has not copied yet. -/
def IpcReceiver.waiting (s : IpcReceiver) : Bool :=
  match s.setTask with
  | some (.lock, _) | some (.copy, _) => true
  | _ => false

def holdings (operators : List SIPCReqOperator) (k : Nat) : Option (Nat × List CallStep) :=
  (operators[k]?).bind (SIPCReqOperator.holding env)

/-- The receiver and its operators as workers that are given jobs. -/
def IpcReceiver.dispatch (s : IpcReceiver) : Dispatch CallStep where
  jobs := s.received.map fun task => env.updates task.buf
  waiting := s.waiting
  workers := holdings env s.operators
  history := s.history

/-! ### The hand-over -/

/-- Where in `SetTask` the receiver is with operator `k`. -/
def IpcReceiver.inside (s : IpcReceiver) (k : Nat) : Option SetTaskPc :=
  if k = s.iOperatorIndex then s.setTask.map Prod.fst else none

/-- The mutexes of an operator are handed back and forth, so it is either free, or with the
receiver, or full, or with its thread. -/
structure OperatorOk (inside : Option SetTaskPc) (o : SIPCReqOperator) : Prop where
  free : o.mutexIPCSetData = false →
    o.mutexIPCOperData = true ∧ o.processor = .lock ∧ o.stDataLen = 0
  busy : o.processor ≠ .lock → o.mutexIPCOperData = true ∧ o.mutexIPCSetData = true
  cleared : o.processor = .unlock → o.stDataLen = 0
  loaded : ∀ todo, o.processor = .process todo → o.stDataLen ≠ 0
  copying : inside = some .copy → o.mutexIPCSetData = true ∧ o.mutexIPCOperData = true ∧
    o.processor = .lock ∧ o.stDataLen = 0
  handing : inside = some .unlock → o.mutexIPCSetData = true ∧ o.mutexIPCOperData = true ∧
    o.processor = .lock

/-- The operators are in order, and a datagram to be handed over is the last one received. -/
structure ReceiverOk (s : IpcReceiver) : Prop where
  operators : ∀ k o, s.operators[k]? = some o → OperatorOk (s.inside k) o
  task : ∀ pc task, s.setTask = some (pc, task) →
    s.received[s.received.length - 1]? = some task ∧ 0 < task.buf.length

/-- What an operator is after one of them was changed. -/
theorem getElem?_set_cases {operators : List SIPCReqOperator} {k k' : Nat}
    {new o : SIPCReqOperator} (h : (operators.set k new)[k']? = some o) :
    (k' = k ∧ new = o) ∨ (k' ≠ k ∧ operators[k']? = some o) := by
  by_cases hk : k' = k
  · subst hk
    rw [List.getElem?_set_self'] at h
    obtain ⟨_, -, same⟩ := Option.map_eq_some_iff.mp h
    exact .inl ⟨rfl, same⟩
  · exact .inr ⟨hk, by rwa [List.getElem?_set_ne (Ne.symm hk)] at h⟩

variable {env}

/-- Only one operator was changed, and it is in order. -/
theorem ReceiverOk.set {s s' : IpcReceiver} (h : ReceiverOk s) {k : Nat} {new : SIPCReqOperator}
    (ok : OperatorOk (s.inside k) new) (operators : s'.operators = s.operators.set k new)
    (index : s'.iOperatorIndex = s.iOperatorIndex) (setTask : s'.setTask = s.setTask)
    (received : s'.received = s.received) : ReceiverOk s' where
  operators k' o ho := by
    have inside : s'.inside k' = s.inside k' := by
      rw [IpcReceiver.inside, IpcReceiver.inside, index, setTask]
    rw [operators] at ho
    rw [inside]
    cases getElem?_set_cases ho with
    | inl changed =>
      obtain ⟨rfl, rfl⟩ := changed
      exact ok
    | inr other => exact h.operators k' o other.2
  task pc task ht := by
    rw [received]
    exact h.task pc task (setTask ▸ ht)

/-- The thread of an operator keeps its part of the hand-over. -/
theorem ReceiverOk.advanceProcessor {s : IpcReceiver} (h : ReceiverOk s) (k : Nat) :
    ReceiverOk (s.advanceProcessor env k) := by
  unfold IpcReceiver.advanceProcessor
  split
  next => exact h
  next o ho =>
    obtain ⟨free, busy, cleared, loaded, copying, handing⟩ := h.operators k o ho
    split
    next pc =>
      split
      next => exact h
      next unlocked =>
        -- the second mutex is unlocked only by a receiver that has taken the first one
        have taken : o.mutexIPCSetData = true := by
          by_contra notTaken
          exact unlocked (free (by simpa using notTaken)).1
        refine h.set (k := k) ⟨?_, ?_, ?_, ?_, ?_, ?_⟩ rfl rfl rfl rfl
        all_goals simp_all
    next pc =>
      -- whether there is anything to process is decided by the length
      by_cases full : o.stDataLen = 0
      · refine h.set (k := k) ⟨?_, ?_, ?_, ?_, ?_, ?_⟩ rfl rfl rfl rfl
        all_goals simp_all
      · refine h.set (k := k) ⟨?_, ?_, ?_, ?_, ?_, ?_⟩ rfl rfl rfl rfl
        all_goals simp_all
    next step todo pc =>
      refine h.set (k := k) ⟨?_, ?_, ?_, ?_, ?_, ?_⟩ rfl rfl rfl rfl
      all_goals simp_all
    next pc =>
      refine h.set (k := k) ⟨?_, ?_, ?_, ?_, ?_, ?_⟩ rfl rfl rfl rfl
      all_goals simp_all
    next pc =>
      refine h.set (k := k) ⟨?_, ?_, ?_, ?_, ?_, ?_⟩ rfl rfl rfl rfl
      all_goals simp_all

/-- The receiver is with the operator it has come to and with no other. -/
theorem ReceiverOk.hand {s s' : IpcReceiver} (h : ReceiverOk s) {new : SIPCReqOperator}
    (ok : OperatorOk (s'.inside s.iOperatorIndex) new)
    (operators : s'.operators = s.operators.set s.iOperatorIndex new)
    (others : ∀ k, k ≠ s.iOperatorIndex → s'.inside k = none)
    (task : ∀ pc task, s'.setTask = some (pc, task) →
      s'.received[s'.received.length - 1]? = some task ∧ 0 < task.buf.length) :
    ReceiverOk s' where
  operators k o ho := by
    rw [operators] at ho
    cases getElem?_set_cases ho with
    | inl changed =>
      obtain ⟨rfl, rfl⟩ := changed
      exact ok
    | inr other =>
      have before := h.operators k o other.2
      rw [IpcReceiver.inside, if_neg other.1] at before
      exact (others k other.1).symm ▸ before
  task := task

/-- The receiver keeps its part. -/
theorem ReceiverOk.advanceSetTask {s : IpcReceiver} (h : ReceiverOk s) :
    ReceiverOk s.advanceSetTask := by
  unfold IpcReceiver.advanceSetTask
  split
  next task o ht ho =>
    have last := h.task _ _ ht
    obtain ⟨free, busy, cleared, loaded, -, -⟩ := h.operators _ o ho
    split
    next => exact h
    next notTaken =>
      -- the operator waits with an empty buffer, so the receiver may write it
      obtain ⟨locked, waits, empty⟩ := free (by simpa using notTaken)
      refine h.hand ⟨?_, ?_, ?_, ?_, ?_, ?_⟩ rfl (fun k hk => if_neg hk) ?_
      all_goals simp_all [IpcReceiver.inside]
  next task o ht ho =>
    have last := h.task _ _ ht
    have inside : s.inside s.iOperatorIndex = some .copy := by simp [IpcReceiver.inside, ht]
    obtain ⟨free, busy, cleared, loaded, copying, -⟩ := h.operators _ o ho
    obtain ⟨taken, locked, waits, empty⟩ := copying inside
    refine h.hand ⟨?_, ?_, ?_, ?_, ?_, ?_⟩ rfl (fun k hk => if_neg hk) ?_
    all_goals simp_all [IpcReceiver.inside, SIPCReqOperator.copy]
  next task o ht ho =>
    have inside : s.inside s.iOperatorIndex = some .unlock := by simp [IpcReceiver.inside, ht]
    obtain ⟨free, busy, cleared, loaded, -, handing⟩ := h.operators _ o ho
    obtain ⟨taken, locked, waits⟩ := handing inside
    refine h.hand ⟨?_, ?_, ?_, ?_, ?_, ?_⟩ rfl (fun k _ => by simp [IpcReceiver.inside]) ?_
    all_goals simp_all [IpcReceiver.inside]
  next => exact h

theorem ReceiverOk.receive {s : IpcReceiver} (h : ReceiverOk s) (task : IpcTask) :
    ReceiverOk (s.receive task) := by
  unfold IpcReceiver.receive
  split
  next ready =>
    obtain ⟨none_held, nonempty⟩ := ready
    refine ⟨fun k o ho => ?_, fun pc task' ht => ?_⟩
    · obtain ⟨free, busy, cleared, loaded, -, -⟩ := h.operators k o ho
      refine ⟨free, busy, cleared, loaded, ?_, ?_⟩
      · simp only [IpcReceiver.inside]
        split <;> simp
      · simp only [IpcReceiver.inside]
        split <;> simp
    · obtain ⟨rfl, rfl⟩ := Prod.mk.inj (Option.some.inj ht)
      exact ⟨by simp, nonempty⟩
  next => exact h

/-! ### The operators as workers -/

/-- What the workers have after one operator was changed. -/
theorem workers_set {operators : List SIPCReqOperator} {k : Nat} {o : SIPCReqOperator}
    (ho : operators[k]? = some o) (new : SIPCReqOperator) :
    holdings env (operators.set k new) =
      Function.update (holdings env operators) k (new.holding env) := by
  have inside : k < operators.length := (List.getElem?_eq_some_iff.mp ho).1
  funext k'
  by_cases hk : k' = k
  · subst hk
    simp [holdings, inside]
  · simp [holdings, hk, List.getElem?_set_ne (Ne.symm hk)]

/-- A change that the holding of an operator does not show. -/
theorem workers_set_same {operators : List SIPCReqOperator} {k : Nat} {o new : SIPCReqOperator}
    (ho : operators[k]? = some o) (same : new.holding env = o.holding env) :
    holdings env (operators.set k new) = holdings env operators := by
  rw [workers_set ho, same, Function.update_eq_self_iff, holdings, ho]
  rfl

/-- A step of the program is one of the workers, or none. -/
def Simulates (env : IpcEnv) (s s' : IpcReceiver) (op : IpcReceiverOp) : Prop :=
  s'.dispatch env = s.dispatch env ∨
    ∃ worker, Dispatch.Step (s.dispatch env) worker (s'.dispatch env) ∧
      ∀ k, worker = some k → op = .processor k

theorem simulates_receive (s : IpcReceiver) (task : IpcTask) :
    Simulates env s (s.receive task) (.receive task) := by
  unfold IpcReceiver.receive
  split
  next ready =>
    have notWaiting : (s.dispatch env).waiting = false := by
      simp [IpcReceiver.dispatch, IpcReceiver.waiting, ready.1]
    refine .inr ⟨none, ?_, fun k h => by cases h⟩
    have arrive := Dispatch.Step.arrive (s.dispatch env) (env.updates task.buf) notWaiting
    simpa [IpcReceiver.dispatch, IpcReceiver.waiting] using arrive
  next => exact .inl rfl

theorem simulates_setTask {s : IpcReceiver} (h : ReceiverOk s) :
    Simulates env s s.advanceSetTask .setTask := by
  unfold IpcReceiver.advanceSetTask
  split
  next task o ht ho =>
    split
    next => exact .inl rfl
    next =>
      refine .inl ?_
      simp only [IpcReceiver.dispatch, IpcReceiver.waiting, ht]
      rw [workers_set_same ho (by rfl)]
  next task o ht ho =>
    -- the copy hands the waiting job over; an operator that is being given a task holds none
    have inside : s.inside s.iOperatorIndex = some .copy := by simp [IpcReceiver.inside, ht]
    obtain ⟨-, -, waits, empty⟩ := (h.operators _ o ho).copying inside
    obtain ⟨last, nonempty⟩ := h.task _ _ ht
    have isWaiting : (s.dispatch env).waiting = true := by
      simp [IpcReceiver.dispatch, IpcReceiver.waiting, ht]
    have job : (s.dispatch env).jobs[(s.dispatch env).jobs.length - 1]? =
        some (env.updates task.buf) := by
      simp [IpcReceiver.dispatch, last]
    -- the operator at the index is the free worker
    have free : (s.dispatch env).workers s.iOperatorIndex = none := by
      simp [IpcReceiver.dispatch, holdings, ho, SIPCReqOperator.holding, empty]
    have copied : (o.copy task (s.received.length - 1)).holding env =
        some ((s.dispatch env).jobs.length - 1, env.updates task.buf) := by
      have full : task.buf.length ≠ 0 := Nat.ne_of_gt nonempty
      simp [SIPCReqOperator.holding, SIPCReqOperator.copy, SIPCReqOperator.bytes, waits, full,
        IpcReceiver.dispatch]
    refine .inr ⟨none, ?_, fun k h => by cases h⟩
    have give := Dispatch.Step.give (s.dispatch env) s.iOperatorIndex _ isWaiting job free
    rw [← copied] at give
    simp only [IpcReceiver.dispatch] at give ⊢
    rw [workers_set ho]
    exact give
  next task o ht ho =>
    refine .inl ?_
    simp only [IpcReceiver.dispatch, IpcReceiver.waiting, ht]
    rw [workers_set_same ho (by rfl)]
  next => exact .inl rfl

theorem simulates_processor {s : IpcReceiver} (h : ReceiverOk s) (k : Nat) :
    Simulates env s (s.advanceProcessor env k) (.processor k) := by
  unfold IpcReceiver.advanceProcessor
  split
  next => exact .inl rfl
  next o ho =>
    have ok := h.operators k o ho
    split
    next pc =>
      split
      next => exact .inl rfl
      next =>
        refine .inl ?_
        simp only [IpcReceiver.dispatch]
        rw [workers_set_same ho (by simp [SIPCReqOperator.holding, SIPCReqOperator.bytes, pc])]
        rfl
    next pc =>
      refine .inl ?_
      simp only [IpcReceiver.dispatch]
      rw [workers_set_same ho ?_]
      · rfl
      · by_cases full : o.stDataLen = 0
        · simp [SIPCReqOperator.holding, full]
        · simp [SIPCReqOperator.holding, SIPCReqOperator.bytes, full, pc]
    next step todo pc =>
      -- a step of the processing is a step of the job the worker holds
      have full := ok.loaded _ pc
      have holds : (s.dispatch env).workers k = some (o.num, step :: todo) := by
        simp [IpcReceiver.dispatch, holdings, ho, SIPCReqOperator.holding, full, pc]
      refine .inr ⟨some k, ?_, fun k' h => by rw [Option.some.inj h]⟩
      have perform := Dispatch.Step.perform (s.dispatch env) k o.num step todo holds
      have left : ({ o with processor := .process todo } : SIPCReqOperator).holding env =
          some (o.num, todo) := by
        simp [SIPCReqOperator.holding, full]
      rw [← left] at perform
      simp only [IpcReceiver.dispatch] at perform ⊢
      rw [workers_set ho]
      exact perform
    next pc =>
      -- the job is done, and the buffer is marked as empty
      have full := ok.loaded _ pc
      have holds : (s.dispatch env).workers k = some (o.num, []) := by
        simp [IpcReceiver.dispatch, holdings, ho, SIPCReqOperator.holding, full, pc]
      refine .inr ⟨none, ?_, fun k' h => by cases h⟩
      have finish := Dispatch.Step.finish (s.dispatch env) k o.num holds
      have left : ({ o with stDataLen := 0, processor := .unlock } : SIPCReqOperator).holding env =
          none := by
        simp [SIPCReqOperator.holding]
      rw [← left] at finish
      simp only [IpcReceiver.dispatch] at finish ⊢
      rw [workers_set ho]
      exact finish
    next pc =>
      refine .inl ?_
      simp only [IpcReceiver.dispatch]
      rw [workers_set_same ho (by simp [SIPCReqOperator.holding, ok.cleared pc])]
      rfl

/-! ### Runs -/

variable (env)

/-- An operator makes an update only when no other one holds an earlier datagram with an update
about the same session still to be made. -/
def ProcessesInOrder (s : IpcReceiver) : IpcReceiverOp → Prop
  | .processor k => Dispatch.Waits CallStep.sessionId (s.dispatch env) k
  | _ => True

/-- Nothing is being handed over or carried out. -/
def IpcReceiver.Idle (s : IpcReceiver) : Prop :=
  s.setTask = none ∧ ∀ o ∈ s.operators, o.stDataLen = 0

instance (s : IpcReceiver) : Decidable s.Idle :=
  inferInstanceAs (Decidable (s.setTask = none ∧ ∀ o ∈ s.operators, o.stDataLen = 0))

/-- The last command about the session removes it. -/
def LastRemoves (received : List IpcTask) (sessionId : String) : Prop :=
  ∃ before task after, received = before ++ task :: after ∧
    env.updates task.buf =
      [.sessions (.removeLocal sessionId), .rules (.removeSessLocal sessionId)] ∧
    ∀ later ∈ after, ∀ step ∈ env.updates later.buf, step.sessionId ≠ sessionId

/-- What holds in the runs whose steps are in order. -/
structure Processing (caches : NodeCaches) (s : IpcReceiver) : Prop where
  ok : ReceiverOk s
  accounted : (s.dispatch env).Accounted
  ordered : (s.dispatch env).Ordered CallStep.sessionId
  caches : s.caches = (s.history.map Prod.snd).foldl NodeCaches.perform caches

variable {env} {caches : NodeCaches} {s : IpcReceiver}

theorem Processing.of_simulates {s' : IpcReceiver} {op : IpcReceiverOp}
    (h : Processing env caches s) (inOrder : ProcessesInOrder env s op) (ok : ReceiverOk s')
    (simulates : Simulates env s s' op)
    (performed : s'.caches = (s'.history.map Prod.snd).foldl NodeCaches.perform caches) :
    Processing env caches s' := by
  cases simulates with
  | inl same => exact ⟨ok, same ▸ h.accounted, same ▸ h.ordered, performed⟩
  | inr step =>
    obtain ⟨worker, step, label⟩ := step
    refine ⟨ok, h.accounted.step step, h.ordered.step h.accounted step fun k hk => ?_, performed⟩
    obtain rfl := label k hk
    exact inOrder

theorem Processing.step {n : Nat} {op : IpcReceiverOp} (h : Processing env caches s)
    (inOrder : ProcessesInOrder env s op) :
    Processing env caches ((ipcReceiverMachine env n caches).step s op) := by
  cases op with
  | receive task =>
    refine h.of_simulates inOrder (h.ok.receive task) (simulates_receive s task) ?_
    simp only [ipcReceiverMachine, IpcReceiver.receive]
    split <;> exact h.caches
  | setTask =>
    refine h.of_simulates inOrder h.ok.advanceSetTask (simulates_setTask h.ok) ?_
    simp only [ipcReceiverMachine, IpcReceiver.advanceSetTask]
    split
    · split <;> exact h.caches
    all_goals exact h.caches
  | processor k =>
    refine h.of_simulates inOrder (h.ok.advanceProcessor k) (simulates_processor h.ok k) ?_
    simp only [ipcReceiverMachine, IpcReceiver.advanceProcessor]
    split
    next => exact h.caches
    next o ho =>
      split
      next => split <;> exact h.caches
      next => exact h.caches
      next step todo pc =>
        -- the step is done on the caches as it is written down
        simp only [List.map_append, List.foldl_append, ← h.caches]
        rfl
      next => exact h.caches
      next => exact h.caches

theorem start_dispatch (n : Nat) :
    {} = (ipcReceiverMachine env n caches).init.dispatch env := by
  have free : holdings env (List.replicate n {}) = fun _ => none := by
    funext k
    cases ho : (List.replicate n ({} : SIPCReqOperator))[k]? with
    | none => simp [holdings, ho]
    | some o =>
      obtain rfl := List.eq_of_mem_replicate (List.mem_of_getElem? ho)
      simp [holdings, ho, SIPCReqOperator.holding]
  simp [IpcReceiver.dispatch, ipcReceiverMachine, IpcReceiver.waiting, free]

theorem Processing.start (n : Nat) :
    Processing env caches (ipcReceiverMachine env n caches).init where
  ok := by
    refine ⟨fun k o ho => ?_, fun pc task ht => by cases ht⟩
    obtain rfl := List.eq_of_mem_replicate (List.mem_of_getElem? ho)
    have outside : (ipcReceiverMachine env n caches).init.inside k = none := ite_self none
    rw [outside]
    refine ⟨?_, ?_, ?_, ?_, ?_, ?_⟩ <;> simp
  accounted := start_dispatch n ▸ Dispatch.Accounted.start
  ordered := start_dispatch n ▸ Dispatch.Ordered.start
  caches := rfl

/-- When every step of a run is in order, so are the updates about each session; and a session
that its last command removes is left in neither cache. -/
theorem commands_in_order {n : Nat} {ops : List IpcReceiverOp}
    (meets : (ipcReceiverMachine env n caches).Meets (ProcessesInOrder env) ops) :
    Dispatch.InOrder CallStep.sessionId ((ipcReceiverMachine env n caches).run ops).history ∧
      (((ipcReceiverMachine env n caches).run ops).Idle → ∀ sessionId,
        LastRemoves env ((ipcReceiverMachine env n caches).run ops).received sessionId →
        ((ipcReceiverMachine env n caches).run ops).caches.Lacks sessionId) := by
  have h : Processing env caches _ :=
    (ipcReceiverMachine env n caches).inv_of_meets (Processing.start n)
      (fun s op h inOrder => h.step inOrder) meets
  generalize (ipcReceiverMachine env n caches).run ops = s at h ⊢
  refine ⟨h.ordered.inOrder, fun idle sessionId removes => ?_⟩
  obtain ⟨before, task, after, received, removal, later⟩ := removes
  have ready : (s.dispatch env).waiting = false := by
    simp [IpcReceiver.dispatch, IpcReceiver.waiting, idle.1]
  have free : ∀ k, (s.dispatch env).workers k = none := by
    intro k
    cases ho : s.operators[k]? with
    | none => simp [IpcReceiver.dispatch, holdings, ho]
    | some o =>
      simp [IpcReceiver.dispatch, holdings, ho, SIPCReqOperator.holding,
        idle.2 o (List.mem_of_getElem? ho)]
  have job : (s.dispatch env).jobs[before.length]? =
      some [.sessions (.removeLocal sessionId), .rules (.removeSessLocal sessionId)] := by
    simp [IpcReceiver.dispatch, received, removal]
  have about : ∀ step ∈ [CallStep.sessions (.removeLocal sessionId),
      .rules (.removeSessLocal sessionId)], step.sessionId = sessionId := by
    simp [CallStep.sessionId, CacheOp.sessionId, RuleCacheOp.sessionId]
  have none_later : ∀ i updates, before.length < i → (s.dispatch env).jobs[i]? = some updates →
      ∀ step ∈ updates, step.sessionId ≠ sessionId := by
    intro i updates hi hjob
    simp only [IpcReceiver.dispatch, List.getElem?_map] at hjob
    obtain ⟨task', htask, rfl⟩ := Option.map_eq_some_iff.mp hjob
    -- a datagram behind that of the removal
    obtain ⟨j, rfl⟩ : ∃ j, i = before.length + (j + 1) := ⟨i - before.length - 1, by omega⟩
    rw [received, List.getElem?_append_right (by omega), Nat.add_sub_cancel_left,
      List.getElem?_cons_succ] at htask
    exact later task' (List.mem_of_getElem? htask)
  obtain ⟨earlier, last⟩ := h.ordered.last h.accounted ready free job about none_later
  rw [h.caches]
  exact foldl_lacks last caches

/-- An operator that is the only one to hold a datagram is in order. -/
theorem processesInOrder_of_alone {k : Nat}
    (alone : ∀ i, ∀ _ : i < s.operators.length, i ≠ k → s.operators[i].stDataLen = 0) :
    ProcessesInOrder env s (.processor k) := by
  intro n a rest _ k' n' l other holds
  cases ho : s.operators[k']? with
  | none => simp [IpcReceiver.dispatch, holdings, ho] at holds
  | some o =>
    obtain ⟨hi, rfl⟩ := List.getElem?_eq_some_iff.mp ho
    simp [IpcReceiver.dispatch, holdings, ho, SIPCReqOperator.holding, alone k' hi other] at holds

end Order

/-! ### Two datagrams about a session -/

/-- The bytes of a packet, with the lengths that `samplePacket` counts. -/
def sampleBytes (packet : SPSRequest) : List Char :=
  toBytes 4 packet.uiReqNum.toNat ++ toBytes 2 packet.usReqType.toNat ++ toBytes 2 0 ++
    packet.attrs.flatMap fun attr =>
      toBytes 2 attr.usAttrType.toNat ++ toBytes 2 (attr.data.length + 4) ++ attr.data

def sampleParseAttrs : Nat → List Char → List SPSReqAttr
  | 0, _ => []
  | fuel + 1, bytes =>
    match readBytes bytes 0 2, readBytes bytes 2 2 with
    | some attrType, some len =>
      ⟨UInt16.ofNat attrType, (bytes.take len).drop 4⟩ :: sampleParseAttrs fuel (bytes.drop len)
    | _, _ => []

def sampleIpcEnv : IpcEnv where
  codes := sampleCodes
  parse bytes := (readBytes bytes 4 2).map fun reqType =>
    (UInt16.ofNat reqType, sampleParseAttrs bytes.length (bytes.drop 8))
  fresh _ _ := '?'
  pcrfPeerDialectRet _ _ := .gxUndef

def sampleTask (info : Option SSessionCache) (reqType : UInt16) : IpcTask where
  buf := sampleBytes
    (pcrfSessionCacheFillPspack sampleCodes samplePacket 4096 "gx;1;1" info reqType none).1

/-- The session is inserted, and removed by the next datagram. -/
def sampleInsertTask : IpcTask :=
  sampleTask (some { coSubscriberId := .of "7" }) sampleCodes.PCRF_CMD_INSERT_SESSION

def sampleRemoveTask : IpcTask := sampleTask none sampleCodes.PCRF_CMD_REMOVE_SESSION

theorem updates_sampleRemoveTask : sampleIpcEnv.updates sampleRemoveTask.buf =
    [.sessions (.removeLocal "gx;1;1"), .rules (.removeSessLocal "gx;1;1")] := by
  rfl

/-- Two operators, each done before the next datagram arrives. -/
theorem commands_in_order_sample :
    ((ipcReceiverMachine sampleIpcEnv 2 {}).run
      [.receive sampleInsertTask, .setTask, .setTask, .setTask,
       .processor 0, .processor 0, .processor 0, .processor 0, .processor 0,
       .receive sampleRemoveTask, .setTask, .setTask, .setTask,
       .processor 1, .processor 1, .processor 1, .processor 1, .processor 1,
       .processor 1]).caches.Lacks "gx;1;1" := by
  refine (commands_in_order ?_).2 (by decide +kernel) "gx;1;1" ?_
  · refine ⟨trivial, trivial, trivial, trivial, ?_, ?_, ?_, ?_, ?_, trivial, trivial, trivial,
      trivial, ?_, ?_, ?_, ?_, ?_, ?_, trivial⟩
    all_goals exact processesInOrder_of_alone (by decide +kernel)
  · exact ⟨[sampleInsertTask], sampleRemoveTask, [], by decide +kernel, updates_sampleRemoveTask,
      by simp⟩

/-- Five operators, as with one other node. The second of them, which has the datagram that removes
the session, goes first, and the session that the first one inserts is left in the cache. -/
theorem commands_in_order_counterexample :
    let s := (ipcReceiverMachine sampleIpcEnv 5 {}).run
      [.receive sampleInsertTask, .setTask, .setTask, .setTask,
       .receive sampleRemoveTask, .setTask, .setTask, .setTask,
       .processor 1, .processor 1, .processor 1, .processor 1, .processor 1, .processor 1,
       .processor 0, .processor 0, .processor 0, .processor 0, .processor 0]
    s.Idle ∧ LastRemoves sampleIpcEnv s.received "gx;1;1" ∧
      ¬ Dispatch.InOrder CallStep.sessionId s.history ∧ ¬ s.caches.Lacks "gx;1;1" := by
  refine ⟨by decide +kernel, ⟨[sampleInsertTask], sampleRemoveTask, [], by decide +kernel,
    updates_sampleRemoveTask, by simp⟩, by decide +kernel, fun lacks => ?_⟩
  exact absurd lacks.1 (by decide +kernel)

end Pcrf
