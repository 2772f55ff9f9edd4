import Pcrf.IpcOperator
import Pcrf.Lib.Fairness

/-!
The hand-over of datagrams to one operator: `SIPCReqOperator::SetTask` statement by statement,
beside the thread of the operator. What is handed over is processed once, in order, and the
buffer is not written to meanwhile.
-/

namespace Pcrf

open Lib

/-! ### The two threads -/

/-- The statements of `SIPCReqOperator::SetTask`: `m_mutexIPCSetData` is locked, four members are
written, `m_mutexIPCOperData` is unlocked. -/
inductive SetTaskStatement where
  | lock
  | data
  | len
  | sock
  | addr
  | unlock
  deriving Repr, DecidableEq

/-- What a statement makes of the operator. -/
def SIPCReqOperator.execute (o : SIPCReqOperator) (task : IpcTask) :
    SetTaskStatement → SIPCReqOperator
  | .lock => { o with mutexIPCSetData := true }
  | .data => { o with pmui8Data := task.buf ++ o.pmui8Data.drop task.buf.length }
  | .len => { o with stDataLen := task.buf.length }
  | .sock => { o with iSock := task.iSock }
  | .addr => { o with soAddr := task.soAddr }
  | .unlock => { o with mutexIPCOperData := false }

/-- The statement behind it, if there is one. -/
def SetTaskStatement.next : SetTaskStatement → Option SetTaskStatement
  | lock => some data
  | data => some len
  | len => some sock
  | sock => some addr
  | addr => some unlock
  | unlock => none

/-- The four writes are what a receiver with several operators copies at once. -/
theorem copy_eq_execute (o : SIPCReqOperator) (task : IpcTask) (num : Nat) :
    o.copy task num =
      { [SetTaskStatement.data, .len, .sock, .addr].foldl
          (fun o statement => o.execute task statement) o with num } :=
  rfl

/-- The next step of `pcrf_ipc_supply_processor`. -/
def SIPCReqOperator.advance (env : IpcEnv) (o : SIPCReqOperator) : SIPCReqOperator :=
  match o.processor with
  | .lock =>
    if o.mutexIPCOperData then o else { o with mutexIPCOperData := true, processor := .check }
  | .check =>
    { o with processor := if o.stDataLen ≠ 0 then .process (env.updates o.bytes) else .unlock }
  | .process (_ :: todo) => { o with processor := .process todo }
  | .process [] => { o with stDataLen := 0, processor := .unlock }
  | .unlock => { o with mutexIPCSetData := false, processor := .lock }

/-- It is the step of operator `k` among several. -/
theorem advanceProcessor_operators (env : IpcEnv) {s : IpcReceiver} {k : Nat} {o : SIPCReqOperator}
    (ho : s.operators[k]? = some o) :
    (s.advanceProcessor env k).operators = s.operators.set k (o.advance env) := by
  unfold IpcReceiver.advanceProcessor SIPCReqOperator.advance
  cases pc : o.processor with
  | lock =>
    by_cases locked : o.mutexIPCOperData = true
    · obtain ⟨hk, same⟩ := List.getElem?_eq_some_iff.mp ho
      simp only [ho, pc, locked, if_true]
      rw [← same, List.set_getElem_self]
    · simp only [ho, pc, locked]
      rfl
  | check => simp only [ho, pc]
  | process todo =>
    cases todo with
    | nil => simp only [ho, pc]
    | cons step todo => simp only [ho, pc]
  | unlock => simp only [ho, pc]

section Advance

variable {env : IpcEnv} {o : SIPCReqOperator}

theorem advance_blocked (waits : o.processor = .lock) (locked : o.mutexIPCOperData = true) :
    o.advance env = o := by
  simp only [SIPCReqOperator.advance, waits, locked, if_true]

theorem advance_lock (waits : o.processor = .lock) (unlocked : o.mutexIPCOperData = false) :
    o.advance env = { o with mutexIPCOperData := true, processor := .check } := by
  simp only [SIPCReqOperator.advance, waits, unlocked, Bool.false_eq_true, if_false]

theorem advance_loaded (pc : o.processor = .check) (full : o.stDataLen ≠ 0) :
    o.advance env = { o with processor := .process (env.updates o.bytes) } := by
  simp only [SIPCReqOperator.advance, pc, if_pos full]

theorem advance_empty (pc : o.processor = .check) (empty : o.stDataLen = 0) :
    o.advance env = { o with processor := .unlock } := by
  simp only [SIPCReqOperator.advance, pc, if_neg (not_not.mpr empty)]

theorem advance_process {step : CallStep} {todo : List CallStep}
    (pc : o.processor = .process (step :: todo)) :
    o.advance env = { o with processor := .process todo } := by
  simp only [SIPCReqOperator.advance, pc]

theorem advance_processed (pc : o.processor = .process []) :
    o.advance env = { o with stDataLen := 0, processor := .unlock } := by
  simp only [SIPCReqOperator.advance, pc]

theorem advance_unlock (pc : o.processor = .unlock) :
    o.advance env = { o with mutexIPCSetData := false, processor := .lock } := by
  simp only [SIPCReqOperator.advance, pc]

end Advance

/-- An operator, and the call of `SetTask` that the receiver is in. -/
structure HandOff where
  operator : SIPCReqOperator := {}
  setTask : Option (SetTaskStatement × IpcTask) := none

/-- The receiver calls `SetTask`, or one of the two threads goes on. -/
inductive HandOffOp where
  | call (task : IpcTask)
  | receiver
  | processor
  deriving DecidableEq

/-- The receiver comes to its next statement. At the first one it waits for the mutex. -/
def HandOff.advanceReceiver (s : HandOff) : HandOff :=
  match s.setTask with
  | some (statement, task) =>
    if statement = .lock ∧ s.operator.mutexIPCSetData then s
    else
      { operator := s.operator.execute task statement
        setTask := statement.next.map fun next => (next, task) }
  | none => s

/-- An operator that was just set up, and its receiver. -/
def handOffMachine (env : IpcEnv) : Machine HandOff HandOffOp where
  init := {}
  step s
    -- the receiver is one thread, so a call waits for the one before it
    | .call task => if s.setTask.isNone then { s with setTask := some (.lock, task) } else s
    | .receiver => s.advanceReceiver
    | .processor => { s with operator := s.operator.advance env }

/-! ### What is handed over and what is processed -/

/-- The arguments of `pcrf_ipc_process_request`. -/
structure ProcessArgs where
  pmui8Buf : List Char
  stMsgLen : Nat
  iSock : Int
  soAddr : String
  deriving Repr, DecidableEq

/-- What `SetTask` is called with. -/
def IpcTask.args (task : IpcTask) : ProcessArgs :=
  ⟨task.buf, task.buf.length, task.iSock, task.soAddr⟩

/-- What the thread reads of its operator. -/
def SIPCReqOperator.args (o : SIPCReqOperator) : ProcessArgs :=
  ⟨o.bytes, o.stDataLen, o.iSock, o.soAddr⟩

/-- A datagram that is not empty. -/
def IpcTask.pending (task : IpcTask) : List ProcessArgs :=
  if task.buf.length ≠ 0 then [task.args] else []

/-- The datagrams that are handed over by a step. -/
def HandOff.handed (s : HandOff) : HandOffOp → List ProcessArgs
  | .call task => if s.setTask.isNone then task.pending else []
  | _ => []

/-- What the thread calls `pcrf_ipc_process_request` with in a step. -/
def HandOff.begun (s : HandOff) : HandOffOp → List ProcessArgs
  | .processor =>
    match s.operator.processor with
    | .check => if s.operator.stDataLen ≠ 0 then [s.operator.args] else []
    | _ => []
  | _ => []

/-- What it has processed when the call returns. -/
def HandOff.ended (s : HandOff) : HandOffOp → List ProcessArgs
  | .processor =>
    match s.operator.processor with
    | .process [] => [s.operator.args]
    | _ => []
  | _ => []

/-- The receiver is behind the lock of `m_mutexIPCSetData`, where it writes to the operator. -/
def HandOff.Writing (s : HandOff) : Prop :=
  ∃ statement task, s.setTask = some (statement, task) ∧ statement ≠ .lock

/-- What is being processed, as the thread reads it. -/
def HandOff.current (s : HandOff) : List ProcessArgs :=
  match s.operator.processor with
  | .process _ => [s.operator.args]
  | _ => []

/-- The datagram of the call that the receiver is in. -/
def HandOff.calling (s : HandOff) : List ProcessArgs :=
  match s.setTask with
  | some (_, task) => task.pending
  | none => []

/-- The datagram that the operator holds; while it is being written it is still in the call. -/
def HandOff.held (s : HandOff) : List ProcessArgs :=
  match s.setTask with
  | none | some (.lock, _) => if s.operator.stDataLen ≠ 0 then [s.operator.args] else []
  | _ => []

/-- What is handed over and not yet processed. -/
def HandOff.outstanding (s : HandOff) : List ProcessArgs := s.held ++ s.calling

/-! ### The mutexes -/

/-- What the receiver has written before a statement. -/
def Written (o : SIPCReqOperator) (task : IpcTask) : SetTaskStatement → Prop
  | .lock => True
  | .data => o.stDataLen = 0
  | .len => o.pmui8Data.take task.buf.length = task.buf
  | .sock => o.pmui8Data.take task.buf.length = task.buf ∧ o.stDataLen = task.buf.length
  | .addr => o.pmui8Data.take task.buf.length = task.buf ∧ o.stDataLen = task.buf.length ∧
      o.iSock = task.iSock
  | .unlock => o.args = task.args

/-- Who has the operator. Its mutexes tell: it is free, or the receiver writes to it, or it is
handed over, or the thread works on it. -/
inductive HandOff.Stage (s : HandOff) : Prop where
  | free (setData : s.operator.mutexIPCSetData = false) (operData : s.operator.mutexIPCOperData)
      (waits : s.operator.processor = .lock) (empty : s.operator.stDataLen = 0)
      (out : ¬ s.Writing)
  | writing {statement : SetTaskStatement} {task : IpcTask}
      (called : s.setTask = some (statement, task)) (inside : statement ≠ .lock)
      (setData : s.operator.mutexIPCSetData) (operData : s.operator.mutexIPCOperData)
      (waits : s.operator.processor = .lock) (written : Written s.operator task statement)
  | handed (setData : s.operator.mutexIPCSetData) (operData : s.operator.mutexIPCOperData = false)
      (waits : s.operator.processor = .lock) (out : ¬ s.Writing)
  | working (setData : s.operator.mutexIPCSetData) (operData : s.operator.mutexIPCOperData)
      (works : s.operator.processor ≠ .lock)
      (loaded : ∀ todo, s.operator.processor = .process todo → s.operator.stDataLen ≠ 0)
      (cleared : s.operator.processor = .unlock → s.operator.stDataLen = 0) (out : ¬ s.Writing)

/-- What a step does with the datagrams: what is handed over is outstanding until it has been
processed, and what was begun is processed until it has ended. -/
structure HandOff.StepOk (s : HandOff) (op : HandOffOp) (s' : HandOff) : Prop where
  stage : s'.Stage
  outstanding : s.outstanding ++ s.handed op = s.ended op ++ s'.outstanding
  current : s.current ++ s.begun op = s.ended op ++ s'.current

section Steps

variable {env : IpcEnv} {s : HandOff}

/-- A receiver that does not write is at most at the lock. -/
theorem lock_of_out {statement : SetTaskStatement} {task : IpcTask} (out : ¬ s.Writing)
    (called : s.setTask = some (statement, task)) : statement = .lock := by
  by_contra inside
  exact out ⟨statement, task, called, inside⟩

theorem held_of_out (out : ¬ s.Writing) :
    s.held = if s.operator.stDataLen ≠ 0 then [s.operator.args] else [] := by
  unfold HandOff.held
  cases called : s.setTask with
  | none => rfl
  | some call =>
    obtain ⟨statement, task⟩ := call
    rw [lock_of_out out called]

theorem call_ok (h : s.Stage) (task : IpcTask) :
    s.StepOk (.call task) ((handOffMachine env).step s (.call task)) := by
  by_cases idle : s.setTask.isNone = true
  · have none_called := Option.isNone_iff_eq_none.mp idle
    have out : ¬ s.Writing := by
      rintro ⟨statement, other, called, -⟩
      rw [none_called] at called
      cases called
    let s' : HandOff := { s with setTask := some (.lock, task) }
    have out' : ¬ s'.Writing := by
      rintro ⟨statement, other, called, inside⟩
      cases called
      exact inside rfl
    have same : (handOffMachine env).step s (.call task) = s' := if_pos idle
    rw [same]
    refine ⟨?_, ?_, ?_⟩
    · -- the call is at the lock, where it changes nothing of the operator
      cases h with
      | free setData operData waits empty _ => exact .free setData operData waits empty out'
      | writing called => rw [none_called] at called; cases called
      | handed setData operData waits _ => exact .handed setData operData waits out'
      | working setData operData works loaded cleared _ =>
        exact .working setData operData works loaded cleared out'
    · simp only [HandOff.outstanding, held_of_out out, held_of_out out', HandOff.calling,
        none_called, HandOff.handed, HandOff.ended, s']
      simp
    · exact List.append_nil _
  · have same : (handOffMachine env).step s (.call task) = s := if_neg idle
    rw [same]
    -- a receiver that is in a call hands nothing over
    refine ⟨h, ?_, List.append_nil _⟩
    simp only [HandOff.handed, if_neg idle]
    exact List.append_nil _

theorem written_args {o : SIPCReqOperator} {task : IpcTask} (written : Written o task .unlock) :
    (if o.stDataLen ≠ 0 then [o.args] else []) = task.pending := by
  have same : o.args = task.args := written
  have len : o.stDataLen = task.buf.length := congrArg ProcessArgs.stMsgLen same
  rw [IpcTask.pending, same, len]

/-- A write keeps what is written before, and goes on to the next one. -/
theorem written_next {o : SIPCReqOperator} {task : IpcTask} {statement next : SetTaskStatement}
    (written : Written o task statement) (inside : statement ≠ .lock)
    (hNext : statement.next = some next) : Written (o.execute task statement) task next := by
  cases statement with
  | lock => exact absurd rfl inside
  | data =>
    cases hNext
    exact List.take_left
  | len =>
    cases hNext
    exact ⟨written, rfl⟩
  | sock =>
    cases hNext
    exact ⟨written.1, written.2, rfl⟩
  | addr =>
    cases hNext
    obtain ⟨bytes, len, sock⟩ := written
    -- the four writes together are the arguments of the call
    have taken : o.bytes = task.buf := by rw [SIPCReqOperator.bytes, len, bytes]
    show ProcessArgs.mk o.bytes o.stDataLen o.iSock task.soAddr = task.args
    rw [taken, len, sock]
    rfl
  | unlock => cases hNext

/-- The members that `SetTask` writes are no mutexes, nor where the thread is. -/
theorem execute_mutexes (o : SIPCReqOperator) (task : IpcTask) {statement next : SetTaskStatement}
    (inside : statement ≠ .lock) (hNext : statement.next = some next) :
    (o.execute task statement).mutexIPCSetData = o.mutexIPCSetData ∧
      (o.execute task statement).mutexIPCOperData = o.mutexIPCOperData ∧
      (o.execute task statement).processor = o.processor := by
  cases statement with
  | lock => exact absurd rfl inside
  | unlock => cases hNext
  | _ => exact ⟨rfl, rfl, rfl⟩

theorem next_ne_lock {statement next : SetTaskStatement} (hNext : statement.next = some next) :
    next ≠ .lock := by
  cases statement <;> cases hNext <;> decide

theorem outstanding_of_writing {statement : SetTaskStatement} {task : IpcTask}
    (called : s.setTask = some (statement, task)) (inside : statement ≠ .lock) :
    s.outstanding = task.pending := by
  unfold HandOff.outstanding HandOff.held HandOff.calling
  rw [called]
  cases statement <;> first | rfl | exact absurd rfl inside

/-- The receiver neither begins a datagram nor ends one. -/
theorem receiver_stepOk {s' : HandOff} (stage : s'.Stage)
    (outstanding : s'.outstanding = s.outstanding) (current : s'.current = s.current) :
    s.StepOk .receiver s' := by
  refine ⟨stage, ?_, ?_⟩
  · rw [outstanding]
    exact List.append_nil _
  · rw [current]
    exact List.append_nil _

/-- The receiver waits for the mutex, or makes its statement. -/
theorem step_receiver {statement : SetTaskStatement} {task : IpcTask}
    (called : s.setTask = some (statement, task)) :
    (handOffMachine env).step s .receiver =
      if statement = .lock ∧ s.operator.mutexIPCSetData then s
      else ⟨s.operator.execute task statement, statement.next.map fun next => (next, task)⟩ := by
  simp only [handOffMachine, HandOff.advanceReceiver, called]

theorem receiver_ok (h : s.Stage) : s.StepOk .receiver ((handOffMachine env).step s .receiver) := by
  cases called : s.setTask with
  | none =>
    have same : (handOffMachine env).step s .receiver = s := by
      simp only [handOffMachine, HandOff.advanceReceiver, called]
    rw [same]
    exact receiver_stepOk h rfl rfl
  | some call =>
    obtain ⟨statement, task⟩ := call
    rw [step_receiver called]
    split
    next => exact receiver_stepOk h rfl rfl
    next goes =>
      cases h with
      | free setData operData waits empty out =>
        obtain rfl := lock_of_out out called
        refine receiver_stepOk (.writing rfl (by decide) rfl operData waits empty) ?_ ?_
        · rw [outstanding_of_writing rfl (by decide), HandOff.outstanding, held_of_out out,
            HandOff.calling, called, empty]
          rfl
        · simp only [HandOff.current, waits, SIPCReqOperator.execute]
      | handed setData operData waits out =>
        -- the mutex is locked, so the receiver would wait, or write, which it does not
        exact absurd ⟨lock_of_out out called, setData⟩ goes
      | working setData operData works loaded cleared out =>
        exact absurd ⟨lock_of_out out called, setData⟩ goes
      | writing called' inside setData operData waits written =>
        rw [called] at called'
        cases called'
        cases hNext : statement.next with
        | some following =>
          obtain ⟨hSet, hOper, hProc⟩ :=
            execute_mutexes s.operator task inside hNext
          have waits' : (s.operator.execute task statement).processor = .lock := hProc.trans waits
          refine receiver_stepOk (.writing rfl (next_ne_lock hNext) (hSet.trans setData)
            (hOper.trans operData) waits' (written_next written inside hNext)) ?_ ?_
          · rw [outstanding_of_writing called inside]
            exact outstanding_of_writing rfl (next_ne_lock hNext)
          · simp only [HandOff.current, waits, waits']
        | none =>
          have last : statement = .unlock := by
            cases statement <;> first | rfl | cases hNext
          subst last
          have out' : ¬ (HandOff.mk (s.operator.execute task .unlock) none).Writing := by
            rintro ⟨_, _, called, -⟩
            cases called
          refine receiver_stepOk (.handed setData rfl waits out') ?_ ?_
          · have held := (held_of_out out').trans (written_args written)
            rw [outstanding_of_writing called inside, HandOff.outstanding]
            exact (List.append_nil _).trans held
          · simp only [HandOff.current, waits, SIPCReqOperator.execute]

/-- The step of the thread, where it begins nothing and ends nothing. -/
theorem processor_stepOk {s' : HandOff} (stage : s'.Stage) (begun : s.begun .processor = [])
    (ended : s.ended .processor = []) (outstanding : s'.outstanding = s.outstanding)
    (current : s'.current = s.current) : s.StepOk .processor s' := by
  refine ⟨stage, ?_, ?_⟩
  · rw [outstanding, ended]
    exact List.append_nil _
  · rw [current, begun, ended]
    exact List.append_nil _

/-- What is outstanding beside a thread that changes only where it is, and a mutex. -/
theorem outstanding_processor {o : SIPCReqOperator} (args : o.args = s.operator.args) :
    HandOff.outstanding { s with operator := o } = s.outstanding := by
  have len : o.stDataLen = s.operator.stDataLen := congrArg ProcessArgs.stMsgLen args
  simp only [HandOff.outstanding, HandOff.held, HandOff.calling, args, len]

/-- A thread that is past its lock has the operator. -/
theorem HandOff.Stage.works (h : s.Stage) (past : s.operator.processor ≠ .lock) :
    s.operator.mutexIPCSetData = true ∧ s.operator.mutexIPCOperData = true ∧ ¬ s.Writing ∧
      (∀ todo, s.operator.processor = .process todo → s.operator.stDataLen ≠ 0) ∧
      (s.operator.processor = .unlock → s.operator.stDataLen = 0) := by
  cases h with
  | free _ _ waits => exact absurd waits past
  | writing _ _ _ _ waits => exact absurd waits past
  | handed _ _ waits => exact absurd waits past
  | working setData operData _ loaded cleared out =>
    exact ⟨setData, operData, out, loaded, cleared⟩

/-- The thread works on the operator and goes on, without an end of a datagram. -/
theorem working_ok {o : SIPCReqOperator} (setData : o.mutexIPCSetData)
    (operData : o.mutexIPCOperData) (out : ¬ s.Writing) (works : o.processor ≠ .lock)
    (loaded : ∀ todo, o.processor = .process todo → o.stDataLen ≠ 0)
    (cleared : o.processor = .unlock → o.stDataLen = 0) (args : o.args = s.operator.args)
    (begun : HandOff.current { s with operator := o } = s.current ++ s.begun .processor)
    (ended : s.ended .processor = []) : s.StepOk .processor { s with operator := o } := by
  refine ⟨.working setData operData works loaded cleared out, ?_, ?_⟩
  · rw [outstanding_processor args, ended]
    exact List.append_nil _
  · rw [begun, ended]
    rfl

/-- At `m_mutexIPCOperData` the thread waits, or goes on to the datagram handed over. -/
theorem lock_ok (h : s.Stage) (waits : s.operator.processor = .lock) :
    s.StepOk .processor { s with operator := s.operator.advance env } := by
  have begun : s.begun .processor = [] := by simp only [HandOff.begun, waits]
  have ended : s.ended .processor = [] := by simp only [HandOff.ended, waits]
  have blocked : s.operator.mutexIPCOperData = true →
      s.StepOk .processor { s with operator := s.operator.advance env } := by
    intro operData
    rw [advance_blocked waits operData]
    exact processor_stepOk h begun ended rfl rfl
  cases h with
  | free _ operData => exact blocked operData
  | writing _ _ _ operData => exact blocked operData
  | working _ _ works => exact absurd waits works
  | handed setData operData _ out =>
    -- the receiver has unlocked the mutex: the thread has the operator from here on
    rw [advance_lock waits operData]
    refine working_ok setData rfl out ?_ ?_ ?_ rfl ?_ ended
    · exact nofun
    · exact nofun
    · exact nofun
    · simp only [HandOff.current, waits, begun, List.append_nil]

/-- The thread looks whether there is a datagram, and begins it. -/
theorem check_ok (setData : s.operator.mutexIPCSetData) (operData : s.operator.mutexIPCOperData)
    (out : ¬ s.Writing) (pc : s.operator.processor = .check) :
    s.StepOk .processor { s with operator := s.operator.advance env } := by
  have ended : s.ended .processor = [] := by simp only [HandOff.ended, pc]
  by_cases empty : s.operator.stDataLen = 0
  · -- an empty datagram is passed over
    rw [advance_empty pc empty]
    refine working_ok setData operData out ?_ ?_ (fun _ => empty) rfl ?_ ended
    · exact nofun
    · exact nofun
    · simp only [HandOff.current, HandOff.begun, pc, if_neg (not_not.mpr empty), List.append_nil]
  · rw [advance_loaded pc empty]
    refine working_ok setData operData out ?_ (fun _ _ => empty) ?_ rfl ?_ ended
    · exact nofun
    · exact nofun
    · simp only [HandOff.current, HandOff.begun, pc, ne_eq, empty, not_false_eq_true, if_true]
      rfl

/-- The thread processes the datagram; at the end of it the operator holds none. -/
theorem process_ok (setData : s.operator.mutexIPCSetData) (operData : s.operator.mutexIPCOperData)
    (out : ¬ s.Writing) {todo : List CallStep} (pc : s.operator.processor = .process todo)
    (full : s.operator.stDataLen ≠ 0) :
    s.StepOk .processor { s with operator := s.operator.advance env } := by
  cases todo with
  | cons step todo =>
    rw [advance_process pc]
    refine working_ok setData operData out ?_ (fun _ _ => full) ?_ rfl ?_ ?_
    · exact nofun
    · exact nofun
    · simp only [HandOff.current, HandOff.begun, pc, List.append_nil]
      rfl
    · simp only [HandOff.ended, pc]
  | nil =>
    rw [advance_processed pc]
    -- the length is cleared, so the datagram is not held any more
    have out' : ¬ HandOff.Writing
        { s with operator := { s.operator with stDataLen := 0, processor := .unlock } } := out
    refine ⟨.working setData operData ?_ ?_ (fun _ => rfl) out', ?_, ?_⟩
    · exact nofun
    · exact nofun
    · simp [HandOff.outstanding, held_of_out out, held_of_out out', if_pos full, HandOff.ended,
        HandOff.handed, HandOff.calling, pc]
    · simp only [HandOff.current, HandOff.begun, HandOff.ended, pc]

/-- The operator is given back to the receiver. -/
theorem unlock_ok (operData : s.operator.mutexIPCOperData) (out : ¬ s.Writing)
    (pc : s.operator.processor = .unlock) (empty : s.operator.stDataLen = 0) :
    s.StepOk .processor { s with operator := s.operator.advance env } := by
  rw [advance_unlock pc]
  refine processor_stepOk (.free rfl operData rfl empty out) ?_ ?_ (outstanding_processor rfl) ?_
  · simp only [HandOff.begun, pc]
  · simp only [HandOff.ended, pc]
  · simp only [HandOff.current, pc]

theorem processor_ok (h : s.Stage) :
    s.StepOk .processor ((handOffMachine env).step s .processor) := by
  show s.StepOk .processor { s with operator := s.operator.advance env }
  by_cases waits : s.operator.processor = .lock
  · exact lock_ok h waits
  · obtain ⟨setData, operData, out, loaded, cleared⟩ := h.works waits
    cases pc : s.operator.processor with
    | lock => exact absurd pc waits
    | check => exact check_ok setData operData out pc
    | process todo => exact process_ok setData operData out pc (loaded todo pc)
    | unlock => exact unlock_ok operData out pc (cleared pc)

/-- What any step does. -/
theorem step_ok (env : IpcEnv) (h : s.Stage) (op : HandOffOp) :
    s.StepOk op ((handOffMachine env).step s op) := by
  cases op with
  | call task => exact call_ok h task
  | receiver => exact receiver_ok h
  | processor => exact processor_ok h

end Steps

/-! ### Runs -/

theorem stage_start : HandOff.Stage {} := by
  refine .free rfl rfl rfl rfl ?_
  rintro ⟨_, _, called, -⟩
  cases called

section Runs

variable (env : IpcEnv) (ops : List HandOffOp)

/-- The datagrams handed over in a run, without the empty ones. -/
def handedOver : List ProcessArgs := (handOffMachine env).trace HandOff.handed ops

/-- The calls of `pcrf_ipc_process_request` in a run, as it reads its arguments at the start. -/
def processBegun : List ProcessArgs := (handOffMachine env).trace HandOff.begun ops

/-- Those that have returned, as it reads its arguments at the end. -/
def processEnded : List ProcessArgs := (handOffMachine env).trace HandOff.ended ops

theorem stage_run : ((handOffMachine env).run ops).Stage :=
  (handOffMachine env).inv_run stage_start (fun _ op h => (step_ok env h op).stage) ops

theorem handedOver_eq : handedOver env ops =
    processEnded env ops ++ ((handOffMachine env).run ops).outstanding := by
  induction ops using List.reverseRecOn with
  | nil => rfl
  | append_singleton ops op ih =>
    have ok := step_ok env (stage_run env ops) op
    simp only [handedOver, processEnded, Machine.trace_snoc, Machine.run_snoc] at ih ⊢
    rw [ih, List.append_assoc, ok.outstanding, List.append_assoc]

theorem processBegun_eq : processBegun env ops =
    processEnded env ops ++ ((handOffMachine env).run ops).current := by
  induction ops using List.reverseRecOn with
  | nil => rfl
  | append_singleton ops op ih =>
    have ok := step_ok env (stage_run env ops) op
    simp only [processBegun, processEnded, Machine.trace_snoc, Machine.run_snoc] at ih ⊢
    rw [ih, List.append_assoc, ok.current, List.append_assoc]

/-- What is being processed is the first of what is outstanding. -/
theorem current_prefix {s : HandOff} (h : s.Stage) : s.current <+: s.outstanding := by
  unfold HandOff.current
  cases pc : s.operator.processor with
  | process todo =>
    have past : s.operator.processor ≠ .lock := by
      rw [pc]
      exact nofun
    obtain ⟨-, -, out, loaded, -⟩ := h.works past
    rw [HandOff.outstanding, held_of_out out, if_pos (loaded todo pc)]
    exact List.prefix_append ..
  | _ => exact List.nil_prefix

/-- Nothing is processed while the receiver writes. -/
theorem current_of_writing {s : HandOff} (h : s.Stage) (writing : s.Writing) : s.current = [] := by
  cases h with
  | free _ _ _ _ out => exact absurd writing out
  | handed _ _ _ out => exact absurd writing out
  | working _ _ _ _ _ out => exact absurd writing out
  | writing _ _ _ _ waits =>
    unfold HandOff.current
    rw [waits]

end Runs

/-! ### What is handed over is processed -/

section Progress

variable (env : IpcEnv)

/-- How far the thread is from the end of the datagram that its operator holds. -/
def SIPCReqOperator.rank (o : SIPCReqOperator) : ℕ :=
  match o.processor with
  | .lock => (env.updates o.bytes).length + 3
  | .check => (env.updates o.bytes).length + 2
  | .process todo => todo.length + 1
  | .unlock => 0

/-- How far a call of `SetTask` is from handing its datagram over. In front of the first statement
it waits for the thread to come round to the mutex. -/
def SetTaskStatement.rank (o : SIPCReqOperator) : SetTaskStatement → ℕ
  | unlock => 0
  | addr => 1
  | sock => 2
  | len => 3
  | data => 4
  | lock =>
    if o.mutexIPCSetData then
      match o.processor with
      | .lock => 8
      | .check => 7
      | _ => 6
    else 5

/-- How far it is to the end of the first datagram that is outstanding. -/
def HandOff.rank (s : HandOff) : ℕ :=
  if s.held ≠ [] then s.operator.rank env
  else
    match s.setTask with
    | some (statement, task) => (env.updates task.buf).length + 4 + statement.rank s.operator
    | none => 0

/-- The thread whose step is waited for. -/
def HandOff.helpful (s : HandOff) : HandOffOp :=
  if s.held ≠ [] then .processor
  else
    match s.setTask with
    | some (.lock, _) => if s.operator.mutexIPCSetData then .processor else .receiver
    | _ => .receiver

variable {env} {s : HandOff}

theorem rank_of_held (h : s.held ≠ []) : s.rank env = s.operator.rank env := if_pos h

theorem helpful_of_held (h : s.held ≠ []) : s.helpful = .processor := if_pos h

theorem rank_of_call {statement : SetTaskStatement} {task : IpcTask} (h : s.held = [])
    (called : s.setTask = some (statement, task)) :
    s.rank env = (env.updates task.buf).length + 4 + statement.rank s.operator := by
  rw [HandOff.rank, if_neg (not_not.mpr h), called]

theorem held_of_writing {statement : SetTaskStatement} {task : IpcTask}
    (called : s.setTask = some (statement, task)) (inside : statement ≠ .lock) : s.held = [] := by
  unfold HandOff.held
  rw [called]
  cases statement <;> first | rfl | exact absurd rfl inside

theorem helpful_of_writing {statement : SetTaskStatement} {task : IpcTask}
    (called : s.setTask = some (statement, task)) (inside : statement ≠ .lock) :
    s.helpful = .receiver := by
  rw [HandOff.helpful, if_neg (not_not.mpr (held_of_writing called inside)), called]
  cases statement <;> first | rfl | exact absurd rfl inside

/-- A step that changes nothing, of the thread that is not waited for. -/
theorem approaches_same {s' : HandOff} {op : HandOffOp} (same : s' = s) (other : op ≠ s.helpful) :
    Approaches (HandOff.rank env) HandOff.helpful s op s' := by
  subst same
  exact .inr ⟨rfl, rfl, other⟩

/-- The rank of an operator that still holds a datagram after the step of its thread. -/
theorem approaches_advance {o : SIPCReqOperator} (full : s.held ≠ [])
    (full' : HandOff.held { s with operator := o } ≠ [])
    (smaller : o.rank env < s.operator.rank env) :
    Approaches (HandOff.rank env) HandOff.helpful s .processor { s with operator := o } := by
  refine .inl ?_
  rw [rank_of_held full, rank_of_held full']
  exact smaller

theorem out_of_held (full : s.held ≠ []) : ¬ s.Writing := by
  rintro ⟨statement, task, called, inside⟩
  exact full (held_of_writing called inside)

theorem loaded_of_held (full : s.held ≠ []) : s.operator.stDataLen ≠ 0 := by
  intro empty
  rw [held_of_out (out_of_held full), empty] at full
  exact full rfl

/-- A new call changes nothing for the datagram that is held. -/
theorem approaches_held_call (full : s.held ≠ []) (task : IpcTask) :
    Approaches (HandOff.rank env) HandOff.helpful s (.call task)
      ((handOffMachine env).step s (.call task)) := by
  have helps := helpful_of_held full
  by_cases idle : s.setTask.isNone = true
  · have none_called := Option.isNone_iff_eq_none.mp idle
    have next : (handOffMachine env).step s (.call task) =
        { s with setTask := some (.lock, task) } := if_pos idle
    -- at the lock a new call leaves what is held as it is
    have same : HandOff.held { s with setTask := some (.lock, task) } = s.held := by
      simp only [HandOff.held, none_called]
    have full' : HandOff.held { s with setTask := some (.lock, task) } ≠ [] := same.symm ▸ full
    rw [next]
    refine .inr ⟨?_, ?_, ?_⟩
    · rw [rank_of_held full, rank_of_held full']
    · rw [helps, helpful_of_held full']
    · rw [helps]
      exact nofun
  · refine approaches_same (if_neg idle) ?_
    rw [helps]
    exact nofun

/-- The receiver waits for the mutex, if it is in a call at all. -/
theorem receiver_held (h : s.Stage) (full : s.held ≠ []) :
    (handOffMachine env).step s .receiver = s := by
  have setData : s.operator.mutexIPCSetData = true := by
    cases h with
    | free _ _ _ empty _ => exact absurd empty (loaded_of_held full)
    | writing _ _ setData => exact setData
    | handed setData => exact setData
    | working setData => exact setData
  cases called : s.setTask with
  | none => simp only [handOffMachine, HandOff.advanceReceiver, called]
  | some call =>
    obtain ⟨statement, task⟩ := call
    have first := lock_of_out (out_of_held full) called
    rw [step_receiver called, if_pos ⟨first, setData⟩]

/-- The thread comes nearer to the end of the datagram, or ends it. -/
theorem approaches_held_processor (h : s.Stage) (full : s.held ≠ []) :
    s.ended .processor ≠ [] ∨ Approaches (HandOff.rank env) HandOff.helpful s .processor
      ((handOffMachine env).step s .processor) := by
  have loaded := loaded_of_held full
  have out := out_of_held full
  -- as long as the length stays, so does what is held
  have still : ∀ o : SIPCReqOperator, o.stDataLen = s.operator.stDataLen →
      HandOff.held { s with operator := o } ≠ [] := by
    intro o len
    have out' : ¬ HandOff.Writing { s with operator := o } := out
    rw [held_of_out out', if_pos (len ▸ loaded)]
    exact List.cons_ne_nil _ _
  show s.ended .processor ≠ [] ∨ Approaches (HandOff.rank env) HandOff.helpful s .processor
    { s with operator := s.operator.advance env }
  cases h with
  | free _ _ _ empty _ => exact absurd empty loaded
  | writing called inside => exact absurd ⟨_, _, called, inside⟩ out
  | handed _ operData waits _ =>
    rw [advance_lock waits operData]
    refine .inr (approaches_advance full (still _ rfl) ?_)
    simp [SIPCReqOperator.rank, SIPCReqOperator.bytes, waits]
  | working _ _ works _ cleared _ =>
    cases pc : s.operator.processor with
    | lock => exact absurd pc works
    | check =>
      rw [advance_loaded pc loaded]
      refine .inr (approaches_advance full (still _ rfl) ?_)
      simp only [SIPCReqOperator.rank, pc]
      omega
    | process todo =>
      cases todo with
      | nil =>
        refine .inl ?_
        simp only [HandOff.ended, pc]
        exact List.cons_ne_nil _ _
      | cons step todo =>
        rw [advance_process pc]
        refine .inr (approaches_advance full (still _ rfl) ?_)
        simp only [SIPCReqOperator.rank, pc, List.length_cons]
        omega
    | unlock => exact absurd (cleared pc) loaded

/-- The operator holds a datagram: its thread comes to the end of it. -/
theorem approaches_held (h : s.Stage) (full : s.held ≠ []) (op : HandOffOp) :
    s.ended op ≠ [] ∨
      Approaches (HandOff.rank env) HandOff.helpful s op ((handOffMachine env).step s op) := by
  cases op with
  | call task => exact .inr (approaches_held_call full task)
  | receiver =>
    refine .inr (approaches_same (receiver_held h full) ?_)
    rw [helpful_of_held full]
    exact nofun
  | processor => exact approaches_held_processor h full

theorem helpful_of_lock {task : IpcTask} (empty : s.held = [])
    (called : s.setTask = some (.lock, task)) :
    s.helpful = if s.operator.mutexIPCSetData then .processor else .receiver := by
  rw [HandOff.helpful, if_neg (not_not.mpr empty), called]

/-- A step of the thread that brings the receiver nearer to the mutex. -/
theorem approaches_lock {o : SIPCReqOperator} {task : IpcTask} (empty : s.held = [])
    (called : s.setTask = some (.lock, task)) (empty' : o.stDataLen = 0)
    (smaller : SetTaskStatement.lock.rank o < SetTaskStatement.lock.rank s.operator) :
    Approaches (HandOff.rank env) HandOff.helpful s .processor { s with operator := o } := by
  have held' : HandOff.held { s with operator := o } = [] := by
    simp only [HandOff.held, called, empty']
    rfl
  refine .inl ?_
  rw [rank_of_call held' called, rank_of_call empty called]
  show _ + SetTaskStatement.lock.rank o < _
  omega

/-- The statement behind another one is nearer to the end of the call. -/
theorem rank_next {statement next : SetTaskStatement} {task : IpcTask} {o : SIPCReqOperator}
    (hNext : statement.next = some next) (free : statement = .lock → o.mutexIPCSetData = false) :
    next.rank (o.execute task statement) < statement.rank o := by
  cases statement with
  | lock =>
    cases hNext
    simp [SetTaskStatement.rank, free rfl]
  | unlock => cases hNext
  | _ =>
    cases hNext
    simp [SetTaskStatement.rank]

/-- The receiver unlocks `m_mutexIPCOperData`: what it called `SetTask` with is held now. -/
theorem approaches_unlock (h : s.Stage) (empty : s.held = []) {task : IpcTask}
    (called : s.setTask = some (.unlock, task)) (full : task.pending ≠ []) :
    HandOff.rank env ⟨s.operator.execute task .unlock, none⟩ < s.rank env := by
  have writing : s.Writing := ⟨_, _, called, by decide⟩
  cases h with
  | free _ _ _ _ out => exact absurd writing out
  | handed _ _ _ out => exact absurd writing out
  | working _ _ _ _ _ out => exact absurd writing out
  | writing called' _ _ _ waits written =>
    rw [called] at called'
    cases called'
    have held' : HandOff.held ⟨s.operator.execute task .unlock, none⟩ = task.pending :=
      written_args written
    -- the bytes that are processed next are those of the call
    have bytes : s.operator.bytes = task.buf := congrArg ProcessArgs.pmui8Buf written
    have rank : (s.operator.execute task .unlock).rank env =
        (env.updates task.buf).length + 3 := by
      simp only [SIPCReqOperator.rank, SIPCReqOperator.execute, waits]
      rw [← bytes]
      rfl
    rw [rank_of_held (held'.symm ▸ full), rank, rank_of_call empty called]
    omega

/-- A statement of the receiver brings it nearer to the end of its call, if it does not wait. -/
theorem approaches_call_receiver (h : s.Stage) (empty : s.held = [])
    {statement : SetTaskStatement} {task : IpcTask} (called : s.setTask = some (statement, task))
    (full : task.pending ≠ []) :
    Approaches (HandOff.rank env) HandOff.helpful s .receiver
      ((handOffMachine env).step s .receiver) := by
  rw [step_receiver called]
  split
  next waits =>
    obtain ⟨rfl, setData⟩ := waits
    refine approaches_same rfl ?_
    rw [helpful_of_lock empty called, if_pos setData]
    exact nofun
  next goes =>
    refine .inl ?_
    cases hNext : statement.next with
    | some following =>
      have held' : HandOff.held ⟨s.operator.execute task statement, some (following, task)⟩ = [] :=
        held_of_writing rfl (next_ne_lock hNext)
      have free : statement = .lock → s.operator.mutexIPCSetData = false := by
        intro first
        by_contra setData
        exact goes ⟨first, by simpa using setData⟩
      rw [Option.map_some, rank_of_call held' rfl, rank_of_call empty called]
      exact Nat.add_lt_add_left (rank_next hNext free) _
    | none =>
      have last : statement = .unlock := by
        cases statement <;> first | rfl | cases hNext
      subst last
      exact approaches_unlock h empty called full

/-- The thread waits for the receiver, or comes nearer to unlocking the mutex that the receiver
waits for. -/
theorem approaches_call_processor (h : s.Stage) (empty : s.held = [])
    {statement : SetTaskStatement} {task : IpcTask}
    (called : s.setTask = some (statement, task)) :
    Approaches (HandOff.rank env) HandOff.helpful s .processor
      ((handOffMachine env).step s .processor) := by
  show Approaches (HandOff.rank env) HandOff.helpful s .processor
    { s with operator := s.operator.advance env }
  have blocked : s.operator.mutexIPCOperData = true → s.operator.processor = .lock →
      s.helpful = .receiver → Approaches (HandOff.rank env) HandOff.helpful s .processor
        { s with operator := s.operator.advance env } := by
    intro operData waits helps
    rw [advance_blocked waits operData]
    refine approaches_same rfl ?_
    rw [helps]
    exact nofun
  -- outside of the writes the operator is empty, as it holds nothing
  have unloaded : ¬ s.Writing → s.operator.stDataLen = 0 := by
    intro out
    by_contra loaded
    rw [held_of_out out, if_pos loaded] at empty
    cases empty
  cases h with
  | free setData operData waits _ out =>
    obtain rfl := lock_of_out out called
    refine blocked operData waits ?_
    rw [helpful_of_lock empty called, setData]
    rfl
  | writing called' inside _ operData waits _ =>
    exact blocked operData waits (helpful_of_writing called' inside)
  | handed setData operData waits out =>
    obtain rfl := lock_of_out out called
    rw [advance_lock waits operData]
    refine approaches_lock empty called (unloaded out) ?_
    simp [SetTaskStatement.rank, waits, setData]
  | working setData operData works loaded _ out =>
    obtain rfl := lock_of_out out called
    cases pc : s.operator.processor with
    | lock => exact absurd pc works
    | process todo => exact absurd (unloaded out) (loaded todo pc)
    | check =>
      rw [advance_empty pc (unloaded out)]
      refine approaches_lock empty called (unloaded out) ?_
      simp [SetTaskStatement.rank, pc, setData]
    | unlock =>
      rw [advance_unlock pc]
      refine approaches_lock empty called (unloaded out) ?_
      simp [SetTaskStatement.rank, pc, setData]

/-- The receiver hands a datagram over, while the operator holds none. -/
theorem approaches_call (h : s.Stage) (empty : s.held = []) {statement : SetTaskStatement}
    {task : IpcTask} (called : s.setTask = some (statement, task)) (full : task.pending ≠ [])
    (op : HandOffOp) :
    Approaches (HandOff.rank env) HandOff.helpful s op ((handOffMachine env).step s op) := by
  cases op with
  | call other =>
    refine approaches_same (if_neg (by rw [called]; exact Bool.false_ne_true)) ?_
    unfold HandOff.helpful
    repeat' split
    all_goals exact nofun
  | receiver => exact approaches_call_receiver h empty called full
  | processor => exact approaches_call_processor h empty called

/-- While a datagram is outstanding, every step brings its end nearer, or is not the one that is
waited for. -/
theorem approaches_outstanding (env : IpcEnv) (h : s.Stage) (some_left : s.outstanding ≠ [])
    (op : HandOffOp) :
    s.ended op ≠ [] ∨
      Approaches (HandOff.rank env) HandOff.helpful s op ((handOffMachine env).step s op) := by
  by_cases full : s.held ≠ []
  · exact approaches_held h full op
  · have empty := not_not.mp full
    -- nothing is held, so what is outstanding is the call of the receiver
    have calls : s.calling ≠ [] := by
      rwa [HandOff.outstanding, empty, List.nil_append] at some_left
    refine .inr ?_
    cases called : s.setTask with
    | none =>
      simp only [HandOff.calling, called] at calls
      exact absurd rfl calls
    | some call =>
      simp only [HandOff.calling, called] at calls
      exact approaches_call h empty called calls op

/-- Each thread goes on again and again. -/
def FairThreads (schedule : ℕ → HandOffOp) : Prop :=
  ComesAlways schedule .receiver ∧ ComesAlways schedule .processor

variable {schedule : ℕ → HandOffOp}

/-- While something is outstanding, a call of `pcrf_ipc_process_request` ends after a while. -/
theorem eventually_ended (env : IpcEnv) (fair : FairThreads schedule) {n : ℕ}
    (some_left : ((handOffMachine env).run (firstOf schedule n)).outstanding ≠ []) :
    ∃ m, n ≤ m ∧ (processEnded env (firstOf schedule n)).length <
      (processEnded env (firstOf schedule m)).length := by
  let state (k : ℕ) := (handOffMachine env).run (firstOf schedule k)
  let ended (k : ℕ) := processEnded env (firstOf schedule k)
  have ended_succ : ∀ k, ended (k + 1) = ended k ++ (state k).ended (schedule k) := fun k => by
    simp only [ended, processEnded, firstOf_succ, Machine.trace_snoc, state]
  have state_succ : ∀ k, state (k + 1) = (handOffMachine env).step (state k) (schedule k) :=
    fun k => by simp only [state, firstOf_succ, Machine.run_snoc]
  refine eventually_of_rank schedule state (HandOff.rank env) HandOff.helpful
    (P := fun k => (state k).outstanding ≠ [] ∧ (ended k).length = (ended n).length)
    (G := fun k => (ended n).length < (ended k).length) ?_ ?_ ⟨some_left, rfl⟩
  · -- what helps is always a step of one of the two threads
    intro k _
    unfold HandOff.helpful
    repeat' split
    all_goals first | exact fair.1 | exact fair.2
  · rintro k ⟨left, same⟩
    have stage : (state k).Stage := stage_run env _
    have ok := step_ok env stage (schedule k)
    by_cases done : (state k).ended (schedule k) = []
    · have approaches := (approaches_outstanding env stage left (schedule k)).resolve_left
        (not_not.mpr done)
      refine .inr ⟨⟨?_, ?_⟩, ?_⟩
      · have still := ok.outstanding
        rw [done, List.nil_append, ← state_succ] at still
        rw [← still]
        exact fun h => left (List.append_eq_nil_iff.mp h).1
      · rw [ended_succ, done, List.append_nil, same]
      · rw [state_succ]
        exact approaches
    · -- a call that ends here makes the record longer
      have more := List.length_pos_iff.mpr done
      rw [ended_succ, List.length_append]
      exact .inl (by omega)

/-- What was handed over by then is processed after a while. -/
theorem eventually_processed (fair : FairThreads schedule) (n : ℕ) :
    ∃ m, n ≤ m ∧ handedOver env (firstOf schedule n) <+: processEnded env (firstOf schedule m) := by
  let handed (k : ℕ) := handedOver env (firstOf schedule k)
  let ended (k : ℕ) := processEnded env (firstOf schedule k)
  have grows : ∀ k m, k ≤ m → handed k <+: handed m := fun k m h =>
    (handOffMachine env).prefix_trace _ (prefix_firstOf schedule h)
  have account : ∀ k, handed k = ended k ++
      ((handOffMachine env).run (firstOf schedule k)).outstanding := fun k => handedOver_eq env _
  -- one after another, by induction on how many are still missing
  have enough : ∀ missing k, n ≤ k → (handed n).length ≤ (ended k).length + missing →
      ∃ m, k ≤ m ∧ (handed n).length ≤ (ended m).length := by
    intro missing
    induction missing with
    | zero => exact fun k _ hLen => ⟨k, Nat.le_refl _, hLen⟩
    | succ missing ih =>
      intro k hk hLen
      by_cases done : (handed n).length ≤ (ended k).length
      · exact ⟨k, Nat.le_refl _, done⟩
      · -- otherwise nothing was outstanding, and all of them were processed
        have left : ((handOffMachine env).run (firstOf schedule k)).outstanding ≠ [] := by
          intro nothing
          have sum := (grows n k hk).length_le
          rw [account k, nothing, List.append_nil] at sum
          exact done sum
        obtain ⟨m, hm, more⟩ := eventually_ended env fair left
        obtain ⟨last, hLast, found⟩ := ih m (by omega) (by simp only [ended] at hLen ⊢; omega)
        exact ⟨last, by omega, found⟩
  obtain ⟨m, hm, hLen⟩ := enough (handed n).length n (Nat.le_refl _) (by omega)
  refine ⟨m, hm, List.prefix_of_prefix_length_le (grows n m hm) ?_ hLen⟩
  rw [account m]
  exact List.prefix_append ..

end Progress

/-- At every moment of every run, the datagrams handed over are those processed and those still
outstanding, in order and with the arguments they were handed over with; the processing of the
first outstanding one may have begun, and then it reads what was handed over, and nothing is
written. While both threads go on, whatever is handed over is processed. -/
theorem handed_over_once (env : IpcEnv) :
    (∀ ops,
      handedOver env ops =
          processEnded env ops ++ ((handOffMachine env).run ops).outstanding ∧
        processBegun env ops = processEnded env ops ++ ((handOffMachine env).run ops).current ∧
        ((handOffMachine env).run ops).current <+: ((handOffMachine env).run ops).outstanding ∧
        (((handOffMachine env).run ops).Writing → ((handOffMachine env).run ops).current = [])) ∧
      ∀ schedule, FairThreads schedule → ∀ n, ∃ m, n ≤ m ∧
        handedOver env (firstOf schedule n) <+: processEnded env (firstOf schedule m) := by
  refine ⟨fun ops => ?_, fun schedule fair n => eventually_processed fair n⟩
  have stage := stage_run env ops
  exact ⟨handedOver_eq env ops, processBegun_eq env ops, current_prefix stage,
    current_of_writing stage⟩

/-! ### A receiver that never stops -/

/-- The receiver calls `SetTask` whenever it can, and the threads take turns. -/
def busySchedule (task : IpcTask) (n : ℕ) : HandOffOp :=
  if n % 3 = 0 then .call task else if n % 3 = 1 then .receiver else .processor

theorem fair_busySchedule (task : IpcTask) : FairThreads (busySchedule task) := by
  constructor
  · intro n
    refine ⟨3 * n + 1, by omega, ?_⟩
    rw [busySchedule, if_neg (by omega), if_pos (by omega)]
  · intro n
    refine ⟨3 * n + 2, by omega, ?_⟩
    rw [busySchedule, if_neg (by omega), if_neg (by omega)]

/-- An operator whose datagrams cannot be parsed. -/
def deafEnv : IpcEnv where
  codes := sampleCodes
  parse _ := none
  fresh _ _ := '?'
  pcrfPeerDialectRet _ _ := .gxUndef

theorem busy_handed_over : ∃ m, 1 ≤ m ∧
    handedOver deafEnv (firstOf (busySchedule { buf := ['x'] }) 1) <+:
      processEnded deafEnv (firstOf (busySchedule { buf := ['x'] }) m) :=
  (handed_over_once deafEnv).2 _ (fair_busySchedule { buf := ['x'] }) 1

end Pcrf
