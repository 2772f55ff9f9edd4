import Mathlib.Algebra.Order.Ring.Int
import Mathlib.Data.List.Basic
import Pcrf.SqlQueue

/-!
`pcrf_sql_queue_enqueue`, and all the queues together: on which queue a statement is put, and in
which order the statements of a session are executed.
-/

namespace Pcrf

open Lib

/-! ### The queue of a session id -/

/-- `isspace` -/
def isSpace (c : Char) : Bool :=
  c ∈ [' ', '\t', '\n', '\x0b', '\x0c', '\r']

/-- The number that the digits at the front make, after `value`. -/
def strtolDigits : List Char → Nat → Nat
  | [], value => value
  | c :: cs, value =>
    if c.isDigit then strtolDigits cs (10 * value + (c.toNat - '0'.toNat)) else value

def LONG_MAX : Int := 2 ^ 63 - 1

def LONG_MIN : Int := - 2 ^ 63

/-- `strtol` to base 10: white space, a sign, digits; a value out of range becomes the nearest
`long`. The byte 0 that ends a C string is no digit, so it ends the number. -/
def strtol (s : List Char) : Int :=
  let (negative, digits) : Bool × List Char :=
    match s.dropWhile isSpace with
    | '-' :: digits => (true, digits)
    | '+' :: digits => (false, digits)
    | digits => (false, digits)
  let value : Int := strtolDigits digits 0
  max LONG_MIN (min LONG_MAX (if negative then -value else value))

/-- What follows the last `c`: `substr` after `rfind`. -/
def afterLast (c : Char) : List Char → Option (List Char)
  | [] => none
  | x :: xs => (afterLast c xs).or (if x = c then some xs else none)

/-- `uiThreadIndex`: the queue for a statement, and the next `uiRoundIndex`. The remainder of a
`long` by an `unsigned` has the sign of the `long` and is then narrowed to `unsigned`. -/
def uiThreadIndex (queueCount roundIndex : Nat) (sessionId : Option String) : Nat × Nat :=
  match sessionId.bind fun id => afterLast ';' id.toList with
  | some suffix => ((((strtol suffix).tmod queueCount) % 2 ^ 32).toNat, roundIndex)
  | none => (roundIndex % queueCount, roundIndex % queueCount + 1)

example : uiThreadIndex 4 0 (some "gx.host;12;7") = (3, 0) := by decide
example : uiThreadIndex 4 6 (some "gx.host") = (2, 3) := by decide

/-! ### All queues -/

section System

variable {π : Type}

/-- One call of `pcrf_sql_queue_enqueue`: the session id, the queue chosen and the statement. -/
structure EnqueueCall (π : Type) where
  sessionId : Option String
  index : Nat
  request : SSQLRequestInfo π
  deriving Repr, DecidableEq

/-- `g_pmsoSQLQueue` and `uiRoundIndex`. `calls` records the calls. -/
structure SqlQueues (π : Type) where
  queues : List (SqlQueueThread π)
  roundIndex : Nat := 0
  calls : List (EnqueueCall π) := []
  deriving Repr, DecidableEq

/-- `g_uiQueueCount` -/
def SqlQueues.queueCount (state : SqlQueues π) : Nat := state.queues.length

/-- `pcrf_sql_queue_init`: no queues for a pool of less than four connections. The array for a
negative pool size, converted to `unsigned`, is too large to be allocated. -/
def pcrfSqlQueueInit (π : Type) (iDBPoolSize : Int32) : Option (SqlQueues π) :=
  let queueCount := iDBPoolSize.toInt.tdiv 4
  if 0 < queueCount then some { queues := List.replicate queueCount.toNat {} } else none

/-- An index outside the array changes no queue here; what the code then does is undefined. -/
def pcrfSqlQueueEnqueue (state : SqlQueues π) (request : SSQLRequestInfo π)
    (sessionId : Option String) : SqlQueues π :=
  let chosen := uiThreadIndex state.queueCount state.roundIndex sessionId
  { queues := state.queues.modify chosen.1 fun thread => thread.enqueue request
    roundIndex := chosen.2
    calls := state.calls ++ [⟨sessionId, chosen.1, request⟩] }

/-- A call of `pcrf_sql_queue_enqueue`, or a pass of the thread of one queue. -/
inductive SqlQueuesOp (π : Type) where
  | enqueue (request : SSQLRequestInfo π) (sessionId : Option String)
  | pass (index : Nat) (answers : SqlAnswers)
  deriving Repr, DecidableEq

def SqlQueues.apply (state : SqlQueues π) : SqlQueuesOp π → SqlQueues π
  | .enqueue request sessionId => pcrfSqlQueueEnqueue state request sessionId
  | .pass index answers =>
    { state with queues := state.queues.modify index fun thread => pcrfSqlQueueOper thread answers }

def sqlQueuesMachine (start : SqlQueues π) : Machine (SqlQueues π) (SqlQueuesOp π) where
  init := start
  step := SqlQueues.apply

end System

/-! ### The choice of the queue -/

/-- The number after the last semicolon leaves no negative remainder. -/
def InRange (queueCount : Nat) (sessionId : Option String) : Prop :=
  ∀ suffix ∈ sessionId.bind fun id => afterLast ';' id.toList,
    0 ≤ strtol suffix ∨ (queueCount : Int) ∣ strtol suffix

instance (queueCount : Nat) (sessionId : Option String) :
    Decidable (InRange queueCount sessionId) :=
  inferInstanceAs (Decidable (∀ suffix ∈ _, _ ∨ _))

theorem afterLast_eq_none {c : Char} {s : List Char} : afterLast c s = none ↔ c ∉ s := by
  induction s with
  | nil => simp [afterLast]
  | cons x xs ih =>
    by_cases hx : x = c
    · simp [afterLast, hx]
    · simp [afterLast, hx, ih, Ne.symm hx]

theorem tmod_nonneg_iff {value : Int} {queueCount : Nat} :
    0 ≤ value.tmod queueCount ↔ 0 ≤ value ∨ (queueCount : Int) ∣ value := by
  rcases Int.le_total 0 value with h | h
  · simp [h, Int.tmod_nonneg]
  · -- of a negative value the remainder is 0 or below
    obtain ⟨n, rfl⟩ := Int.exists_eq_neg_ofNat h
    have remainder : (-(n : Int)).tmod queueCount = -((n % queueCount : Nat) : Int) := by
      rw [Int.neg_tmod, Int.ofNat_tmod]
    rw [remainder, Int.dvd_neg, Int.natCast_dvd_natCast, Nat.dvd_iff_mod_eq_zero]
    constructor
    · intro nonneg
      right
      omega
    · rintro (zero | divides)
      · have : n = 0 := by omega
        simp [this]
      · omega

/-- With a queue count that fits an `int`, a negative remainder narrowed to `unsigned` is past
the end of the array. -/
theorem uiThreadIndex_lt_iff {queueCount : Nat} (positive : 0 < queueCount)
    (small : queueCount ≤ 2 ^ 31) (roundIndex : Nat) (sessionId : Option String) :
    (uiThreadIndex queueCount roundIndex sessionId).1 < queueCount ↔
      InRange queueCount sessionId := by
  simp only [uiThreadIndex, InRange]
  cases h : sessionId.bind fun id => afterLast ';' id.toList with
  -- without a semicolon the index is taken in turn
  | none => simpa using Nat.mod_lt _ positive
  | some suffix =>
    simp only [Option.mem_def, Option.some.injEq, forall_eq', ← tmod_nonneg_iff]
    have upper := Int.tmod_lt_of_pos (strtol suffix) (Int.natCast_pos.mpr positive)
    have lower := Int.lt_tmod_of_pos (strtol suffix) (Int.natCast_pos.mpr positive)
    generalize (strtol suffix).tmod queueCount = remainder at *
    -- below 0 it is narrowed to 2 ^ 32 less it, which is past any `int`
    omega

theorem uiThreadIndex_roundIndex {queueCount : Nat} {id : String}
    (fixed : queueCount = 1 ∨ ';' ∈ id.toList) (roundIndex : Nat) :
    (uiThreadIndex queueCount roundIndex (some id)).1 =
      (uiThreadIndex queueCount 0 (some id)).1 := by
  simp only [uiThreadIndex, Option.bind_some]
  cases h : afterLast ';' id.toList with
  | some suffix => rfl
  | none =>
    have one := fixed.resolve_right (afterLast_eq_none.mp h)
    simp [one, Nat.mod_one]

/-- Without a semicolon the next call goes to the next queue. -/
theorem uiThreadIndex_next {queueCount : Nat} {id : String} (unmarked : ';' ∉ id.toList)
    (several : 1 < queueCount) (roundIndex : Nat) :
    (uiThreadIndex queueCount (uiThreadIndex queueCount roundIndex (some id)).2 (some id)).1 ≠
      (uiThreadIndex queueCount roundIndex (some id)).1 := by
  have none : afterLast ';' id.toList = none := afterLast_eq_none.mpr unmarked
  simp only [uiThreadIndex, Option.bind_some, none]
  have lt := Nat.mod_lt roundIndex (by omega : 0 < queueCount)
  generalize roundIndex % queueCount = round at *
  rcases Nat.lt_or_ge (round + 1) queueCount with inside | last
  · rw [Nat.mod_eq_of_lt inside]
    omega
  · have wraps : round + 1 = queueCount := by omega
    rw [wraps, Nat.mod_self]
    omega

/-! ### The order on one queue -/

section Order

variable {π : Type}

/-- What the thread has executed and still has to execute comes from `enqueued`, in its order. -/
structure SqlQueueThread.Follows (thread : SqlQueueThread π)
    (enqueued : List (SSQLRequestInfo π)) : Prop where
  all : thread.erased.map Prod.fst ++ thread.listSQLQueue = enqueued
  executions : ∀ e ∈ thread.executions, e.1 ≤ thread.erased.length ∧ enqueued[e.1]? = some e.2
  sorted : thread.executions.Pairwise fun e later => e.1 ≤ later.1

/-- What one pass can do: nothing to the queue, execute its first statement, or execute it and
erase it. -/
inductive SqlQueueThread.Moves (thread next : SqlQueueThread π) : Prop where
  | rests (queue : next.listSQLQueue = thread.listSQLQueue)
      (executions : next.executions = thread.executions) (erased : next.erased = thread.erased)
  | executes (request : SSQLRequestInfo π) (rest : List (SSQLRequestInfo π))
      (front : thread.listSQLQueue = request :: rest)
      (queue : next.listSQLQueue = thread.listSQLQueue)
      (executions : next.executions = thread.executions ++ [(thread.erased.length, request)])
      (erased : next.erased = thread.erased)
  | erases (request : SSQLRequestInfo π) (taken : Bool)
      (front : thread.listSQLQueue = request :: next.listSQLQueue)
      (executions : next.executions = thread.executions ++ [(thread.erased.length, request)])
      (erased : next.erased = thread.erased ++ [(request, taken)])

/-- The thread was told to begin with the request and has now also executed it. -/
theorem execute_moves {thread : SqlQueueThread π} {conn : OtlConnect (SSQLRequestInfo π)}
    {request : SSQLRequestInfo π} {rest : List (SSQLRequestInfo π)} {answers : SqlAnswers}
    (front : thread.listSQLQueue = request :: rest) :
    thread.Moves (thread.execute conn request rest answers) := by
  simp only [SqlQueueThread.execute]
  split
  · -- the thread was terminated by an exception
    exact .executes request rest front rfl rfl rfl
  · split
    · simp only [SqlQueueThread.executed]
      repeat' split
      all_goals first
        | exact .executes request rest front rfl rfl rfl
        | exact .erases request _ front rfl rfl
    · simp only [SqlQueueThread.refused]
      split
      · exact .erases request false front rfl rfl
      · exact .executes request rest front rfl rfl rfl

theorem timeout_moves (thread : SqlQueueThread π) (answers : SqlAnswers) :
    thread.Moves (thread.timeout answers) := by
  simp only [SqlQueueThread.timeout, SqlQueueThread.start]
  repeat' split
  all_goals exact .rests rfl rfl rfl

theorem oper_moves (thread : SqlQueueThread π) (answers : SqlAnswers) :
    thread.Moves (pcrfSqlQueueOper thread answers) := by
  unfold pcrfSqlQueueOper
  split
  · exact timeout_moves thread answers
  · next front =>
    simp only [SqlQueueThread.operate]
    repeat' split
    · exact execute_moves front
    · exact .rests rfl rfl rfl
    · exact execute_moves front
  · simp only [SqlQueueThread.finish]
    repeat' split
    all_goals exact .rests rfl rfl rfl
  · exact .rests rfl rfl rfl

theorem SqlQueueThread.Follows.enqueue {thread : SqlQueueThread π}
    {enqueued : List (SSQLRequestInfo π)} (follows : thread.Follows enqueued)
    (request : SSQLRequestInfo π) : (thread.enqueue request).Follows (enqueued ++ [request]) where
  all := by simp [SqlQueueThread.enqueue, ← follows.all]
  executions e mem := by
    obtain ⟨le, at_⟩ := follows.executions e mem
    exact ⟨le, List.getElem?_append_left (List.getElem?_eq_some_iff.mp at_).1 ▸ at_⟩
  sorted := follows.sorted

theorem follows_executes {thread : SqlQueueThread π} {enqueued : List (SSQLRequestInfo π)}
    (follows : thread.Follows enqueued) {request : SSQLRequestInfo π}
    {rest : List (SSQLRequestInfo π)} (front : thread.listSQLQueue = request :: rest) :
    (∀ e ∈ thread.executions ++ [(thread.erased.length, request)],
      e.1 ≤ thread.erased.length ∧ enqueued[e.1]? = some e.2) ∧
    (thread.executions ++ [(thread.erased.length, request)]).Pairwise
      fun e later => e.1 ≤ later.1 := by
  -- the front of the queue stands behind all that was erased
  have next : enqueued[thread.erased.length]? = some request := by
    rw [← follows.all, front]
    simp
  refine ⟨fun e mem => ?_, ?_⟩
  · rcases List.mem_append.mp mem with old | new
    · exact follows.executions e old
    · rw [List.mem_singleton.mp new]
      exact ⟨Nat.le_refl _, next⟩
  · refine List.pairwise_append.mpr ⟨follows.sorted, List.pairwise_singleton .., ?_⟩
    intro e old later new
    rw [List.mem_singleton.mp new]
    exact (follows.executions e old).1

/-- A pass keeps the order. -/
theorem SqlQueueThread.Follows.moves {thread next : SqlQueueThread π}
    {enqueued : List (SSQLRequestInfo π)} (follows : thread.Follows enqueued)
    (moves : thread.Moves next) : next.Follows enqueued := by
  cases moves with
  | rests queue executions erased =>
    exact ⟨by rw [queue, erased]; exact follows.all,
      by rw [executions, erased]; exact follows.executions,
      by rw [executions]; exact follows.sorted⟩
  -- the statement stays at the front, to be executed again
  | executes request rest front queue executions erased =>
    obtain ⟨begun, sorted⟩ := follows_executes follows front
    exact ⟨by rw [queue, erased]; exact follows.all, by rw [executions, erased]; exact begun,
      by rw [executions]; exact sorted⟩
  | erases request taken front executions erased =>
    obtain ⟨begun, sorted⟩ := follows_executes follows front
    refine ⟨?_, ?_, by rw [executions]; exact sorted⟩
    · simp [erased, ← follows.all, front]
    · intro e mem
      rw [executions] at mem
      obtain ⟨le, at_⟩ := begun e mem
      refine ⟨?_, at_⟩
      rw [erased, List.length_append]
      omega

end Order

/-! ### The order of a session -/

section Session

variable {π : Type}

/-- The statements put on a queue, in order. -/
def SqlQueues.putOn (state : SqlQueues π) (index : Nat) : List (SSQLRequestInfo π) :=
  (state.calls.filter fun call => call.index = index).map EnqueueCall.request

/-- The statements of the session are all on one existing queue, and each queue executes its
statements in the order in which they were put there. -/
structure SessionInOrder (state : SqlQueues π) (id : String) : Prop where
  oneQueue : ∃ index < state.queueCount,
    ∀ call ∈ state.calls, call.sessionId = some id → call.index = index
  inOrder : ∀ (index : Nat) (thread : SqlQueueThread π), state.queues[index]? = some thread →
    thread.Follows (state.putOn index)

/-- The session ids of an operation leave no negative remainder, except that of `id` itself. -/
def SqlQueuesOp.OthersInRange (queueCount : Nat) (id : String) : SqlQueuesOp π → Prop
  | .enqueue _ sessionId => sessionId ≠ some id → InRange queueCount sessionId
  | .pass _ _ => True

/-- What every state of a run satisfies. -/
structure SqlQueues.Ordered (queueCount : Nat) (id : String) (state : SqlQueues π) : Prop where
  count : state.queueCount = queueCount
  placed : ∀ call ∈ state.calls, call.sessionId = some id →
    ∃ roundIndex, call.index = (uiThreadIndex queueCount roundIndex (some id)).1
  inOrder : ∀ (index : Nat) (thread : SqlQueueThread π), state.queues[index]? = some thread →
    thread.Follows (state.putOn index)

theorem putOn_snoc (state : SqlQueues π) (queues : List (SqlQueueThread π)) (roundIndex : Nat)
    (call : EnqueueCall π) (index : Nat) :
    SqlQueues.putOn ⟨queues, roundIndex, state.calls ++ [call]⟩ index =
      if call.index = index then state.putOn index ++ [call.request] else state.putOn index := by
  by_cases h : call.index = index <;> simp [SqlQueues.putOn, h]

theorem enqueue_ordered {queueCount : Nat} {id : String} {state : SqlQueues π}
    (ordered : state.Ordered queueCount id) (request : SSQLRequestInfo π)
    (sessionId : Option String) :
    (pcrfSqlQueueEnqueue state request sessionId).Ordered queueCount id where
  count := by
    simpa [pcrfSqlQueueEnqueue, SqlQueues.queueCount] using ordered.count
  placed call mem owner := by
    rcases List.mem_append.mp mem with old | new
    · exact ordered.placed call old owner
    · rw [List.mem_singleton.mp new] at owner ⊢
      simp only at owner
      exact ⟨state.roundIndex, by rw [owner, ordered.count]⟩
  inOrder index thread h := by
    simp only [pcrfSqlQueueEnqueue, List.getElem?_modify] at h ⊢
    rw [putOn_snoc]
    generalize (uiThreadIndex state.queueCount state.roundIndex sessionId).1 = chosen at *
    obtain ⟨before, hbefore, rfl⟩ := Option.map_eq_some_iff.mp h
    have follows := ordered.inOrder index before hbefore
    by_cases same : chosen = index
    · simpa [same] using follows.enqueue request
    · simpa [same] using follows

theorem pass_ordered {queueCount : Nat} {id : String} {state : SqlQueues π}
    (ordered : state.Ordered queueCount id) (at_ : Nat) (answers : SqlAnswers) :
    (state.apply (.pass at_ answers)).Ordered queueCount id where
  count := by simpa [SqlQueues.apply, SqlQueues.queueCount] using ordered.count
  placed := ordered.placed
  inOrder index thread h := by
    simp only [SqlQueues.apply, List.getElem?_modify] at h
    obtain ⟨before, hbefore, rfl⟩ := Option.map_eq_some_iff.mp h
    have follows := ordered.inOrder index before hbefore
    by_cases same : at_ = index
    · simpa [same, SqlQueues.putOn, SqlQueues.apply] using follows.moves (oper_moves before answers)
    · simpa [same, SqlQueues.putOn, SqlQueues.apply] using follows

theorem init_ordered {iDBPoolSize : Int32} {start : SqlQueues π}
    (init : pcrfSqlQueueInit π iDBPoolSize = some start) (id : String) :
    start.Ordered start.queueCount id ∧ 0 < start.queueCount ∧ start.queueCount ≤ 2 ^ 31 := by
  simp only [pcrfSqlQueueInit] at init
  split at init
  · next positive =>
    cases init
    refine ⟨⟨rfl, by simp, fun index thread h => ?_⟩, ?_, ?_⟩
    · rw [List.getElem?_replicate] at h
      split at h
      · cases h
        exact ⟨rfl, by simp, .nil⟩
      · cases h
    · simp only [SqlQueues.queueCount, List.length_replicate]
      omega
    · -- a quarter of an `int` is far below the bound
      have bound := Int32.toInt_lt iDBPoolSize
      have quotient : iDBPoolSize.toInt.tdiv 4 ≤ (2 ^ 31 : Int).tdiv 4 :=
        Int.tdiv_le_tdiv (by decide) (Int.le_of_lt bound)
      have eighth : (2 ^ 31 : Int).tdiv 4 = 2 ^ 29 := by decide
      simp only [SqlQueues.queueCount, List.length_replicate]
      omega
  · cases init

/-- The statements of a session id stay in order, whatever else is enqueued and however the
threads are scheduled, exactly if there is one queue or the id has a semicolon, and the number
after the last one leaves no negative remainder. -/
theorem session_in_order_iff {iDBPoolSize : Int32} {start : SqlQueues π}
    (init : pcrfSqlQueueInit π iDBPoolSize = some start) (id : String) :
    (∀ ops : List (SqlQueuesOp π), (∀ op ∈ ops, op.OthersInRange start.queueCount id) →
      SessionInOrder ((sqlQueuesMachine start).run ops) id) ↔
    InRange start.queueCount (some id) ∧ (start.queueCount = 1 ∨ ';' ∈ id.toList) := by
  obtain ⟨ordered, positive, small⟩ := init_ordered init id
  constructor
  · intro always
    -- the first of two calls decides the range, the second whether the queue is the same
    let call : SqlQueuesOp π := .enqueue ⟨none, none, "", false⟩ (some id)
    obtain ⟨⟨index, existing, same⟩, -⟩ :=
      always [call, call] (by simp [call, SqlQueuesOp.OthersInRange])
    simp only [sqlQueuesMachine, Machine.run, Machine.runFrom, List.foldl, call, SqlQueues.apply,
      pcrfSqlQueueEnqueue, SqlQueues.queueCount, List.length_modify] at existing same
    have first := same _
      (List.mem_append_left _ (List.mem_append_right _ (List.mem_singleton_self _))) rfl
    have second := same _ (List.mem_append_right _ (List.mem_singleton_self _)) rfl
    simp only at first second
    have inRange : InRange start.queueCount (some id) := by
      rw [← uiThreadIndex_lt_iff positive small start.roundIndex]
      exact first ▸ existing
    refine ⟨inRange, Classical.byContradiction fun neither => ?_⟩
    obtain ⟨several, unmarked⟩ := not_or.mp neither
    have next := uiThreadIndex_next unmarked
      (Nat.lt_of_le_of_ne positive (Ne.symm several)) start.roundIndex
    exact next (second.trans first.symm)
  · rintro ⟨inRange, fixed⟩ ops -
    have run : ((sqlQueuesMachine start).run ops).Ordered start.queueCount id := by
      refine (sqlQueuesMachine start).inv_run ordered (fun state op ordered => ?_) ops
      cases op with
      | enqueue request sessionId => exact enqueue_ordered ordered request sessionId
      | pass index answers => exact pass_ordered ordered index answers
    -- the index does not depend on the turn, so all statements are on one queue
    refine ⟨⟨(uiThreadIndex start.queueCount 0 (some id)).1, ?_, ?_⟩, run.inOrder⟩
    · rw [run.count]
      exact (uiThreadIndex_lt_iff positive small 0 (some id)).mpr inRange
    · intro call mem owner
      obtain ⟨roundIndex, placed⟩ := run.placed call mem owner
      rw [placed, uiThreadIndex_roundIndex fixed]

/-- A pool of eight connections, and an id of the usual form. -/
theorem session_in_order_usual :
    (∀ ops : List (SqlQueuesOp String), (∀ op ∈ ops, op.OthersInRange 2 "gx.host;1700;42") →
      SessionInOrder ((sqlQueuesMachine { queues := [{}, {}] }).run ops) "gx.host;1700;42") ↔
    InRange 2 (some "gx.host;1700;42") ∧ (2 = 1 ∨ ';' ∈ "gx.host;1700;42".toList) :=
  session_in_order_iff (show pcrfSqlQueueInit String 8 = some { queues := [{}, {}] } by decide) _

/-- The remainder -1 becomes the index 4294967295 of an array of two queues. -/
theorem session_in_order_counterexample :
    ¬ SessionInOrder ((sqlQueuesMachine (π := String) { queues := [{}, {}] }).run
      [.enqueue { pszRequest := some "", plistParamList := some [] } (some "gx.host;1700;-1")])
      "gx.host;1700;-1" := by
  rintro ⟨⟨index, existing, same⟩, -⟩
  have outside : 4294967295 = index :=
    same ⟨some "gx.host;1700;-1", 4294967295, ⟨some "", some [], "", false⟩⟩ (by decide) rfl
  have two : index < 2 := existing
  omega

end Session

end Pcrf
