import Pcrf.Lib.Writers
import Pcrf.SqlQueueOrder
import Pcrf.SqlQueueSuccess

/-!
The queues of statements with the database behind them, whatever the statements are: what of a
session the database has, while the threads of the queues still work and when they are done.
-/

namespace Pcrf

open Lib

/-- The queues of statements, and what has been committed in the database, each with the queue
whose thread committed it. -/
structure SqlNode (π : Type) where
  sqlQueues : SqlQueues π
  database : List (Nat × Effect (SSQLRequestInfo π)) := []
  deriving Repr, DecidableEq

/-- A table of the database, when `act` tells what a statement does to it. A statement that fails
leaves no part of its work there. -/
def Effect.onTable {π σ : Type} (act : SSQLRequestInfo π → σ → σ)
    (effect : Effect (SSQLRequestInfo π)) (table : σ) : σ :=
  match effect with
  | .whole request => act request table
  | .part _ => table

namespace SqlNode

variable {π : Type}

def enqueue (node : SqlNode π) (request : SSQLRequestInfo π) (sessionId : Option String) :
    SqlNode π :=
  { node with sqlQueues := pcrfSqlQueueEnqueue node.sqlQueues request sessionId }

/-- The thread makes a pass; what it commits then is added to the database. -/
def pass (node : SqlNode π) (index : Nat) (answers : SqlAnswers) : SqlNode π :=
  match node.sqlQueues.queues[index]? with
  | some thread =>
    let next := pcrfSqlQueueOper thread answers
    { sqlQueues := node.sqlQueues.apply (.pass index answers)
      database :=
        node.database ++ (next.committed.drop thread.committed.length).map (index, ·) }
  | none => node

/-- The queues are empty, and no thread is in a batch. -/
def Drained (node : SqlNode π) : Prop :=
  ∀ thread ∈ node.sqlQueues.queues, thread.listSQLQueue = [] ∧ thread.outside = true

/-- A table that was `empty` at first. -/
def table {σ : Type} (node : SqlNode π) (act : SSQLRequestInfo π → σ → σ) (empty : σ) : σ :=
  replay (Effect.onTable act) empty (node.database.map Prod.snd)

/-- The database has of each thread what its connection has committed. -/
structure Ok (queueCount : Nat) (node : SqlNode π) : Prop where
  ordered : ∀ id, node.sqlQueues.Ordered queueCount id
  clean : ∀ thread ∈ node.sqlQueues.queues, thread.Clean
  written : ∀ (i : Nat) (thread : SqlQueueThread π),
    node.sqlQueues.queues[i]? = some thread → entriesOf i node.database = thread.committed
  writers : ∀ entry ∈ node.database, entry.1 < queueCount

end SqlNode

/-- The requests so far, in the order of the calls. -/
def SqlQueues.requests {π : Type} (queues : SqlQueues π) : List (SSQLRequestInfo π) :=
  queues.calls.map EnqueueCall.request

/-- The id has a semicolon, and what follows the last one is no negative number. -/
def Numbered (sessionId : String) : Prop :=
  ∃ suffix, afterLast ';' sessionId.toList = some suffix ∧ 0 ≤ strtol suffix

theorem numbered_ne_empty {sessionId : String} (h : Numbered sessionId) : sessionId ≠ "" := by
  obtain ⟨suffix, found, -⟩ := h
  rintro rfl
  simp [afterLast] at found

/-! ### Steps -/

section Steps

variable {π : Type} {queueCount : Nat} {node : SqlNode π}

theorem sqlNode_enqueue_ok (ok : node.Ok queueCount) {request : SSQLRequestInfo π}
    (valid : request.valid = true) (sessionId : Option String) :
    (node.enqueue request sessionId).Ok queueCount where
  ordered id := enqueue_ordered (ok.ordered id) request sessionId
  clean thread mem := by
    obtain ⟨i, at_⟩ := List.getElem?_of_mem mem
    simp only [SqlNode.enqueue, pcrfSqlQueueEnqueue, List.getElem?_modify] at at_
    obtain ⟨before, there, rfl⟩ := Option.map_eq_some_iff.mp at_
    have clean := ok.clean before (List.mem_of_getElem? there)
    -- the thread of another queue stays as it is
    split
    next => exact enqueue_clean clean valid
    next => exact clean
  written i thread at_ := by
    simp only [SqlNode.enqueue, pcrfSqlQueueEnqueue, List.getElem?_modify] at at_
    obtain ⟨before, there, rfl⟩ := Option.map_eq_some_iff.mp at_
    have written := ok.written i before there
    split <;> exact written
  writers := ok.writers

theorem sqlNode_pass_ok (ok : node.Ok queueCount) (index : Nat) {answers : SqlAnswers}
    (succeed : answers.Succeed) : (node.pass index answers).Ok queueCount := by
  unfold SqlNode.pass
  cases there : node.sqlQueues.queues[index]? with
  | none => exact ok
  | some thread =>
    have step := oper_clean (ok.clean thread (List.mem_of_getElem? there)) succeed
    have inside : index < queueCount := by
      rw [← (ok.ordered "").count]
      exact (List.getElem?_eq_some_iff.mp there).1
    constructor
    case ordered => exact fun id => pass_ordered (ok.ordered id) index answers
    case clean =>
      intro other mem
      obtain ⟨i, at_⟩ := List.getElem?_of_mem mem
      simp only [SqlQueues.apply, List.getElem?_modify] at at_
      obtain ⟨before, found, rfl⟩ := Option.map_eq_some_iff.mp at_
      split
      next same =>
        obtain rfl : thread = before := Option.some.inj (there.symm.trans (same ▸ found))
        exact step.clean
      next => exact ok.clean before (List.mem_of_getElem? found)
    case written =>
      intro i other at_
      simp only [SqlQueues.apply, List.getElem?_modify] at at_
      obtain ⟨before, found, rfl⟩ := Option.map_eq_some_iff.mp at_
      rw [entriesOf_append, entriesOf_written, ok.written i before found]
      split
      next same =>
        -- what the thread has committed before is a part of what it has committed now
        obtain rfl : thread = before := Option.some.inj (there.symm.trans (same ▸ found))
        obtain ⟨more, grown⟩ := step.grows
        rw [← grown, List.drop_left]
      next => exact List.append_nil _
    case writers =>
      intro entry mem
      rcases List.mem_append.mp mem with old | new
      · exact ok.writers entry old
      · obtain ⟨_, _, rfl⟩ := List.mem_map.mp new
        exact inside

theorem sqlNode_init_ok {iDBPoolSize : Int32} {start : SqlQueues π}
    (init : pcrfSqlQueueInit π iDBPoolSize = some start) :
    SqlNode.Ok start.queueCount { sqlQueues := start } := by
  have ordered := fun id => (init_ordered init id).1
  simp only [pcrfSqlQueueInit] at init
  split at init
  · cases init
    have fresh : ∀ thread ∈ List.replicate (iDBPoolSize.toInt.tdiv 4).toNat
        ({} : SqlQueueThread π), thread = {} := fun _ mem => (List.mem_replicate.mp mem).2
    refine ⟨ordered, ?_, ?_, fun entry mem => absurd mem List.not_mem_nil⟩
    · intro thread mem
      rw [fresh thread mem]
      exact init_clean
    · intro i thread at_
      rw [fresh thread (List.mem_of_getElem? at_)]
      rfl
  · cases init

theorem calls_init {iDBPoolSize : Int32} {start : SqlQueues π}
    (init : pcrfSqlQueueInit π iDBPoolSize = some start) : start.calls = [] := by
  simp only [pcrfSqlQueueInit] at init
  split at init
  · cases init
    rfl
  · cases init

@[simp] theorem pass_calls (node : SqlNode π) (index : Nat) (answers : SqlAnswers) :
    (node.pass index answers).sqlQueues.calls = node.sqlQueues.calls := by
  unfold SqlNode.pass
  cases node.sqlQueues.queues[index]? <;> rfl

theorem requests_enqueue (node : SqlNode π) (request : SSQLRequestInfo π)
    (sessionId : Option String) :
    (node.enqueue request sessionId).sqlQueues.requests =
      node.sqlQueues.requests ++ [request] :=
  List.map_append

end Steps

/-! ### What the database has of a session -/

section Sessions

variable {π : Type} {queueCount : Nat} {node : SqlNode π} {p : SSQLRequestInfo π → Bool}
  {s : String}

/-- Work that was done as a whole, on a statement that `p` selects. -/
def Effect.selects {ρ : Type} (p : ρ → Bool) : Effect ρ → Bool
  | .whole statement => p statement
  | .part _ => false

/-- What a thread has committed was put on its queue, and was done in that order. -/
theorem committed_begins (ok : node.Ok queueCount) {i : Nat} {thread : SqlQueueThread π}
    (there : node.sqlQueues.queues[i]? = some thread) :
    entriesOf i node.database <+: (node.sqlQueues.putOn i).map Effect.whole := by
  have clean := ok.clean thread (List.mem_of_getElem? there)
  have kept := thread.kept_eq.symm.trans clean.kept
  have all := ((ok.ordered "").inOrder i thread there).all
  rw [ok.written i thread there, ← all]
  refine ⟨thread.pending ++ thread.listSQLQueue.map Effect.whole, ?_⟩
  rw [← List.append_assoc, kept, List.map_append, List.map_map]
  rfl

theorem committed_drained (ok : node.Ok queueCount) (drained : node.Drained) {i : Nat}
    {thread : SqlQueueThread π} (there : node.sqlQueues.queues[i]? = some thread) :
    entriesOf i node.database = (node.sqlQueues.putOn i).map Effect.whole := by
  have mem := List.mem_of_getElem? there
  have all := ((ok.ordered "").inOrder i thread there).all
  rw [ok.written i thread there, ← all]
  exact committed_of_drained (ok.clean thread mem) (drained thread mem).1 (drained thread mem).2

/-- What the database has comes from a call for that queue. -/
theorem call_of_entry (ok : node.Ok queueCount) {entry : Nat × Effect (SSQLRequestInfo π)}
    (mem : entry ∈ node.database) :
    ∃ call ∈ node.sqlQueues.calls, call.index = entry.1 ∧ entry.2 = .whole call.request := by
  have inside := ok.writers entry mem
  rw [← (ok.ordered "").count] at inside
  have there := List.getElem?_eq_getElem inside
  have own : entry.2 ∈ entriesOf entry.1 node.database :=
    List.mem_map.mpr ⟨entry, List.mem_filter.mpr ⟨mem, by simp⟩, rfl⟩
  obtain ⟨request, put, same⟩ := List.mem_map.mp ((committed_begins ok there).subset own)
  obtain ⟨call, called, rfl⟩ := List.mem_map.mp put
  obtain ⟨mem', index⟩ := List.mem_filter.mp called
  exact ⟨call, mem', by simpa using index, same.symm⟩

/-- The calls with a number at the end of the session id all go to one queue. -/
theorem index_of_numbered (ok : node.Ok queueCount) (numbered : Numbered s)
    {call : EnqueueCall π} (mem : call ∈ node.sqlQueues.calls) (owner : call.sessionId = some s) :
    call.index = (uiThreadIndex queueCount 0 (some s)).1 := by
  obtain ⟨roundIndex, placed⟩ := (ok.ordered s).placed call mem owner
  -- the id has a semicolon, so the round robin does not matter
  have marked : ';' ∈ s.toList := by
    obtain ⟨suffix, found, -⟩ := numbered
    by_contra unmarked
    rw [afterLast_eq_none.mpr unmarked] at found
    cases found
  exact placed.trans (uiThreadIndex_roundIndex (.inr marked) roundIndex)

/-- There is a queue for such a session id. -/
theorem index_exists (ok : node.Ok queueCount) (positive : 0 < queueCount)
    (small : queueCount ≤ 2 ^ 31) (numbered : Numbered s) :
    (uiThreadIndex queueCount 0 (some s)).1 < node.sqlQueues.queues.length := by
  have inRange : InRange queueCount (some s) := by
    intro suffix found
    obtain ⟨suffix', found', nonneg⟩ := numbered
    obtain rfl : suffix' = suffix := Option.some.inj (found'.symm.trans found)
    exact .inl nonneg
  rw [show node.sqlQueues.queues.length = queueCount from (ok.ordered s).count]
  exact (uiThreadIndex_lt_iff positive small 0 (some s)).mpr inRange

/-- The selected part of the database is that of one queue, and so are the selected calls. -/
theorem selected_of_queue (ok : node.Ok queueCount) (numbered : Numbered s)
    (own : ∀ call ∈ node.sqlQueues.calls, p call.request = true → call.sessionId = some s) :
    (node.database.map Prod.snd).filter (Effect.selects p) =
        (entriesOf (uiThreadIndex queueCount 0 (some s)).1 node.database).filter
          (Effect.selects p) ∧
      (node.sqlQueues.requests.map Effect.whole).filter (Effect.selects p) =
        ((node.sqlQueues.putOn (uiThreadIndex queueCount 0 (some s)).1).map
          Effect.whole).filter (Effect.selects p) := by
  have placed (call : EnqueueCall π) (mem : call ∈ node.sqlQueues.calls)
      (selected : p call.request = true) :
      call.index = (uiThreadIndex queueCount 0 (some s)).1 :=
    index_of_numbered ok numbered mem (own call mem selected)
  constructor
  · refine (filter_entriesOf fun entry mem selected => ?_).symm
    obtain ⟨call, called, index, whole⟩ := call_of_entry ok mem
    rw [whole] at selected
    exact index.symm.trans (placed call called selected)
  · let tagged := node.sqlQueues.calls.map fun call => (call.index, call.request)
    have called : ∀ entry ∈ tagged, p entry.2 = true →
        entry.1 = (uiThreadIndex queueCount 0 (some s)).1 := by
      intro entry mem selected
      obtain ⟨call, mem', rfl⟩ := List.mem_map.mp mem
      exact placed call mem' selected
    have put (i : Nat) : node.sqlQueues.putOn i = entriesOf i tagged := by
      simp [SqlQueues.putOn, entriesOf, tagged, List.filter_map, Function.comp_def]
    have requests : tagged.map Prod.snd = node.sqlQueues.requests := by
      simp [tagged, SqlQueues.requests, Function.comp_def]
    rw [put, List.filter_map, List.filter_map, ← requests]
    exact congrArg _ (filter_entriesOf called).symm

/-- The database has the selected statements in the order of the calls, as far as the threads have
come. -/
theorem database_begins (ok : node.Ok queueCount) (positive : 0 < queueCount)
    (small : queueCount ≤ 2 ^ 31) (numbered : Numbered s)
    (own : ∀ call ∈ node.sqlQueues.calls, p call.request = true → call.sessionId = some s) :
    (node.database.map Prod.snd).filter (Effect.selects p) <+:
      (node.sqlQueues.requests.map Effect.whole).filter (Effect.selects p) := by
  obtain ⟨database, calls⟩ := selected_of_queue ok numbered own
  rw [database, calls]
  exact (committed_begins ok
    (List.getElem?_eq_getElem (index_exists ok positive small numbered))).filter _

theorem database_drained (ok : node.Ok queueCount) (positive : 0 < queueCount)
    (small : queueCount ≤ 2 ^ 31) (numbered : Numbered s)
    (own : ∀ call ∈ node.sqlQueues.calls, p call.request = true → call.sessionId = some s)
    (drained : node.Drained) :
    (node.database.map Prod.snd).filter (Effect.selects p) =
      (node.sqlQueues.requests.map Effect.whole).filter (Effect.selects p) := by
  obtain ⟨database, calls⟩ := selected_of_queue ok numbered own
  rw [database, calls, committed_drained ok drained
    (List.getElem?_eq_getElem (index_exists ok positive small numbered))]

end Sessions

/-! ### What a table shows of a session -/

section Tables

variable {π σ ω : Type} {queueCount : Nat} {node : SqlNode π} {p : SSQLRequestInfo π → Bool}
  {s : String} {act : SSQLRequestInfo π → σ → σ} {effect : SSQLRequestInfo π → ω → ω}
  {obs : σ → ω} {empty : σ}

/-- The observation of the table is made by the selected part of the database. -/
theorem observe_table (ok : node.Ok queueCount)
    (observes : ∀ call ∈ node.sqlQueues.calls, ∀ t,
      obs (act call.request t) = effect call.request (obs t))
    (idle : ∀ request, p request = false → ∀ w, effect request w = w) :
    obs (node.table act empty) =
      replay (Effect.onTable effect) (obs empty)
        ((node.database.map Prod.snd).filter (Effect.selects p)) := by
  have each : ∀ e ∈ node.database.map Prod.snd, ∀ t,
      obs (Effect.onTable act e t) = Effect.onTable effect e (obs t) := by
    intro e mem t
    obtain ⟨entry, mem', rfl⟩ := List.mem_map.mp mem
    obtain ⟨call, called, -, whole⟩ := call_of_entry ok mem'
    rw [whole]
    exact observes call called t
  have unselected : ∀ e : Effect (SSQLRequestInfo π), Effect.selects p e = false →
      ∀ w, Effect.onTable effect e w = w := by
    intro e h w
    cases e with
    | whole request => exact idle request h w
    | part request => rfl
  rw [SqlNode.table, observe_replay each, replay_filter unselected]

theorem replay_onTable_whole (w : ω) (requests : List (SSQLRequestInfo π)) :
    replay (Effect.onTable effect) w (requests.map Effect.whole) = replay effect w requests := by
  rw [replay, List.foldl_map]
  rfl

theorem filter_selects_whole (requests : List (SSQLRequestInfo π)) :
    (requests.map Effect.whole).filter (Effect.selects p) = (requests.filter p).map Effect.whole :=
  List.filter_map

variable (p act effect obs empty)

/-- In any state, the table shows of the session what the calls make up to one of them. -/
theorem observe_begins (ok : node.Ok queueCount) (positive : 0 < queueCount)
    (small : queueCount ≤ 2 ^ 31) (numbered : Numbered s)
    (own : ∀ call ∈ node.sqlQueues.calls, p call.request = true → call.sessionId = some s)
    (observes : ∀ call ∈ node.sqlQueues.calls, ∀ t,
      obs (act call.request t) = effect call.request (obs t))
    (idle : ∀ request, p request = false → ∀ w, effect request w = w) :
    ∃ done, done <+: node.sqlQueues.requests.filter p ∧
      obs (node.table act empty) = replay effect (obs empty) done := by
  have committed := database_begins ok positive small numbered own
  rw [filter_selects_whole] at committed
  obtain ⟨done, before, same⟩ := List.prefix_map_iff.mp committed
  refine ⟨done, before, ?_⟩
  rw [observe_table ok observes idle, same, replay_onTable_whole]

/-- Without selected calls the table shows what it did at first. -/
theorem observe_none (ok : node.Ok queueCount)
    (none : ∀ call ∈ node.sqlQueues.calls, p call.request = false)
    (observes : ∀ call ∈ node.sqlQueues.calls, ∀ t,
      obs (act call.request t) = effect call.request (obs t))
    (idle : ∀ request, p request = false → ∀ w, effect request w = w) :
    obs (node.table act empty) = obs empty := by
  have nothing : (node.database.map Prod.snd).filter (Effect.selects p) = [] := by
    refine List.filter_eq_nil_iff.mpr fun e mem selected => ?_
    obtain ⟨entry, mem', rfl⟩ := List.mem_map.mp mem
    obtain ⟨call, called, -, whole⟩ := call_of_entry ok mem'
    rw [whole] at selected
    exact absurd selected (by simp [Effect.selects, none call called])
  rw [observe_table ok observes idle, nothing]
  rfl

theorem observe_drained (ok : node.Ok queueCount) (positive : 0 < queueCount)
    (small : queueCount ≤ 2 ^ 31) (numbered : Numbered s)
    (own : ∀ call ∈ node.sqlQueues.calls, p call.request = true → call.sessionId = some s)
    (observes : ∀ call ∈ node.sqlQueues.calls, ∀ t,
      obs (act call.request t) = effect call.request (obs t))
    (idle : ∀ request, p request = false → ∀ w, effect request w = w) (drained : node.Drained) :
    obs (node.table act empty) = replay effect (obs empty) (node.sqlQueues.requests.filter p) := by
  rw [observe_table ok observes idle, database_drained ok positive small numbered own drained,
    filter_selects_whole, replay_onTable_whole]

end Tables

end Pcrf
