import Pcrf.Lib.DueQueue
import Pcrf.LocalQueue

/-!
The local queue of policy refreshes over any history of additions and loads: what is added is
handed over once, by the first load that finds it due, and the loads keep the order.
-/

namespace Pcrf

open Lib DueStep

/-- A call of `pcrf_local_refresh_queue_add`, or of `pcrf_client_load_localQueue_data` with the
value of the clock and the list that it appends to. -/
inductive LocalQueueCall where
  | add (tmTime : Int) (identifier : String) (identifierType action : Option String)
  | load (now : Int) (listQueue : List SRefQueue)
  deriving Repr, DecidableEq

namespace LocalQueueCall

def apply (queue : LocalRefreshQueue) : LocalQueueCall → LocalRefreshQueue
  | add tmTime identifier identifierType action =>
    pcrfLocalRefreshQueueAdd queue tmTime identifier identifierType action
  | load now listQueue => (pcrfClientLoadLocalQueueData queue now listQueue).2

/-- The queue after the calls. -/
def queueAfter (calls : List LocalQueueCall) : LocalRefreshQueue := calls.foldl apply .empty

/-- The call as a step of a queue of entries by the time they are due. -/
def toStep : LocalQueueCall → DueStep Int SRefQueue
  | add tmTime identifier identifierType action =>
    .add tmTime (.make identifier identifierType action)
  | load now _ => .take now

end LocalQueueCall

open LocalQueueCall (toStep)

/-- Load `j` is the first after the entry was added whose clock is not below the due time. -/
def FirstLoad (calls : List LocalQueueCall) (a : Added Int SRefQueue) (j : ℕ) : Prop :=
  FirstTake (calls.map toStep) a j

/-- What the loads hand over of what was added. -/
structure HandsOverOnce (calls : List LocalQueueCall) : Prop where
  /-- A load appends the entries whose first load it is, by due time and then by addition. -/
  handed : ∀ j now listQueue, calls[j]? = some (.load now listQueue) →
    ∃ added : List (Added Int SRefQueue), added.Pairwise Added.Before ∧
      (∀ a, a ∈ added ↔ FirstLoad calls a j) ∧
      (pcrfClientLoadLocalQueueData (LocalQueueCall.queueAfter (calls.take j)) now listQueue).1 =
        listQueue ++ added.map Added.value
  /-- An entry that some later load finds due is handed over by exactly one load. -/
  once : ∀ a, Adds (calls.map toStep) a → ∀ j now listQueue, a.number < j →
    calls[j]? = some (.load now listQueue) → a.due ≤ now → ∃! i, FirstLoad calls a i
  /-- A load leaves what is not due as it was. -/
  kept : ∀ j now listQueue, calls[j]? = some (.load now listQueue) →
    (LocalQueueCall.queueAfter (calls.take (j + 1))).entries =
      (LocalQueueCall.queueAfter (calls.take j)).entries.filter (now < ·.1)
  /-- In the queue is, in order, what was added and not handed over. -/
  queued : ∃ added : List (Added Int SRefQueue), added.Pairwise Added.Before ∧
    (∀ a, a ∈ added ↔ Adds (calls.map toStep) a ∧ ∀ j, ¬ FirstLoad calls a j) ∧
    (LocalQueueCall.queueAfter calls).entries = added.map fun a => (a.due, a.value)

/-! ### The calls as steps -/

section

variable {calls : List LocalQueueCall}

theorem queueAfter_eq (calls : List LocalQueueCall) :
    LocalQueueCall.queueAfter calls = DueStep.queueAfter (calls.map toStep) := by
  have step (queue : LocalRefreshQueue) (call : LocalQueueCall) :
      call.apply queue = call.toStep.apply queue := by
    cases call <;> rfl
  unfold LocalQueueCall.queueAfter DueStep.queueAfter
  -- they do the same to any queue
  generalize (Multimap.empty : LocalRefreshQueue) = queue
  induction calls generalizing queue with
  | nil => rfl
  | cons call calls ih => rw [List.foldl_cons, List.map_cons, List.foldl_cons, step, ih]

theorem getElem?_map_toStep {j : ℕ} {now : Int} {listQueue : List SRefQueue}
    (h : calls[j]? = some (.load now listQueue)) :
    (calls.map toStep)[j]? = some (.take now) := by
  rw [List.getElem?_map, h]
  rfl

/-- Nothing is lost, nothing is handed over twice, and the order is kept, whatever the clock
says. -/
theorem handsOverOnce (calls : List LocalQueueCall) : HandsOverOnce calls where
  handed := by
    intro j now listQueue h
    obtain ⟨added, ordered, exactly, entries⟩ := exists_taken (getElem?_map_toStep h)
    refine ⟨added, ordered, exactly, ?_⟩
    rw [← List.map_take, ← queueAfter_eq] at entries
    simp only [pcrfClientLoadLocalQueueData, entries, List.map_map]
    rfl
  once := fun _ adds _ _ _ later h hdue =>
    existsUnique_firstTake adds later (getElem?_map_toStep h) hdue
  kept := by
    intro j now listQueue h
    -- the load is the last of the calls
    have hsnoc : calls.take (j + 1) = calls.take j ++ [.load now listQueue] := by
      rw [List.take_add_one, h]
      rfl
    rw [hsnoc, LocalQueueCall.queueAfter, List.foldl_append]
    exact Multimap.eraseUpTo_eq_filter ..
  queued := by
    obtain ⟨added, ordered, exactly, entries⟩ := exists_waiting (calls.map toStep)
    rw [← queueAfter_eq] at entries
    exact ⟨added, ordered, fun a => (exactly a).trans waits_iff_not_firstTake, entries⟩

end

end Pcrf
