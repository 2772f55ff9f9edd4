import Pcrf.LocalQueue
import Pcrf.Refresh

/-!
One cycle of the refreshing thread, `pcrf_client_operate_refreshqueue`: the entries due are
loaded from the database and from the local queue into one list and operated in its order.
-/

namespace Pcrf

open Lib

/-! ### The cycle -/

/-- The two queues: the rows of `ps.refreshQueue` and the local queue. -/
structure RefreshQueues where
  refreshQueue : List SRefQueue
  mmapLocalRefreshQueue : LocalRefreshQueue

/-- What a connection answers in a cycle. `refreshRows` has the rows that an attempt to read
the queue gets; `deleteRow` tells, for the entry at a place of the list and an attempt, whether
its row is deleted for good. Either attempt can end in an exception. -/
structure RefQueueDb where
  refreshRows : Nat → List SRefQueue × Option Failure
  deleteRow : Nat → Nat → Bool × Option Failure

/-- What happens to a cycle: the configuration, the connection the pool gives, the code of
locking the local queue, the clock, the code that operating the entry at a place returns, and
what is read of `g_iStop` before that place. -/
structure CycleEnv where
  iOperateRefreshQueue : Int
  pool : Option RefQueueDb
  localQueueLock : Int
  now : Int
  operate : Nat → SRefQueue → Int
  iStop : Nat → Int

def RefQueueDb.loadAttempt (db : RefQueueDb) (attempt : Nat) : Attempt (List SRefQueue) :=
  fun listQueue => (listQueue ++ (db.refreshRows attempt).1, (db.refreshRows attempt).2)

def RefQueueDb.deleteAttempt (db : RefQueueDb) (k : Nat) (refQueue : SRefQueue) (attempt : Nat) :
    Attempt (List SRefQueue) :=
  fun refreshQueue =>
    (if (db.deleteRow k attempt).1 then
      refreshQueue.filter fun row => row.strRowId ≠ refQueue.strRowId
    else refreshQueue, (db.deleteRow k attempt).2)

/-- The list is not cleared before the reading is repeated. -/
def pcrfClientDbLoadRefqueueData (pcoDBConn : Option RefQueueDb) (listQueue : List SRefQueue) :
    Int × List SRefQueue :=
  match pcoDBConn with
  | none => (EINVAL, listQueue)
  | some db =>
    let outcome := Attempt.repeatOnce db.loadAttempt listQueue
    (Attempt.code outcome, outcome.1)

/-- Only an entry that came from the database has a row to delete. -/
def pcrfClientDbDeleteRefqueue (pcoDBConn : Option RefQueueDb) (k : Nat) (refQueue : SRefQueue)
    (refreshQueue : List SRefQueue) : Int × List SRefQueue :=
  if refQueue.strRowId.length = 0 then (0, refreshQueue)
  else
    match pcoDBConn with
    | none => (EINVAL, refreshQueue)
    | some db =>
      let outcome := Attempt.repeatOnce (db.deleteAttempt k refQueue) refreshQueue
      (Attempt.code outcome, outcome.1)

namespace CycleEnv

/-- The connection of the cycle; none is asked for when the queue is not operated. -/
def pcoDBConn (env : CycleEnv) : Option RefQueueDb :=
  if env.iOperateRefreshQueue ≠ 0 then env.pool else none

/-- Reading the queue in the database, where there is a connection. -/
def loadDb (env : CycleEnv) : Int × List SRefQueue :=
  if env.pcoDBConn.isSome then pcrfClientDbLoadRefqueueData env.pcoDBConn [] else (0, [])

/-- The loop over the list from place `k` on, with the rows it leaves. -/
def operateQueue (env : CycleEnv) : Nat → List SRefQueue → List SRefQueue → List SRefQueue
  | _, [], refreshQueue => refreshQueue
  | k, refQueue :: rest, refreshQueue =>
    if env.iStop k ≠ 0 then refreshQueue
    else if env.operate k refQueue = 0 then
      env.operateQueue (k + 1) rest
        (pcrfClientDbDeleteRefqueue env.pcoDBConn k refQueue refreshQueue).2
    else env.operateQueue (k + 1) rest refreshQueue

end CycleEnv

/-- The queues after a cycle. A failure to read the first queue, or to lock the second, ends it
before the second is touched. -/
def pcrfClientOperateRefreshqueue (env : CycleEnv) (queues : RefreshQueues) : RefreshQueues :=
  if env.loadDb.1 ≠ 0 then queues
  else if env.localQueueLock ≠ 0 then queues
  else
    let loaded := pcrfClientLoadLocalQueueData queues.mmapLocalRefreshQueue env.now env.loadDb.2
    { refreshQueue := env.operateQueue 0 loaded.1 queues.refreshQueue
      mmapLocalRefreshQueue := loaded.2 }

/-! ### What stays queued -/

namespace CycleEnv

/-- The list that the cycle operates. -/
def listQueue (env : CycleEnv) (queues : RefreshQueues) : List SRefQueue :=
  (pcrfClientLoadLocalQueueData queues.mmapLocalRefreshQueue env.now env.loadDb.2).1

/-- The entry at place `k` of the list was reached, and operating it returned 0. -/
def Finished (env : CycleEnv) (list : List SRefQueue) (k : Nat) : Prop :=
  (∀ j ≤ k, env.iStop j = 0) ∧ ∃ refQueue, list[k]? = some refQueue ∧ env.operate k refQueue = 0

/-- The cycle comes to load the local queue. -/
def LoadsLocal (env : CycleEnv) : Prop := env.loadDb.1 = 0 ∧ env.localQueueLock = 0

end CycleEnv

/-- Whatever is not in its queue any more was finished. The entries of the local queue stand in
the list behind those of the database, in the order of the queue. -/
structure KeepsUnfinished (env : CycleEnv) (queues : RefreshQueues) : Prop where
  db : ∀ row ∈ queues.refreshQueue,
    row ∈ (pcrfClientOperateRefreshqueue env queues).refreshQueue ∨
      ∃ k refQueue, (env.listQueue queues)[k]? = some refQueue ∧
        refQueue.strRowId = row.strRowId ∧ env.Finished (env.listQueue queues) k
  localQueue : ∀ i entry, queues.mmapLocalRefreshQueue.entries[i]? = some entry →
    entry ∈ (pcrfClientOperateRefreshqueue env queues).mmapLocalRefreshQueue.entries ∨
      env.Finished (env.listQueue queues) (env.loadDb.2.length + i)

section

variable {env : CycleEnv}

theorem operateRefreshqueue_of_loadsLocal (h : env.LoadsLocal) (queues : RefreshQueues) :
    pcrfClientOperateRefreshqueue env queues =
      { refreshQueue := env.operateQueue 0 (env.listQueue queues) queues.refreshQueue
        mmapLocalRefreshQueue := queues.mmapLocalRefreshQueue.eraseUpTo env.now } := by
  unfold pcrfClientOperateRefreshqueue
  rw [if_neg (not_not.mpr h.1), if_neg (not_not.mpr h.2)]
  rfl

theorem operateRefreshqueue_of_not_loadsLocal (h : ¬ env.LoadsLocal) (queues : RefreshQueues) :
    pcrfClientOperateRefreshqueue env queues = queues := by
  unfold pcrfClientOperateRefreshqueue
  by_cases hDb : env.loadDb.1 = 0
  · have hLock : env.localQueueLock ≠ 0 := fun hLock => h ⟨hDb, hLock⟩
    rw [if_neg (not_not.mpr hDb), if_pos hLock]
  · rw [if_pos hDb]

/-- Deleting the row of an entry leaves all other rows. -/
theorem mem_deleteRefqueue (pcoDBConn : Option RefQueueDb) (k : Nat) (refQueue : SRefQueue)
    {row : SRefQueue} (hRow : refQueue.strRowId ≠ row.strRowId) {rows : List SRefQueue}
    (h : row ∈ rows) : row ∈ (pcrfClientDbDeleteRefqueue pcoDBConn k refQueue rows).2 := by
  unfold pcrfClientDbDeleteRefqueue
  split
  · exact h
  · cases pcoDBConn with
    | none => exact h
    | some db =>
      -- neither attempt takes a row with another id
      refine Attempt.repeatOnce_keeps (P := fun rows => row ∈ rows) ?_ h
      intro attempt rows hMem
      simp only [RefQueueDb.deleteAttempt]
      split
      · exact List.mem_filter.mpr ⟨hMem, by simpa using Ne.symm hRow⟩
      · exact hMem

/-- A row that the loop deletes belongs to an entry that was finished. -/
theorem operateQueue_keeps (env : CycleEnv) (list : List SRefQueue) (k : Nat)
    (rows : List SRefQueue) {row : SRefQueue} (h : row ∈ rows) :
    row ∈ env.operateQueue k list rows ∨
      ∃ j refQueue, list[j]? = some refQueue ∧ refQueue.strRowId = row.strRowId ∧
        (∀ i, k ≤ i → i ≤ k + j → env.iStop i = 0) ∧ env.operate (k + j) refQueue = 0 := by
  induction list generalizing k rows with
  | nil => exact .inl h
  | cons refQueue rest ih =>
    unfold CycleEnv.operateQueue
    by_cases hStop : env.iStop k = 0
    · rw [if_neg (not_not.mpr hStop)]
      -- what the rest of the loop finishes stands one place further in this list
      have later {rows : List SRefQueue} (hMem : row ∈ rows) :
          row ∈ env.operateQueue (k + 1) rest rows ∨
            ∃ j next, (refQueue :: rest)[j]? = some next ∧ next.strRowId = row.strRowId ∧
              (∀ i, k ≤ i → i ≤ k + j → env.iStop i = 0) ∧
              env.operate (k + j) next = 0 := by
        refine (ih (k + 1) rows hMem).imp_right ?_
        rintro ⟨j, next, hNext, hId, hStops, hZero⟩
        refine ⟨j + 1, next, by simpa using hNext, hId, ?_, ?_⟩
        · intro i hLow hHigh
          rcases Nat.eq_or_lt_of_le hLow with rfl | hLt
          · exact hStop
          · exact hStops i hLt (by omega)
        · rw [← hZero]
          congr 1
          omega
      split
      next hZero =>
        by_cases hId : refQueue.strRowId = row.strRowId
        · refine .inr ⟨0, refQueue, rfl, hId, ?_, hZero⟩
          intro i hLow hHigh
          obtain rfl : i = k := by omega
          exact hStop
        · exact later (mem_deleteRefqueue env.pcoDBConn k refQueue hId h)
      next => exact later h
    · rw [if_pos hStop]
      exact .inl h

/-- The queue in the database keeps what was not finished, in every cycle. -/
theorem refreshQueue_keeps (env : CycleEnv) (queues : RefreshQueues) {row : SRefQueue}
    (h : row ∈ queues.refreshQueue) :
    row ∈ (pcrfClientOperateRefreshqueue env queues).refreshQueue ∨
      ∃ k refQueue, (env.listQueue queues)[k]? = some refQueue ∧
        refQueue.strRowId = row.strRowId ∧ env.Finished (env.listQueue queues) k := by
  by_cases hLoads : env.LoadsLocal
  · rw [operateRefreshqueue_of_loadsLocal hLoads]
    refine (operateQueue_keeps env (env.listQueue queues) 0 _ h).imp_right ?_
    rintro ⟨k, refQueue, hNext, hId, hStops, hZero⟩
    simp only [Nat.zero_add] at hStops hZero
    exact ⟨k, refQueue, hNext, hId, fun j hj => hStops j (Nat.zero_le j) hj,
      refQueue, hNext, hZero⟩
  · rw [operateRefreshqueue_of_not_loadsLocal hLoads]
    exact .inl h

/-- The entries that are due stand in front of those that are not. -/
theorem getElem?_entries (queue : LocalRefreshQueue) (now : Int) {i : Nat}
    {entry : Int × SRefQueue} (h : queue.entries[i]? = some entry) :
    entry ∈ (queue.eraseUpTo now).entries ↔ (queue.upTo now).length ≤ i := by
  have hSplit : queue.upTo now ++ (queue.eraseUpTo now).entries = queue.entries :=
    List.takeWhile_append_dropWhile
  have hDue : ∀ e ∈ queue.upTo now, e.1 ≤ now := by
    intro e he
    rw [Multimap.upTo_eq_filter, List.mem_filter] at he
    exact of_decide_eq_true he.2
  constructor
  · intro hMem
    by_contra hLt
    rw [not_le] at hLt
    rw [← hSplit, List.getElem?_append_left hLt] at h
    -- an entry that is due is in front, and behind it every key is greater than `now`
    have hEntry : entry.1 ≤ now := hDue entry (List.mem_of_getElem? h)
    have hRest : (queue.eraseUpTo now).entries.filter (·.1 ≤ now) = [] := by
      have hAll : queue.entries.filter (·.1 ≤ now) = queue.upTo now :=
        (Multimap.upTo_eq_filter queue now).symm
      rw [← hSplit, List.filter_append, List.filter_eq_self.mpr (by simpa using hDue)] at hAll
      exact List.append_right_eq_self.mp hAll
    have hNot := List.filter_eq_nil_iff.mp hRest entry hMem
    exact hNot (decide_eq_true hEntry)
  · intro hLe
    rw [← hSplit, List.getElem?_append_right hLe] at h
    exact List.mem_of_getElem? h

theorem length_upTo_le (queue : LocalRefreshQueue) (now : Int) :
    (queue.upTo now).length ≤ queue.entries.length :=
  (List.takeWhile_sublist _).length_le

end

/-- A cycle keeps what it does not finish exactly when it does not come to load the local queue,
or finishes everything that it loads from there. -/
theorem keepsUnfinished_iff (env : CycleEnv) (queues : RefreshQueues) :
    KeepsUnfinished env queues ↔
      (env.LoadsLocal → ∀ i < (queues.mmapLocalRefreshQueue.upTo env.now).length,
        env.Finished (env.listQueue queues) (env.loadDb.2.length + i)) := by
  constructor
  · intro hKeeps hLoads i hi
    -- an entry that is due was erased when the queue was loaded, so it must be finished
    have hEntry := List.getElem?_eq_getElem
      (Nat.lt_of_lt_of_le hi (length_upTo_le queues.mmapLocalRefreshQueue env.now))
    refine (hKeeps.localQueue i _ hEntry).resolve_left ?_
    rw [operateRefreshqueue_of_loadsLocal hLoads]
    intro hMem
    have hLe := (getElem?_entries _ env.now hEntry).mp hMem
    omega
  · intro hFinishes
    refine ⟨fun row hRow => refreshQueue_keeps env queues hRow, ?_⟩
    intro i entry hEntry
    by_cases hLoads : env.LoadsLocal
    · rw [operateRefreshqueue_of_loadsLocal hLoads]
      -- an entry that is not due stays in the queue
      rcases Nat.lt_or_ge i (queues.mmapLocalRefreshQueue.upTo env.now).length with hi | hi
      · exact .inr (hFinishes hLoads i hi)
      · exact .inl ((getElem?_entries _ env.now hEntry).mpr hi)
    · rw [operateRefreshqueue_of_not_loadsLocal hLoads]
      exact .inl (List.mem_of_getElem? hEntry)

/-! ### An entry that is lost -/

/-- A session of a UGW that is not connected. -/
def disconnectedEnv : RefreshEnv where
  sessionCache :=
    { umapSessionCache := Store.set Store.empty "gx;1;1"
        { coSubscriberId := .of "7", coOriginHost := .of "ugw", coOriginRealm := .of "net" } }
  vectPeerList :=
    [{ coHostName := .of "ugw", coHostReal := .of "net", uiPeerDialect := .gxHwUgw
       iIsConnected := 0 }]
  ruleCache := .ofRows []
  pcoDBConn := none

/-- A cycle that operates its entries as the refresh of that session goes. -/
def disconnectedCycle : CycleEnv where
  iOperateRefreshQueue := 0
  pool := none
  localQueueLock := 0
  now := 0
  operate := fun _ refQueue =>
    (pcrfClientOperateRefqueueRecord disconnectedEnv refQueue
      { answers := fun _ => true, state := {} }).1
  iStop := fun _ => 0

/-- The local queue asks for the session to be aborted, and nothing else is queued. -/
def abortQueued : RefreshQueues where
  refreshQueue := []
  mmapLocalRefreshQueue :=
    pcrfLocalRefreshQueueAdd Multimap.empty 0 "gx;1;1" (some "session_id") (some "abort_session")

/-- The entry is gone, although its peer was not connected. -/
theorem disconnected_entry_lost : ¬ KeepsUnfinished disconnectedCycle abortQueued := by
  intro hKeeps
  have hGone : (pcrfClientOperateRefreshqueue disconnectedCycle
      abortQueued).mmapLocalRefreshQueue.entries = [] := by decide
  have hEntry : abortQueued.mmapLocalRefreshQueue.entries[0]? = some
      ((0 : Int), SRefQueue.make "gx;1;1" (some "session_id") (some "abort_session")) := rfl
  rcases hKeeps.localQueue 0 _ hEntry with hMem | ⟨-, refQueue, hAt, hZero⟩
  · rw [hGone] at hMem
    exact List.not_mem_nil hMem
  · have hList : (disconnectedCycle.listQueue abortQueued)[0]? = some
        (SRefQueue.make "gx;1;1" (some "session_id") (some "abort_session")) := rfl
    obtain rfl := Option.some.inj (hList.symm.trans hAt)
    revert hZero
    decide

end Pcrf
