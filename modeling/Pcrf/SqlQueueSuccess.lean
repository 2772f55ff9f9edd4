import Pcrf.SqlQueueLosses

/-!
The thread of a queue when nothing fails: every statement is executed once, and what is executed
is committed at the end of the batch.
-/

namespace Pcrf

open Lib

variable {π : Type}

/-- No call to the database fails in the pass, and the clock can be read. -/
def SqlAnswers.Succeed (answers : SqlAnswers) : Prop :=
  answers.taken = true ∧ answers.lostAt = none ∧ answers.clock.isSome = true ∧
    (answers.pool = none ∨ answers.pool = some (true, true))

instance (answers : SqlAnswers) : Decidable answers.Succeed := inferInstanceAs (Decidable (_ ∧ _))

namespace SqlQueueThread

/-- What the connection of the thread has committed. -/
def committed (thread : SqlQueueThread π) : List (Effect (SSQLRequestInfo π)) :=
  match thread.dbConn with
  | some conn => conn.committed
  | none => []

def pending (thread : SqlQueueThread π) : List (Effect (SSQLRequestInfo π)) :=
  match thread.dbConn with
  | some conn => conn.pending
  | none => []

/-- The thread is not in a batch. -/
def outside (thread : SqlQueueThread π) : Bool :=
  thread.phase == .waiting || thread.phase == .exited

theorem kept_eq (thread : SqlQueueThread π) : thread.kept = thread.committed ++ thread.pending := by
  unfold kept committed pending
  cases thread.dbConn with
  | none => rfl
  | some conn => rfl

/-- The erased statements are what the connection has done, each as a whole; what of it is not
committed is going to be at the end of the batch. -/
structure Clean (thread : SqlQueueThread π) : Prop where
  valid : ∀ request ∈ thread.listSQLQueue, request.valid = true
  conn : ∀ conn ∈ thread.dbConn, conn.connected = true ∧ conn.alive = true
  kept : thread.kept = thread.erased.map fun entry => .whole entry.1
  restored : thread.iRestoreConnection = 0
  settled : thread.pending = [] ∨ thread.bShouldCommit = true ∧ thread.outside = false

/-- A pass that leaves the thread clean and takes nothing back. -/
structure CleanStep (thread next : SqlQueueThread π) : Prop where
  clean : next.Clean
  grows : thread.committed <+: next.committed

end SqlQueueThread

section Passes

variable {thread : SqlQueueThread π} {conn : OtlConnect (SSQLRequestInfo π)}
  {request : SSQLRequestInfo π} {rest : List (SSQLRequestInfo π)} {answers : SqlAnswers}

/-- A statement that the connection has done is erased. -/
theorem eraseFirst_clean (later : ∀ other ∈ rest, other.valid = true)
    (hconn : thread.dbConn = some conn) (alive : conn.connected = true ∧ conn.alive = true)
    (done : conn.kept = (thread.erased ++ [(request, true)]).map fun entry => .whole entry.1)
    (restored : thread.iRestoreConnection = 0)
    (settled : conn.pending = [] ∨ thread.bShouldCommit = true) :
    (thread.eraseFirst request rest true).Clean where
  valid := later
  conn other mem := by
    obtain rfl : conn = other := Option.some.inj (hconn.symm.trans mem)
    exact alive
  kept := by
    simp only [SqlQueueThread.kept, SqlQueueThread.eraseFirst, hconn]
    exact done
  restored := restored
  settled := by
    simp only [SqlQueueThread.pending, SqlQueueThread.outside, SqlQueueThread.eraseFirst, hconn]
    refine settled.imp_right fun should => ⟨should, ?_⟩
    split <;> rfl

/-- The statement is executed, and the connection has done what was erased before. -/
theorem execute_clean (clean : thread.Clean) (alive : conn.connected = true ∧ conn.alive = true)
    (done : conn.kept = thread.erased.map fun entry => .whole entry.1)
    (front : thread.listSQLQueue = request :: rest) (succeed : answers.Succeed) :
    (thread.execute conn request rest answers).Clean ∧
      conn.committed <+: (thread.execute conn request rest answers).committed := by
  obtain ⟨taken, lostAt, clock, -⟩ := succeed
  obtain ⟨now, hnow⟩ := Option.isSome_iff_exists.mp clock
  have valid := clean.valid request (front ▸ List.mem_cons_self)
  have later : ∀ other ∈ rest, other.valid = true := fun other mem =>
    clean.valid other (front ▸ List.mem_cons_of_mem _ mem)
  have single : pcrfSqlQueueOperSingle conn request answers =
      (conn.perform [.whole request], some 0, true) := by
    simp [pcrfSqlQueueOperSingle, valid, lostAt, taken, alive.2]
  have performed : (conn.perform [.whole request]).kept =
      (thread.erased ++ [(request, true)]).map fun entry => .whole entry.1 := by
    rw [kept_perform, done, List.map_append]
    rfl
  have committed : (conn.perform [.whole request]).commit.kept =
      (thread.erased ++ [(request, true)]).map fun entry => .whole entry.1 := by
    rw [kept_commit, performed]
  simp only [SqlQueueThread.execute, single, if_true, SqlQueueThread.executed, lostAt, hnow,
    reduceCtorEq, if_false]
  -- a hundred statements are committed at once, and so are ten when it is time
  split
  next =>
    exact ⟨eraseFirst_clean later rfl alive committed clean.restored (.inl rfl),
      List.prefix_append ..⟩
  next =>
    split
    next =>
      split
      next =>
        exact ⟨eraseFirst_clean later rfl alive committed clean.restored (.inl rfl),
          List.prefix_append ..⟩
      next =>
        exact ⟨eraseFirst_clean later rfl alive performed clean.restored (.inr rfl),
          List.prefix_rfl⟩
    next =>
      exact ⟨eraseFirst_clean later rfl alive performed clean.restored (.inr rfl),
        List.prefix_rfl⟩

theorem operate_clean (clean : thread.Clean) (hconn : thread.dbConn = some conn)
    (front : thread.listSQLQueue = request :: rest) (succeed : answers.Succeed) :
    thread.CleanStep (thread.operate conn request rest answers) := by
  have alive := clean.conn conn hconn
  have done : conn.kept = thread.erased.map fun entry => .whole entry.1 := by
    rw [← clean.kept, SqlQueueThread.kept, hconn]
  have before : thread.committed = conn.committed := by
    rw [SqlQueueThread.committed, hconn]
  simp only [SqlQueueThread.operate]
  split
  next =>
    obtain ⟨clean', grows⟩ := execute_clean clean alive done front succeed
    exact ⟨clean', before ▸ grows⟩
  next =>
    -- what was done before a statement that can be rolled back is committed first
    rw [if_neg (by simp [succeed.2.1])]
    have done' : conn.commit.kept = thread.erased.map fun entry => .whole entry.1 := by
      rw [kept_commit, done]
    have alive' : conn.commit.connected = true ∧ conn.commit.alive = true := alive
    obtain ⟨clean', grows⟩ := execute_clean clean alive' done' front succeed
    refine ⟨clean', ?_⟩
    rw [before]
    exact (List.prefix_append ..).trans grows

theorem finish_clean (clean : thread.Clean) (hconn : thread.dbConn = some conn)
    (succeed : answers.Succeed) : thread.CleanStep (thread.finish conn answers) := by
  have pending : thread.pending = conn.pending := by
    rw [SqlQueueThread.pending, hconn]
  simp only [SqlQueueThread.finish]
  split
  next unchanged =>
    -- nothing was executed since the last commit
    have nothing : thread.pending = [] := clean.settled.resolve_right fun h => unchanged h.1
    exact ⟨⟨clean.valid, clean.conn, clean.kept, clean.restored, .inl nothing⟩, List.prefix_rfl⟩
  next =>
    rw [if_neg (by simp [succeed.2.1])]
    have done := clean.kept
    rw [SqlQueueThread.kept, hconn] at done
    refine ⟨⟨clean.valid, ?_, ?_, clean.restored, .inl rfl⟩, ?_⟩
    · intro other mem
      obtain rfl : conn.commit = other := Option.some.inj mem
      exact clean.conn conn hconn
    · exact kept_commit.trans done
    · simp only [SqlQueueThread.committed, hconn]
      exact List.prefix_append ..

theorem start_clean (clean : thread.Clean) (nothing : thread.pending = [])
    (succeed : answers.Succeed) : thread.CleanStep (thread.start answers) := by
  obtain ⟨now, hnow⟩ := Option.isSome_iff_exists.mp succeed.2.2.1
  simp only [SqlQueueThread.start, hnow]
  exact ⟨⟨clean.valid, clean.conn, clean.kept, clean.restored, .inl nothing⟩, List.prefix_rfl⟩

theorem timeout_clean (clean : thread.Clean) (nothing : thread.pending = [])
    (succeed : answers.Succeed) : thread.CleanStep (thread.timeout answers) := by
  simp only [SqlQueueThread.timeout]
  split
  next =>
    exact ⟨⟨clean.valid, clean.conn, clean.kept, clean.restored, .inl nothing⟩, List.prefix_rfl⟩
  next =>
    cases hconn : thread.dbConn with
    | some conn =>
      simp only [clean.restored]
      exact start_clean clean nothing succeed
    | none =>
      rcases succeed.2.2.2 with none | given
      · simp only [none]
        exact ⟨clean, List.prefix_rfl⟩
      · simp only [given]
        -- without a connection nothing has been executed yet
        have empty := clean.kept
        rw [SqlQueueThread.kept, hconn] at empty
        have fresh : SqlQueueThread.Clean
            { thread with dbConn := some { connected := true, alive := true } } := by
          refine ⟨clean.valid, ?_, empty, clean.restored, .inl rfl⟩
          intro conn mem
          obtain rfl := Option.some.inj mem
          exact ⟨rfl, rfl⟩
        have started := start_clean fresh rfl succeed
        refine ⟨started.clean, ?_⟩
        simp only [SqlQueueThread.committed, hconn]
        exact List.nil_prefix

/-- A pass in which nothing fails keeps the thread clean. -/
theorem oper_clean (clean : thread.Clean) (succeed : answers.Succeed) :
    thread.CleanStep (pcrfSqlQueueOper thread answers) := by
  unfold pcrfSqlQueueOper
  split
  next phase =>
    have nothing : thread.pending = [] := clean.settled.resolve_right fun h => by
      simp [SqlQueueThread.outside, phase] at h
    exact timeout_clean clean nothing succeed
  next phase hconn front => exact operate_clean clean hconn front succeed
  next phase hconn => exact finish_clean clean hconn succeed
  next => exact ⟨clean, List.prefix_rfl⟩

end Passes

theorem enqueue_clean {thread : SqlQueueThread π} (clean : thread.Clean)
    {request : SSQLRequestInfo π} (valid : request.valid = true) :
    (thread.enqueue request).Clean where
  valid other mem := by
    rcases List.mem_append.mp mem with old | new
    · exact clean.valid other old
    · obtain rfl := List.mem_singleton.mp new
      exact valid
  conn := clean.conn
  kept := clean.kept
  restored := clean.restored
  settled := clean.settled

theorem init_clean : ({} : SqlQueueThread π).Clean where
  valid _ mem := absurd mem List.not_mem_nil
  conn _ mem := absurd mem (by simp)
  kept := rfl
  restored := rfl
  settled := .inl rfl

/-- With nothing left to execute and the batch ended, all that was enqueued is committed. -/
theorem committed_of_drained {thread : SqlQueueThread π} (clean : thread.Clean)
    (empty : thread.listSQLQueue = []) (outside : thread.outside = true) :
    thread.committed =
      (thread.erased.map Prod.fst ++ thread.listSQLQueue).map Effect.whole := by
  -- outside of a batch nothing waits to be committed
  have nothing : thread.pending = [] := clean.settled.resolve_right fun h => by
    rw [outside] at h
    exact absurd h.2 (by simp)
  have kept := thread.kept_eq
  rw [clean.kept, nothing, List.append_nil] at kept
  rw [← kept, empty, List.append_nil, List.map_map]
  rfl

end Pcrf
