import Pcrf.SqlQueue

/-!
Batches on a connection that stays healthy: what is executed is committed, in the order of the
queue.
-/

namespace Pcrf

open Lib

variable {π : Type}

/-- What a statement adds to the data when the connection is healthy. -/
def effectOf (request : SSQLRequestInfo π) (answers : SqlAnswers) :
    List (Effect (SSQLRequestInfo π)) :=
  if request.valid ∧ answers.taken then [.whole request] else []

/-- The effects of a queue whose statements are answered in order. -/
def effectsOf : List (SSQLRequestInfo π) → List SqlAnswers → List (Effect (SSQLRequestInfo π))
  | request :: rest, answers :: more => effectOf request answers ++ effectsOf rest more
  | _, _ => []

/-- The clock is read, the connection is never lost, and the test query succeeds. -/
structure SqlAnswers.Healthy (answers : SqlAnswers) : Prop where
  lostAt : answers.lostAt = none
  clock : answers.clock.isSome = true
  check : answers.check = 0

theorem rollback_of_pending {ρ : Type} {conn : OtlConnect ρ} (h : conn.pending = []) :
    conn.rollback = conn := by
  cases conn
  simp_all [OtlConnect.rollback]

theorem rollback_perform {ρ : Type} {conn : OtlConnect ρ} (h : conn.pending = [])
    (effects : List (Effect ρ)) : (conn.perform effects).rollback = conn :=
  rollback_of_pending h

/-- A live connection that has been given the effects `done`, committed or not. -/
structure OtlConnect.Holds {ρ : Type} (conn : OtlConnect ρ) (done : List (Effect ρ)) : Prop where
  connected : conn.connected = true
  alive : conn.alive = true
  done : conn.committed ++ conn.pending = done

namespace OtlConnect.Holds

variable {ρ : Type} {conn : OtlConnect ρ} {done : List (Effect ρ)}

theorem commit (holds : conn.Holds done) : conn.commit.Holds done where
  connected := holds.connected
  alive := holds.alive
  done := by simpa [OtlConnect.commit] using holds.done

theorem perform (holds : conn.Holds done) (effects : List (Effect ρ)) :
    (conn.perform effects).Holds (done ++ effects) where
  connected := holds.connected
  alive := holds.alive
  done := by simp [OtlConnect.perform, ← holds.done]

/-- The connection is healthy, so nothing is restored. -/
theorem restore (holds : conn.Holds done) (logon : Logon) :
    pcrfDbPoolRestore conn 0 logon = (conn, 0) := by
  simp [pcrfDbPoolRestore, holds.connected]

end OtlConnect.Holds

/-- The thread is in a batch that has done `done`: what is uncommitted will be committed. -/
structure SqlQueueThread.InBatch (thread : SqlQueueThread π)
    (done : List (Effect (SSQLRequestInfo π))) : Prop where
  phase : thread.phase = if thread.listSQLQueue.isEmpty then .finishing else .operating
  conn : ∃ conn, thread.dbConn = some conn ∧ conn.Holds done ∧
    (conn.pending = [] ∨ thread.bShouldCommit = true)

/-- Between two batches: nothing is uncommitted. -/
structure SqlQueueThread.Idle (thread : SqlQueueThread π)
    (done : List (Effect (SSQLRequestInfo π))) : Prop where
  phase : thread.phase = .waiting
  conn : ∃ conn, thread.dbConn = some conn ∧ conn.Holds done ∧ conn.pending = []

/-- Before a batch. The first one is given a healthy connection by the pool. -/
structure SqlQueueThread.Ready (thread : SqlQueueThread π) (first : SqlAnswers)
    (done : List (Effect (SSQLRequestInfo π))) : Prop where
  phase : thread.phase = .waiting
  work : first.work = true
  conn : thread.Idle done ∨
    thread.dbConn = none ∧ first.pool = some (true, true) ∧ done = []

/-- The execution of one statement on a healthy connection. A statement to be rolled back finds
nothing of the others uncommitted. -/
theorem operSingle_holds {conn : OtlConnect (SSQLRequestInfo π)}
    {done : List (Effect (SSQLRequestInfo π))} (holds : conn.Holds done)
    {request : SSQLRequestInfo π} {answers : SqlAnswers} (healthy : answers.Healthy)
    (whole : answers.partly = true → request.bRollbackOnFail = true)
    (alone : request.bRollbackOnFail = true → conn.pending = []) :
    ∃ conn' retVal taken, pcrfSqlQueueOperSingle conn request answers =
        (conn', some retVal, taken) ∧
      conn'.Holds (done ++ effectOf request answers) ∧
      (conn'.pending = conn.pending ∨ retVal = 0) := by
  by_cases valid : request.valid = true
  swap
  · refine ⟨conn, EINVAL, false, ?_, ?_, .inl rfl⟩
    · simp [pcrfSqlQueueOperSingle, valid]
    · simpa [effectOf, valid] using holds
  by_cases taken : answers.taken = true
  · refine ⟨conn.perform [.whole request], 0, true, ?_, ?_, .inr rfl⟩
    · simp [pcrfSqlQueueOperSingle, valid, taken, healthy.lostAt, holds.alive]
    · simpa [effectOf, valid, taken] using holds.perform [.whole request]
  have effects : effectOf request answers = [] := by simp [effectOf, taken]
  rw [effects, List.append_nil]
  by_cases rollback : request.bRollbackOnFail = true
  · -- the commit before left nothing else to roll back
    have undone := rollback_perform (alone rollback)
    refine ⟨conn, answers.code, false, ?_, holds, .inl rfl⟩
    by_cases partly : answers.partly = true
    · simp [pcrfSqlQueueOperSingle, pcrfSqlQueueOperSingleCatch, valid, taken, healthy.lostAt,
        rollback, partly, holds.alive, undone]
    · simp [pcrfSqlQueueOperSingle, pcrfSqlQueueOperSingleCatch, valid, taken, healthy.lostAt,
        rollback, partly, rollback_of_pending (alone rollback)]
  · have partly : ¬ answers.partly = true := fun h => rollback (whole h)
    refine ⟨conn, answers.code, false, ?_, holds, .inl rfl⟩
    simp [pcrfSqlQueueOperSingle, pcrfSqlQueueOperSingleCatch, valid, taken, healthy.lostAt,
      rollback, partly]

section Passes

variable {thread : SqlQueueThread π} {conn : OtlConnect (SSQLRequestInfo π)}
  {done : List (Effect (SSQLRequestInfo π))} {request : SSQLRequestInfo π}
  {rest : List (SSQLRequestInfo π)} {answers : SqlAnswers}

theorem eraseFirst_inBatch (hconn : thread.dbConn = some conn) (holds : conn.Holds done)
    (flag : conn.pending = [] ∨ thread.bShouldCommit = true) (taken : Bool) :
    (thread.eraseFirst request rest taken).InBatch done where
  phase := rfl
  conn := ⟨conn, hconn, holds, flag⟩

/-- Whichever way the counter and the clock decide, what stays uncommitted keeps the flag up. -/
theorem executed_inBatch (holds : conn.Holds done) (healthy : answers.Healthy) (taken : Bool) :
    (thread.executed conn request rest taken answers).InBatch done ∧
      (thread.executed conn request rest taken answers).listSQLQueue = rest := by
  obtain ⟨now, clock⟩ := Option.isSome_iff_exists.mp healthy.clock
  simp only [SqlQueueThread.executed, healthy.lostAt, clock]
  split
  · exact ⟨eraseFirst_inBatch rfl holds.commit (.inl rfl) taken, rfl⟩
  · split
    · split
      · exact ⟨eraseFirst_inBatch rfl holds.commit (.inl rfl) taken, rfl⟩
      · exact ⟨eraseFirst_inBatch rfl holds (.inr rfl) taken, rfl⟩
    · exact ⟨eraseFirst_inBatch rfl holds (.inr rfl) taken, rfl⟩

theorem refused_inBatch (holds : conn.Holds done) (healthy : answers.Healthy)
    (flag : conn.pending = [] ∨ thread.bShouldCommit = true) :
    (thread.refused conn request rest answers).InBatch done ∧
      (thread.refused conn request rest answers).listSQLQueue = rest := by
  simp only [SqlQueueThread.refused, healthy.check, holds.restore, if_true]
  exact ⟨⟨rfl, conn, rfl, holds, flag⟩, rfl⟩

theorem execute_inBatch (holds : conn.Holds done) (healthy : answers.Healthy)
    (flag : conn.pending = [] ∨ thread.bShouldCommit = true)
    (whole : answers.partly = true → request.bRollbackOnFail = true)
    (alone : request.bRollbackOnFail = true → conn.pending = []) :
    (thread.execute conn request rest answers).InBatch (done ++ effectOf request answers) ∧
      (thread.execute conn request rest answers).listSQLQueue = rest := by
  obtain ⟨conn', retVal, taken, single, holds', pending⟩ :=
    operSingle_holds holds healthy whole alone
  simp only [SqlQueueThread.execute, single]
  split
  · exact executed_inBatch holds' healthy taken
  · next failed =>
    have kept := pending.resolve_right failed
    exact refused_inBatch holds' healthy (kept.symm ▸ flag)

/-- One statement of a batch. -/
theorem operate_inBatch (batch : thread.InBatch done)
    (queue : thread.listSQLQueue = request :: rest)
    (healthy : answers.Healthy) (whole : answers.partly = true → request.bRollbackOnFail = true) :
    (pcrfSqlQueueOper thread answers).InBatch (done ++ effectOf request answers) ∧
      (pcrfSqlQueueOper thread answers).listSQLQueue = rest := by
  obtain ⟨conn, hconn, holds, flag⟩ := batch.conn
  have phase : thread.phase = .operating := by simp [batch.phase, queue]
  simp only [pcrfSqlQueueOper, phase, hconn, queue, SqlQueueThread.operate, healthy.lostAt]
  by_cases rollback : request.bRollbackOnFail = true
  · -- everything before is committed first, but the flag stays as it is
    simp only [rollback, not_true, if_false, reduceCtorEq]
    exact execute_inBatch holds.commit healthy (.inl rfl) whole fun _ => rfl
  · simp only [rollback, Bool.false_eq_true, not_false_eq_true, if_true]
    exact execute_inBatch holds healthy flag whole fun h => absurd h rollback

theorem start_inBatch (hconn : thread.dbConn = some conn) (holds : conn.Holds done)
    (pending : conn.pending = []) (healthy : answers.Healthy) :
    (thread.start answers).InBatch done ∧
      (thread.start answers).listSQLQueue = thread.listSQLQueue := by
  obtain ⟨now, clock⟩ := Option.isSome_iff_exists.mp healthy.clock
  rw [SqlQueueThread.start, clock]
  exact ⟨⟨rfl, conn, hconn, holds, .inl pending⟩, rfl⟩

theorem timeout_inBatch (ready : thread.Ready answers done) (healthy : answers.Healthy) :
    (pcrfSqlQueueOper thread answers).InBatch done ∧
      (pcrfSqlQueueOper thread answers).listSQLQueue = thread.listSQLQueue := by
  simp only [pcrfSqlQueueOper, ready.phase, SqlQueueThread.timeout, ready.work, not_true, if_false]
  rcases ready.conn with idle | ⟨none, pool, rfl⟩
  · obtain ⟨conn, hconn, holds, pending⟩ := idle.conn
    simp only [hconn]
    split
    · -- the connection was to be restored, and turns out to need nothing
      simp only [healthy.check, holds.restore, Int.reduceNeg, Int.reduceEq, if_false]
      exact start_inBatch rfl holds pending healthy
    · exact start_inBatch hconn holds pending healthy
  · simp only [none, pool]
    exact start_inBatch rfl ⟨rfl, rfl, rfl⟩ rfl healthy

theorem finish_idle (batch : thread.InBatch done) (queue : thread.listSQLQueue = [])
    (healthy : answers.Healthy) :
    (pcrfSqlQueueOper thread answers).Idle done ∧
      (pcrfSqlQueueOper thread answers).listSQLQueue = [] := by
  obtain ⟨conn, hconn, holds, flag⟩ := batch.conn
  have phase : thread.phase = .finishing := by simp [batch.phase, queue]
  simp only [pcrfSqlQueueOper, phase, hconn, SqlQueueThread.finish, healthy.lostAt]
  by_cases commit : thread.bShouldCommit = true
  · simp only [commit, not_true, if_false, reduceCtorEq]
    exact ⟨⟨rfl, conn.commit, rfl, holds.commit, rfl⟩, queue⟩
  · simp only [commit, Bool.false_eq_true, not_false_eq_true, if_true]
    exact ⟨⟨rfl, conn, rfl, holds, flag.resolve_right commit⟩, queue⟩

end Passes

/-- The statements of a batch, one after another. -/
theorem operateAll_inBatch {thread : SqlQueueThread π}
    {done : List (Effect (SSQLRequestInfo π))} (batch : thread.InBatch done)
    {turns : List SqlAnswers} (healthy : ∀ answers ∈ turns, answers.Healthy)
    (whole : List.Forall₂ (fun request answers =>
      answers.partly = true → request.bRollbackOnFail = true) thread.listSQLQueue turns) :
    (turns.foldl pcrfSqlQueueOper thread).InBatch
        (done ++ effectsOf thread.listSQLQueue turns) ∧
      (turns.foldl pcrfSqlQueueOper thread).listSQLQueue = [] := by
  generalize hqueue : thread.listSQLQueue = queue at whole ⊢
  induction whole generalizing thread done with
  | nil => simpa [effectsOf] using ⟨batch, hqueue⟩
  | @cons request answers rest more first whole ih =>
    have step := operate_inBatch batch hqueue (healthy answers (by simp)) first
    have run := ih step.1 (fun answers mem => healthy answers (by simp [mem])) step.2
    simpa [effectsOf] using run

/-- A batch on a healthy connection leaves the thread ready for the next one. -/
theorem batch_idle {thread : SqlQueueThread π} {done : List (Effect (SSQLRequestInfo π))}
    {first last : SqlAnswers} (ready : thread.Ready first done) {turns : List SqlAnswers}
    (healthy : ∀ answers ∈ first :: turns ++ [last], answers.Healthy)
    (whole : List.Forall₂ (fun request answers =>
      answers.partly = true → request.bRollbackOnFail = true) thread.listSQLQueue turns) :
    ((first :: turns ++ [last]).foldl pcrfSqlQueueOper thread).Idle
        (done ++ effectsOf thread.listSQLQueue turns) ∧
      ((first :: turns ++ [last]).foldl pcrfSqlQueueOper thread).listSQLQueue = [] := by
  have start := timeout_inBatch ready (healthy first (by simp))
  rw [← start.2] at whole ⊢
  have run := operateAll_inBatch start.1 (fun answers mem => healthy answers (by simp [mem])) whole
  simpa using finish_idle run.1 run.2 (healthy last (by simp))

/-- A batch on a healthy connection ends with the queue empty, nothing uncommitted, and exactly
the successful statements committed, each once and in the order of the queue. -/
theorem batch_commits {thread : SqlQueueThread π} {done : List (Effect (SSQLRequestInfo π))}
    {first last : SqlAnswers} (ready : thread.Ready first done) {turns : List SqlAnswers}
    (healthy : ∀ answers ∈ first :: turns ++ [last], answers.Healthy)
    (whole : List.Forall₂ (fun request answers =>
      answers.partly = true → request.bRollbackOnFail = true) thread.listSQLQueue turns) :
    let after := (first :: turns ++ [last]).foldl pcrfSqlQueueOper thread
    after.phase = .waiting ∧ after.listSQLQueue = [] ∧
      ∃ conn, after.dbConn = some conn ∧ conn.pending = [] ∧
        conn.committed = done ++ effectsOf thread.listSQLQueue turns := by
  obtain ⟨idle, queue⟩ := batch_idle ready healthy whole
  obtain ⟨conn, hconn, holds, pending⟩ := idle.conn
  have committed := holds.done
  rw [pending, List.append_nil] at committed
  exact ⟨idle.phase, queue, conn, hconn, pending, committed⟩

/-- The second of three statements fails and is rolled back. -/
theorem batch_commits_rollback :
    let insert (name : String) (rollback : Bool) : SSQLRequestInfo String :=
      { pszRequest := some name, plistParamList := some [], bRollbackOnFail := rollback }
    let after := [{ pool := some (true, true) }, {}, { taken := false, partly := true }, {},
      {}].foldl pcrfSqlQueueOper
        { listSQLQueue := [insert "a" false, insert "b" true, insert "c" false] }
    after.phase = .waiting ∧ after.listSQLQueue = [] ∧
      ∃ conn, after.dbConn = some conn ∧ conn.pending = [] ∧
        conn.committed = [.whole (insert "a" false), .whole (insert "c" false)] :=
  @batch_commits String _ [] _ _ ⟨rfl, rfl, .inr ⟨rfl, rfl, rfl⟩⟩
    [{}, { taken := false, partly := true }, {}]
    (by
      intro answers mem
      simp only [List.cons_append, List.nil_append, List.mem_cons, List.not_mem_nil,
        or_false] at mem
      rcases mem with rfl | rfl | rfl | rfl | rfl <;> exact ⟨rfl, rfl, rfl⟩)
    (by simp)

end Pcrf
