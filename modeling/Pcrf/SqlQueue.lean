import Pcrf.Lib.Machine
import Pcrf.Types

/-!
`pcrf_sql_queue.cpp`: the queues of statements, the thread that works on each of them, and the
part of `pcrf_db_pool.cpp` that restores its connection.
-/

namespace Pcrf

open Lib

/-- `SSQLRequestInfo`. A null pointer is `none`. -/
structure SSQLRequestInfo (π : Type) where
  pszRequest : Option String
  plistParamList : Option (List π)
  pszReqName : String := ""
  bRollbackOnFail : Bool := false
  deriving Repr, DecidableEq

/-! ### The connection -/

/-- What a statement does to the data: all of it, or the part done before it failed. -/
inductive Effect (ρ : Type) where
  | whole (statement : ρ)
  | part (statement : ρ)
  deriving Repr, DecidableEq

/-- `otl_connect`, with the session behind it. `connected` is the object's own flag; a session
that is not `alive` has forgotten what was not committed. -/
structure OtlConnect (ρ : Type) where
  connected : Bool
  alive : Bool
  committed : List (Effect ρ) := []
  pending : List (Effect ρ) := []
  deriving Repr, DecidableEq

namespace OtlConnect

variable {ρ : Type}

/-- The session ends, and with it everything uncommitted. -/
def lose (conn : OtlConnect ρ) : OtlConnect ρ := { conn with alive := false, pending := [] }

def commit (conn : OtlConnect ρ) : OtlConnect ρ :=
  { conn with committed := conn.committed ++ conn.pending, pending := [] }

def rollback (conn : OtlConnect ρ) : OtlConnect ρ := { conn with pending := [] }

def perform (conn : OtlConnect ρ) (effects : List (Effect ρ)) : OtlConnect ρ :=
  { conn with pending := conn.pending ++ effects }

end OtlConnect

/-- How a logon attempt ends: no memory for the connection string, success, or an exception. -/
inductive Logon where
  | noMemory
  | succeeds
  | fails (code : Int)
  deriving Repr, DecidableEq, Inhabited

/-- Without memory nothing is done, and `iRetVal - 30` leaves the return value at 0. -/
def pcrfDbPoolConnect {ρ : Type} (conn : OtlConnect ρ) : Logon → OtlConnect ρ × Int
  | .noMemory => (conn, 0)
  | .succeeds => ({ conn with connected := true, alive := true, pending := [] }, 0)
  | .fails code => (conn, code)

def pcrfDbPoolLogoff {ρ : Type} (conn : OtlConnect ρ) : OtlConnect ρ :=
  if conn.connected then { conn.lose with connected := false } else conn

/-- `pcrf_db_pool_restore` on an existing connection object; `check` is what the test query
returns. -/
def pcrfDbPoolRestore {ρ : Type} (conn : OtlConnect ρ) (check : Int) (logon : Logon) :
    OtlConnect ρ × Int :=
  if ¬ conn.connected then
    let (conn, fnRes) := pcrfDbPoolConnect conn logon
    (conn, if fnRes = 0 then 1 else -1)
  else if check ≠ 0 then
    let (conn, fnRes) := pcrfDbPoolConnect (pcrfDbPoolLogoff conn) logon
    (conn, if fnRes = 0 then 1 else -1)
  else (conn, 0)

/-! ### The thread of a queue -/

/-- The calls of the thread that can find the connection lost. -/
inductive DbCall where
  | commitBefore
  | execute
  | rollback
  | commitAfter
  | commitEnd
  deriving Repr, DecidableEq

/-- What the thread is told from outside during one pass: whether to go on, the connection the
pool gives (its `connected` and `alive`), whether the database takes the statement (if not, the
code of the exception and whether a part was done), the call that finds the connection lost, the
clock, and how restoring the connection goes. -/
structure SqlAnswers where
  work : Bool := true
  pool : Option (Bool × Bool) := none
  taken : Bool := true
  code : Int := 1
  partly : Bool := false
  lostAt : Option DbCall := none
  clock : Option Timeval := some ⟨0, 0⟩
  check : Int := 0
  logon : Logon := .succeeds
  deriving Repr, DecidableEq, Inhabited

/-- Where the thread is: waiting for its timer, at a statement of the batch, at the commit that
ends the batch, returned, or ended by an exception that nothing catches. -/
inductive SqlPhase where
  | waiting
  | operating
  | finishing
  | exited
  | terminated
  deriving Repr, DecidableEq

/-- `SSQLQueue` with the variables of `pcrf_sql_queue_oper`. `executions` and `erased` record
each execution with the number of statements erased before it, and each erased statement with
whether the database had taken it; the code does not read them. -/
structure SqlQueueThread (π : Type) where
  listSQLQueue : List (SSQLRequestInfo π) := []
  phase : SqlPhase := .waiting
  dbConn : Option (OtlConnect (SSQLRequestInfo π)) := none
  iRestoreConnection : Int := 0
  soTVLastCommit : Timeval := ⟨0, 0⟩
  iCount : Nat := 0
  bShouldCommit : Bool := false
  executions : List (Nat × SSQLRequestInfo π) := []
  erased : List (SSQLRequestInfo π × Bool) := []
  deriving Repr, DecidableEq

variable {π : Type}

/-- The parameters `pcrf_sql_queue_oper_single` accepts. -/
def SSQLRequestInfo.valid (request : SSQLRequestInfo π) : Bool :=
  request.pszRequest.isSome && request.plistParamList.isSome

/-- The exception handler of `pcrf_sql_queue_oper_single`; `none` when the rollback throws. -/
def pcrfSqlQueueOperSingleCatch (conn : OtlConnect (SSQLRequestInfo π))
    (request : SSQLRequestInfo π) (answers : SqlAnswers) :
    OtlConnect (SSQLRequestInfo π) × Option Int :=
  if ¬ request.bRollbackOnFail then (conn, some answers.code)
  else if answers.lostAt = some .rollback then (conn.lose, none)
  else (conn.rollback, some answers.code)

/-- `pcrf_sql_queue_oper_single`: the connection, the value returned, and whether the database
took the statement. -/
def pcrfSqlQueueOperSingle (conn : OtlConnect (SSQLRequestInfo π)) (request : SSQLRequestInfo π)
    (answers : SqlAnswers) : OtlConnect (SSQLRequestInfo π) × Option Int × Bool :=
  if ¬ request.valid then (conn, some EINVAL, false)
  else
    let conn := if answers.lostAt = some .execute then conn.lose else conn
    if conn.alive ∧ answers.taken then (conn.perform [.whole request], some 0, true)
    else
      let conn := if conn.alive ∧ answers.partly then conn.perform [.part request] else conn
      let (conn, retVal) := pcrfSqlQueueOperSingleCatch conn request answers
      (conn, retVal, false)

/-- Enough time has passed since the last commit. -/
def commitDue (last now : Timeval) : Bool :=
  last.tvSec < now.tvSec && last.tvUsec ≤ now.tvUsec || last.tvSec + 1 < now.tvSec

namespace SqlQueueThread

/-- `pcrf_sql_queue_clean_single` and the removal from the list. The iterator is at the end when
nothing follows, whatever is appended after that. -/
def eraseFirst (thread : SqlQueueThread π) (request : SSQLRequestInfo π)
    (rest : List (SSQLRequestInfo π)) (taken : Bool) : SqlQueueThread π :=
  { thread with
    listSQLQueue := rest
    erased := thread.erased ++ [(request, taken)]
    phase := if rest.isEmpty then .finishing else .operating }

/-- An exception leaves the thread's function. -/
def terminate (thread : SqlQueueThread π) (conn : OtlConnect (SSQLRequestInfo π)) :
    SqlQueueThread π :=
  { thread with dbConn := some conn, phase := .terminated }

/-- What follows an execution that returned 0. -/
def executed (thread : SqlQueueThread π) (conn : OtlConnect (SSQLRequestInfo π))
    (request : SSQLRequestInfo π) (rest : List (SSQLRequestInfo π)) (taken : Bool)
    (answers : SqlAnswers) : SqlQueueThread π :=
  let count := thread.iCount + 1
  let thread := { thread with dbConn := some conn, bShouldCommit := true, iCount := count }
  if count > 100 then
    if answers.lostAt = some .commitAfter then thread.terminate conn.lose
    else
      let thread :=
        { thread with dbConn := some conn.commit, bShouldCommit := false, iCount := 0 }
      thread.eraseFirst request rest taken
  else if count > 10 then
    match answers.clock with
    | none => { thread with phase := .finishing }
    | some now =>
      if commitDue thread.soTVLastCommit now then
        if answers.lostAt = some .commitAfter then thread.terminate conn.lose
        else
          let thread :=
            { thread with
              dbConn := some conn.commit, bShouldCommit := false, soTVLastCommit := now }
          thread.eraseFirst request rest taken
      else thread.eraseFirst request rest taken
  else thread.eraseFirst request rest taken

/-- What follows an execution that returned an error. -/
def refused (thread : SqlQueueThread π) (conn : OtlConnect (SSQLRequestInfo π))
    (request : SSQLRequestInfo π) (rest : List (SSQLRequestInfo π)) (answers : SqlAnswers) :
    SqlQueueThread π :=
  let (conn, restored) := pcrfDbPoolRestore conn answers.check answers.logon
  let thread := { thread with dbConn := some conn, iRestoreConnection := restored }
  if restored = 0 then thread.eraseFirst request rest false
  else { thread with phase := .finishing }

/-- The execution of the statement the iterator is at. -/
def execute (thread : SqlQueueThread π) (conn : OtlConnect (SSQLRequestInfo π))
    (request : SSQLRequestInfo π) (rest : List (SSQLRequestInfo π)) (answers : SqlAnswers) :
    SqlQueueThread π :=
  let thread :=
    { thread with executions := thread.executions ++ [(thread.erased.length, request)] }
  match pcrfSqlQueueOperSingle conn request answers with
  | (conn, none, _) => thread.terminate conn
  | (conn, some retVal, taken) =>
    if retVal = 0 then thread.executed conn request rest taken answers
    else thread.refused conn request rest answers

/-- The body of the inner loop. -/
def operate (thread : SqlQueueThread π) (conn : OtlConnect (SSQLRequestInfo π))
    (request : SSQLRequestInfo π) (rest : List (SSQLRequestInfo π)) (answers : SqlAnswers) :
    SqlQueueThread π :=
  if ¬ request.bRollbackOnFail then thread.execute conn request rest answers
  else if answers.lostAt = some .commitBefore then thread.terminate conn.lose
  else thread.execute conn.commit request rest answers

/-- The start of a batch, once there is a connection. -/
def start (thread : SqlQueueThread π) (answers : SqlAnswers) : SqlQueueThread π :=
  match answers.clock with
  | none => { thread with phase := .exited }
  | some now =>
    { thread with
      soTVLastCommit := now, iCount := 0, bShouldCommit := false
      phase := if thread.listSQLQueue.isEmpty then .finishing else .operating }

/-- The timer has run out. -/
def timeout (thread : SqlQueueThread π) (answers : SqlAnswers) : SqlQueueThread π :=
  if ¬ answers.work then { thread with phase := .exited }
  else
    match thread.dbConn with
    | some conn =>
      if thread.iRestoreConnection = -1 then
        let (conn, restored) := pcrfDbPoolRestore conn answers.check answers.logon
        let thread := { thread with dbConn := some conn, iRestoreConnection := restored }
        if restored = -1 then thread else thread.start answers
      else thread.start answers
    | none =>
      match answers.pool with
      | none => thread
      | some (connected, alive) =>
        { thread with
          dbConn := some { connected, alive := connected && alive } }.start answers

/-- The commit after the inner loop. -/
def finish (thread : SqlQueueThread π) (conn : OtlConnect (SSQLRequestInfo π))
    (answers : SqlAnswers) : SqlQueueThread π :=
  if ¬ thread.bShouldCommit then { thread with phase := .waiting }
  else if answers.lostAt = some .commitEnd then thread.terminate conn.lose
  else { thread with dbConn := some conn.commit, phase := .waiting }

end SqlQueueThread

/-- One pass of `pcrf_sql_queue_oper`: the timer, one statement, or the end of a batch. -/
def pcrfSqlQueueOper (thread : SqlQueueThread π) (answers : SqlAnswers) : SqlQueueThread π :=
  match thread.phase, thread.dbConn, thread.listSQLQueue with
  | .waiting, _, _ => thread.timeout answers
  | .operating, some conn, request :: rest => thread.operate conn request rest answers
  | .finishing, some conn, _ => thread.finish conn answers
  | _, _, _ => thread

/-! ### Runs of the thread -/

/-- The list grows at its end while the thread works on its front. -/
def SqlQueueThread.enqueue (thread : SqlQueueThread π) (request : SSQLRequestInfo π) :
    SqlQueueThread π :=
  { thread with listSQLQueue := thread.listSQLQueue ++ [request] }

inductive SqlQueueOp (π : Type) where
  | enqueue (request : SSQLRequestInfo π)
  | pass (answers : SqlAnswers)
  deriving Repr, DecidableEq

def SqlQueueThread.apply (thread : SqlQueueThread π) : SqlQueueOp π → SqlQueueThread π
  | .enqueue request => thread.enqueue request
  | .pass answers => pcrfSqlQueueOper thread answers

def sqlQueueMachine (π : Type) : Machine (SqlQueueThread π) (SqlQueueOp π) where
  init := {}
  step := SqlQueueThread.apply

end Pcrf
