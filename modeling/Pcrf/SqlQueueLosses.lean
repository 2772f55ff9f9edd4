import Pcrf.SqlQueue

/-!
Statements that were executed, erased from the queue and then lost with the connection.
-/

namespace Pcrf

open Lib

variable {π : Type}

/-- What has been done and is not lost: committed, or pending on the live connection. -/
def OtlConnect.kept {ρ : Type} (conn : OtlConnect ρ) : List (Effect ρ) :=
  conn.committed ++ conn.pending

def SqlQueueThread.kept (thread : SqlQueueThread π) : List (Effect (SSQLRequestInfo π)) :=
  match thread.dbConn with
  | some conn => conn.kept
  | none => []

/-- The statements that the database took and that were erased, in order. -/
def SqlQueueThread.done (thread : SqlQueueThread π) : List (Effect (SSQLRequestInfo π)) :=
  (thread.erased.filter Prod.snd).map fun entry => .whole entry.1

/-- Each statement that was executed and erased has its effect. -/
def NoneLost (thread : SqlQueueThread π) : Prop := thread.done.Sublist thread.kept

/-- The connection stays through one execution of a statement: no call finds it lost, and
restoring it is not asked for or finds it healthy. -/
def SqlAnswers.stays (answers : SqlAnswers) (request : SSQLRequestInfo π) : Bool :=
  answers.lostAt ≠ some .execute && answers.lostAt ≠ some .commitAfter &&
    (answers.check = 0 || request.valid && answers.taken)

/-- The connection stays while something may be uncommitted. Before a statement that is to be
rolled back there is nothing, once the commit before it went through. -/
def SqlQueueThread.stays (thread : SqlQueueThread π) (answers : SqlAnswers) : Bool :=
  match thread.phase, thread.listSQLQueue with
  | .operating, request :: _ =>
    if request.bRollbackOnFail then answers.lostAt ≠ some .commitBefore
    else answers.stays request
  | .finishing, _ => answers.lostAt ≠ some .commitEnd
  | _, _ => true

/-- The connection is not lost while there is something uncommitted. -/
def KeepsPending (thread : SqlQueueThread π) : SqlQueueOp π → Prop
  | .enqueue _ => True
  | .pass answers =>
    (∀ conn ∈ thread.dbConn, conn.pending = []) ∨ thread.stays answers = true

instance (thread : SqlQueueThread π) : ∀ op, Decidable (KeepsPending thread op)
  | .enqueue _ => .isTrue trivial
  | .pass _ => inferInstanceAs (Decidable (_ ∨ _))

instance [DecidableEq π] (thread : SqlQueueThread π) : Decidable (NoneLost thread) :=
  inferInstanceAs (Decidable (List.Sublist _ _))

/-! ### The connection -/

/-- A session that is not alive has nothing uncommitted, and only a connected object has one. -/
structure OtlConnect.Ok {ρ : Type} (conn : OtlConnect ρ) : Prop where
  connected : conn.alive = true → conn.connected = true
  pending : conn.alive = false → conn.pending = []

section Connection

variable {ρ : Type} {conn : OtlConnect ρ}

theorem ok_lose : conn.lose.Ok where
  connected h := by simp [OtlConnect.lose] at h
  pending _ := rfl

theorem ok_commit (ok : conn.Ok) : conn.commit.Ok := ⟨ok.connected, fun _ => rfl⟩

theorem ok_rollback (ok : conn.Ok) : conn.rollback.Ok := ⟨ok.connected, fun _ => rfl⟩

theorem ok_perform (ok : conn.Ok) (alive : conn.alive = true) (effects : List (Effect ρ)) :
    (conn.perform effects).Ok := ⟨ok.connected, fun h => by simp [OtlConnect.perform, alive] at h⟩

theorem kept_commit : conn.commit.kept = conn.kept := by
  simp [OtlConnect.kept, OtlConnect.commit]

theorem kept_perform (effects : List (Effect ρ)) :
    (conn.perform effects).kept = conn.kept ++ effects := by
  simp [OtlConnect.kept, OtlConnect.perform]

theorem kept_of_pending (h : conn.pending = []) : conn.kept = conn.committed := by
  simp [OtlConnect.kept, h]

/-- An object that is not connected has nothing uncommitted. -/
theorem pending_of_not_connected (ok : conn.Ok) (h : conn.connected = false) :
    conn.pending = [] := by
  refine ok.pending ?_
  cases alive : conn.alive with
  | false => rfl
  | true => exact absurd (ok.connected alive) (by simp [h])

theorem connect_spec (ok : conn.Ok) (pending : conn.pending = []) (logon : Logon) :
    (pcrfDbPoolConnect conn logon).1.Ok ∧ (pcrfDbPoolConnect conn logon).1.pending = [] ∧
      (pcrfDbPoolConnect conn logon).1.committed = conn.committed ∧
      ((pcrfDbPoolConnect conn logon).2 ≠ 0 →
        (pcrfDbPoolConnect conn logon).1.connected = conn.connected) := by
  cases logon with
  | noMemory => exact ⟨ok, pending, rfl, fun _ => rfl⟩
  | succeeds => exact ⟨⟨fun _ => rfl, fun _ => rfl⟩, rfl, rfl, fun h => absurd rfl h⟩
  | fails code => exact ⟨ok, pending, rfl, fun _ => rfl⟩

/-- Restoring drops what is uncommitted exactly when the test query fails, and leaves an object
that it could not restore unconnected. -/
theorem restore_spec (ok : conn.Ok) (check : Int) (logon : Logon) :
    (pcrfDbPoolRestore conn check logon).1.Ok ∧
      (pcrfDbPoolRestore conn check logon).1.committed = conn.committed ∧
      (conn.pending = [] ∨ check = 0 →
        (pcrfDbPoolRestore conn check logon).1.kept = conn.kept) ∧
      ((pcrfDbPoolRestore conn check logon).2 = -1 →
        (pcrfDbPoolRestore conn check logon).1.connected = false) := by
  -- an object that is not connected is connected anew, and has nothing to drop
  by_cases connected : conn.connected = true
  swap
  · have unconnected : conn.connected = false := by simpa using connected
    have pending := pending_of_not_connected ok unconnected
    obtain ⟨ok', pending', committed, same⟩ := connect_spec ok pending logon
    simp only [pcrfDbPoolRestore, unconnected, Bool.false_eq_true, not_false_eq_true, if_true]
    refine ⟨ok', committed, fun _ => ?_, fun failed => ?_⟩
    · rw [kept_of_pending pending', kept_of_pending pending, committed]
    · rw [same (by intro h; simp [h] at failed), unconnected]
  by_cases hcheck : check = 0
  · simpa [pcrfDbPoolRestore, connected, hcheck] using ok
  · -- the test query fails: the session is given up with what it has not committed
    have off : (pcrfDbPoolLogoff conn) = { conn.lose with connected := false } := by
      simp [pcrfDbPoolLogoff, connected]
    have okOff : (pcrfDbPoolLogoff conn).Ok := by
      rw [off]
      exact ⟨fun h => by simp [OtlConnect.lose] at h, fun _ => rfl⟩
    obtain ⟨ok', pending', committed, same⟩ := connect_spec okOff (by rw [off]; rfl) logon
    simp only [pcrfDbPoolRestore, connected, not_true, if_false, hcheck, ne_eq,
      not_false_eq_true, if_true, or_false]
    refine ⟨ok', ?_, fun pending => ?_, fun failed => ?_⟩
    · rw [committed, off]; rfl
    · rw [kept_of_pending pending', kept_of_pending pending, committed, off]; rfl
    · rw [same (by intro h; simp [h] at failed), off]

end Connection

theorem stays_iff {answers : SqlAnswers} {request : SSQLRequestInfo π} :
    answers.stays request = true ↔
      answers.lostAt ≠ some .execute ∧ answers.lostAt ≠ some .commitAfter ∧
        (answers.check = 0 ∨ request.valid = true ∧ answers.taken = true) := by
  simp [SqlAnswers.stays, and_assoc]

section Statement

variable {conn : OtlConnect (SSQLRequestInfo π)} {request : SSQLRequestInfo π}
  (answers : SqlAnswers)

/-- The handler rolls back only what was begun after the commit. -/
theorem operSingleCatch_spec (ok : conn.Ok) {base : OtlConnect (SSQLRequestInfo π)}
    (extends_ : ∃ more, conn.kept = base.kept ++ more) (committed : conn.committed = base.committed)
    (alone : request.bRollbackOnFail = true → base.pending = []) :
    let caught := pcrfSqlQueueOperSingleCatch conn request answers
    caught.1.Ok ∧ caught.1.connected = conn.connected ∧ caught.1.committed = conn.committed ∧
      ∃ more, caught.1.kept = base.kept ++ more := by
  intro caught
  by_cases rollback : request.bRollbackOnFail = true
  swap
  · have hcaught : caught.1 = conn := by simp [caught, pcrfSqlQueueOperSingleCatch, rollback]
    rw [hcaught]
    exact ⟨ok, rfl, rfl, extends_⟩
  have kept : base.kept = conn.committed := by rw [kept_of_pending (alone rollback), committed]
  -- the rollback drops what was begun after the commit, or the connection goes with it
  by_cases lost : answers.lostAt = some .rollback
  · have hcaught : caught.1 = conn.lose := by
      simp [caught, pcrfSqlQueueOperSingleCatch, rollback, lost]
    rw [hcaught]
    exact ⟨ok_lose, rfl, rfl, [], by rw [kept]; rfl⟩
  · have hcaught : caught.1 = conn.rollback := by
      simp [caught, pcrfSqlQueueOperSingleCatch, rollback, lost]
    rw [hcaught]
    exact ⟨ok_rollback ok, rfl, rfl, [], by rw [kept]; rfl⟩

/-- The connection on which the statement is executed, lost meanwhile or not, keeps the same. -/
theorem live_spec (ok : conn.Ok) (stays : conn.pending = [] ∨ answers.lostAt ≠ some .execute)
    {live : OtlConnect (SSQLRequestInfo π)}
    (hlive : live = if answers.lostAt = some .execute then conn.lose else conn) :
    live.Ok ∧ live.connected = conn.connected ∧ live.committed = conn.committed ∧
      live.kept = conn.kept := by
  by_cases lost : answers.lostAt = some .execute
  · rw [if_pos lost] at hlive
    subst hlive
    -- nothing was pending that could go with the connection
    have kept : conn.lose.kept = conn.kept := by
      rw [kept_of_pending (stays.resolve_right (absurd lost)), kept_of_pending rfl]
      rfl
    exact ⟨ok_lose, rfl, rfl, kept⟩
  · rw [if_neg lost] at hlive
    subst hlive
    exact ⟨ok, rfl, rfl, rfl⟩

/-- An execution that fails may have left a part of the statement. -/
theorem partly_spec (ok : conn.Ok) {partly : OtlConnect (SSQLRequestInfo π)}
    (hpartly : partly =
      if conn.alive = true ∧ answers.partly = true then conn.perform [.part request] else conn) :
    partly.Ok ∧ partly.connected = conn.connected ∧ partly.committed = conn.committed ∧
      ∃ more, partly.kept = conn.kept ++ more := by
  by_cases done : conn.alive = true ∧ answers.partly = true
  · rw [if_pos done] at hpartly
    subst hpartly
    exact ⟨ok_perform ok done.1 _, rfl, rfl, [.part request], kept_perform ..⟩
  · rw [if_neg done] at hpartly
    subst hpartly
    exact ⟨ok, rfl, rfl, [], (List.append_nil _).symm⟩

/-- One execution adds to what is kept, and adds the statement when the database took it. -/
theorem operSingle_spec (ok : conn.Ok)
    (stays : conn.pending = [] ∨ answers.lostAt ≠ some .execute)
    (alone : request.bRollbackOnFail = true → conn.pending = []) :
    let single := pcrfSqlQueueOperSingle conn request answers
    single.1.Ok ∧ single.1.connected = conn.connected ∧ single.1.committed = conn.committed ∧
      (∃ more, single.1.kept = conn.kept ++ more ∧
        (single.2.2 = true → more = [.whole request])) ∧
      (single.2.1 ≠ some 0 → request.valid = true ∧ answers.taken = true →
        answers.lostAt ≠ some .execute → conn.pending = []) := by
  intro single
  by_cases valid : request.valid = true
  swap
  · have hsingle : single = (conn, some EINVAL, false) := by
      simp [single, pcrfSqlQueueOperSingle, valid]
    rw [hsingle]
    exact ⟨ok, rfl, rfl, ⟨[], by simp⟩, fun _ h => absurd h.1 valid⟩
  -- the connection the statement is executed on
  obtain ⟨live, hlive⟩ : ∃ live, live =
    if answers.lostAt = some .execute then conn.lose else conn := ⟨_, rfl⟩
  obtain ⟨okLive, sameConnected, sameCommitted, keptLive⟩ := live_spec answers ok stays hlive
  by_cases taken : live.alive = true ∧ answers.taken = true
  · have hsingle : single = (live.perform [.whole request], some 0, true) := by
      simp [single, pcrfSqlQueueOperSingle, valid, ← hlive, taken]
    rw [hsingle]
    refine ⟨ok_perform okLive taken.1 _, sameConnected, sameCommitted,
      ⟨[.whole request], ?_, fun _ => rfl⟩,
      fun h => absurd rfl h⟩
    rw [kept_perform, keptLive]
  -- an exception, after a part of the statement or not
  obtain ⟨partly, hpartly⟩ : ∃ partly, partly =
    if live.alive = true ∧ answers.partly = true then live.perform [.part request] else live :=
      ⟨_, rfl⟩
  obtain ⟨okPartly, connectedPartly, committedPartly, keptPartly⟩ :=
    partly_spec answers okLive hpartly
  rw [keptLive] at keptPartly
  have hsingle : single = ((pcrfSqlQueueOperSingleCatch partly request answers).1,
      (pcrfSqlQueueOperSingleCatch partly request answers).2, false) := by
    simp only [single, pcrfSqlQueueOperSingle, valid, ← hlive, taken, ← hpartly, not_true, if_false]
  obtain ⟨okCaught, connected, committed, more, kept⟩ :=
    operSingleCatch_spec answers okPartly keptPartly (committedPartly.trans sameCommitted) alone
  rw [hsingle]
  refine ⟨okCaught, connected.trans (connectedPartly.trans sameConnected),
    committed.trans (committedPartly.trans sameCommitted), ⟨more, kept, fun h => by cases h⟩,
    fun _ answered stayed => ok.pending ?_⟩
  -- the statement would have been taken on a live connection
  rw [hlive, if_neg stayed] at taken
  simpa [answered.2] using taken

end Statement

/-! ### Passes -/

/-- Nothing is lost, and a connection that could not be restored is not connected. -/
structure SqlQueueThread.Sound (thread : SqlQueueThread π) : Prop where
  noneLost : NoneLost thread
  ok : ∀ conn, thread.dbConn = some conn → conn.Ok
  restored : thread.iRestoreConnection = -1 →
    ∃ conn, thread.dbConn = some conn ∧ conn.connected = false

section Passes

variable {thread : SqlQueueThread π} {conn : OtlConnect (SSQLRequestInfo π)}
  {request : SSQLRequestInfo π} {rest : List (SSQLRequestInfo π)} {answers : SqlAnswers}

theorem sound_mk (hconn : thread.dbConn = some conn) (ok : conn.Ok)
    (restored : thread.iRestoreConnection = -1 → conn.connected = false)
    (kept : thread.done.Sublist conn.kept) : thread.Sound where
  noneLost := by simpa [NoneLost, SqlQueueThread.kept, hconn] using kept
  ok other h := by rw [hconn] at h; cases h; exact ok
  restored failed := ⟨conn, hconn, restored failed⟩

theorem SqlQueueThread.Sound.sublist_kept (sound : thread.Sound)
    (hconn : thread.dbConn = some conn) : thread.done.Sublist conn.kept := by
  simpa [NoneLost, SqlQueueThread.kept, hconn] using sound.noneLost

theorem SqlQueueThread.Sound.unconnected (sound : thread.Sound)
    (hconn : thread.dbConn = some conn) (failed : thread.iRestoreConnection = -1) :
    conn.connected = false := by
  obtain ⟨other, hother, unconnected⟩ := sound.restored failed
  rw [hconn] at hother
  cases hother
  exact unconnected

theorem done_eraseFirst (taken : Bool) : (thread.eraseFirst request rest taken).done =
    thread.done ++ if taken then [.whole request] else [] := by
  cases taken <;> simp [SqlQueueThread.done, SqlQueueThread.eraseFirst]

theorem sublist_kept_of_committed {done : List (Effect (SSQLRequestInfo π))}
    (h : done.Sublist conn.committed) : done.Sublist conn.kept :=
  h.trans (List.sublist_append_left ..)

theorem executed_sound (ok : conn.Ok)
    (restored : thread.iRestoreConnection = -1 → conn.connected = false) {taken : Bool}
    (kept : (thread.done ++ if taken then [Effect.whole request] else []).Sublist conn.kept)
    (lost : answers.lostAt = some .commitAfter → thread.done.Sublist conn.committed) :
    (thread.executed conn request rest taken answers).Sound := by
  have before : thread.done.Sublist conn.kept := (List.sublist_append_left ..).trans kept
  have erased : ∀ {next : SqlQueueThread π}, next.done = thread.done →
      (next.eraseFirst request rest taken).done.Sublist conn.kept := by
    intro next same
    rw [done_eraseFirst, same]
    exact kept
  simp only [SqlQueueThread.executed]
  split
  · -- more than 100 statements since the last commit
    split
    · next h => exact sound_mk rfl ok_lose restored (sublist_kept_of_committed (lost h))
    · exact sound_mk rfl (ok_commit ok) restored (by rw [kept_commit]; exact erased rfl)
  · -- more than 10: the clock decides
    split
    · split
      · exact sound_mk rfl ok restored before
      · split
        · split
          · next h => exact sound_mk rfl ok_lose restored (sublist_kept_of_committed (lost h))
          · exact sound_mk rfl (ok_commit ok) restored (by rw [kept_commit]; exact erased rfl)
        · exact sound_mk rfl ok restored (erased rfl)
    · exact sound_mk rfl ok restored (erased rfl)

theorem refused_sound (ok : conn.Ok) (kept : thread.done.Sublist conn.kept)
    (dropped : answers.check ≠ 0 → thread.done.Sublist conn.committed) :
    (thread.refused conn request rest answers).Sound := by
  obtain ⟨ok', committed, same, failed⟩ := restore_spec ok answers.check answers.logon
  have kept' : thread.done.Sublist
      (pcrfDbPoolRestore conn answers.check answers.logon).1.kept := by
    by_cases check : answers.check = 0
    · rw [same (.inr check)]
      exact kept
    · exact sublist_kept_of_committed (committed ▸ dropped check)
  simp only [SqlQueueThread.refused]
  split
  · refine sound_mk rfl ok' failed ?_
    rw [done_eraseFirst, if_neg (by simp), List.append_nil]
    exact kept'
  · exact sound_mk rfl ok' failed kept'

theorem execute_sound (ok : conn.Ok)
    (restored : thread.iRestoreConnection = -1 → conn.connected = false)
    (kept : thread.done.Sublist conn.kept)
    (stays : conn.pending = [] ∨ answers.stays request = true)
    (alone : request.bRollbackOnFail = true → conn.pending = []) :
    (thread.execute conn request rest answers).Sound := by
  -- when something goes wrong nothing was uncommitted
  have safe : conn.pending = [] → thread.done.Sublist conn.committed := by
    intro h
    rw [← kept_of_pending h]
    exact kept
  have stays := stays.imp_right stays_iff.mp
  obtain ⟨ok', connected, committed, ⟨more, kept', whole⟩, dead⟩ :=
    operSingle_spec answers ok (stays.imp_right fun h => h.1) alone
  simp only [SqlQueueThread.execute]
  generalize pcrfSqlQueueOperSingle conn request answers = single at *
  obtain ⟨conn', retVal, took⟩ := single
  simp only at ok' connected committed kept' whole dead
  have before : thread.done.Sublist conn'.kept := by
    rw [kept']
    exact kept.trans (List.sublist_append_left ..)
  cases retVal with
  -- the handler of the exception has thrown another one
  | none => exact sound_mk rfl ok' (fun h => connected.trans (restored h)) before
  | some retVal =>
    simp only
    split
    · -- the database has taken it
      refine executed_sound ok' ?_ ?_ ?_
      · exact fun h => connected.trans (restored h)
      · rw [kept']
        cases took with
        | false =>
          rw [if_neg (by simp), List.append_nil]
          exact kept.trans (List.sublist_append_left ..)
        | true => exact kept.append (by simp [whole rfl])
      · intro h
        rw [committed]
        exact safe (stays.resolve_right fun stays => stays.2.1 h)
    · -- restoring the connection drops what is uncommitted, so nothing must be
      next failed =>
      refine refused_sound ok' before fun check => ?_
      rw [committed]
      refine safe (stays.elim id fun stays => ?_)
      exact dead (by simpa using failed) (stays.2.2.resolve_left check) stays.1

theorem operate_sound (ok : conn.Ok)
    (restored : thread.iRestoreConnection = -1 → conn.connected = false)
    (kept : thread.done.Sublist conn.kept)
    (keeps : conn.pending = [] ∨
      (if request.bRollbackOnFail then answers.lostAt ≠ some .commitBefore
        else answers.stays request : Bool) = true) :
    (thread.operate conn request rest answers).Sound := by
  simp only [SqlQueueThread.operate]
  split
  · next plain =>
    have stays := keeps.imp_right fun h => by simpa [plain] using h
    exact execute_sound ok restored kept stays fun h => absurd h plain
  · next rollback =>
    split
    · -- the commit before the statement is lost with all that was to be committed
      next lost =>
      have rollback : request.bRollbackOnFail = true := by simpa using rollback
      have pending := keeps.resolve_right (by simp [rollback, lost])
      refine sound_mk rfl ok_lose restored (sublist_kept_of_committed ?_)
      rw [kept_of_pending pending] at kept
      exact kept
    · exact execute_sound (ok_commit ok) restored (by rw [kept_commit]; exact kept)
        (.inl rfl) fun _ => rfl

theorem finish_sound (sound : thread.Sound) (hconn : thread.dbConn = some conn)
    (keeps : conn.pending = [] ∨ answers.lostAt ≠ some .commitEnd) :
    (thread.finish conn answers).Sound := by
  have ok := sound.ok conn hconn
  have kept := sound.sublist_kept hconn
  have restored := sound.unconnected hconn
  simp only [SqlQueueThread.finish]
  split
  · exact sound_mk hconn ok restored kept
  · split
    · next lost =>
      rw [kept_of_pending (keeps.resolve_right (absurd lost))] at kept
      exact sound_mk rfl ok_lose restored (sublist_kept_of_committed kept)
    · exact sound_mk rfl (ok_commit ok) restored (by rw [kept_commit]; exact kept)

theorem start_sound (sound : thread.Sound) : (thread.start answers).Sound := by
  simp only [SqlQueueThread.start]
  split <;> exact ⟨sound.noneLost, sound.ok, sound.restored⟩

/-- The connection the pool gives at first has nothing uncommitted. -/
theorem given_sound (sound : thread.Sound) (hconn : thread.dbConn = none)
    (connected alive : Bool) : SqlQueueThread.Sound { thread with
      dbConn := some { connected, alive := connected && alive } } := by
  have none_done : thread.done = [] := by
    simpa [NoneLost, SqlQueueThread.kept, hconn] using sound.noneLost
  refine sound_mk rfl ⟨fun h => (Bool.and_eq_true_iff.mp h).1, fun _ => rfl⟩ (fun failed => ?_) ?_
  · obtain ⟨conn, some_conn, -⟩ := sound.restored failed
    rw [hconn] at some_conn
    cases some_conn
  · change thread.done.Sublist _
    rw [none_done]
    exact List.nil_sublist _

/-- A connection that is restored before a batch was left unconnected, with nothing to lose. -/
theorem restored_sound (sound : thread.Sound) (hconn : thread.dbConn = some conn)
    (failed : thread.iRestoreConnection = -1) (check : Int) (logon : Logon) :
    SqlQueueThread.Sound { thread with
      dbConn := some (pcrfDbPoolRestore conn check logon).1
      iRestoreConnection := (pcrfDbPoolRestore conn check logon).2 } := by
  have pending := pending_of_not_connected (sound.ok conn hconn) (sound.unconnected hconn failed)
  obtain ⟨ok', -, same, failed'⟩ := restore_spec (sound.ok conn hconn) check logon
  refine sound_mk rfl ok' failed' ?_
  rw [same (.inl pending)]
  exact sound.sublist_kept hconn

theorem timeout_sound (sound : thread.Sound) : (thread.timeout answers).Sound := by
  simp only [SqlQueueThread.timeout]
  split
  · exact ⟨sound.noneLost, sound.ok, sound.restored⟩
  cases hconn : thread.dbConn with
  | none =>
    cases pool : answers.pool with
    | none => exact sound
    | some given => exact start_sound (given_sound sound hconn given.1 given.2)
  | some conn =>
    simp only
    split
    · next failed =>
      have restored := restored_sound sound hconn failed answers.check answers.logon
      split
      · exact restored
      · exact start_sound restored
    · exact start_sound sound

/-- A pass that does not lose the connection over uncommitted work loses no statement. -/
theorem oper_sound (sound : thread.Sound) (keeps : KeepsPending thread (.pass answers)) :
    (pcrfSqlQueueOper thread answers).Sound := by
  unfold pcrfSqlQueueOper
  split
  · exact timeout_sound sound
  · next conn request rest phase hconn queue =>
    simp only [KeepsPending, SqlQueueThread.stays, phase, hconn, queue, Option.mem_def,
      Option.some.injEq, forall_eq'] at keeps
    exact operate_sound (sound.ok conn hconn) (sound.unconnected hconn)
      (sound.sublist_kept hconn) keeps
  · next conn queue phase hconn =>
    simp only [KeepsPending, SqlQueueThread.stays, phase, hconn, Option.mem_def,
      Option.some.injEq, forall_eq', decide_eq_true_eq] at keeps
    exact finish_sound sound hconn keeps
  · exact sound

end Passes

theorem sound_apply (thread : SqlQueueThread π) (op : SqlQueueOp π) (sound : thread.Sound)
    (keeps : KeepsPending thread op) : (thread.apply op).Sound := by
  cases op with
  | enqueue request => exact ⟨sound.noneLost, sound.ok, sound.restored⟩
  | pass answers => exact oper_sound sound keeps

/-- In a run in which the connection is never lost over uncommitted work, each statement that was
executed and erased has its effect committed or pending. -/
theorem executed_kept {ops : List (SqlQueueOp π)}
    (keeps : (sqlQueueMachine π).Meets KeepsPending ops) :
    NoneLost ((sqlQueueMachine π).run ops) := by
  have start : (sqlQueueMachine π).init.Sound := by
    refine ⟨List.Sublist.refl [], fun conn h => ?_, fun h => ?_⟩
    · simp [sqlQueueMachine] at h
    · simp [sqlQueueMachine] at h
  exact ((sqlQueueMachine π).inv_of_meets start sound_apply keeps).noneLost

/-- A connection lost with nothing uncommitted, then restored. -/
theorem executed_kept_restored :
    let request : SSQLRequestInfo String := { pszRequest := some "", plistParamList := some [] }
    NoneLost ((sqlQueueMachine String).run
      [.enqueue request, .pass { pool := some (true, true) },
        .pass { lostAt := some .execute, check := 3113 }, .pass {}, .pass {}, .pass {}]) :=
  executed_kept (by decide)

/-- The connection is lost at the second statement, with the first one erased and uncommitted. -/
theorem executed_kept_counterexample :
    let request : SSQLRequestInfo String := { pszRequest := some "", plistParamList := some [] }
    ¬ NoneLost ((sqlQueueMachine String).run
      [.enqueue request, .enqueue request, .pass { pool := some (true, true) }, .pass {},
        .pass { lostAt := some .execute, check := 3113 }]) := by
  decide

end Pcrf
