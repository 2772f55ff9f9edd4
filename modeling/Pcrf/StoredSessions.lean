import Pcrf.SessionStores

/-!
What `ps.sessionList` and `ps.sessionLocation` say of a session: in every state at most one
location, and when the queues are empty just what the requests of the session have left.
-/

namespace Pcrf

open Lib

/-! ### What the tables say -/

section Tables

variable {queueCount : Nat} {node : StoreNode} {s : String}

/-- Requests that do nothing to the session may be left out. -/
theorem replay_onSession (session : StoredSession) (requests : List (SSQLRequestInfo SqlParam)) :
    replay (SSQLRequestInfo.onSession s) session requests =
      replay StoreAction.act session (requests.filterMap (SSQLRequestInfo.action? s)) := by
  induction requests generalizing session with
  | nil => rfl
  | cons request requests ih =>
    rw [List.filterMap_cons]
    have onSession : request.onSession s session =
      (request.action? s).elim session fun action => action.act session := rfl
    cases action : request.action? s with
    | none =>
      rw [action] at onSession
      exact (congrArg (replay _ · requests) onSession).trans (ih session)
    | some action' =>
      rw [action] at onSession
      exact (congrArg (replay _ · requests) onSession).trans (ih _)

theorem onSession_idle {request : SSQLRequestInfo SqlParam}
    (idle : (request.action? s).isSome = false) (session : StoredSession) :
    request.onSession s session = session := by
  rw [SSQLRequestInfo.onSession, Option.isSome_eq_false_iff.mp idle |> Option.isNone_iff_eq_none.mp]
  rfl

theorem filterMap_filter_isSome (requests : List (SSQLRequestInfo SqlParam)) :
    (requests.filter fun request => (request.action? s).isSome).filterMap
        (SSQLRequestInfo.action? s) =
      requests.filterMap (SSQLRequestInfo.action? s) := by
  rw [List.filterMap_filter]
  refine List.filterMap_congr fun request _ => ?_
  cases request.action? s <;> rfl

variable {sql : SqlNode SqlParam}

/-- A call that does something to the session has its id. -/
theorem call_of_action (bySession : sql.BySession) {call : EnqueueCall SqlParam}
    (mem : call ∈ sql.sqlQueues.calls) (acts : (call.request.action? s).isSome = true) :
    call.sessionId = some s := by
  rcases bySession call mem with unrelated | ⟨own, owner, -, isOf⟩
  · simp [unrelated.action? s] at acts
  · by_cases same : own = s
    · exact same ▸ owner
    · simp [isOf.action?_eq_none same] at acts

/-- The tables say what the request of a call does. -/
theorem session_of_call (bySession : sql.BySession) {call : EnqueueCall SqlParam}
    (mem : call ∈ sql.sqlQueues.calls) (tables : SessionTables) :
    (call.request.onTables tables).session s = call.request.onSession s (tables.session s) := by
  rcases bySession call mem with unrelated | ⟨own, -, -, isOf⟩
  · exact (unrelated.isOf s).session s tables
  · exact isOf.session s tables

/-- Nothing is done to a session whose id does not end in a number. -/
theorem action?_of_not_numbered (bySession : sql.BySession) (unnumbered : ¬ Numbered s)
    {call : EnqueueCall SqlParam} (mem : call ∈ sql.sqlQueues.calls) :
    call.request.action? s = none := by
  rcases bySession call mem with unrelated | ⟨own, -, numbered, isOf⟩
  · exact unrelated.action? s
  · have other : own ≠ s := fun same => unnumbered (same ▸ numbered)
    exact isOf.action?_eq_none other

theorem session_of_not_numbered (ok : sql.Ok queueCount) (bySession : sql.BySession)
    (unnumbered : ¬ Numbered s) :
    (sql.table SSQLRequestInfo.onTables {}).session s = {} := by
  refine observe_none (fun request => (request.action? s).isSome) SSQLRequestInfo.onTables
    (SSQLRequestInfo.onSession s) (fun tables => tables.session s) {} ok
    (fun call mem => ?_) (fun call mem tables => session_of_call bySession mem tables)
    (fun request idle session => onSession_idle idle session)
  rw [action?_of_not_numbered bySession unnumbered mem]
  rfl

/-- The session is what some of the requests make of it, from the first one on. -/
theorem session_begins (ok : sql.Ok queueCount) (bySession : sql.BySession)
    (positive : 0 < queueCount) (small : queueCount ≤ 2 ^ 31) (s : String) :
    ∃ done, done <+: sql.sqlQueues.requests.filterMap (SSQLRequestInfo.action? s) ∧
      (sql.table SSQLRequestInfo.onTables {}).session s = replay StoreAction.act {} done := by
  by_cases numbered : Numbered s
  · obtain ⟨done, before, same⟩ := observe_begins (fun request => (request.action? s).isSome)
      SSQLRequestInfo.onTables (SSQLRequestInfo.onSession s) (fun tables => tables.session s) {}
      ok positive small numbered (fun call mem acts => call_of_action bySession mem acts)
      (fun call mem tables => session_of_call bySession mem tables)
      (fun request idle session => onSession_idle idle session)
    refine ⟨done.filterMap (SSQLRequestInfo.action? s), ?_, ?_⟩
    · have actions := before.filterMap (SSQLRequestInfo.action? s)
      rw [filterMap_filter_isSome] at actions
      exact actions
    · rw [← replay_onSession]
      exact same
  · exact ⟨[], List.nil_prefix, session_of_not_numbered ok bySession numbered⟩

/-- When the queues are empty, the session is what the requests make of it. -/
theorem session_drained (ok : sql.Ok queueCount) (bySession : sql.BySession)
    (positive : 0 < queueCount) (small : queueCount ≤ 2 ^ 31) (drained : sql.Drained)
    (s : String) :
    (sql.table SSQLRequestInfo.onTables {}).session s =
      replay StoreAction.act {}
        (sql.sqlQueues.requests.filterMap (SSQLRequestInfo.action? s)) := by
  by_cases numbered : Numbered s
  · have same := observe_drained (fun request => (request.action? s).isSome)
      SSQLRequestInfo.onTables (SSQLRequestInfo.onSession s) (fun tables => tables.session s) {}
      ok positive small numbered (fun call mem acts => call_of_action bySession mem acts)
      (fun call mem tables => session_of_call bySession mem tables)
      (fun request idle session => onSession_idle idle session) drained
    rw [replay_onSession, filterMap_filter_isSome] at same
    exact same
  · have none : sql.sqlQueues.requests.filterMap (SSQLRequestInfo.action? s) = [] := by
      refine List.filterMap_eq_nil_iff.mpr fun request mem => ?_
      obtain ⟨call, called, rfl⟩ := List.mem_map.mp mem
      exact action?_of_not_numbered bySession numbered called
    rw [session_of_not_numbered ok bySession numbered, none]
    rfl

/-- The actions on the session that were enqueued are some of those of its handlers, in order. -/
theorem actions_begun (ok : node.Ok queueCount) (s : String) :
    node.sql.sqlQueues.requests.filterMap (SSQLRequestInfo.action? s) <+:
      ((node.storedFor s).map StoreWriter.actions).flatten := by
  have blocks : entriesOf s node.turns.begun =
      (node.storedFor s).map StoreWriter.statements := by
    rw [ok.begun, entriesOf, StoreNode.storedFor, List.filter_map, List.map_map]
    rfl
  have recorded := (ok.turns.recorded s).filterMap StoreStatement.action?
  rw [← ok.actions s, blocks, List.filterMap_flatten, List.map_map] at recorded
  exact recorded

theorem actions_complete (ok : node.Ok queueCount) (free : node.turns.pendingOf s = []) :
    node.sql.sqlQueues.requests.filterMap (SSQLRequestInfo.action? s) =
      ((node.storedFor s).map StoreWriter.actions).flatten := by
  have blocks : entriesOf s node.turns.begun =
      (node.storedFor s).map StoreWriter.statements := by
    rw [ok.begun, entriesOf, StoreNode.storedFor, List.filter_map, List.map_map]
    rfl
  rw [ok.actions s, ok.turns.complete free, blocks, List.filterMap_flatten, List.map_map]
  rfl

end Tables

/-! ### Runs that can be checked -/

instance : DecidablePred Numbered := fun id =>
  decidable_of_iff ((afterLast ';' id.toList).any (fun suffix => 0 ≤ strtol suffix) = true)
    (by simp [Numbered, Option.any_eq_true])

instance (request : SSQLRequestInfo SqlParam) : Decidable request.Unrelated :=
  decidable_of_iff (request.valid = true ∧ request.locationChange? = none ∧
      request.sessionListChange? = none)
    ⟨fun h => ⟨h.1, h.2.1, h.2.2⟩, fun h => ⟨h.valid, h.location, h.list⟩⟩

instance (node : StoreNode) : DecidablePred node.Regular
  | .start _ => inferInstanceAs (Decidable (_ ∧ _))
  | .goOn _ _ => .isTrue trivial
  | .other request _ => inferInstanceAs (Decidable request.Unrelated)
  | .pass _ answers => inferInstanceAs (Decidable answers.Succeed)

/-- A request of a session at a cell. -/
def requestAt (sessionId : String) (type : CCRequestType) (cell : Option String) : StoreWriter :=
  .request
    { sess := { strSessionId := sessionId }
      req :=
        { iCCRequestType := type
          bLoaded := cell.isSome
          soUserEnvironment := { soUsrLoc := { coCGI := cell.elim .empty .of } } } }
    ⟨126, 0, 1, 12, 0, 0⟩

/-- Two sessions begin side by side; one moves, and the other one ends. -/
def storedOps : List StoreNodeOp :=
  let now : Tm := ⟨126, 0, 1, 12, 0, 0⟩
  let connected : SqlAnswers := { pool := some (true, true) }
  [.start (requestAt "gx;1" .initialRequest (some "A")),
   .start (requestAt "gx;2" .initialRequest (some "B")),
   .goOn 0 now, .goOn 1 now, .goOn 1 now, .goOn 0 now, .goOn 0 now, .goOn 1 now,
   .pass 1 connected, .pass 1 {},
   .start (requestAt "gx;1" .updateRequest (some "C")),
   .start (requestAt "gx;2" .terminationRequest none),
   .goOn 3 now, .goOn 2 now, .goOn 2 now, .goOn 3 now, .goOn 3 now, .goOn 2 now,
   .pass 0 connected, .pass 0 {}, .pass 0 {}, .pass 0 {}, .pass 0 {}, .pass 0 {}, .pass 0 {},
   .pass 0 {}, .pass 1 {}, .pass 1 {}, .pass 1 {}, .pass 1 {}, .pass 1 {}, .pass 1 {}]

theorem storedOps_regular :
    (storeNodeMachine { queues := [{}, {}] }).Meets StoreNode.Regular storedOps := by decide

theorem storedOps_drained :
    ((storeNodeMachine { queues := [{}, {}] }).run storedOps).sql.Drained :=
  show ∀ thread ∈ ((storeNodeMachine { queues := [{}, {}] }).run storedOps).sql.sqlQueues.queues,
    thread.listSQLQueue = [] ∧ thread.outside = true by decide

/-! ### Results -/

section Results

variable {iDBPoolSize : Int32} {start : SqlQueues SqlParam} {ops : List StoreNodeOp}

/-- Whatever the handlers and the threads of the queues have come to, a session has at most one
open location. -/
theorem open_location_unique (init : pcrfSqlQueueInit SqlParam iDBPoolSize = some start)
    (regular : (storeNodeMachine start).Meets StoreNode.Regular ops) (s : String) :
    (openLocations s ((storeNodeMachine start).run ops).tables.sessionLocation).length ≤ 1 := by
  obtain ⟨-, positive, small⟩ := init_ordered init ""
  have ok := run_storeNode_ok init regular
  change (((storeNodeMachine start).run ops).tables.session s).AtMostOne
  obtain ⟨done, before, same⟩ := session_begins ok.sql ok.bySession positive small s
  have blocks : ∀ block ∈ (((storeNodeMachine start).run ops).storedFor s).map
      StoreWriter.actions, ∀ session : StoredSession, session.AtMostOne →
        HoldsAlong StoreAction.act StoredSession.AtMostOne session block := by
    intro block mem session one
    obtain ⟨writer, -, rfl⟩ := List.mem_map.mp mem
    exact actions_atMostOne writer one
  have first : StoredSession.AtMostOne {} := Nat.zero_le 1
  rw [StoreNode.tables, same]
  exact (holdsAlong_flatten blocks first).of_initial (before.trans (actions_begun ok s))

/-- Both sessions are somewhere at most once. -/
theorem open_location_unique_stored :
    (openLocations "gx;1"
      ((storeNodeMachine { queues := [{}, {}] }).run storedOps).tables.sessionLocation).length ≤
        1 :=
  open_location_unique (show pcrfSqlQueueInit SqlParam 8 = some { queues := [{}, {}] } from rfl)
    storedOps_regular "gx;1"

/-- When all is done, the session is what its requests have made of it. -/
theorem session_of_requests (init : pcrfSqlQueueInit SqlParam iDBPoolSize = some start)
    (regular : (storeNodeMachine start).Meets StoreNode.Regular ops) {s : String}
    (free : ((storeNodeMachine start).run ops).turns.pendingOf s = [])
    (drained : ((storeNodeMachine start).run ops).sql.Drained) :
    ((storeNodeMachine start).run ops).tables.session s =
      (((storeNodeMachine start).run ops).storedFor s).foldl
        (fun session writer => writer.after session) {} := by
  obtain ⟨-, positive, small⟩ := init_ordered init ""
  have ok := run_storeNode_ok init regular
  have session := session_drained ok.sql ok.bySession positive small drained s
  rw [actions_complete ok free] at session
  exact session.trans (replay_flatten (fun writer _ session => replay_actions writer session) _)

/-! ### Where the session is -/

/-- Where the session is after this: nowhere, at a location, or where it was. -/
def StoreWriter.whereabouts : StoreWriter → Option (Option LocationColumns)
  | .request data _ =>
    if data.req.iCCRequestType = .terminationRequest then some none
    else if (data.req.iCCRequestType = .initialRequest ∨
        data.req.iCCRequestType = .updateRequest ∨ data.req.iCCRequestType = .eventRequest) ∧
        data.req.bLoaded then
      some (some data.req.environment.columns)
    else none
  | .staled _ => some none

theorem opened_after (writer : StoreWriter) (session : StoredSession) :
    (writer.after session).opened = (writer.whereabouts.map Option.toList).getD session.opened := by
  cases writer with
  | staled s => rfl
  | request data now =>
    simp only [StoreWriter.after, StoreWriter.whereabouts, StoreWriter.arrived]
    by_cases initial : data.req.iCCRequestType = .initialRequest
    · cases loaded : data.req.bLoaded <;> simp [initial]
    · by_cases termination : data.req.iCCRequestType = .terminationRequest
      · simp [termination]
      · by_cases update : data.req.iCCRequestType = .updateRequest ∨
            data.req.iCCRequestType = .eventRequest
        · cases loaded : data.req.bLoaded <;> simp [initial, termination, update]
        · simp [initial, termination, update]

theorem opened_foldl (writers : List StoreWriter) :
    (writers.foldl (fun session (writer : StoreWriter) => writer.after session) {}).opened =
      ((lastWrite StoreWriter.whereabouts writers).getD none).toList := by
  induction writers using List.reverseRecOn with
  | nil => rfl
  | append_singleton writers writer ih =>
    rw [List.foldl_append, List.foldl_cons, List.foldl_nil, opened_after, ih, lastWrite_snoc]
    cases writer.whereabouts <;> rfl

/-- When all is done, the open location is the one that was reported last, unless the session has
ended since. -/
theorem open_location_of_requests (init : pcrfSqlQueueInit SqlParam iDBPoolSize = some start)
    (regular : (storeNodeMachine start).Meets StoreNode.Regular ops) {s : String}
    (free : ((storeNodeMachine start).run ops).turns.pendingOf s = [])
    (drained : ((storeNodeMachine start).run ops).sql.Drained) :
    openLocations s ((storeNodeMachine start).run ops).tables.sessionLocation =
      ((lastWrite StoreWriter.whereabouts
        (((storeNodeMachine start).run ops).storedFor s)).getD none).toList := by
  have session := session_of_requests init regular free drained
  exact (congrArg StoredSession.opened session).trans (opened_foldl _)

/-- The session is where its CCR-U said. -/
theorem open_location_of_stored :
    openLocations "gx;1"
        ((storeNodeMachine { queues := [{}, {}] }).run storedOps).tables.sessionLocation =
      ((lastWrite StoreWriter.whereabouts
        (((storeNodeMachine { queues := [{}, {}] }).run storedOps).storedFor "gx;1")).getD
          none).toList :=
  open_location_of_requests
    (show pcrfSqlQueueInit SqlParam 8 = some { queues := [{}, {}] } from rfl)
    storedOps_regular (by decide) storedOps_drained

/-! ### The rows of the list -/

def StoreWriter.isInitial : StoreWriter → Bool
  | .request data _ => data.req.iCCRequestType = .initialRequest
  | .staled _ => false

/-- What all rows of the session say after this, when it writes them. -/
def StoreWriter.writes : StoreWriter → Option StoredRow
  | .request data _ =>
    if data.req.iCCRequestType = .terminationRequest then some ⟨false, data.sess.coTermCause⟩
    else if data.req.iCCRequestType = .updateRequest ∨
        data.req.iCCRequestType = .eventRequest then
      some ⟨true, data.sess.coTermCause⟩
    else none
  | .staled _ => some ⟨false, .empty⟩

/-- The row that a CCR-I appends. -/
def StoreWriter.appends (writer : StoreWriter) : Option StoredRow :=
  if writer.isInitial then some ⟨true, .empty⟩ else none

theorem rows_after (writer : StoreWriter) (session : StoredSession) :
    (writer.after session).rows =
      pushOrSet StoreWriter.appends StoreWriter.writes session.rows writer := by
  cases writer with
  | staled s => rfl
  | request data now =>
    simp only [StoreWriter.after, pushOrSet, StoreWriter.appends, StoreWriter.writes,
      StoreWriter.isInitial]
    by_cases initial : data.req.iCCRequestType = .initialRequest
    · simp [initial]
    · by_cases termination : data.req.iCCRequestType = .terminationRequest
      · simp [termination]
      · by_cases update : data.req.iCCRequestType = .updateRequest ∨
            data.req.iCCRequestType = .eventRequest
        · simp [initial, termination, update]
        · simp [initial, termination, update]

theorem rows_foldl (writers : List StoreWriter) (session : StoredSession) :
    (writers.foldl (fun session (writer : StoreWriter) => writer.after session) session).rows =
      writers.foldl (pushOrSet StoreWriter.appends StoreWriter.writes) session.rows := by
  induction writers generalizing session with
  | nil => rfl
  | cons writer writers ih => rw [List.foldl_cons, List.foldl_cons, ih, rows_after]

theorem length_appends (writers : List StoreWriter) :
    (writers.filterMap StoreWriter.appends).length = writers.countP StoreWriter.isInitial := by
  induction writers with
  | nil => rfl
  | cons writer writers ih =>
    rw [List.filterMap_cons, List.countP_cons, ← ih, StoreWriter.appends]
    cases writer.isInitial <;> rfl

/-- A CCR-I writes no row that is there already. -/
theorem writes_of_appends {writer : StoreWriter} (h : writer.appends.isSome = true) :
    writer.writes = none := by
  cases writer with
  | staled s => cases h
  | request data now =>
    have initial : data.req.iCCRequestType = .initialRequest := by
      by_contra other
      simp [StoreWriter.appends, StoreWriter.isInitial, other] at h
    simp [StoreWriter.writes, initial, CCRequestType.eventRequest]

/-- When all is done, there is one row for each CCR-I, and it says what was written last after it:
that the session goes on, or that and why it has ended. -/
theorem session_rows_of_requests (init : pcrfSqlQueueInit SqlParam iDBPoolSize = some start)
    (regular : (storeNodeMachine start).Meets StoreNode.Regular ops) {s : String}
    (free : ((storeNodeMachine start).run ops).turns.pendingOf s = [])
    (drained : ((storeNodeMachine start).run ops).sql.Drained) :
    (sessionRows s ((storeNodeMachine start).run ops).tables.sessionList).length =
        (((storeNodeMachine start).run ops).storedFor s).countP StoreWriter.isInitial ∧
      ∀ before writer after,
        ((storeNodeMachine start).run ops).storedFor s = before ++ writer :: after →
        writer.isInitial = true →
        ∃ row, (sessionRows s ((storeNodeMachine start).run ops).tables.sessionList)[
            before.countP StoreWriter.isInitial]? = some row ∧
          row.stored = (lastWrite StoreWriter.writes after).getD ⟨true, .empty⟩ := by
  have session := session_of_requests init regular free drained
  have rows := (congrArg StoredSession.rows session).trans (rows_foldl _ _)
  generalize ((storeNodeMachine start).run ops).storedFor s = writers at rows ⊢
  generalize ((storeNodeMachine start).run ops).tables = tables at rows ⊢
  constructor
  · rw [← length_appends,
      ← length_foldl_pushOrSet StoreWriter.appends StoreWriter.writes, ← rows]
    exact List.length_map _ |>.symm
  · intro before writer after history initial
    have appended : writer.appends = some ⟨true, .empty⟩ := if_pos initial
    have found : (writers.foldl (pushOrSet StoreWriter.appends StoreWriter.writes) [])[
        before.countP StoreWriter.isInitial]? =
          some ((lastWrite StoreWriter.writes after).getD ⟨true, .empty⟩) := by
      rw [history, ← length_appends]
      exact getElem?_foldl_pushOrSet appended fun later _ => writes_of_appends
    rw [← rows] at found
    exact Option.map_eq_some_iff.mp ((List.getElem?_map ..).symm.trans found)

/-- The session that ended has one row. -/
theorem session_rows_of_stored :
    (sessionRows "gx;2"
        ((storeNodeMachine { queues := [{}, {}] }).run storedOps).tables.sessionList).length =
        (((storeNodeMachine { queues := [{}, {}] }).run storedOps).storedFor "gx;2").countP
          StoreWriter.isInitial ∧
      ∀ before writer after,
        ((storeNodeMachine { queues := [{}, {}] }).run storedOps).storedFor "gx;2" =
          before ++ writer :: after →
        writer.isInitial = true →
        ∃ row, (sessionRows "gx;2"
            ((storeNodeMachine { queues := [{}, {}] }).run storedOps).tables.sessionList)[
              before.countP StoreWriter.isInitial]? = some row ∧
          row.stored = (lastWrite StoreWriter.writes after).getD ⟨true, .empty⟩ :=
  session_rows_of_requests
    (show pcrfSqlQueueInit SqlParam 8 = some { queues := [{}, {}] } from rfl)
    storedOps_regular (by decide) storedOps_drained

end Results

end Pcrf
