import Pcrf.CcrNodeRuns

/-!
A node with handlers for many sessions at work: whether a session is cached is what its requests
say, and so are its rows in `ps.sessionList`. The cache and the list agree as long as no request
goes on with a session that the node does not know.
-/

namespace Pcrf

open Lib

/-! ### What the requests say -/

/-- Whether the session is cached after its requests. -/
theorem cached_foldl (env : CcrEnv) (requests : List NodeRequest) (w : SessionStanding) :
    (requests.foldl (NodeRequest.after env) w).cached =
      (lastWrite (NodeRequest.caches env) requests).getD w.cached := by
  induction requests using List.reverseRecOn with
  | nil => rfl
  | append_singleton requests request ih =>
    rw [List.foldl_append, List.foldl_cons, List.foldl_nil, lastWrite_snoc]
    change (request.caches env).getD (requests.foldl (NodeRequest.after env) w).cached = _
    rw [ih]
    cases request.caches env <;> rfl

/-- The request goes on with a session, which it does not begin. -/
def NodeRequest.GoesOn : NodeRequest → Prop
  | .ccr request => request.type = .updateRequest ∨ request.type = .eventRequest
  | .unknownSession _ => False

instance : DecidablePred NodeRequest.GoesOn
  | .ccr request =>
    inferInstanceAs (Decidable (request.type = .updateRequest ∨ request.type = .eventRequest))
  | .unknownSession _ => .isFalse id

/-- No request goes on with a session that is not cached then. -/
def GoOnCached (env : CcrEnv) : Bool → List NodeRequest → Prop
  | _, [] => True
  | cached, request :: requests =>
    (request.GoesOn → cached = true) ∧ GoOnCached env ((request.caches env).getD cached) requests

instance decidableGoOnCached (env : CcrEnv) :
    ∀ cached requests, Decidable (GoOnCached env cached requests)
  | _, [] => .isTrue trivial
  | cached, request :: requests =>
    have := decidableGoOnCached env ((request.caches env).getD cached) requests
    inferInstanceAs (Decidable ((request.GoesOn → cached = true) ∧
      GoOnCached env ((request.caches env).getD cached) requests))

/-- The session is cached just when one of its rows is open. -/
def SessionStanding.Agrees (w : SessionStanding) : Prop :=
  w.cached = true ↔ ∃ row ∈ w.rows, row.isOpen = true

section Requests

variable {env : CcrEnv} {w : SessionStanding} {ccr : Ccr}

/-- A CCR-U or an event of a cached session opens all rows of the session, of which there is one. -/
theorem agrees_of_goesOn (agrees : w.Agrees) (cached : w.cached = true)
    (goesOn : (NodeRequest.ccr ccr).GoesOn) : ((NodeRequest.ccr ccr).after env w).Agrees := by
  have stays : ((NodeRequest.ccr ccr).after env w).cached = true := by
    simp only [NodeRequest.after]
    rcases goesOn with type | type
    · simp only [NodeRequest.caches, type, cached]
      split <;> rfl
    · simp [NodeRequest.caches, type, cached, CCRequestType.eventRequest]
  have written : ((NodeRequest.ccr ccr).after env w).rows =
      w.rows.map fun _ => ⟨true, ccr.data.sess.coTermCause⟩ := by
    rcases goesOn with type | type <;>
      rw [Ccr.type] at type <;>
      simp [NodeRequest.after, pushOrSet, StoreWriter.appends, StoreWriter.writes,
        StoreWriter.isInitial, NodeRequest.writer, type, CCRequestType.eventRequest]
  obtain ⟨row, listed, -⟩ := agrees.mp cached
  refine iff_of_true stays ⟨⟨true, ccr.data.sess.coTermCause⟩, ?_, rfl⟩
  rw [written]
  exact List.mem_map.mpr ⟨row, listed, rfl⟩

theorem after_agrees (agrees : w.Agrees) {request : NodeRequest}
    (cached : request.GoesOn → w.cached = true) : (request.after env w).Agrees := by
  cases request with
  | unknownSession s =>
    simp [SessionStanding.Agrees, NodeRequest.after, NodeRequest.caches, NodeRequest.writer,
      pushOrSet, StoreWriter.appends, StoreWriter.writes, StoreWriter.isInitial]
  | ccr ccr =>
    by_cases goesOn : (NodeRequest.ccr ccr).GoesOn
    · exact agrees_of_goesOn agrees (cached goesOn) goesOn
    · cases type : ccr.data.req.iCCRequestType with
      | initialRequest =>
        simp [SessionStanding.Agrees, NodeRequest.after, NodeRequest.caches, NodeRequest.writer,
          pushOrSet, StoreWriter.appends, StoreWriter.writes, StoreWriter.isInitial, Ccr.type,
          type]
      | updateRequest => exact absurd (.inl type) goesOn
      | terminationRequest =>
        simp [SessionStanding.Agrees, NodeRequest.after, NodeRequest.caches, NodeRequest.writer,
          pushOrSet, StoreWriter.appends, StoreWriter.writes, StoreWriter.isInitial, Ccr.type,
          type]
      | other code =>
        -- neither the cache nor the list is touched
        have event : CCRequestType.other code ≠ .eventRequest :=
          fun same => goesOn (.inr (type.trans same))
        have same : (NodeRequest.ccr ccr).after env w = w := by
          simp [NodeRequest.after, NodeRequest.caches, NodeRequest.writer, pushOrSet,
            StoreWriter.appends, StoreWriter.writes, StoreWriter.isInitial, Ccr.type, type, event]
        rw [same]
        exact agrees

theorem foldl_agrees {requests : List NodeRequest} (agrees : w.Agrees)
    (known : GoOnCached env w.cached requests) :
    (requests.foldl (NodeRequest.after env) w).Agrees := by
  induction requests generalizing w with
  | nil => exact agrees
  | cons request requests ih => exact ih (after_agrees agrees known.1) known.2

end Requests

/-! ### A run that can be checked -/

/-- A request of a session of an UGW, when no worker is free to gather for it. -/
def ccrOf (sessionId : String) (type : CCRequestType) : Ccr :=
  let data : ExtractedData :=
    { sess :=
        { uiPeerDialect := .gxHwUgw, strSessionId := sessionId, coOriginHost := .of "ugw"
          coOriginRealm := .of "net" }
      req := { iCCRequestType := type } }
  { data
    now := ⟨126, 0, 1, 12, 0, 0⟩
    gather := fun _ vectActive =>
      ((busyCall data.msg vectActive).machine.run [.handler, .handler, .handler]).gathered }

theorem ccrOf_gathersByRun (sessionId : String) (type : CCRequestType) :
    (ccrOf sessionId type).GathersByRun loneCcrEnv := by
  intro msg vectActive
  exact ⟨busyCall (ccrOf sessionId type).data.msg vectActive, [.handler, .handler, .handler], 16,
    rfl, rfl, rfl⟩

/-- Two sessions begin side by side, and one of them ends. -/
def twoSessionOps : List (ServingOp NodeRequest Tm NodeOther) :=
  let now : Tm := ⟨126, 0, 1, 12, 0, 0⟩
  let connected : SqlAnswers := { pool := some (true, true) }
  [.start (.ccr (ccrOf "gx;1" .initialRequest)), .start (.ccr (ccrOf "gx;2" .initialRequest)),
   .turn 0 now, .turn 1 now, .turn 1 now, .turn 0 now, .turn 1 now, .turn 0 now,
   .other (.pass 1 connected),
   .start (.ccr (ccrOf "gx;2" .terminationRequest)),
   .turn 2 now, .turn 2 now, .turn 2 now, .turn 2 now, .turn 2 now, .turn 2 now,
   .other (.pass 0 connected), .other (.pass 0 {}), .other (.pass 0 {}), .other (.pass 0 {}),
   .other (.pass 0 {}), .other (.pass 0 {}), .other (.pass 1 {}), .other (.pass 1 {}),
   .other (.pass 1 {}), .other (.pass 1 {})]

/-- The node in which this happens. -/
def twoSessionStart : CcrNodeState := ⟨{}, { sqlQueues := { queues := [{}, {}] } }⟩

theorem twoSessionOps_regular : (loneCcrEnv.service.machine twoSessionStart).Meets
    (loneCcrEnv.service.Regular NodeRequest.Numbered NodeOther.Quiet) twoSessionOps := by
  decide

theorem twoSessionOps_gathers :
    ∀ request, .start request ∈ twoSessionOps → request.GathersByRun loneCcrEnv := by
  intro request mem
  simp only [twoSessionOps, List.mem_cons, ServingOp.start.injEq, reduceCtorEq, false_or,
    List.not_mem_nil, or_false] at mem
  rcases mem with rfl | rfl | rfl <;> exact ccrOf_gathersByRun _ _

theorem twoSessionOps_drained :
    ((loneCcrEnv.service.machine twoSessionStart).run twoSessionOps).state.sql.Drained :=
  show ∀ thread ∈ ((loneCcrEnv.service.machine twoSessionStart).run
      twoSessionOps).state.sql.sqlQueues.queues,
    thread.listSQLQueue = [] ∧ thread.outside = true by decide

/-! ### Results -/

section Results

variable {env : CcrEnv} {ops : List (ServingOp NodeRequest Tm NodeOther)}

/-- Whatever handlers of other sessions are at work: when none of the session is, it is cached as
its requests say. A CCR-I caches it, so does a CCR-U that reports a change of place or of RAT and
is answered; a CCR-T drops it, and so does a peer that does not know it. -/
theorem cached_of_requests (init : CcrNodeState)
    (regular : (env.service.machine init).Meets
      (env.service.Regular NodeRequest.Numbered NodeOther.Quiet) ops)
    (gathers : ∀ request, .start request ∈ ops → request.GathersByRun env) {s : String}
    (free : ((env.service.machine init).run ops).Free s) :
    (((env.service.machine init).run ops).state.caches.sessions.umapSessionCache s).isSome =
      (lastWrite (NodeRequest.caches env)
        (((env.service.machine init).run ops).requestsOf env.service s)).getD
          (init.caches.sessions.umapSessionCache s).isSome := by
  have standing := Service.view_of_free (service_follows env) init
    (Service.regular_and regular gathers) free
  exact (congrArg SessionStanding.cached standing).trans (cached_foldl env _ _)

/-- The session that has ended is not cached. -/
theorem cached_of_twoSessions :
    (((loneCcrEnv.service.machine twoSessionStart).run
        twoSessionOps).state.caches.sessions.umapSessionCache "gx;2").isSome =
      (lastWrite (NodeRequest.caches loneCcrEnv)
        (((loneCcrEnv.service.machine twoSessionStart).run twoSessionOps).requestsOf
          loneCcrEnv.service "gx;2")).getD
          (twoSessionStart.caches.sessions.umapSessionCache "gx;2").isSome :=
  cached_of_requests twoSessionStart twoSessionOps_regular twoSessionOps_gathers (by decide)

/-- When the queues are empty as well, the session is cached just when the list has an open row of
it, unless a request has gone on with it while it was not cached. -/
theorem cached_iff_open {iDBPoolSize : Int32} {start : SqlQueues SqlParam}
    (init : pcrfSqlQueueInit SqlParam iDBPoolSize = some start)
    (regular : (env.service.machine ⟨{}, { sqlQueues := start }⟩).Meets
      (env.service.Regular NodeRequest.Numbered NodeOther.Quiet) ops)
    (gathers : ∀ request, .start request ∈ ops → request.GathersByRun env) {s : String}
    (free : ((env.service.machine ⟨{}, { sqlQueues := start }⟩).run ops).Free s)
    (drained : ((env.service.machine ⟨{}, { sqlQueues := start }⟩).run ops).state.sql.Drained)
    (known : GoOnCached env false
      (((env.service.machine ⟨{}, { sqlQueues := start }⟩).run ops).requestsOf env.service s)) :
    let node := ((env.service.machine ⟨{}, { sqlQueues := start }⟩).run ops).state
    (node.caches.sessions.umapSessionCache s).isSome = true ↔
      ∃ row ∈ sessionRows s (node.sql.table SSQLRequestInfo.onTables {}).sessionList,
        row.timeEnd.isNull = true := by
  intro node
  have meets := Service.regular_and regular gathers
  have standing := Service.view_of_free (service_follows env) _ meets free
  obtain ⟨ok, bySession⟩ := run_ccrNode_ok init {} meets
  obtain ⟨-, positive, small⟩ := init_ordered init ""
  -- the rows that were enqueued are the rows of the table
  have rows : (node.standing s).rows =
      (sessionRows s (node.sql.table SSQLRequestInfo.onTables {}).sessionList).map
        SessionListRow.stored := by
    have session := congrArg StoredSession.rows
      (session_drained ok bySession positive small drained s)
    rw [rows_replay] at session
    exact session.symm
  have first : (CcrNodeState.standing s ⟨{}, { sqlQueues := start }⟩) = {} := by
    simp [CcrNodeState.standing, SqlQueues.requests, calls_init init, replay]
  have agrees : (node.standing s).Agrees := by
    rw [standing, first]
    exact foldl_agrees (by simp [SessionStanding.Agrees]) known
  refine agrees.trans ?_
  rw [rows]
  simp [SessionListRow.stored]

/-- A CCR-U that comes after the end opens the row again, and the session is not cached. -/
example :
    [.ccr (ccrOf "gx;1" .initialRequest), .ccr (ccrOf "gx;1" .terminationRequest),
      .ccr (ccrOf "gx;1" .updateRequest)].foldl (NodeRequest.after loneCcrEnv) {} =
        ⟨false, [⟨true, .empty⟩]⟩ := by decide

/-- The session that goes on is cached, and the list has an open row of it. -/
theorem cached_iff_open_of_twoSessions :
    let node := ((loneCcrEnv.service.machine twoSessionStart).run twoSessionOps).state
    (node.caches.sessions.umapSessionCache "gx;1").isSome = true ↔
      ∃ row ∈ sessionRows "gx;1" (node.sql.table SSQLRequestInfo.onTables {}).sessionList,
        row.timeEnd.isNull = true :=
  cached_iff_open (show pcrfSqlQueueInit SqlParam 8 = some { queues := [{}, {}] } from rfl)
    twoSessionOps_regular twoSessionOps_gathers (by decide) twoSessionOps_drained (by decide)

end Results

end Pcrf
